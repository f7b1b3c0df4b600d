import StreamingPortal.Sessions.Connected

set_option autoImplicit false

/-! # The registry of websockets -/

namespace StreamingPortal.Sessions

open Tasks

/-- The entry of a session is the handler that has registered for it and not yet removed itself. -/
def RegistryExact (st : State) : Prop :=
  ∀ id p, st.world.sessionWebsockets id = some p ↔
    ∃ f, st.frame? p = some f ∧ registeredFor f = some id

/--
An `end_session` whose DELETE has returned 200 closes the websocket of every handler
that is registered for the session.
-/
def ClosesRegistered (st : State) (act : Action) (st' : State) : Prop :=
  ∀ q e r, st.resumed act = some (q, .ending (.deleting e), .nvcf r) → r.statusCode = 200 →
    ∀ p f, st.frame? p = some f → registeredFor f = some e.session.row.id →
      ⟨p, 3010, some e.reason⟩ ∈ st'.world.closeCalls

/--
A handler passes its admission checks only when no other is registered for the
session, and no save in a `finally` block raises.
-/
def RegistersAlone (st : State) (act : Action) (_ : State) : Prop :=
  ∀ p f a, st.resumed act = some (p, f, a) →
    (∀ s, checkedCopy f a = some s → Admissible s →
      ∀ q g, st.frame? q = some g → registeredFor g ≠ some s.row.id) ∧
    ¬ (a = .raised ∧ (registeredFor f).isSome = true ∧ openFor f = none)

theorem registryExact_init (sessions : SessionTable) (apps : AppTable) (now : Int) :
    RegistryExact (init sessions apps now) := by
  intro id p
  simp [init, State.frame?]

theorem RegistryExact.of_same {st st' : State} (exact_ : RegistryExact st)
    (registry : st'.world.sessionWebsockets = st.world.sessionWebsockets)
    (frames : ∀ q, (st'.frame? q).bind registeredFor = (st.frame? q).bind registeredFor) :
    RegistryExact st' := by
  intro id p
  rw [registry, exact_ id p]
  have same := frames p
  constructor
  · rintro ⟨f, was, registered⟩
    rw [was, Option.bind_some, registered] at same
    exact Option.bind_eq_some_iff.mp same
  · rintro ⟨f, is, registered⟩
    rw [is, Option.bind_some, registered] at same
    exact Option.bind_eq_some_iff.mp same.symm

theorem registryExact_admitted {st st' : State} {p : Nat} {f' : Frame} {id : String}
    (exact_ : RegistryExact st)
    (alone : ∀ q g, st.frame? q = some g → registeredFor g ≠ some id)
    (unregistered : (st.frame? p).bind registeredFor = none)
    (registry : st'.world.sessionWebsockets =
      Function.update st.world.sessionWebsockets id (some p))
    (after : st'.frame? p = some f') (registered : registeredFor f' = some id)
    (others : ∀ q, q ≠ p → st'.frame? q = st.frame? q) : RegistryExact st' := by
  intro j q
  rw [registry]
  by_cases own : q = p
  · subst own
    rw [after]
    by_cases here : j = id
    · subst here
      simp [registered]
    · have elsewhere : st.world.sessionWebsockets j ≠ some q := by
        rw [ne_eq, exact_ j q]
        rintro ⟨f, was, other⟩
        simp [was, other] at unregistered
      simp [Function.update_of_ne here, elsewhere, registered, Ne.symm here]
  · rw [others q own]
    by_cases here : j = id
    · -- The new entry replaces nobody's: `alone`.
      subst here
      rw [Function.update_self]
      constructor
      · intro same
        exact absurd (Option.some.inj same).symm own
      · rintro ⟨g, other, held⟩
        exact absurd held (alone q g other)
    · rw [Function.update_of_ne here]
      exact exact_ j q

theorem registryExact_removed {st st' : State} {p : Nat} {f f' : Frame} {id : String}
    (exact_ : RegistryExact st) (before : st.frame? p = some f)
    (registered : registeredFor f = some id)
    (registry : st'.world.sessionWebsockets = Function.update st.world.sessionWebsockets id none)
    (after : st'.frame? p = some f') (gone : registeredFor f' = none)
    (others : ∀ q, q ≠ p → st'.frame? q = st.frame? q) : RegistryExact st' := by
  have mine : st.world.sessionWebsockets id = some p := (exact_ id p).mpr ⟨f, before, registered⟩
  intro j q
  rw [registry]
  by_cases own : q = p
  · subst own
    rw [after]
    by_cases here : j = id
    · subst here
      simp [gone]
    · have elsewhere : st.world.sessionWebsockets j ≠ some q := by
        rw [ne_eq, exact_ j q, before]
        simpa [registered] using Ne.symm here
      simp [Function.update_of_ne here, elsewhere, gone]
  · rw [others q own]
    by_cases here : j = id
    · -- The removed entry was the task's own, so nobody else was registered.
      subst here
      have other : st.world.sessionWebsockets j ≠ some q := by
        rw [mine]
        exact fun same => own (Option.some.inj same).symm
      rw [ne_eq, exact_ j q] at other
      simpa using other
    · rw [Function.update_of_ne here]
      exact exact_ j q

theorem registryExact_moved {cfg : Config} {st st' : State} {act : Action} {p : Nat}
    {f f' : Frame} {a : Answer} (exact_ : RegistryExact st)
    (resumed : st.resumed act = some (p, f, a))
    (effect : resumeFrame cfg st.world p f a = some (st'.world, f'))
    (before : st.frame? p = some f) (after : st'.frame? p = some f')
    (others : ∀ q, q ≠ p → st'.frame? q = st.frame? q) :
    RegistryExact st' ↔ RegistersAlone st act st' := by
  constructor
  · intro exact' p₀ f₀ a₀ resumed'
    obtain ⟨rfl, rfl, rfl⟩ : p = p₀ ∧ f = f₀ ∧ a = a₀ := by
      simpa [resumed] using resumed'
    refine ⟨?_, ?_⟩
    · -- Two handlers registered for one session cannot both be the entry.
      intro s checked admissible q g other registered
      obtain ⟨opened, registry⟩ := admissible_registers checked admissible effect
      have apart : q ≠ p := by
        rintro rfl
        obtain rfl := Option.some.inj (before.symm.trans other)
        simp [checkedCopy_registeredFor checked] at registered
      have mine : st'.world.sessionWebsockets s.row.id = some q :=
        (exact' s.row.id q).mpr ⟨g, (others q apart).trans other, registered⟩
      rw [registry, Function.update_self] at mine
      exact apart (Option.some.inj mine).symm
    · -- A handler whose last save raises leaves its entry behind.
      rintro ⟨rfl, registered, closed⟩
      obtain ⟨id, registered⟩ := Option.isSome_iff_exists.mp registered
      obtain ⟨gone, registry⟩ := closing_raised registered closed effect
      have entry := (exact_ id p).mpr ⟨f, before, registered⟩
      rw [← registry, exact' id p, after] at entry
      simp [gone] at entry
  · intro alone
    obtain ⟨unregistered, completes⟩ := alone p f a resumed
    cases resumeFrame_registration effect with
    | kept registered _ registry =>
        refine exact_.of_same registry fun q => ?_
        by_cases same : q = p
        · subst same
          simp [before, after, registered]
        · rw [others q same]
    | abandoned id registered closed raised =>
        exact absurd ⟨raised, by simp [registered], closed⟩ completes
    | admitted s checked admissible opened registry =>
        exact registryExact_admitted exact_ (unregistered s checked admissible)
          (by simp [before, checkedCopy_registeredFor checked]) registry after
          (registeredFor_of_openFor opened) others
    | removed id registered gone registry =>
        exact registryExact_removed exact_ before registered registry after gone others

theorem registryExact_step_iff {cfg : Config} {st st' : State} {act : Action}
    (exact_ : RegistryExact st) (taken : step cfg st act = some st') :
    RegistryExact st' ↔ RegistersAlone st act st' := by
  have keeps (still : st.resumed act = none)
      (registry : st'.world.sessionWebsockets = st.world.sessionWebsockets)
      (frames : ∀ q, (st'.frame? q).bind registeredFor = (st.frame? q).bind registeredFor) :
      RegistryExact st' ↔ RegistersAlone st act st' := by
    refine ⟨fun _ p f a resumed => ?_, fun _ => exact_.of_same registry frames⟩
    simp [still] at resumed
  cases step_moves taken with
  | started r still world absent first others =>
      refine keeps still (by rw [world]) fun q => ?_
      by_cases new : q = st.tasks.length
      · subst new
        simp [first, absent, backend, (startRequest_first cfg st.world r).registeredFor]
      · rw [others q new]
  | waiting still world frames =>
      refine keeps still ?_ fun q => by rw [frames q]
      rcases world with same | ⟨time, same⟩ <;> rw [same]
      rfl
  | moved p f f' a resumed store effect before after others =>
      exact registryExact_moved exact_ resumed effect before after others

theorem closesRegistered_of_exact {cfg : Config} {st st' : State} {act : Action}
    (exact_ : RegistryExact st) (taken : step cfg st act = some st') :
    ClosesRegistered st act st' := by
  intro q e r resumed deleted p f other registered
  have entry := (exact_ e.session.row.id p).mpr ⟨f, other, registered⟩
  cases step_moves taken with
  | started _ still | waiting still => simp [still] at resumed
  | moved p' f' next a resumed' store effect =>
      obtain ⟨rfl, rfl, rfl⟩ : p' = q ∧ f' = .ending (.deleting e) ∧ a = .nvcf r := by
        simpa [resumed'] using resumed
      simp only [backend, resumeFrame, endResume, deleted, if_true, entry] at effect
      obtain ⟨closed, -⟩ := Prod.mk.inj (Option.some.inj effect)
      simp [← closed, World.closeWebsocket]

/-- In every state of the run the registry is exact, and every `end_session` relies on it. -/
def RegistryNamesLive (cfg : Config) (st : State) (acts : List Action) : Prop :=
  (∀ pre post t, acts = pre ++ post → run cfg st pre = some t → RegistryExact t) ∧
    Along cfg ClosesRegistered st acts

/--
Along any run of a fresh process, the registry names the live websockets exactly when
handlers pass their admission checks one at a time and the saves of their cleanups
succeed.
-/
theorem registryNamesLive_iff (cfg : Config) (sessions : SessionTable) (apps : AppTable)
    (now : Int) (acts : List Action) :
    RegistryNamesLive cfg (init sessions apps now) acts ↔
      Along cfg RegistersAlone (init sessions apps now) acts := by
  have start := registryExact_init sessions apps now
  unfold RegistryNamesLive
  rw [← Runs.along_iff_reached RegistryExact start, ← Runs.along_and]
  refine Runs.along_iff RegistryExact ?_ ?_ start
  · intro s act t exact_ alone taken
    exact (registryExact_step_iff exact_ taken).mpr alone
  · intro s act t exact_ taken
    rw [registryExact_step_iff exact_ taken]
    exact and_iff_left (closesRegistered_of_exact exact_ taken)

/--
The client of handler 0 has gone and IDLE has been saved. A second client connects
before handler 0 resumes from that save, and handler 0 then removes its entry.
-/
def reconnectedDuringCleanup : List Action :=
  Sample.accepted 0 ++ [.execute 0, .resume 0, .execute 0, .resume 0, .answer 0 .connected,
    .execute 0, .resume 0, .answer 0 (.relayEnded .consumer (.disconnect 1001 none)),
    .answer 0 .relayWoken, .answer 0 .done, .execute 0] ++
    Sample.accepted 1 ++ [.execute 1, .resume 1]

theorem registryNamesLive_fails :
    ¬ RegistryNamesLive (Sample.config 1) (Sample.start none 0)
      (reconnectedDuringCleanup ++ [.resume 0]) := by
  intro live
  have here := live.1 _ [] _ (List.append_nil _).symm rfl
  have entry := (here "session" 1).mpr ⟨_, rfl, rfl⟩
  exact absurd entry (by decide)

end StreamingPortal.Sessions
