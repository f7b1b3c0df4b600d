import StreamingPortal.Sessions.Connected

set_option autoImplicit false

/-! # One client at a time -/

namespace StreamingPortal.Sessions

open Tasks

def AtMostOneOpen (st : State) : Prop :=
  ∀ id p q f g, st.frame? p = some f → st.frame? q = some g →
    openFor f = some id → openFor g = some id → p = q

def SomeOpen (st : State) (id : String) : Prop := ∃ q g, st.frame? q = some g ∧ openFor g = some id

/-- While a handler is open for a session, an attempt that finds the session is closed with 3005. -/
def RefusesOthers (st : State) (act : Action) (st' : State) : Prop :=
  ∀ p f a s, st.resumed act = some (p, f, a) → checkedCopy f a = some s →
    SomeOpen st s.row.id →
      st'.frame? p = some (.connect (.rejecting 3005)) ∧
        st'.world.closeCalls =
          st.world.closeCalls ++ [⟨p, 3005, some "Client is connected already."⟩]

/--
While a handler is open for a session, the copy that another one makes its admission
checks on says ACTIVE.
-/
def ChecksAgainstActive (st : State) (act : Action) (_ : State) : Prop :=
  ∀ p f a s, st.resumed act = some (p, f, a) → checkedCopy f a = some s →
    SomeOpen st s.row.id → s.row.status = .active

theorem admit_active {w : World} {p : Nat} {user : User} {s : SessionInstance}
    (active : s.row.status = .active) :
    checkAdmission w p user (some s) = reject w p 3005 "Client is connected already." := by
  simp [checkAdmission, active, terminalStatuses]

theorem active_of_admit (w : World) (p : Nat) (user : User) {s : SessionInstance}
    (refused : (checkAdmission w p user (some s)).2 = .connect (.rejecting 3005)) :
    s.row.status = .active := by
  simp only [checkAdmission] at refused
  split at refused
  · simp [reject] at refused
  · split at refused
    next active => exact active
    next =>
      split at refused
      · simp [reject] at refused
      · cases refused

theorem openFor_admitted {cfg : Config} {w w' : World} {p : Nat} {f f' : Frame} {a : Answer}
    {id : String} (h : resumeFrame cfg w p f a = some (w', f')) (opened : openFor f' = some id) :
    openFor f = some id ∨
      ∃ s, checkedCopy f a = some s ∧ Admissible s ∧ s.row.id = id := by
  cases resumeFrame_registration h with
  | kept _ same _ =>
      rcases same with same | closed
      · exact Or.inl (same ▸ opened)
      · simp [closed] at opened
  | admitted s checked admissible here =>
      exact Or.inr ⟨s, checked, admissible, Option.some.inj (here.symm.trans opened)⟩
  | removed _ _ gone | abandoned _ _ _ _ gone =>
      simp [registeredFor_of_openFor opened] at gone

theorem refusesOthers_iff {cfg : Config} {st st' : State} {act : Action}
    (taken : step cfg st act = some st') :
    RefusesOthers st act st' ↔ ChecksAgainstActive st act st' := by
  refine forall₄_congr fun p f a s => ?_
  refine imp_congr_right fun resumed => imp_congr_right fun checked => imp_congr_right fun _ => ?_
  obtain ⟨user, id, cookie, rfl, rfl⟩ := checkedCopy_eq_some checked
  cases step_moves taken with
  | started _ still | waiting still => simp [still] at resumed
  | moved p' f' next a' resumed' store effect before after =>
      obtain ⟨rfl, rfl, rfl⟩ :
          p' = p ∧ f' = .connect (.loading user id cookie) ∧ a' = .session (some s) := by
        simpa [resumed'] using resumed
      have admitted : checkAdmission st.world p' user (some s) = (st'.world, next) :=
        Option.some.inj effect
      constructor
      · rintro ⟨refused, -⟩
        obtain rfl := Option.some.inj (after.symm.trans refused)
        exact active_of_admit st.world p' user (congrArg Prod.snd admitted)
      · -- 3005 is the answer to a copy that says ACTIVE, and to no other.
        intro active
        rw [admit_active active] at admitted
        obtain ⟨world, rfl⟩ := Prod.mk.inj admitted
        exact ⟨after, by simp [← world, World.closeWebsocket]⟩

theorem atMostOneOpen_step {cfg : Config} {st st' : State} {act : Action}
    (one : AtMostOneOpen st) (checks : ChecksAgainstActive st act st')
    (taken : step cfg st act = some st') : AtMostOneOpen st' := by
  cases step_moves taken with
  | waiting still world frames =>
      intro id p q f g
      rw [frames p, frames q]
      exact one id p q f g
  | started r still world absent first others =>
      have old (p : Nat) (f : Frame) (id : String) (is : st'.frame? p = some f)
          (opened : openFor f = some id) : st.frame? p = some f := by
        by_cases new : p = st.tasks.length
        · subst new
          obtain rfl := Option.some.inj (first.symm.trans is)
          have unregistered := (startRequest_first cfg st.world r).registeredFor
          simp [backend] at opened
          simp [registeredFor_of_openFor opened] at unregistered
        · rwa [others p new] at is
      intro id p q f g isF isG openF openG
      exact one id p q f g (old p f id isF openF) (old q g id isG openG) openF openG
  | moved p₀ f₀ f₁ a resumed store effect before after others =>
      -- The task that moves either was open already or is admitted, when nobody is open.
      have acting (id : String) (q : Nat) (g : Frame) (opened : openFor f₁ = some id)
          (isG : st.frame? q = some g) (openG : openFor g = some id) : p₀ = q := by
        rcases openFor_admitted effect opened with was | ⟨s, checked, admissible, rfl⟩
        · exact one id p₀ q f₀ g before isG was openG
        · exact absurd (checks p₀ f₀ a s resumed checked ⟨q, g, isG, openG⟩) admissible.2.1
      intro id p q f g isF isG openF openG
      by_cases own : p = p₀
      · subst own
        obtain rfl := Option.some.inj (after.symm.trans isF)
        by_cases same : q = p
        · exact same.symm
        · exact acting id q g openF ((others q same).symm.trans isG) openG
      · have isF' := (others p own).symm.trans isF
        by_cases same : q = p₀
        · subst same
          obtain rfl := Option.some.inj (after.symm.trans isG)
          exact (acting id p f openG isF' openF).symm
        · exact one id p q f g isF' ((others q same).symm.trans isG) openF openG

/-- At most one handler is open for a session in every state, and other attempts are refused. -/
def OneClientAtATime (cfg : Config) (st : State) (acts : List Action) : Prop :=
  (∀ pre post t, acts = pre ++ post → run cfg st pre = some t → AtMostOneOpen t) ∧
    Along cfg RefusesOthers st acts

theorem atMostOneOpen_init (sessions : SessionTable) (apps : AppTable) (now : Int) :
    AtMostOneOpen (init sessions apps now) := by
  intro id p q f g is
  simp [init, State.frame?] at is

/--
Along any run of a fresh process, at most one client is connected to a session and
all others are refused exactly when the handlers that check a session while another
is open for it have read it as ACTIVE.
-/
theorem oneClientAtATime_iff (cfg : Config) (sessions : SessionTable) (apps : AppTable)
    (now : Int) (acts : List Action) :
    OneClientAtATime cfg (init sessions apps now) acts ↔
      Along cfg ChecksAgainstActive (init sessions apps now) acts := by
  have start := atMostOneOpen_init sessions apps now
  unfold OneClientAtATime
  rw [← Runs.along_iff_reached AtMostOneOpen start, ← Runs.along_and]
  refine Runs.along_iff AtMostOneOpen ?_ ?_ start
  · intro s act t one checks taken
    exact atMostOneOpen_step one checks taken
  · intro s act t one taken
    rw [refusesOthers_iff taken]
    exact and_iff_right_of_imp fun checks => atMostOneOpen_step one checks taken

def connectedTwice : List Action :=
  -- A second client connects while the upstream connection of the first is being opened.
  Sample.accepted 0 ++ [.execute 0, .resume 0, .execute 0, .resume 0] ++
    Sample.accepted 1 ++ [.execute 1, .resume 1]

theorem oneClientAtATime_fails :
    ¬ OneClientAtATime (Sample.config 1) (Sample.start none 0) connectedTwice := by
  intro one
  have here := one.1 _ [] _ (List.append_nil _).symm rfl
  exact absurd (here "session" 0 1 _ _ rfl rfl rfl rfl) (by decide)

end StreamingPortal.Sessions
