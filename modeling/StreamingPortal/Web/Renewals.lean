import StreamingPortal.Web.StorageSteps

set_option autoImplicit false

/-!
# Silent renewals and the navigator locks

Who holds a lock, what an acquisition ends with, and the renewals that go past the locks.
-/

namespace StreamingPortal.Web.StorageAuth

open StreamingPortal.Promises

-- The task is in a silent renewal for the portal or for a discovery URL.
def SilentRenewal (s : State) (p : Nat) (discovery : Option String) : Prop :=
  s.tasks[p]? = some (.library discovery) ∨
    ∃ call, s.tasks[p]? = some (.renewing call .silent) ∧ call.discovery = discovery

-- What the callbacks of the acquisition have come to so far.
def Stage.outcome : Stage → Outcome
  | .cooling => ⟨1, 0⟩
  | .failing => ⟨0, 1⟩
  | .recovering again => ⟨0, if again then 2 else 1⟩
  | .requested | .silent | .succeeding => ⟨0, 0⟩

/-- Silent renewals hold their locks, and an acquisition has one outcome. -/
structure Exclusive (s : State) : Prop where
  held : ∀ (p : Nat) (discovery : Option String), SilentRenewal s p discovery →
    s.world.locks (lockName discovery) = some p
  alone : ∀ (p q : Nat) (discovery : Option String), SilentRenewal s p discovery →
    SilentRenewal s q discovery → p = q
  once : ∀ (p : Nat) (call : Call) (stage : Stage), s.tasks[p]? = some (.renewing call stage) →
    stage.outcome.successes + stage.outcome.failures ≤ 1
  ended : ∀ outcome ∈ s.world.outcomes, outcome.successes + outcome.failures = 1

/-- A token expires only at a manager that does not renew by itself, and the `onFailure` that is
called for want of a user does not reject. -/
structure Guarded (s : State) (act : Action) : Prop where
  expiry : ∀ (index : Nat) (manager : UserManager), act = .event (.accessTokenExpiring index) →
    s.world.managers[index]? = some manager → manager.renewsByItself = false
  fallback : ∀ (p : Nat) (call : Call) (error : String), act = .answer p (.failed error) →
    s.tasks[p]? ≠ some (.renewing call .failing)

/-! ## The locks -/

-- The call whose lock the task holds.
def Frame.holds : Frame → Option Call
  | .renewing _ .requested => none
  | .renewing call _ => some call
  | _ => none

/-- Exactly the tasks that got their locks hold them. -/
structure Locked (s : State) : Prop where
  holder : ∀ (p : Nat) (frame : Frame) (call : Call), s.tasks[p]? = some frame →
    frame.holds = some call → s.world.locks (lockName call.discovery) = some p
  held : ∀ (name : String) (p : Nat), s.world.locks name = some p → ∃ frame call,
    s.tasks[p]? = some frame ∧ frame.holds = some call ∧ lockName call.discovery = name

theorem locked_start (now : Int) (stored : List String) : Locked (start now stored) := by
  constructor
  next =>
    intro p frame call task
    cases task
  next =>
    intro name p held
    cases held

theorem SilentRenewal.task {s : State} {p : Nat} {discovery : Option String}
    (silent : SilentRenewal s p discovery) : ∃ frame, s.tasks[p]? = some frame := by
  cases silent with
  | inl task => exact ⟨_, task⟩
  | inr task =>
      obtain ⟨_, task, _⟩ := task
      exact ⟨_, task⟩

theorem exclusive_start (now : Int) (stored : List String) : Exclusive (start now stored) := by
  have idle : ∀ p discovery, ¬ SilentRenewal (start now stored) p discovery := by
    intro p discovery silent
    obtain ⟨frame, task⟩ := silent.task
    cases task
  constructor
  next => exact fun p discovery silent => absurd silent (idle p discovery)
  next => exact fun p _ discovery silent => absurd silent (idle p discovery)
  next =>
    intro p call stage task
    cases task
  next =>
    intro outcome member
    contradiction

theorem refreshes_hold_nothing {started : List Frame} (refreshes : Refreshes started) :
    ∀ frame ∈ started, frame.holds = none := by
  intro frame member
  obtain ⟨_, _, _, rfl⟩ := refreshes frame member
  rfl

theorem opens_hold_nothing {w : World} {e : Event} {frame : Frame} (opens : Opens w e frame) :
    frame.holds = none := by
  cases opens <;> rfl

-- A task that renews nothing.
def Frame.plain : Frame → Bool
  | .renewing _ _ | .library _ => false
  | _ => true

theorem plain_holds_nothing {frame : Frame} (plain : frame.plain = true) : frame.holds = none := by
  cases frame with
  | renewing call stage => cases plain
  | _ => rfl

theorem plain_no_library {frame : Frame} (plain : frame.plain = true)
    (discovery : Option String) : frame ≠ .library discovery := by
  intro same
  subst same
  cases plain

theorem plain_no_renewal {frame : Frame} (plain : frame.plain = true) (call : Call)
    (stage : Stage) : frame ≠ .renewing call stage := by
  intro same
  subst same
  cases plain

theorem finish_plain (w : World) (call : Call) (error : Option String) :
    (finish w call error).2.plain = true := by
  unfold finish
  split <;> rfl

theorem finish_holds_nothing (w : World) (call : Call) (error : Option String) :
    (finish w call error).2.holds = none := plain_holds_nothing (finish_plain w call error)

section Answer

variable {s : State} {p : Nat} {frame next : Frame} {w' : World} {started : List Frame}

-- The task goes on with the lock that it has, or without one.
theorem Locked.keep (locked : Locked s) (task : s.tasks[p]? = some frame)
    (quiet : ∀ frame ∈ started, frame.holds = none) (same : next.holds = frame.holds)
    (locks : w'.locks = s.world.locks) : Locked ⟨w', s.tasks.set p next ++ started⟩ := by
  constructor
  next =>
    intro q other call found holds
    rw [locks]
    cases resumed_cases found with
    | inl here =>
        obtain ⟨rfl, rfl⟩ := here
        exact locked.holder q frame call task (same ▸ holds)
    | inr rest =>
        cases rest with
        | inl old => exact locked.holder q other call old.2 holds
        | inr new =>
            rw [quiet other new.2] at holds
            contradiction
  next =>
    intro name q held
    rw [locks] at held
    obtain ⟨other, call, found, holds, own⟩ := locked.held name q held
    by_cases here : q = p
    next =>
      subst here
      rw [task] at found
      cases found
      exact ⟨next, call, resumed_self task, same ▸ holds, own⟩
    next => exact ⟨other, call, resumed_other here found, holds, own⟩

theorem Locked.acquire (locked : Locked s) (task : s.tasks[p]? = some frame) {call : Call}
    (before : frame.holds = none) (after : next.holds = some call)
    (free : s.world.locks (lockName call.discovery) = none)
    (locks : w'.locks = Function.update s.world.locks (lockName call.discovery) (some p)) :
    Locked ⟨w', s.tasks.set p next⟩ := by
  have tasks : s.tasks.set p next = s.tasks.set p next ++ [] := (List.append_nil _).symm
  rw [tasks]
  constructor
  next =>
    intro q other call' found holds
    rw [locks, Function.update_apply]
    cases resumed_cases found with
    | inl here =>
        obtain ⟨rfl, rfl⟩ := here
        rw [after] at holds
        cases holds
        simp
    | inr rest =>
        cases rest with
        | inr new => exact absurd new.2 List.not_mem_nil
        | inl old =>
            have held := locked.holder q other call' old.2 holds
            split
            next same =>
              rw [same, free] at held
              contradiction
            next => exact held
  next =>
    intro name q held
    rw [locks, Function.update_apply] at held
    split at held
    next same =>
      cases held
      exact ⟨next, call, resumed_self task, after, same.symm⟩
    next =>
      obtain ⟨other, call', found, holds, own⟩ := locked.held name q held
      have moved : q ≠ p := by
        intro here
        subst here
        rw [task] at found
        cases found
        rw [before] at holds
        contradiction
      exact ⟨other, call', resumed_other moved found, holds, own⟩

theorem Locked.release (locked : Locked s) (task : s.tasks[p]? = some frame) {call : Call}
    (quiet : ∀ frame ∈ started, frame.holds = none)
    (before : frame.holds = some call) (after : next.holds = none)
    (locks : w'.locks = Function.update s.world.locks (lockName call.discovery) none) :
    Locked ⟨w', s.tasks.set p next ++ started⟩ := by
  have own := locked.holder p frame call task before
  constructor
  next =>
    intro q other call' found holds
    rw [locks, Function.update_apply]
    cases resumed_cases found with
    | inl here =>
        obtain ⟨rfl, rfl⟩ := here
        rw [after] at holds
        contradiction
    | inr rest =>
        cases rest with
        | inr new =>
            rw [quiet other new.2] at holds
            contradiction
        | inl old =>
            have held := locked.holder q other call' old.2 holds
            split
            next same =>
              rw [same, own] at held
              cases held
              exact absurd rfl old.1
            next => exact held
  next =>
    intro name q held
    rw [locks, Function.update_apply] at held
    split at held
    next => contradiction
    next different =>
      obtain ⟨other, call', found, holds, same⟩ := locked.held name q held
      have moved : q ≠ p := by
        intro here
        subst here
        rw [task] at found
        cases found
        rw [before] at holds
        cases holds
        exact different same.symm
      exact ⟨other, call', resumed_other moved found, holds, same⟩

end Answer

theorem conclude_locks (w : World) (call : Call) (outcome : Outcome) (error : Option String)
    (started : List Frame) : (conclude w call outcome error started).1.locks =
      Function.update w.locks (lockName call.discovery) none :=
  (extends_finish (release w call outcome) call error).locks

theorem conclude_outcomes (w : World) (call : Call) (outcome : Outcome) (error : Option String)
    (started : List Frame) : (conclude w call outcome error started).1.outcomes =
      w.outcomes ++ [outcome] :=
  (extends_finish (release w call outcome) call error).outcomes

theorem conclude_holds_nothing (w : World) (call : Call) (outcome : Outcome)
    (error : Option String) (started : List Frame) :
    (conclude w call outcome error started).2.1.holds = none :=
  finish_holds_nothing (release w call outcome) call error

theorem Locked.renewal {s : State} (locked : Locked s) {p : Nat} {call : Call} {stage : Stage}
    (task : s.tasks[p]? = some (.renewing call stage)) {a : Answer} {w' : World} {next : Frame}
    {started : List Frame} (renews : Renews s.world p call stage a w' next started) :
    Locked ⟨w', s.tasks.set p next ++ started⟩ := by
  have none_started := refreshes_hold_nothing refreshes_nil
  cases renews with
  | granted free =>
      rw [List.append_nil]
      exact locked.acquire task rfl rfl free rfl
  | refused taken =>
      exact locked.keep task none_started (finish_holds_nothing _ _ _) (extends_finish _ _ _).locks
  | unlocked error =>
      exact locked.keep task none_started (finish_holds_nothing _ _ _) (extends_finish _ _ _).locks
  | renewed user =>
      exact locked.keep task (refreshes_hold_nothing (refreshes_renewed _ _ _)) rfl
        (extends_renewed _ _ _).locks
  | absent => exact locked.keep task none_started rfl rfl
  | raised stage error tried =>
      cases tried with
      | inl silent =>
          subst silent
          exact locked.keep task none_started rfl rfl
      | inr succeeding =>
          subst succeeding
          exact locked.keep task none_started rfl rfl
  | succeeded => exact locked.keep task none_started rfl rfl
  | cooled =>
      exact locked.release task none_started rfl (conclude_holds_nothing _ _ _ _ _)
        (conclude_locks _ _ _ _ _)
  | fell a w' started ended =>
      apply locked.release task (refreshes_hold_nothing (refreshes_onFailure ended)) rfl
        (conclude_holds_nothing _ _ _ _ _)
      rw [conclude_locks, (extends_onFailure ended).locks]
  | fellAgain a w' started error ended =>
      exact locked.keep task (refreshes_hold_nothing (refreshes_onFailure ended)) rfl
        (extends_onFailure ended).locks
  | recovered again a w' started error ended =>
      apply locked.release task (refreshes_hold_nothing (refreshes_onFailure ended)) rfl
        (conclude_holds_nothing _ _ _ _ _)
      rw [conclude_locks, (extends_onFailure ended).locks]

theorem aside_holds_nothing {frame : Frame} (aside : frame.aside = true) : frame.holds = none := by
  cases frame with
  | renewing call stage => cases aside
  | _ => rfl

/-- A function that holds no lock, and is not waiting for one, leaves the locks alone. -/
structure Idles (w w' : World) (frame next : Frame) (started : List Frame) : Prop where
  before : frame.holds = none
  after : next.plain = true
  locks : w'.locks = w.locks
  outcomes : w'.outcomes = w.outcomes
  refreshes : Refreshes started

theorem resumes_idles {w w' : World} {p : Nat} {frame next : Frame} {a : Answer}
    {started : List Frame} (resumes : Resumes w p frame a w' next started) :
    Idles w w' frame next started ∨
      ∃ call stage, frame = .renewing call stage ∧ Renews w p call stage a w' next started := by
  cases resumes with
  | asked request => exact Or.inl ⟨rfl, rfl, rfl, rfl, refreshes_nil⟩
  | signedIn request userManager user =>
      have same := extends_activated w request user userManager
      refine Or.inl ⟨rfl, rfl, ?_, ?_, refreshes_signIn w p request user userManager⟩
      next => rw [signIn_world, postMessage_locks, same.locks]
      next => rw [signIn_world, postMessage_outcomes, same.outcomes]
  | rejected request frame error waits =>
      have before : frame.holds = none := signingIn_elim waits rfl fun _ => rfl
      exact Or.inl ⟨before, rfl, rfl, rfl, refreshes_nil⟩
  | answered request a => exact Or.inl ⟨rfl, rfl, rfl, rfl, refreshes_nil⟩
  | heard page discovery source =>
      refine Or.inl ⟨rfl, rfl, ?_, ?_, refreshes_nil⟩
      next => split <;> simp
      next => split <;> simp
  | unheard page discovery source error => exact Or.inl ⟨rfl, rfl, rfl, rfl, refreshes_nil⟩
  | renewal call stage a w' next started effect =>
      exact Or.inr ⟨call, stage, rfl, renewal_cases effect⟩
  | aside frame a w' next started before after quiet others =>
      have plain : next.plain = true := aside_elim after rfl fun _ _ _ => rfl
      exact Or.inl ⟨aside_holds_nothing before, plain, quiet.locks, quiet.outcomes, others⟩

theorem Locked.started {s : State} (locked : Locked s) {w' : World} {started : List Frame}
    (quiet : ∀ frame ∈ started, frame.holds = none) (locks : w'.locks = s.world.locks) :
    Locked ⟨w', s.tasks ++ started⟩ := by
  constructor
  next =>
    intro q frame call found holds
    rw [locks]
    cases started_cases found with
    | inl old => exact locked.holder q frame call old holds
    | inr new =>
        rw [quiet frame new.2] at holds
        contradiction
  next =>
    intro name q held
    rw [locks] at held
    obtain ⟨frame, call, found, holds, own⟩ := locked.held name q held
    exact ⟨frame, call, started_old found, holds, own⟩

theorem Locked.step {s t : State} {act : Action} (locked : Locked s)
    (taken : StorageAuth.step s act = some t) : Locked t := by
  cases step_cases taken with
  | answer p a frame next world started task effect =>
      cases resumes_idles (resume_cases effect) with
      | inl idles =>
          exact locked.keep task (refreshes_hold_nothing idles.refreshes)
            ((plain_holds_nothing idles.after).trans idles.before.symm) idles.locks
      | inr renewal =>
          obtain ⟨call, stage, rfl, renews⟩ := renewal
          exact locked.renewal task renews
  | event e world started effect =>
      apply locked.started ?_ (event_still effect).locks
      intro frame member
      exact opens_hold_nothing (event_opens effect frame member)

/-! ## Renewals past the locks -/

theorem Exclusive.no_library {s : State} (exclusive : Exclusive s) (locked : Locked s) (p : Nat)
    (discovery : Option String) : s.tasks[p]? ≠ some (.library discovery) := by
  intro task
  obtain ⟨frame, call, found, holds, _⟩ :=
    locked.held _ p (exclusive.held p discovery (Or.inl task))
  rw [task] at found
  cases found
  contradiction

theorem exclusive_of {t : State} (locked : Locked t)
    (no_library : ∀ (p : Nat) (discovery : Option String),
      t.tasks[p]? ≠ some (.library discovery))
    (once : ∀ (p : Nat) (call : Call) (stage : Stage), t.tasks[p]? = some (.renewing call stage) →
      stage.outcome.successes + stage.outcome.failures ≤ 1)
    (ended : ∀ outcome ∈ t.world.outcomes, outcome.successes + outcome.failures = 1) :
    Exclusive t := by
  have held : ∀ (p : Nat) (discovery : Option String), SilentRenewal t p discovery →
      t.world.locks (lockName discovery) = some p := by
    intro p discovery silent
    cases silent with
    | inl task => exact absurd task (no_library p discovery)
    | inr task =>
        obtain ⟨call, task, rfl⟩ := task
        exact locked.holder p _ call task rfl
  refine ⟨held, ?_, once, ended⟩
  intro p q discovery first second
  have same := (held p discovery first).symm.trans (held q discovery second)
  exact Option.some.inj same

/-- A step that leaves every acquisition with one outcome. -/
structure Settles (w w' : World) (next : Frame) : Prop where
  locked : ∀ discovery, next ≠ .library discovery
  once : ∀ call stage, next = .renewing call stage →
    stage.outcome.successes + stage.outcome.failures ≤ 1
  ended : ∀ outcome ∈ w'.outcomes, outcome ∈ w.outcomes ∨ outcome.successes + outcome.failures = 1

theorem settles_plain {w w' : World} {next : Frame} (plain : next.plain = true)
    (outcomes : w'.outcomes = w.outcomes) : Settles w w' next where
  locked := plain_no_library plain
  once call stage same := absurd same (plain_no_renewal plain call stage)
  ended _ member := Or.inl (outcomes ▸ member)

theorem settles_stage {w w' : World} {call : Call} {stage : Stage}
    (single : stage.outcome.successes + stage.outcome.failures ≤ 1)
    (outcomes : w'.outcomes = w.outcomes) : Settles w w' (.renewing call stage) where
  locked discovery same := by cases same
  once call' stage' same := by
    cases same
    exact single
  ended _ member := Or.inl (outcomes ▸ member)

theorem settles_conclude {w w' : World} {call : Call} {outcome : Outcome} {error : Option String}
    {started : List Frame} (single : outcome.successes + outcome.failures = 1)
    (outcomes : w'.outcomes = w.outcomes) :
    Settles w (conclude w' call outcome error started).1
      (conclude w' call outcome error started).2.1 where
  locked := plain_no_library (finish_plain (release w' call outcome) call error)
  once call' stage same :=
    absurd same (plain_no_renewal (finish_plain (release w' call outcome) call error) call' stage)
  ended other member := by
    rw [conclude_outcomes, outcomes, List.mem_append, List.mem_singleton] at member
    cases member with
    | inl old => exact Or.inl old
    | inr new =>
        subst new
        exact Or.inr single

theorem settles_renewal {w w' : World} {p : Nat} {call : Call} {stage : Stage} {a : Answer}
    {next : Frame} {started : List Frame} (renews : Renews w p call stage a w' next started)
    (before : stage.outcome.successes + stage.outcome.failures ≤ 1)
    (guarded : ∀ error, a = .failed error → stage ≠ .failing) : Settles w w' next := by
  cases renews with
  | granted free => exact settles_stage (by decide) rfl
  | refused taken => exact settles_plain (finish_plain _ _ _) (extends_finish _ _ _).outcomes
  | unlocked error => exact settles_plain (finish_plain _ _ _) (extends_finish _ _ _).outcomes
  | renewed user => exact settles_stage (by decide) (extends_renewed _ _ _).outcomes
  | absent => exact settles_stage (by decide) rfl
  | raised stage error tried => exact settles_stage (by decide) rfl
  | succeeded => exact settles_stage (by decide) rfl
  | cooled => exact settles_conclude rfl rfl
  | fell a w' started ended => exact settles_conclude rfl (extends_onFailure ended).outcomes
  | fellAgain a w' started error ended =>
      exact absurd rfl (guarded error (onFailure_error ended))
  | recovered again a w' started error ended =>
      cases again with
      | false => exact settles_conclude rfl (extends_onFailure ended).outcomes
      | true => exact absurd before (by decide)

theorem Exclusive.resumed {s : State} (exclusive : Exclusive s) (locked : Locked s) {p : Nat}
    {next : Frame} {w' : World} {started : List Frame} (settles : Settles s.world w' next)
    (plain : ∀ frame ∈ started, frame.plain = true)
    (locked' : Locked ⟨w', s.tasks.set p next ++ started⟩) :
    Exclusive ⟨w', s.tasks.set p next ++ started⟩ := by
  apply exclusive_of locked'
  next =>
    intro q discovery found
    cases resumed_cases found with
    | inl here => exact settles.locked discovery here.2.symm
    | inr rest =>
        cases rest with
        | inl old => exact exclusive.no_library locked q discovery old.2
        | inr new => exact plain_no_library (plain _ new.2) discovery rfl
  next =>
    intro q call stage found
    cases resumed_cases found with
    | inl here => exact settles.once call stage here.2.symm
    | inr rest =>
        cases rest with
        | inl old => exact exclusive.once q call stage old.2
        | inr new => exact absurd rfl (plain_no_renewal (plain _ new.2) call stage)
  next =>
    intro outcome member
    cases settles.ended outcome member with
    | inl old => exact exclusive.ended outcome old
    | inr single => exact single

theorem refreshes_plain {started : List Frame} (refreshes : Refreshes started) :
    ∀ frame ∈ started, frame.plain = true := by
  intro frame member
  obtain ⟨_, _, _, rfl⟩ := refreshes frame member
  rfl

theorem Exclusive.started {s : State} (exclusive : Exclusive s) (locked : Locked s) {w' : World}
    {started : List Frame} (outcomes : w'.outcomes = s.world.outcomes)
    (no_library : ∀ discovery, .library discovery ∉ started)
    (requested : ∀ call stage, .renewing call stage ∈ started → stage = .requested)
    (locked' : Locked ⟨w', s.tasks ++ started⟩) : Exclusive ⟨w', s.tasks ++ started⟩ := by
  apply exclusive_of locked'
  next =>
    intro q discovery found
    cases started_cases found with
    | inl old => exact exclusive.no_library locked q discovery old
    | inr new => exact no_library discovery new.2
  next =>
    intro q call stage found
    cases started_cases found with
    | inl old => exact exclusive.once q call stage old
    | inr new =>
        rw [requested call stage new.2]
        decide
  next =>
    intro outcome member
    rw [outcomes] at member
    exact exclusive.ended outcome member

theorem Guarded.exclusive {s t : State} {act : Action} (guarded : Guarded s act)
    (locked : Locked s) (exclusive : Exclusive s) (taken : StorageAuth.step s act = some t) :
    Exclusive t := by
  have locked' := locked.step taken
  cases step_cases taken with
  | answer p a frame next world started task effect =>
      cases resumes_idles (resume_cases effect) with
      | inl idles =>
          exact exclusive.resumed locked (settles_plain idles.after idles.outcomes)
            (refreshes_plain idles.refreshes) locked'
      | inr renewal =>
          obtain ⟨call, stage, rfl, renews⟩ := renewal
          apply exclusive.resumed locked ?_ (refreshes_plain (renews_refreshes renews)) locked'
          apply settles_renewal renews (exclusive.once p call stage task)
          intro error failed failing
          subst failed failing
          exact guarded.fallback p call error rfl task
  | event e world started effect =>
      have opens := event_opens effect
      apply exclusive.started locked (event_still effect).outcomes ?_ ?_ locked'
      next =>
        intro discovery member
        cases opens _ member with
        | library index manager stored own =>
            rw [guarded.expiry index manager rfl stored] at own
            contradiction
      next =>
        intro call stage member
        cases opens _ member <;> rfl

theorem Exclusive.guarded {s t : State} {act : Action} (exclusive : Exclusive t)
    (locked : Locked s) (taken : StorageAuth.step s act = some t) : Guarded s act := by
  cases step_cases taken with
  | answer p a frame next world started task effect =>
      constructor
      next =>
        intro index manager same
        cases same
      next =>
        intro q call error same failing
        cases same
        rw [task] at failing
        cases failing
        have renewed : resumeRenewal s.world p call .failing (.failed error) =
            some (world, next, started) := effect
        cases renewal_cases renewed with
        | raised _ _ tried => cases tried <;> contradiction
        | fell _ _ _ ended => exact absurd rfl (onFailure_ended ended error)
        | fellAgain _ _ _ _ ended =>
            have twice := exclusive.once p call (.recovering true) (resumed_self task)
            exact absurd twice (by decide)
  | event e world started effect =>
      constructor
      next =>
        intro index manager same stored
        cases same
        cases own : manager.renewsByItself with
        | false => rfl
        | true =>
            exfalso
            obtain ⟨manager', stored', same⟩ := Option.map_eq_some_iff.mp effect
            rw [stored] at stored'
            cases stored'
            cases same
            have first : (expiring s.world index manager)[0]? =
                some (.library manager.discovery) := by
              simp [expiring, own]
            have silent : SilentRenewal ⟨s.world, s.tasks ++ expiring s.world index manager⟩
                s.tasks.length manager.discovery := Or.inl (started_new first)
            obtain ⟨frame, _, found, _⟩ := locked.held _ _ (exclusive.held _ _ silent)
            rw [List.getElem?_eq_none (Nat.le_refl _)] at found
            contradiction
      next =>
        intro p call error same
        cases same

/-- Silent renewals exclude each other and each acquisition has one outcome exactly in the runs that
are guarded. -/
theorem exclusive_iff (now : Int) (stored : List String) (acts : List Action) :
    Runs.Along step (fun _ _ t => Exclusive t) (start now stored) acts ↔
      Runs.Along step (fun s act _ => Guarded s act) (start now stored) acts := by
  apply Iff.symm
  apply Runs.along_iff (fun s => Locked s ∧ Exclusive s)
  next =>
    intro s act t inv exclusive taken
    exact ⟨inv.1.step taken, exclusive⟩
  next =>
    intro s act t inv taken
    constructor
    next => exact fun guarded => guarded.exclusive inv.1 inv.2 taken
    next => exact fun exclusive => exclusive.guarded inv.1 taken
  next => exact ⟨locked_start now stored, exclusive_start now stored⟩

/-! ## Two runs that break the rule -/

-- One page signs in to a discovery URL.
def signInRun : List Action :=
  [.event (.mount true), .event (.customEvent ⟨0, true⟩ .addNewStorageUrl "https://usd.example"),
    .answer 0 .resolved, .answer 0 (.user (some ⟨"first token", none⟩))]

-- The token expires, and the session's handler gets the lock.
def expiringRun : List Action :=
  signInRun ++ [.event (.accessTokenExpiring 0), .answer 3 .granted]

-- A requested renewal gets no user, and the popup that it falls back to is closed.
def closedPopupRun : List Action :=
  signInRun ++ [.event (.customEvent ⟨0, true⟩ .requestTokenRefresh "https://usd.example"),
    .answer 2 .granted, .answer 2 (.user none), .answer 2 (.failed "Popup closed by user")]

theorem exclusive_of_run {acts : List Action}
    (along : Runs.Along step (fun _ _ t => Exclusive t) (start 0 []) acts) {t : State}
    (reached : Runs.run step (start 0 []) acts = some t) : Exclusive t :=
  (Runs.along_iff_reached Exclusive (exclusive_start 0 [])).mp along acts [] t
    (List.append_nil acts).symm reached

theorem renewals_not_exclusive :
    ¬ Runs.Along step (fun _ _ t => Exclusive t) (start 0 []) expiringRun ∧
      ¬ Runs.Along step (fun _ _ t => Exclusive t) (start 0 []) closedPopupRun := by
  constructor
  next =>
    intro along
    have tasks : (Runs.run step (start 0 []) expiringRun).map
        (fun t => (t.tasks[2]?, t.tasks[3]?)) =
        some (some (.library (some "https://usd.example")), some (.renewing
          (.session 0 ⟨0, true⟩ "https://usd.example" none) .silent)) := by decide
    obtain ⟨t, reached, found⟩ := Option.map_eq_some_iff.mp tasks
    have exclusive := exclusive_of_run along reached
    have first : SilentRenewal t 2 (some "https://usd.example") :=
      Or.inl (congrArg Prod.fst found)
    have second : SilentRenewal t 3 (some "https://usd.example") :=
      Or.inr ⟨_, congrArg Prod.snd found, rfl⟩
    exact absurd (exclusive.alone 2 3 _ first second) (by decide)
  next =>
    intro along
    have tasks : (Runs.run step (start 0 []) closedPopupRun).map (fun t => t.tasks[2]?) =
        some (some (.renewing (.session 0 ⟨0, true⟩ "https://usd.example"
          (some ⟨⟨0, true⟩, rfl, "https://usd.example", 1⟩)) (.recovering true))) := by decide
    obtain ⟨t, reached, found⟩ := Option.map_eq_some_iff.mp tasks
    have twice := (exclusive_of_run along reached).once 2 _ _ found
    exact absurd twice (by decide)

end StreamingPortal.Web.StorageAuth
