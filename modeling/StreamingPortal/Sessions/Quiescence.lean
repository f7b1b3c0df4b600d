import StreamingPortal.Shared.Quiescence
import StreamingPortal.Sessions.Copies
import StreamingPortal.Sessions.Isolation

set_option autoImplicit false

/-!
# The handlers at hand come to rest

A request is at rest once it is answered, a watcher while it sleeps. A task may have to wait for
the transaction of another one, which itself waits for NVCF at most.
-/

namespace StreamingPortal.Sessions

open Tasks

def AtRest : Frame → Prop
  | .finished _ | .watch .sleepingTimeout | .watch .sleepingIdle => True
  | _ => False

/-! ## How far a frame is from rest -/

def connectLeft : ConnectFrame → Nat
  | .accepting _ _ _ => 12
  | .loading _ _ _ => 11
  | .savingConnecting _ => 10
  | .openingUpstream _ => 9
  | .savingActive _ => 8
  -- An open relay is one wait: its two tasks may forward for ever, but each of them ends once.
  | .relaying _ d₁ d₂ => 5 + (!d₁).toNat + (!d₂).toNat
  | .closingUpstream _ d₁ d₂ => 4 + (!d₁).toNat + (!d₂).toNat
  | .savingFailed _ => 3
  | .recordingError _ _ | .savingIdle _ => 2
  | .closingClient _ | .rejecting _ => 1

def callerLeft : EndCaller → Nat
  | .stopStream | .terminateSession => 0
  | .watchSessionTimeout rest => 3 * rest.length

def endLeft : EndFrame → Nat
  | .deleting e => 3 + callerLeft e.caller
  | .closingWebsocket e _ => 2 + callerLeft e.caller
  | .saving e _ => 1 + callerLeft e.caller

def workLeft : Frame → Nat
  | .connect f => connectLeft f
  | .ending f => endLeft f
  | .watch (.savingExpiry _ rest _) => 1 + rest.length
  | .watch _ => 0
  | f => awaitsLeft f

-- The queries that a watcher is still to make; each may bring any number of sessions in.
def queriesLeft : Frame → Nat
  | .watch (.queryingExpired _) => 2
  | .watch (.queryingTimedOut _) | .watch (.queryingOrphaned _ _) => 1
  | _ => 0

theorem workLeft_rest {f : Frame} (rest : RestFrame f) : workLeft f = awaitsLeft f := by
  cases f with
  | connect | watch => exact rest.elim
  | ending f =>
      cases f with
      | deleting e | closingWebsocket e | saving e =>
          have request : e.caller.isRequest := rest
          cases caller : e.caller with
          | stopStream | terminateSession =>
              simp [workLeft, endLeft, awaitsLeft, callerLeft, caller]
          | watchSessionTimeout =>
              rw [caller] at request
              exact request.elim
  | request | start | finished => rfl

theorem queriesLeft_kind {f : Frame} (other : f.kind ≠ .watch) : queriesLeft f = 0 := by
  cases f with
  | watch => exact absurd rfl other
  | _ => rfl

theorem cleanup_workLeft (w : World) (p : Nat) (c : Connection) :
    workLeft (cleanup w p c).2 ≤ 3 := by
  unfold cleanup
  simp only
  repeat' split
  all_goals simp [workLeft, connectLeft, removeWebsocket]

theorem admit_workLeft (w : World) (p : Nat) (user : User) (found : Option SessionInstance) :
    workLeft (checkAdmission w p user found).2 ≤ 10 := by
  unfold checkAdmission
  repeat' split
  all_goals simp [workLeft, connectLeft, reject]

theorem relayEnded_workLeft {w w' : World} {p : Nat} {f : ConnectFrame} {task : RelayTask}
    {e : RelayError} {f' : Frame} (h : connectResume w p f (.relayEnded task e) = some (w', f')) :
    workLeft f' < connectLeft f := by
  cases f with
  | relaying c d₁ d₂ | closingUpstream c d₁ d₂ =>
      cases d₁ <;> cases d₂ <;> cases task <;> first
        | contradiction
        | (obtain ⟨-, rfl⟩ := Prod.mk.inj (Option.some.inj h)
           simp [workLeft, connectLeft])
  | openingUpstream => simp [connectResume, connectFailed] at h
  | _ => simp [connectResume] at h

theorem connectResume_workLeft {w w' : World} {p : Nat} {f : ConnectFrame} {a : Answer}
    {f' : Frame} (h : connectResume w p f a = some (w', f')) : workLeft f' < connectLeft f := by
  cases connectResume_cases h with
  | loaded user id cookie found =>
      exact Nat.lt_of_le_of_lt (admit_workLeft w p user found) (by simp [connectLeft])
  | saveConnectingFailed | openFailed =>
      exact Nat.lt_of_le_of_lt (cleanup_workLeft w p _) (by simp [connectLeft])
  | closed c d₁ d₂ | closeFailed c d₁ d₂ =>
      have enough : 3 < connectLeft (.closingUpstream c d₁ d₂) := by
        simp only [connectLeft]
        omega
      exact Nat.lt_of_le_of_lt (cleanup_workLeft w p _) enough
  | relayEnded | lateRelayEnded => exact relayEnded_workLeft h
  | relayWoken c d₁ d₂ | relayRaised c d₁ d₂ =>
      simp only [workLeft, connectLeft, Bool.not_true, Bool.toNat_false]
      omega
  | _ => simp [workLeft, connectLeft, awaitsLeft, finishFailed, removeWebsocket]

theorem terminateTimedOut_workLeft (sessions : List SessionInstance) :
    workLeft (terminateTimedOut sessions) ≤ 3 * sessions.length := by
  cases sessions with
  | nil => simp [terminateTimedOut, workLeft]
  | cons s rest =>
      simp only [terminateTimedOut, endSession, workLeft, endLeft, callerLeft, List.length_cons]
      omega

theorem return_workLeft (caller : EndCaller) (r : Response) :
    workLeft (caller.return r) ≤ callerLeft caller := by
  cases caller with
  | stopStream | terminateSession => simp [EndCaller.return, workLeft, awaitsLeft]
  | watchSessionTimeout rest => exact terminateTimedOut_workLeft rest

theorem endResume_workLeft {w w' : World} {f : EndFrame} {a : Answer} {f' : Frame}
    (h : endResume w f a = some (w', f')) : workLeft f' < endLeft f := by
  cases endResume_cases h with
  | deleted e | answered e | closed e =>
      simp only [workLeft, endLeft, recordEnd]
      omega
  | timedOut e | saved e =>
      refine Nat.lt_of_le_of_lt (return_workLeft e.caller _) ?_
      simp only [endLeft]
      omega
  | raised =>
      cases f <;> simp only [workLeft, awaitsLeft, endLeft] <;> omega

theorem endResume_queriesLeft {w w' : World} {f : EndFrame} {a : Answer} {f' : Frame}
    (h : endResume w f a = some (w', f')) : queriesLeft f' = 0 := by
  have returned (caller : EndCaller) (r : Response) : queriesLeft (caller.return r) = 0 := by
    cases caller with
    | stopStream | terminateSession => rfl
    | watchSessionTimeout rest => cases rest <;> rfl
  cases endResume_cases h with
  | timedOut | saved => exact returned _ _
  | deleted | answered | closed | raised => rfl

theorem stopIdle_workLeft (now : Int) (sessions : List SessionInstance) :
    workLeft (stopIdle now sessions) ≤ sessions.length ∧
      queriesLeft (stopIdle now sessions) = 0 := by
  cases sessions with
  | nil => exact ⟨Nat.le_refl _, rfl⟩
  | cons s rest => exact ⟨by simp [stopIdle, workLeft, Nat.add_comm], rfl⟩

theorem watchResume_drops {cfg : Config} {w w' : World} {f : WatchFrame} {a : Answer} {f' : Frame}
    (busy : ¬ AtRest (.watch f)) (h : watchResume cfg w f a = some (w', f')) :
    queriesLeft f' < queriesLeft (.watch f) ∨
      queriesLeft f' ≤ queriesLeft (.watch f) ∧ workLeft f' < workLeft (.watch f) := by
  cases watchResume_cases h with
  | timedOut cutoff sessions =>
      left
      cases sessions <;> exact Nat.one_pos
  | expired => exact Or.inl (Nat.lt_succ_self 1)
  | orphaned expired cutoff orphaned =>
      left
      rw [(stopIdle_workLeft w.now _).2]
      exact Nat.one_pos
  | saved s rest now =>
      obtain ⟨fewer, none_⟩ := stopIdle_workLeft now rest
      have left : workLeft (.watch (.savingExpiry s rest now)) = 1 + rest.length := rfl
      exact Or.inr ⟨Nat.le_of_eq none_, by omega⟩
  | timeoutSlept | idleSlept => exact absurd trivial busy
  | raised =>
      cases f with
      | sleepingTimeout | sleepingIdle => exact absurd trivial busy
      | queryingTimedOut | queryingExpired | queryingOrphaned =>
          exact Or.inl (by simp [queriesLeft])
      | savingExpiry =>
          refine Or.inr ⟨Nat.le_refl _, ?_⟩
          simp only [workLeft, awaitsLeft]
          omega

/-! ## What a task is resumed with -/

structure Resumable (cfg : Config) (f : Frame) (a : Answer) : Prop where
  resumes : ∀ w p, (resumeFrame cfg w p f a).isSome = true
  left : ∀ o, f = .start (.leaving o) → a = .done

theorem resumable_performed {cfg : Config} {db db' : Db} {p : Nat} {f : Frame} {op : DbOp}
    {a : Answer} (awaits : frameOp f = some op)
    (effect : (backend cfg).perform db p op = some (db', a)) : Resumable cfg f a := by
  obtain ⟨-, -, rfl⟩ := perform_of_effect effect
  refine ⟨fun w q => ?_, ?_⟩
  · -- The answer is the same for whichever task performs the operation.
    have same : (db.perform cfg p op).2 = (db.perform cfg q op).2 := by cases op <;> rfl
    rw [same]
    exact resume_performed cfg w q awaits db
  · rintro o rfl
    obtain rfl := Option.some.inj awaits
    rfl

theorem resumable_failed {cfg : Config} {f : Frame} {op : DbOp} {a : Answer}
    (awaits : frameOp f = some op) (effect : op.failure = some a) : Resumable cfg f a := by
  obtain rfl := failure_raised effect
  refine ⟨fun w q => ?_, ?_⟩
  · cases f with
    | connect f => cases f <;> first | rfl | contradiction
    | ending f => cases f <;> rfl
    | request f => cases f <;> rfl
    | start f => cases f <;> rfl
    | watch f => cases f <;> rfl
    | finished => contradiction
  · rintro o rfl
    obtain rfl := Option.some.inj awaits
    contradiction

theorem resume_drops {cfg : Config} {w w' : World} {p : Nat} {f f' : Frame} {a : Answer}
    (busy : ¬ AtRest f) (given : frameOp f = none ∨ Resumable cfg f a)
    (h : resumeFrame cfg w p f a = some (w', f')) :
    queriesLeft f' < queriesLeft f ∨
      queriesLeft f' ≤ queriesLeft f ∧ workLeft f' < workLeft f := by
  have kind := resumeFrame_kind h
  have left : ∀ o, f = .start (.leaving o) → a = .done := by
    rintro o rfl
    exact (given.resolve_left (by simp [frameOp, startOp])).left o rfl
  have shorter (rest : RestFrame f) : workLeft f' < workLeft f := by
    obtain ⟨rest', less⟩ := resumeFrame_awaits rest left h
    rwa [workLeft_rest rest, workLeft_rest rest']
  cases f with
  | connect f =>
      have none_ : queriesLeft f' = 0 := queriesLeft_kind fun watches => by
        rw [watches] at kind
        simp [Frame.kind, Kind.next] at kind
      exact Or.inr ⟨Nat.le_of_eq none_, connectResume_workLeft h⟩
  | ending f => exact Or.inr ⟨Nat.le_of_eq (endResume_queriesLeft h), endResume_workLeft h⟩
  | request f | start f =>
      have none_ : queriesLeft f' = 0 := queriesLeft_kind fun watches => by
        rw [watches] at kind
        simp [Frame.kind, Kind.next] at kind
      exact Or.inr ⟨Nat.le_of_eq none_, shorter trivial⟩
  | watch f => exact watchResume_drops busy h
  | finished => exact absurd trivial busy

def ranked (cfg : Config) : Ranked (backend cfg) AtRest where
  fits := Resumable cfg
  performed := resumable_performed
  failed := resumable_failed
  major := queriesLeft
  minor := workLeft
  drops := resume_drops

/-! ## Whose transaction is open -/

def Inside (t : Task) : Prop :=
  match t.frame with
  | .start (.entering _) => t.answer = some .done
  | .start (.leaving _) => t.answer = none
  | .start _ => True
  | _ => False

def TransactionHeld (st : State) : Prop :=
  ∀ q, st.store.transaction = some q → ∃ t, st.tasks[q]? = some t ∧ Inside t

theorem perform_transaction (cfg : Config) (db : Db) (p : Nat) (op : DbOp) :
    (db.perform cfg p op).1.transaction =
      match op with
      | .beginTransaction => some p
      | .endTransaction => none
      | _ => db.transaction := by
  cases op with
  | createSession row =>
      simp only [Db.perform, Db.createSession]
      split <;> rfl
  | setErrorIfNull id error =>
      simp only [Db.perform, Db.setErrorIfNull]
      repeat' split
      all_goals rfl
  | _ => rfl

theorem begin_of_op {f : Frame} (awaits : frameOp f = some .beginTransaction) :
    ∃ s, f = .start (.entering s) := by
  cases f with
  | start f =>
      cases f with
      | entering s => exact ⟨s, rfl⟩
      | _ => simp [frameOp, startOp] at awaits
  | connect f | ending f | request f | watch f =>
      cases f <;> simp [frameOp, connectOp, endOp, requestOp, watchOp] at awaits
  | finished => simp [frameOp] at awaits

theorem inside_answered {f : Frame} {op : DbOp} (inside : Inside ⟨f, none⟩)
    (awaits : frameOp f = some op) (stays : op ≠ .endTransaction) (a : Answer) :
    Inside ⟨f, some a⟩ := by
  cases f with
  | start f =>
      cases f with
      | entering => simp [Inside] at inside
      | leaving => exact absurd (Option.some.inj awaits).symm stays
      | _ => trivial
  | _ => exact inside.elim

theorem inside_resumed {cfg : Config} {w w' : World} {p : Nat} {f f' : Frame} {a : Answer}
    {stored : Option Answer} (inside : Inside ⟨f, stored⟩)
    (given : stored = some a ∨ frameOp f = none)
    (h : resumeFrame cfg w p f a = some (w', f')) : Inside ⟨f', none⟩ := by
  cases f with
  | start f =>
      cases startResume_cases h with
      | notEntered s =>
          obtain rfl := given.resolve_right (by simp [frameOp, startOp])
          simp [Inside] at inside
      | left o =>
          obtain rfl := given.resolve_right (by simp [frameOp, startOp])
          simp [Inside] at inside
      | entered | counted | gotApp | started => trivial
      | full | noApp | notStarted | timedOut | created | raised => exact rfl
  | _ => exact inside.elim

theorem held_step {cfg : Config} {st st' : State} {act : Action} (held : TransactionHeld st)
    (taken : step cfg st act = some st') : TransactionHeld st' := by
  -- Only the task that moves may leave its transaction.
  have moved {p q : Nat} {t u : Task} (task : st.tasks[p]? = some t)
      (same : st.store.transaction = some q) (keeps : Inside t → Inside u) :
      ∃ v, (st.tasks.set p u)[q]? = some v ∧ Inside v := by
    obtain ⟨t', there, inside⟩ := held q same
    by_cases acting : p = q
    · subst acting
      obtain rfl := Option.some.inj (task.symm.trans there)
      exact ⟨u, getElem?_set_acting task, keeps inside⟩
    · exact ⟨t', by rwa [List.getElem?_set_ne acting], inside⟩
  intro q open'
  cases step_cases taken with
  | request r =>
      obtain ⟨t, there, inside⟩ := held q open'
      obtain ⟨bound, -⟩ := List.getElem?_eq_some_iff.mp there
      exact ⟨t, by simpa [List.getElem?_append_left bound] using there, inside⟩
  | execute p f op db a task awaits effect =>
      obtain ⟨-, rfl, rfl⟩ := perform_of_effect effect
      have awaits : frameOp f = some op := awaits
      change (st.store.perform cfg p op).1.transaction = some q at open'
      rw [perform_transaction] at open'
      split at open'
      next =>
        obtain rfl := Option.some.inj open'
        obtain ⟨s, rfl⟩ := begin_of_op awaits
        exact ⟨_, getElem?_set_acting task, rfl⟩
      next => contradiction
      next stays => exact moved task open' fun inside => inside_answered inside awaits stays _
  | raise p f op a task awaits effect =>
      refine moved task open' fun inside => inside_answered inside awaits ?_ _
      rintro rfl
      contradiction
  | resume p f next a world task effect =>
      exact moved task open' fun inside => inside_resumed inside (Or.inl rfl) effect
  | answer p f next a world task awaits effect =>
      exact moved task open' fun inside => inside_resumed inside (Or.inr awaits) effect
  | tick time => exact held q open'

/-! ## Some task can go on -/

def CanWork (cfg : Config) (st : State) : Prop :=
  -- No operation need raise for it.
  ∃ act p f st', act.actor = some p ∧ act ≠ .raise p ∧ st.frame? p = some f ∧ ¬ AtRest f ∧
    step cfg st act = some st'

theorem canWork_free {cfg : Config} {st : State} {p : Nat} {t : Task}
    (answered : Answered (ranked cfg) st) (task : st.tasks[p]? = some t) (busy : ¬ AtRest t.frame)
    (free : st.store.blocked cfg p = false) : CanWork cfg st := by
  obtain ⟨f, stored⟩ := t
  have frame := State.frame?_of_task task
  cases stored with
  | some a =>
      obtain ⟨⟨w, next⟩, resumes⟩ :=
        Option.isSome_iff_exists.mp ((answered p _ task a rfl).resumes st.world p)
      have resumes : (backend cfg).resume st.world p f a = some (w, next) := resumes
      exact ⟨.resume p, p, f, _, rfl, by simp, frame, busy,
        by simp [step, Tasks.step, task, resumeWith, resumes]; rfl⟩
  | none =>
      cases awaits : frameOp f with
      | some op =>
          have effect : (backend cfg).perform st.store p op = some (st.store.perform cfg p op) := by
            simp [backend, free]
          exact ⟨.execute p, p, f, _, rfl, by simp, frame, busy, step_execute task awaits effect⟩
      | none =>
          have running : f.kind ≠ .finished := by
            intro finished
            cases f with
            | finished => exact busy trivial
            | _ => simp [Frame.kind] at finished
          obtain ⟨⟨w, next⟩, resumes⟩ := Option.isSome_iff_exists.mp
            (acceptingAnswer_responds cfg st.world p f awaits running)
          exact ⟨.answer p (acceptingAnswer f), p, f, _, rfl, by simp, frame, busy,
            step_answer task awaits resumes⟩

theorem canWork {cfg : Config} {st : State} {p : Nat} {t : Task}
    (answered : Answered (ranked cfg) st) (held : TransactionHeld st)
    (task : st.tasks[p]? = some t) (busy : ¬ AtRest t.frame) : CanWork cfg st := by
  cases blocked : st.store.blocked cfg p with
  | false => exact canWork_free answered task busy blocked
  | true =>
      -- The task whose transaction is open is not blocked itself.
      obtain ⟨q, open'⟩ : ∃ q, st.store.transaction = some q := by
        cases open' : st.store.transaction with
        | some q => exact ⟨q, rfl⟩
        | none => simp [Db.blocked, open'] at blocked
      obtain ⟨t', there, inside⟩ := held q open'
      have inside' : ¬ AtRest t'.frame := by
        intro rests
        unfold Inside at inside
        cases frame : t'.frame <;> simp_all [AtRest]
      refine canWork_free answered there inside' ?_
      simp [Db.blocked, open']

/--
However the steps of the tasks at hand are ordered, they end, and they end only once every request
is answered and both watchers, of timeouts and of idle sessions, sleep. What an open relay forwards
is no step here: it waits until its two tasks have ended.
-/
theorem comes_to_rest {cfg : Config} {sessions : SessionTable} {apps : AppTable} {now : Int}
    {acts : List Action} {st : State} (reached : run cfg (init sessions apps now) acts = some st) :
    Acc (fun st' st => Works (backend cfg) AtRest st st') st ∧
      (CanWork cfg st ∨ ∀ p f, st.frame? p = some f → AtRest f) := by
  have answered : Answered (ranked cfg) st :=
    Runs.invariant (Answered (ranked cfg)) (fun _ _ _ inv _ taken => answered_step inv taken)
      (answered_init rfl) (Runs.along_trivial acts) reached
  have held : TransactionHeld st :=
    Runs.invariant TransactionHeld (fun _ _ _ inv _ taken => held_step inv taken)
      (fun q open' => by simp [init] at open') (Runs.along_trivial acts) reached
  refine ⟨acc_works (ranked cfg) answered, ?_⟩
  by_cases working : CanWork cfg st
  · exact Or.inl working
  · right
    intro p f frame
    obtain ⟨t, task, rfl⟩ := Option.map_eq_some_iff.mp frame
    by_contra busy
    exact working (canWork answered held task busy)

def stopBehindStart : List Action :=
  -- The second task waits for the transaction of the first, which waits for NVCF.
  [.request (.startStream ⟨Sample.user, "app", "/"⟩), .execute 0, .resume 0, .execute 0, .resume 0,
    .execute 0, .resume 0, .request (.stopStream Sample.user "session" (some "nvcf"))]

theorem comes_to_rest_stopBehindStart :
    ∃ st, run (Sample.config 2) (Sample.start none 0) stopBehindStart = some st ∧
      st.store.blocked (Sample.config 2) 1 = true ∧
      Acc (fun st' st => Works (backend (Sample.config 2)) AtRest st st') st ∧
      (CanWork (Sample.config 2) st ∨ ∀ p f, st.frame? p = some f → AtRest f) :=
  ⟨(run (Sample.config 2) (Sample.start none 0) stopBehindStart).get (by decide),
    (Option.some_get _).symm, by decide, comes_to_rest (Option.some_get _).symm⟩

end StreamingPortal.Sessions
