import StreamingPortal.Sessions.Saves

set_option autoImplicit false

/-! # FAILED or EXPIRED: how abandoned sessions are classified -/

namespace StreamingPortal.Sessions

open Tasks

def hasError (row : SessionModel) : Bool := decide (row.error.getD "" ≠ "")

def abandonedCopy : Frame → Option SessionInstance
  -- The copy with which one of the watchers or `check_session` is about to end a session.
  | .watch (.savingExpiry s _ _) => some s
  | .request (.savingCheck s) => some s
  | .ending (.saving ⟨s, _, _, .watchSessionTimeout _⟩ _) => some s
  | _ => none

/-- They write FAILED exactly when the row has an error at that moment, and EXPIRED otherwise. -/
def ClassifiedByRecord (st : State) : Action → State → Prop
  | .execute p, st' => ∀ f ∈ st.frame? p, ∀ s ∈ abandonedCopy f, ∀ row ∈ st.session? s.row.id,
      ∀ row' ∈ st'.session? s.row.id,
        row'.status = if hasError row then .failed else .expired
  | _, _ => True

/-- The row has an error at that moment exactly if the copy was loaded with one. -/
def ErrorAsLoaded (st : State) : Action → State → Prop
  | .execute p, _ => ∀ f ∈ st.frame? p, ∀ s ∈ abandonedCopy f, ∀ row ∈ st.session? s.row.id,
      hasError row = hasError s.row
  | _, _ => True

theorem watcherTerminalStatus_eq (s : SessionInstance) :
    watcherTerminalStatus s = if hasError s.row then .failed else .expired := by
  unfold watcherTerminalStatus hasError
  cases s.row.error with
  | none => rfl
  | some error => by_cases empty : error = "" <;> simp [empty]

theorem abandoned_prepared {f : Frame} {s : SessionInstance} (abandons : abandonedCopy f = some s)
    (prepared : Prepared f) :
    ∃ fields, frameOp f = some (.save s fields) ∧ .status ∈ fields ∧ s.Classified := by
  unfold abandonedCopy at abandons
  split at abandons
  next s' rest now =>
    obtain rfl := Option.some.inj abandons
    exact ⟨_, rfl, by simp, prepared.1⟩
  next s' =>
    obtain rfl := Option.some.inj abandons
    exact ⟨_, rfl, by simp, prepared⟩
  next s' reason final rest r =>
    obtain rfl := Option.some.inj abandons
    obtain ⟨⟨-, watched⟩, status, -⟩ := prepared
    exact ⟨_, rfl, by simp, status.trans (watched rest rfl)⟩
  next => contradiction

theorem classifiedByRecord_iff_errorAsLoaded {cfg : Config} {st st' : State} {act : Action}
    (prepared : AllPrepared st) (taken : step cfg st act = some st') :
    ClassifiedByRecord st act st' ↔ ErrorAsLoaded st act st' := by
  cases step_cases taken with
  | request | raise | resume | answer | tick => exact Iff.rfl
  | execute p f op db a task awaits effect =>
      obtain ⟨-, rfl, rfl⟩ := perform_of_effect effect
      have frame := State.frame?_of_task task
      -- What is written, and that it was classified from the copy.
      have written {s : SessionInstance} {row : SessionModel} (abandons : abandonedCopy f = some s)
          (stored : st.session? s.row.id = some row) :
          ∃ row', (st.store.perform cfg p op).1.sessions.get? s.row.id = some row' ∧
            row'.status = if hasError s.row then .failed else .expired := by
        obtain ⟨fields, saving, names, classified⟩ :=
          abandoned_prepared abandons (prepared p f frame)
        obtain rfl : op = .save s fields := Option.some.inj (awaits.symm.trans saving)
        have stored : st.store.sessions.get? s.row.id = some row := stored
        refine ⟨s.row.assign fields row, by simp [Db.perform, Db.get?_save, stored], ?_⟩
        rw [SessionModel.assign_status, if_pos names, classified, watcherTerminalStatus_eq]
      constructor
      · intro byRecord f' frame' s abandons row stored
        obtain rfl : f = f' := Option.some.inj (frame.symm.trans frame')
        obtain ⟨row', stored', status⟩ := written abandons stored
        have same := byRecord f frame' s abandons row stored row' stored'
        rw [status] at same
        cases had : hasError s.row <;> cases has : hasError row <;> simp_all
      · intro asLoaded f' frame' s abandons row stored row' stored'
        obtain rfl : f = f' := Option.some.inj (frame.symm.trans frame')
        obtain ⟨row'', stored'', status⟩ := written abandons stored
        obtain rfl : row' = row'' := Option.some.inj (stored'.symm.trans stored'')
        rw [status, asLoaded f frame' s abandons row stored]

/--
Along any run from a fresh process, abandoned sessions are classified by the error on
record exactly when nobody has reported or cleared one since the session was loaded.
-/
theorem classifiedByRecord_iff (cfg : Config) (sessions : SessionTable) (apps : AppTable)
    (now : Int) (acts : List Action) :
    Along cfg ClassifiedByRecord (init sessions apps now) acts ↔
      Along cfg ErrorAsLoaded (init sessions apps now) acts :=
  Runs.along_iff AllPrepared
    (fun _ _ _ prepared _ taken => allPrepared_step prepared taken)
    (fun _ _ _ prepared taken => classifiedByRecord_iff_errorAsLoaded prepared taken)
    (allPrepared_init sessions apps now)

def reportedWhileTerminating : List Action :=
  -- The timeout watcher has loaded a session and waits for NVCF. Its client reports an error, and
  -- the watcher still saves EXPIRED.
  [.request .watchSessionTimeout, .execute 0, .resume 0,
    .request (.updateSession Sample.user "session" (some (some "WebRTC failure"))), .execute 1,
    .resume 1, .execute 1, .answer 0 (.nvcf Sample.ok)]

theorem classifiedByRecord_fails :
    ¬ Along (Sample.config 1) ClassifiedByRecord (Sample.start none 28800000000)
      (reportedWhileTerminating ++ [.execute 0]) := by
  intro byRecord
  have here := byRecord.at_step reportedWhileTerminating [] rfl rfl
  have status := here _ rfl _ rfl _ rfl _ rfl
  exact absurd status (by decide)

end StreamingPortal.Sessions
