import StreamingPortal.Sessions.Columns

set_option autoImplicit false

/-! # The end date and the duration of a row -/

namespace StreamingPortal.Sessions

open Tasks

/--
An ended row has an end date and the duration up to it in whole seconds; a row that
is CONNECTING or ACTIVE has no end date.
-/
structure SessionModel.DatesConsistent (row : SessionModel) : Prop where
  ended : row.status ∈ terminalStatuses →
    ∃ e, row.endDate = some e ∧ row.duration = wholeSeconds row.startDate e
  connected : row.status = .connecting ∨ row.status = .active → row.endDate = none

/-- What is kept beside that: the duration of an idle row goes with its end date too. -/
structure SessionModel.Dated (row : SessionModel) : Prop where
  ended : row.status ∈ terminalStatuses → row.endDate ≠ none
  connected : row.status = .connecting ∨ row.status = .active → row.endDate = none
  duration : ∀ e, row.endDate = some e → row.duration = wholeSeconds row.startDate e

def AllDatesConsistent (st : State) : Prop :=
  ∀ id row, st.session? id = some row → row.DatesConsistent

def AllDated (st : State) : Prop := ∀ id row, st.session? id = some row → row.Dated

def datesFit (row : SessionModel) : Frame → Bool
  -- What the row must look like for the saves that name the status and not the end date.
  | .connect (.savingActive _) => row.endDate.isNone
  | .request (.savingCheck _) => row.endDate.isSome
  | .watch (.savingExpiry s _ now) => row.endDate.any fun e =>
      decide (wholeSeconds row.startDate (s.row.endDate.getD now) = wholeSeconds row.startDate e)
  | _ => true

/--
ACTIVE is saved over a row without an end date only, and the sessions that
`check_session` and `watch_idle_sessions` end have one, which for the latter is as far
from the start in whole seconds as the one it has loaded.
-/
def SavesFit (st : State) : Action → State → Prop
  | .execute p, _ => ∀ f ∈ st.frame? p, ∀ s ∈ savedCopy f, ∀ row ∈ st.session? s.row.id,
      datesFit row f = true
  | _, _ => True

instance (st : State) (act : Action) (st' : State) : Decidable (SavesFit st act st') :=
  match act with
  | .execute p => inferInstanceAs (Decidable (∀ f ∈ st.frame? p, ∀ s ∈ savedCopy f, _))
  | .request _ | .raise _ | .resume _ | .answer _ _ | .tick _ => isTrue trivial

theorem SessionModel.Dated.consistent {row : SessionModel} (dated : row.Dated) :
    row.DatesConsistent where
  ended := by
    intro ended
    obtain ⟨e, given⟩ := Option.ne_none_iff_exists'.mp (dated.ended ended)
    exact ⟨e, given, dated.duration e given⟩
  connected := dated.connected

theorem dated_idle {row : SessionModel} (idle : row.status = .idle)
    (duration : ∀ e, row.endDate = some e → row.duration = wholeSeconds row.startDate e) :
    row.Dated where
  ended := fun ended => by rw [idle] at ended; contradiction
  connected := fun connected => by rw [idle] at connected; rcases connected with h | h <;> cases h
  duration := duration

theorem dated_undated {row : SessionModel} (running : row.status ∉ terminalStatuses)
    (undated : row.endDate = none) : row.Dated where
  ended := fun ended => absurd ended running
  connected := fun _ => undated
  duration := fun e given => by rw [undated] at given; contradiction

theorem dated_ended {row : SessionModel} {e : Int} (ended : row.status ∈ terminalStatuses)
    (given : row.endDate = some e) (duration : row.duration = wholeSeconds row.startDate e) :
    row.Dated where
  ended := fun _ => by simp [given]
  connected := fun connected => by rcases connected with h | h <;> rw [h] at ended <;> contradiction
  duration := fun e' given' => by
    obtain rfl := Option.some.inj (given.symm.trans given')
    exact duration

/-! ## One save -/

theorem startDate_of_fixed {row row' : SessionModel} (same : row.fixed = row'.fixed) :
    row.startDate = row'.startDate := by
  have start : row.fixed.startDate = row'.fixed.startDate := congrArg SessionModel.startDate same
  exact start

theorem ColumnsFixed.startDate {st : State} (fixed : ColumnsFixed st) {p : Nat} {f : Frame}
    {a : Option Answer} {s : SessionInstance} {row : SessionModel}
    (task : st.tasks[p]? = some ⟨f, a⟩) (copied : s ∈ frameCopies f)
    (stored : st.session? s.row.id = some row) : s.row.startDate = row.startDate := by
  obtain ⟨row', stored', same⟩ := fixed.stored task copied
  obtain rfl : row = row' := Option.some.inj (stored.symm.trans stored')
  exact (startDate_of_fixed same).symm

theorem dated_saved {f : Frame} {s : SessionInstance} {fields : List Column} {row : SessionModel}
    (saves : SaveFrame f s fields) (prepared : Prepared f)
    (start : s.row.startDate = row.startDate) (dated : row.Dated) (fit : datesFit row f = true) :
    (s.row.assign fields row).Dated := by
  cases saves with
  | connecting c =>
      obtain ⟨status, undated, -⟩ := prepared
      exact dated_undated (by simp [SessionModel.assign, status, terminalStatuses])
        (by simp [SessionModel.assign, undated])
  | active c =>
      have active : c.session.row.status = .active := prepared
      exact dated_undated (by simp [SessionModel.assign, active, terminalStatuses])
        (by simpa [SessionModel.assign, datesFit] using fit)
  | failed c =>
      obtain ⟨status, e, given, duration⟩ := prepared
      exact dated_ended (by simp [SessionModel.assign, status, terminalStatuses])
        (by simpa [SessionModel.assign] using given)
        (by simpa [SessionModel.assign, start] using duration)
  | idle c =>
      obtain ⟨status, e, given, duration⟩ := prepared
      refine dated_idle (by simp [SessionModel.assign, status]) fun e' given' => ?_
      obtain rfl : e = e' := by simpa [SessionModel.assign, given] using given'
      simpa [SessionModel.assign, start] using duration
  | ended call r =>
      obtain ⟨⟨ended, -⟩, status, e, given, duration⟩ := prepared
      exact dated_ended (by simpa [SessionModel.assign, status] using ended)
        (by simpa [SessionModel.assign] using given)
        (by simpa [SessionModel.assign, start] using duration)
  | error => exact ⟨dated.ended, dated.connected, dated.duration⟩
  | check =>
      have classified : s.Classified := prepared
      have ended := watcherTerminalStatus_terminal s
      rw [← classified] at ended
      obtain ⟨e, given⟩ := Option.isSome_iff_exists.mp fit
      exact dated_ended (by simpa [SessionModel.assign] using ended)
        (by simpa [SessionModel.assign] using given)
        (by simpa [SessionModel.assign] using dated.duration e given)
  | expiry s rest now =>
      obtain ⟨classified, duration⟩ := prepared
      have ended := watcherTerminalStatus_terminal s
      rw [← classified] at ended
      obtain ⟨e, given, same⟩ := (Option.any_eq_true _ _).mp fit
      rw [start, of_decide_eq_true same] at duration
      exact dated_ended (by simpa [SessionModel.assign] using ended)
        (by simpa [SessionModel.assign] using given)
        (by simpa [SessionModel.assign] using duration)

theorem fit_of_consistent {f : Frame} {s : SessionInstance} {fields : List Column}
    {row : SessionModel} (saves : SaveFrame f s fields) (prepared : Prepared f)
    (start : s.row.startDate = row.startDate)
    (consistent : (s.row.assign fields row).DatesConsistent) : datesFit row f = true := by
  cases saves with
  | connecting | failed | idle | ended | error => rfl
  | active c =>
      have active : c.session.row.status = .active := prepared
      simpa [SessionModel.assign, datesFit, active] using consistent.connected
  | check =>
      have classified : s.Classified := prepared
      have ended := watcherTerminalStatus_terminal s
      rw [← classified] at ended
      obtain ⟨e, given, -⟩ := consistent.ended (by simpa [SessionModel.assign] using ended)
      simp only [SessionModel.assign, List.mem_singleton, reduceCtorEq, if_false] at given
      simp [datesFit, given]
  | expiry s rest now =>
      obtain ⟨classified, duration⟩ := prepared
      have ended := watcherTerminalStatus_terminal s
      rw [← classified] at ended
      obtain ⟨e, given, same⟩ := consistent.ended (by simpa [SessionModel.assign] using ended)
      rw [start] at duration
      have found : row.endDate = some e := by simpa [SessionModel.assign] using given
      simpa [datesFit, found, SessionModel.assign, duration] using same

/-! ## The invariant -/

structure DatesKept (st : State) : Prop where
  dated : AllDated st
  prepared : AllPrepared st
  fixed : ColumnsFixed st

theorem datesKept_step {cfg : Config} {st st' : State} {act : Action} (kept : DatesKept st)
    (fits : SavesFit st act st') (taken : step cfg st act = some st') : DatesKept st' := by
  refine ⟨?_, allPrepared_step kept.prepared taken, columnsFixed_step kept.fixed taken⟩
  intro id row' stored'
  cases step_row taken stored' with
  | same _ _ idle stored => exact kept.dated id row' stored
  | performed p f op _ task awaits change =>
      have prepared := kept.prepared p f (State.frame?_of_task task)
      generalize before : st.session? id = found at change
      cases change with
      | kept row => exact kept.dated id row' before
      | errorSet error row =>
          have dated := kept.dated id row before
          exact ⟨dated.ended, dated.connected, dated.duration⟩
      | created _ target =>
          obtain ⟨s, running, app, cookie, rfl⟩ := createFrame_of_op awaits
          obtain ⟨idle, undated, -⟩ := prepared
          exact dated_idle idle fun e given => by rw [undated] at given; contradiction
      | saved s fields row target =>
          subst target
          have saves := saveFrame_of_op awaits
          exact dated_saved saves prepared
            (kept.fixed.startDate task (frameCopies_of_save saves) before)
            (kept.dated _ row before)
            (fits f (State.frame?_of_task task) s (savedCopy_of_op awaits) row before)

theorem allDatesConsistent_iff_savesFit {cfg : Config} {st st' : State} {act : Action}
    (kept : DatesKept st) (taken : step cfg st act = some st') :
    AllDatesConsistent st' ↔ SavesFit st act st' := by
  constructor
  · intro consistent
    cases step_cases taken with
    | request | raise | resume | answer | tick => trivial
    | execute p f op db a task awaits effect =>
        obtain ⟨-, rfl, rfl⟩ := perform_of_effect effect
        intro f' frame s saved row stored
        obtain rfl : f = f' := Option.some.inj ((State.frame?_of_task task).symm.trans frame)
        obtain ⟨fields, saving⟩ := op_of_savedCopy saved
        obtain rfl : op = .save s fields := Option.some.inj (awaits.symm.trans saving)
        have saves := saveFrame_of_op saving
        have written : (st.store.perform cfg p (.save s fields)).1.sessions.get? s.row.id =
            some (s.row.assign fields row) := by
          have stored : st.store.sessions.get? s.row.id = some row := stored
          simp [Db.perform, Db.get?_save, stored]
        exact fit_of_consistent saves (kept.prepared p f (State.frame?_of_task task))
          (kept.fixed.startDate task (frameCopies_of_save saves) stored)
          (consistent s.row.id _ written)
  · intro fits id row stored
    exact ((datesKept_step kept fits taken).dated id row stored).consistent

/--
In every run of a process that starts on consistent rows, the rows have consistent
dates in every state exactly when the saves that name no end date find the row with
the end date they leave there.
-/
theorem datesConsistent_iff (cfg : Config) (sessions : SessionTable) (apps : AppTable) (now : Int)
    (dated : ∀ row ∈ sessions.rows, row.Dated) (acts : List Action) :
    (∀ pre post t, acts = pre ++ post → run cfg (init sessions apps now) pre = some t →
      AllDatesConsistent t) ↔
      Along cfg SavesFit (init sessions apps now) acts := by
  have start : DatesKept (init sessions apps now) :=
    ⟨fun id row stored => dated row (Table.mem_of_get? stored).1,
      allPrepared_init sessions apps now, columnsFixed_init sessions apps now⟩
  rw [← Runs.along_iff_reached AllDatesConsistent
    fun id row stored => (start.dated id row stored).consistent]
  refine Runs.along_iff DatesKept ?_ ?_ start
  · intro s act t kept fits taken
    exact datesKept_step kept fits taken
  · intro s act t kept taken
    exact allDatesConsistent_iff_savesFit kept taken

theorem dated_sample : ∀ row ∈ (Sample.start (some 0) 0).store.sessions.rows, row.Dated := by
  intro row inside
  obtain rfl : row = Sample.session "session" (some 0) := List.mem_singleton.mp inside
  refine dated_idle rfl fun e given => ?_
  obtain rfl : (0 : Int) = e := Option.some.inj given
  decide

def expiry : List Action :=
  -- The idle watcher ends the first session that it finds.
  [.request .watchIdleSessions, .execute 0, .resume 0, .execute 0, .resume 0, .execute 0]

theorem datesConsistent_expiry :
    AllDatesConsistent
      ((run (Sample.config 1) (Sample.start (some 0) 1000000000) expiry).get (by decide)) :=
  (datesConsistent_iff (Sample.config 1) _ _ 1000000000 dated_sample expiry).mpr (by decide)
    expiry [] _ (List.append_nil _).symm (Option.some_get _).symm

/-- Here it is one that nobody has ever connected to. -/
theorem datesConsistent_fails :
    ¬ ∀ pre post t, expiry = pre ++ post →
      run (Sample.config 1) (Sample.start none 1000000000) pre = some t →
        AllDatesConsistent t := by
  intro consistent
  have here := consistent expiry [] _ (List.append_nil _).symm rfl "session" _ rfl
  obtain ⟨e, given, -⟩ := here.ended (by decide)
  contradiction

end StreamingPortal.Sessions
