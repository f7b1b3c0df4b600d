import StreamingPortal.Sessions.Copies

set_option autoImplicit false

/-! # What becomes of a session that has ended -/

namespace StreamingPortal.Sessions

open Tasks

def DbOp.savedStatus (id : String) : DbOp → Option SessionStatus
  -- The status the operation saves to the row with this id.
  | .save s fields => if .status ∈ fields ∧ s.row.id = id then some s.row.status else none
  | _ => none

theorem savedStatus_eq_some {id : String} {op : DbOp} {status : SessionStatus}
    (h : op.savedStatus id = some status) :
    ∃ s fields, op = .save s fields ∧ .status ∈ fields ∧ s.row.id = id ∧ s.row.status = status := by
  cases op with
  | save s fields =>
      simp only [DbOp.savedStatus] at h
      split at h
      next saves => exact ⟨s, fields, rfl, saves.1, saves.2, Option.some.inj h⟩
      next => contradiction
  | _ => contradiction

theorem perform_status (cfg : Config) {db : Db} (p : Nat) {id : String} {row : SessionModel}
    (stored : db.sessions.get? id = some row) (op : DbOp) :
    ∃ row', (db.perform cfg p op).1.sessions.get? id = some row' ∧
      row'.status = (op.savedStatus id).getD row.status := by
  cases op with
  | save s fields =>
      simp only [Db.perform, Db.get?_save, DbOp.savedStatus]
      by_cases same : id = s.row.id
      · subst same
        refine ⟨s.row.assign fields row, by simp [stored], ?_⟩
        by_cases saves : Column.status ∈ fields <;> simp [SessionModel.assign_status, saves]
      · have other : ¬ s.row.id = id := fun e => same e.symm
        exact ⟨row, by simp [same, stored], by simp [other]⟩
  | setErrorIfNull j error =>
      have same := Db.setErrorIfNull_status db j error id
      rw [stored, Option.map_some] at same
      exact Option.map_eq_some_iff.mp same
  | createSession new =>
      simp only [Db.perform, Db.createSession]
      split
      next sessions inserted => exact ⟨row, Table.get?_insert_of_ne inserted stored, rfl⟩
      next => exact ⟨row, stored, rfl⟩
  | beginTransaction | endTransaction | getSession | timedOutSessions | expiredSessions
  | orphanedSessions | countSessions | fetchSessions | getApp => exact ⟨row, stored, rfl⟩

theorem statusSave_held {f : Frame} {s : SessionInstance} {fields : List Column}
    (awaits : frameOp f = some (.save s fields)) (saves : .status ∈ fields) :
    ∃ readAs, ⟨s, readAs⟩ ∈ frameHeld f ∧ readAs ⊆ aliveStatuses := by
  cases f with
  | connect f =>
      cases f <;> simp only [frameOp, connectOp, Option.some.injEq, reduceCtorEq,
        DbOp.save.injEq] at awaits
      all_goals
        obtain ⟨rfl, -⟩ := awaits
        exact ⟨aliveStatuses, by simp [frameHeld, connectHeld], fun _ x => x⟩
  | ending f =>
      cases f <;> simp only [frameOp, endOp, Option.some.injEq, reduceCtorEq,
        DbOp.save.injEq] at awaits
      obtain ⟨rfl, -⟩ := awaits
      exact ⟨aliveStatuses, by simp [frameHeld, endHeld, EndCall.held], fun _ x => x⟩
  | request f =>
      cases f <;> simp only [frameOp, requestOp, Option.some.injEq, reduceCtorEq,
        DbOp.save.injEq] at awaits
      case savingError =>
        -- `update_session` saves the `error` column alone.
        obtain ⟨-, rfl⟩ := awaits
        contradiction
      case savingCheck =>
        obtain ⟨rfl, -⟩ := awaits
        exact ⟨[.idle], by simp [frameHeld, requestHeld], by simp [aliveStatuses]⟩
  | watch f =>
      cases f <;> simp only [frameOp, watchOp, Option.some.injEq, reduceCtorEq,
        DbOp.save.injEq] at awaits
      obtain ⟨rfl, -⟩ := awaits
      exact ⟨[.idle], by simp [frameHeld, watchHeld], by simp [aliveStatuses]⟩
  | start f =>
      cases f <;> simp [frameOp, startOp] at awaits
  | finished => simp [frameOp] at awaits

theorem ended_after_read {st : State} {p : Nat} {f : Frame} {s : SessionInstance}
    {fields : List Column} {row : SessionModel} (current : CopiesCurrent st)
    (task : st.tasks[p]? = some ⟨f, none⟩) (awaits : frameOp f = some (.save s fields))
    (saves : .status ∈ fields) (stored : st.session? s.row.id = some row)
    (ended : row.status ∈ terminalStatuses) : savedSince st.store s = some row.status := by
  obtain ⟨readAs, member, running⟩ := statusSave_held awaits saves
  obtain ⟨-, row', read, stored', readAs_read, status⟩ :=
    current p _ task _ (List.mem_append_left _ member)
  obtain rfl : row = row' := Option.some.inj (stored.symm.trans stored')
  cases since : savedSince st.store s with
  | some last => simp [status, since]
  | none =>
      -- Nothing was saved since the read, and no copy is read from an ended row.
      rw [since, Option.getD_none] at status
      exact absurd ended (mem_aliveStatuses.mp (status ▸ running readAs_read))

/-! ## Ended sessions stay as they ended -/

/-- The sessions that have ended in `st` have the same status in `st'`. -/
def KeepsEnded (st st' : State) : Prop :=
  ∀ id row, st.session? id = some row → row.status ∈ terminalStatuses →
    ∃ row', st'.session? id = some row' ∧ row'.status = row.status

/-- Once a row of the run is in a terminal status, no later step changes that status. -/
def EndedAbsorbing (cfg : Config) (st : State) (acts : List Action) : Prop :=
  ∀ pre mid post t u, acts = pre ++ mid ++ post → run cfg st pre = some t →
    run cfg t mid = some u → KeepsEnded t u

/--
No status is saved over an end that the saving handler has missed: if the last
status saved since it read the row is terminal, it is the one being saved.
-/
def NoMissedEnd (st : State) : Action → State → Prop
  | .execute p, _ => ∀ f s fields, st.tasks[p]? = some ⟨f, none⟩ →
      frameOp f = some (.save s fields) → .status ∈ fields →
        ∀ last, savedSince st.store s = some last → last ∈ terminalStatuses →
          last = s.row.status
  | _, _ => True

theorem keepsEnded_refl (st : State) : KeepsEnded st st := fun _ row stored _ => ⟨row, stored, rfl⟩

theorem keepsEnded_trans (s t u : State) (first : KeepsEnded s t) (second : KeepsEnded t u) :
    KeepsEnded s u := by
  intro id row stored ended
  obtain ⟨row', stored', same'⟩ := first id row stored ended
  obtain ⟨row'', stored'', same''⟩ := second id row' stored' (same' ▸ ended)
  exact ⟨row'', stored'', same''.trans same'⟩

theorem keepsEnded_of_store_eq {st st' : State} (same : st'.store = st.store) :
    KeepsEnded st st' := by
  intro id row stored _
  exact ⟨row, by simpa [State.session?, same] using stored, rfl⟩

theorem keepsEnded_iff_noMissedEnd {cfg : Config} {st st' : State} {act : Action}
    (current : CopiesCurrent st) (taken : step cfg st act = some st') :
    KeepsEnded st st' ↔ NoMissedEnd st act st' := by
  cases step_cases taken with
  | request | raise | resume | answer | tick =>
      exact ⟨fun _ => trivial, fun _ => keepsEnded_of_store_eq rfl⟩
  | execute p frame op db a task awaits effect =>
      obtain ⟨-, rfl, rfl⟩ := perform_of_effect effect
      constructor
      · -- The missed end is the row's status now, and the save must leave it there.
        rintro keeps f s fields task' saving saves last since ended
        obtain rfl : frame = f := congrArg Task.frame (Option.some.inj (task.symm.trans task'))
        obtain rfl : op = .save s fields := Option.some.inj (awaits.symm.trans saving)
        obtain ⟨readAs, member, -⟩ := statusSave_held saving saves
        obtain ⟨-, row, read, stored, -, status⟩ :=
          current p _ task _ (List.mem_append_left _ member)
        have rowLast : row.status = last := by simp [status, since]
        obtain ⟨row', stored', kept⟩ := keeps _ row stored (rowLast ▸ ended)
        obtain ⟨row'', stored'', written⟩ :=
          perform_status cfg p stored (.save s fields)
        obtain rfl : row' = row'' := Option.some.inj (stored'.symm.trans stored'')
        rw [← rowLast, ← kept, written]
        simp [DbOp.savedStatus, saves]
      · -- Only a save changes a status, and over an ended row it has missed that end.
        intro fresh id row stored ended
        obtain ⟨row', stored', status⟩ := perform_status cfg p stored op
        refine ⟨row', stored', ?_⟩
        cases saved : op.savedStatus id with
        | none => simp [status, saved]
        | some new =>
            obtain ⟨s, fields, rfl, saves, rfl, rfl⟩ := savedStatus_eq_some saved
            have since := ended_after_read current task awaits saves stored ended
            rw [status, saved, Option.getD_some]
            exact (fresh frame s fields task awaits saves _ since ended).symm

/--
Along any run from a fresh process, terminal statuses are absorbing exactly when
no handler saves a status over an end it has missed.
-/
theorem endedAbsorbing_iff (cfg : Config) (sessions : SessionTable) (apps : AppTable) (now : Int)
    (acts : List Action) :
    EndedAbsorbing cfg (init sessions apps now) acts ↔
      Along cfg NoMissedEnd (init sessions apps now) acts := by
  unfold EndedAbsorbing
  rw [← Runs.along_iff_stretches keepsEnded_refl keepsEnded_trans]
  exact Runs.along_iff CopiesCurrent
    (fun _ _ _ current _ taken => copiesCurrent_step current taken)
    (fun _ _ _ current taken => keepsEnded_iff_noMissedEnd current taken)
    (copiesCurrent_init sessions apps now)

/--
A client connects; before its handler has looked at the row it loaded, the session
is terminated and recorded as STOPPED. The handler then saves CONNECTING.
-/
def terminatedWhileConnecting : List Action :=
  Sample.accepted 0 ++ [.execute 0,
    .request (.terminateSession Sample.user "session"), .execute 1, .resume 1,
    .answer 1 (.nvcf Sample.ok), .execute 1]

theorem endedAbsorbing_fails :
    ¬ EndedAbsorbing (Sample.config 1) (Sample.start none 0)
      (terminatedWhileConnecting ++ [.resume 0, .execute 0]) := by
  intro absorbing
  obtain ⟨row, stored, same⟩ := absorbing terminatedWhileConnecting [.resume 0, .execute 0] []
    _ _ rfl rfl rfl "session" _ rfl (by decide)
  obtain rfl := Option.some.inj stored
  exact absurd same (by decide)

end StreamingPortal.Sessions
