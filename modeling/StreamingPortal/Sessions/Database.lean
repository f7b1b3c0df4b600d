import StreamingPortal.Sessions.Model

set_option autoImplicit false

namespace StreamingPortal.Sessions

abbrev SessionTable := Table String SessionModel SessionModel.id

abbrev AppTable := Table String PublishedAppModel PublishedAppModel.id

structure StatusSave where
  id : String
  status : SessionStatus
deriving DecidableEq, Repr

structure Db where
  sessions : SessionTable
  apps : AppTable
  -- The task that is inside `in_transaction()`.
  transaction : Option Nat
  -- A history variable: the status saves that have reached a row, oldest first.
  journal : List StatusSave

def Db.load (db : Db) (row : SessionModel) : SessionInstance :=
  ⟨row, row.appId.bind db.apps.get?, db.journal.length⟩

def Db.getSession (db : Db) (id : String) (nvcfRequestId userId : Option String) :
    Option SessionInstance :=
  -- `SessionModel.get_or_none(...)`
  ((db.sessions.get? id).filter fun row =>
    (match nvcfRequestId with | some n => decide (row.nvcfRequestId = some n) | none => true) &&
      match userId with | some u => decide (row.userId = u) | none => true).map db.load

def Db.selectSessions (db : Db) (p : SessionModel → Bool) : List SessionInstance :=
  (db.sessions.select p).map db.load

def timedOut (cutoff : Int) (row : SessionModel) : Bool :=
  decide (row.status ∈ aliveStatuses) && decide (row.startDate ≤ cutoff)

def expiredIdle (cutoff : Int) (row : SessionModel) : Bool :=
  decide (row.status = .idle) && row.endDate.any fun endDate => decide (endDate ≤ cutoff)

def orphanedIdle (cutoff : Int) (row : SessionModel) : Bool :=
  decide (row.status = .idle) && decide (row.startDate ≤ cutoff) && row.endDate.isNone

def Db.save (db : Db) (session : SessionInstance) (fields : List Column) : Db :=
  { db with
    sessions := db.sessions.update session.row.id (session.row.assign fields) fun _ => rfl
    journal :=
      if .status ∈ fields ∧ (db.sessions.get? session.row.id).isSome then
        db.journal ++ [⟨session.row.id, session.row.status⟩]
      else db.journal }

/-- `filter(id=id, error__isnull=True).update(error=error)` and the number of rows it hits. -/
def Db.setErrorIfNull (db : Db) (id error : String) : Db × Nat :=
  match db.sessions.get? id with
  | some row =>
      if row.error = none then
        ({ db with
            sessions := db.sessions.update id (fun r => { r with error := some error })
              fun _ => rfl }, 1)
      else (db, 0)
  | none => (db, 0)

def Db.createSession (db : Db) (row : SessionModel) : Db × Answer :=
  match db.sessions.insert? row with
  | some sessions => ({ db with sessions := sessions }, .created (db.load row))
  | none => (db, .raised)

def Db.perform (cfg : Config) (db : Db) (p : Nat) : DbOp → Db × Answer
  | .getSession id nvcfRequestId userId => (db, .session (db.getSession id nvcfRequestId userId))
  | .timedOutSessions cutoff => (db, .sessions (db.selectSessions (timedOut cutoff)))
  | .expiredSessions cutoff => (db, .sessions (db.selectSessions (expiredIdle cutoff)))
  | .orphanedSessions cutoff => (db, .sessions (db.selectSessions (orphanedIdle cutoff)))
  | .countSessions q => (db, .count (db.sessions.count q.matches))
  | .fetchSessions q order descending offset limit =>
      (db, .sessions
        (((cfg.arrange order descending (db.selectSessions q.matches)).drop offset).take limit))
  | .getApp id => (db, .app (db.apps.get? id))
  | .createSession row => db.createSession row
  | .save session fields => (db.save session fields, .saved)
  | .setErrorIfNull id error =>
      ((db.setErrorIfNull id error).1, .affected (db.setErrorIfNull id error).2)
  | .beginTransaction => ({ db with transaction := some p }, .done)
  | .endTransaction => ({ db with transaction := none }, .done)

def Db.blocked (cfg : Config) (db : Db) (p : Nat) : Bool :=
  -- Whether another task's transaction keeps the operations of `p` waiting.
  cfg.exclusiveTransactions && db.transaction.any fun q => decide (q ≠ p)

def DbOp.failure : DbOp → Option Answer
  -- `COMMIT` and `ROLLBACK` are taken to succeed.
  | .endTransaction => none
  | _ => some .raised

/-! ## What an operation does to the session table -/

@[simp] theorem Db.load_row (db : Db) (row : SessionModel) : (db.load row).row = row := rfl

@[simp] theorem Db.load_readAt (db : Db) (row : SessionModel) :
    (db.load row).readAt = db.journal.length := rfl

theorem Db.getSession_eq_some {db : Db} {id : String} {nvcfRequestId userId : Option String}
    {s : SessionInstance} (h : db.getSession id nvcfRequestId userId = some s) :
    db.sessions.get? id = some s.row ∧ s = db.load s.row ∧
      (∀ n, nvcfRequestId = some n → s.row.nvcfRequestId = some n) ∧
      ∀ u, userId = some u → s.row.userId = u := by
  obtain ⟨row, found, rfl⟩ := Option.map_eq_some_iff.mp h
  obtain ⟨stored, admitted⟩ := Option.filter_eq_some_iff.mp found
  simp only [Bool.and_eq_true] at admitted
  refine ⟨stored, rfl, ?_, ?_⟩
  · rintro n rfl
    simpa using admitted.1
  · rintro u rfl
    simpa using admitted.2

theorem Db.mem_selectSessions {db : Db} {p : SessionModel → Bool} {s : SessionInstance}
    (h : s ∈ db.selectSessions p) :
    db.sessions.get? s.row.id = some s.row ∧ s = db.load s.row ∧ p s.row = true := by
  obtain ⟨row, selected, rfl⟩ := List.mem_map.mp h
  obtain ⟨stored, admitted⟩ := Table.mem_select.mp selected
  exact ⟨stored, rfl, admitted⟩

@[simp] theorem SessionModel.assign_userId (s : SessionModel) (fields : List Column)
    (row : SessionModel) : (s.assign fields row).userId = row.userId := rfl

theorem SessionModel.assign_status (s : SessionModel) (fields : List Column)
    (row : SessionModel) :
    (s.assign fields row).status = if .status ∈ fields then s.status else row.status := rfl

theorem Db.get?_save (db : Db) (s : SessionInstance) (fields : List Column) (id : String) :
    (db.save s fields).sessions.get? id =
      if id = s.row.id then (db.sessions.get? s.row.id).map (s.row.assign fields)
      else db.sessions.get? id :=
  Table.get?_update db.sessions s.row.id id (s.row.assign fields) fun _ => rfl

theorem Db.setErrorIfNull_status (db : Db) (id error j : String) :
    ((db.setErrorIfNull id error).1.sessions.get? j).map SessionModel.status =
      (db.sessions.get? j).map SessionModel.status := by
  unfold Db.setErrorIfNull
  split
  next row stored =>
    split
    · by_cases same : j = id
      · subst same
        simp [stored]
      · simp [Table.get?_update_ne _ _ _ same]
    · rfl
  next => rfl

@[simp] theorem Db.setErrorIfNull_journal (db : Db) (id error : String) :
    (db.setErrorIfNull id error).1.journal = db.journal := by
  unfold Db.setErrorIfNull
  split
  · split <;> rfl
  · rfl

end StreamingPortal.Sessions
