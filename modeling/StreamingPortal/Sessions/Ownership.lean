import StreamingPortal.Sessions.System

set_option autoImplicit false

/-! # The rows of one user, and the operations that look at no others -/

namespace StreamingPortal.Sessions

def ownRow (u : User) (row : SessionModel) : Bool := decide (row.userId = u.sub)

def Db.rowsOf (db : Db) (u : User) : List SessionModel := db.sessions.select (ownRow u)

def Db.rowsOfOthers (db : Db) (u : User) : List SessionModel :=
  db.sessions.select fun row => !ownRow u row

/-- Two databases that differ in the rows of other users only, with task `p` free to run. -/
structure Agree (u : User) (p : Nat) (db₁ db₂ : Db) : Prop where
  rows : db₁.rowsOf u = db₂.rowsOf u
  apps : db₁.apps = db₂.apps
  journal : db₁.journal = db₂.journal
  free₁ : db₁.transaction = none ∨ db₁.transaction = some p
  free₂ : db₂.transaction = none ∨ db₂.transaction = some p

def Db.Owned (db : Db) (u : User) (id : String) : Prop :=
  id ∈ (db.rowsOf u).map SessionModel.id

def OwnOp (u : User) : DbOp → Prop
  -- An operation that asks for the rows of one user only.
  | .getSession _ _ userId => userId = some u.sub
  | .countSessions q | .fetchSessions q _ _ _ _ => q.userId = some u.sub
  | .createSession row => row.userId = u.sub
  | .timedOutSessions _ | .expiredSessions _ | .orphanedSessions _ => False
  | .getApp _ | .save _ _ | .setErrorIfNull _ _ | .beginTransaction | .endTransaction => True

def DbOp.target : DbOp → Option String
  | .save session _ => some session.row.id
  | .setErrorIfNull id _ => some id
  | _ => none

def DbOp.inserted : DbOp → Option String
  | .createSession row => some row.id
  | _ => none

theorem Agree.symm {u : User} {p : Nat} {db₁ db₂ : Db} (agree : Agree u p db₁ db₂) :
    Agree u p db₂ db₁ :=
  ⟨agree.rows.symm, agree.apps.symm, agree.journal.symm, agree.free₂, agree.free₁⟩

theorem Agree.load {u : User} {p : Nat} {db₁ db₂ : Db} (agree : Agree u p db₁ db₂)
    (row : SessionModel) : db₁.load row = db₂.load row := by
  simp [Db.load, agree.apps, agree.journal]

theorem Agree.owned {u : User} {p : Nat} {db₁ db₂ : Db} (agree : Agree u p db₁ db₂)
    {id : String} : db₁.Owned u id ↔ db₂.Owned u id := by
  simp [Db.Owned, agree.rows]

theorem Agree.lookup {u : User} {p : Nat} {db₁ db₂ : Db} (agree : Agree u p db₁ db₂)
    (id : String) :
    (db₁.sessions.get? id).filter (ownRow u) = (db₂.sessions.get? id).filter (ownRow u) := by
  have rows : db₁.sessions.select (ownRow u) = db₂.sessions.select (ownRow u) := agree.rows
  rw [Table.get?_filter, Table.get?_filter, rows]

theorem Agree.unblocked {u : User} {p : Nat} {db₁ db₂ : Db}
    (agree : Agree u p db₁ db₂) (cfg : Config) :
    db₁.blocked cfg p = false ∧ db₂.blocked cfg p = false := by
  have free {db : Db} (h : db.transaction = none ∨ db.transaction = some p) :
      db.blocked cfg p = false := by
    rcases h with h | h <;> simp [Db.blocked, h]
  exact ⟨free agree.free₁, free agree.free₂⟩

theorem owned_iff {db : Db} {u : User} {id : String} :
    db.Owned u id ↔ ∃ row, db.sessions.get? id = some row ∧ row.userId = u.sub := by
  unfold Db.Owned Db.rowsOf
  rw [List.mem_map]
  constructor
  · rintro ⟨row, selected, rfl⟩
    obtain ⟨stored, own⟩ := Table.mem_select.mp selected
    exact ⟨row, stored, by simpa [ownRow] using own⟩
  · rintro ⟨row, stored, own⟩
    have here := (Table.mem_of_get? stored).2
    exact ⟨row, Table.mem_select.mpr ⟨by rw [here, stored], by simpa [ownRow] using own⟩, here⟩

theorem selectSessions_own {db : Db} {u : User} {q : SessionQuery} (own : q.userId = some u.sub) :
    db.selectSessions q.matches = ((db.rowsOf u).filter q.matches).map db.load := by
  have narrower : ∀ row, q.matches row = true → ownRow u row = true := by
    intro row hit
    simp only [SessionQuery.matches, own, Bool.and_eq_true] at hit
    simpa [ownRow] using hit.2
  rw [Db.selectSessions, Db.rowsOf, Table.select_of_imp narrower]

theorem count_own {db : Db} {u : User} {q : SessionQuery} (own : q.userId = some u.sub) :
    db.sessions.count q.matches = ((db.rowsOf u).filter q.matches).length := by
  have narrower : ∀ row, q.matches row = true → ownRow u row = true := by
    intro row hit
    simp only [SessionQuery.matches, own, Bool.and_eq_true] at hit
    simpa [ownRow] using hit.2
  rw [Table.count_eq_length, Db.rowsOf, Table.select_of_imp narrower]

theorem getSession_own {db : Db} {u : User} {id : String} {nvcfRequestId : Option String} :
    db.getSession id nvcfRequestId (some u.sub) =
      ((db.sessions.get? id).filter (ownRow u)).bind fun row =>
        if nvcfRequestId.all fun n => decide (row.nvcfRequestId = some n) then some (db.load row)
        else none := by
  unfold Db.getSession
  cases db.sessions.get? id with
  | none => rfl
  | some row =>
      by_cases own : row.userId = u.sub
      · cases nvcfRequestId with
        | none => simp [Option.filter, ownRow, own]
        | some n =>
            by_cases same : row.nvcfRequestId = some n <;> simp [Option.filter, ownRow, own, same]
      · simp [Option.filter, ownRow, own]

theorem getSession_any {u : User} {p : Nat} {db₁ db₂ : Db} (agree : Agree u p db₁ db₂)
    (id : String) (nvcfRequestId : Option String) :
    db₁.getSession id nvcfRequestId none = db₂.getSession id nvcfRequestId none ∨
      (∀ s, db₁.getSession id nvcfRequestId none = some s → s.row.userId ≠ u.sub) ∧
        ∀ s, db₂.getSession id nvcfRequestId none = some s → s.row.userId ≠ u.sub := by
  have foreign {db : Db} (missing : (db.sessions.get? id).filter (ownRow u) = none) :
      ∀ s, db.getSession id nvcfRequestId none = some s → s.row.userId ≠ u.sub := by
    intro s found own
    obtain ⟨stored, -⟩ := Db.getSession_eq_some found
    rw [stored] at missing
    simp [Option.filter, ownRow, own] at missing
  have lookup := agree.lookup id
  -- Ids are keys: a row of the user under `id` is the row under `id` in both databases.
  cases own : (db₁.sessions.get? id).filter (ownRow u) with
  | none => exact Or.inr ⟨foreign own, foreign (lookup ▸ own)⟩
  | some row =>
      left
      have stored₁ := (Option.filter_eq_some_iff.mp own).1
      have stored₂ := (Option.filter_eq_some_iff.mp (lookup ▸ own)).1
      simp [Db.getSession, stored₁, stored₂, Option.filter, agree.load]

/-! ## What an own operation does -/

theorem rowsOf_update (db : Db) (u : User) (id : String) (f : SessionModel → SessionModel)
    (keeps : ∀ row, (f row).id = row.id) (user : ∀ row, (f row).userId = row.userId) :
    (db.sessions.update id f keeps).select (ownRow u) =
      (db.rowsOf u).map fun row => if row.id = id then f row else row :=
  Table.select_update id f keeps fun row => by simp [ownRow, user]

theorem rowsOfOthers_update {db : Db} {u : User} {id : String} {f : SessionModel → SessionModel}
    (keeps : ∀ row, (f row).id = row.id) (user : ∀ row, (f row).userId = row.userId)
    (owned : db.Owned u id) :
    (db.sessions.update id f keeps).select (fun row => !ownRow u row) = db.rowsOfOthers u := by
  obtain ⟨row, stored, own⟩ := owned_iff.mp owned
  exact Table.select_update_of_not keeps (fun row => by simp [ownRow, user]) stored
    (by simp [ownRow, own])

/-- The same operation on both databases gives the same answer and keeps them in agreement. -/
structure Apart (u : User) (p : Nat) (db₁ db₂ : Db) (r₁ r₂ : Db × Answer) : Prop where
  answer : r₁.2 = r₂.2
  agree : Agree u p r₁.1 r₂.1
  others₁ : r₁.1.rowsOfOthers u = db₁.rowsOfOthers u
  others₂ : r₂.1.rowsOfOthers u = db₂.rowsOfOthers u
  keeps : ∀ id, db₁.Owned u id → r₁.1.Owned u id

theorem apart_read {u : User} {p : Nat} {db₁ db₂ : Db} (agree : Agree u p db₁ db₂)
    {a₁ a₂ : Answer} (same : a₁ = a₂) : Apart u p db₁ db₂ (db₁, a₁) (db₂, a₂) :=
  ⟨same, agree, rfl, rfl, fun _ owned => owned⟩

theorem owned_of_ids {db db' : Db} {u : User}
    (ids : (db.rowsOf u).map SessionModel.id ⊆ (db'.rowsOf u).map SessionModel.id) (id : String)
    (owned : db.Owned u id) : db'.Owned u id := ids owned

theorem apart_save {u : User} {p : Nat} {db₁ db₂ : Db} (agree : Agree u p db₁ db₂)
    {s : SessionInstance} (fields : List Column) (owned : db₁.Owned u s.row.id) (a : Answer) :
    Apart u p db₁ db₂ (db₁.save s fields, a) (db₂.save s fields, a) := by
  have keepsId (row : SessionModel) : (s.row.assign fields row).id = row.id := rfl
  have keepsUser (row : SessionModel) : (s.row.assign fields row).userId = row.userId := rfl
  obtain ⟨row₁, stored₁, -⟩ := owned_iff.mp owned
  obtain ⟨row₂, stored₂, -⟩ := owned_iff.mp (agree.owned.mp owned)
  have rows (db : Db) : (db.save s fields).rowsOf u =
      (db.rowsOf u).map fun row => if row.id = s.row.id then s.row.assign fields row else row :=
    rowsOf_update db u s.row.id _ keepsId keepsUser
  refine ⟨rfl, ⟨?_, agree.apps, ?_, agree.free₁, agree.free₂⟩, ?_, ?_, ?_⟩
  · rw [rows, rows, agree.rows]
  · simp [Db.save, stored₁, stored₂, agree.journal]
  · exact rowsOfOthers_update keepsId keepsUser owned
  · exact rowsOfOthers_update keepsId keepsUser (agree.owned.mp owned)
  · -- A save moves no id.
    refine owned_of_ids ?_
    rw [rows, List.map_map]
    intro id member
    obtain ⟨row, selected, rfl⟩ := List.mem_map.mp member
    refine List.mem_map.mpr ⟨row, selected, ?_⟩
    simp only [Function.comp_apply]
    split <;> rfl

theorem setErrorIfNull_eq {db : Db} {id error : String} {row : SessionModel}
    (stored : db.sessions.get? id = some row) :
    db.setErrorIfNull id error =
      if row.error = none then
        ({ db with
            sessions := db.sessions.update id (fun r => { r with error := some error })
              fun _ => rfl }, 1)
      else (db, 0) := by
  simp [Db.setErrorIfNull, stored]

theorem apart_setErrorIfNull {u : User} {p : Nat} {db₁ db₂ : Db} (agree : Agree u p db₁ db₂)
    {id : String} (error : String) (owned : db₁.Owned u id) :
    Apart u p db₁ db₂
      ((db₁.setErrorIfNull id error).1, .affected (db₁.setErrorIfNull id error).2)
      ((db₂.setErrorIfNull id error).1, .affected (db₂.setErrorIfNull id error).2) := by
  obtain ⟨row, stored₁, own⟩ := owned_iff.mp owned
  have stored₂ : db₂.sessions.get? id = some row := by
    have lookup := agree.lookup id
    rw [stored₁] at lookup
    simp only [Option.filter, ownRow, own, decide_true, if_true] at lookup
    exact (Option.filter_eq_some_iff.mp lookup.symm).1
  rw [setErrorIfNull_eq stored₁, setErrorIfNull_eq stored₂]
  split
  · have keepsId (row : SessionModel) : { row with error := some error }.id = row.id := rfl
    have keepsUser (row : SessionModel) :
        { row with error := some error }.userId = row.userId := rfl
    refine ⟨rfl, ⟨?_, agree.apps, agree.journal, agree.free₁, agree.free₂⟩, ?_, ?_, ?_⟩
    · have rows₁ := rowsOf_update db₁ u id _ keepsId keepsUser
      have rows₂ := rowsOf_update db₂ u id _ keepsId keepsUser
      rw [agree.rows] at rows₁
      exact rows₁.trans rows₂.symm
    · exact rowsOfOthers_update keepsId keepsUser owned
    · exact rowsOfOthers_update keepsId keepsUser (agree.owned.mp owned)
    · intro j mine
      obtain ⟨found, stored, user⟩ := owned_iff.mp mine
      refine owned_iff.mpr ?_
      simp only [Table.get?_update]
      split
      next here =>
        subst here
        exact ⟨{ found with error := some error }, by simp [stored], user⟩
      next => exact ⟨found, stored, user⟩
  · exact apart_read agree rfl

theorem apart_createSession {u : User} {p : Nat} {db₁ db₂ : Db} (agree : Agree u p db₁ db₂)
    {row : SessionModel} (own : row.userId = u.sub) (fresh₁ : db₁.sessions.get? row.id = none)
    (fresh₂ : db₂.sessions.get? row.id = none) :
    Apart u p db₁ db₂ (db₁.createSession row) (db₂.createSession row) := by
  obtain ⟨sessions₁, inserted₁⟩ := Table.insert?_of_fresh fresh₁
  obtain ⟨sessions₂, inserted₂⟩ := Table.insert?_of_fresh fresh₂
  have others : (!ownRow u row) = false := by simp [ownRow, own]
  simp only [Db.createSession, inserted₁, inserted₂]
  refine ⟨by simp [agree.load], ⟨?_, agree.apps, agree.journal, agree.free₁, agree.free₂⟩,
    ?_, ?_, ?_⟩
  · have rows : db₁.sessions.select (ownRow u) = db₂.sessions.select (ownRow u) := agree.rows
    simp only [Db.rowsOf, Table.select_insert _ inserted₁, Table.select_insert _ inserted₂, rows]
  · simp [Db.rowsOfOthers, Table.select_insert _ inserted₁, others]
  · simp [Db.rowsOfOthers, Table.select_insert _ inserted₂, others]
  · refine owned_of_ids ?_
    simp [Db.rowsOf, Table.select_insert _ inserted₁]

theorem perform_apart (cfg : Config) {u : User} {p : Nat} {db₁ db₂ : Db} {op : DbOp}
    (agree : Agree u p db₁ db₂) (own : OwnOp u op)
    (target : ∀ id, op.target = some id → db₁.Owned u id)
    (fresh : ∀ id, op.inserted = some id →
      db₁.sessions.get? id = none ∧ db₂.sessions.get? id = none) :
    Apart u p db₁ db₂ (db₁.perform cfg p op) (db₂.perform cfg p op) := by
  cases op with
  | getSession id cookie userId =>
      obtain rfl : userId = some u.sub := own
      refine apart_read agree ?_
      rw [getSession_own, getSession_own, agree.lookup id]
      simp only [agree.load]
  | countSessions q =>
      refine apart_read agree ?_
      rw [count_own own, count_own own, agree.rows]
  | fetchSessions q order descending offset limit =>
      refine apart_read agree ?_
      rw [selectSessions_own own, selectSessions_own own, agree.rows]
      simp only [funext agree.load]
  | getApp id => exact apart_read agree (by rw [agree.apps])
  | save s fields => exact apart_save agree fields (target _ rfl) _
  | setErrorIfNull id error => exact apart_setErrorIfNull agree error (target _ rfl)
  | createSession row =>
      obtain ⟨fresh₁, fresh₂⟩ := fresh _ rfl
      exact apart_createSession agree own fresh₁ fresh₂
  | beginTransaction =>
      exact ⟨rfl, ⟨agree.rows, agree.apps, agree.journal, Or.inr rfl, Or.inr rfl⟩, rfl, rfl,
        fun _ owned => owned⟩
  | endTransaction =>
      exact ⟨rfl, ⟨agree.rows, agree.apps, agree.journal, Or.inl rfl, Or.inl rfl⟩, rfl, rfl,
        fun _ owned => owned⟩
  | timedOutSessions | expiredSessions | orphanedSessions => exact own.elim

end StreamingPortal.Sessions
