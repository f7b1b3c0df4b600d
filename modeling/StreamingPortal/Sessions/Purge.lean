import StreamingPortal.Shared.Without
import StreamingPortal.Shared.Lockstep
import StreamingPortal.Sessions.Ownership
import StreamingPortal.Sessions.Quota
import StreamingPortal.Sessions.Authority

set_option autoImplicit false

/-!
# A task with and without `watch_session_data_purge`

The same task runs over two databases, one of which has lost some of its ended sessions.
-/

namespace StreamingPortal.Sessions

open Tasks

inductive PurgeFrame
  | deleting (cutoff : Int)
  | sleeping
  | finished

structure PurgeState where
  base : State
  purge : PurgeFrame
  -- A history variable: the rows that have been deleted, as they were.
  gone : List SessionModel

inductive PurgeAction
  | base (act : Action)
  -- The loop starts over, with the retention that is set by then.
  | wake (retentionDays : Int)
  | delete
  | raise

def days (n : Int) : Int := seconds (86400 * n)

def purgeable (cutoff : Int) (row : SessionModel) : Bool :=
  decide (row.status ∈ terminalStatuses) && decide (row.startDate ≤ cutoff)

def watchSessionDataPurge (w : World) (retentionDays : Int) : PurgeFrame :=
  if retentionDays > 0 then .deleting (w.now - days retentionDays) else .sleeping

def PurgeState.ids (st : PurgeState) : List String := st.gone.map SessionModel.id

def PurgeState.deleted (st : PurgeState) (cutoff : Int) : List SessionModel :=
  st.base.store.sessions.select (purgeable cutoff)

def Db.purge (db : Db) (cutoff : Int) : Db :=
  { db with sessions := db.sessions.deleteWhere (purgeable cutoff) }

def purgeStep (cfg : Config) (st : PurgeState) : PurgeAction → Option PurgeState
  | .base act => (step cfg st.base act).map fun base => { st with base := base }
  | .wake retentionDays =>
      match st.purge with
      | .sleeping => some { st with purge := watchSessionDataPurge st.base.world retentionDays }
      | _ => none
  | .delete =>
      match st.purge with
      | .deleting cutoff =>
          -- The transaction of a task keeps this statement out, too.
          if cfg.exclusiveTransactions && st.base.store.transaction.isSome then none
          else some
            { base := { st.base with store := st.base.store.purge cutoff }
              purge := .sleeping
              gone := st.gone ++ st.deleted cutoff }
      | _ => none
  | .raise =>
      match st.purge with
      | .deleting _ => some { st with purge := .finished }
      | _ => none

def purgeAttempt (cfg : Config) (st : PurgeState) (act : PurgeAction) : PurgeState :=
  (purgeStep cfg st act).getD st

def purgeInit (sessions : SessionTable) (apps : AppTable) (now : Int) : PurgeState :=
  ⟨init sessions apps now, .sleeping, []⟩

/-! ## The same actions without the purge -/

def PurgeAction.base? : PurgeAction → Option Action
  | .base act => some act
  | _ => none

def withoutPurge (acts : List PurgeAction) : List Action := acts.filterMap PurgeAction.base?

def withPurge (cfg : Config) (st : PurgeState) (acts : List PurgeAction) : PurgeState :=
  acts.foldl (purgeAttempt cfg) st

def schedule (cfg : Config) (st : State) (acts : List Action) : State :=
  acts.foldl (attempt (backend cfg)) st

def fullAttempt (cfg : Config) (st : State) (act : PurgeAction) : State :=
  match act.base? with
  | some act => attempt (backend cfg) st act
  | none => st

theorem schedule_withoutPurge (cfg : Config) (st : State) (acts : List PurgeAction) :
    schedule cfg st (withoutPurge acts) = acts.foldl (fullAttempt cfg) st := by
  induction acts generalizing st with
  | nil => rfl
  | cons act acts ih =>
      cases act with
      | base act => exact ih _
      | wake | delete | raise => exact ih st

/-! ## What no purge may hit -/

def creates : Frame → List String
  | .start (.creating _ _ _ row _) => [row.id]
  | _ => []

-- The sessions that a task has a copy of, or is about to create.
def heldIds (t : Task) : List String := (taskCopies t).map SessionModel.id ++ creates t.frame

def PurgeFrame.cutoff? : PurgeFrame → Option Int
  | .deleting cutoff => some cutoff
  | _ => none

def drawnId : Action → Option String
  | .answer _ (.nvcfStarted _ uuid) => some uuid
  | _ => none

/-- No task holds a session that is purged, and no id is drawn again. -/
def Careful (st : PurgeState) : PurgeAction → Prop
  | .delete => ∀ cutoff ∈ st.purge.cutoff?, ∀ t ∈ st.base.tasks, ∀ row ∈ st.deleted cutoff,
      row.id ∉ heldIds t
  | .base act => ∀ uuid ∈ drawnId act, uuid ∉ st.ids
  | .wake _ | .raise => True

instance Careful.decidable (st : PurgeState) : (act : PurgeAction) → Decidable (Careful st act)
  | .delete => inferInstanceAs (Decidable (∀ cutoff ∈ st.purge.cutoff?, ∀ t ∈ st.base.tasks,
      ∀ row ∈ st.deleted cutoff, row.id ∉ heldIds t))
  | .base act => inferInstanceAs (Decidable (∀ uuid ∈ drawnId act, uuid ∉ st.ids))
  | .wake _ | .raise => inferInstanceAs (Decidable True)

def CarefulAlong (cfg : Config) : PurgeState → List PurgeAction → Prop
  | _, [] => True
  | st, act :: acts => Careful st act ∧ CarefulAlong cfg (purgeAttempt cfg st act) acts

instance CarefulAlong.decidable (cfg : Config) :
    (st : PurgeState) → (acts : List PurgeAction) → Decidable (CarefulAlong cfg st acts)
  | _, [] => inferInstanceAs (Decidable True)
  | st, act :: acts =>
      have := CarefulAlong.decidable cfg (purgeAttempt cfg st act) acts
      inferInstanceAs (Decidable (Careful st act ∧
        CarefulAlong cfg (purgeAttempt cfg st act) acts))

/-! ## Requests that look sessions up -/

inductive Sought
  | session (id : String)
  | list

def Request.sought : Request → Option Sought
  | .getSession _ id | .updateSession _ id _ | .terminateSession _ id => some (.session id)
  | .getSessions _ => some .list
  | _ => none

/-- The request lists the sessions, or names one that is gone. -/
def Request.notices (gone : List String) (r : Request) : Bool :=
  match r.sought with
  | some (.session id) => decide (id ∈ gone)
  | some .list => true
  | none => false

theorem notices_of_sought {gone : List String} {r : Request} {l : Sought} (asks : r.sought = some l)
    (lost : ∀ id, l = .session id → id ∈ gone) : r.notices gone = true := by
  cases l with
  | session id => simp [Request.notices, asks, lost id rfl]
  | list => simp [Request.notices, asks]

theorem notices_mono {gone gone' : List String} {r : Request} (notices : r.notices gone = true)
    (more : ∀ id, id ∈ gone → id ∈ gone') : r.notices gone' = true := by
  cases asks : r.sought with
  | none => simp [Request.notices, asks] at notices
  | some l =>
      refine notices_of_sought asks fun id same => ?_
      subst same
      exact more id (by simpa [Request.notices, asks] using notices)

-- What the queries of a task from here on look up.
def frameSought : Frame → Option Sought
  | .request (.querying _ id _) => some (.session id)
  | .request (.askingListAdmin _ _) | .request (.countingSessions _ _ _)
  | .request (.fetchingSessions _ _ _ _) => some .list
  | _ => none

theorem frameSought_start {cfg : Config} {w : World} {r : Request} {l : Sought}
    (looks : frameSought (startRequest cfg w r) = some l) : r.sought = some l := by
  cases r with
  | connectToStream user id cookie =>
      simp only [startRequest, startConnect] at looks
      split at looks <;> contradiction
  | stopStream user id cookie => cases cookie <;> contradiction
  | startStream s =>
      simp only [startRequest, startStream] at looks
      split at looks <;> contradiction
  | checkSession | watchSessionTimeout | watchIdleSessions => contradiction
  | getSession | terminateSession => exact looks
  | updateSession user id error =>
      simp only [startRequest, startUpdateSession] at looks
      repeat' split at looks
      all_goals first | contradiction | exact looks
  | getSessions q =>
      simp only [startRequest, getSessions] at looks
      repeat' split at looks
      all_goals first | contradiction | exact looks

theorem requestResume_sought {cfg : Config} {w : World} {f : RequestFrame} {a : Answer}
    {f' : Frame} (h : requestResume cfg w f a = some f') {l : Sought}
    (looks : frameSought f' = some l) : frameSought (.request f) = some l := by
  cases requestResume_cases h with
  | queried user id caller found =>
      unfold querySession withSession terminateSession at looks
      repeat' split at looks
      all_goals contradiction
  | stopped user id cookie found =>
      unfold stopStream at looks
      repeat' split at looks
      all_goals contradiction
  | checked user id path found =>
      unfold checkSession at looks
      repeat' split at looks
      all_goals contradiction
  | admitted user id s caller =>
      unfold withSession terminateSession at looks
      repeat' split at looks
      all_goals contradiction
  | askedListAdmin | counted => exact looks
  | refused | savedError | savedCheck | fetched | raised => contradiction

theorem resume_sought {cfg : Config} {w w' : World} {p : Nat} {f f' : Frame} {a : Answer}
    (h : resumeFrame cfg w p f a = some (w', f')) {l : Sought}
    (looks : frameSought f' = some l) : frameSought f = some l := by
  have kind := resumeFrame_kind h
  cases f with
  | request f =>
      obtain ⟨next, resumed, same⟩ := Option.map_eq_some_iff.mp h
      obtain ⟨-, rfl⟩ := Prod.mk.inj same
      exact requestResume_sought resumed looks
  | connect | ending | start | watch | finished =>
      cases f' <;> contradiction

/-! ## A task with and without the purge -/

def Past (gone : List String) (s : SessionInstance) : Prop :=
  s.row.id ∈ gone ∧ s.row.status ∈ terminalStatuses

inductive Loose (gone : List String) : Task → Prop
  -- A lookup of a session that is gone; it changes nothing but the error of that session.
  | querying (user : User) (id : String) (caller : SessionQueryCaller)
      (found : Option SessionInstance) (past : ∀ s, found = some s → Past gone s) :
      Loose gone ⟨.request (.querying user id caller), some (.session found)⟩
  | askingAdmin (user : User) (id : String) (s : SessionInstance) (caller : SessionQueryCaller)
      (past : Past gone s) : Loose gone ⟨.request (.askingAdmin user id s caller), none⟩
  | savingError (s : SessionInstance) (answer : Option Answer) (past : s.row.id ∈ gone) :
      Loose gone ⟨.request (.savingError s), answer⟩
  | counting (l : ListRequest) (order : SessionOrder) (q : SessionQuery) (answer : Option Answer) :
      Loose gone ⟨.request (.countingSessions l order q), answer⟩
  | fetching (l : ListRequest) (order : SessionOrder) (q : SessionQuery) (total : Nat)
      (answer : Option Answer) : Loose gone ⟨.request (.fetchingSessions l order q total), answer⟩
  | finished (o : Outcome) : Loose gone ⟨.finished o, none⟩

def refuses : Frame → Bool
  -- An ended session is refused as one that is not there.
  | .connect (.loading _ _ _) | .request (.stopping _ _ _) | .request (.checking _ _ _) => true
  | _ => false

inductive Alike (gone : List String) (r : Request) : Task → Task → Prop
  | same (t : Task) (held : ∀ id ∈ heldIds t, id ∉ gone)
      (known : ∀ l, frameSought t.frame = some l → r.sought = some l)
      (stored : t.answer ≠ none → frameOp t.frame ≠ none) : Alike gone r t t
  | refused (f : Frame) (s : SessionInstance) (waits : refuses f = true)
      (past : s.row.status ∈ terminalStatuses) :
      Alike gone r ⟨f, some (.session none)⟩ ⟨f, some (.session (some s))⟩
  | loose (t t' : Task) (notices : r.notices gone = true) (loose : Loose gone t)
      (loose' : Loose gone t') : Alike gone r t t'

structure DbThin (gone : List String) (db full : Db) : Prop where
  apps : db.apps = full.apps
  transaction : db.transaction = full.transaction
  journal : db.journal = full.journal
  rows : Table.Without gone db.sessions full.sessions
  ended : ∀ row ∈ full.sessions.rows, row.id ∈ gone → row.status ∈ terminalStatuses

section Operations

variable {cfg : Config} {gone : List String} {db full : Db} {p : Nat} {op : DbOp} {f : Frame}

theorem DbThin.load (thin : DbThin gone db full) (row : SessionModel) :
    db.load row = full.load row := by
  simp [Db.load, thin.apps, thin.journal]

variable (cfg p) in
theorem DbThin.blocked (thin : DbThin gone db full) : db.blocked cfg p = full.blocked cfg p := by
  simp [Db.blocked, thin.transaction]

theorem DbThin.select (thin : DbThin gone db full) {q : SessionModel → Bool}
    (alive : ∀ row, q row = true → row.status ∈ aliveStatuses) :
    db.selectSessions q = full.selectSessions q := by
  have kept : db.sessions.select q = full.sessions.select q :=
    thin.rows.select fun row stored selected lost =>
      mem_aliveStatuses.mp (alive row selected) (thin.ended row stored lost)
  unfold Db.selectSessions
  rw [kept]
  exact List.map_congr_left fun row _ => thin.load row

theorem DbThin.updated (thin : DbThin gone db full) {id : String}
    (change : SessionModel → SessionModel) (keeps : ∀ row, (change row).id = row.id)
    (kept : id ∉ gone) :
    ∀ row ∈ (full.sessions.update id change keeps).rows, row.id ∈ gone →
      row.status ∈ terminalStatuses := by
  intro row' stored lost
  obtain ⟨row, before, rfl⟩ := List.mem_map.mp stored
  by_cases hit : row.id = id
  · simp only [hit, if_true, keeps] at lost
    exact absurd lost kept
  · simp only [hit, if_false] at lost ⊢
    exact thin.ended row before lost

theorem DbThin.perform (thin : DbThin gone db full)
    (kept : ∀ id, op.target = some id ∨ op.inserted = some id → id ∉ gone) :
    DbThin gone (db.perform cfg p op).1 (full.perform cfg p op).1 := by
  cases op with
  | save s fields =>
      have kept := kept _ (Or.inl rfl)
      refine ⟨thin.apps, thin.transaction, ?_,
        thin.rows.update _ (s.row.assign fields) fun _ => rfl,
        thin.updated (s.row.assign fields) (fun _ => rfl) kept⟩
      simp only [Db.perform, Db.save, thin.rows.get?_kept kept, thin.journal]
  | setErrorIfNull id error =>
      have kept := kept _ (Or.inl rfl)
      simp only [Db.perform, Db.setErrorIfNull, thin.rows.get?_kept kept]
      split
      next row stored =>
        split
        next =>
          exact ⟨thin.apps, thin.transaction, thin.journal,
            thin.rows.update _ (fun r => { r with error := some error }) fun _ => rfl,
            thin.updated (fun r => { r with error := some error }) (fun _ => rfl) kept⟩
        next => exact thin
      next => exact thin
  | createSession row =>
      have kept := kept _ (Or.inr rfl)
      have same := thin.rows.insert?_isSome kept
      simp only [Db.perform, Db.createSession]
      cases inserted : db.sessions.insert? row with
      | none =>
          have inserted' : full.sessions.insert? row = none := by simpa [inserted] using same
          simpa [inserted'] using thin
      | some sessions =>
          obtain ⟨sessions', inserted'⟩ : ∃ t, full.sessions.insert? row = some t :=
            Option.isSome_iff_exists.mp (by rw [← same, inserted]; rfl)
          rw [inserted']
          refine ⟨thin.apps, thin.transaction, thin.journal,
            thin.rows.insert kept inserted inserted', fun row' stored lost => ?_⟩
          rw [(Table.insert?_eq_some inserted').2] at stored
          rcases List.mem_append.mp stored with old | new
          · exact thin.ended row' old lost
          · obtain rfl := List.mem_singleton.mp new
            exact absurd lost kept
  | beginTransaction => exact ⟨thin.apps, rfl, thin.journal, thin.rows, thin.ended⟩
  | endTransaction => exact ⟨thin.apps, rfl, thin.journal, thin.rows, thin.ended⟩
  | _ => exact thin

theorem DbThin.copies (thin : DbThin gone db full) {s : SessionInstance}
    (copied : s ∈ (db.perform cfg p op).2.copies) : s.row.id ∉ gone :=
  (thin.rows.mem.mp (Table.mem_of_get? (perform_copied copied).2.1).1).2

theorem DbThin.getSession_kept (thin : DbThin gone db full) {id : String} (kept : id ∉ gone)
    (cookie userId : Option String) :
    db.getSession id cookie userId = full.getSession id cookie userId := by
  have load : db.load = full.load := funext thin.load
  unfold Db.getSession
  rw [thin.rows.get?_kept kept, load]

theorem DbThin.getSession_gone (thin : DbThin gone db full) {id : String} (lost : id ∈ gone)
    (cookie userId : Option String) :
    db.getSession id cookie userId = none ∧
      ∀ s, full.getSession id cookie userId = some s → Past gone s := by
  refine ⟨by simp [Db.getSession, thin.rows.get?_gone lost], fun s found => ?_⟩
  obtain ⟨stored, -⟩ := Db.getSession_eq_some found
  obtain ⟨member, named⟩ := Table.mem_of_get? stored
  have lost : s.row.id ∈ gone := by rwa [named]
  exact ⟨lost, thin.ended s.row member lost⟩

end Operations

/-! ## What the task gets -/

theorem getFrame_of_op {f : Frame} {id : String} {cookie userId : Option String}
    (awaits : frameOp f = some (.getSession id cookie userId)) :
    refuses f = true ∨ ∃ user caller, f = .request (.querying user id caller) := by
  cases f with
  | connect f =>
      cases f <;> first | exact Or.inl rfl | simp [frameOp, connectOp] at awaits
  | request f =>
      cases f with
      | querying user id' caller =>
          obtain ⟨rfl, -, -⟩ := DbOp.getSession.inj (Option.some.inj awaits)
          exact Or.inr ⟨user, caller, rfl⟩
      | stopping | checking => exact Or.inl rfl
      | _ => simp [frameOp, requestOp] at awaits
  | ending f | start f | watch f =>
      cases f <;> simp [frameOp, endOp, startOp, watchOp] at awaits
  | finished => simp [frameOp] at awaits

theorem countFrame_of_op {f : Frame} {q : SessionQuery}
    (awaits : frameOp f = some (.countSessions q)) :
    (∀ row, q.matches row = true → row.status ∈ aliveStatuses) ∨
      ∃ l order, f = .request (.countingSessions l order q) := by
  cases f with
  | start f =>
      cases f with
      | counting s =>
          obtain rfl := DbOp.countSessions.inj (Option.some.inj awaits)
          left
          intro row matched
          exact (runningQuery_matches.mp matched).1
      | _ => simp [frameOp, startOp] at awaits
  | request f =>
      cases f with
      | countingSessions l order q' =>
          obtain rfl := DbOp.countSessions.inj (Option.some.inj awaits)
          exact Or.inr ⟨l, order, rfl⟩
      | _ => simp [frameOp, requestOp] at awaits
  | connect f | ending f | watch f =>
      cases f <;> simp [frameOp, connectOp, endOp, watchOp] at awaits
  | finished => simp [frameOp] at awaits

theorem fetchFrame_of_op {f : Frame} {q : SessionQuery} {order : SessionOrder} {descending : Bool}
    {offset limit : Nat}
    (awaits : frameOp f = some (.fetchSessions q order descending offset limit)) :
    ∃ l total, f = .request (.fetchingSessions l order q total) := by
  cases f with
  | request f =>
      cases f with
      | fetchingSessions l order' q' total =>
          obtain ⟨rfl, rfl, -⟩ := DbOp.fetchSessions.inj (Option.some.inj awaits)
          exact ⟨l, total, rfl⟩
      | _ => simp [frameOp, requestOp] at awaits
  | connect f | ending f | start f | watch f =>
      cases f <;> simp [frameOp, connectOp, endOp, startOp, watchOp] at awaits
  | finished => simp [frameOp] at awaits

theorem mem_heldIds {t : Task} {id : String} :
    id ∈ heldIds t ↔ (∃ s ∈ frameCopies t.frame, s.row.id = id) ∨
      (∃ a, t.answer = some a ∧ ∃ s ∈ givenCopies t.frame a, s.row.id = id) ∨
        id ∈ creates t.frame := by
  have fixedIds (l : List SessionInstance) :
      id ∈ (fixedRows l).map SessionModel.id ↔ ∃ s ∈ l, s.row.id = id := by
    simp [fixedRows, SessionModel.fixed]
  unfold heldIds taskCopies
  rw [List.mem_append, List.map_append, List.mem_append, fixedIds, or_assoc]
  cases t.answer with
  | none => simp
  | some a => simp [fixedIds]

section Tasks

variable {cfg : Config} {gone : List String} {db full : Db} {p : Nat} {op : DbOp} {f : Frame}
variable {r : Request}

theorem held_answered {a : Answer} (held : ∀ id ∈ heldIds ⟨f, none⟩, id ∉ gone)
    (copies : ∀ s ∈ a.copies, s.row.id ∉ gone) : ∀ id ∈ heldIds ⟨f, some a⟩, id ∉ gone := by
  intro id mine
  rcases mem_heldIds.mp mine with copied | ⟨b, same, s, given, rfl⟩ | created
  · exact held id (mem_heldIds.mpr (Or.inl copied))
  · obtain rfl := Option.some.inj same
    unfold givenCopies at given
    split at given
    · exact copies s given
    · contradiction
  · exact held id (mem_heldIds.mpr (Or.inr (Or.inr created)))

theorem written_held {id : String} (awaits : frameOp f = some op)
    (written : op.target = some id ∨ op.inserted = some id) : id ∈ heldIds ⟨f, none⟩ := by
  cases op with
  | save s fields =>
      obtain rfl : s.row.id = id := by simpa [DbOp.target, DbOp.inserted] using written
      have copied := frameCopies_of_save (saveFrame_of_op awaits)
      exact mem_heldIds.mpr (Or.inl ⟨s, copied, rfl⟩)
  | setErrorIfNull j error =>
      obtain ⟨c, rfl, rfl⟩ := recordFrame_of_op awaits
      obtain rfl : c.session.row.id = id := by simpa [DbOp.target, DbOp.inserted] using written
      exact mem_heldIds.mpr (Or.inl ⟨c.session, List.mem_cons_self, rfl⟩)
  | createSession row =>
      obtain rfl : row.id = id := by simpa [DbOp.target, DbOp.inserted] using written
      obtain ⟨s, running, app, cookie, rfl⟩ := createFrame_of_op awaits
      exact mem_heldIds.mpr (Or.inr (Or.inr List.mem_cons_self))
  | _ => simp [DbOp.target, DbOp.inserted] at written

theorem alike_performed (thin : DbThin gone db full) (awaits : frameOp f = some op)
    (held : ∀ id ∈ heldIds ⟨f, none⟩, id ∉ gone)
    (known : ∀ l, frameSought f = some l → r.sought = some l) :
    Alike gone r ⟨f, some (db.perform cfg p op).2⟩ ⟨f, some (full.perform cfg p op).2⟩ := by
  have same (agree : (db.perform cfg p op).2 = (full.perform cfg p op).2) :
      Alike gone r ⟨f, some (db.perform cfg p op).2⟩ ⟨f, some (full.perform cfg p op).2⟩ := by
    rw [← agree]
    exact .same _ (held_answered held fun s copied => thin.copies copied) known
      fun _ => by simp [awaits]
  have kept (id : String) (written : op.target = some id ∨ op.inserted = some id) : id ∉ gone :=
    held id (written_held awaits written)
  cases op with
  | getSession id cookie userId =>
      by_cases lost : id ∈ gone
      · obtain ⟨missing, past⟩ := thin.getSession_gone lost cookie userId
        simp only [Db.perform, missing] at same ⊢
        cases found : full.getSession id cookie userId with
        | none =>
            rw [found] at same
            exact same rfl
        | some s =>
            rcases getFrame_of_op awaits with waits | ⟨user, caller, rfl⟩
            · exact .refused f s waits (past s found).2
            · have notices : r.notices gone = true := notices_of_sought (known _ rfl)
                fun j same => (Sought.session.inj same).symm ▸ lost
              refine .loose _ _ notices (.querying _ _ _ _ (by simp)) (.querying _ _ _ _ ?_)
              rintro s' ⟨⟩
              exact past s found
      · exact same (congrArg Answer.session (thin.getSession_kept lost cookie userId))
  | timedOutSessions cutoff =>
      refine same (congrArg Answer.sessions (thin.select fun row due => ?_))
      exact of_decide_eq_true (Bool.and_eq_true_iff.mp due).1
  | expiredSessions cutoff =>
      refine same (congrArg Answer.sessions (thin.select fun row due => ?_))
      simp [of_decide_eq_true (Bool.and_eq_true_iff.mp due).1, aliveStatuses]
  | orphanedSessions cutoff =>
      refine same (congrArg Answer.sessions (thin.select fun row due => ?_))
      have idle := (Bool.and_eq_true_iff.mp (Bool.and_eq_true_iff.mp due).1).1
      simp [of_decide_eq_true idle, aliveStatuses]
  | countSessions q =>
      rcases countFrame_of_op awaits with alive | ⟨l, order, rfl⟩
      · refine same (congrArg Answer.count (thin.rows.count fun row stored matched lost => ?_))
        exact mem_aliveStatuses.mp (alive row matched) (thin.ended row stored lost)
      · have notices : r.notices gone = true := notices_of_sought (known .list rfl) (by simp)
        exact .loose _ _ notices (.counting _ _ _ _) (.counting _ _ _ _)
  | fetchSessions q order descending offset limit =>
      obtain ⟨l, total, rfl⟩ := fetchFrame_of_op awaits
      have notices : r.notices gone = true := notices_of_sought (known .list rfl) (by simp)
      exact .loose _ _ notices (.fetching _ _ _ _ _) (.fetching _ _ _ _ _)
  | getApp id => exact same (by simp only [Db.perform, thin.apps])
  | createSession row =>
      have inserts := thin.rows.insert?_isSome (kept row.id (Or.inr rfl))
      refine same ?_
      simp only [Db.perform, Db.createSession, thin.load]
      cases inserted : db.sessions.insert? row <;> cases inserted' : full.sessions.insert? row <;>
        simp [inserted, inserted'] at inserts ⊢
  | setErrorIfNull id error =>
      refine same ?_
      simp only [Db.perform, Db.setErrorIfNull, thin.rows.get?_kept (kept id (Or.inl rfl))]
      cases full.sessions.get? id with
      | none => rfl
      | some row => by_cases unset : row.error = none <;> simp [unset]
  | save | beginTransaction | endTransaction => exact same rfl

theorem held_resumed {w w' : World} {f' : Frame} {a : Answer} {stored : Option Answer}
    (given : stored = some a ∧ frameOp f ≠ none ∨ frameOp f = none)
    (held : ∀ id ∈ heldIds ⟨f, stored⟩, id ∉ gone)
    (drawn : frameOp f = none → ∀ response uuid, a = .nvcfStarted response uuid → uuid ∉ gone)
    (h : resumeFrame cfg w p f a = some (w', f')) : ∀ id ∈ heldIds ⟨f', none⟩, id ∉ gone := by
  intro id mine
  rcases mem_heldIds.mp mine with ⟨s, copied, rfl⟩ | ⟨b, same, -⟩ | created
  · have sources := resumeFrame_copies h (List.mem_map_of_mem copied)
    rcases List.mem_append.mp sources with old | new
    · obtain ⟨s₀, copied₀, fixed⟩ := List.mem_map.mp old
      rw [← (columns_of_fixed fixed).1]
      exact held _ (mem_heldIds.mpr (Or.inl ⟨s₀, copied₀, rfl⟩))
    · obtain ⟨s₀, given₀, fixed⟩ := List.mem_map.mp new
      rw [← (columns_of_fixed fixed).1]
      rcases given with ⟨rfl, -⟩ | external
      · exact held _ (mem_heldIds.mpr (Or.inr (Or.inl ⟨a, rfl, s₀, given₀, rfl⟩)))
      · simp [givenCopies, external] at given₀
  · contradiction
  · have kind := resumeFrame_kind h
    cases f with
    | start f =>
        cases startResume_cases h with
        | started s running app response uuid cookie =>
            obtain rfl := List.mem_singleton.mp created
            exact drawn rfl response _ rfl
        | _ => simp [creates, leave] at created
    | connect | ending | request | watch | finished =>
        cases f' with
        | start => simp [Frame.kind, Kind.next] at kind
        | _ => simp [creates] at created

theorem alike_resumed {w w' : World} {f' : Frame} {a : Answer} {stored : Option Answer}
    (given : stored = some a ∧ frameOp f ≠ none ∨ frameOp f = none)
    (held : ∀ id ∈ heldIds ⟨f, stored⟩, id ∉ gone)
    (known : ∀ l, frameSought f = some l → r.sought = some l)
    (drawn : frameOp f = none → ∀ response uuid, a = .nvcfStarted response uuid → uuid ∉ gone)
    (h : resumeFrame cfg w p f a = some (w', f')) : Alike gone r ⟨f', none⟩ ⟨f', none⟩ :=
  .same _ (held_resumed given held drawn h) (fun l looks => known l (resume_sought h looks))
    fun stored => absurd rfl stored

variable (cfg p) in
theorem refused_resumes {s : SessionInstance} (waits : refuses f = true)
    (past : s.row.status ∈ terminalStatuses) (w : World) :
    resumeFrame cfg w p f (.session (some s)) = resumeFrame cfg w p f (.session none) ∧
      ∃ w' f', resumeFrame cfg w p f (.session none) = some (w', f') ∧
        heldIds ⟨f', none⟩ = [] ∧ frameSought f' = none := by
  cases f with
  | connect f =>
      cases f with
      | loading =>
          exact ⟨by simp [resumeFrame, connectResume, checkAdmission, past], _, _, rfl, rfl, rfl⟩
      | _ => contradiction
  | request f =>
      cases f with
      | stopping =>
          exact ⟨by simp [resumeFrame, requestResume, stopStream, past], _, _, rfl, rfl, rfl⟩
      | checking =>
          exact ⟨by simp [resumeFrame, requestResume, checkSession, past], _, _, rfl, rfl, rfl⟩
      | _ => contradiction
  | _ => contradiction

/-! ## A lookup of a session that is gone -/

theorem loose_withSession {user : User} {s : SessionInstance} {caller : SessionQueryCaller}
    (past : Past gone s) : Loose gone ⟨withSession user s caller, none⟩ := by
  cases caller with
  | getSession => exact .finished _
  | updateSession error =>
      cases error with
      | none => exact .finished _
      | some error => exact .savingError _ none past.1
  | terminateSession =>
      unfold withSession terminateSession
      rw [if_pos past.2]
      exact .finished _

theorem loose_resumed {w : World} {f : RequestFrame} {f' : Frame} {a : Answer}
    {stored : Option Answer} (loose : Loose gone ⟨.request f, stored⟩)
    (given : stored = some a ∨ frameOp (.request f) = none)
    (h : requestResume cfg w f a = some f') : Loose gone ⟨f', none⟩ := by
  cases requestResume_cases h with
  | queried user id caller found =>
      obtain rfl := given.resolve_right (by simp [frameOp, requestOp])
      cases loose with
      | querying _ _ _ _ past =>
          unfold querySession
          split
          next => exact .finished _
          next s =>
            split
            · exact loose_withSession (past s rfl)
            · exact .askingAdmin _ _ _ _ (past s rfl)
  | admitted user id s caller =>
      cases loose with
      | askingAdmin _ _ _ _ past => exact loose_withSession past
  | counted l order q total => exact .fetching _ _ _ _ _
  | stopped | checked | askedListAdmin => cases loose
  | refused | savedError | savedCheck | fetched | raised => exact .finished _

inductive LooseWrite (gone : List String) (db : Db) : Db → Prop
  | none : LooseWrite gone db db
  | error (s : SessionInstance) (past : s.row.id ∈ gone) : LooseWrite gone db (db.save s [.error])

theorem loose_moved {db db' : Db} {w w' : World} {t t' : Task} {act : Action}
    (loose : Loose gone t) (moved : Moved (backend cfg) db w p t act db' w' t') :
    w' = w ∧ Loose gone t' ∧ LooseWrite gone db db' := by
  have resumed {f f' : Frame} {a : Answer} {stored : Option Answer}
      (loose : Loose gone ⟨f, stored⟩) (given : stored = some a ∨ frameOp f = none)
      (h : resumeFrame cfg w p f a = some (w', f')) : w' = w ∧ Loose gone ⟨f', none⟩ := by
    cases f with
    | request f =>
        obtain ⟨next, resumes, same⟩ := Option.map_eq_some_iff.mp h
        obtain ⟨rfl, rfl⟩ := Prod.mk.inj same
        exact ⟨rfl, loose_resumed loose given resumes⟩
    | finished => contradiction
    | connect | ending | start | watch => cases loose
  cases moved with
  | execute q f op db a awaits effect =>
      obtain ⟨-, rfl, rfl⟩ := perform_of_effect effect
      cases loose with
      | savingError s _ past =>
          obtain rfl := Option.some.inj awaits
          exact ⟨rfl, .savingError s _ past, .error s past⟩
      | counting l order q =>
          obtain rfl := Option.some.inj awaits
          exact ⟨rfl, .counting _ _ _ _, .none⟩
      | fetching l order q total =>
          obtain rfl := Option.some.inj awaits
          exact ⟨rfl, .fetching _ _ _ _ _, .none⟩
      | askingAdmin | finished => contradiction
  | raise q f op a awaits effect =>
      cases loose with
      | savingError s _ past => exact ⟨rfl, .savingError s _ past, .none⟩
      | counting => exact ⟨rfl, .counting _ _ _ _, .none⟩
      | fetching => exact ⟨rfl, .fetching _ _ _ _ _, .none⟩
      | askingAdmin | finished => contradiction
  | resume q f next a w' effect =>
      obtain ⟨rfl, loose'⟩ := resumed loose (Or.inl rfl) effect
      exact ⟨rfl, loose', .none⟩
  | answer q f next a w' awaits effect =>
      obtain ⟨rfl, loose'⟩ := resumed loose (Or.inr awaits) effect
      exact ⟨rfl, loose', .none⟩

theorem DbThin.loose_left (thin : DbThin gone db full) {db' : Db} (wrote : LooseWrite gone db db') :
    DbThin gone db' full := by
  cases wrote with
  | none => exact thin
  | error s past =>
      exact ⟨thin.apps, thin.transaction, by simpa [Db.save] using thin.journal,
        thin.rows.update_lost (s.row.assign [.error]) (fun _ => rfl) past, thin.ended⟩

theorem DbThin.loose_right (thin : DbThin gone db full) {full' : Db}
    (wrote : LooseWrite gone full full') : DbThin gone db full' := by
  cases wrote with
  | none => exact thin
  | error s past =>
      refine ⟨thin.apps, thin.transaction, by simpa [Db.save] using thin.journal,
        thin.rows.update_gone (s.row.assign [.error]) (fun _ => rfl) past,
        fun row' stored lost => ?_⟩
      obtain ⟨row, before, rfl⟩ := List.mem_map.mp stored
      by_cases hit : row.id = s.row.id
      · -- The error is all that is written.
        have same : (if row.id = s.row.id then s.row.assign [.error] row else row).status =
            row.status := by simp [hit, SessionModel.assign_status]
        rw [same]
        exact thin.ended row before (by rwa [hit])
      · simp only [hit, if_false] at lost ⊢
        exact thin.ended row before lost

/-! ## One action of a task -/

def advance (cfg : Config) (db : Db) (w : World) (p : Nat) (t : Task) (act : Action) :
    Db × World × Task :=
  (moveTask (backend cfg) db w p t act).getD (db, w, t)

variable (cfg p) in
theorem loose_advance {t : Task} (loose : Loose gone t) (db : Db) (w : World) (act : Action) :
    (advance cfg db w p t act).2.1 = w ∧ Loose gone (advance cfg db w p t act).2.2 ∧
      LooseWrite gone db (advance cfg db w p t act).1 := by
  unfold advance
  cases moved : moveTask (backend cfg) db w p t act with
  | none => exact ⟨rfl, loose, .none⟩
  | some next => exact loose_moved loose (moveTask_cases moved)

structure AdvancedAlike (gone : List String) (r : Request) (next full : Db × World × Task) :
    Prop where
  thin : DbThin gone next.1 full.1
  world : next.2.1 = full.2.1
  alike : Alike gone r next.2.2 full.2.2

theorem same_advance (thin : DbThin gone db full) {t : Task} (w : World) {act : Action}
    (held : ∀ id ∈ heldIds t, id ∉ gone)
    (known : ∀ l, frameSought t.frame = some l → r.sought = some l)
    (stored : t.answer ≠ none → frameOp t.frame ≠ none)
    (drawn : ∀ uuid ∈ drawnId act, uuid ∉ gone) :
    AdvancedAlike gone r (advance cfg db w p t act) (advance cfg full w p t act) := by
  have still : AdvancedAlike gone r (db, w, t) (full, w, t) :=
    ⟨thin, rfl, .same t held known stored⟩
  obtain ⟨f, answer⟩ := t
  cases act with
  | request | tick => exact still
  | execute q =>
      cases answer with
      | some => exact still
      | none =>
          cases awaits : frameOp f with
          | none => simpa [advance, moveTask, backend, awaits] using still
          | some op =>
              cases blocked : db.blocked cfg p with
              | true =>
                  have blocked' := thin.blocked cfg p
                  simpa [advance, moveTask, backend, awaits, blocked, ← blocked'] using still
              | false =>
                  have blocked' : full.blocked cfg p = false := by rw [← thin.blocked, blocked]
                  have kept := fun id written => held id (written_held awaits written)
                  simp only [advance, moveTask, backend, awaits, blocked, blocked',
                    Option.bind_some, Bool.false_eq_true, if_false, Option.map_some,
                    Option.getD_some]
                  exact ⟨thin.perform kept, rfl, alike_performed thin awaits held known⟩
  | raise q =>
      cases answer with
      | some => exact still
      | none =>
          cases awaits : frameOp f with
          | none => simpa [advance, moveTask, backend, awaits] using still
          | some op =>
              cases failure : op.failure with
              | none => simpa [advance, moveTask, backend, awaits, failure] using still
              | some a =>
                  obtain rfl := failure_raised failure
                  simp only [advance, moveTask, backend, awaits, failure, Option.bind_some,
                    Option.map_some, Option.getD_some]
                  refine ⟨thin, rfl,
                    .same _ (held_answered held ?_) known fun _ => by simp [awaits]⟩
                  simp [Answer.copies]
  | resume q =>
      cases answer with
      | none => exact still
      | some a =>
          cases resumes : resumeFrame cfg w p f a with
          | none => simpa [advance, moveTask, backend, resumes] using still
          | some next =>
              obtain ⟨w', f'⟩ := next
              have waits := stored (by simp)
              simp only [advance, moveTask, backend, resumes, Option.map_some, Option.getD_some]
              exact ⟨thin, rfl, alike_resumed (Or.inl ⟨rfl, waits⟩) held known
                (fun external => absurd external waits) resumes⟩
  | answer q a =>
      cases answer with
      | some => exact still
      | none =>
          cases awaits : frameOp f with
          | some => simpa [advance, moveTask, backend, awaits] using still
          | none =>
              cases resumes : resumeFrame cfg w p f a with
              | none => simpa [advance, moveTask, backend, awaits, resumes] using still
              | some next =>
                  obtain ⟨w', f'⟩ := next
                  simp only [advance, moveTask, backend, awaits, resumes, Option.map_some,
                    Option.getD_some]
                  refine ⟨thin, rfl, alike_resumed (Or.inr awaits) held known ?_ resumes⟩
                  rintro - response uuid rfl
                  exact drawn uuid rfl

variable (cfg p) in
theorem alike_advance (thin : DbThin gone db full) {t t' : Task} (w : World) {act : Action}
    (alike : Alike gone r t t')
    (drawn : ∀ uuid ∈ drawnId act, uuid ∉ gone) :
    AdvancedAlike gone r (advance cfg db w p t act) (advance cfg full w p t' act) := by
  cases alike with
  | same _ held known stored => exact same_advance thin w held known stored drawn
  | loose _ _ notices loose loose' =>
      obtain ⟨world, next, wrote⟩ := loose_advance cfg p loose db w act
      obtain ⟨world', next', wrote'⟩ := loose_advance cfg p loose' full w act
      exact ⟨(thin.loose_left wrote).loose_right wrote', world.trans world'.symm,
        .loose _ _ notices next next'⟩
  | refused f s waits past =>
      obtain ⟨same, w', f', resumes, none_, plain⟩ := refused_resumes cfg p waits past w
      cases act with
      | resume q =>
          simp only [advance, moveTask, backend, same, resumes, Option.map_some, Option.getD_some]
          exact ⟨thin, rfl,
            .same _ (by simp [none_]) (by simp [plain]) fun stored => absurd rfl stored⟩
      | request | tick | execute | raise | answer =>
          exact ⟨thin, rfl, .refused f s waits past⟩

end Tasks

end StreamingPortal.Sessions
