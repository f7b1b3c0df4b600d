import StreamingPortal.Sessions.System

set_option autoImplicit false

/-!
# The copies of a row that handlers hold between its load and their status saves

Every status save writes from a copy read earlier. `Current` ties such a copy to
the row: the row's status is the last one saved since the copy was read, or the
one it was read with.
-/

namespace StreamingPortal.Sessions

open Tasks

def lastSaved (saves : List StatusSave) (id : String) : Option SessionStatus :=
  -- The status of the last of these saves that hit the row.
  saves.foldl (fun last save => if save.id = id then some save.status else last) none

def savedSince (db : Db) (s : SessionInstance) : Option SessionStatus :=
  lastSaved (db.journal.drop s.readAt) s.row.id

theorem lastSaved_append (saves : List StatusSave) (save : StatusSave) (id : String) :
    lastSaved (saves ++ [save]) id =
      if save.id = id then some save.status else lastSaved saves id := by
  simp [lastSaved, List.foldl_append]

/-- A copy that may still be saved, and the statuses its row can have been read with. -/
structure Held where
  session : SessionInstance
  readAs : List SessionStatus

def Held.From (h h₀ : Held) : Prop :=
  -- `h` is `h₀` with columns changed in memory.
  h.session.row.id = h₀.session.row.id ∧ h.session.readAt = h₀.session.readAt ∧
    h₀.readAs ⊆ h.readAs

theorem Held.From.refl (h : Held) : h.From h := ⟨rfl, rfl, fun _ x => x⟩

theorem mem_aliveStatuses {s : SessionStatus} : s ∈ aliveStatuses ↔ s ∉ terminalStatuses := by
  cases s <;> decide

def Held.asRead (s : SessionInstance) : Held := ⟨s, [s.row.status]⟩

def connectHeld : ConnectFrame → List Held
  | .savingConnecting c | .openingUpstream c | .savingActive c | .relaying c _ _
  | .closingUpstream c _ _ | .savingFailed c | .recordingError c _ | .savingIdle c
  | .closingClient c => [⟨c.session, aliveStatuses⟩]
  | _ => []

def callerHeld : EndCaller → List Held
  | .watchSessionTimeout rest => rest.map fun s => ⟨s, aliveStatuses⟩
  | _ => []

def EndCall.held (e : EndCall) : List Held := ⟨e.session, aliveStatuses⟩ :: callerHeld e.caller

def endHeld : EndFrame → List Held
  | .deleting e | .closingWebsocket e _ | .saving e _ => e.held

def requestHeld : RequestFrame → List Held
  | .askingAdmin _ _ s .terminateSession => [Held.asRead s]
  | .savingCheck s => [⟨s, [.idle]⟩]
  | _ => []

def watchHeld : WatchFrame → List Held
  | .queryingOrphaned expired _ => expired.map fun s => ⟨s, [.idle]⟩
  | .savingExpiry s rest _ => ⟨s, [.idle]⟩ :: rest.map fun s => ⟨s, [.idle]⟩
  | _ => []

def frameHeld : Frame → List Held
  | .connect f => connectHeld f
  | .ending f => endHeld f
  | .request f => requestHeld f
  | .watch f => watchHeld f
  | .start _ | .finished _ => []

def answerHeld : Frame → Answer → List Held
  -- The copies in the result of the operation that `f` awaits.
  | .connect (.loading _ _ _), .session (some s) => [Held.asRead s]
  | .request (.querying _ _ .terminateSession), .session (some s) => [Held.asRead s]
  | .request (.stopping _ _ _), .session (some s) => [Held.asRead s]
  | .request (.checking _ _ _), .session (some s) => [Held.asRead s]
  | .watch (.queryingTimedOut _), .sessions l => l.map fun s => ⟨s, aliveStatuses⟩
  | .watch (.queryingExpired _), .sessions l => l.map fun s => ⟨s, [.idle]⟩
  | .watch (.queryingOrphaned _ _), .sessions l => l.map fun s => ⟨s, [.idle]⟩
  | _, _ => []

def taskHeld (t : Task) : List Held :=
  frameHeld t.frame ++ (t.answer.map (answerHeld t.frame)).getD []

/-! ## Resuming a task keeps its copies, up to columns changed in memory -/

def KeepsHeld (held held₀ : List Held) : Prop := ∀ h ∈ held, ∃ h₀ ∈ held₀, h.From h₀

theorem KeepsHeld.nil (held₀ : List Held) : KeepsHeld [] held₀ := by simp [KeepsHeld]

theorem KeepsHeld.of_subset {held held₀ : List Held} (sub : ∀ h ∈ held, h ∈ held₀) :
    KeepsHeld held held₀ := fun h member => ⟨h, sub h member, Held.From.refl h⟩

theorem keepsHeld_cons (s₀ : SessionInstance) {s : SessionInstance} {rest held₀ : List Held}
    (id : s.row.id = s₀.row.id) (readAt : s.readAt = s₀.readAt)
    (tail : KeepsHeld rest held₀) (member : ⟨s₀, aliveStatuses⟩ ∈ held₀) :
    KeepsHeld (⟨s, aliveStatuses⟩ :: rest) held₀ := by
  intro h inside
  rcases List.mem_cons.mp inside with rfl | later
  · exact ⟨_, member, id, readAt, fun _ x => x⟩
  · exact tail h later

theorem keepsHeld_session (s₀ : SessionInstance) {s : SessionInstance} {held₀ : List Held}
    (id : s.row.id = s₀.row.id) (readAt : s.readAt = s₀.readAt)
    (member : ⟨s₀, aliveStatuses⟩ ∈ held₀) : KeepsHeld [⟨s, aliveStatuses⟩] held₀ :=
  keepsHeld_cons s₀ id readAt (.nil _) member

theorem cleanup_held (w : World) (p : Nat) {c : Connection} {held₀ : List Held}
    (member : ⟨c.session, aliveStatuses⟩ ∈ held₀) :
    KeepsHeld (frameHeld (cleanup w p c).2) held₀ := by
  unfold cleanup
  simp only
  split
  · exact keepsHeld_session c.session rfl rfl member
  · split <;> exact keepsHeld_session c.session rfl rfl member

theorem admit_held (w : World) (p : Nat) (user : User) (s : SessionInstance) :
    KeepsHeld (frameHeld (checkAdmission w p user (some s)).2) [Held.asRead s] := by
  unfold checkAdmission
  simp only
  split
  · exact .nil _
  next running =>
    split
    · exact .nil _
    · split
      · exact .nil _
      · intro h member
        obtain rfl : h = ⟨s.markConnecting w.now, aliveStatuses⟩ := by
          simpa [frameHeld, connectHeld] using member
        refine ⟨_, List.mem_singleton_self _, rfl, rfl, ?_⟩
        simpa [Held.asRead] using mem_aliveStatuses.mpr running

theorem connectResume_held {w w' : World} {p : Nat} {f : ConnectFrame} {a : Answer} {f' : Frame}
    (h : connectResume w p f a = some (w', f')) :
    KeepsHeld (frameHeld f') (connectHeld f ++ answerHeld (.connect f) a) := by
  cases connectResume_cases h with
  | noCookie | accepted | acceptFailed | rejected | loadFailed | saveFailedRaised
  | recordingRaised | saveIdleRaised | clientClosed | clientCloseFailed => exact .nil _
  | loaded user id cookie found =>
      cases found with
      | none => exact .nil _
      | some s => exact admit_held w p user s
  | saveConnectingFailed | closeFailed | closed =>
      exact cleanup_held w p (by simp [connectHeld])
  | openFailed c c' a caught =>
      exact cleanup_held w p (by simp [connectHeld, connectFailed_session caught])
  | recordedError c truncated n session same =>
      refine keepsHeld_session c.session ?_ ?_ (by simp [connectHeld])
      all_goals rcases same with rfl | rfl <;> rfl
  | savedConnecting c | opened c | savedActive c | saveActiveFailed c | relayEnded c | relayWoken c
  | relayRaised c | lateRelayEnded c | savedFailed c | savedFailedRecording c | savedIdle c =>
      exact keepsHeld_session c.session (by simp [SessionInstance.markActive])
        (by simp [SessionInstance.markActive]) (by simp [connectHeld])

theorem terminateTimedOut_held (rest : List SessionInstance) :
    frameHeld (terminateTimedOut rest) = rest.map fun s => ⟨s, aliveStatuses⟩ := by
  cases rest <;> rfl

theorem caller_return_held (caller : EndCaller) (r : Response) :
    frameHeld (caller.return r) = callerHeld caller := by
  cases caller with
  | stopStream | terminateSession => rfl
  | watchSessionTimeout rest => exact terminateTimedOut_held rest

theorem endResume_held {w w' : World} {f : EndFrame} {a : Answer} {f' : Frame}
    (h : endResume w f a = some (w', f')) : KeepsHeld (frameHeld f') (endHeld f) := by
  have recorded (e : EndCall) (r : NvcfResponse) :
      KeepsHeld (frameHeld (recordEnd w e r).2) e.held :=
    keepsHeld_cons e.session rfl rfl
      (.of_subset fun h member => List.mem_cons_of_mem _ member) List.mem_cons_self
  have returned (e : EndCall) (r : Response) :
      KeepsHeld (frameHeld (e.caller.return r)) e.held := by
    rw [caller_return_held]
    exact .of_subset fun h member => List.mem_cons_of_mem _ member
  cases endResume_cases h with
  | deleted => exact .of_subset fun _ x => x
  | answered e r | closed e r => exact recorded e r
  | timedOut e | saved e r => exact returned e _
  | raised => exact .nil _

theorem stopIdle_held (now : Int) (rest : List SessionInstance) :
    KeepsHeld (frameHeld (stopIdle now rest)) (rest.map fun s => ⟨s, [.idle]⟩) := by
  cases rest with
  | nil => exact .nil _
  | cons s rest =>
      intro h member
      rcases List.mem_cons.mp member with rfl | later
      · exact ⟨_, List.mem_cons_self, rfl, rfl, fun _ x => x⟩
      · exact ⟨h, List.mem_cons_of_mem _ later, Held.From.refl h⟩

theorem watchResume_held {cfg : Config} {w w' : World} {f : WatchFrame} {a : Answer} {f' : Frame}
    (h : watchResume cfg w f a = some (w', f')) :
    KeepsHeld (frameHeld f') (watchHeld f ++ answerHeld (.watch f) a) := by
  cases watchResume_cases h with
  | timedOut cutoff sessions =>
      rw [terminateTimedOut_held]
      exact .of_subset fun _ x => x
  | expired cutoff expired => exact .of_subset fun _ x => x
  | orphaned expired cutoff orphaned =>
      have all := stopIdle_held w.now (expired ++ orphaned)
      rwa [List.map_append] at all
  | saved s rest now =>
      intro h member
      obtain ⟨h₀, inside, same⟩ := stopIdle_held now rest h member
      exact ⟨h₀, by simp [watchHeld, inside], same⟩
  | timeoutSlept | idleSlept | raised => exact .nil _

theorem terminateSession_held (user : User) (s : SessionInstance) :
    KeepsHeld (frameHeld (terminateSession user s)) [Held.asRead s] := by
  unfold terminateSession
  split
  · exact .nil _
  next running =>
    intro h member
    obtain rfl : h = ⟨s, aliveStatuses⟩ := by
      simpa [endSession, frameHeld, endHeld, EndCall.held, callerHeld] using member
    refine ⟨_, List.mem_singleton_self _, rfl, rfl, ?_⟩
    simpa [Held.asRead] using mem_aliveStatuses.mpr running

theorem withSession_held (user : User) (s : SessionInstance) (caller : SessionQueryCaller) :
    KeepsHeld (frameHeld (withSession user s caller))
      (requestHeld (.askingAdmin user s.row.id s caller)) := by
  cases caller with
  | getSession => exact .nil _
  | updateSession error => cases error <;> exact .nil _
  | terminateSession => exact terminateSession_held user s

theorem stopStream_held (user : User) (s : SessionInstance) :
    KeepsHeld (frameHeld (stopStream user (some s))) [Held.asRead s] := by
  unfold stopStream
  simp only
  split
  · exact .nil _
  next running =>
    intro h member
    obtain rfl : h = ⟨s, aliveStatuses⟩ := by
      simpa [endSession, frameHeld, endHeld, EndCall.held, callerHeld] using member
    refine ⟨_, List.mem_singleton_self _, rfl, rfl, ?_⟩
    simpa [Held.asRead] using mem_aliveStatuses.mpr (not_or.mp running).2

theorem checkSession_held (cfg : Config) (w : World) (path : String) (s : SessionInstance) :
    KeepsHeld (frameHeld (checkSession cfg w path (some s))) [Held.asRead s] := by
  unfold checkSession
  simp only
  split
  · exact .nil _
  · split
    next idle =>
      intro h member
      obtain rfl : h = ⟨s.markExpired, [.idle]⟩ := by
        simpa [frameHeld, requestHeld] using member
      refine ⟨_, List.mem_singleton_self _, rfl, rfl, ?_⟩
      simp [Held.asRead, idle.1]
    · exact .nil _

theorem requestResume_held {cfg : Config} {w : World} {f : RequestFrame} {a : Answer} {f' : Frame}
    (h : requestResume cfg w f a = some f') :
    KeepsHeld (frameHeld f') (requestHeld f ++ answerHeld (.request f) a) := by
  cases requestResume_cases h with
  | queried user id caller found =>
      cases found with
      | none => exact .nil _
      | some s =>
          unfold querySession
          simp only
          split
          · cases caller with
            | terminateSession => exact terminateSession_held user s
            | getSession => exact .nil _
            | updateSession error => cases error <;> exact .nil _
          · cases caller with
            | terminateSession => exact .of_subset fun _ x => x
            | getSession | updateSession => exact .nil _
  | admitted user id s caller =>
      intro h member
      obtain ⟨h₀, inside, same⟩ := withSession_held user s caller h member
      refine ⟨h₀, List.mem_append_left _ ?_, same⟩
      cases caller <;> exact inside
  | stopped user id cookie found =>
      cases found with
      | none => exact .nil _
      | some s => exact stopStream_held user s
  | checked user id path found =>
      cases found with
      | none => exact .nil _
      | some s => exact checkSession_held cfg w path s
  | refused | savedError | savedCheck | askedListAdmin | counted | fetched | raised =>
      exact .nil _

theorem startResume_held {cfg : Config} {w w' : World} {f : StartFrame} {a : Answer} {f' : Frame}
    (h : startResume cfg w f a = some (w', f')) : frameHeld f' = [] := by
  cases startResume_cases h <;> rfl

theorem resumeFrame_held {cfg : Config} {w w' : World} {p : Nat} {f f' : Frame} {a : Answer}
    (h : resumeFrame cfg w p f a = some (w', f')) :
    KeepsHeld (frameHeld f') (frameHeld f ++ answerHeld f a) := by
  cases f with
  | connect f => exact connectResume_held h
  | ending f =>
      intro held member
      obtain ⟨h₀, inside, same⟩ := endResume_held h held member
      exact ⟨h₀, List.mem_append_left _ inside, same⟩
  | request f =>
      obtain ⟨next, resumed, same⟩ := Option.map_eq_some_iff.mp h
      obtain ⟨-, rfl⟩ := Prod.mk.inj same
      exact requestResume_held resumed
  | start f =>
      rw [startResume_held h]
      exact .nil _
  | watch f => exact watchResume_held h
  | finished => contradiction

theorem answerHeld_of_op_none {f : Frame} (external : frameOp f = none) (a : Answer) :
    answerHeld f a = [] := by
  -- Copies only come out of the operations that load rows.
  unfold answerHeld
  split <;> first | rfl | (simp [frameOp, connectOp, requestOp, watchOp] at external)

theorem answerHeld_raised (f : Frame) : answerHeld f .raised = [] := by
  unfold answerHeld
  split <;> first | rfl | contradiction

theorem failure_raised {op : DbOp} {a : Answer} (h : op.failure = some a) : a = .raised := by
  cases op <;> simp_all [DbOp.failure]

theorem FirstFrame.held {f : Frame} (first : FirstFrame f) : frameHeld f = [] := by
  cases first <;> rfl

/-! ## The row of a copy -/

/-- The row's status is the last one saved since the read, or one it can have been read with. -/
def Held.Current (db : Db) (h : Held) : Prop :=
  h.session.readAt ≤ db.journal.length ∧
    ∃ row s, db.sessions.get? h.session.row.id = some row ∧ s ∈ h.readAs ∧
      row.status = (savedSince db h.session).getD s

theorem Held.From.current {db : Db} {h h₀ : Held} (same : h.From h₀) (current : h₀.Current db) :
    h.Current db := by
  obtain ⟨bound, row, s, stored, readAs, status⟩ := current
  obtain ⟨id, readAt, sub⟩ := same
  refine ⟨readAt ▸ bound, row, s, id ▸ stored, sub readAs, ?_⟩
  rw [status, savedSince, savedSince, id, readAt]

theorem KeepsHeld.current {db : Db} {held held₀ : List Held} (keeps : KeepsHeld held held₀)
    (current : ∀ h ∈ held₀, h.Current db) : ∀ h ∈ held, h.Current db := by
  intro h member
  obtain ⟨h₀, inside, same⟩ := keeps h member
  exact same.current (current h₀ inside)

theorem current_load {db : Db} {row : SessionModel} {readAs : List SessionStatus}
    (stored : db.sessions.get? row.id = some row) (readAs_row : row.status ∈ readAs) :
    Held.Current db ⟨db.load row, readAs⟩ := by
  refine ⟨Nat.le_refl _, row, row.status, stored, readAs_row, ?_⟩
  simp [savedSince, lastSaved]

theorem Held.Current.of_same_status {db db' : Db} {h : Held} (current : h.Current db)
    (journal : db'.journal = db.journal)
    (rows : ∀ id row, db.sessions.get? id = some row →
      ∃ row', db'.sessions.get? id = some row' ∧ row'.status = row.status) :
    h.Current db' := by
  obtain ⟨bound, row, s, stored, readAs, status⟩ := current
  obtain ⟨row', stored', same⟩ := rows _ _ stored
  refine ⟨journal ▸ bound, row', s, stored', readAs, ?_⟩
  rw [same, status, savedSince, savedSince, journal]

theorem savedSince_save {db : Db} {s : SessionInstance} {fields : List Column}
    {h : SessionInstance} (bound : h.readAt ≤ db.journal.length) :
    savedSince (db.save s fields) h =
      if (.status ∈ fields ∧ (db.sessions.get? s.row.id).isSome) ∧ s.row.id = h.row.id then
        some s.row.status
      else savedSince db h := by
  by_cases saves : .status ∈ fields ∧ (db.sessions.get? s.row.id).isSome
  · simp only [savedSince, Db.save, saves, and_self, if_true, true_and]
    rw [List.drop_append_of_le_length bound, lastSaved_append]
  · simp only [savedSince, Db.save, saves, if_false, false_and]

theorem Held.Current.save {db : Db} {h : Held} (current : h.Current db) (s : SessionInstance)
    (fields : List Column) : h.Current (db.save s fields) := by
  obtain ⟨bound, row, read, stored, readAs, status⟩ := current
  have longer : db.journal.length ≤ (db.save s fields).journal.length := by
    simp only [Db.save]
    split <;> simp
  refine ⟨Nat.le_trans bound longer, ?_⟩
  rw [savedSince_save bound, Db.get?_save]
  by_cases same : h.session.row.id = s.row.id
  · -- A save of the row itself is the last one since the read, if it has the status column.
    rw [same] at stored
    refine ⟨s.row.assign fields row, read, by simp [same, stored], readAs, ?_⟩
    by_cases saves : Column.status ∈ fields
    · simp [SessionModel.assign_status, saves, stored, same]
    · simp [SessionModel.assign_status, saves, status]
  · have other : ¬ s.row.id = h.session.row.id := fun e => same e.symm
    exact ⟨row, read, by simp [same, stored], readAs, by simp [other, status]⟩

theorem Held.Current.setErrorIfNull {db : Db} {h : Held} (current : h.Current db)
    (id error : String) : h.Current (db.setErrorIfNull id error).1 := by
  refine current.of_same_status (Db.setErrorIfNull_journal db id error) ?_
  intro j row stored
  have same := Db.setErrorIfNull_status db id error j
  rw [stored, Option.map_some] at same
  exact Option.map_eq_some_iff.mp same

theorem Held.Current.createSession {db : Db} {h : Held} (current : h.Current db)
    (row : SessionModel) : h.Current (db.createSession row).1 := by
  unfold Db.createSession
  split
  next sessions inserted =>
    refine current.of_same_status rfl ?_
    intro id row stored
    exact ⟨row, Table.get?_insert_of_ne inserted stored, rfl⟩
  next => exact current

theorem Held.Current.perform {cfg : Config} {db : Db} {p : Nat} {h : Held}
    (current : h.Current db) (op : DbOp) : h.Current (db.perform cfg p op).1 := by
  cases op with
  | save s fields => exact current.save s fields
  | setErrorIfNull id error => exact current.setErrorIfNull id error
  | createSession row => exact current.createSession row
  | beginTransaction | endTransaction =>
      exact current.of_same_status rfl fun id row stored => ⟨row, stored, rfl⟩
  | getSession | timedOutSessions | expiredSessions | orphanedSessions | countSessions
  | fetchSessions | getApp => exact current

theorem current_getSession {db : Db} {id : String} {nvcfRequestId userId : Option String}
    {s : SessionInstance} (found : db.getSession id nvcfRequestId userId = some s) :
    (Held.asRead s).Current db := by
  obtain ⟨stored, loaded, -, -⟩ := Db.getSession_eq_some found
  rw [loaded]
  exact current_load (by rwa [(Table.mem_of_get? stored).2]) (by simp)

theorem current_selectSessions {db : Db} {p : SessionModel → Bool} {readAs : List SessionStatus}
    (admits : ∀ row, p row = true → row.status ∈ readAs) :
    ∀ h ∈ (db.selectSessions p).map fun s => (⟨s, readAs⟩ : Held), h.Current db := by
  intro h member
  obtain ⟨s, selected, rfl⟩ := List.mem_map.mp member
  obtain ⟨stored, loaded, admitted⟩ := Db.mem_selectSessions selected
  rw [loaded]
  exact current_load stored (admits _ admitted)

theorem perform_current {cfg : Config} {db : Db} {p : Nat} {f : Frame} {op : DbOp}
    (awaits : frameOp f = some op) :
    ∀ h ∈ answerHeld f (db.perform cfg p op).2, h.Current (db.perform cfg p op).1 := by
  have looked {id : String} {cookie userId : Option String}
      (one : ∀ s, answerHeld f (.session (some s)) = [Held.asRead s])
      (none : answerHeld f (.session none) = []) :
      ∀ h ∈ answerHeld f (.session (db.getSession id cookie userId)), h.Current db := by
    intro h member
    cases found : db.getSession id cookie userId with
    | none => simp [found, none] at member
    | some s =>
        rw [found, one] at member
        obtain rfl := List.mem_singleton.mp member
        exact current_getSession found
  have none_held : ∀ h ∈ ([] : List Held), h.Current (db.perform cfg p op).1 := by simp
  -- A read stores nothing, so its rows are read and compared in the same store.
  cases f with
  | connect f =>
      cases f with
      | loading =>
          obtain rfl := Option.some.inj awaits
          exact looked (fun _ => rfl) rfl
      | _ => exact none_held
  | request f =>
      cases f with
      | querying user id caller =>
          cases caller with
          | terminateSession =>
              obtain rfl := Option.some.inj awaits
              exact looked (fun _ => rfl) rfl
          | getSession | updateSession => exact none_held
      | stopping | checking =>
          obtain rfl := Option.some.inj awaits
          exact looked (fun _ => rfl) rfl
      | _ => exact none_held
  | watch f =>
      cases f with
      | queryingTimedOut cutoff =>
          obtain rfl := Option.some.inj awaits
          refine current_selectSessions fun row admitted => ?_
          simp only [timedOut, Bool.and_eq_true, decide_eq_true_eq] at admitted
          exact admitted.1
      | queryingExpired cutoff =>
          obtain rfl := Option.some.inj awaits
          refine current_selectSessions fun row admitted => ?_
          simp only [expiredIdle, Bool.and_eq_true, decide_eq_true_eq] at admitted
          simp [admitted.1]
      | queryingOrphaned expired cutoff =>
          obtain rfl := Option.some.inj awaits
          refine current_selectSessions fun row admitted => ?_
          simp only [orphanedIdle, Bool.and_eq_true, decide_eq_true_eq] at admitted
          simp [admitted.1.1]
      | _ => exact none_held
  | ending | start | finished => exact none_held

/-! ## The invariant -/

/-- Every copy a handler may still save is tied to its row. -/
def CopiesCurrent (st : State) : Prop :=
  ∀ (p : Nat) (t : Task), st.tasks[p]? = some t → ∀ h ∈ taskHeld t, h.Current st.store

theorem copiesCurrent_init (sessions : SessionTable) (apps : AppTable) (now : Int) :
    CopiesCurrent (init sessions apps now) := by
  intro p t task
  simp [init] at task

theorem copiesCurrent_step {cfg : Config} {st st' : State} {act : Action}
    (current : CopiesCurrent st) (taken : step cfg st act = some st') : CopiesCurrent st' := by
  cases step_cases taken with
  | request r =>
      refine forall_spawn ?_ current
      simp [taskHeld, backend, (startRequest_first cfg st.world r).held]
  | execute p frame op db a task awaits effect =>
      obtain ⟨-, rfl, rfl⟩ := perform_of_effect effect
      refine forall_set (fun h member => ?_)
        fun q t _ old h member => (current q t old h member).perform op
      -- The copies of the frame survive the operation; those of its result are new.
      rcases List.mem_append.mp member with inside | fresh
      · exact (current p _ task h (List.mem_append_left _ inside)).perform op
      · exact perform_current awaits h fresh
  | raise p frame op a task awaits effect =>
      obtain rfl := failure_raised effect
      refine forall_set ?_ fun q t _ => current q t
      simpa [taskHeld, answerHeld_raised] using current p _ task
  | resume p frame next a world task effect =>
      refine forall_set ?_ fun q t _ => current q t
      simpa [taskHeld] using (resumeFrame_held effect).current (current p _ task)
  | answer p frame next a world task awaits effect =>
      refine forall_set ?_ fun q t _ => current q t
      -- The environment can answer anything, but no copy of a row.
      have keeps := resumeFrame_held effect
      rw [answerHeld_of_op_none awaits a] at keeps
      simpa [taskHeld] using keeps.current (current p _ task)
  | tick time => exact current

theorem copiesCurrent_run {cfg : Config} {st st' : State} {acts : List Action}
    (current : CopiesCurrent st) (reached : run cfg st acts = some st') : CopiesCurrent st' :=
  Runs.invariant CopiesCurrent (fun _ _ _ inv _ taken => copiesCurrent_step inv taken)
    current (Runs.along_trivial acts) reached

end StreamingPortal.Sessions
