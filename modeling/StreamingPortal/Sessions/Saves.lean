import StreamingPortal.Sessions.System

set_option autoImplicit false

/-!
# What the handlers write to a row

A copy of a row keeps the columns that no handler assigns, and every frame that waits
for a save has prepared its copy for it.
-/

namespace StreamingPortal.Sessions

open Tasks

/-! ## All an operation can do to a row -/

inductive RowChange (id : String) : DbOp → Option SessionModel → SessionModel → Prop
  | kept (op : DbOp) (row : SessionModel)
      (untouched : ∀ s fields, op = .save s fields → s.row.id ≠ id)
      (noError : ∀ error, op = .setErrorIfNull id error → row.error ≠ none) :
      RowChange id op (some row) row
  | saved (s : SessionInstance) (fields : List Column) (row : SessionModel)
      (target : s.row.id = id) :
      RowChange id (.save s fields) (some row) (s.row.assign fields row)
  | errorSet (error : String) (row : SessionModel) (unset : row.error = none) :
      RowChange id (.setErrorIfNull id error) (some row) { row with error := some error }
  | created (row : SessionModel) (target : row.id = id) :
      RowChange id (.createSession row) none row

theorem perform_row {cfg : Config} {db : Db} {p : Nat} {op : DbOp} {id : String}
    {row' : SessionModel} (stored' : (db.perform cfg p op).1.sessions.get? id = some row') :
    RowChange id op (db.sessions.get? id) row' := by
  have same (noSave : ∀ s fields, op ≠ .save s fields)
      (noError : ∀ j error, op ≠ .setErrorIfNull j error)
      (stored : db.sessions.get? id = some row') : RowChange id op (db.sessions.get? id) row' := by
    rw [stored]
    exact .kept op row' (fun s fields e => absurd e (noSave s fields))
      fun error e => absurd e (noError id error)
  cases op with
  | save s fields =>
      simp only [Db.perform, Db.get?_save] at stored'
      by_cases target : id = s.row.id
      · subst target
        simp only [if_true, Option.map_eq_some_iff] at stored'
        obtain ⟨row, stored, rfl⟩ := stored'
        rw [stored]
        exact .saved s fields row rfl
      · simp only [target, if_false] at stored'
        rw [stored']
        refine .kept _ row' (fun s' fields' e => ?_) fun error e => by simp at e
        obtain ⟨rfl, -⟩ := DbOp.save.inj e
        exact Ne.symm target
  | setErrorIfNull j error =>
      simp only [Db.perform, Db.setErrorIfNull] at stored'
      split at stored'
      next row found =>
        split at stored'
        next unset =>
          by_cases target : id = j
          · subst target
            simp only [Table.get?_update_self, Option.map_eq_some_iff] at stored'
            obtain ⟨row₀, stored, rfl⟩ := stored'
            obtain rfl : row = row₀ := Option.some.inj (found.symm.trans stored)
            rw [stored]
            exact .errorSet error row unset
          · rw [Table.get?_update_ne _ _ _ target] at stored'
            rw [stored']
            refine .kept _ row' (fun s fields e => by simp at e) fun error' e => ?_
            exact absurd (DbOp.setErrorIfNull.inj e).1.symm target
        next set =>
          rw [stored']
          refine .kept _ row' (fun s fields e => by simp at e) fun error' e => ?_
          obtain ⟨rfl, -⟩ := DbOp.setErrorIfNull.inj e
          obtain rfl : row = row' := Option.some.inj (found.symm.trans stored')
          exact set
      next absent =>
        rw [stored']
        refine .kept _ row' (fun s fields e => by simp at e) fun error' e => ?_
        obtain ⟨rfl, -⟩ := DbOp.setErrorIfNull.inj e
        rw [absent] at stored'
        contradiction
  | createSession row =>
      simp only [Db.perform, Db.createSession] at stored'
      split at stored'
      next sessions inserted =>
        rw [Table.get?_insert inserted] at stored'
        split at stored'
        next target =>
          obtain rfl := Option.some.inj stored'
          subst target
          rw [(Table.insert?_eq_some inserted).1]
          exact .created row rfl
        next => exact same (by simp) (by simp) stored'
      next => exact same (by simp) (by simp) stored'
  | beginTransaction | endTransaction | getSession | timedOutSessions | expiredSessions
  | orphanedSessions | countSessions | fetchSessions | getApp =>
      exact same (by simp) (by simp) stored'

inductive RowStep (st : State) (id : String) : Action → SessionModel → Prop
  | same (act : Action) (row : SessionModel) (idle : ∀ p, act ≠ .execute p)
      (stored : st.session? id = some row) : RowStep st id act row
  | performed (p : Nat) (f : Frame) (op : DbOp) (row' : SessionModel)
      (task : st.tasks[p]? = some ⟨f, none⟩) (awaits : frameOp f = some op)
      (change : RowChange id op (st.session? id) row') : RowStep st id (.execute p) row'

theorem step_row {cfg : Config} {st st' : State} {act : Action} {id : String}
    {row' : SessionModel} (taken : step cfg st act = some st')
    (stored' : st'.session? id = some row') : RowStep st id act row' := by
  cases step_cases taken with
  | request | raise | resume | answer | tick => exact .same _ row' (by simp) stored'
  | execute p f op db a task awaits effect =>
      obtain ⟨-, rfl, -⟩ := perform_of_effect effect
      exact .performed p f op row' task awaits (perform_row stored')

def State.ended (st : State) (id : String) : Bool :=
  (st.session? id).any fun row => decide (row.status ∈ terminalStatuses)

theorem ended_save {st st' : State} {s : SessionInstance} {fields : List Column}
    {row : SessionModel} (saved : st'.store = st.store.save s fields)
    (stored : st.session? s.row.id = some row) (id : String) :
    st'.ended id =
      if id = s.row.id ∧ .status ∈ fields then decide (s.row.status ∈ terminalStatuses)
      else st.ended id := by
  have stored : st.store.sessions.get? s.row.id = some row := stored
  simp only [State.ended, State.session?, saved, Db.get?_save]
  by_cases target : id = s.row.id
  · subst target
    by_cases names : Column.status ∈ fields <;>
      simp [stored, names, SessionModel.assign_status]
  · simp [target]

/-! ## The frames that save a copy -/

inductive SaveFrame : Frame → SessionInstance → List Column → Prop
  | connecting (c : Connection) :
      SaveFrame (.connect (.savingConnecting c)) c.session [.status, .endDate, .error, .duration]
  | active (c : Connection) : SaveFrame (.connect (.savingActive c)) c.session [.status]
  | failed (c : Connection) :
      SaveFrame (.connect (.savingFailed c)) c.session [.status, .endDate, .duration]
  | idle (c : Connection) :
      SaveFrame (.connect (.savingIdle c)) c.session [.status, .endDate, .duration]
  | ended (e : EndCall) (r : NvcfResponse) :
      SaveFrame (.ending (.saving e r)) e.session [.status, .endDate, .duration]
  | error (s : SessionInstance) : SaveFrame (.request (.savingError s)) s [.error]
  | check (s : SessionInstance) : SaveFrame (.request (.savingCheck s)) s [.status]
  | expiry (s : SessionInstance) (rest : List SessionInstance) (now : Int) :
      SaveFrame (.watch (.savingExpiry s rest now)) s [.status, .duration]

theorem saveFrame_of_op {f : Frame} {s : SessionInstance} {fields : List Column}
    (awaits : frameOp f = some (.save s fields)) : SaveFrame f s fields := by
  cases f with
  | connect f | ending f | request f | watch f =>
      cases f <;> simp only [frameOp, connectOp, endOp, requestOp, watchOp, Option.some.injEq,
        reduceCtorEq, DbOp.save.injEq] at awaits
      all_goals
        obtain ⟨rfl, rfl⟩ := awaits
        constructor
  | start f => cases f <;> simp [frameOp, startOp] at awaits
  | finished => simp [frameOp] at awaits

def savedCopy (f : Frame) : Option SessionInstance :=
  match frameOp f with
  | some (.save s _) => some s
  | _ => none

theorem savedCopy_of_op {f : Frame} {s : SessionInstance} {fields : List Column}
    (awaits : frameOp f = some (.save s fields)) : savedCopy f = some s := by
  simp [savedCopy, awaits]

theorem op_of_savedCopy {f : Frame} {s : SessionInstance} (saved : savedCopy f = some s) :
    ∃ fields, frameOp f = some (.save s fields) := by
  unfold savedCopy at saved
  split at saved
  next s' fields awaits =>
    obtain rfl := Option.some.inj saved
    exact ⟨fields, awaits⟩
  next => contradiction

theorem createFrame_of_op {f : Frame} {row : SessionModel}
    (awaits : frameOp f = some (.createSession row)) :
    ∃ s running app cookie, f = .start (.creating s running app row cookie) := by
  cases f with
  | start f =>
      cases f with
      | creating s running app row' cookie =>
          obtain rfl := DbOp.createSession.inj (Option.some.inj awaits)
          exact ⟨s, running, app, cookie, rfl⟩
      | _ => simp [frameOp, startOp] at awaits
  | connect f | ending f | request f | watch f =>
      cases f <;> simp [frameOp, connectOp, endOp, requestOp, watchOp] at awaits
  | finished => simp [frameOp] at awaits

/-! ## What a frame has prepared to save -/

def SessionInstance.EndedAs (s : SessionInstance) (status : SessionStatus) : Prop :=
  s.row.status = status ∧
    ∃ e, s.row.endDate = some e ∧ s.row.duration = wholeSeconds s.row.startDate e

def SessionInstance.Classified (s : SessionInstance) : Prop :=
  s.row.status = watcherTerminalStatus s

def EndCall.Classified (e : EndCall) : Prop :=
  e.finalStatus ∈ terminalStatuses ∧
    ∀ rest, e.caller = .watchSessionTimeout rest → e.finalStatus = watcherTerminalStatus e.session

def ConnectPrepared : ConnectFrame → Prop
  | .savingConnecting c | .openingUpstream c =>
      c.session.row.status = .connecting ∧ c.session.row.endDate = none ∧
        c.session.row.error = none
  | .savingActive c | .relaying c _ _ | .closingUpstream c _ _ => c.session.row.status = .active
  | .savingFailed c | .recordingError c _ => c.session.EndedAs .failed
  | .savingIdle c => c.session.EndedAs .idle
  | _ => True

def EndPrepared : EndFrame → Prop
  | .deleting e | .closingWebsocket e _ => e.Classified
  | .saving e _ => e.Classified ∧ e.session.EndedAs e.finalStatus

def Prepared : Frame → Prop
  | .connect f => ConnectPrepared f
  | .ending f => EndPrepared f
  | .request (.savingCheck s) => s.Classified
  | .watch (.savingExpiry s _ now) =>
      s.Classified ∧ s.row.duration = wholeSeconds s.row.startDate (s.row.endDate.getD now)
  | .start (.creating _ _ _ row _) =>
      row.status = .idle ∧ row.endDate = none ∧ row.error = none
  | _ => True

theorem watcherTerminalStatus_terminal (s : SessionInstance) :
    watcherTerminalStatus s ∈ terminalStatuses := by
  unfold watcherTerminalStatus
  repeat' split
  all_goals decide

theorem endedAs_markEnded (s : SessionInstance) (status : SessionStatus) (now : Int) :
    (s.markEnded status now).EndedAs status := ⟨rfl, now, rfl, rfl⟩

theorem cleanup_prepared (w : World) (p : Nat) (c : Connection) :
    Prepared (cleanup w p c).2 := by
  unfold cleanup
  simp only
  split
  · exact endedAs_markEnded c.session .failed _
  · split
    · exact endedAs_markEnded c.session .idle _
    · trivial

theorem admit_prepared (w : World) (p : Nat) (user : User) (found : Option SessionInstance) :
    Prepared (checkAdmission w p user found).2 := by
  unfold checkAdmission
  repeat' split
  all_goals trivial

theorem connectResume_prepared {w w' : World} {p : Nat} {f : ConnectFrame} {a : Answer}
    {f' : Frame} (prepared : ConnectPrepared f) (h : connectResume w p f a = some (w', f')) :
    Prepared f' := by
  cases connectResume_cases h with
  | loaded user id cookie found => exact admit_prepared w p user found
  | saveConnectingFailed | openFailed | closed | closeFailed => exact cleanup_prepared w p _
  | savedConnecting | savedFailedRecording | saveActiveFailed | savedActive | relayWoken
  | relayRaised => exact prepared
  | relayEnded c d₁ d₂ d₁' d₂' task e | lateRelayEnded c d₁ d₂ d₁' d₂' task e =>
      simpa [Prepared, ConnectPrepared] using prepared
  | opened c => exact rfl
  | _ => trivial

theorem terminateTimedOut_prepared (rest : List SessionInstance) :
    Prepared (terminateTimedOut rest) := by
  cases rest with
  | nil => trivial
  | cons s rest => exact ⟨watcherTerminalStatus_terminal s, fun _ _ => rfl⟩

theorem endResume_prepared {w w' : World} {f : EndFrame} {a : Answer} {f' : Frame}
    (prepared : EndPrepared f) (h : endResume w f a = some (w', f')) : Prepared f' := by
  have recorded {e : EndCall} (classified : e.Classified) (r : NvcfResponse) :
      Prepared (recordEnd w e r).2 :=
    ⟨classified, endedAs_markEnded e.session e.finalStatus w.now⟩
  have returned (e : EndCall) (r : Response) : Prepared (e.caller.return r) := by
    cases e.caller with
    | stopStream | terminateSession => trivial
    | watchSessionTimeout rest => exact terminateTimedOut_prepared rest
  cases endResume_cases h with
  | deleted e r => exact prepared
  | answered e r | closed e r => exact recorded prepared r
  | timedOut e => exact returned e _
  | saved e r => exact returned e _
  | raised => trivial

theorem stopIdle_prepared (now : Int) (rest : List SessionInstance) :
    Prepared (stopIdle now rest) := by
  cases rest with
  | nil => trivial
  | cons s rest => exact ⟨rfl, rfl⟩

theorem classified_stopped {s : SessionInstance} {reason : String} {caller : EndCaller}
    (request : ∀ rest, caller ≠ .watchSessionTimeout rest) :
    EndCall.Classified ⟨s, reason, .stopped, caller⟩ :=
  ⟨by simp [terminalStatuses], fun rest watching => absurd watching (request rest)⟩

theorem terminateSession_prepared (user : User) (s : SessionInstance) :
    Prepared (terminateSession user s) := by
  unfold terminateSession
  split
  · trivial
  · exact classified_stopped (by simp)

theorem requestResume_prepared {cfg : Config} {w : World} {f : RequestFrame} {a : Answer}
    {f' : Frame} (h : requestResume cfg w f a = some f') : Prepared f' := by
  have called (user : User) (s : SessionInstance) (caller : SessionQueryCaller) :
      Prepared (withSession user s caller) := by
    cases caller with
    | getSession => trivial
    | updateSession error => cases error <;> trivial
    | terminateSession => exact terminateSession_prepared user s
  cases requestResume_cases h with
  | queried user id caller found =>
      unfold querySession
      repeat' split
      all_goals first | trivial | exact called user _ caller
  | admitted user id s caller => exact called user s caller
  | stopped user id cookie found =>
      unfold stopStream
      repeat' split
      all_goals first | trivial | exact classified_stopped (by simp)
  | checked user id path found =>
      unfold checkSession
      repeat' split
      all_goals trivial
  | _ => trivial

theorem resumeFrame_prepared {cfg : Config} {w w' : World} {p : Nat} {f f' : Frame} {a : Answer}
    (prepared : Prepared f) (h : resumeFrame cfg w p f a = some (w', f')) : Prepared f' := by
  cases f with
  | connect f => exact connectResume_prepared prepared h
  | ending f => exact endResume_prepared prepared h
  | request f =>
      obtain ⟨next, resumed, same⟩ := Option.map_eq_some_iff.mp h
      obtain ⟨-, rfl⟩ := Prod.mk.inj same
      exact requestResume_prepared resumed
  | start f =>
      cases startResume_cases h with
      | started => exact ⟨rfl, rfl, rfl⟩
      | _ => trivial
  | watch f =>
      cases watchResume_cases h with
      | timedOut cutoff sessions => exact terminateTimedOut_prepared sessions
      | orphaned expired cutoff orphaned => exact stopIdle_prepared w.now _
      | saved s rest now => exact stopIdle_prepared now rest
      | timeoutSlept | expired | idleSlept | raised => trivial
  | finished => contradiction

def AllPrepared (st : State) : Prop := ∀ p f, st.frame? p = some f → Prepared f

theorem FirstFrame.prepared {f : Frame} (first : FirstFrame f) : Prepared f := by
  cases first <;> trivial

theorem allPrepared_init (sessions : SessionTable) (apps : AppTable) (now : Int) :
    AllPrepared (init sessions apps now) := by
  intro p f frame
  simp [init, State.frame?] at frame

theorem allPrepared_step {cfg : Config} {st st' : State} {act : Action}
    (prepared : AllPrepared st) (taken : step cfg st act = some st') : AllPrepared st' := by
  intro q f frame
  cases step_moves taken with
  | started r still world absent first others =>
      by_cases new : q = st.tasks.length
      · subst new
        obtain rfl := Option.some.inj (first.symm.trans frame)
        exact (startRequest_first cfg st.world r).prepared
      · exact prepared q f (others q new ▸ frame)
  | moved p f₀ next a resumed store effect before after others =>
      by_cases acting : q = p
      · subst acting
        obtain rfl := Option.some.inj (after.symm.trans frame)
        exact resumeFrame_prepared (prepared _ _ before) effect
      · exact prepared q f (others q acting ▸ frame)
  | waiting still world frames => exact prepared q f (frames q ▸ frame)

theorem allPrepared_run {cfg : Config} {st st' : State} {acts : List Action}
    (prepared : AllPrepared st) (reached : run cfg st acts = some st') : AllPrepared st' :=
  Runs.invariant AllPrepared (fun _ _ _ inv _ taken => allPrepared_step inv taken)
    prepared (Runs.along_trivial acts) reached

end StreamingPortal.Sessions
