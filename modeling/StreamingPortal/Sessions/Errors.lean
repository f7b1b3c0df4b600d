import StreamingPortal.Shared.Origins
import StreamingPortal.Sessions.Columns

set_option autoImplicit false

/-! # Who writes the error of a session -/

namespace StreamingPortal.Sessions

open Tasks

def ErrorBounded (error : Option String) : Prop :=
  ∀ text, error = some text → text.length ≤ maxSessionErrorLength

def truncated (text : String) : String := String.ofList (text.toList.take maxSessionErrorLength)

theorem truncated_length (text : String) : (truncated text).length ≤ maxSessionErrorLength := by
  rw [truncated, String.length_ofList, List.length_take]
  exact Nat.min_le_left _ _

/-! ## Which request a task serves -/

def request? : Action → Option Request
  | .request r => some r
  | _ => none

/-- The requests of a run from a fresh process; the `p`-th is the one task `p` serves. -/
def requests (acts : List Action) : List Request := acts.filterMap request?

def Connects (r : Request) (id : String) : Prop :=
  ∃ user cookie, r = .connectToStream user id cookie

def Patches (r : Request) (id : String) (error : Option String) : Prop :=
  (∃ user, r = .updateSession user id (some error)) ∧ ErrorBounded error

def CallerServes (r : Request) (id : String) : SessionQueryCaller → Prop
  | .updateSession (some error) => Patches r id error
  | _ => True

def ConnectServes (r : Request) : ConnectFrame → Prop
  | .accepting _ id _ | .loading _ id _ => Connects r id
  | .rejecting _ => True
  | .savingConnecting c | .openingUpstream c | .savingActive c | .relaying c _ _
  | .closingUpstream c _ _ | .savingFailed c | .savingIdle c | .closingClient c =>
      Connects r c.session.row.id
  | .recordingError c recorded => Connects r c.session.row.id ∧
      ∃ text, c.upstreamError = some text ∧ recorded = truncated text

def FrameServes (r : Request) : Frame → Prop
  | .connect f => ConnectServes r f
  | .request (.querying _ id caller) => CallerServes r id caller
  | .request (.askingAdmin _ _ s caller) => CallerServes r s.row.id caller
  | .request (.savingError s) => Patches r s.row.id s.row.error
  | _ => True

def loadsId : Frame → Option String
  -- The id that a frame looks up on behalf of its request.
  | .connect (.loading _ id _) => some id
  | .request (.querying _ id _) => some id
  | _ => none

def Serves (r : Request) (t : Task) : Prop :=
  FrameServes r t.frame ∧
    ∀ id ∈ loadsId t.frame, ∀ s, t.answer = some (.session (some s)) → s.row.id = id

theorem startRequest_serves (cfg : Config) (w : World) (r : Request) :
    Serves r ⟨startRequest cfg w r, none⟩ := by
  refine ⟨?_, fun id _ s given => by simp at given⟩
  cases r with
  | connectToStream user id cookie =>
      simp only [startRequest, startConnect]
      split
      · trivial
      · exact ⟨user, cookie, rfl⟩
  | stopStream user id cookie => cases cookie <;> trivial
  | updateSession user id error =>
      simp only [startRequest, startUpdateSession]
      cases error with
      | none => trivial
      | some error =>
          cases error with
          | none => exact ⟨⟨user, rfl⟩, fun text given => by simp at given⟩
          | some text =>
              simp only
              split
              · trivial
              next short =>
                refine ⟨⟨user, rfl⟩, fun text' given => ?_⟩
                obtain rfl := Option.some.inj given
                exact Nat.not_lt.mp short
  | getSessions l =>
      simp only [startRequest, getSessions]
      repeat' split
      all_goals trivial
  | startStream s =>
      simp only [startRequest, startStream]
      split <;> trivial
  | terminateSession | checkSession | getSession | watchSessionTimeout | watchIdleSessions =>
      trivial

theorem recorded_truncated {w w' : World} {p : Nat} {c c' : Connection} {recorded : String}
    (h : connectResume w p (.savingFailed c) .saved =
      some (w', .connect (.recordingError c' recorded))) :
    c' = c ∧ ∃ text, c.upstreamError = some text ∧ recorded = truncated text := by
  simp only [connectResume] at h
  split at h
  next =>
    simp [finishFailed, removeWebsocket] at h
  next told =>
    cases upstream : c.upstreamError with
    | none => simp [upstream] at told
    | some text =>
        simp only [upstream, Option.getD_some, Option.some.injEq, Prod.mk.injEq,
          Frame.connect.injEq, ConnectFrame.recordingError.injEq] at h
        exact ⟨h.2.1.symm, text, rfl, h.2.2.symm⟩

theorem cleanup_serves {r : Request} (w : World) (p : Nat) {c : Connection}
    (connects : Connects r c.session.row.id) : FrameServes r (cleanup w p c).2 := by
  unfold cleanup
  simp only
  repeat' split
  all_goals exact connects

theorem admit_serves {r : Request} (w : World) (p : Nat) (user : User)
    {found : Option SessionInstance} (connects : ∀ s, found = some s → Connects r s.row.id) :
    FrameServes r (checkAdmission w p user found).2 := by
  cases found with
  | none => trivial
  | some s =>
      have mine := connects s rfl
      unfold checkAdmission
      simp only
      repeat' split
      all_goals trivial

theorem connectResume_serves {r : Request} {w w' : World} {p : Nat} {f : ConnectFrame} {a : Answer}
    {f' : Frame} (serves : ConnectServes r f)
    (loaded : ∀ id ∈ loadsId (.connect f), ∀ s, a = .session (some s) → s.row.id = id)
    (h : connectResume w p f a = some (w', f')) : FrameServes r f' := by
  have whole := h
  cases connectResume_cases h with
  | loaded user id cookie found =>
      refine admit_serves w p user fun s here => ?_
      obtain rfl := here
      have same : s.row.id = id := loaded id rfl s rfl
      exact same ▸ serves
  | saveConnectingFailed | closed | closeFailed => exact cleanup_serves w p serves
  | openFailed c c' a caught =>
      refine cleanup_serves w p ?_
      rw [connectFailed_session caught]
      exact serves
  | relayEnded | lateRelayEnded =>
      simpa [FrameServes, ConnectServes] using serves
  | savedFailedRecording c recorded =>
      obtain ⟨-, text, told, same⟩ := recorded_truncated whole
      exact ⟨serves, text, told, same⟩
  | recordedError c recorded n session same =>
      have connects := serves.1
      rcases same with rfl | rfl <;> exact connects
  | accepted | savedConnecting | opened | savedActive | saveActiveFailed | relayWoken | relayRaised
  | savedFailed | savedIdle => exact serves
  | noCookie | acceptFailed | rejected | loadFailed | saveFailedRaised | recordingRaised
  | saveIdleRaised | clientClosed | clientCloseFailed => trivial

theorem withSession_serves {r : Request} (user : User) (s : SessionInstance)
    {caller : SessionQueryCaller} (serves : CallerServes r s.row.id caller) :
    FrameServes r (withSession user s caller) := by
  cases caller with
  | getSession => trivial
  | updateSession error =>
      cases error with
      | none => trivial
      | some error => exact serves
  | terminateSession =>
      simp only [withSession, terminateSession]
      split <;> trivial

theorem requestResume_serves {cfg : Config} {r : Request} {w : World} {f : RequestFrame}
    {a : Answer} {f' : Frame} (serves : FrameServes r (.request f))
    (loaded : ∀ id ∈ loadsId (.request f), ∀ s, a = .session (some s) → s.row.id = id)
    (h : requestResume cfg w f a = some f') : FrameServes r f' := by
  cases requestResume_cases h with
  | queried user id caller found =>
      cases found with
      | none => trivial
      | some s =>
          have same : s.row.id = id := loaded id rfl s rfl
          have mine : CallerServes r s.row.id caller := same ▸ serves
          unfold querySession
          simp only
          split
          · exact withSession_serves user s mine
          · exact mine
  | admitted user id s caller => exact withSession_serves user s serves
  | stopped user id cookie found =>
      unfold stopStream
      repeat' split
      all_goals trivial
  | checked user id path found =>
      unfold checkSession
      repeat' split
      all_goals trivial
  | refused | savedError | savedCheck | askedListAdmin | counted | fetched | raised => trivial

theorem terminateTimedOut_serves (r : Request) (rest : List SessionInstance) :
    FrameServes r (terminateTimedOut rest) := by
  cases rest <;> trivial

theorem resumeFrame_serves {cfg : Config} {r : Request} {w w' : World} {p : Nat} {f f' : Frame}
    {a : Answer} (serves : FrameServes r f)
    (loaded : ∀ id ∈ loadsId f, ∀ s, a = .session (some s) → s.row.id = id)
    (h : resumeFrame cfg w p f a = some (w', f')) : FrameServes r f' := by
  cases f with
  | connect f => exact connectResume_serves serves loaded h
  | ending f =>
      cases endResume_cases h with
      | deleted | answered | closed | raised => trivial
      | timedOut e | saved e =>
          cases e.caller with
          | stopStream | terminateSession => trivial
          | watchSessionTimeout rest => exact terminateTimedOut_serves r rest
  | request f =>
      obtain ⟨next, resumed, same⟩ := Option.map_eq_some_iff.mp h
      obtain ⟨-, rfl⟩ := Prod.mk.inj same
      exact requestResume_serves serves loaded resumed
  | start f => cases startResume_cases h <;> trivial
  | watch f =>
      cases watchResume_cases h with
      | timedOut cutoff sessions => exact terminateTimedOut_serves r sessions
      | orphaned expired cutoff orphaned => cases expired ++ orphaned <;> trivial
      | saved s rest now => cases rest <;> trivial
      | timeoutSlept | expired | idleSlept | raised => trivial
  | finished => contradiction

/-! ## The invariant -/

def Attributed (asked : List Request) (st : State) : Prop :=
  st.tasks.length = asked.length ∧
    ∀ (p : Nat) (t : Task), st.tasks[p]? = some t → ∃ r, asked[p]? = some r ∧ Serves r t

theorem serves_looked_up {cfg : Config} {db : Db} {p : Nat} {f : Frame} {op : DbOp} {id : String}
    {s : SessionInstance} (awaits : frameOp f = some op) (looks : loadsId f = some id)
    (given : (db.perform cfg p op).2 = .session (some s)) : s.row.id = id := by
  unfold loadsId at looks
  split at looks
  next user id' cookie =>
    obtain rfl := Option.some.inj looks
    obtain rfl := Option.some.inj awaits
    obtain ⟨stored, -⟩ := Db.getSession_eq_some (Answer.session.inj given)
    exact (Table.mem_of_get? stored).2
  next user id' caller =>
    obtain rfl := Option.some.inj looks
    obtain rfl := Option.some.inj awaits
    obtain ⟨stored, -⟩ := Db.getSession_eq_some (Answer.session.inj given)
    exact (Table.mem_of_get? stored).2
  next => contradiction

theorem loadsId_external {f : Frame} (external : frameOp f = none) : loadsId f = none := by
  unfold loadsId
  split
  · contradiction
  · contradiction
  · rfl

theorem attributed_next {asked : List Request} {st : State} {p : Nat} {t t' : Task} {db : Db}
    {w : World} (attributed : Attributed asked st) (task : st.tasks[p]? = some t)
    (serves : ∀ r, Serves r t → Serves r t') :
    Attributed asked { st.setTask p t' with store := db, world := w } := by
  refine ⟨by simpa using attributed.1, forall_set ?_ fun q u _ => attributed.2 q u⟩
  obtain ⟨r, asked_r, mine⟩ := attributed.2 p t task
  exact ⟨r, asked_r, serves r mine⟩

theorem attributed_step {cfg : Config} {asked : List Request} {st st' : State} {act : Action}
    (attributed : Attributed asked st) (taken : step cfg st act = some st') :
    Attributed (asked ++ (request? act).toList) st' := by
  cases step_cases taken with
  | request r =>
      refine ⟨by simp [request?, attributed.1], fun q t task => ?_⟩
      rcases getElem?_spawn_cases task with ⟨rfl, rfl⟩ | old
      · refine ⟨r, ?_, startRequest_serves cfg st.world r⟩
        simp [request?, attributed.1]
      · obtain ⟨r', asked_r, mine⟩ := attributed.2 q t old
        refine ⟨r', ?_, mine⟩
        rw [List.getElem?_append_left (List.getElem?_eq_some_iff.mp asked_r).1, asked_r]
  | execute p f op db a task awaits effect =>
      obtain ⟨-, rfl, rfl⟩ := perform_of_effect effect
      simp only [request?, Option.toList_none, List.append_nil]
      refine attributed_next attributed task fun r serves => ⟨serves.1, fun id looks s given => ?_⟩
      exact serves_looked_up awaits looks (Option.some.inj given)
  | raise p f op a task awaits effect =>
      obtain rfl := failure_raised effect
      simp only [request?, Option.toList_none, List.append_nil]
      refine attributed_next attributed task fun r serves => ⟨serves.1, fun id looks s given => ?_⟩
      simp at given
  | resume p f next a world task effect =>
      simp only [request?, Option.toList_none, List.append_nil]
      refine attributed_next attributed task fun r serves => ⟨?_, fun id looks s given => by
        simp at given⟩
      exact resumeFrame_serves serves.1
        (fun id looks s given => serves.2 id looks s (congrArg some given)) effect
  | answer p f next a world task awaits effect =>
      simp only [request?, Option.toList_none, List.append_nil]
      refine attributed_next attributed task fun r serves => ⟨?_, fun id looks s given => by
        simp at given⟩
      refine resumeFrame_serves serves.1 (fun id looks => ?_) effect
      rw [loadsId_external awaits] at looks
      contradiction
  | tick time =>
      simp only [request?, Option.toList_none, List.append_nil]
      exact attributed

theorem attributed_run {cfg : Config} {sessions : SessionTable} {apps : AppTable} {now : Int}
    {acts : List Action} {st : State}
    (reached : run cfg (init sessions apps now) acts = some st) :
    Attributed (requests acts) st := by
  have start : Attributed [] (init sessions apps now) := ⟨rfl, fun p t task => by
    simp [init] at task⟩
  have all : Attributed ([] ++ Runs.trace (step cfg) (fun _ => request?) _ acts) st :=
    Runs.invariant_trace (fun st asked => Attributed asked st)
      (fun _ _ _ _ inv _ taken => attributed_step inv taken) start
      (Runs.along_trivial acts) reached
  rwa [List.nil_append, Runs.trace_eq_filterMap reached] at all

/-! ## What a step does to the error of a row -/

def resetsError : Frame → Option String
  -- The row whose error the frame's operation sets whatever it is.
  | .request (.savingError s) => some s.row.id
  | .connect (.savingConnecting c) => some c.session.row.id
  | _ => none

def fillsError : Frame → Option String
  | .connect (.recordingError c _) => some c.session.row.id
  | _ => none

/-- The three ways in which the error changes; all other steps leave it as it is. -/
inductive ErrorStep (asked : List Request) (st : State) (id : String) :
    Option String → Action → Option String → Prop
  | patched (p : Nat) (s : SessionInstance) (user : User) (before error : Option String)
      (frame : st.frame? p = some (.request (.savingError s)))
      (request : asked[p]? = some (.updateSession user id (some error))) :
      ErrorStep asked st id before (.execute p) error
  | connecting (p : Nat) (c : Connection) (user : User) (cookie before : Option String)
      (frame : st.frame? p = some (.connect (.savingConnecting c)))
      (request : asked[p]? = some (.connectToStream user id cookie)) :
      ErrorStep asked st id before (.execute p) none
  | teardown (p : Nat) (c : Connection) (recorded text : String) (user : User)
      (cookie : Option String)
      (frame : st.frame? p = some (.connect (.recordingError c recorded)))
      (request : asked[p]? = some (.connectToStream user id cookie))
      (upstream : c.upstreamError = some text) :
      ErrorStep asked st id none (.execute p) (some (truncated text))
  | unchanged (before : Option String) (act : Action)
      (kept : ∀ p f, act = .execute p → st.frame? p = some f →
        resetsError f ≠ some id ∧ (fillsError f = some id → before ≠ none)) :
      ErrorStep asked st id before act before

theorem recordFrame_of_op {f : Frame} {id text : String}
    (awaits : frameOp f = some (.setErrorIfNull id text)) :
    ∃ c, f = .connect (.recordingError c text) ∧ c.session.row.id = id := by
  cases f with
  | connect f =>
      cases f with
      | recordingError c recorded =>
          obtain ⟨rfl, rfl⟩ := DbOp.setErrorIfNull.inj (Option.some.inj awaits)
          exact ⟨c, rfl, rfl⟩
      | _ => simp [frameOp, connectOp] at awaits
  | ending f | request f | watch f | start f =>
      cases f <;> simp [frameOp, endOp, requestOp, watchOp, startOp] at awaits
  | finished => simp [frameOp] at awaits

theorem op_of_resetsError {f : Frame} {id : String} (resets : resetsError f = some id) :
    ∃ s fields, frameOp f = some (.save s fields) ∧ s.row.id = id := by
  unfold resetsError at resets
  split at resets
  · exact ⟨_, _, rfl, Option.some.inj resets⟩
  · exact ⟨_, _, rfl, Option.some.inj resets⟩
  · contradiction

theorem op_of_fillsError {f : Frame} {id : String} (fills : fillsError f = some id) :
    ∃ text, frameOp f = some (.setErrorIfNull id text) := by
  unfold fillsError at fills
  split at fills
  next c recorded =>
    obtain rfl := Option.some.inj fills
    exact ⟨recorded, rfl⟩
  next => contradiction

theorem Attributed.frame {asked : List Request} {st : State} (attributed : Attributed asked st)
    {p : Nat} {f : Frame} {a : Option Answer} (task : st.tasks[p]? = some ⟨f, a⟩) :
    ∃ r, asked[p]? = some r ∧ FrameServes r f := by
  obtain ⟨r, asked_r, serves⟩ := attributed.2 p _ task
  exact ⟨r, asked_r, serves.1⟩

theorem errorStep_saved {asked : List Request} {st : State} {p : Nat} {f : Frame}
    {s : SessionInstance} {fields : List Column} {row : SessionModel}
    (attributed : Attributed asked st) (prepared : Prepared f)
    (task : st.tasks[p]? = some ⟨f, none⟩) (saves : SaveFrame f s fields) :
    ErrorStep asked st s.row.id row.error (.execute p) (s.row.assign fields row).error := by
  have frame := State.frame?_of_task task
  have others (still : resetsError f = none) (blank : fillsError f = none) :
      ErrorStep asked st s.row.id row.error (.execute p) row.error := by
    refine .unchanged _ _ fun q g acts here => ?_
    obtain rfl := Tasks.Action.execute.inj acts
    obtain rfl := Option.some.inj (frame.symm.trans here)
    simp [still, blank]
  obtain ⟨r, request, serves⟩ := attributed.frame task
  cases saves with
  | connecting c =>
      obtain ⟨user, cookie, rfl⟩ := serves
      obtain ⟨-, -, cleared⟩ := prepared
      have null :
          (c.session.row.assign [.status, .endDate, .error, .duration] row).error = none := by
        simpa [SessionModel.assign] using cleared
      rw [null]
      exact .connecting p c user cookie _ frame request
  | error =>
      obtain ⟨⟨user, rfl⟩, -⟩ := serves
      exact .patched p s user _ _ frame request
  | active | failed | idle | ended | check | expiry => exact others rfl rfl

theorem errorStep_of_taken {cfg : Config} {asked : List Request} {st st' : State} {act : Action}
    {id : String} {row : SessionModel} (attributed : Attributed asked st)
    (prepared : AllPrepared st) (taken : step cfg st act = some st')
    (stored : st.session? id = some row) :
    ∃ row', st'.session? id = some row' ∧ ErrorStep asked st id row.error act row'.error := by
  cases step_cases taken with
  | request | raise | resume | answer | tick =>
      exact ⟨row, stored, .unchanged _ _ fun _ _ acts => by contradiction⟩
  | execute p f op db a task awaits effect =>
      obtain ⟨-, rfl, -⟩ := perform_of_effect effect
      have frame := State.frame?_of_task task
      obtain ⟨row', stored', change⟩ := perform_stored cfg p stored op
      refine ⟨row', stored', ?_⟩
      cases change with
      | saved s fields _ target =>
          subst target
          exact errorStep_saved attributed (prepared p f frame) task (saveFrame_of_op awaits)
      | errorSet text _ unset =>
          obtain ⟨c, rfl, rfl⟩ := recordFrame_of_op awaits
          obtain ⟨r, request, ⟨user, cookie, rfl⟩, text', upstream, rfl⟩ := attributed.frame task
          rw [unset]
          exact .teardown p c _ text' user cookie frame request upstream
      | kept _ _ untouched noError =>
          refine .unchanged _ _ fun q g acts here => ?_
          obtain rfl := Tasks.Action.execute.inj acts
          obtain rfl := Option.some.inj (frame.symm.trans here)
          constructor
          · intro resets
            obtain ⟨s, fields, saving, target⟩ := op_of_resetsError resets
            exact untouched s fields (Option.some.inj (awaits.symm.trans saving)) target
          · intro fills
            obtain ⟨text, filling⟩ := op_of_fillsError fills
            exact noError text (Option.some.inj (awaits.symm.trans filling))

theorem error_of_new {cfg : Config} {st st' : State} {act : Action} {id : String}
    {row' : SessionModel} (prepared : AllPrepared st) (taken : step cfg st act = some st')
    (absent : st.session? id = none) (stored' : st'.session? id = some row') :
    row'.error = none := by
  cases step_row taken stored' with
  | same _ _ idle stored =>
      rw [absent] at stored
      contradiction
  | performed p f op _ task awaits change =>
      rw [absent] at change
      cases change with
      | created _ target =>
          obtain ⟨s, running, app, cookie, rfl⟩ := createFrame_of_op awaits
          exact (prepared p _ (State.frame?_of_task task)).2.2

/-! ## Whole runs -/

def ErrorsBounded (st : State) : Prop :=
  ∀ id row, st.session? id = some row → ErrorBounded row.error

/-- A PATCH with an error or a new connection attempt writes the error of the row. -/
def Resets (id : String) (st : State) : Action → State → Prop
  | .execute p, _ => ∃ f, st.frame? p = some f ∧ resetsError f = some id
  | _, _ => False

/--
What becomes of the errors along a run: every step changes them in one of the three
ways, an error stays until it is reset, and they stay within the bound.
-/
structure ErrorsKept (cfg : Config) (start : State) (acts : List Action) : Prop where
  steps : ∀ pre act post st st', acts = pre ++ act :: post → run cfg start pre = some st →
    step cfg st act = some st' → ∀ id,
      (∀ row, st.session? id = some row → ∃ row', st'.session? id = some row' ∧
        ErrorStep (requests pre) st id row.error act row'.error) ∧
      (st.session? id = none → ∀ row', st'.session? id = some row' → row'.error = none)
  stays : ∀ pre mid post st st', acts = pre ++ mid ++ post → run cfg start pre = some st →
    run cfg st mid = some st' → ∀ id row error, st.session? id = some row →
      row.error = some error → Along cfg (fun s act t => ¬ Resets id s act t) st mid →
        ∃ row', st'.session? id = some row' ∧ row'.error = some error
  bounded : ErrorsBounded start → ∀ pre post st, acts = pre ++ post →
    run cfg start pre = some st → ErrorsBounded st

theorem patched_bounded {asked : List Request} {st : State} {p : Nat} {s : SessionInstance}
    {user : User} {id : String} {error : Option String} (attributed : Attributed asked st)
    (frame : st.frame? p = some (.request (.savingError s)))
    (request : asked[p]? = some (.updateSession user id (some error))) : ErrorBounded error := by
  obtain ⟨⟨f, a⟩, task, rfl⟩ := Option.map_eq_some_iff.mp frame
  obtain ⟨r, request', ⟨user', rfl⟩, bounded⟩ := attributed.frame task
  have same := Option.some.inj (request.symm.trans request')
  simp only [Request.updateSession.injEq, Option.some.injEq] at same
  exact same.2.2 ▸ bounded

theorem errorBounded_step {asked : List Request} {st : State} {id : String}
    {before after : Option String} {act : Action} (attributed : Attributed asked st)
    (taken : ErrorStep asked st id before act after) (bounded : ErrorBounded before) :
    ErrorBounded after := by
  cases taken with
  | patched p s user _ _ frame request => exact patched_bounded attributed frame request
  | connecting => exact fun text given => by contradiction
  | teardown p c recorded text =>
      intro text' given
      obtain rfl := Option.some.inj given
      exact truncated_length text
  | unchanged => exact bounded

theorem error_stays_step {asked : List Request} {st st' : State} {id error : String} {act : Action}
    {after : Option String} (taken : ErrorStep asked st id (some error) act after)
    (unreset : ¬ Resets id st act st') (attributed : Attributed asked st) :
    after = some error := by
  have target {p : Nat} {f : Frame} (frame : st.frame? p = some f) :
      ∃ r, asked[p]? = some r ∧ FrameServes r f := by
    obtain ⟨⟨g, a⟩, task, rfl⟩ := Option.map_eq_some_iff.mp frame
    exact attributed.frame task
  cases taken with
  | patched p s user _ _ frame request =>
      obtain ⟨r, request', ⟨user', rfl⟩, -⟩ := target frame
      have same := Option.some.inj (request.symm.trans request')
      simp only [Request.updateSession.injEq] at same
      exact absurd ⟨_, frame, congrArg some same.2.1.symm⟩ unreset
  | connecting p c user cookie _ frame request =>
      obtain ⟨r, request', user', cookie', rfl⟩ := target frame
      have same := Option.some.inj (request.symm.trans request')
      simp only [Request.connectToStream.injEq] at same
      exact absurd ⟨_, frame, congrArg some same.2.1.symm⟩ unreset
  | unchanged => rfl

structure Attributable (st : State) : Prop where
  attributed : ∃ asked, Attributed asked st
  prepared : AllPrepared st

theorem attributable_step {cfg : Config} {st st' : State} {act : Action}
    (attributable : Attributable st) (taken : step cfg st act = some st') :
    Attributable st' := by
  obtain ⟨asked, attributed⟩ := attributable.attributed
  exact ⟨⟨_, attributed_step attributed taken⟩, allPrepared_step attributable.prepared taken⟩

theorem attributable_run {cfg : Config} {sessions : SessionTable} {apps : AppTable} {now : Int}
    {acts : List Action} {st : State}
    (reached : run cfg (init sessions apps now) acts = some st) : Attributable st :=
  ⟨⟨_, attributed_run reached⟩,
    allPrepared_run (allPrepared_init sessions apps now) reached⟩

theorem error_stays {cfg : Config} {st st' : State} {acts : List Action} {id error : String}
    (attributable : Attributable st)
    (here : ∃ row, st.session? id = some row ∧ row.error = some error)
    (unreset : Along cfg (fun s act t => ¬ Resets id s act t) st acts)
    (reached : run cfg st acts = some st') :
    ∃ row', st'.session? id = some row' ∧ row'.error = some error := by
  refine (Runs.invariant
    (fun s => Attributable s ∧ ∃ row, s.session? id = some row ∧ row.error = some error)
    ?_ ⟨attributable, here⟩ unreset reached).2
  rintro s act t ⟨attributable, row, stored, told⟩ unreset taken
  obtain ⟨asked, attributed⟩ := attributable.attributed
  obtain ⟨row', stored', change⟩ :=
    errorStep_of_taken attributed attributable.prepared taken stored
  rw [told] at change
  exact ⟨attributable_step attributable taken, row', stored',
    error_stays_step change unreset attributed⟩

theorem errorsBounded_step {cfg : Config} {st st' : State} {act : Action}
    (attributable : Attributable st) (bounded : ErrorsBounded st)
    (taken : step cfg st act = some st') : ErrorsBounded st' := by
  obtain ⟨asked, attributed⟩ := attributable.attributed
  intro id row' stored'
  cases stored : st.session? id with
  | none =>
      rw [error_of_new attributable.prepared taken stored stored']
      exact fun text given => by contradiction
  | some row =>
      obtain ⟨row'', stored'', change⟩ :=
        errorStep_of_taken attributed attributable.prepared taken stored
      obtain rfl := Option.some.inj (stored'.symm.trans stored'')
      exact errorBounded_step attributed change (bounded id row stored)

/-- In every run of a process, errors are kept as told above. -/
theorem errorsKept (cfg : Config) (sessions : SessionTable) (apps : AppTable) (now : Int)
    (acts : List Action) : ErrorsKept cfg (init sessions apps now) acts where
  steps := by
    intro pre act post st st' _ reached taken id
    have prepared := (attributable_run reached).prepared
    exact ⟨fun row stored => errorStep_of_taken (attributed_run reached) prepared taken stored,
      fun absent row' stored' => error_of_new prepared taken absent stored'⟩
  stays := by
    intro pre mid post st st' _ reached stretch id row error stored told unreset
    exact error_stays (attributable_run reached) ⟨row, stored, told⟩ unreset stretch
  bounded := by
    intro start pre post st _ reached
    have fresh : run cfg (init sessions apps now) [] = some (init sessions apps now) := rfl
    have kept : Attributable st ∧ ErrorsBounded st :=
      Runs.invariant (fun s => Attributable s ∧ ErrorsBounded s)
        (fun s act t inv _ taken =>
          ⟨attributable_step inv.1 taken, errorsBounded_step inv.1 inv.2 taken⟩)
        ⟨attributable_run fresh, start⟩ (Runs.along_trivial pre) reached
    exact kept.2

/-! ## A PATCH that has been answered -/

/-- The task at this position has saved this error to the session. -/
def ErrorSaved (cfg : Config) (start : State) (acts : List Action) (p : Nat) (id : String)
    (error : Option String) : Prop :=
  ∃ before after st st' s, acts = before ++ .execute p :: after ∧
    run cfg start before = some st ∧ step cfg st (.execute p) = some st' ∧
      st'.store = st.store.save s [.error] ∧ s.row.id = id ∧ s.row.error = error

section Patch

variable (cfg : Config) (start : State) (acts : List Action) (p : Nat) (id : String)
variable (error : Option String)

/-- How far `update_session` has come with the error of its body. -/
inductive Patching : Task → Prop
  | querying (user : User) (answer : Option Answer)
      (named : ∀ s, answer = some (.session (some s)) → s.row.id = id) :
      Patching ⟨.request (.querying user id (.updateSession (some error))), answer⟩
  | askingAdmin (user : User) (s : SessionInstance) (named : s.row.id = id) :
      Patching ⟨.request (.askingAdmin user id s (.updateSession (some error))), none⟩
  | saving (s : SessionInstance) (answer : Option Answer) (named : s.row.id = id)
      (told : s.row.error = error)
      (saved : answer = some .saved → ErrorSaved cfg start acts p id error) :
      Patching ⟨.request (.savingError s), answer⟩
  | finished (o : Outcome)
      (saved : ∀ response, o = .response response → response.statusCode = 204 →
        ErrorSaved cfg start acts p id error) : Patching ⟨.finished o, none⟩

variable {cfg start acts p id error}

theorem ErrorSaved.more (act : Action) (saved : ErrorSaved cfg start acts p id error) :
    ErrorSaved cfg start (acts ++ [act]) p id error := by
  obtain ⟨before, after, st, st', s, rfl, reached, taken, same⟩ := saved
  exact ⟨before, after ++ [act], st, st', s, by simp, reached, taken, same⟩

theorem Patching.more {t : Task} (act : Action) (patching : Patching cfg start acts p id error t) :
    Patching cfg start (acts ++ [act]) p id error t := by
  cases patching with
  | querying user answer named => exact .querying user answer named
  | askingAdmin user s named => exact .askingAdmin user s named
  | saving s answer named told saved =>
      exact .saving s answer named told fun is => (saved is).more act
  | finished o saved => exact .finished o fun response is ok => (saved response is ok).more act

theorem patching_respond {response : Response} (other : response.statusCode ≠ 204) :
    Patching cfg start acts p id error ⟨respond response, none⟩ :=
  .finished _ fun _ is ok => absurd (Outcome.response.inj is ▸ ok) other

theorem patching_start (user : User) :
    Patching cfg start acts p id error ⟨startUpdateSession user id (some error), none⟩ := by
  cases error with
  | none => exact .querying user none fun s given => by contradiction
  | some text =>
      simp only [startUpdateSession]
      split
      · exact patching_respond (by simp [unprocessable])
      · exact .querying user none fun s given => by contradiction

theorem patching_resumed {w : World} {f : RequestFrame} {f' : Frame} {a : Answer}
    {answer : Option Answer} (patching : Patching cfg start acts p id error ⟨.request f, answer⟩)
    (given : answer = some a ∨ frameOp (.request f) = none)
    (h : requestResume cfg w f a = some f') : Patching cfg start acts p id error ⟨f', none⟩ := by
  cases requestResume_cases h with
  | queried user id caller found =>
      obtain rfl := given.resolve_right (by simp [frameOp, requestOp])
      cases patching with
      | querying _ _ named =>
          unfold querySession
          split
          next => exact patching_respond (by simp [sessionNotFound, Response.plain])
          next s =>
            have named := named s rfl
            split
            · exact .saving _ none named rfl fun is => by contradiction
            · exact .askingAdmin user s named
  | admitted user id s caller =>
      cases patching with
      | askingAdmin _ _ named => exact .saving _ none named rfl fun is => by contradiction
  | refused => exact patching_respond (by simp [sessionNotFound, Response.plain])
  | savedError s =>
      obtain rfl := given.resolve_right (by simp [frameOp, requestOp])
      cases patching with
      | saving _ _ named told saved => exact .finished _ fun _ _ _ => saved rfl
  | raised f => exact .finished _ fun response is => by contradiction
  | stopped | checked | savedCheck | askedListAdmin | counted | fetched => cases patching

theorem patching_resumes {w w' : World} {f f' : Frame} {a : Answer} {answer : Option Answer}
    (patching : Patching cfg start acts p id error ⟨f, answer⟩)
    (given : answer = some a ∨ frameOp f = none) (h : resumeFrame cfg w p f a = some (w', f')) :
    Patching cfg start acts p id error ⟨f', none⟩ := by
  cases f with
  | request f =>
      obtain ⟨next, resumes, same⟩ := Option.map_eq_some_iff.mp h
      obtain ⟨-, rfl⟩ := Prod.mk.inj same
      exact patching_resumed patching given resumes
  | finished => contradiction
  | connect | ending | start | watch => cases patching

theorem patching_executed {st : State} (reached : run cfg start acts = some st) {f : Frame}
    (task : st.tasks[p]? = some ⟨f, none⟩) {op : DbOp} {db : Db} {a : Answer}
    (patching : Patching cfg start acts p id error ⟨f, none⟩) (awaits : frameOp f = some op)
    (effect : (backend cfg).perform st.store p op = some (db, a)) :
    Patching cfg start (acts ++ [.execute p]) p id error ⟨f, some a⟩ := by
  have taken : step cfg st (.execute p) = some _ := step_execute task awaits effect
  obtain ⟨-, rfl, rfl⟩ := perform_of_effect effect
  cases patching with
  | querying user answer named =>
      refine .querying user _ fun s given => ?_
      exact serves_looked_up awaits rfl (Option.some.inj given)
  | saving s answer named told saved =>
      obtain rfl := Option.some.inj awaits
      exact .saving s _ named told fun _ =>
        ⟨acts, [], st, _, s, rfl, reached, taken, rfl, named, told⟩
  | askingAdmin | finished => contradiction

theorem origin_patching (cfg : Config) (start : State) :
    Origin (backend cfg) start fun acts p r t => ∀ user id error,
      r = .updateSession user id (some error) → Patching cfg start acts p id error t where
  more act known user id error is := (known user id error is).more act
  started r _ user id error is := by
    subst is
    exact patching_start user
  executed reached task known awaits effect user id error is :=
    patching_executed reached task (known user id error is) awaits effect
  raised known awaits effect user id error is := by
    obtain rfl := failure_raised effect
    cases known user id error is with
    | querying user answer named => exact .querying user _ fun s given => by simp at given
    | saving s answer named told saved =>
        exact .saving s _ named told fun given => by simp at given
    | askingAdmin | finished => contradiction
  resumed _ _ known effect user id error is :=
    patching_resumes (known user id error is) (Or.inl rfl) effect
  answered _ _ known awaits effect user id error is :=
    patching_resumes ((known user id error is).more _) (Or.inr awaits) effect

end Patch

/-- A PATCH with the field is answered 204 only once its error has been saved. -/
theorem patch_saved {cfg : Config} {sessions : SessionTable} {apps : AppTable} {now : Int}
    {acts : List Action} {st : State} (reached : run cfg (init sessions apps now) acts = some st)
    {p : Nat} {user : User} {id : String} {error : Option String}
    (request : (Tasks.requests acts)[p]? = some (.updateSession user id (some error)))
    {response : Response} (answered : st.frame? p = some (.finished (.response response)))
    (ok : response.statusCode = 204) :
    ErrorSaved cfg (init sessions apps now) acts p id error := by
  obtain ⟨t, task, frame⟩ := Option.map_eq_some_iff.mp answered
  obtain ⟨r, asked, patching⟩ := (origin_patching cfg _).run rfl reached task
  obtain rfl := Option.some.inj (asked.symm.trans request)
  obtain ⟨f, answer⟩ := t
  obtain rfl : f = _ := frame
  cases patching user id error rfl with
  | finished _ saved => exact saved response rfl ok

end StreamingPortal.Sessions
