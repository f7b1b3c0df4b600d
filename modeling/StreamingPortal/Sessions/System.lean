import StreamingPortal.Sessions.Start

set_option autoImplicit false

/-!
# The session handlers and watchers of one backend process

Every handler is a task; the database and what the process keeps in memory are
shared. Clients and NVCF appear only in the answers tasks are given, which are
arbitrary.
-/

namespace StreamingPortal.Sessions

def startRequest (cfg : Config) (w : World) : Request → Frame
  | .connectToStream user sessionId cookie => startConnect cfg user sessionId cookie
  | .stopStream user sessionId nvcfRequestId => startStopStream user sessionId nvcfRequestId
  | .terminateSession user sessionId => .request (.querying user sessionId .terminateSession)
  | .checkSession user sessionId path => .request (.checking user sessionId path)
  | .updateSession user sessionId error => startUpdateSession user sessionId error
  | .getSession user sessionId => .request (.querying user sessionId .getSession)
  | .getSessions l => getSessions l
  | .startStream s => startStream cfg s
  | .watchSessionTimeout => watchSessionTimeout cfg w
  | .watchIdleSessions => watchIdleSessions cfg w

def frameOp : Frame → Option DbOp
  | .connect f => connectOp f
  | .ending f => endOp f
  | .request f => requestOp f
  | .start f => startOp f
  | .watch f => watchOp f
  | .finished _ => none

def resumeFrame (cfg : Config) (w : World) (p : Nat) : Frame → Answer → Option (World × Frame)
  | .connect f, a => connectResume w p f a
  | .ending f, a => endResume w f a
  | .request f, a => (requestResume cfg w f a).map fun next => (w, next)
  | .start f, a => startResume cfg w f a
  | .watch f, a => watchResume cfg w f a
  | .finished _, _ => none

/-! ## Which handler a frame belongs to -/

inductive Kind
  | connect | ending | request | start | watch | finished
deriving DecidableEq

def Frame.kind : Frame → Kind
  | .connect _ => .connect
  | .ending _ => .ending
  | .request _ => .request
  | .start _ => .start
  | .watch _ => .watch
  | .finished _ => .finished

def Kind.next : Kind → List Kind
  | .connect => [.connect, .finished]
  | .ending => [.ending, .watch, .finished]
  | .request => [.request, .ending, .finished]
  | .start => [.start, .finished]
  | .watch => [.watch, .ending, .finished]
  | .finished => []

theorem cleanup_kind (w : World) (p : Nat) (c : Connection) :
    (cleanup w p c).2.kind = .connect := by
  unfold cleanup
  simp only
  repeat' split
  all_goals rfl

theorem admit_kind (w : World) (p : Nat) (user : User) (found : Option SessionInstance) :
    (checkAdmission w p user found).2.kind = .connect := by
  unfold checkAdmission
  repeat' split
  all_goals rfl

theorem terminateTimedOut_kind (rest : List SessionInstance) :
    (terminateTimedOut rest).kind = .ending ∨ (terminateTimedOut rest).kind = .watch := by
  cases rest with
  | nil => exact Or.inr rfl
  | cons => exact Or.inl rfl

theorem caller_return_kind (caller : EndCaller) (r : Response) :
    (caller.return r).kind ∈ Kind.ending.next := by
  cases caller with
  | stopStream | terminateSession => simp [EndCaller.return, Frame.kind, Kind.next]
  | watchSessionTimeout rest =>
      rcases terminateTimedOut_kind rest with h | h <;> simp [EndCaller.return, h, Kind.next]

theorem stopIdle_kind (now : Int) (rest : List SessionInstance) :
    (stopIdle now rest).kind = .watch := by
  cases rest <;> rfl

theorem connectResume_kind {w w' : World} {p : Nat} {f : ConnectFrame} {a : Answer} {f' : Frame}
    (h : connectResume w p f a = some (w', f')) : f'.kind ∈ Kind.connect.next := by
  cases connectResume_cases h with
  | loaded => simp [admit_kind, Kind.next]
  | saveConnectingFailed | openFailed | closed | closeFailed => simp [cleanup_kind, Kind.next]
  | _ => simp [Frame.kind, Kind.next, finishFailed, removeWebsocket]

theorem endResume_kind {w w' : World} {f : EndFrame} {a : Answer} {f' : Frame}
    (h : endResume w f a = some (w', f')) : f'.kind ∈ Kind.ending.next := by
  cases endResume_cases h with
  | timedOut | saved => exact caller_return_kind ..
  | deleted | answered | closed | raised => simp [Frame.kind, Kind.next, recordEnd]

theorem withSession_kind (user : User) (s : SessionInstance) (caller : SessionQueryCaller) :
    (withSession user s caller).kind ∈ Kind.request.next := by
  unfold withSession terminateSession
  repeat' split
  all_goals simp [Frame.kind, Kind.next, respond, endSession]

theorem requestResume_kind {cfg : Config} {w : World} {f : RequestFrame} {a : Answer} {f' : Frame}
    (h : requestResume cfg w f a = some f') : f'.kind ∈ Kind.request.next := by
  cases requestResume_cases h with
  | queried =>
      unfold querySession
      repeat' split
      · simp [Frame.kind, Kind.next, respond]
      · exact withSession_kind ..
      · simp [Frame.kind, Kind.next]
  | admitted => exact withSession_kind ..
  | stopped =>
      unfold stopStream
      repeat' split
      all_goals simp [Frame.kind, Kind.next, respond, endSession]
  | checked =>
      unfold checkSession
      repeat' split
      all_goals simp [Frame.kind, Kind.next, respond]
  | refused | savedError | savedCheck | askedListAdmin | counted | fetched | raised =>
      simp [Frame.kind, Kind.next, respond]

theorem startResume_kind {cfg : Config} {w w' : World} {f : StartFrame} {a : Answer} {f' : Frame}
    (h : startResume cfg w f a = some (w', f')) : f'.kind ∈ Kind.start.next := by
  cases startResume_cases h <;> simp [Frame.kind, Kind.next, leave]

theorem watchResume_kind {cfg : Config} {w w' : World} {f : WatchFrame} {a : Answer} {f' : Frame}
    (h : watchResume cfg w f a = some (w', f')) : f'.kind ∈ Kind.watch.next := by
  cases watchResume_cases h with
  | timedOut cutoff sessions =>
      rcases terminateTimedOut_kind sessions with h | h <;> simp [h, Kind.next]
  | orphaned | saved => simp [stopIdle_kind, Kind.next]
  | timeoutSlept | expired | idleSlept | raised =>
      simp [Frame.kind, Kind.next, watchSessionTimeout, watchIdleSessions]

theorem resumeFrame_kind {cfg : Config} {w w' : World} {p : Nat} {f f' : Frame} {a : Answer}
    (h : resumeFrame cfg w p f a = some (w', f')) : f'.kind ∈ f.kind.next := by
  cases f with
  | connect f => exact connectResume_kind h
  | ending f => exact endResume_kind h
  | request f =>
      obtain ⟨next, resumed, same⟩ := Option.map_eq_some_iff.mp h
      obtain ⟨-, rfl⟩ := Prod.mk.inj same
      exact requestResume_kind resumed
  | start f => exact startResume_kind h
  | watch f => exact watchResume_kind h
  | finished => contradiction

/-! ## The frames a task can start in -/

inductive FirstFrame : Frame → Prop
  | connect (user : User) (id : String) (cookie : Option String) :
      FirstFrame (.connect (.accepting user id cookie))
  | query (user : User) (id : String) (caller : SessionQueryCaller) :
      FirstFrame (.request (.querying user id caller))
  | stop (user : User) (id cookie : String) : FirstFrame (.request (.stopping user id cookie))
  | check (user : User) (id path : String) : FirstFrame (.request (.checking user id path))
  | listAll (l : ListRequest) (order : SessionOrder) :
      FirstFrame (.request (.askingListAdmin l order))
  | listOwn (l : ListRequest) (order : SessionOrder) (q : SessionQuery) :
      FirstFrame (.request (.countingSessions l order q))
  | start (s : StartRequest) : FirstFrame (.start (.entering s))
  | watchTimeout (cutoff : Int) : FirstFrame (.watch (.queryingTimedOut cutoff))
  | watchIdle (cutoff : Int) : FirstFrame (.watch (.queryingExpired cutoff))
  | finished (o : Outcome) : FirstFrame (.finished o)

theorem startRequest_first (cfg : Config) (w : World) (r : Request) :
    FirstFrame (startRequest cfg w r) := by
  cases r with
  | connectToStream user id cookie =>
      simp only [startRequest, startConnect]
      split <;> constructor
  | stopStream user id cookie => cases cookie <;> constructor
  | updateSession user id error =>
      simp only [startRequest, startUpdateSession]
      repeat' split
      all_goals constructor
  | getSessions l =>
      simp only [startRequest, getSessions]
      repeat' split
      all_goals constructor
  | startStream s =>
      simp only [startRequest, startStream]
      split <;> constructor
  | terminateSession | checkSession | getSession | watchSessionTimeout | watchIdleSessions =>
      constructor

abbrev Task := Tasks.Task Answer Frame
abbrev State := Tasks.State Db World Answer Frame
abbrev Action := Tasks.Action Answer Request

def backend (cfg : Config) : Tasks.Program Db World DbOp Answer Frame Request where
  start := startRequest cfg
  op := frameOp
  perform db p op := if db.blocked cfg p then none else some (db.perform cfg p op)
  failure := DbOp.failure
  resume := resumeFrame cfg
  tick time w := { w with now := time }

theorem perform_of_effect {cfg : Config} {db db' : Db} {p : Nat} {op : DbOp} {a : Answer}
    (effect : (backend cfg).perform db p op = some (db', a)) :
    db.blocked cfg p = false ∧ db' = (db.perform cfg p op).1 ∧ a = (db.perform cfg p op).2 := by
  simp only [backend] at effect
  split at effect
  · contradiction
  next free =>
    have same := Option.some.inj effect
    exact ⟨by simpa using free, by rw [same], by rw [same]⟩

abbrev step (cfg : Config) : State → Action → Option State := Tasks.step (backend cfg)

abbrev run (cfg : Config) : State → List Action → Option State := Runs.run (step cfg)

abbrev Along (cfg : Config) : (State → Action → State → Prop) → State → List Action → Prop :=
  Runs.Along (step cfg)

def init (sessions : SessionTable) (apps : AppTable) (now : Int) : State where
  -- The process as it starts on a database with these rows.
  store := ⟨sessions, apps, none, []⟩
  world := ⟨now, fun _ => none, [], [], [], []⟩
  tasks := []

def State.session? (st : State) (id : String) : Option SessionModel := st.store.sessions.get? id

/-! ## A database with one session, on which concrete runs start -/

namespace Sample

def app : PublishedAppModel := ⟨"app", "function", "version", "App", "area", "1.0"⟩

def user : User := ⟨"user", "User"⟩

def session (id : String) (endDate : Option Int) : SessionModel where
  id := id
  functionId := app.functionId
  functionVersionId := app.functionVersionId
  nvcfRequestId := some "nvcf"
  appId := some app.id
  userId := user.sub
  userName := user.username
  status := .idle
  startDate := 0
  endDate := endDate
  duration := 0
  error := none

def config (maxAppInstancesCount : Int) : Config where
  nvcfApiKey := some "key"
  maxAppInstancesCount := maxAppInstancesCount
  sessionTtl := 28800
  sessionIdleTimeout := 300
  exclusiveTransactions := true
  arrange := fun _ _ l => l
  arrange_perm := fun _ _ _ => .refl _

def start (endDate : Option Int) (now : Int) : State :=
  -- A process that starts with one session, which ended its last connection at `endDate`.
  init ⟨[session "session" endDate], List.nodup_singleton _⟩ ⟨[app], by decide⟩ now

def connect : Request := .connectToStream user "session" (some "nvcf")

/-- Task `p` has just been accepted: its admission checks load the row and look at it. -/
def accepted (p : Nat) : List Action := [.request connect, .answer p .done]

def ok : NvcfResponse := ⟨200, "", [], none⟩

end Sample

end StreamingPortal.Sessions
