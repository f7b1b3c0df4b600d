import StreamingPortal.Shared.Table
import StreamingPortal.Shared.Tasks
import Mathlib.Logic.Function.Basic

set_option autoImplicit false

/-!
# Streaming sessions: rows, requests and the frames their handlers wait in

Times are microseconds. Log lines and the headers sent to NVCF are left out: no
handler reads them back.
-/

namespace StreamingPortal.Sessions

/-- The statuses a row can hold. `ALIVE` is only used for filtering and is no status here. -/
inductive SessionStatus
  | connecting | active | idle | stopped | expired | failed
deriving DecidableEq, Repr

inductive StatusFilter
  | alive
  | exactly (status : SessionStatus)
deriving DecidableEq, Repr

def terminalStatuses : List SessionStatus := [.stopped, .expired, .failed]

def aliveStatuses : List SessionStatus := [.connecting, .active, .idle]

def maxSessionErrorLength : Nat := 4000

structure PublishedAppModel where
  id : String
  functionId : String
  functionVersionId : String
  title : String
  productArea : String
  version : String
deriving DecidableEq, Repr

structure SessionModel where
  id : String
  functionId : String
  functionVersionId : String
  nvcfRequestId : Option String
  appId : Option String
  userId : String
  userName : String
  status : SessionStatus
  startDate : Int
  endDate : Option Int
  duration : Int
  error : Option String
deriving DecidableEq, Repr

inductive Column
  | status | endDate | duration | error
deriving DecidableEq, Repr

/-- `session.save(update_fields=fields)`: only the named columns reach the row. -/
def SessionModel.assign (session : SessionModel) (fields : List Column) (row : SessionModel) :
    SessionModel :=
  { row with
    status := if .status ∈ fields then session.status else row.status
    endDate := if .endDate ∈ fields then session.endDate else row.endDate
    duration := if .duration ∈ fields then session.duration else row.duration
    error := if .error ∈ fields then session.error else row.error }

/-- `int((later - earlier).total_seconds())` -/
def wholeSeconds (earlier later : Int) : Int := (later - earlier).tdiv 1000000

/--
A loaded model instance with its prefetched application. `readAt` is a history
variable, the number of status saves that had reached the table when the row was
read; no handler looks at it.
-/
structure SessionInstance where
  row : SessionModel
  app : Option PublishedAppModel
  readAt : Nat
deriving Repr

def watcherTerminalStatus (session : SessionInstance) : SessionStatus :=
  match session.row.error with
  | some e => if e = "" then .expired else .failed
  | none => .expired

def SessionInstance.markConnecting (session : SessionInstance) (now : Int) : SessionInstance :=
  { session with row := { session.row with
      status := .connecting
      endDate := none
      error := none
      duration := wholeSeconds session.row.startDate now } }

def SessionInstance.markActive (session : SessionInstance) : SessionInstance :=
  { session with row := { session.row with status := .active } }

def SessionInstance.markEnded (session : SessionInstance) (status : SessionStatus) (now : Int) :
    SessionInstance :=
  -- `status`, `end_date` and `duration` as the cleanup and `end_session` set them.
  { session with row := { session.row with
      status := status
      endDate := some now
      duration := wholeSeconds session.row.startDate now } }

def SessionInstance.markIdleExpired (session : SessionInstance) (now : Int) : SessionInstance :=
  { session with row := { session.row with
      status := watcherTerminalStatus session
      duration := wholeSeconds session.row.startDate (session.row.endDate.getD now) } }

def SessionInstance.markExpired (session : SessionInstance) : SessionInstance :=
  { session with row := { session.row with status := watcherTerminalStatus session } }

def SessionInstance.setError (session : SessionInstance) (error : Option String) :
    SessionInstance :=
  { session with row := { session.row with error := error } }

/-- The part of `User` the session routes read. -/
structure User where
  sub : String
  username : String
deriving DecidableEq, Repr

structure Cookie where
  name : String
  value : String
  maxAge : Option Int
  expires : Option Int
  path : Option String
  httpOnly : Bool
deriving DecidableEq, Repr

structure SessionApp where
  id : String
  title : String
  productArea : String
  version : String
deriving DecidableEq, Repr

structure SessionResponse where
  session : SessionModel
  app : Option SessionApp
deriving DecidableEq, Repr

structure Page where
  items : List SessionResponse
  page : Int
  pageSize : Nat
  totalSize : Nat
  totalPages : Int
deriving DecidableEq, Repr

inductive Body
  | text (content : String)
  | detail (message : String)
  -- A request that FastAPI rejects, with the location of each invalid value.
  | invalid (locs : List (List String))
  | session (session : SessionResponse)
  | page (page : Page)
deriving DecidableEq, Repr

structure Response where
  statusCode : Int
  body : Body
  headers : List (String × String)
  setCookie : List Cookie
deriving DecidableEq, Repr

/-- How a handler ends: with a response, with an exception, or (a websocket) by returning. -/
inductive Outcome
  | response (r : Response)
  | returned
  | raised
deriving DecidableEq, Repr

inductive SessionOrder
  | id | appTitle | userName | startDate | endDate | duration
deriving DecidableEq, Repr

/-- A filter of the session table; `none` leaves the column unconstrained. -/
structure SessionQuery where
  statusIn : Option (List SessionStatus)
  appId : Option String
  userId : Option String
deriving DecidableEq, Repr

def SessionQuery.matches (q : SessionQuery) (row : SessionModel) : Bool :=
  (match q.statusIn with | some l => decide (row.status ∈ l) | none => true) &&
    (match q.appId with | some a => decide (row.appId = some a) | none => true) &&
    match q.userId with | some u => decide (row.userId = u) | none => true

/-- The query parameters of `GET /sessions/` and the user who sends them. -/
structure ListRequest where
  user : User
  filteredStatus : Option StatusFilter
  filteredApp : Option String
  own : Bool
  page : Int
  pageSize : Int
  orderBy : String
deriving Repr

structure StartRequest where
  user : User
  appId : String
  path : String
deriving Repr

inductive Request
  | connectToStream (user : User) (sessionId : String) (nvcfRequestId : Option String)
  | stopStream (user : User) (sessionId : String) (nvcfRequestId : Option String)
  | terminateSession (user : User) (sessionId : String)
  | checkSession (user : User) (sessionId path : String)
  -- `error` is `none` when the body leaves the field out.
  | updateSession (user : User) (sessionId : String) (error : Option (Option String))
  | getSession (user : User) (sessionId : String)
  | getSessions (l : ListRequest)
  | startStream (s : StartRequest)
  | watchSessionTimeout
  | watchIdleSessions

inductive DbOp
  | getSession (id : String) (nvcfRequestId userId : Option String)
  | timedOutSessions (cutoff : Int)
  | expiredSessions (cutoff : Int)
  | orphanedSessions (cutoff : Int)
  | countSessions (q : SessionQuery)
  | fetchSessions (q : SessionQuery) (order : SessionOrder) (descending : Bool)
      (offset limit : Nat)
  | getApp (id : String)
  | createSession (row : SessionModel)
  | save (session : SessionInstance) (fields : List Column)
  | setErrorIfNull (id error : String)
  | beginTransaction
  | endTransaction

structure NvcfResponse where
  statusCode : Int
  content : String
  headers : List (String × String)
  -- The `nvcf-request-id` cookie among the `set-cookie` headers.
  nvcfRequestId : Option String
deriving Repr

inductive RelayTask
  | consumer | producer
deriving DecidableEq, Repr

/-- The exceptions that end a relay task. -/
inductive RelayError
  | disconnect (code : Int) (reason : Option String)
  -- `ConnectionClosedError`, with the close frame received if there was one.
  | upstreamClosed (frame : Option (Int × String))
  | other
deriving DecidableEq, Repr

inductive Answer
  | session (s : Option SessionInstance)
  | sessions (l : List SessionInstance)
  | count (n : Nat)
  | app (a : Option PublishedAppModel)
  | created (s : SessionInstance)
  | affected (n : Nat)
  | saved
  -- The awaited database operation, or any other await, raised.
  | raised
  | done
  | isAdmin (b : Bool)
  | nvcf (r : NvcfResponse)
  -- `httpx.TimeoutException`
  | nvcfTimeout
  -- The reply to the POST and the id `uuid.uuid4()` returns after it.
  | nvcfStarted (r : NvcfResponse) (uuid : String)
  | connected
  -- `InvalidStatus`; `body` is `none` when it cannot be decoded.
  | invalidStatus (status : Int) (body : Option String)
  | disconnected (code : Int) (reason : Option String)
  | connectTimeout
  | relayEnded (task : RelayTask) (error : RelayError)
  | relayWoken

/-- The locals of `connect_to_stream` once its admission checks have passed. -/
structure Connection where
  user : User
  session : SessionInstance
  app : PublishedAppModel
  code : Int
  reason : Option String
  upstreamFailed : Bool
  upstreamError : Option String
  -- An exception that no `except` clause handles is on its way out.
  raising : Bool
deriving Repr

inductive ConnectFrame
  | accepting (user : User) (sessionId : String) (cookie : Option String)
  | rejecting (code : Int)
  | loading (user : User) (sessionId nvcfRequestId : String)
  | savingConnecting (c : Connection)
  | openingUpstream (c : Connection)
  | savingActive (c : Connection)
  | relaying (c : Connection) (consumerDone producerDone : Bool)
  | closingUpstream (c : Connection) (consumerDone producerDone : Bool)
  | savingFailed (c : Connection)
  | recordingError (c : Connection) (truncated : String)
  | savingIdle (c : Connection)
  | closingClient (c : Connection)

inductive EndCaller
  | stopStream
  | terminateSession
  | watchSessionTimeout (rest : List SessionInstance)

structure EndCall where
  session : SessionInstance
  reason : String
  finalStatus : SessionStatus
  caller : EndCaller

inductive EndFrame
  | deleting (e : EndCall)
  | closingWebsocket (e : EndCall) (response : NvcfResponse)
  | saving (e : EndCall) (response : NvcfResponse)

/-- The endpoints that load their session with `query_session`. -/
inductive SessionQueryCaller
  | getSession
  | updateSession (error : Option (Option String))
  | terminateSession

inductive RequestFrame
  | querying (user : User) (sessionId : String) (caller : SessionQueryCaller)
  | askingAdmin (user : User) (sessionId : String) (session : SessionInstance)
      (caller : SessionQueryCaller)
  | savingError (session : SessionInstance)
  | stopping (user : User) (sessionId nvcfRequestId : String)
  | checking (user : User) (sessionId path : String)
  | savingCheck (session : SessionInstance)
  | askingListAdmin (l : ListRequest) (order : SessionOrder)
  | countingSessions (l : ListRequest) (order : SessionOrder) (q : SessionQuery)
  | fetchingSessions (l : ListRequest) (order : SessionOrder) (q : SessionQuery) (total : Nat)

inductive StartFrame
  | entering (s : StartRequest)
  | counting (s : StartRequest)
  | gettingApp (s : StartRequest) (running : Nat)
  | posting (s : StartRequest) (running : Nat) (app : PublishedAppModel)
  | creating (s : StartRequest) (running : Nat) (app : PublishedAppModel) (row : SessionModel)
      (nvcfRequestId : String)
  | leaving (outcome : Outcome)

inductive WatchFrame
  | queryingTimedOut (cutoff : Int)
  | sleepingTimeout
  | queryingExpired (cutoff : Int)
  | queryingOrphaned (expired : List SessionInstance) (cutoff : Int)
  | savingExpiry (session : SessionInstance) (rest : List SessionInstance) (now : Int)
  | sleepingIdle

inductive Frame
  | connect (f : ConnectFrame)
  | ending (f : EndFrame)
  | request (f : RequestFrame)
  | start (f : StartFrame)
  | watch (f : WatchFrame)
  | finished (o : Outcome)

/-- The settings the session routes read. -/
structure Config where
  nvcfApiKey : Option String
  maxAppInstancesCount : Int
  sessionTtl : Int
  sessionIdleTimeout : Int
  -- A block under `in_transaction()` keeps every other database step out.
  exclusiveTransactions : Bool
  -- The order in which the database answers an ordered query.
  arrange : SessionOrder → Bool → List SessionInstance → List SessionInstance
  arrange_perm : ∀ order descending l, (arrange order descending l).Perm l

structure CloseCall where
  websocket : Nat
  code : Int
  reason : Option String
deriving DecidableEq, Repr

abbrev Attributes := List (String × String)

structure EndMetrics where
  sessionId : String
  duration : Int
  attributes : Attributes
deriving DecidableEq, Repr

/-- What the handlers of one process share outside the database. -/
structure World where
  now : Int
  -- `session_websockets`; a websocket is named by the task that accepted it.
  sessionWebsockets : String → Option Nat
  closeCalls : List CloseCall
  activeSessions : List (Int × Attributes)
  sessionStart : List Attributes
  sessionEnd : List EndMetrics

end StreamingPortal.Sessions
