import Mathlib.Data.List.Basic
import Mathlib.Logic.Function.Basic
import StreamingPortal.Shared.Promises

set_option autoImplicit false

/-!
# Token renewal and the storage sessions of the tabs

The user managers, the navigator locks and the channel are shared by all tabs. A page is one
mount of `useStorageApiAuth`; what its functions wait for is answered from outside.
-/

namespace StreamingPortal.Web.StorageAuth

/-- `User` of `oidc-client-ts`. -/
structure User where
  accessToken : String
  expiresAt : Option Int
deriving DecidableEq

def User.expired (user : User) (now : Int) : Bool :=
  match user.expiresAt with
  | some time => time ≤ now
  | none => false

/-- The settings of a `UserManager`; the portal's own has no discovery URL. -/
structure UserManager where
  discovery : Option String
  automaticSilentRenew : Option Bool
deriving DecidableEq

-- The package renews by itself on expiry unless it is told not to.
def UserManager.renewsByItself (manager : UserManager) : Bool :=
  manager.automaticSilentRenew.getD true

/-- `stream` is whether the hook was given `onTokenRefreshed`. -/
structure Page where
  id : Nat
  stream : Bool
deriving DecidableEq

structure StorageApiSession where
  page : Page
  discovery : String
  userManager : Nat
  user : Option User
  attached : Bool
deriving DecidableEq

def StorageApiSession.isAuthenticated (session : StorageApiSession) (now : Int) : Bool :=
  match session.user with
  | some user => !user.expired now
  | none => false

inductive TokenRefreshSource
  | activated
  | renewed
deriving DecidableEq

inductive BroadcastMessage
  | authenticated (discovery : String)
  | renewal (discovery : String)
deriving DecidableEq

def BroadcastMessage.discovery : BroadcastMessage → String
  | .authenticated discovery | .renewal discovery => discovery

inductive StreamMessage
  | refreshAccessToken (discovery accessToken : String)
  | authenticationError (discovery errorCode errorMessage : String)
deriving DecidableEq

def StreamMessage.discovery : StreamMessage → String
  | .refreshAccessToken discovery _ | .authenticationError discovery _ _ => discovery

/-- A message of the streamed application, with the number of messages sent before it came. -/
structure Request where
  page : Page
  streams : page.stream = true
  discovery : String
  since : Nat
deriving DecidableEq

/-- A call of `renewTokenWithLock`: `AuthProvider`'s, or `renewToken` of a session, which a request
may be waiting for. -/
inductive Call
  | portal
  | session (index : Nat) (page : Page) (discovery : String) (request : Option Request)
deriving DecidableEq

def Call.discovery : Call → Option String
  | .portal => none
  | .session _ _ discovery _ => some discovery

def lockName : Option String → String
  | none => "auth-renewal"
  | some discovery => "storageapi-renewal-" ++ discovery

/-- Where `renewTokenWithLock` waits: for its lock, for `signinSilent`, for a callback (in the
`catch` block `again` is whether `onFailure` was called before it) or for the end of the
cooldown. -/
inductive Stage
  | requested
  | silent
  | succeeding
  | cooling
  | failing
  | recovering (again : Bool)
deriving DecidableEq

/-- How often the callbacks of one acquisition completed and were called. -/
structure Outcome where
  successes : Nat
  failures : Nat
deriving DecidableEq

inductive Frame
  -- `handleCustomEvent` in `createUserManager`, `signinPopup` and the sending of an error.
  | signInManager (request : Request)
  | signInPopup (request : Request) (userManager : Nat)
  | answering (request : Request)
  | handled (request : Request) (signedIn : Bool)
  -- `loadSession` in `createUserManager` and `getUser`.
  | loadManager (page : Page) (discovery : String)
  | loadUser (page : Page) (discovery : String) (userManager : Nat)
  -- `handleTokenRefresh`, and after its end.
  | refreshing (page : Page) (discovery : String) (source : TokenRefreshSource)
  | refreshed (page : Page) (discovery : String) (source : TokenRefreshSource)
  | renewing (call : Call) (stage : Stage)
  -- A silent renewal by the package itself.
  | library (discovery : Option String)
  -- `signInCallback` in `createUserManager`.
  | callback (discovery : String)
  | gone
deriving DecidableEq

inductive Answer
  | resolved
  | failed (error : String)
  | user (user : Option User)
  | granted
  | refused
deriving DecidableEq

inductive EventType
  | addNewStorageUrl
  | requestTokenRefresh
deriving DecidableEq

inductive Event
  | openPortal
  | mount (stream : Bool)
  | leave (page : Page)
  | customEvent (page : Page) (eventType : EventType) (discoveryUrl : String)
  | deliver (index : Nat)
  | accessTokenExpiring (userManager : Nat)
  | signInCallback (discovery : String)
  | tick (time : Int)
deriving DecidableEq

/-- `posted` has the task that posted each message, `outcomes` one entry for each lock released. -/
structure World where
  now : Int
  mounted : Nat
  channels : List Page
  managers : List UserManager
  sessions : List StorageApiSession
  sessionOf : Nat × String → Option Nat
  locks : String → Option Nat
  stored : List String
  sent : List (Page × StreamMessage)
  posted : List (Nat × BroadcastMessage)
  inFlight : List (Page × BroadcastMessage)
  outcomes : List Outcome

-- The token has gone, or an error has, since the request came.
def Answered (w : World) (request : Request) : Prop :=
  ∃ sent ∈ w.sent.drop request.since, sent.1 = request.page ∧ sent.2.discovery = request.discovery

instance (w : World) (request : Request) : Decidable (Answered w request) :=
  inferInstanceAs (Decidable (∃ sent ∈ _, _))

/-! ## What the functions do between two awaits -/

def createUserManager (w : World) (discovery : String) : World × Nat :=
  ({ w with managers := w.managers ++ [⟨some discovery, none⟩] }, w.managers.length)

def send (w : World) (page : Page) (message : StreamMessage) : World :=
  { w with sent := w.sent ++ [(page, message)] }

-- `handleTokenRefresh` up to the answer of the stream.
def handleTokenRefresh (w : World) (page : Page) (discovery accessToken : String)
    (source : TokenRefreshSource) : World × List Frame :=
  (if page.stream then send w page (.refreshAccessToken discovery accessToken) else w,
    [.refreshing page discovery source])

-- `channelRef.current?.postMessage`.
def postMessage (w : World) (task : Nat) (page : Page) (message : BroadcastMessage) : World :=
  if page ∈ w.channels then
    { w with
      posted := w.posted ++ [(task, message)]
      inFlight := w.inFlight ++ (w.channels.filter (· ≠ page)).map fun other => (other, message) }
  else w

def setUser (w : World) (index : Nat) (user : User) (attached : Bool → Bool) : World :=
  { w with
    sessions := w.sessions.modify index fun session =>
      { session with user := some user, attached := attached session.attached } }

-- `StorageApiSession.activate`.
def activate (w : World) (index : Nat) (page : Page) (discovery : String) (user : User) :
    World × List Frame :=
  let previous := (w.sessions[index]?).bind StorageApiSession.user
  let w := setUser w index user fun _ => true
  if previous.map User.accessToken = some user.accessToken then (w, [])
  else handleTokenRefresh w page discovery user.accessToken .activated

def addSession (w : World) (page : Page) (discovery : String) (userManager : Nat) : World :=
  { w with
    sessions := w.sessions ++ [⟨page, discovery, userManager, none, false⟩]
    sessionOf := Function.update w.sessionOf (page.id, discovery) (some w.sessions.length) }

def activateSession (w : World) (page : Page) (discovery : String) (user : User)
    (userManager : Nat) : World × List Frame :=
  match w.sessionOf (page.id, discovery) with
  | some index => activate w index page discovery user
  | none =>
      activate (addSession w page discovery userManager) w.sessions.length page discovery user

def storeDiscoveryUrl (w : World) (discovery : String) : World :=
  if discovery ∈ w.stored then w else { w with stored := w.stored ++ [discovery] }

-- The part of `signIn` that follows `signinPopup`.
def signIn (w : World) (task : Nat) (request : Request) (user : User) (userManager : Nat) :
    World × List Frame :=
  let (w, started) := activateSession w request.page request.discovery user userManager
  let w := storeDiscoveryUrl w request.discovery
  (postMessage w task request.page (.authenticated request.discovery), started)

def sendAuthenticationError (w : World) (request : Request) (error : String) : World :=
  send w request.page (.authenticationError request.discovery "auth_error" error)

/-! ## `renewTokenWithLock` -/

-- `onSuccess`, and what `onFailure` does with the user of the popup.
def renewed (w : World) (call : Call) (user : User) : World × List Frame :=
  match call with
  | .portal => (w, [])
  | .session index page discovery _ =>
      handleTokenRefresh (setUser w index user id) page discovery user.accessToken .renewed

-- How `onFailure` ends, with the error it rejects with; `AuthProvider` passes none.
def onFailure (w : World) (call : Call) (a : Answer) :
    Option (World × List Frame × Option String) :=
  match call, a with
  | .portal, .resolved => some (w, [], none)
  | .session .., .user (some user) =>
      let (w, started) := renewed w call user
      some (w, started, none)
  | .session .., .failed error => some (w, [], some error)
  | _, _ => none

-- What waits for the call goes on, `error` being what it rejects with.
def finish (w : World) (call : Call) (error : Option String) : World × Frame :=
  match call, error with
  | .session _ _ _ (some request), none => (w, .handled request false)
  | .session _ _ _ (some request), some error =>
      (sendAuthenticationError w request error, .answering request)
  | _, _ => (w, .gone)

def release (w : World) (call : Call) (outcome : Outcome) : World :=
  { w with
    locks := Function.update w.locks (lockName call.discovery) none
    outcomes := w.outcomes ++ [outcome] }

-- The end of the function that holds the lock.
def conclude (w : World) (call : Call) (outcome : Outcome) (error : Option String)
    (started : List Frame) : World × Frame × List Frame :=
  let (w, frame) := finish (release w call outcome) call error
  (w, frame, started)

def resumeRenewal (w : World) (task : Nat) (call : Call) :
    Stage → Answer → Option (World × Frame × List Frame)
  | .requested, .granted =>
      if w.locks (lockName call.discovery) = none then
        some ({ w with locks := Function.update w.locks (lockName call.discovery) (some task) },
          .renewing call .silent, [])
      else none
  | .requested, .refused =>
      if w.locks (lockName call.discovery) = none then none
      else
        let (w, frame) := finish w call none
        some (w, frame, [])
  | .requested, .failed error =>
      let (w, frame) := finish w call (some error)
      some (w, frame, [])
  | .silent, .user (some user) =>
      let (w, started) := renewed w call user
      some (w, .renewing call .succeeding, started)
  | .silent, .user none => some (w, .renewing call .failing, [])
  | .silent, .failed _ => some (w, .renewing call (.recovering false), [])
  | .succeeding, .resolved => some (w, .renewing call .cooling, [])
  | .succeeding, .failed _ => some (w, .renewing call (.recovering false), [])
  | .cooling, .resolved => some (conclude w call ⟨1, 0⟩ none [])
  | .failing, a =>
      match onFailure w call a with
      | some (w, started, none) => some (conclude w call ⟨0, 1⟩ none started)
      | some (w, started, some _) => some (w, .renewing call (.recovering true), started)
      | none => none
  | .recovering again, a =>
      match onFailure w call a with
      | some (w, started, error) =>
          some (conclude w call ⟨0, if again then 2 else 1⟩ error started)
      | none => none
  | _, _ => none

/-! ## The functions after an await, and the events -/

def resume (w : World) (task : Nat) : Frame → Answer → Option (World × Frame × List Frame)
  | .signInManager request, .resolved =>
      let (w, userManager) := createUserManager w request.discovery
      some (w, .signInPopup request userManager, [])
  | .signInPopup request userManager, .user (some user) =>
      let (w, started) := signIn w task request user userManager
      some (w, .handled request true, started)
  | .signInManager request, .failed error | .signInPopup request _, .failed error =>
      some (sendAuthenticationError w request error, .answering request, [])
  | .answering request, .resolved | .answering request, .failed _ =>
      some (w, .handled request false, [])
  | .loadManager page discovery, .resolved =>
      let (w, userManager) := createUserManager w discovery
      some (w, .loadUser page discovery userManager, [])
  | .loadUser page discovery userManager, .user (some user) =>
      if user.expired w.now then some (w, .gone, [])
      else
        let (w, started) := activateSession w page discovery user userManager
        some (w, .gone, started)
  | .loadManager _ _, .failed _ | .loadUser _ _ _, .failed _ | .loadUser _ _ _, .user none =>
      some (w, .gone, [])
  | .refreshing page discovery source, .resolved =>
      some (if source = .activated then w else postMessage w task page (.renewal discovery),
        .refreshed page discovery source, [])
  | .refreshing page discovery source, .failed _ =>
      if page.stream then some (w, .refreshed page discovery source, []) else none
  | .renewing call stage, a => resumeRenewal w task call stage a
  | .library _, .user _ | .library _, .failed _ => some (w, .gone, [])
  | .callback discovery, .resolved => some ((createUserManager w discovery).1, .gone, [])
  | .callback _, .failed _ => some (w, .gone, [])
  | _, _ => none

-- The handlers of the event at a manager: the package's own, and those added to its `events`. The
-- package awaits one after the other; that all of them start at once only adds interleavings.
def expiring (w : World) (index : Nat) (manager : UserManager) : List Frame :=
  (if manager.renewsByItself then [.library manager.discovery] else []) ++
    match manager.discovery with
    | none => [.renewing .portal .requested]
    | some _ => w.sessions.zipIdx.filterMap fun session =>
        if session.1.userManager = index ∧ session.1.attached = true then
          some (.renewing (.session session.2 session.1.page session.1.discovery none) .requested)
        else none

-- `handleCustomEvent` up to its first await.
def handleCustomEvent (w : World) (request : Request) : EventType → Frame
  | .addNewStorageUrl => .signInManager request
  | .requestTokenRefresh =>
      match w.sessionOf (request.page.id, request.discovery) with
      | some index =>
          if ((w.sessions[index]?).any (·.isAuthenticated w.now)) then
            .renewing (.session index request.page request.discovery (some request)) .requested
          else .signInManager request
      | none => .signInManager request

-- The clean-up of the hook.
def dispose (w : World) (page : Page) : World :=
  { w with
    channels := w.channels.filter (· ≠ page)
    sessions := w.sessions.map fun session =>
      if session.page = page then { session with user := none, attached := false } else session
    sessionOf := fun key => if key.1 = page.id then none else w.sessionOf key }

def event (w : World) : Event → Option (World × List Frame)
  | .openPortal => some ({ w with managers := w.managers ++ [⟨none, some false⟩] }, [])
  | .mount stream =>
      let page : Page := ⟨w.mounted, stream⟩
      some ({ w with mounted := w.mounted + 1, channels := w.channels ++ [page] },
        w.stored.map (.loadManager page))
  | .leave page => if page ∈ w.channels then some (dispose w page, []) else none
  | .customEvent page eventType discoveryUrl =>
      if mounted : page ∈ w.channels ∧ page.stream = true then
        some (w, [handleCustomEvent w ⟨page, mounted.2, discoveryUrl, w.sent.length⟩ eventType])
      else none
  | .deliver index =>
      w.inFlight[index]?.map fun delivery =>
        ({ w with inFlight := w.inFlight.eraseIdx index },
          if delivery.1 ∈ w.channels then [.loadManager delivery.1 delivery.2.discovery] else [])
  | .accessTokenExpiring index =>
      w.managers[index]?.map fun manager => (w, expiring w index manager)
  | .signInCallback discovery => some (w, [.callback discovery])
  | .tick time => if w.now ≤ time then some ({ w with now := time }, []) else none

def program : Promises.Program World Frame Answer Event where
  resume := resume
  event := event

abbrev State := Promises.State World Frame
abbrev Action := Promises.Action Answer Event

def step (s : State) (act : Action) : Option State := Promises.step program s act

-- Nothing is open yet; the discovery URLs of earlier visits may be stored.
def start (now : Int) (stored : List String) : State where
  world :=
    { now, stored, mounted := 0, channels := [], managers := [], sessions := []
      sessionOf := fun _ => none, locks := fun _ => none, sent := [], posted := [], inFlight := []
      outcomes := [] }
  tasks := []

end StreamingPortal.Web.StorageAuth
