import StreamingPortal.Sessions.Watchers

set_option autoImplicit false

/-! # The REST endpoints that look up, update, list and stop sessions -/

namespace StreamingPortal.Sessions

def respond (r : Response) : Frame := .finished (.response r)

def SessionApp.ofModel (app : PublishedAppModel) : SessionApp :=
  ⟨app.id, app.title, app.productArea, app.version⟩

def SessionResponse.ofInstance (session : SessionInstance) : SessionResponse :=
  ⟨session.row, session.app.map SessionApp.ofModel⟩

def SessionResponse.toResponse (session : SessionResponse) : Response :=
  ⟨200, .session session, [], []⟩

/-! ## `query_session` and its callers -/

def sessionNotFound (sessionId : String) : Response :=
  Response.plain 404 ("Session with id " ++ sessionId ++ " was not found.")

def terminateSession (user : User) (session : SessionInstance) : Frame :=
  if session.row.status ∈ terminalStatuses then respond (Response.plain 204 "").expireCookies
  else
    endSession session
      (if session.row.userId = user.sub then "Terminated by the user."
        else "Terminated by a system administrator.")
      .stopped .terminateSession

def withSession (user : User) (session : SessionInstance) : SessionQueryCaller → Frame
  -- What each caller of `query_session` does with the session it returns.
  | .getSession => respond (SessionResponse.ofInstance session).toResponse
  | .updateSession (some error) => .request (.savingError (session.setError error))
  | .updateSession none => respond (Response.plain 204 "")
  | .terminateSession => terminateSession user session

def querySession (user : User) (sessionId : String) (caller : SessionQueryCaller) :
    Option SessionInstance → Frame
  | none => respond (sessionNotFound sessionId)
  | some session =>
      if session.row.userId = user.sub then withSession user session caller
      else .request (.askingAdmin user sessionId session caller)

/-! ## `stop_stream` and `check_session` -/

def stopNotFound : Response := (Response.plain 404 "Session not found.").expireCookies

def stopStream (user : User) : Option SessionInstance → Frame
  | none => respond stopNotFound
  | some session =>
      if session.row.userId ≠ user.sub ∨ session.row.status ∈ terminalStatuses then
        respond stopNotFound
      else endSession session "Stopped by client." .stopped .stopStream

def nvcfRequestCookie (cfg : Config) (value path : String) : Cookie :=
  { name := "nvcf-request-id", value := value, maxAge := some cfg.sessionTtl, expires := none,
    path := some path, httpOnly := true }

def checkNotFound : Response := Response.plain 404 ""

def checkSession (cfg : Config) (w : World) (path : String) : Option SessionInstance → Frame
  | none => respond checkNotFound
  | some session =>
      if session.row.status ∈ terminalStatuses then respond checkNotFound
      else if session.row.status = .idle ∧
          session.row.endDate.any (fun endDate =>
            decide (endDate ≤ w.now - seconds cfg.sessionTtl)) then
        .request (.savingCheck session.markExpired)
      else
        respond { Response.plain 200 "" with
          setCookie := [nvcfRequestCookie cfg (session.row.nvcfRequestId.getD "None") path] }

/-! ## `get_sessions` -/

def sessionOrderFields : List (String × SessionOrder) :=
  [("id", .id), ("app", .appTitle), ("user_name", .userName), ("start_date", .startDate),
    ("end_date", .endDate), ("duration", .duration)]

def ListRequest.descending (l : ListRequest) : Bool := decide (l.orderBy.toList.head? = some '-')

def ListRequest.fieldName (l : ListRequest) : String :=
  String.ofList (l.orderBy.toList.dropWhile fun c => decide (c = '-'))

def invalidOrderBy (fieldName : String) : Response :=
  ⟨400, .detail ("Invalid order_by field: '" ++ fieldName ++ "'. Allowed fields: " ++
    String.intercalate ", " (sessionOrderFields.map Prod.fst)), [], []⟩

def unprocessable (locs : List (List String)) : Response := ⟨422, .invalid locs, [], []⟩

def ListRequest.invalidValues (l : ListRequest) : List (List String) :=
  (if l.page < 1 then [["query", "page"]] else []) ++
    if l.pageSize < 5 then [["query", "page_size"]] else []

def StatusFilter.statuses : StatusFilter → List SessionStatus
  | .alive => aliveStatuses
  | .exactly status => [status]

def ListRequest.query (l : ListRequest) (ownOnly : Bool) : SessionQuery where
  statusIn := l.filteredStatus.map StatusFilter.statuses
  appId := if l.filteredApp.getD "" = "" then none else l.filteredApp
  userId := if ownOnly then some l.user.sub else none

def getSessions (l : ListRequest) : Frame :=
  if l.invalidValues ≠ [] then respond (unprocessable l.invalidValues)
  else
    match sessionOrderFields.lookup l.fieldName with
    | none => respond (invalidOrderBy l.fieldName)
    | some order =>
        if l.own then .request (.countingSessions l order (l.query true))
        else .request (.askingListAdmin l order)

/-- `ceil(total_size / page_size)` -/
def totalPages (totalSize pageSize : Int) : Int := (totalSize + pageSize - 1) / pageSize

def sessionsPage (l : ListRequest) (total : Nat) (results : List SessionInstance) : Page where
  items := results.map SessionResponse.ofInstance
  page := l.page
  pageSize := results.length
  totalSize := total
  totalPages := totalPages total l.pageSize

/-! ## The handlers -/

def startUpdateSession (user : User) (sessionId : String) (error : Option (Option String)) :
    Frame :=
  match error with
  | some (some text) =>
      if text.length > maxSessionErrorLength then respond (unprocessable [["body", "error"]])
      else .request (.querying user sessionId (.updateSession error))
  | _ => .request (.querying user sessionId (.updateSession error))

def startStopStream (user : User) (sessionId : String) : Option String → Frame
  | none => respond (Response.plain 400 "Session ID is not specified.").expireCookies
  | some nvcfRequestId => .request (.stopping user sessionId nvcfRequestId)

def requestOp : RequestFrame → Option DbOp
  | .querying _ sessionId _ => some (.getSession sessionId none none)
  | .savingError session => some (.save session [.error])
  | .stopping _ sessionId nvcfRequestId => some (.getSession sessionId (some nvcfRequestId) none)
  | .checking user sessionId _ => some (.getSession sessionId none (some user.sub))
  | .savingCheck session => some (.save session [.status])
  | .countingSessions _ _ q => some (.countSessions q)
  | .fetchingSessions l order q _ =>
      some (.fetchSessions q order l.descending ((l.page - 1) * l.pageSize).toNat l.pageSize.toNat)
  | _ => none

def requestResume (cfg : Config) (w : World) : RequestFrame → Answer → Option Frame
  | .querying user sessionId caller, .session found =>
      some (querySession user sessionId caller found)
  | .askingAdmin user sessionId session caller, .isAdmin admin =>
      -- 404 is returned instead of 403 to avoid information leakage
      if admin then some (withSession user session caller)
      else some (respond (sessionNotFound sessionId))
  | .savingError _, .saved => some (respond (Response.plain 204 ""))
  | .stopping user _ _, .session found => some (stopStream user found)
  | .checking _ _ path, .session found => some (checkSession cfg w path found)
  | .savingCheck _, .saved => some (respond checkNotFound.expireCookies)
  | .askingListAdmin l order, .isAdmin admin =>
      some (.request (.countingSessions l order (l.query !admin)))
  | .countingSessions l order q, .count total =>
      some (.request (.fetchingSessions l order q total))
  | .fetchingSessions l _ _ total, .sessions results =>
      some (respond ⟨200, .page (sessionsPage l total results), [], []⟩)
  | _, .raised => some (.finished .raised)
  | _, _ => none

/-! ## All a resumed request can do -/

inductive RequestStep (cfg : Config) (w : World) : RequestFrame → Answer → Frame → Prop
  | queried (user : User) (id : String) (caller : SessionQueryCaller)
      (found : Option SessionInstance) :
      RequestStep cfg w (.querying user id caller) (.session found)
        (querySession user id caller found)
  | admitted (user : User) (id : String) (s : SessionInstance) (caller : SessionQueryCaller) :
      RequestStep cfg w (.askingAdmin user id s caller) (.isAdmin true)
        (withSession user s caller)
  | refused (user : User) (id : String) (s : SessionInstance) (caller : SessionQueryCaller) :
      RequestStep cfg w (.askingAdmin user id s caller) (.isAdmin false)
        (respond (sessionNotFound id))
  | savedError (s : SessionInstance) :
      RequestStep cfg w (.savingError s) .saved (respond (Response.plain 204 ""))
  | stopped (user : User) (id cookie : String) (found : Option SessionInstance) :
      RequestStep cfg w (.stopping user id cookie) (.session found) (stopStream user found)
  | checked (user : User) (id path : String) (found : Option SessionInstance) :
      RequestStep cfg w (.checking user id path) (.session found) (checkSession cfg w path found)
  | savedCheck (s : SessionInstance) :
      RequestStep cfg w (.savingCheck s) .saved (respond checkNotFound.expireCookies)
  | askedListAdmin (l : ListRequest) (order : SessionOrder) (admin : Bool) :
      RequestStep cfg w (.askingListAdmin l order) (.isAdmin admin)
        (.request (.countingSessions l order (l.query !admin)))
  | counted (l : ListRequest) (order : SessionOrder) (q : SessionQuery) (total : Nat) :
      RequestStep cfg w (.countingSessions l order q) (.count total)
        (.request (.fetchingSessions l order q total))
  | fetched (l : ListRequest) (order : SessionOrder) (q : SessionQuery) (total : Nat)
      (results : List SessionInstance) :
      RequestStep cfg w (.fetchingSessions l order q total) (.sessions results)
        (respond ⟨200, .page (sessionsPage l total results), [], []⟩)
  | raised (f : RequestFrame) : RequestStep cfg w f .raised (.finished .raised)

theorem requestResume_cases {cfg : Config} {w : World} {f : RequestFrame} {a : Answer} {f' : Frame}
    (h : requestResume cfg w f a = some f') : RequestStep cfg w f a f' := by
  cases f with
  | askingAdmin user id s caller =>
      cases a with
      | isAdmin admin =>
          cases admin with
          | true =>
              obtain rfl := Option.some.inj h
              exact .admitted user id s caller
          | false =>
              obtain rfl := Option.some.inj h
              exact .refused user id s caller
      | raised =>
          obtain rfl := Option.some.inj h
          exact .raised _
      | _ => contradiction
  | querying | savingError | stopping | checking | savingCheck | askingListAdmin
  | countingSessions | fetchingSessions =>
      cases a <;> first | contradiction | (obtain rfl := Option.some.inj h; constructor)

end StreamingPortal.Sessions
