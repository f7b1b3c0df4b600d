import StreamingPortal.Sessions.Requests

set_option autoImplicit false

/-! # `start_stream` -/

namespace StreamingPortal.Sessions

def tooManyInstances (running : Nat) : Response :=
  Response.plain 429 ("Maximum number of instances reached (" ++ toString running ++ ").")

def applicationNotFound : Response := Response.plain 404 "Application not found."

def startTimeout : Response :=
  Response.plain 408
    "This could be caused by network congestion or no GPUs available. Please try again."

def StartRequest.query (s : StartRequest) : SessionQuery :=
  ⟨some aliveStatuses, some s.appId, some s.user.sub⟩

def newSession (s : StartRequest) (app : PublishedAppModel) (uuid nvcfRequestId : String)
    (now : Int) : SessionModel where
  id := uuid
  functionId := app.functionId
  functionVersionId := app.functionVersionId
  nvcfRequestId := some nvcfRequestId
  appId := some app.id
  userId := s.user.sub
  userName := s.user.username
  status := .idle
  startDate := now
  endDate := none
  duration := 0
  error := none

def startedAttributes (s : StartRequest) (app : PublishedAppModel) : Attributes :=
  attributes
    [("session.app", some app.id),
      ("session.user", some s.user.sub),
      ("session.username", some s.user.username),
      ("nvcf.function_id", some app.functionId),
      ("nvcf.function_version_id", some app.functionVersionId)]

def signInPath (path sessionId : String) : String :=
  -- The cookie path: the request path and `<session id>/sign_in`.
  (if path.toList.getLast? = some '/' then path else path ++ "/") ++ sessionId ++ "/sign_in"

def startedResponse (cfg : Config) (s : StartRequest) (nvcfRequestId : String)
    (created : SessionInstance) : Response :=
  ⟨200, .session (SessionResponse.ofInstance created), [],
    [nvcfRequestCookie cfg nvcfRequestId (signInPath s.path created.row.id)]⟩

def leave (o : Outcome) : Frame := .start (.leaving o)

def startStream (cfg : Config) (s : StartRequest) : Frame :=
  if cfg.nvcfApiKey.getD "" = "" then .finished .raised else .start (.entering s)

def startOp : StartFrame → Option DbOp
  | .entering _ => some .beginTransaction
  | .counting s => some (.countSessions s.query)
  | .gettingApp s _ => some (.getApp s.appId)
  | .posting _ _ _ => none
  | .creating _ _ _ row _ => some (.createSession row)
  | .leaving _ => some .endTransaction

def nvcfStarted (w : World) (s : StartRequest) (running : Nat) (app : PublishedAppModel)
    (response : NvcfResponse) (uuid : String) : Frame :=
  -- `post` is answered; on HTTP 200 the row is created next.
  if response.statusCode = 200 then
    match response.nvcfRequestId with
    | none => leave .raised
    | some nvcfRequestId =>
        .start (.creating s running app (newSession s app uuid nvcfRequestId w.now) nvcfRequestId)
  else leave (.response (Response.plain response.statusCode response.content))

def startResume (cfg : Config) (w : World) : StartFrame → Answer → Option (World × Frame)
  | .entering s, .done => some (w, .start (.counting s))
  | .entering _, .raised => some (w, .finished .raised)
  | .counting s, .count running =>
      if (running : Int) + 1 > cfg.maxAppInstancesCount then
        some (w, leave (.response (tooManyInstances running)))
      else some (w, .start (.gettingApp s running))
  | .gettingApp s running, .app found =>
      match found with
      | none => some (w, leave (.response applicationNotFound))
      | some app => some (w, .start (.posting s running app))
  | .posting s running app, .nvcfStarted response uuid =>
      some (w, nvcfStarted w s running app response uuid)
  | .posting _ _ _, .nvcfTimeout => some (w, leave (.response startTimeout))
  | .creating s _ app _ nvcfRequestId, .created created =>
      some ({ w with sessionStart := w.sessionStart ++ [startedAttributes s app] },
        leave (.response (startedResponse cfg s nvcfRequestId created)))
  | .leaving o, .done => some (w, .finished o)
  | _, .raised => some (w, leave .raised)
  | _, _ => none

/-! ## All a resumed `start_stream` can do -/

inductive StartStep (cfg : Config) (w : World) : StartFrame → Answer → World → Frame → Prop
  | entered (s : StartRequest) :
      StartStep cfg w (.entering s) .done w (.start (.counting s))
  | notEntered (s : StartRequest) : StartStep cfg w (.entering s) .raised w (.finished .raised)
  | full (s : StartRequest) (running : Nat)
      (exceeds : (running : Int) + 1 > cfg.maxAppInstancesCount) :
      StartStep cfg w (.counting s) (.count running) w
        (leave (.response (tooManyInstances running)))
  | counted (s : StartRequest) (running : Nat)
      (room : ¬ (running : Int) + 1 > cfg.maxAppInstancesCount) :
      StartStep cfg w (.counting s) (.count running) w (.start (.gettingApp s running))
  | noApp (s : StartRequest) (running : Nat) :
      StartStep cfg w (.gettingApp s running) (.app none) w (leave (.response applicationNotFound))
  | gotApp (s : StartRequest) (running : Nat) (app : PublishedAppModel) :
      StartStep cfg w (.gettingApp s running) (.app (some app)) w (.start (.posting s running app))
  | started (s : StartRequest) (running : Nat) (app : PublishedAppModel) (r : NvcfResponse)
      (uuid nvcfRequestId : String) (ok : r.statusCode = 200)
      (cookie : r.nvcfRequestId = some nvcfRequestId) :
      StartStep cfg w (.posting s running app) (.nvcfStarted r uuid) w
        (.start (.creating s running app (newSession s app uuid nvcfRequestId w.now) nvcfRequestId))
  | notStarted (s : StartRequest) (running : Nat) (app : PublishedAppModel) (r : NvcfResponse)
      (uuid : String) (o : Outcome) :
      StartStep cfg w (.posting s running app) (.nvcfStarted r uuid) w (leave o)
  | timedOut (s : StartRequest) (running : Nat) (app : PublishedAppModel) :
      StartStep cfg w (.posting s running app) .nvcfTimeout w (leave (.response startTimeout))
  | created (s : StartRequest) (running : Nat) (app : PublishedAppModel) (row : SessionModel)
      (nvcfRequestId : String) (created : SessionInstance) :
      StartStep cfg w (.creating s running app row nvcfRequestId) (.created created)
        { w with sessionStart := w.sessionStart ++ [startedAttributes s app] }
        (leave (.response (startedResponse cfg s nvcfRequestId created)))
  | left (o : Outcome) : StartStep cfg w (.leaving o) .done w (.finished o)
  | raised (f : StartFrame) (inside : ∀ s, f ≠ .entering s) :
      StartStep cfg w f .raised w (leave .raised)

theorem startResume_cases {cfg : Config} {w w' : World} {f : StartFrame} {a : Answer} {f' : Frame}
    (h : startResume cfg w f a = some (w', f')) : StartStep cfg w f a w' f' := by
  cases f with
  | entering s =>
      cases a <;> first
        | contradiction
        | (obtain ⟨rfl, rfl⟩ := Prod.mk.inj (Option.some.inj h); constructor)
  | counting s =>
      cases a with
      | count running =>
          simp only [startResume] at h
          split at h
          next exceeds =>
            obtain ⟨rfl, rfl⟩ := Prod.mk.inj (Option.some.inj h)
            exact .full s running exceeds
          next room =>
            obtain ⟨rfl, rfl⟩ := Prod.mk.inj (Option.some.inj h)
            exact .counted s running room
      | raised =>
          obtain ⟨rfl, rfl⟩ := Prod.mk.inj (Option.some.inj h)
          exact .raised _ (by simp)
      | _ => contradiction
  | gettingApp s running =>
      cases a with
      | app found =>
          cases found with
          | none =>
              obtain ⟨rfl, rfl⟩ := Prod.mk.inj (Option.some.inj h)
              exact .noApp s running
          | some app =>
              obtain ⟨rfl, rfl⟩ := Prod.mk.inj (Option.some.inj h)
              exact .gotApp s running app
      | raised =>
          obtain ⟨rfl, rfl⟩ := Prod.mk.inj (Option.some.inj h)
          exact .raised _ (by simp)
      | _ => contradiction
  | posting s running app =>
      cases a with
      | nvcfStarted r uuid =>
          obtain ⟨rfl, rfl⟩ := Prod.mk.inj (Option.some.inj h)
          unfold nvcfStarted
          split
          next ok =>
            split
            next => exact .notStarted s running app r uuid _
            next nvcfRequestId cookie => exact .started s running app r uuid nvcfRequestId ok cookie
          next => exact .notStarted s running app r uuid _
      | nvcfTimeout =>
          obtain ⟨rfl, rfl⟩ := Prod.mk.inj (Option.some.inj h)
          exact .timedOut s running app
      | raised =>
          obtain ⟨rfl, rfl⟩ := Prod.mk.inj (Option.some.inj h)
          exact .raised _ (by simp)
      | _ => contradiction
  | creating s running app row nvcfRequestId =>
      cases a with
      | created created =>
          obtain ⟨rfl, rfl⟩ := Prod.mk.inj (Option.some.inj h)
          exact .created s running app row nvcfRequestId created
      | raised =>
          obtain ⟨rfl, rfl⟩ := Prod.mk.inj (Option.some.inj h)
          exact .raised _ (by simp)
      | _ => contradiction
  | leaving o =>
      cases a with
      | done =>
          obtain ⟨rfl, rfl⟩ := Prod.mk.inj (Option.some.inj h)
          exact .left o
      | raised =>
          obtain ⟨rfl, rfl⟩ := Prod.mk.inj (Option.some.inj h)
          exact .raised _ (by simp)
      | _ => contradiction

end StreamingPortal.Sessions
