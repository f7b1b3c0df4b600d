import StreamingPortal.Sessions.Connect

set_option autoImplicit false

/-! # `end_session` and the timeout watcher that calls it in a loop -/

namespace StreamingPortal.Sessions

def sessionExpiredCookie : Cookie :=
  -- `set_session_expired_cookies`; `expires` is relative to the current time.
  { name := "nvcf-request-id", value := "", maxAge := none, expires := some 0, path := none,
    httpOnly := false }

def Response.plain (statusCode : Int) (content : String) : Response :=
  ⟨statusCode, .text content, [], []⟩

def Response.expireCookies (r : Response) : Response :=
  { r with setCookie := [sessionExpiredCookie] }

def endSessionResponse (r : NvcfResponse) : Response :=
  if r.statusCode = 404 then (Response.plain 204 "").expireCookies
  else ⟨r.statusCode, .text r.content, r.headers.filter fun h => h.1 ≠ "set-cookie",
    [sessionExpiredCookie]⟩

def endSessionTimeout : Response :=
  Response.plain 408 "Failed to terminate session with a timeout -- try again later."

def endSession (session : SessionInstance) (reason : String) (finalStatus : SessionStatus)
    (caller : EndCaller) : Frame :=
  .ending (.deleting ⟨session, reason, finalStatus, caller⟩)

def terminateTimedOut : List SessionInstance → Frame
  -- The loop of `watch_session_timeout` over the sessions it has loaded.
  | [] => .watch .sleepingTimeout
  | session :: rest =>
      endSession session "Timed out." (watcherTerminalStatus session) (.watchSessionTimeout rest)

def EndCaller.return (response : Response) : EndCaller → Frame
  | .stopStream => .finished (.response response.expireCookies)
  | .terminateSession => .finished (.response response)
  | .watchSessionTimeout rest => terminateTimedOut rest

def recordEnd (w : World) (e : EndCall) (response : NvcfResponse) : World × Frame :=
  (w, .ending (.saving { e with session := e.session.markEnded e.finalStatus w.now } response))

def endOp : EndFrame → Option DbOp
  | .saving e _ => some (.save e.session [.status, .endDate, .duration])
  | _ => none

def endResume (w : World) : EndFrame → Answer → Option (World × Frame)
  | .deleting e, .nvcf response =>
      if response.statusCode = 200 then
        match w.sessionWebsockets e.session.row.id with
        | some websocket =>
            some (w.closeWebsocket websocket 3010 (some e.reason),
              .ending (.closingWebsocket e response))
        | none => some (recordEnd w e response)
      else some (recordEnd w e response)
  | .deleting e, .nvcfTimeout => some (w, e.caller.return endSessionTimeout)
  | .deleting _, .raised => some (w, .finished .raised)
  | .closingWebsocket e response, .done => some (recordEnd w e response)
  | .closingWebsocket _ _, .raised => some (w, .finished .raised)
  | .saving e response, .saved =>
      some (w.emitSessionEndMetrics e.session, e.caller.return (endSessionResponse response))
  | .saving _ _, .raised => some (w, .finished .raised)
  | _, _ => none

/-! ## All a resumed `end_session` can do -/

inductive EndStep (w : World) : EndFrame → Answer → World → Frame → Prop
  | deleted (e : EndCall) (response : NvcfResponse) (websocket : Nat)
      (ok : response.statusCode = 200)
      (registered : w.sessionWebsockets e.session.row.id = some websocket) :
      EndStep w (.deleting e) (.nvcf response) (w.closeWebsocket websocket 3010 (some e.reason))
        (.ending (.closingWebsocket e response))
  | answered (e : EndCall) (response : NvcfResponse)
      (unregistered : response.statusCode = 200 →
        w.sessionWebsockets e.session.row.id = none) :
      EndStep w (.deleting e) (.nvcf response) w (recordEnd w e response).2
  | timedOut (e : EndCall) :
      EndStep w (.deleting e) .nvcfTimeout w (e.caller.return endSessionTimeout)
  | closed (e : EndCall) (response : NvcfResponse) :
      EndStep w (.closingWebsocket e response) .done w (recordEnd w e response).2
  | saved (e : EndCall) (response : NvcfResponse) :
      EndStep w (.saving e response) .saved (w.emitSessionEndMetrics e.session)
        (e.caller.return (endSessionResponse response))
  | raised (f : EndFrame) : EndStep w f .raised w (.finished .raised)

theorem endResume_cases {w w' : World} {f : EndFrame} {a : Answer} {f' : Frame}
    (h : endResume w f a = some (w', f')) : EndStep w f a w' f' := by
  cases f with
  | deleting e =>
      cases a with
      | nvcf response =>
          simp only [endResume] at h
          split at h
          next ok =>
            split at h
            next websocket registered =>
              obtain ⟨rfl, rfl⟩ := Prod.mk.inj (Option.some.inj h)
              exact .deleted e response websocket ok registered
            next unregistered =>
              obtain ⟨rfl, rfl⟩ := Prod.mk.inj (Option.some.inj h)
              exact .answered e response fun _ => unregistered
          next refused =>
            obtain ⟨rfl, rfl⟩ := Prod.mk.inj (Option.some.inj h)
            exact .answered e response fun ok => absurd ok refused
      | nvcfTimeout =>
          obtain ⟨rfl, rfl⟩ := Prod.mk.inj (Option.some.inj h)
          exact .timedOut e
      | raised =>
          obtain ⟨rfl, rfl⟩ := Prod.mk.inj (Option.some.inj h)
          exact .raised _
      | _ => contradiction
  | closingWebsocket e response =>
      cases a with
      | done =>
          obtain ⟨rfl, rfl⟩ := Prod.mk.inj (Option.some.inj h)
          exact .closed e response
      | raised =>
          obtain ⟨rfl, rfl⟩ := Prod.mk.inj (Option.some.inj h)
          exact .raised _
      | _ => contradiction
  | saving e response =>
      cases a with
      | saved =>
          obtain ⟨rfl, rfl⟩ := Prod.mk.inj (Option.some.inj h)
          exact .saved e response
      | raised =>
          obtain ⟨rfl, rfl⟩ := Prod.mk.inj (Option.some.inj h)
          exact .raised _
      | _ => contradiction

end StreamingPortal.Sessions
