import StreamingPortal.Sessions.Database

set_option autoImplicit false

/-! # `connect_to_stream` -/

namespace StreamingPortal.Sessions

def attributes (attrs : List (String × Option String)) : Attributes :=
  -- Entries whose value is `None` are left out.
  attrs.filterMap fun entry => entry.2.map fun value => (entry.1, value)

def SessionStatus.value : SessionStatus → String
  | .connecting => "CONNECTING"
  | .active => "ACTIVE"
  | .idle => "IDLE"
  | .stopped => "STOPPED"
  | .expired => "EXPIRED"
  | .failed => "FAILED"

def World.closeWebsocket (w : World) (websocket : Nat) (code : Int) (reason : Option String) :
    World :=
  { w with closeCalls := w.closeCalls ++ [⟨websocket, code, reason⟩] }

def World.register (w : World) (sessionId : String) (websocket : Nat) : World :=
  { w with sessionWebsockets := Function.update w.sessionWebsockets sessionId (some websocket) }

def World.unregister (w : World) (sessionId : String) : World :=
  { w with sessionWebsockets := Function.update w.sessionWebsockets sessionId none }

def World.addActiveSessions (w : World) (amount : Int) (attrs : Attributes) : World :=
  { w with activeSessions := w.activeSessions ++ [(amount, attrs)] }

def World.emitSessionEndMetrics (w : World) (session : SessionInstance) : World :=
  { w with sessionEnd := w.sessionEnd ++
      [⟨session.row.id, session.row.duration, attributes
        [("session.app", session.row.appId),
          ("session.user", some session.row.userId),
          ("session.username", some session.row.userName),
          ("nvcf.function_id", some session.row.functionId),
          ("nvcf.function_version_id", some session.row.functionVersionId),
          ("session.status", some session.row.status.value)]⟩] }

def Connection.gaugeAttributes (c : Connection) : Attributes :=
  attributes
    [("session.app", c.session.row.appId),
      ("session.user", some c.user.sub),
      ("session.username", some c.user.username),
      ("nvcf.function_id", some c.app.functionId),
      ("nvcf.function_version_id", some c.app.functionVersionId)]

def upstreamCloseFrame (rcvd : Option (Int × String)) : Int × String :=
  match rcvd with
  | none => (1006, "")
  | some frame => frame

def formatUpstreamCloseError (rcvd : Option (Int × String)) : String :=
  let (code, reason) := upstreamCloseFrame rcvd
  "NVCF closed the streaming connection (code " ++ toString code ++ "): " ++
    if reason = "" then "no reason provided" else reason

def reject (w : World) (p : Nat) (code : Int) (reason : String) : World × Frame :=
  (w.closeWebsocket p code (some reason), .connect (.rejecting code))

/--
The admission checks, made on the row as loaded, up to the first save. The foreign
key is `SET_NULL`, so the application is missing exactly when `app_id` is.
-/
def checkAdmission (w : World) (p : Nat) (user : User) : Option SessionInstance → World × Frame
  | none => reject w p 3004 "Session with the specified ID not found."
  | some session =>
      -- The checks read the copy; the row may have moved on since.
      if session.row.status ∈ terminalStatuses then
        reject w p 3004 "Session with the specified ID not found."
      else if session.row.status = .active then
        reject w p 3005 "Client is connected already."
      else
        match session.app with
        | none =>
            reject w p 3006 "Application associated with this session is no longer available."
        | some app =>
            (w.register session.row.id p, .connect <| .savingConnecting
              { user := user
                session := session.markConnecting w.now
                app := app
                code := 1000
                reason := none
                upstreamFailed := false
                upstreamError := none
                raising := false })

def Connection.relayFailed (c : Connection) : RelayError → Connection
  -- What the `except` clauses of the two relay tasks record.
  | .disconnect code reason => { c with code := code, reason := reason }
  | .upstreamClosed rcvd =>
      let (code, reason) := upstreamCloseFrame rcvd
      -- Only an abnormal close counts as a failure of NVCF.
      if code ≠ 1000 then
        { c with
          code := code
          reason := some reason
          upstreamFailed := true
          upstreamError := some (formatUpstreamCloseError rcvd) }
      else { c with code := code, reason := some reason }
  | .other => c

def removeWebsocket (w : World) (p : Nat) (c : Connection) : World × Frame :=
  -- From the removal of the websocket to the last `await` of the handler.
  ((w.unregister c.session.row.id).closeWebsocket p c.code c.reason, .connect (.closingClient c))

def cleanup (w : World) (p : Nat) (c : Connection) : World × Frame :=
  -- The `finally` block, up to its first `await`.
  let w :=
    if c.session.row.status = .active then w.addActiveSessions (-1) c.gaugeAttributes else w
  if c.upstreamFailed then
    (w, .connect (.savingFailed { c with session := c.session.markEnded .failed w.now }))
  -- Closes by the API have these codes and have saved the status already.
  else if ¬ (3000 ≤ c.code ∧ c.code < 4000) then
    (w, .connect (.savingIdle { c with session := c.session.markEnded .idle w.now }))
  else removeWebsocket w p c

def finishFailed (w : World) (p : Nat) (c : Connection) : World × Frame :=
  removeWebsocket (w.emitSessionEndMetrics c.session) p c

def Connection.outcome (c : Connection) : Outcome := if c.raising then .raised else .returned

def connectFailed (c : Connection) : Answer → Option Connection
  -- What `connect` raises on its way to the `except` clauses of the handler.
  | .invalidStatus status (some body) => some
      { c with
        code := 3001
        reason := some body
        upstreamFailed := true
        upstreamError := some ("NVCF rejected the streaming connection (HTTP " ++
          toString status ++ "): " ++ body) }
  -- `decode()` raises inside the `except` clause.
  | .invalidStatus _ none => some { c with raising := true }
  | .disconnected code reason => some { c with code := code, reason := reason }
  | .connectTimeout =>
      let reason := "Failed to connect a streaming session with a timeout -- try again later."
      some
        { c with
          code := 3008
          reason := some reason
          upstreamFailed := true
          upstreamError := some reason }
  | .raised => some { c with raising := true }
  | _ => none

def startConnect (cfg : Config) (user : User) (sessionId : String) (cookie : Option String) :
    Frame :=
  if cfg.nvcfApiKey.getD "" = "" then .finished .raised
  else .connect (.accepting user sessionId cookie)

def connectOp : ConnectFrame → Option DbOp
  | .loading user sessionId nvcfRequestId =>
      some (.getSession sessionId (some nvcfRequestId) (some user.sub))
  | .savingConnecting c => some (.save c.session [.status, .endDate, .error, .duration])
  | .savingActive c => some (.save c.session [.status])
  | .savingFailed c => some (.save c.session [.status, .endDate, .duration])
  | .recordingError c truncated => some (.setErrorIfNull c.session.row.id truncated)
  | .savingIdle c => some (.save c.session [.status, .endDate, .duration])
  | _ => none

def connectResume (w : World) (p : Nat) : ConnectFrame → Answer → Option (World × Frame)
  | .accepting user sessionId cookie, .done =>
      if cookie.getD "" = "" then some (reject w p 3000 "The session has expired.")
      else some (w, .connect (.loading user sessionId (cookie.getD "")))
  | .accepting _ _ _, .raised => some (w, .finished .raised)
  | .rejecting _, .done => some (w, .finished .returned)
  | .rejecting _, .raised => some (w, .finished .raised)
  | .loading user _ _, .session found => some (checkAdmission w p user found)
  | .loading _ _ _, .raised => some (w, .finished .raised)
  | .savingConnecting c, .saved => some (w, .connect (.openingUpstream c))
  | .savingConnecting c, .raised => some (cleanup w p { c with raising := true })
  | .openingUpstream c, .connected =>
      some (w, .connect (.savingActive { c with session := c.session.markActive }))
  | .openingUpstream c, a => (connectFailed c a).map (cleanup w p)
  | .savingActive c, .saved =>
      some (w.addActiveSessions 1 c.gaugeAttributes, .connect (.relaying c false false))
  -- The upstream connection is closed by its context manager before `finally` runs.
  | .savingActive c, .raised =>
      some (w, .connect (.closingUpstream { c with raising := true } true true))
  | .relaying c false producerDone, .relayEnded .consumer e =>
      some (w, .connect (.relaying (c.relayFailed e) true producerDone))
  | .relaying c consumerDone false, .relayEnded .producer e =>
      some (w, .connect (.relaying (c.relayFailed e) consumerDone true))
  | .relaying c consumerDone producerDone, .relayWoken =>
      -- `asyncio.wait` returns once a task has raised; the other one is cancelled.
      if consumerDone || producerDone then some (w, .connect (.closingUpstream c true true))
      else none
  | .relaying c consumerDone producerDone, .raised =>
      some (w, .connect
        (.closingUpstream { c with raising := true } consumerDone producerDone))
  | .closingUpstream c false producerDone, .relayEnded .consumer e =>
      some (w, .connect (.closingUpstream (c.relayFailed e) true producerDone))
  | .closingUpstream c consumerDone false, .relayEnded .producer e =>
      some (w, .connect (.closingUpstream (c.relayFailed e) consumerDone true))
  | .closingUpstream c _ _, .done => some (cleanup w p c)
  | .closingUpstream c _ _, .raised => some (cleanup w p { c with raising := true })
  | .savingFailed c, .saved =>
      if c.upstreamError.getD "" = "" then some (finishFailed w p c)
      else
        let truncated := String.ofList ((c.upstreamError.getD "").toList.take maxSessionErrorLength)
        some (w, .connect (.recordingError c truncated))
  -- An exception inside `finally` skips the rest of it, the removal included.
  | .savingFailed _, .raised => some (w, .finished .raised)
  | .recordingError c truncated, .affected n =>
      let session := if n = 0 then c.session else c.session.setError (some truncated)
      some (finishFailed w p { c with session := session })
  | .recordingError _ _, .raised => some (w, .finished .raised)
  | .savingIdle c, .saved => some (removeWebsocket w p c)
  | .savingIdle _, .raised => some (w, .finished .raised)
  -- `done` includes the `RuntimeError` and the `ProtocolError` that are swallowed.
  | .closingClient c, .done => some (w, .finished c.outcome)
  | .closingClient _, .raised => some (w, .finished .raised)
  | _, _ => none

theorem connectFailed_session {c c' : Connection} {a : Answer}
    (h : connectFailed c a = some c') : c'.session = c.session := by
  unfold connectFailed at h
  split at h <;> first | contradiction | (obtain rfl := Option.some.inj h; rfl)

@[simp] theorem relayFailed_session (c : Connection) (e : RelayError) :
    (c.relayFailed e).session = c.session := by
  unfold Connection.relayFailed
  cases e with
  | disconnect | other => rfl
  | upstreamClosed rcvd =>
      simp only
      split <;> rfl

/-! ## All a resumed `connect_to_stream` can do -/

inductive ConnectStep (w : World) (p : Nat) : ConnectFrame → Answer → World → Frame → Prop
  | noCookie (user : User) (id : String) (cookie : Option String) (missing : cookie.getD "" = "") :
      ConnectStep w p (.accepting user id cookie) .done
        (w.closeWebsocket p 3000 (some "The session has expired.")) (.connect (.rejecting 3000))
  | accepted (user : User) (id : String) (cookie : Option String) (given : cookie.getD "" ≠ "") :
      ConnectStep w p (.accepting user id cookie) .done w
        (.connect (.loading user id (cookie.getD "")))
  | acceptFailed (user : User) (id : String) (cookie : Option String) :
      ConnectStep w p (.accepting user id cookie) .raised w (.finished .raised)
  | rejected (code : Int) (a : Answer) (o : Outcome) :
      ConnectStep w p (.rejecting code) a w (.finished o)
  | loaded (user : User) (id cookie : String) (found : Option SessionInstance) :
      ConnectStep w p (.loading user id cookie) (.session found)
        (checkAdmission w p user found).1 (checkAdmission w p user found).2
  | loadFailed (user : User) (id cookie : String) :
      ConnectStep w p (.loading user id cookie) .raised w (.finished .raised)
  | savedConnecting (c : Connection) :
      ConnectStep w p (.savingConnecting c) .saved w (.connect (.openingUpstream c))
  | saveConnectingFailed (c : Connection) :
      ConnectStep w p (.savingConnecting c) .raised
        (cleanup w p { c with raising := true }).1 (cleanup w p { c with raising := true }).2
  | opened (c : Connection) :
      ConnectStep w p (.openingUpstream c) .connected w
        (.connect (.savingActive { c with session := c.session.markActive }))
  | openFailed (c c' : Connection) (a : Answer) (caught : connectFailed c a = some c') :
      ConnectStep w p (.openingUpstream c) a (cleanup w p c').1 (cleanup w p c').2
  | savedActive (c : Connection) :
      ConnectStep w p (.savingActive c) .saved (w.addActiveSessions 1 c.gaugeAttributes)
        (.connect (.relaying c false false))
  | saveActiveFailed (c : Connection) :
      ConnectStep w p (.savingActive c) .raised w
        (.connect (.closingUpstream { c with raising := true } true true))
  | relayEnded (c : Connection) (d₁ d₂ d₁' d₂' : Bool) (task : RelayTask) (e : RelayError) :
      ConnectStep w p (.relaying c d₁ d₂) (.relayEnded task e) w
        (.connect (.relaying (c.relayFailed e) d₁' d₂'))
  | relayWoken (c : Connection) (d₁ d₂ : Bool) :
      ConnectStep w p (.relaying c d₁ d₂) .relayWoken w (.connect (.closingUpstream c true true))
  | relayRaised (c : Connection) (d₁ d₂ : Bool) :
      ConnectStep w p (.relaying c d₁ d₂) .raised w
        (.connect (.closingUpstream { c with raising := true } d₁ d₂))
  | lateRelayEnded (c : Connection) (d₁ d₂ d₁' d₂' : Bool) (task : RelayTask) (e : RelayError) :
      ConnectStep w p (.closingUpstream c d₁ d₂) (.relayEnded task e) w
        (.connect (.closingUpstream (c.relayFailed e) d₁' d₂'))
  | closed (c : Connection) (d₁ d₂ : Bool) :
      ConnectStep w p (.closingUpstream c d₁ d₂) .done (cleanup w p c).1 (cleanup w p c).2
  | closeFailed (c : Connection) (d₁ d₂ : Bool) :
      ConnectStep w p (.closingUpstream c d₁ d₂) .raised
        (cleanup w p { c with raising := true }).1 (cleanup w p { c with raising := true }).2
  | savedFailed (c : Connection) (silent : c.upstreamError.getD "" = "") :
      ConnectStep w p (.savingFailed c) .saved (finishFailed w p c).1 (finishFailed w p c).2
  | savedFailedRecording (c : Connection) (truncated : String) :
      ConnectStep w p (.savingFailed c) .saved w (.connect (.recordingError c truncated))
  | recordedError (c : Connection) (truncated : String) (n : Nat) (session : SessionInstance)
      (same : session = c.session ∨ session = c.session.setError (some truncated)) :
      ConnectStep w p (.recordingError c truncated) (.affected n)
        (finishFailed w p { c with session := session }).1
        (finishFailed w p { c with session := session }).2
  | savedIdle (c : Connection) :
      ConnectStep w p (.savingIdle c) .saved (removeWebsocket w p c).1 (removeWebsocket w p c).2
  | saveFailedRaised (c : Connection) :
      ConnectStep w p (.savingFailed c) .raised w (.finished .raised)
  | recordingRaised (c : Connection) (truncated : String) :
      ConnectStep w p (.recordingError c truncated) .raised w (.finished .raised)
  | saveIdleRaised (c : Connection) :
      ConnectStep w p (.savingIdle c) .raised w (.finished .raised)
  | clientClosed (c : Connection) :
      ConnectStep w p (.closingClient c) .done w (.finished c.outcome)
  | clientCloseFailed (c : Connection) :
      ConnectStep w p (.closingClient c) .raised w (.finished .raised)

theorem connectResume_opening (w : World) (p : Nat) (c : Connection) {a : Answer}
    (unopened : a ≠ .connected) :
    connectResume w p (.openingUpstream c) a = (connectFailed c a).map (cleanup w p) := by
  cases a with
  | connected => exact absurd rfl unopened
  | _ => rfl

theorem connectResume_cases {w w' : World} {p : Nat} {f : ConnectFrame} {a : Answer} {f' : Frame}
    (h : connectResume w p f a = some (w', f')) : ConnectStep w p f a w' f' := by
  have pair {x : World × Frame} (same : some x = some (w', f')) : w' = x.1 ∧ f' = x.2 := by
    obtain rfl := Option.some.inj same
    exact ⟨rfl, rfl⟩
  cases f with
  | accepting user id cookie =>
      cases a with
      | done =>
          simp only [connectResume] at h
          split at h
          next missing =>
            obtain ⟨rfl, rfl⟩ := pair h
            exact .noCookie user id cookie missing
          next given =>
            obtain ⟨rfl, rfl⟩ := pair h
            exact .accepted user id cookie given
      | raised =>
          obtain ⟨rfl, rfl⟩ := pair h
          exact .acceptFailed user id cookie
      | _ => contradiction
  | openingUpstream c =>
      by_cases opens : a = .connected
      · subst opens
        obtain ⟨rfl, rfl⟩ := pair h
        exact .opened c
      · rw [connectResume_opening w p c opens] at h
        obtain ⟨c', caught, same⟩ := Option.map_eq_some_iff.mp h
        obtain ⟨rfl, rfl⟩ := pair (congrArg some same)
        exact .openFailed c c' a caught
  | relaying c d₁ d₂ =>
      cases a with
      | relayEnded task e =>
          cases d₁ <;> cases d₂ <;> cases task <;> first
            | contradiction
            | (obtain ⟨rfl, rfl⟩ := pair h; exact .relayEnded c _ _ _ _ _ e)
      | relayWoken =>
          simp only [connectResume] at h
          split at h
          · obtain ⟨rfl, rfl⟩ := pair h
            exact .relayWoken c d₁ d₂
          · contradiction
      | raised =>
          simp only [connectResume] at h
          obtain ⟨rfl, rfl⟩ := pair h
          exact .relayRaised c d₁ d₂
      | _ => cases d₁ <;> cases d₂ <;> contradiction
  | closingUpstream c d₁ d₂ =>
      cases a with
      | relayEnded task e =>
          cases d₁ <;> cases d₂ <;> cases task <;> first
            | contradiction
            | (obtain ⟨rfl, rfl⟩ := pair h; exact .lateRelayEnded c _ _ _ _ _ e)
      | done =>
          simp only [connectResume] at h
          obtain ⟨rfl, rfl⟩ := pair h
          exact .closed c d₁ d₂
      | raised =>
          simp only [connectResume] at h
          obtain ⟨rfl, rfl⟩ := pair h
          exact .closeFailed c d₁ d₂
      | _ => cases d₁ <;> cases d₂ <;> contradiction
  | savingFailed c =>
      cases a with
      | saved =>
          simp only [connectResume] at h
          split at h
          next silent =>
            obtain ⟨rfl, rfl⟩ := pair h
            exact .savedFailed c silent
          next =>
            obtain ⟨rfl, rfl⟩ := pair h
            exact .savedFailedRecording c _
      | raised =>
          obtain ⟨rfl, rfl⟩ := pair h
          exact .saveFailedRaised c
      | _ => contradiction
  | recordingError c truncated =>
      cases a with
      | affected n =>
          obtain ⟨rfl, rfl⟩ := pair h
          refine .recordedError c truncated n _ ?_
          split
          · exact Or.inl rfl
          · exact Or.inr rfl
      | raised =>
          obtain ⟨rfl, rfl⟩ := pair h
          exact .recordingRaised c truncated
      | _ => contradiction
  | rejecting | loading | savingConnecting | savingActive | savingIdle | closingClient =>
      cases a <;> first | contradiction | (obtain ⟨rfl, rfl⟩ := pair h; constructor)

end StreamingPortal.Sessions
