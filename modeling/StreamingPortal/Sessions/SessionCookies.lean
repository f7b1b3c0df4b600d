import Mathlib.Data.List.Induction
import StreamingPortal.Sessions.System
import StreamingPortal.Shared.Cookies

set_option autoImplicit false

/-!
# The cookie of a session

Which `nvcf-request-id` cookies a user agent keeps of the responses that set it and of those
that end the session. The clocks of the user agent and of the backend are one.
-/

namespace StreamingPortal.Sessions

open StreamingPortal.Cookies

-- `expires` is written as a date, in whole seconds.
def Cookie.directive (c : Cookie) (now : Int) : SetCookie where
  name := c.name
  value := c.value
  maxAge := c.maxAge.map seconds
  expires := c.expires.map fun offset => now + seconds offset - (now + seconds offset) % 1000000
  path := c.path.map String.toList

/-- A request to the backend and its response. -/
structure Exchange where
  now : Int
  path : String
  response : Response

def Exchange.store (host : String) (jar : Jar) (e : Exchange) : Jar :=
  e.response.setCookie.foldl
    (fun jar c => jar.receive host e.path.toList e.now (c.directive e.now)) jar

def jarAfter (host : String) (exchanges : List Exchange) : Jar :=
  exchanges.foldl (Exchange.store host) .empty

def sessionPath (id : String) : String := "/sessions/" ++ id

def sessionSignInPath (id : String) : String := sessionPath id ++ "/sign_in"

/-- The exchanges that set the cookie of the session. -/
inductive Sets (cfg : Config) (id : String) : Exchange → Prop
  | started (now : Int) (s : StartRequest) (nvcfRequestId : String) (created : SessionInstance)
      (route : s.path = "/sessions/" ∨ s.path = "/sessions") (key : created.row.id = id) :
      Sets cfg id ⟨now, s.path, startedResponse cfg s nvcfRequestId created⟩
  | checked (w : World) (session : SessionInstance) (r : Response)
      (answered : checkSession cfg w (sessionSignInPath id) (some session) = respond r)
      (found : r.statusCode = 200) : Sets cfg id ⟨w.now, sessionSignInPath id, r⟩

/-- Those that answer `stop_stream`, `terminate_session` or a check that expires the session. -/
inductive Ends (cfg : Config) (id : String) : Exchange → Prop
  | unspecified (now : Int) (user : User) (r : Response)
      (answered : startStopStream user id none = respond r) :
      Ends cfg id ⟨now, sessionSignInPath id, r⟩
  | notStopped (now : Int) (user : User) (found : Option SessionInstance) (r : Response)
      (answered : stopStream user found = respond r) : Ends cfg id ⟨now, sessionSignInPath id, r⟩
  | stopped (now : Int) (ended r : Response)
      (answered : EndCaller.stopStream.return ended = respond r) :
      Ends cfg id ⟨now, sessionSignInPath id, r⟩
  | notFound (now : Int) : Ends cfg id ⟨now, sessionPath id, sessionNotFound id⟩
  | endedBefore (now : Int) (user : User) (session : SessionInstance) (r : Response)
      (answered : terminateSession user session = respond r) : Ends cfg id ⟨now, sessionPath id, r⟩
  | terminated (now : Int) (reply : NvcfResponse) (r : Response)
      (answered : EndCaller.terminateSession.return (endSessionResponse reply) = respond r) :
      Ends cfg id ⟨now, sessionPath id, r⟩
  | timedOut (now : Int) : Ends cfg id ⟨now, sessionPath id, endSessionTimeout⟩
  | expired (w : World) (session : SessionInstance) (r : Response)
      (answered : requestResume cfg w (.savingCheck session) .saved = some (respond r)) :
      Ends cfg id ⟨w.now, sessionSignInPath id, r⟩

-- From `now` on no such cookie goes to the path that the session is joined by.
def Cleared (host id : String) (jar : Jar) (now : Int) : Prop :=
  ∀ later, now ≤ later → ∀ cookie ∈ jar.sent host (sessionSignInPath id).toList later,
    cookie.1.name ≠ "nvcf-request-id"

/-! ## What the responses set -/

theorem signInPath_route {path : String} (route : path = "/sessions/" ∨ path = "/sessions")
    (id : String) : signInPath path id = sessionSignInPath id := by
  rcases route with rfl | rfl
  · rfl
  · apply String.toList_injective
    simp [signInPath, sessionSignInPath, sessionPath]

theorem sets_setCookie {cfg : Config} {id : String} {e : Exchange} (sets : Sets cfg id e) :
    ∃ value, e.response.setCookie = [nvcfRequestCookie cfg value (sessionSignInPath id)] := by
  cases sets with
  | started now s nvcfRequestId created route key =>
      refine ⟨nvcfRequestId, ?_⟩
      rw [← signInPath_route route id, ← key]
      rfl
  | checked w session r answered found =>
      unfold checkSession at answered
      simp only at answered
      split at answered
      next =>
        cases answered
        contradiction
      next =>
        split at answered
        next => contradiction
        next =>
          cases answered
          exact ⟨_, rfl⟩

theorem ends_setCookie {cfg : Config} {id : String} {e : Exchange} (ends : Ends cfg id e) :
    (e.response.setCookie = [] ∨ e.response.setCookie = [sessionExpiredCookie]) ∧
      (e.path = sessionPath id ∨ e.path = sessionSignInPath id) := by
  cases ends with
  | unspecified now user r answered =>
      cases answered
      exact ⟨Or.inr rfl, Or.inr rfl⟩
  | notStopped now user found r answered =>
      refine ⟨Or.inr ?_, Or.inr rfl⟩
      unfold stopStream at answered
      split at answered
      next =>
        cases answered
        rfl
      next =>
        split at answered
        next =>
          cases answered
          rfl
        next => contradiction
  | stopped now ended r answered =>
      cases answered
      exact ⟨Or.inr rfl, Or.inr rfl⟩
  | notFound | timedOut => exact ⟨Or.inl rfl, Or.inl rfl⟩
  | endedBefore now user session r answered =>
      refine ⟨Or.inr ?_, Or.inl rfl⟩
      unfold terminateSession at answered
      split at answered
      next =>
        cases answered
        rfl
      next => contradiction
  | terminated now reply r answered =>
      cases answered
      refine ⟨Or.inr ?_, Or.inl rfl⟩
      unfold endSessionResponse
      split <;> rfl
  | expired w session r answered =>
      cases answered
      exact ⟨Or.inr rfl, Or.inr rfl⟩

/-! ## What the user agent keeps of them -/

def cookieKey (host id : String) : Key :=
  ⟨"nvcf-request-id", host, (sessionSignInPath id).toList⟩

def cookieLifetime (cfg : Config) (now : Int) : Lifetime :=
  if seconds cfg.sessionTtl ≤ 0 then .past else .expires (now + seconds cfg.sessionTtl)

theorem sessionSignInPath_head (id : String) :
    (sessionSignInPath id).toList.head? = some '/' := by
  simp [sessionSignInPath, sessionPath]

theorem store_sets {cfg : Config} {id : String} {e : Exchange} (sets : Sets cfg id e)
    (host : String) (jar : Jar) :
    ∃ value, e.store host jar = jar.set (cookieKey host id) ⟨value, cookieLifetime cfg e.now⟩ := by
  obtain ⟨value, cookies⟩ := sets_setCookie sets
  refine ⟨value, ?_⟩
  unfold Exchange.store
  rw [cookies]
  simp [Jar.receive, SetCookie.key, SetCookie.cookiePath, SetCookie.stored, SetCookie.lifetime,
    Cookie.directive, nvcfRequestCookie, cookieKey, cookieLifetime, sessionSignInPath_head]

-- The path of the ended session is a shorter one than that of its cookie.
theorem endedPath_ne {id path : String}
    (route : path = sessionPath id ∨ path = sessionSignInPath id) :
    defaultPath path.toList ≠ (sessionSignInPath id).toList := by
  have signIn : (sessionSignInPath id).toList.length = (sessionPath id).toList.length + 8 := by
    simp [sessionSignInPath]
  have long : 1 < (sessionPath id).toList.length := by
    simp only [sessionPath, String.toList_append, List.length_append]
    have : "/sessions/".toList.length = 10 := by decide
    omega
  intro same
  have lengths := congrArg List.length same
  rcases route with rfl | rfl
  · have shorter := defaultPath_length_lt long
    omega
  · have shorter : (defaultPath (sessionSignInPath id).toList).length <
        (sessionSignInPath id).toList.length := defaultPath_length_lt (by omega)
    omega

theorem store_ends {cfg : Config} {id : String} {e : Exchange} (ends : Ends cfg id e)
    (host : String) (jar : Jar) :
    e.store host jar = jar ∨ ∃ key time, key ≠ cookieKey host id ∧ time ≤ e.now ∧
      e.store host jar = jar.set key ⟨"", .expires time⟩ := by
  obtain ⟨cookies, route⟩ := ends_setCookie ends
  unfold Exchange.store
  rcases cookies with none | cleared
  · rw [none]
    exact Or.inl rfl
  · rw [cleared]
    refine Or.inr ⟨⟨"nvcf-request-id", host, defaultPath e.path.toList⟩, e.now - e.now % 1000000,
      ?_, ?_, ?_⟩
    next =>
      intro same
      exact endedPath_ne route (congrArg Key.path same)
    next => omega
    next =>
      simp [Jar.receive, SetCookie.key, SetCookie.cookiePath, SetCookie.stored,
        SetCookie.lifetime, Cookie.directive, sessionExpiredCookie, seconds]

theorem jarAfter_sets {cfg : Config} {id : String} (host : String) {settings : List Exchange}
    (sets : ∀ e ∈ settings, Sets cfg id e) :
    ((jarAfter host settings).get? (cookieKey host id)).map Stored.lifetime =
        settings.getLast?.map (fun e => cookieLifetime cfg e.now) ∧
      ∀ key, key ≠ cookieKey host id → (jarAfter host settings).get? key = none := by
  induction settings using List.reverseRecOn with
  | nil => exact ⟨rfl, fun _ _ => rfl⟩
  | append_singleton settings e ih =>
      obtain ⟨-, others⟩ := ih fun other member => sets other (List.mem_append_left _ member)
      obtain ⟨value, stored⟩ := store_sets (sets e (by simp)) host (jarAfter host settings)
      have jar : jarAfter host (settings ++ [e]) =
          (jarAfter host settings).set (cookieKey host id) ⟨value, cookieLifetime cfg e.now⟩ := by
        rw [← stored, jarAfter, List.foldl_append]
        rfl
      rw [jar]
      constructor
      next => simp
      next =>
        intro key other
        rw [OrderedMap.get?_set_ne _ _ other, others key other]

theorem cookieLifetime_alive (cfg : Config) (set now : Int) :
    (cookieLifetime cfg set).alive now = false ↔
      cfg.sessionTtl ≤ 0 ∨ set + seconds cfg.sessionTtl ≤ now := by
  unfold cookieLifetime
  split
  next short =>
    refine iff_of_true rfl (Or.inl ?_)
    unfold seconds at short
    omega
  next long =>
    unfold seconds at long ⊢
    simp only [Lifetime.alive, decide_eq_false_iff_not]
    omega

/--
The cookie of a session is gone after the session has ended exactly if it had expired before: the
response that should clear it addresses another one.
-/
theorem ended_cleared_iff (cfg : Config) (host id : String) (settings : List Exchange)
    (ending : Exchange) (sets : ∀ e ∈ settings, Sets cfg id e) (ends : Ends cfg id ending) :
    Cleared host id (jarAfter host (settings ++ [ending])) ending.now ↔
      ∀ last, settings.getLast? = some last →
        cfg.sessionTtl ≤ 0 ∨ last.now + seconds cfg.sessionTtl ≤ ending.now := by
  obtain ⟨kept, others⟩ := jarAfter_sets host sets
  have jar : jarAfter host (settings ++ [ending]) = ending.store host (jarAfter host settings) := by
    rw [jarAfter, List.foldl_append]
    rfl
  have unchanged : (jarAfter host (settings ++ [ending])).get? (cookieKey host id) =
      (jarAfter host settings).get? (cookieKey host id) := by
    rw [jar]
    rcases store_ends ends host (jarAfter host settings) with same | ⟨key, time, other, -, stored⟩
    · rw [same]
    · rw [stored, OrderedMap.get?_set_ne _ _ (Ne.symm other)]
  constructor
  next =>
    intro cleared last latest
    rw [← cookieLifetime_alive]
    by_contra alive
    rw [latest, Option.map_some] at kept
    obtain ⟨cookie, stored, lifetime⟩ := Option.map_eq_some_iff.mp kept
    refine cleared ending.now (Int.le_refl _) (cookieKey host id, cookie) ?_ rfl
    refine mem_sent.mpr ⟨unchanged.trans stored, rfl, pathMatch_self _, ?_⟩
    rw [lifetime]
    exact Bool.not_eq_false _ ▸ alive
  next =>
    rintro expired later order ⟨key, cookie⟩ sent -
    obtain ⟨stored, -, -, alive⟩ := mem_sent.mp sent
    have now := alive_earlier order alive
    by_cases own : key = cookieKey host id
    next =>
      rw [own, unchanged] at stored
      rw [stored, Option.map_some] at kept
      obtain ⟨last, latest, lifetime⟩ := Option.map_eq_some_iff.mp kept.symm
      rw [← lifetime, (cookieLifetime_alive cfg last.now ending.now).mpr (expired last latest)]
        at now
      contradiction
    next =>
      rw [jar] at stored
      rcases store_ends ends host (jarAfter host settings) with same | ⟨key', time, -, past, set⟩
      · rw [same, others key own] at stored
        contradiction
      · rw [set, OrderedMap.get?_set] at stored
        split at stored
        next =>
          obtain rfl := Option.some.inj stored
          simp only [Lifetime.alive, decide_eq_true_eq] at now
          omega
        next =>
          rw [others key own] at stored
          contradiction

namespace Sample

def appRequest : StartRequest := ⟨user, app.id, "/sessions/"⟩

def appSession : SessionInstance := ⟨session "session" none, some app, 0⟩

def started : Exchange :=
  ⟨0, appRequest.path, startedResponse (config 1) appRequest "nvcf" appSession⟩

def stoppedAt (now : Int) : Exchange :=
  ⟨now, sessionSignInPath "session", (endSessionResponse ok).expireCookies⟩

end Sample

theorem ended_cleared_late :
    Cleared "portal" "session"
      (jarAfter "portal" ([Sample.started] ++ [Sample.stoppedAt 28800000000])) 28800000000 := by
  refine (ended_cleared_iff (Sample.config 1) "portal" "session" [Sample.started]
    (Sample.stoppedAt 28800000000) ?_ ?_).mpr ?_
  next =>
    intro e member
    obtain rfl := List.mem_singleton.mp member
    exact .started 0 Sample.appRequest "nvcf" Sample.appSession (Or.inl rfl) rfl
  next => exact .stopped _ (endSessionResponse Sample.ok) _ rfl
  next =>
    rintro last ⟨⟩
    exact Or.inr (by decide)

/-- A minute after the session was started. -/
theorem ended_not_cleared :
    Sets (Sample.config 1) "session" Sample.started ∧
      Ends (Sample.config 1) "session" (Sample.stoppedAt 60000000) ∧
      ¬ Cleared "portal" "session"
        (jarAfter "portal" ([Sample.started] ++ [Sample.stoppedAt 60000000])) 60000000 := by
  refine ⟨.started 0 Sample.appRequest "nvcf" Sample.appSession (Or.inl rfl) rfl,
    .stopped _ (endSessionResponse Sample.ok) _ rfl, ?_⟩
  intro cleared
  refine cleared 60000000 (Int.le_refl _)
    (cookieKey "portal" "session", ⟨"nvcf", .expires 28800000000⟩) ?_ rfl
  exact mem_sent.mpr ⟨by rfl, rfl, pathMatch_self _, rfl⟩

end StreamingPortal.Sessions
