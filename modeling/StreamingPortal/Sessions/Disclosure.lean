import StreamingPortal.Sessions.Authority
import StreamingPortal.Sessions.Listing

set_option autoImplicit false

/-!
# Whom the responses show which sessions

A handler answers with rows that it has read some time ago, before it has asked whether the user
is an administrator, and that others may have written since.
-/

namespace StreamingPortal.Sessions

open Tasks

def Response.shown (response : Response) : List SessionResponse :=
  match response.body with
  | .session session => [session]
  | .page page => page.items
  | .text _ | .detail _ | .invalid _ => []

/-- No session is shown, and no cookie names one. -/
def Response.blank (response : Response) : Prop :=
  response.shown = [] ∧ ∀ cookie ∈ response.setCookie, cookie.value = ""

def Request.user? : Request → Option User
  | .connectToStream user _ _ | .stopStream user _ _ | .terminateSession user _
  | .checkSession user _ _ | .updateSession user _ _ | .getSession user _ => some user
  | .getSessions l => some l.user
  | .startStream s => some s.user
  | .watchSessionTimeout | .watchIdleSessions => none

section Tells

variable (cfg : Config) (start : State) (acts : List Action) (p : Nat)

/-- What a response may tell of the sessions, each as it was at some moment of the call. -/
inductive Tells : Request → Response → Prop
  | nothing (r : Request) (response : Response) (blank : response.blank) : Tells r response
  | got (user : User) (id : String) (s : SessionInstance) (steward : Steward acts p user id s.row)
      (read : Read cfg start acts p s) :
      Tells (.getSession user id) (SessionResponse.ofInstance s).toResponse
  | listed (l : ListRequest) (order : SessionOrder) (admin : Bool) (total : Nat)
      (results : List SessionInstance)
      (sorted : sessionOrderFields.lookup l.fieldName = some order)
      (told : l.own = true ∨ .answer p (.isAdmin admin) ∈ acts)
      (counted : Meanwhile (backend cfg) start acts p fun st : State =>
        st.store.sessions.count (l.scope admin).matches = total)
      (fetched : Meanwhile (backend cfg) start acts p fun st : State =>
        fetchedRows cfg l order (l.scope admin) st.store = results) :
      Tells (.getSessions l) ⟨200, .page (sessionsPage l total results), [], []⟩
  | checked (user : User) (id path : String) (s : SessionInstance)
      (owner : s.row.id = id ∧ s.row.userId = user.sub) (read : Read cfg start acts p s)
      (alive : s.row.status ∉ terminalStatuses) :
      Tells (.checkSession user id path)
        { Response.plain 200 "" with
          setCookie := [nvcfRequestCookie cfg (s.row.nvcfRequestId.getD "None") path] }
  | started (s : StartRequest) (app : PublishedAppModel) (uuid cookie : String) (now : Int)
      (created : SessionInstance) (named : app.id = s.appId)
      (made : Meanwhile (backend cfg) start acts p fun st : State =>
        (st.store.createSession (newSession s app uuid cookie now)).2 = .created created) :
      Tells (.startStream s) (startedResponse cfg s cookie created)

/-- The owner may see a session, and whoever this task has been told to be an administrator. -/
def MaySee (r : Request) (row : SessionModel) : Prop :=
  (∃ user, r.user? = some user ∧ row.userId = user.sub) ∨ .answer p (.isAdmin true) ∈ acts

structure Discloses (r : Request) (response : Response) : Prop where
  told : Tells cfg start acts p r response
  shown : ∀ session ∈ response.shown, MaySee acts p r session.session

/-! ## What a frame keeps for its response -/

def Lists (r : Request) (l : ListRequest) (order : SessionOrder) (q : SessionQuery) : Prop :=
  r = .getSessions l ∧ sessionOrderFields.lookup l.fieldName = some order ∧
    ∃ admin, q = l.scope admin ∧ (l.own = true ∨ .answer p (.isAdmin admin) ∈ acts)

def RequestTells (r : Request) : RequestFrame → Prop
  | .askingAdmin _ _ s _ => Read cfg start acts p s
  | .askingListAdmin l order => r = .getSessions l ∧ l.own = false ∧
      sessionOrderFields.lookup l.fieldName = some order
  | .countingSessions l order q => Lists acts p r l order q
  | .fetchingSessions l order q total => Lists acts p r l order q ∧
      Meanwhile (backend cfg) start acts p fun st : State =>
        st.store.sessions.count q.matches = total
  | _ => True

def OutcomeTells (r : Request) : Outcome → Prop
  | .response response => Tells cfg start acts p r response
  | .returned | .raised => True

def FrameTells (r : Request) : Frame → Prop
  | .request f => RequestTells cfg start acts p r f
  | .start (.leaving o) | .finished o => OutcomeTells cfg start acts p r o
  | _ => True

end Tells

section Steps

variable {cfg : Config} {start : State} {acts : List Action} {p : Nat} {r : Request}

theorem Tells.more {response : Response} (act : Action)
    (tells : Tells cfg start acts p r response) :
    Tells cfg start (acts ++ [act]) p r response := by
  cases tells with
  | nothing _ _ blank => exact .nothing r response blank
  | got user id s steward read => exact .got user id s (steward.more act) (Meanwhile.more act read)
  | listed l order admin total results sorted told counted fetched =>
      exact .listed l order admin total results sorted
        (told.imp_right fun asked => List.mem_append_left _ asked)
        (counted.more act) (fetched.more act)
  | checked user id path s owner read alive =>
      exact .checked user id path s owner (Meanwhile.more act read) alive
  | started s app uuid cookie now created named made =>
      exact .started s app uuid cookie now created named (made.more act)

theorem Lists.more {l : ListRequest} {order : SessionOrder} {q : SessionQuery} (act : Action)
    (lists : Lists acts p r l order q) : Lists (acts ++ [act]) p r l order q := by
  obtain ⟨asked, sorted, admin, same, told⟩ := lists
  exact ⟨asked, sorted, admin, same, told.imp_right fun told => List.mem_append_left _ told⟩

theorem OutcomeTells.more {o : Outcome} (act : Action)
    (tells : OutcomeTells cfg start acts p r o) :
    OutcomeTells cfg start (acts ++ [act]) p r o := by
  cases o with
  | response => exact Tells.more act tells
  | returned | raised => trivial

theorem FrameTells.more {f : Frame} (act : Action) (tells : FrameTells cfg start acts p r f) :
    FrameTells cfg start (acts ++ [act]) p r f := by
  cases f with
  | request f =>
      cases f with
      | askingAdmin => exact Meanwhile.more act tells
      | countingSessions => exact Lists.more act tells
      | fetchingSessions => exact ⟨tells.1.more act, tells.2.more act⟩
      | askingListAdmin => exact tells
      | _ => trivial
  | start f =>
      cases f with
      | leaving => exact OutcomeTells.more act tells
      | _ => trivial
  | finished => exact OutcomeTells.more act tells
  | connect | ending | watch => trivial

/-! ## Responses that show nothing -/

theorem blank_plain (statusCode : Int) (content : String) :
    (Response.plain statusCode content).blank :=
  ⟨rfl, by simp [Response.plain]⟩

theorem blank_expireCookies {response : Response} (shown : response.shown = []) :
    response.expireCookies.blank :=
  ⟨shown, by simp [Response.expireCookies, sessionExpiredCookie]⟩

theorem blank_endSessionResponse (response : NvcfResponse) :
    (endSessionResponse response).blank := by
  unfold endSessionResponse
  split
  · exact blank_expireCookies rfl
  · exact ⟨rfl, by simp [sessionExpiredCookie]⟩

theorem tells_respond {response : Response} (blank : response.blank) :
    FrameTells cfg start acts p r (respond response) :=
  .nothing r response blank

theorem tells_return {response : Response} (blank : response.blank) (caller : EndCaller) :
    FrameTells cfg start acts p r (caller.return response) := by
  cases caller with
  | stopStream => exact tells_respond (blank_expireCookies blank.1)
  | terminateSession => exact tells_respond blank
  | watchSessionTimeout rest => cases rest <;> trivial

/-! ## What each handler does -/

-- A connection ends without a response.
theorem tells_connectResume {w w' : World} {f : ConnectFrame} {a : Answer} {f' : Frame}
    (h : connectResume w p f a = some (w', f')) : FrameTells cfg start acts p r f' := by
  have silent (o : Outcome) (o_ : ∀ response, o ≠ .response response) :
      OutcomeTells cfg start acts p r o := by
    cases o with
    | response response => exact absurd rfl (o_ response)
    | returned | raised => trivial
  cases connectResume_cases h with
  | rejected code a o =>
      cases a with
      | done | raised =>
          obtain ⟨-, ⟨⟩⟩ := Prod.mk.inj (Option.some.inj h)
          trivial
      | _ => contradiction
  | loaded =>
      unfold checkAdmission
      repeat' split
      all_goals trivial
  | saveConnectingFailed | openFailed | closed | closeFailed =>
      unfold cleanup
      simp only
      repeat' split
      all_goals trivial
  | clientClosed c => exact silent _ (by unfold Connection.outcome; split <;> simp)
  | _ => trivial

theorem tells_endResume {w w' : World} {f : EndFrame} {a : Answer} {f' : Frame}
    (h : endResume w f a = some (w', f')) : FrameTells cfg start acts p r f' := by
  cases endResume_cases h with
  | timedOut e => exact tells_return (blank_plain _ _) e.caller
  | saved e response => exact tells_return (blank_endSessionResponse response) e.caller
  | deleted | answered | closed | raised => trivial

theorem tells_withSession {user : User} {id : String} {s : SessionInstance}
    {caller : SessionQueryCaller} (asked : r = caller.request user id)
    (steward : Steward acts p user id s.row) (read : Read cfg start acts p s) :
    FrameTells cfg start acts p r (withSession user s caller) := by
  cases caller with
  | getSession =>
      subst asked
      exact Tells.got user id s steward read
  | updateSession error =>
      cases error with
      | none => exact tells_respond (blank_plain _ _)
      | some => trivial
  | terminateSession =>
      unfold withSession terminateSession
      simp only
      split
      · exact tells_respond (blank_expireCookies rfl)
      · trivial

theorem tells_requestResume {w : World} {f : RequestFrame} {a : Answer} {f' : Frame}
    (known : RequestBelongs cfg start acts p r f) (tells : RequestTells cfg start acts p r f)
    (given : Given cfg start acts p (.request f) a) (h : requestResume cfg w f a = some f') :
    FrameTells cfg start acts p r f' := by
  cases requestResume_cases h with
  | queried user id caller found =>
      cases found with
      | none => exact tells_respond (blank_plain _ _)
      | some s =>
          obtain ⟨⟨named, -⟩, read⟩ := given.session rfl
          unfold querySession
          simp only
          split
          next owner => exact tells_withSession known ⟨named, Or.inl owner⟩ read
          next => exact read
  | admitted user id s caller =>
      obtain ⟨asked, named⟩ := known
      obtain ⟨op, awaits, -⟩ | ⟨-, told⟩ := given
      · contradiction
      · exact tells_withSession asked ⟨named, Or.inr told⟩ tells
  | refused | savedError => exact tells_respond (blank_plain _ _)
  | savedCheck => exact tells_respond (blank_expireCookies rfl)
  | stopped user id cookie found =>
      unfold stopStream
      repeat' split
      · exact tells_respond (blank_expireCookies rfl)
      · exact tells_respond (blank_expireCookies rfl)
      · trivial
  | checked user id path found =>
      unfold checkSession
      split
      next => exact tells_respond (blank_plain _ _)
      next s =>
        obtain ⟨⟨named, -, owner⟩, read⟩ := given.session rfl
        split
        next => exact tells_respond (blank_plain _ _)
        next alive =>
          split
          next => trivial
          next =>
            subst known
            exact Tells.checked user id path s ⟨named, owner _ rfl⟩ read alive
  | askedListAdmin l order admin =>
      obtain ⟨asked, others, sorted⟩ := tells
      obtain ⟨op, awaits, -⟩ | ⟨-, told⟩ := given
      · contradiction
      · exact ⟨asked, sorted, admin, by simp [ListRequest.scope, others], Or.inr told⟩
  | counted l order q total =>
      have counted := given.performed rfl (by simp)
      exact ⟨tells, counted.imp fun st same => Answer.count.inj same⟩
  | fetched l order q total results =>
      obtain ⟨⟨rfl, sorted, admin, rfl, told⟩, counted⟩ := tells
      have fetched := given.performed rfl (by simp)
      exact Tells.listed l order admin total results sorted told counted
        (fetched.imp fun st same => Answer.sessions.inj same)
  | raised => trivial

theorem tells_startResume {w w' : World} {f : StartFrame} {a : Answer} {f' : Frame}
    (known : StartBelongs r f) (tells : FrameTells cfg start acts p r (.start f))
    (given : Given cfg start acts p (.start f) a) (h : startResume cfg w f a = some (w', f')) :
    FrameTells cfg start acts p r f' := by
  cases startResume_cases h with
  | entered | counted | gotApp | started => trivial
  | notEntered | raised => trivial
  | full | noApp | timedOut => exact Tells.nothing r _ (blank_plain _ _)
  | notStarted s running app response uuid o =>
      have same : nvcfStarted w s running app response uuid = leave o :=
        (Prod.mk.inj (Option.some.inj h)).2
      unfold nvcfStarted at same
      repeat' split at same
      · obtain ⟨⟩ := same
        trivial
      · simp [leave] at same
      · obtain ⟨⟩ := same
        exact Tells.nothing r _ (blank_plain _ _)
  | created s running app row cookie created =>
      obtain ⟨rfl, named, uuid, now, rfl⟩ := known
      have made := given.performed rfl (by simp)
      exact Tells.started s app uuid cookie now created named made
  | left o => exact tells

theorem tells_watchResume {w w' : World} {f : WatchFrame} {a : Answer} {f' : Frame}
    (h : watchResume cfg w f a = some (w', f')) : FrameTells cfg start acts p r f' := by
  cases watchResume_cases h with
  | timedOut cutoff sessions => cases sessions <;> trivial
  | orphaned expired cutoff orphaned => cases expired ++ orphaned <;> trivial
  | saved session rest => cases rest <;> trivial
  | timeoutSlept | expired | idleSlept | raised => trivial

theorem tells_resume {w w' : World} {f f' : Frame} {a : Answer}
    (known : Belongs cfg start acts p r f) (tells : FrameTells cfg start acts p r f)
    (given : Given cfg start acts p f a) (h : resumeFrame cfg w p f a = some (w', f')) :
    FrameTells cfg start acts p r f' := by
  cases f with
  | connect f => exact tells_connectResume h
  | ending f => exact tells_endResume h
  | request f =>
      obtain ⟨next, resumed, same⟩ := Option.map_eq_some_iff.mp h
      obtain ⟨-, rfl⟩ := Prod.mk.inj same
      exact tells_requestResume known tells given resumed
  | start f => exact tells_startResume known tells given h
  | watch f => exact tells_watchResume h
  | finished => contradiction

theorem tells_start (w : World) (r : Request) :
    FrameTells cfg start acts p r (startRequest cfg w r) := by
  cases r with
  | connectToStream user id cookie =>
      simp only [startRequest, startConnect]
      split <;> trivial
  | stopStream user id cookie =>
      cases cookie with
      | none => exact tells_respond (blank_expireCookies rfl)
      | some => trivial
  | updateSession user id error =>
      simp only [startRequest, startUpdateSession]
      repeat' split
      · exact tells_respond ⟨rfl, by simp [unprocessable]⟩
      all_goals trivial
  | getSessions l =>
      simp only [startRequest, getSessions]
      split
      · exact tells_respond ⟨rfl, by simp [unprocessable]⟩
      · split
        next => exact tells_respond ⟨rfl, by simp [invalidOrderBy]⟩
        next order sorted =>
          split
          next own => exact ⟨rfl, sorted, true, by simp [ListRequest.scope, own], Or.inl own⟩
          next others => exact ⟨rfl, by simpa using others, sorted⟩
  | startStream s =>
      simp only [startRequest, startStream]
      split <;> trivial
  | terminateSession | checkSession | getSession | watchSessionTimeout | watchIdleSessions =>
      trivial

end Steps

/-! ## Whole runs -/

theorem origin_tells (cfg : Config) (start : State) :
    Origin (backend cfg) start fun acts p r t =>
      Kept cfg start acts p r t ∧ FrameTells cfg start acts p r t.frame where
  more act known := ⟨(origin_kept cfg start).more act known.1, known.2.more act⟩
  started r reached := ⟨(origin_kept cfg start).started r reached, tells_start _ r⟩
  executed reached task known awaits effect :=
    ⟨(origin_kept cfg start).executed reached task known.1 awaits effect, known.2.more _⟩
  raised known awaits effect := ⟨(origin_kept cfg start).raised known.1 awaits effect, known.2⟩
  resumed reached task known effect :=
    ⟨(origin_kept cfg start).resumed reached task known.1 effect,
      tells_resume known.1.1 known.2 (known.1.2 _ rfl) effect⟩
  answered reached task known awaits effect :=
    ⟨(origin_kept cfg start).answered reached task known.1 awaits effect,
      tells_resume (known.1.1.more _) (known.2.more _) (Or.inr ⟨awaits, by simp⟩) effect⟩

theorem owned_of_matches {q : SessionQuery} {u : String} {row : SessionModel}
    (own : q.userId = some u) (matching : q.matches row = true) : row.userId = u := by
  simp only [SessionQuery.matches, own, Bool.and_eq_true, decide_eq_true_eq] at matching
  exact matching.2

theorem createSession_row {db : Db} {row : SessionModel} {created : SessionInstance}
    (made : (db.createSession row).2 = .created created) : created.row = row := by
  simp only [Db.createSession] at made
  split at made
  next =>
    obtain rfl := Answer.created.inj made
    rfl
  next => contradiction

theorem maySee_of_tells {cfg : Config} {start : State} {acts : List Action} {p : Nat}
    {r : Request} {response : Response} (tells : Tells cfg start acts p r response)
    {session : SessionResponse} (shown : session ∈ response.shown) :
    MaySee acts p r session.session := by
  cases tells with
  | nothing _ _ blank => simp [blank.1] at shown
  | got user id s steward read =>
      obtain rfl := List.mem_singleton.mp shown
      exact steward.2.imp_left fun owner => ⟨user, rfl, owner⟩
  | listed l order admin total results sorted told counted fetched =>
      obtain ⟨s, inside, rfl⟩ := List.mem_map.mp shown
      obtain ⟨st, rfl⟩ := fetched.state
      have arranged := List.mem_of_mem_drop (List.mem_of_mem_take inside)
      have selected := (cfg.arrange_perm order l.descending _).mem_iff.mp arranged
      obtain ⟨-, -, matching⟩ := Db.mem_selectSessions selected
      by_cases everyone : l.own = false ∧ admin = true
      · obtain ⟨others, rfl⟩ := everyone
        exact Or.inr (told.resolve_left (by simp [others]))
      · have own : (l.scope admin).userId = some l.user.sub := by
          cases own : l.own <;> cases admin <;>
            simp [own, ListRequest.scope, ListRequest.query] at everyone ⊢
        exact Or.inl ⟨l.user, rfl, owned_of_matches own matching⟩
  | checked => simp [Response.shown, Response.plain] at shown
  | started s app uuid cookie now created named made =>
      obtain rfl := List.mem_singleton.mp shown
      obtain ⟨st, made⟩ := made.state
      have row := createSession_row made
      exact Or.inl ⟨s.user, rfl, congrArg SessionModel.userId row⟩

/-- In whatever order the tasks run, a response shows a session only to its owner or to someone
whom its own task has been told to be an administrator, and as it was during the call. -/
theorem responses_disclose {cfg : Config} {sessions : SessionTable} {apps : AppTable} {now : Int}
    {acts : List Action} {st : State} {p : Nat} {response : Response}
    (reached : run cfg (init sessions apps now) acts = some st)
    (answered : st.frame? p = some (.finished (.response response))) :
    ∃ r, (Tasks.requests acts)[p]? = some r ∧
      Discloses cfg (init sessions apps now) acts p r response := by
  obtain ⟨t, task, same⟩ := Option.map_eq_some_iff.mp answered
  obtain ⟨r, asked, -, tells⟩ := (origin_tells cfg _).run rfl reached task
  rw [same] at tells
  exact ⟨r, asked, tells, fun session shown => maySee_of_tells tells shown⟩

/-- The owner connects while the identity provider is asked about the reader. -/
def readByAdmin : List Action :=
  [.request (.getSession ⟨"admin", "Admin"⟩ "session"), .execute 0, .resume 0,
    .request Sample.connect, .answer 1 .done, .execute 1, .resume 1, .execute 1,
    .answer 0 (.isAdmin true)]

theorem responses_disclose_readByAdmin :
    ∃ st response, run (Sample.config 1) (Sample.start none 0) readByAdmin = some st ∧
      st.frame? 0 = some (.finished (.response response)) ∧
      (st.session? "session").map SessionModel.status = some .connecting ∧
      response.shown.map (fun session => session.session.status) = [.idle] ∧
      ∃ r, (Tasks.requests readByAdmin)[0]? = some r ∧
        Discloses (Sample.config 1) (Sample.start none 0) readByAdmin 0 r response :=
  ⟨_, _, rfl, rfl, by decide, by decide, responses_disclose rfl rfl⟩

end StreamingPortal.Sessions
