import StreamingPortal.Web.StorageSteps

set_option autoImplicit false

/-!
# The answers to the streamed application

A request is answered by a token or an error; which handlers end without either.
-/

namespace StreamingPortal.Web.StorageAuth

open StreamingPortal.Promises

-- Every handler that has ended has been answered for.
def AllAnswered (s : State) : Prop :=
  ∀ (p : Nat) (request : Request) (signedIn : Bool),
    s.tasks[p]? = some (.handled request signedIn) → Answered s.world request

-- The token of the session that a sign-in for the request would activate.
def knownToken (w : World) (request : Request) : Option String :=
  (w.sessionOf (request.page.id, request.discovery)).bind (tokenAt w)

/-- Where a requested renewal is refused its lock, or a sign-in brings the token that the session
has, something else has been sent since the request. -/
structure Answerable (s : State) (act : Action) : Prop where
  lock : ∀ (p index : Nat) (page : Page) (discovery : String) (request : Request),
    act = .answer p .refused →
    s.tasks[p]? = some (.renewing (.session index page discovery (some request)) .requested) →
    Answered s.world request
  token : ∀ (p m : Nat) (request : Request) (user : User), act = .answer p (.user (some user)) →
    s.tasks[p]? = some (.signInPopup request m) →
    knownToken s.world request = some user.accessToken → Answered s.world request

/-! ## What is sent -/

theorem Answered.mono {w w' : World} {request : Request} (answered : Answered w request)
    (sent : w.sent <+: w'.sent) : Answered w' request := by
  obtain ⟨message, member, own⟩ := answered
  obtain ⟨later, same⟩ := sent
  refine ⟨message, ?_, own⟩
  rw [← same, List.drop_append]
  exact List.mem_append_left _ member

theorem answered_send {w : World} {request : Request} (since : request.since ≤ w.sent.length)
    {message : StreamMessage} (own : message.discovery = request.discovery) :
    Answered (send w request.page message) request := by
  refine ⟨(request.page, message), ?_, rfl, own⟩
  unfold send
  rw [List.drop_append_of_le_length since]
  exact List.mem_append_right _ List.mem_cons_self

theorem answered_handleTokenRefresh {w : World} {request : Request}
    (since : request.since ≤ w.sent.length) (accessToken : String) (source : TokenRefreshSource) :
    Answered (handleTokenRefresh w request.page request.discovery accessToken source).1
      request := by
  unfold handleTokenRefresh
  rw [if_pos request.streams]
  exact answered_send since rfl

theorem answered_activate {w : World} {request : Request} {index : Nat} {user : User}
    (since : request.since ≤ w.sent.length) (other : tokenAt w index ≠ some user.accessToken) :
    Answered (activate w index request.page request.discovery user).1 request := by
  have since' : request.since ≤ (setUser w index user fun _ => true).sent.length := since
  rw [activate_other other]
  exact answered_handleTokenRefresh since' user.accessToken .activated

theorem answered_activateSession {w : World} {request : Request} {user : User}
    (since : request.since ≤ w.sent.length) (userManager : Nat)
    (other : knownToken w request ≠ some user.accessToken) :
    Answered (activateSession w request.page request.discovery user userManager).1 request := by
  unfold knownToken at other
  cases known : w.sessionOf (request.page.id, request.discovery) with
  | some index =>
      rw [known] at other
      rw [activateSession_known known]
      exact answered_activate since other
  | none =>
      have since' : request.since ≤
          (addSession w request.page request.discovery userManager).sent.length := since
      rw [activateSession_new known]
      apply answered_activate since'
      rw [tokenAt_addSession]
      exact (Option.some_ne_none _).symm

theorem sent_activateSession {w : World} {request : Request} {user : User} (userManager : Nat)
    (same : knownToken w request = some user.accessToken) :
    (activateSession w request.page request.discovery user userManager).1.sent = w.sent := by
  unfold knownToken at same
  obtain ⟨index, known, same⟩ := Option.bind_eq_some_iff.mp same
  rw [activateSession_known known, activate_same same]
  rfl

theorem answered_renewed {w : World} {call : Call} {request : Request} (own : call.For request)
    (since : request.since ≤ w.sent.length) (user : User) :
    Answered (renewed w call user).1 request := by
  obtain ⟨index, rfl⟩ := own
  have since' : request.since ≤ (setUser w index user id).sent.length := since
  exact answered_handleTokenRefresh since' user.accessToken .renewed

theorem answered_error {w : World} {request : Request} (since : request.since ≤ w.sent.length)
    (error : String) : Answered (sendAuthenticationError w request error) request :=
  answered_send since rfl

/-! ## What a handler knows of its request -/

def Call.request? : Call → Option Request
  | .portal => none
  | .session _ _ _ request => request

def Frame.request? : Frame → Option Request
  | .signInManager request | .signInPopup request _ | .answering request
  | .handled request _ => some request
  | .renewing call _ => call.request?
  | _ => none

-- Something has been sent for the request by now.
def Frame.replied : Frame → Bool
  | .answering _ | .renewing _ .succeeding | .renewing _ .cooling => true
  | _ => false

structure Asked (w : World) (frame : Frame) : Prop where
  since : ∀ request, frame.request? = some request → request.since ≤ w.sent.length
  own : ∀ call stage request, frame = .renewing call stage → call.request? = some request →
    call.For request
  replied : ∀ request, frame.replied = true → frame.request? = some request → Answered w request

def Sound (s : State) : Prop :=
  ∀ (p : Nat) (frame : Frame), s.tasks[p]? = some frame → Asked s.world frame

theorem Asked.mono {w w' : World} {frame : Frame} (asked : Asked w frame)
    (sent : w.sent <+: w'.sent) : Asked w' frame where
  since request found := Nat.le_trans (asked.since request found) sent.length_le
  own := asked.own
  replied request replied found := (asked.replied request replied found).mono sent

theorem asked_none {w : World} {frame : Frame} (quiet : frame.request? = none)
    (plain : ∀ call stage, frame = .renewing call stage → call.request? = none) :
    Asked w frame := by
  constructor
  next =>
    intro request found
    rw [quiet] at found
    contradiction
  next =>
    intro call stage request same found
    rw [plain call stage same] at found
    contradiction
  next =>
    intro request _ found
    rw [quiet] at found
    contradiction

-- A handler outside `renewTokenWithLock`.
theorem asked_handler {w : World} {frame : Frame} {request : Request}
    (asks : frame.request? = some request) (plain : ∀ call stage, frame ≠ .renewing call stage)
    (since : request.since ≤ w.sent.length)
    (replied : frame.replied = true → Answered w request) : Asked w frame := by
  constructor
  next =>
    intro other found
    rw [asks] at found
    cases found
    exact since
  next =>
    intro call stage _ same
    exact absurd same (plain call stage)
  next =>
    intro other reply found
    rw [asks] at found
    cases found
    exact replied reply

/-- The request that a call serves came before, and the call is about its page and URL. -/
structure Serves (w : World) (call : Call) : Prop where
  since : ∀ request, call.request? = some request → request.since ≤ w.sent.length
  own : ∀ request, call.request? = some request → call.For request

theorem Asked.serves {w : World} {call : Call} {stage : Stage}
    (asked : Asked w (.renewing call stage)) : Serves w call :=
  ⟨asked.since, fun request found => asked.own call stage request rfl found⟩

theorem Serves.mono {w w' : World} {call : Call} (serves : Serves w call)
    (sent : w.sent <+: w'.sent) : Serves w' call :=
  ⟨fun request found => Nat.le_trans (serves.since request found) sent.length_le, serves.own⟩

theorem Serves.asked {w : World} {call : Call} (serves : Serves w call) {stage : Stage}
    (replied : (Frame.renewing call stage).replied = true → ∀ request,
      call.request? = some request → Answered w request) : Asked w (.renewing call stage) := by
  constructor
  next => exact serves.since
  next =>
    intro call' stage' request same found
    cases same
    exact serves.own request found
  next => exact fun request reply found => replied reply request found

theorem asked_finish {w : World} {call : Call} (serves : Serves w call) (error : Option String) :
    Asked (finish w call error).1 (finish w call error).2 := by
  cases call with
  | portal => exact asked_none rfl fun _ _ same => by cases same
  | session index page discovery request =>
      cases request with
      | none =>
          cases error with
          | none => exact asked_none rfl fun _ _ same => by cases same
          | some error => exact asked_none rfl fun _ _ same => by cases same
      | some request =>
          have since := serves.since request rfl
          cases error with
          | none =>
              exact asked_handler rfl (fun _ _ same => by cases same) since
                fun reply => by cases reply
          | some error =>
              have sent := (extends_send w request.page
                (.authenticationError request.discovery "auth_error" error)).sent
              exact asked_handler rfl (fun _ _ same => by cases same)
                (Nat.le_trans since sent.length_le) fun _ => answered_error since error

theorem asked_conclude {w : World} {call : Call} (serves : Serves w call) (outcome : Outcome)
    (error : Option String) (started : List Frame) :
    Asked (conclude w call outcome error started).1
      (conclude w call outcome error started).2.1 := by
  have released : Serves (release w call outcome) call := ⟨serves.since, serves.own⟩
  exact asked_finish released error

theorem asked_renewal {w w' : World} {p : Nat} {call : Call} {stage : Stage} {a : Answer}
    {next : Frame} {started : List Frame} (asked : Asked w (.renewing call stage))
    (renews : Renews w p call stage a w' next started) : Asked w' next := by
  have serves := asked.serves
  cases renews with
  | granted free =>
      refine Serves.asked (serves.mono ?_) fun reply => by cases reply
      exact List.prefix_refl w.sent
  | refused taken => exact asked_finish serves none
  | unlocked error => exact asked_finish serves (some error)
  | renewed user =>
      apply (serves.mono (extends_renewed w call user).sent).asked
      intro _ request found
      exact answered_renewed (serves.own request found) (serves.since request found) user
  | absent => exact serves.asked fun reply => by cases reply
  | raised stage error tried => exact serves.asked fun reply => by cases reply
  | succeeded => exact serves.asked fun _ request found => asked.replied request rfl found
  | cooled => exact asked_conclude serves ⟨1, 0⟩ none []
  | fell a w' started ended =>
      exact asked_conclude (serves.mono (extends_onFailure ended).sent) ⟨0, 1⟩ none started
  | fellAgain a w' started error ended =>
      exact (serves.mono (extends_onFailure ended).sent).asked fun reply => by cases reply
  | recovered again a w' started error ended =>
      exact asked_conclude (serves.mono (extends_onFailure ended).sent) _ error started

theorem asked_refreshing {w : World} {started : List Frame} (refreshes : Refreshes started) :
    ∀ frame ∈ started, Asked w frame := by
  intro frame member
  obtain ⟨_, _, _, rfl⟩ := refreshes frame member
  exact asked_none rfl fun _ _ same => by cases same

theorem sent_signIn (w : World) (p : Nat) (request : Request) (user : User) (userManager : Nat) :
    w.sent <+: (signIn w p request user userManager).1.sent := by
  rw [signIn_world, postMessage_sent]
  exact (extends_activated w request user userManager).sent

theorem asked_resumed {w w' : World} {p : Nat} {frame next : Frame} {a : Answer}
    {started : List Frame} (asked : Asked w frame)
    (resumes : Resumes w p frame a w' next started) : Asked w' next := by
  cases resumes with
  | asked request =>
      exact asked_handler rfl (fun _ _ same => by cases same) (asked.since request rfl)
        fun reply => by cases reply
  | signedIn request userManager user =>
      have sent := sent_signIn w p request user userManager
      exact asked_handler rfl (fun _ _ same => by cases same)
        (Nat.le_trans (asked.since request rfl) sent.length_le) fun reply => by cases reply
  | rejected request frame error waits =>
      have asks : frame.request? = some request := signingIn_elim waits rfl fun _ => rfl
      have since := asked.since request asks
      have sent := (extends_send w request.page
        (.authenticationError request.discovery "auth_error" error)).sent
      exact asked_handler rfl (fun _ _ same => by cases same)
        (Nat.le_trans since sent.length_le) fun _ => answered_error since error
  | answered request a =>
      exact asked_handler rfl (fun _ _ same => by cases same) (asked.since request rfl)
        fun reply => by cases reply
  | heard page discovery source => exact asked_none rfl fun _ _ same => by cases same
  | unheard page discovery source error => exact asked_none rfl fun _ _ same => by cases same
  | renewal call stage a w' next started effect => exact asked_renewal asked (renewal_cases effect)
  | aside frame a w' next started before after quiet others =>
      exact aside_elim after (asked_none rfl fun _ _ same => by cases same)
        fun _ _ _ => asked_none rfl fun _ _ same => by cases same

theorem asked_opened {w : World} {e : Event} {frame : Frame} (opens : Opens w e frame) :
    Asked w frame := by
  cases opens with
  | signsIn _ request fresh =>
      exact asked_handler rfl (fun _ _ same => by cases same) (Nat.le_of_eq fresh)
        fun reply => by cases reply
  | requests _ call request fresh own =>
      obtain ⟨index, rfl⟩ := own
      have serves : Serves w (.session index request.page request.discovery (some request)) := by
        constructor
        next =>
          intro other found
          cases found
          exact Nat.le_of_eq fresh
        next =>
          intro other found
          cases found
          exact ⟨index, rfl⟩
      exact serves.asked fun reply => by cases reply
  | loads | library | callback => exact asked_none rfl fun _ _ same => by cases same
  | portal | expires =>
      apply asked_none rfl
      intro call stage same
      cases same
      rfl

theorem resumes_sent {w w' : World} {p : Nat} {frame next : Frame} {a : Answer}
    {started : List Frame} (resumes : Resumes w p frame a w' next started) :
    w.sent <+: w'.sent := by
  cases resumes with
  | asked | answered | unheard => exact List.prefix_refl _
  | signedIn request userManager user => exact sent_signIn w p request user userManager
  | rejected request frame error waits => exact (extends_send w request.page _).sent
  | heard page discovery source =>
      split
      next => exact List.prefix_refl _
      next => exact prefix_of_sent (postMessage_sent w p page _)
  | aside frame a w' next started before after quiet others => exact quiet.sent
  | renewal call stage a w' next started effect =>
      cases renewal_cases effect with
      | granted | absent | raised | succeeded => exact List.prefix_refl _
      | refused | unlocked => exact (extends_finish w call _).sent
      | renewed user => exact (extends_renewed w call user).sent
      | cooled => exact conclude_sent w call _ _ _
      | fell a w' started ended =>
          exact (extends_onFailure ended).sent.trans (conclude_sent w' call _ _ _)
      | fellAgain a w' started error ended => exact (extends_onFailure ended).sent
      | recovered again a w' started error ended =>
          exact (extends_onFailure ended).sent.trans (conclude_sent w' call _ _ _)

theorem Sound.step {s t : State} {act : Action} (sound : Sound s)
    (taken : StorageAuth.step s act = some t) : Sound t := by
  cases step_cases taken with
  | answer p a frame next world started task effect =>
      have resumes := resume_cases effect
      intro q other found
      cases resumed_cases found with
      | inl here =>
          obtain ⟨rfl, rfl⟩ := here
          exact asked_resumed (sound q frame task) resumes
      | inr rest =>
          cases rest with
          | inl old => exact (sound q other old.2).mono (resumes_sent resumes)
          | inr new => exact asked_refreshing (resumes_refreshes resumes) other new.2
  | event e world started effect =>
      have still := event_still effect
      have sent : s.world.sent <+: world.sent := prefix_of_sent still.sent
      intro q other found
      cases started_cases found with
      | inl old => exact (sound q other old).mono sent
      | inr new => exact (asked_opened (event_opens effect other new.2)).mono sent

/-! ## The handlers that end -/

theorem finish_handled {w : World} {call : Call} {error : Option String} {request : Request}
    {signedIn : Bool} (ended : (finish w call error).2 = .handled request signedIn) :
    error = none ∧ call.request? = some request ∧ (finish w call error).1 = w := by
  cases call with
  | portal => cases ended
  | session index page discovery asked =>
      cases asked with
      | none =>
          cases error with
          | none => cases ended
          | some error => cases ended
      | some asked =>
          cases error with
          | none =>
              cases ended
              exact ⟨rfl, rfl, rfl⟩
          | some error => cases ended

theorem answered_onFailure {w w' : World} {call : Call} {a : Answer} {started : List Frame}
    {request : Request} (ended : onFailure w call a = some (w', started, none))
    (own : call.For request) (since : request.since ≤ w.sent.length) : Answered w' request := by
  have own' := own
  obtain ⟨index, rfl⟩ := own
  unfold onFailure at ended
  split at ended
  next => contradiction
  next user same =>
    cases same
    cases ended
    exact answered_renewed own' since _
  next => cases ended
  next => contradiction

-- What is answered before the lock is released stays so.
theorem answered_conclude {w : World} {call : Call} {outcome : Outcome} {error : Option String}
    {started : List Frame} {request : Request} (answered : Answered w request) :
    Answered (conclude w call outcome error started).1 request :=
  answered.mono (conclude_sent w call outcome error started)

theorem answered_signIn {w : World} {request : Request} {user : User}
    (since : request.since ≤ w.sent.length) (p userManager : Nat)
    (known : knownToken w request = some user.accessToken → Answered w request) :
    Answered (signIn w p request user userManager).1 request := by
  by_cases same : knownToken w request = some user.accessToken
  next => exact (known same).mono (sent_signIn w p request user userManager)
  next =>
    have active := answered_activateSession since userManager same
    have stored : Answered (activated w request user userManager) request :=
      active.mono (extends_storeDiscoveryUrl _ request.discovery).sent
    rw [signIn_world]
    exact stored.mono (prefix_of_sent (postMessage_sent _ p request.page _))

theorem answered_renewal {w w' : World} {p : Nat} {call : Call} {stage : Stage} {a : Answer}
    {started : List Frame} {request : Request} {signedIn : Bool}
    (asked : Asked w (.renewing call stage))
    (renews : Renews w p call stage a w' (.handled request signedIn) started)
    (lock : a = .refused → stage = .requested → call.request? = some request →
      Answered w request) : Answered w' request := by
  have serves := asked.serves
  generalize same : Frame.handled request signedIn = next at renews
  cases renews with
  | granted | renewed | absent | raised | succeeded | fellAgain => cases same
  | refused taken =>
      obtain ⟨_, own, world⟩ := finish_handled same.symm
      rw [world]
      exact lock rfl rfl own
  | unlocked error =>
      obtain ⟨none, _⟩ := finish_handled same.symm
      cases none
  | cooled =>
      obtain ⟨_, own, _⟩ := finish_handled same.symm
      exact answered_conclude (asked.replied request rfl own)
  | fell a w' started ended =>
      obtain ⟨_, own, _⟩ := finish_handled same.symm
      exact answered_conclude
        (answered_onFailure ended (serves.own request own) (serves.since request own))
  | recovered again a w' started error ended =>
      obtain ⟨rfl, own, _⟩ := finish_handled same.symm
      exact answered_conclude
        (answered_onFailure ended (serves.own request own) (serves.since request own))

theorem Answerable.all_answered {s t : State} {act : Action} (answerable : Answerable s act)
    (sound : Sound s) (all : AllAnswered s) (taken : StorageAuth.step s act = some t) :
    AllAnswered t := by
  cases step_cases taken with
  | event e world started effect =>
      have still := event_still effect
      intro q request signedIn found
      cases started_cases found with
      | inl old => exact (all q request signedIn old).mono (prefix_of_sent still.sent)
      | inr new => cases event_opens effect _ new.2
  | answer p a frame next world started task effect =>
      have resumes := resume_cases effect
      have asked := sound p frame task
      intro q request signedIn found
      cases resumed_cases found with
      | inr rest =>
          cases rest with
          | inl old => exact (all q request signedIn old.2).mono (resumes_sent resumes)
          | inr new =>
              obtain ⟨_, _, _, same⟩ := resumes_refreshes resumes _ new.2
              cases same
      | inl here =>
          obtain ⟨rfl, same⟩ := here
          cases resumes with
          | signedIn request' userManager user =>
              cases same
              exact answered_signIn (asked.since request rfl) q userManager
                (answerable.token q userManager request user rfl task)
          | answered request' a =>
              cases same
              exact asked.replied request rfl rfl
          | renewal call stage a w' next started effect =>
              subst same
              apply answered_renewal asked (renewal_cases effect)
              intro refused requested own
              subst refused requested
              cases call with
              | portal => cases own
              | session index page discovery request' =>
                  cases own
                  exact answerable.lock q index page discovery request rfl task
          | aside frame a w' next started before after =>
              subst same
              cases after with
              | inl gone => cases gone
              | inr load =>
                  obtain ⟨_, _, _, load⟩ := load
                  cases load
          | _ => cases same

theorem AllAnswered.answerable {s t : State} {act : Action} (all : AllAnswered t)
    (taken : StorageAuth.step s act = some t) : Answerable s act := by
  cases step_cases taken with
  | event e world started effect =>
      constructor
      next =>
        intro p index page discovery request same
        cases same
      next =>
        intro p m request user same
        cases same
  | answer p a frame next world started task effect =>
      constructor
      next =>
        intro q index page discovery request same found
        cases same
        rw [task] at found
        cases found
        have renewed : resumeRenewal s.world p (.session index page discovery (some request))
            .requested .refused = some (world, next, started) := effect
        cases renewal_cases renewed with
        | refused taken => exact all p request false (resumed_self task)
      next =>
        intro q m request user same found known
        cases same
        rw [task] at found
        cases found
        cases effect
        have ended := all p request true (resumed_self task)
        have sent : (signIn s.world p request user m).1.sent = s.world.sent := by
          rw [signIn_world, postMessage_sent, activated, storeDiscoveryUrl]
          split
          next => exact sent_activateSession m known
          next => exact sent_activateSession m known
        unfold Answered at ended ⊢
        rw [← sent]
        exact ended

theorem sound_start (now : Int) (stored : List String) : Sound (start now stored) := by
  intro p frame task
  cases task

theorem all_answered_start (now : Int) (stored : List String) :
    AllAnswered (start now stored) := by
  intro p request signedIn task
  cases task

/-- Every handler that ends has been answered for exactly in the runs whose steps are answerable. -/
theorem all_answered_iff (now : Int) (stored : List String) (acts : List Action) :
    Runs.Along step (fun _ _ t => AllAnswered t) (start now stored) acts ↔
      Runs.Along step (fun s act _ => Answerable s act) (start now stored) acts := by
  apply Iff.symm
  apply Runs.along_iff (fun s => Sound s ∧ AllAnswered s)
  next =>
    intro s act t inv all taken
    exact ⟨inv.1.step taken, all⟩
  next =>
    intro s act t inv taken
    constructor
    next => exact fun answerable => answerable.all_answered inv.1 inv.2 taken
    next => exact fun all => all.answerable taken
  next => exact ⟨sound_start now stored, all_answered_start now stored⟩

-- Two tabs have a session, and a second request comes while the other tab renews.
def refusedRun : List Action :=
  [.event (.mount true), .event (.customEvent ⟨0, true⟩ .addNewStorageUrl "https://usd.example"),
    .answer 0 .resolved, .answer 0 (.user (some ⟨"first token", none⟩)), .event (.mount true),
    .answer 2 .resolved, .answer 2 (.user (some ⟨"first token", none⟩)),
    .event (.customEvent ⟨1, true⟩ .requestTokenRefresh "https://usd.example"),
    .answer 4 .granted,
    .event (.customEvent ⟨0, true⟩ .requestTokenRefresh "https://usd.example"),
    .answer 5 .refused]

def refusedRequest : Request := ⟨⟨0, true⟩, rfl, "https://usd.example", 2⟩

theorem refused_run_unanswered :
    ¬ Runs.Along step (fun _ _ t => AllAnswered t) (start 0 []) refusedRun := by
  intro along
  have ended : (Runs.run step (start 0 []) refusedRun).map
      (fun t => (t.tasks[5]?, decide (Answered t.world refusedRequest))) =
      some (some (.handled refusedRequest false), false) := by decide
  obtain ⟨t, reached, found⟩ := Option.map_eq_some_iff.mp ended
  have all : AllAnswered t :=
    (Runs.along_iff_reached AllAnswered (all_answered_start 0 [])).mp along refusedRun [] t
      (List.append_nil refusedRun).symm reached
  have answered := all 5 refusedRequest false (congrArg Prod.fst found)
  exact of_decide_eq_false (congrArg Prod.snd found) answered

end StreamingPortal.Web.StorageAuth
