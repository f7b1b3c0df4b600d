import StreamingPortal.Web.StorageAuth

set_option autoImplicit false

/-!
# What a step of the storage sessions can do

The cases of a resumed function, and what the work between two awaits leaves alone.
-/

namespace StreamingPortal.Web.StorageAuth

/-- Nothing is locked, released or posted, and what was sent stays sent. -/
structure Extends (w w' : World) : Prop where
  locks : w'.locks = w.locks
  outcomes : w'.outcomes = w.outcomes
  posted : w'.posted = w.posted
  channels : w'.channels = w.channels
  sent : w.sent <+: w'.sent

theorem Extends.refl (w : World) : Extends w w := ⟨rfl, rfl, rfl, rfl, List.prefix_refl _⟩

theorem Extends.trans {w w' w'' : World} (first : Extends w w') (second : Extends w' w'') :
    Extends w w'' where
  locks := second.locks.trans first.locks
  outcomes := second.outcomes.trans first.outcomes
  posted := second.posted.trans first.posted
  channels := second.channels.trans first.channels
  sent := first.sent.trans second.sent

theorem prefix_of_sent {w w' : World} (same : w'.sent = w.sent) : w.sent <+: w'.sent :=
  same ▸ List.prefix_refl _

theorem extends_createUserManager (w : World) (discovery : String) :
    Extends w (createUserManager w discovery).1 := ⟨rfl, rfl, rfl, rfl, List.prefix_refl _⟩

theorem extends_send (w : World) (page : Page) (message : StreamMessage) :
    Extends w (send w page message) := ⟨rfl, rfl, rfl, rfl, List.prefix_append _ _⟩

theorem extends_handleTokenRefresh (w : World) (page : Page) (discovery accessToken : String)
    (source : TokenRefreshSource) :
    Extends w (handleTokenRefresh w page discovery accessToken source).1 := by
  unfold handleTokenRefresh
  by_cases streams : page.stream = true
  next =>
    rw [if_pos streams]
    exact extends_send w page _
  next =>
    rw [if_neg streams]
    exact Extends.refl w

theorem extends_setUser (w : World) (index : Nat) (user : User) (attached : Bool → Bool) :
    Extends w (setUser w index user attached) := ⟨rfl, rfl, rfl, rfl, List.prefix_refl _⟩

-- The token of a session object.
def tokenAt (w : World) (index : Nat) : Option String :=
  ((w.sessions[index]?).bind StorageApiSession.user).map User.accessToken

theorem activate_same {w : World} {index : Nat} {user : User}
    (same : tokenAt w index = some user.accessToken) (page : Page) (discovery : String) :
    activate w index page discovery user = (setUser w index user fun _ => true, []) :=
  if_pos same

theorem activate_other {w : World} {index : Nat} {user : User}
    (other : tokenAt w index ≠ some user.accessToken) (page : Page) (discovery : String) :
    activate w index page discovery user =
      handleTokenRefresh (setUser w index user fun _ => true) page discovery user.accessToken
        .activated :=
  if_neg other

theorem activateSession_known {w : World} {page : Page} {discovery : String} {index : Nat}
    (known : w.sessionOf (page.id, discovery) = some index) (user : User) (userManager : Nat) :
    activateSession w page discovery user userManager = activate w index page discovery user := by
  unfold activateSession
  rw [known]

theorem activateSession_new {w : World} {page : Page} {discovery : String}
    (new : w.sessionOf (page.id, discovery) = none) (user : User) (userManager : Nat) :
    activateSession w page discovery user userManager =
      activate (addSession w page discovery userManager) w.sessions.length page discovery user := by
  unfold activateSession
  rw [new]

theorem tokenAt_addSession (w : World) (page : Page) (discovery : String) (userManager : Nat) :
    tokenAt (addSession w page discovery userManager) w.sessions.length = none := by
  simp [tokenAt, addSession]

theorem extends_activate (w : World) (index : Nat) (page : Page) (discovery : String)
    (user : User) : Extends w (activate w index page discovery user).1 := by
  have set := extends_setUser w index user fun _ => true
  by_cases same : tokenAt w index = some user.accessToken
  next =>
    rw [activate_same same]
    exact set
  next =>
    rw [activate_other same]
    exact set.trans (extends_handleTokenRefresh _ page discovery user.accessToken .activated)

theorem extends_activateSession (w : World) (page : Page) (discovery : String) (user : User)
    (userManager : Nat) :
    Extends w (activateSession w page discovery user userManager).1 := by
  cases known : w.sessionOf (page.id, discovery) with
  | some index =>
      rw [activateSession_known known]
      exact extends_activate w index page discovery user
  | none =>
      rw [activateSession_new known]
      refine Extends.trans ?_ (extends_activate _ w.sessions.length page discovery user)
      exact ⟨rfl, rfl, rfl, rfl, List.prefix_refl _⟩

theorem extends_storeDiscoveryUrl (w : World) (discovery : String) :
    Extends w (storeDiscoveryUrl w discovery) := by
  unfold storeDiscoveryUrl
  split
  next => exact Extends.refl w
  next => exact ⟨rfl, rfl, rfl, rfl, List.prefix_refl _⟩

theorem extends_renewed (w : World) (call : Call) (user : User) :
    Extends w (renewed w call user).1 := by
  cases call with
  | portal => exact Extends.refl w
  | session index page discovery request =>
      exact (extends_setUser w index user id).trans
        (extends_handleTokenRefresh _ page discovery user.accessToken .renewed)

theorem extends_onFailure {w w' : World} {call : Call} {a : Answer} {started : List Frame}
    {error : Option String} (ended : onFailure w call a = some (w', started, error)) :
    Extends w w' := by
  unfold onFailure at ended
  split at ended
  next =>
    cases ended
    exact Extends.refl w
  next index page discovery request user =>
    cases ended
    exact extends_renewed w (.session index page discovery request) user
  next =>
    cases ended
    exact Extends.refl w
  next => contradiction

section Post

variable (w : World) (task : Nat) (page : Page) (message : BroadcastMessage)

@[simp] theorem postMessage_locks : (postMessage w task page message).locks = w.locks := by
  unfold postMessage
  split <;> rfl

@[simp] theorem postMessage_outcomes :
    (postMessage w task page message).outcomes = w.outcomes := by
  unfold postMessage
  split <;> rfl

@[simp] theorem postMessage_sent : (postMessage w task page message).sent = w.sent := by
  unfold postMessage
  split <;> rfl

end Post

-- What `signIn` does before it posts its message.
def activated (w : World) (request : Request) (user : User) (userManager : Nat) : World :=
  storeDiscoveryUrl (activateSession w request.page request.discovery user userManager).1
    request.discovery

theorem extends_activated (w : World) (request : Request) (user : User) (userManager : Nat) :
    Extends w (activated w request user userManager) :=
  (extends_activateSession w request.page request.discovery user userManager).trans
    (extends_storeDiscoveryUrl _ request.discovery)

theorem signIn_world (w : World) (task : Nat) (request : Request) (user : User)
    (userManager : Nat) : (signIn w task request user userManager).1 =
      postMessage (activated w request user userManager) task request.page
        (.authenticated request.discovery) := rfl

/-! ## The tasks that are started -/

-- The only tasks that a function starts are those of `handleTokenRefresh`.
def Refreshes (started : List Frame) : Prop :=
  ∀ frame ∈ started, ∃ page discovery source, frame = .refreshing page discovery source

theorem refreshes_nil : Refreshes [] := by
  intro frame member
  contradiction

theorem refreshes_handleTokenRefresh (w : World) (page : Page) (discovery accessToken : String)
    (source : TokenRefreshSource) :
    Refreshes (handleTokenRefresh w page discovery accessToken source).2 := by
  intro frame member
  exact ⟨page, discovery, source, List.mem_singleton.mp member⟩

theorem refreshes_activate (w : World) (index : Nat) (page : Page) (discovery : String)
    (user : User) : Refreshes (activate w index page discovery user).2 := by
  by_cases same : tokenAt w index = some user.accessToken
  next =>
    rw [activate_same same]
    exact refreshes_nil
  next =>
    rw [activate_other same]
    exact refreshes_handleTokenRefresh _ page discovery user.accessToken .activated

theorem refreshes_activateSession (w : World) (page : Page) (discovery : String) (user : User)
    (userManager : Nat) : Refreshes (activateSession w page discovery user userManager).2 := by
  cases known : w.sessionOf (page.id, discovery) with
  | some index =>
      rw [activateSession_known known]
      exact refreshes_activate w index page discovery user
  | none =>
      rw [activateSession_new known]
      exact refreshes_activate _ w.sessions.length page discovery user

theorem refreshes_signIn (w : World) (task : Nat) (request : Request) (user : User)
    (userManager : Nat) : Refreshes (signIn w task request user userManager).2 :=
  refreshes_activateSession w request.page request.discovery user userManager

theorem refreshes_renewed (w : World) (call : Call) (user : User) :
    Refreshes (renewed w call user).2 := by
  cases call with
  | portal => exact refreshes_nil
  | session index page discovery request => exact refreshes_handleTokenRefresh _ page discovery _ _

theorem refreshes_onFailure {w w' : World} {call : Call} {a : Answer} {started : List Frame}
    {error : Option String} (ended : onFailure w call a = some (w', started, error)) :
    Refreshes started := by
  unfold onFailure at ended
  split at ended
  next =>
    cases ended
    exact refreshes_nil
  next index page discovery request user =>
    cases ended
    exact refreshes_renewed w (.session index page discovery request) user
  next =>
    cases ended
    exact refreshes_nil
  next => contradiction

theorem onFailure_error {w w' : World} {call : Call} {a : Answer} {started : List Frame}
    {error : String} (ended : onFailure w call a = some (w', started, some error)) :
    a = .failed error := by
  unfold onFailure at ended
  split at ended
  next => cases ended
  next => cases ended
  next =>
    cases ended
    rfl
  next => contradiction

theorem onFailure_ended {w w' : World} {call : Call} {a : Answer} {started : List Frame}
    (ended : onFailure w call a = some (w', started, none)) : ∀ error, a ≠ .failed error := by
  intro error same
  subst same
  unfold onFailure at ended
  split at ended
  next => contradiction
  next => contradiction
  next => cases ended
  next => contradiction

/-! ## The cases of a resumed function -/

-- A function that no request waits for, and that neither renews with a lock nor posts.
def Frame.aside : Frame → Bool
  | .loadManager _ _ | .loadUser _ _ _ | .library _ | .callback _ | .gone => true
  | _ => false

inductive Resumes (w : World) (p : Nat) :
    Frame → Answer → World → Frame → List Frame → Prop
  | asked (request : Request) :
      Resumes w p (.signInManager request) .resolved (createUserManager w request.discovery).1
        (.signInPopup request w.managers.length) []
  | signedIn (request : Request) (userManager : Nat) (user : User) :
      Resumes w p (.signInPopup request userManager) (.user (some user))
        (signIn w p request user userManager).1 (.handled request true)
        (signIn w p request user userManager).2
  | rejected (request : Request) (frame : Frame) (error : String)
      (waits : frame = .signInManager request ∨ ∃ m, frame = .signInPopup request m) :
      Resumes w p frame (.failed error) (sendAuthenticationError w request error)
        (.answering request) []
  | answered (request : Request) (a : Answer) :
      Resumes w p (.answering request) a w (.handled request false) []
  | heard (page : Page) (discovery : String) (source : TokenRefreshSource) :
      Resumes w p (.refreshing page discovery source) .resolved
        (if source = .activated then w else postMessage w p page (.renewal discovery))
        (.refreshed page discovery source) []
  | unheard (page : Page) (discovery : String) (source : TokenRefreshSource) (error : String) :
      Resumes w p (.refreshing page discovery source) (.failed error) w
        (.refreshed page discovery source) []
  | renewal (call : Call) (stage : Stage) (a : Answer) (w' : World) (next : Frame)
      (started : List Frame) (effect : resumeRenewal w p call stage a = some (w', next, started)) :
      Resumes w p (.renewing call stage) a w' next started
  | aside (frame : Frame) (a : Answer) (w' : World) (next : Frame) (started : List Frame)
      (before : frame.aside = true)
      (after : next = .gone ∨ ∃ page discovery m, next = .loadUser page discovery m)
      (quiet : Extends w w') (others : Refreshes started) : Resumes w p frame a w' next started

@[elab_as_elim] theorem signingIn_elim {P : Frame → Prop} {frame : Frame} {request : Request}
    (waits : frame = .signInManager request ∨ ∃ m, frame = .signInPopup request m)
    (first : P (.signInManager request)) (second : ∀ m, P (.signInPopup request m)) : P frame := by
  rcases waits with rfl | ⟨m, rfl⟩
  · exact first
  · exact second m

@[elab_as_elim] theorem aside_elim {P : Frame → Prop} {next : Frame}
    (after : next = .gone ∨ ∃ page discovery m, next = .loadUser page discovery m)
    (gone : P .gone) (load : ∀ page discovery m, P (.loadUser page discovery m)) : P next := by
  rcases after with rfl | ⟨page, discovery, m, rfl⟩
  · exact gone
  · exact load page discovery m

theorem resume_cases {w w' : World} {p : Nat} {frame next : Frame} {a : Answer}
    {started : List Frame} (effect : resume w p frame a = some (w', next, started)) :
    Resumes w p frame a w' next started := by
  unfold resume at effect
  split at effect
  next request =>
    cases effect
    exact .asked request
  next request userManager user =>
    cases effect
    exact .signedIn request userManager user
  next request error =>
    cases effect
    exact .rejected request _ error (Or.inl rfl)
  next request userManager error =>
    cases effect
    exact .rejected request _ error (Or.inr ⟨userManager, rfl⟩)
  next request =>
    cases effect
    exact .answered request .resolved
  next request error =>
    cases effect
    exact .answered request (.failed error)
  next page discovery =>
    cases effect
    exact .aside _ _ _ _ _ rfl (Or.inr ⟨page, discovery, _, rfl⟩)
      (extends_createUserManager w discovery) refreshes_nil
  next page discovery userManager user =>
    split at effect
    next =>
      cases effect
      exact .aside _ _ _ _ _ rfl (Or.inl rfl) (Extends.refl w) refreshes_nil
    next =>
      cases effect
      exact .aside _ _ _ _ _ rfl (Or.inl rfl)
        (extends_activateSession w page discovery user userManager)
        (refreshes_activateSession w page discovery user userManager)
  next =>
    cases effect
    exact .aside _ _ _ _ _ rfl (Or.inl rfl) (Extends.refl w) refreshes_nil
  next =>
    cases effect
    exact .aside _ _ _ _ _ rfl (Or.inl rfl) (Extends.refl w) refreshes_nil
  next =>
    cases effect
    exact .aside _ _ _ _ _ rfl (Or.inl rfl) (Extends.refl w) refreshes_nil
  next page discovery source =>
    cases effect
    exact .heard page discovery source
  next page discovery source error =>
    split at effect
    next =>
      cases effect
      exact .unheard page discovery source error
    next => contradiction
  next call stage => exact .renewal call stage _ w' next started effect
  next =>
    cases effect
    exact .aside _ _ _ _ _ rfl (Or.inl rfl) (Extends.refl w) refreshes_nil
  next =>
    cases effect
    exact .aside _ _ _ _ _ rfl (Or.inl rfl) (Extends.refl w) refreshes_nil
  next discovery =>
    cases effect
    exact .aside _ _ _ _ _ rfl (Or.inl rfl) (extends_createUserManager w discovery) refreshes_nil
  next =>
    cases effect
    exact .aside _ _ _ _ _ rfl (Or.inl rfl) (Extends.refl w) refreshes_nil
  next => contradiction

/-! ## The cases of `renewTokenWithLock` -/

theorem extends_finish (w : World) (call : Call) (error : Option String) :
    Extends w (finish w call error).1 := by
  unfold finish
  split
  next => exact Extends.refl w
  next => exact extends_send w _ _
  next => exact Extends.refl w

-- The lock is released before anything is sent.
theorem conclude_sent (w : World) (call : Call) (outcome : Outcome) (error : Option String)
    (started : List Frame) : w.sent <+: (conclude w call outcome error started).1.sent :=
  (extends_finish (release w call outcome) call error).sent

theorem conclude_posted (w : World) (call : Call) (outcome : Outcome) (error : Option String)
    (started : List Frame) : (conclude w call outcome error started).1.posted = w.posted :=
  (extends_finish (release w call outcome) call error).posted

inductive Renews (w : World) (p : Nat) (call : Call) :
    Stage → Answer → World → Frame → List Frame → Prop
  | granted (free : w.locks (lockName call.discovery) = none) :
      Renews w p call .requested .granted
        { w with locks := Function.update w.locks (lockName call.discovery) (some p) }
        (.renewing call .silent) []
  | refused (taken : w.locks (lockName call.discovery) ≠ none) :
      Renews w p call .requested .refused (finish w call none).1 (finish w call none).2 []
  | unlocked (error : String) :
      Renews w p call .requested (.failed error) (finish w call (some error)).1
        (finish w call (some error)).2 []
  | renewed (user : User) :
      Renews w p call .silent (.user (some user)) (renewed w call user).1
        (.renewing call .succeeding) (renewed w call user).2
  | absent : Renews w p call .silent (.user none) w (.renewing call .failing) []
  | raised (stage : Stage) (error : String) (tried : stage = .silent ∨ stage = .succeeding) :
      Renews w p call stage (.failed error) w (.renewing call (.recovering false)) []
  | succeeded : Renews w p call .succeeding .resolved w (.renewing call .cooling) []
  | cooled :
      Renews w p call .cooling .resolved (conclude w call ⟨1, 0⟩ none []).1
        (conclude w call ⟨1, 0⟩ none []).2.1 []
  | fell (a : Answer) (w' : World) (started : List Frame)
      (ended : onFailure w call a = some (w', started, none)) :
      Renews w p call .failing a (conclude w' call ⟨0, 1⟩ none started).1
        (conclude w' call ⟨0, 1⟩ none started).2.1 started
  | fellAgain (a : Answer) (w' : World) (started : List Frame) (error : String)
      (ended : onFailure w call a = some (w', started, some error)) :
      Renews w p call .failing a w' (.renewing call (.recovering true)) started
  | recovered (again : Bool) (a : Answer) (w' : World) (started : List Frame)
      (error : Option String) (ended : onFailure w call a = some (w', started, error)) :
      Renews w p call (.recovering again) a
        (conclude w' call ⟨0, if again then 2 else 1⟩ error started).1
        (conclude w' call ⟨0, if again then 2 else 1⟩ error started).2.1 started

theorem renewal_cases {w w' : World} {p : Nat} {call : Call} {stage : Stage} {a : Answer}
    {next : Frame} {started : List Frame}
    (effect : resumeRenewal w p call stage a = some (w', next, started)) :
    Renews w p call stage a w' next started := by
  unfold resumeRenewal at effect
  split at effect
  next =>
    split at effect
    next free =>
      cases effect
      exact .granted free
    next => contradiction
  next =>
    split at effect
    next => contradiction
    next taken =>
      cases effect
      exact .refused taken
  next error =>
    cases effect
    exact .unlocked error
  next user =>
    cases effect
    exact .renewed user
  next =>
    cases effect
    exact .absent
  next error =>
    cases effect
    exact .raised .silent error (Or.inl rfl)
  next =>
    cases effect
    exact .succeeded
  next error =>
    cases effect
    exact .raised .succeeding error (Or.inr rfl)
  next =>
    cases effect
    exact .cooled
  next =>
    split at effect
    next w' started ended =>
      cases effect
      exact .fell _ w' started ended
    next w' started error ended =>
      cases effect
      exact .fellAgain _ w' started error ended
    next => contradiction
  next again =>
    split at effect
    next w' started error ended =>
      cases effect
      exact .recovered again _ w' started error ended
    next => contradiction
  next => contradiction

theorem renews_refreshes {w w' : World} {p : Nat} {call : Call} {stage : Stage} {a : Answer}
    {next : Frame} {started : List Frame} (renews : Renews w p call stage a w' next started) :
    Refreshes started := by
  cases renews with
  | renewed user => exact refreshes_renewed w call user
  | fell a w' started ended => exact refreshes_onFailure ended
  | fellAgain a w' started error ended => exact refreshes_onFailure ended
  | recovered again a w' started error ended => exact refreshes_onFailure ended
  | _ => exact refreshes_nil

theorem resumes_refreshes {w w' : World} {p : Nat} {frame next : Frame} {a : Answer}
    {started : List Frame} (resumes : Resumes w p frame a w' next started) : Refreshes started := by
  cases resumes with
  | signedIn request userManager user => exact refreshes_signIn w p request user userManager
  | renewal call stage a w' next started effect => exact renews_refreshes (renewal_cases effect)
  | aside frame a w' next started before after quiet others => exact others
  | _ => exact refreshes_nil

/-! ## The cases of an event -/

-- The request that a call was made for is one about its page and discovery URL.
def Call.For (call : Call) (request : Request) : Prop :=
  ∃ index, call = .session index request.page request.discovery (some request)

/-- The tasks that an event starts. -/
inductive Opens (w : World) : Event → Frame → Prop
  | loads (e : Event) (page : Page) (discovery : String) : Opens w e (.loadManager page discovery)
  | signsIn (e : Event) (request : Request) (fresh : request.since = w.sent.length) :
      Opens w e (.signInManager request)
  | requests (e : Event) (call : Call) (request : Request) (fresh : request.since = w.sent.length)
      (own : call.For request) : Opens w e (.renewing call .requested)
  | portal (e : Event) : Opens w e (.renewing .portal .requested)
  | expires (e : Event) (index : Nat) (page : Page) (discovery : String) :
      Opens w e (.renewing (.session index page discovery none) .requested)
  | library (index : Nat) (manager : UserManager) (stored : w.managers[index]? = some manager)
      (own : manager.renewsByItself = true) :
      Opens w (.accessTokenExpiring index) (.library manager.discovery)
  | callback (e : Event) (discovery : String) : Opens w e (.callback discovery)

theorem opens_handleCustomEvent (w : World) (e : Event) {request : Request}
    (fresh : request.since = w.sent.length) (eventType : EventType) :
    Opens w e (handleCustomEvent w request eventType) := by
  cases eventType with
  | addNewStorageUrl => exact .signsIn e request fresh
  | requestTokenRefresh =>
      simp only [handleCustomEvent]
      cases w.sessionOf (request.page.id, request.discovery) with
      | none => exact .signsIn e request fresh
      | some index =>
          by_cases live : (w.sessions[index]?).any (·.isAuthenticated w.now) = true
          next =>
            simp only [live, if_true]
            exact .requests e _ request fresh ⟨index, rfl⟩
          next =>
            simp only [live]
            exact .signsIn e request fresh

theorem opens_expiring {w : World} {index : Nat} {manager : UserManager}
    (stored : w.managers[index]? = some manager) {frame : Frame}
    (member : frame ∈ expiring w index manager) : Opens w (.accessTokenExpiring index) frame := by
  unfold expiring at member
  cases List.mem_append.mp member with
  | inl own =>
      split at own
      next renews =>
        rw [List.mem_singleton.mp own]
        exact .library index manager stored renews
      next => contradiction
  | inr handler =>
      split at handler
      next =>
        rw [List.mem_singleton.mp handler]
        exact .portal _
      next =>
        obtain ⟨session, _, attached⟩ := List.mem_filterMap.mp handler
        split at attached
        next =>
          cases attached
          exact .expires _ _ _ _
        next => contradiction

theorem event_opens {w w' : World} {e : Event} {started : List Frame}
    (effect : event w e = some (w', started)) : ∀ frame ∈ started, Opens w e frame := by
  intro frame member
  cases e with
  | openPortal =>
      cases effect
      contradiction
  | mount stream =>
      cases effect
      obtain ⟨discovery, _, rfl⟩ := List.mem_map.mp member
      exact .loads _ _ discovery
  | leave page =>
      simp only [event] at effect
      split at effect
      next =>
        cases effect
        contradiction
      next => contradiction
  | customEvent page eventType discoveryUrl =>
      simp only [event] at effect
      split at effect
      next =>
        cases effect
        rw [List.mem_singleton.mp member]
        exact opens_handleCustomEvent w _ rfl eventType
      next => contradiction
  | deliver index =>
      obtain ⟨delivery, _, same⟩ := Option.map_eq_some_iff.mp effect
      cases same
      split at member
      next =>
        rw [List.mem_singleton.mp member]
        exact .loads _ _ _
      next => contradiction
  | accessTokenExpiring index =>
      obtain ⟨manager, stored, same⟩ := Option.map_eq_some_iff.mp effect
      cases same
      exact opens_expiring stored member
  | signInCallback discovery =>
      cases effect
      rw [List.mem_singleton.mp member]
      exact .callback _ discovery
  | tick time =>
      simp only [event] at effect
      split at effect
      next =>
        cases effect
        contradiction
      next => contradiction

/-- An event neither locks, releases, sends nor posts anything. -/
structure Still (w w' : World) : Prop where
  locks : w'.locks = w.locks
  outcomes : w'.outcomes = w.outcomes
  posted : w'.posted = w.posted
  sent : w'.sent = w.sent

theorem event_still {w w' : World} {e : Event} {started : List Frame}
    (effect : event w e = some (w', started)) : Still w w' := by
  cases e with
  | openPortal | mount | signInCallback =>
      cases effect
      exact ⟨rfl, rfl, rfl, rfl⟩
  | leave | customEvent | tick =>
      simp only [event] at effect
      split at effect
      next =>
        cases effect
        exact ⟨rfl, rfl, rfl, rfl⟩
      next => contradiction
  | deliver | accessTokenExpiring =>
      obtain ⟨_, _, same⟩ := Option.map_eq_some_iff.mp effect
      cases same
      exact ⟨rfl, rfl, rfl, rfl⟩

end StreamingPortal.Web.StorageAuth
