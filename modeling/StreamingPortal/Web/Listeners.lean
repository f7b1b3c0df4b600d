import StreamingPortal.Shared.Listeners
import StreamingPortal.Web.StorageSteps

set_option autoImplicit false

/-!
# The expiring listeners of the storage sessions

What the sessions add to and remove from the events of their user managers, and the manager that
has loaded or renewed the user of each session.
-/

namespace StreamingPortal.Web.StorageAuth

open StreamingPortal.Listeners
open StreamingPortal.Promises

-- A session adds its listeners to the `events` of its own manager.
abbrev Listening := Registry Nat Nat

-- What a resumed function does to a session.
inductive Deed
  | activates (page : Page) (discovery : String) (userManager : Nat)
  | renews (index : Nat)
deriving DecidableEq

def deed (now : Int) : Frame → Answer → Option Deed
  | .signInPopup request userManager, .user (some _) =>
      some (.activates request.page request.discovery userManager)
  | .loadUser page discovery userManager, .user (some user) =>
      if user.expired now then none else some (.activates page discovery userManager)
  | .renewing (.session index _ _ _) .silent, .user (some _)
  | .renewing (.session index _ _ _) .failing, .user (some _)
  | .renewing (.session index _ _ _) (.recovering _), .user (some _) => some (.renews index)
  | _, _ => none

/-- The state with what has been recorded of the listeners and of the managers that loaded or
renewed the users. -/
structure Watched where
  state : State
  listening : Listening
  loadedBy : Nat → Option Nat

-- `StorageApiSession.activate` of the session, with the user of a manager.
def Watched.activate (x : Watched) (index own userManager : Nat) : Watched :=
  { x with
    listening := (x.listening.remove index).attach index own
    loadedBy := Function.update x.loadedBy index (some userManager) }

def Watched.record (x : Watched) : Deed → Watched
  | .activates page discovery userManager =>
      match x.state.world.sessionOf (page.id, discovery) with
      | some index =>
          x.activate index
            ((x.state.world.sessions[index]?).elim userManager StorageApiSession.userManager)
            userManager
      | none => x.activate x.state.world.sessions.length userManager userManager
  | .renews index =>
      -- `signinSilent` or `signinPopup` of its own manager.
      { x with
        loadedBy := Function.update x.loadedBy index
          ((x.state.world.sessions[index]?).map StorageApiSession.userManager) }

-- The sessions that the clean-up disposes of.
def sessionsOf (w : World) (page : Page) : List Nat :=
  (List.range w.sessions.length).filter fun index =>
    (w.sessions[index]?).any fun session => session.page = page

def Watched.watch (x : Watched) : Action → Watched
  | .answer p a =>
      match (x.state.tasks[p]?).bind fun frame => deed x.state.world.now frame a with
      | some d => x.record d
      | none => x
  | .event (.leave page) =>
      { x with listening := x.listening.disposeAll (sessionsOf x.state.world page) }
  | .event _ => x

def watchedStep (x : Watched) (act : Action) : Option Watched :=
  (step x.state act).map fun s => { x.watch act with state := s }

def watchedStart (now : Int) (stored : List String) : Watched :=
  ⟨start now stored, .empty, fun _ => none⟩

/-- A session in the map of its hook has one listener, on the manager that loaded or renewed its
user; a session of a page that has been left has neither listener nor user. -/
structure Follows (x : Watched) : Prop where
  held : ∀ key index, x.state.world.sessionOf key = some index → ∃ listener,
    x.listening.listenersOf index = [listener] ∧ x.loadedBy index = some listener.emitter
  left : ∀ index session, x.state.world.sessions[index]? = some session →
    session.page ∉ x.state.world.channels →
      x.listening.listenersOf index = [] ∧ session.user = none

-- The session is a new one, and the page has not been left.
def Fits (w : World) : Deed → Prop
  | .activates page discovery _ =>
      w.sessionOf (page.id, discovery) = none ∧ page ∈ w.channels
  | .renews index => ∀ session ∈ w.sessions[index]?, session.page ∈ w.channels

def Fitting (s : State) : Action → Prop
  | .answer p a => ∀ frame, s.tasks[p]? = some frame → ∀ d ∈ deed s.world.now frame a,
      Fits s.world d
  | .event _ => True

/-! ## What a deed leaves of the sessions -/

-- A manager may have been created.
structure SameSessions (w w' : World) : Prop where
  sessions : w'.sessions = w.sessions
  sessionOf : w'.sessionOf = w.sessionOf
  channels : w'.channels = w.channels
  managers : w.managers.length ≤ w'.managers.length

theorem SameSessions.refl (w : World) : SameSessions w w := ⟨rfl, rfl, rfl, Nat.le_refl _⟩

theorem SameSessions.trans {w w' w'' : World} (first : SameSessions w w')
    (second : SameSessions w' w'') : SameSessions w w'' where
  sessions := second.sessions.trans first.sessions
  sessionOf := second.sessionOf.trans first.sessionOf
  channels := second.channels.trans first.channels
  managers := Nat.le_trans first.managers second.managers

theorem sameSessions_createUserManager (w : World) (discovery : String) :
    SameSessions w (createUserManager w discovery).1 :=
  ⟨rfl, rfl, rfl, by simp [createUserManager]⟩

theorem sameSessions_handleTokenRefresh (w : World) (page : Page) (discovery accessToken : String)
    (source : TokenRefreshSource) :
    SameSessions w (handleTokenRefresh w page discovery accessToken source).1 := by
  unfold handleTokenRefresh
  split <;> exact ⟨rfl, rfl, rfl, Nat.le_refl _⟩

theorem sameSessions_postMessage (w : World) (task : Nat) (page : Page)
    (message : BroadcastMessage) : SameSessions w (postMessage w task page message) := by
  unfold postMessage
  split <;> exact ⟨rfl, rfl, rfl, Nat.le_refl _⟩

theorem sameSessions_storeDiscoveryUrl (w : World) (discovery : String) :
    SameSessions w (storeDiscoveryUrl w discovery) := by
  unfold storeDiscoveryUrl
  split <;> exact ⟨rfl, rfl, rfl, Nat.le_refl _⟩

theorem sameSessions_finish (w : World) (call : Call) (error : Option String) :
    SameSessions w (finish w call error).1 := by
  unfold finish
  split <;> exact ⟨rfl, rfl, rfl, Nat.le_refl _⟩

theorem sameSessions_conclude (w : World) (call : Call) (outcome : Outcome)
    (error : Option String) (started : List Frame) :
    SameSessions w (conclude w call outcome error started).1 := by
  have released : SameSessions w (release w call outcome) := ⟨rfl, rfl, rfl, Nat.le_refl _⟩
  exact released.trans (sameSessions_finish (release w call outcome) call error)

theorem getElem?_setUser (w : World) (index j : Nat) (user : User) (attached : Bool → Bool) :
    (setUser w index user attached).sessions[j]? =
      if j = index then (w.sessions[j]?).map fun session =>
        { session with user := some user, attached := attached session.attached }
      else w.sessions[j]? := by
  simp only [setUser, List.getElem?_modify]
  by_cases same : j = index
  next =>
    subst same
    simp
  next => simp [same, Ne.symm same]

theorem sameSessions_activate (w : World) (index : Nat) (page : Page) (discovery : String)
    (user : User) : SameSessions (setUser w index user fun _ => true)
      (activate w index page discovery user).1 := by
  by_cases same : tokenAt w index = some user.accessToken
  next =>
    rw [activate_same same]
    exact .refl _
  next =>
    rw [activate_other same]
    exact sameSessions_handleTokenRefresh _ page discovery user.accessToken .activated

-- The world that a deed makes, up to what does not concern the sessions.
inductive Done (w : World) : Option Deed → World → Prop
  | nothing (w' : World) (same : SameSessions w w') : Done w none w'
  | activated (page : Page) (discovery : String) (userManager : Nat) (user : User) (w' : World)
      (same : SameSessions (activateSession w page discovery user userManager).1 w') :
      Done w (some (.activates page discovery userManager)) w'
  | renewed (index : Nat) (user : User) (w' : World)
      (same : SameSessions (setUser w index user id) w') : Done w (some (.renews index)) w'

theorem Done.after {w w' w'' : World} {d : Option Deed} (done : Done w d w')
    (same : SameSessions w' w'') : Done w d w'' := by
  cases done with
  | nothing w' first => exact .nothing w'' (first.trans same)
  | activated page discovery userManager user w' first =>
      exact .activated page discovery userManager user w'' (first.trans same)
  | renewed index user w' first => exact .renewed index user w'' (first.trans same)

theorem deed_failed (now : Int) (frame : Frame) (error : String) :
    deed now frame (.failed error) = none := by
  cases frame with
  | renewing call stage => cases call <;> cases stage <;> rfl
  | _ => rfl

theorem done_onFailure {w w' : World} {call : Call} {stage : Stage} {a : Answer}
    {started : List Frame} {error : Option String}
    (tried : stage = .failing ∨ ∃ again, stage = .recovering again)
    (ended : onFailure w call a = some (w', started, error)) :
    Done w (deed w.now (.renewing call stage) a) w' := by
  unfold onFailure at ended
  split at ended
  next =>
    cases ended
    rcases tried with rfl | ⟨again, rfl⟩ <;> exact .nothing _ (.refl w)
  next index page discovery request user =>
    cases ended
    have same := sameSessions_handleTokenRefresh (setUser w index user id) page discovery
      user.accessToken .renewed
    rcases tried with rfl | ⟨again, rfl⟩ <;> exact .renewed index user _ same
  next error =>
    cases ended
    rw [deed_failed]
    exact .nothing _ (.refl w)
  next => contradiction

theorem done_renews {w w' : World} {p : Nat} {call : Call} {stage : Stage} {a : Answer}
    {next : Frame} {started : List Frame} (renews : Renews w p call stage a w' next started) :
    Done w (deed w.now (.renewing call stage) a) w' := by
  cases renews with
  | granted free => cases call <;> exact .nothing _ ⟨rfl, rfl, rfl, Nat.le_refl _⟩
  | refused taken => cases call <;> exact .nothing _ (sameSessions_finish w _ none)
  | unlocked error =>
      rw [deed_failed]
      exact .nothing _ (sameSessions_finish w call (some error))
  | renewed user =>
      cases call with
      | portal => exact .nothing _ (.refl w)
      | session index page discovery request =>
          exact .renewed index user _ (sameSessions_handleTokenRefresh _ page discovery _ _)
  | absent => cases call <;> exact .nothing _ (.refl w)
  | raised stage error tried =>
      rw [deed_failed]
      exact .nothing _ (.refl w)
  | succeeded => cases call <;> exact .nothing _ (.refl w)
  | cooled => cases call <;> exact .nothing _ (sameSessions_conclude w _ _ _ _)
  | fell a w' started ended =>
      exact (done_onFailure (Or.inl rfl) ended).after (sameSessions_conclude w' call _ _ _)
  | fellAgain a w' started error ended => exact done_onFailure (Or.inl rfl) ended
  | recovered again a w' started error ended =>
      exact (done_onFailure (Or.inr ⟨again, rfl⟩) ended).after (sameSessions_conclude w' call _ _ _)

theorem resume_done {w w' : World} {p : Nat} {frame next : Frame} {a : Answer}
    {started : List Frame} (effect : resume w p frame a = some (w', next, started)) :
    Done w (deed w.now frame a) w' := by
  have quiet {w' : World} {frame : Frame} {a : Answer} (same : SameSessions w w')
      (idle : deed w.now frame a = none) : Done w (deed w.now frame a) w' := by
    rw [idle]
    exact .nothing w' same
  cases frame with
  | signInManager request =>
      cases a with
      | resolved =>
          cases effect
          exact quiet (sameSessions_createUserManager w request.discovery) rfl
      | failed error =>
          cases effect
          exact quiet ⟨rfl, rfl, rfl, Nat.le_refl _⟩ rfl
      | _ => contradiction
  | signInPopup request userManager =>
      cases a with
      | failed error =>
          cases effect
          exact quiet ⟨rfl, rfl, rfl, Nat.le_refl _⟩ rfl
      | user found =>
          cases found with
          | none => contradiction
          | some user =>
              cases effect
              exact .activated request.page request.discovery userManager user _
                ((sameSessions_storeDiscoveryUrl _ request.discovery).trans
                  (sameSessions_postMessage _ p request.page (.authenticated request.discovery)))
      | _ => contradiction
  | answering request =>
      cases a with
      | resolved | failed =>
          cases effect
          exact quiet (.refl w) rfl
      | _ => contradiction
  | loadManager page discovery =>
      cases a with
      | resolved =>
          cases effect
          exact quiet (sameSessions_createUserManager w discovery) rfl
      | failed error =>
          cases effect
          exact quiet (.refl w) rfl
      | _ => contradiction
  | loadUser page discovery userManager =>
      cases a with
      | failed error =>
          cases effect
          exact quiet (.refl w) rfl
      | user found =>
          cases found with
          | none =>
              cases effect
              exact quiet (.refl w) rfl
          | some user =>
              simp only [resume] at effect
              split at effect
              next expired =>
                cases effect
                exact quiet (.refl w) (if_pos expired)
              next live =>
                cases effect
                rw [show deed w.now (.loadUser page discovery userManager) (.user (some user)) =
                  some (.activates page discovery userManager) from if_neg live]
                exact .activated page discovery userManager user _ (.refl _)
      | _ => contradiction
  | refreshing page discovery source =>
      cases a with
      | resolved =>
          cases effect
          refine quiet ?_ rfl
          split
          next => exact .refl w
          next => exact sameSessions_postMessage w p page (.renewal discovery)
      | failed error =>
          simp only [resume] at effect
          split at effect
          next =>
            cases effect
            exact quiet (.refl w) rfl
          next => contradiction
      | _ => contradiction
  | renewing call stage => exact done_renews (renewal_cases effect)
  | library discovery =>
      cases a with
      | user | failed =>
          cases effect
          exact quiet (.refl w) rfl
      | _ => contradiction
  | callback discovery =>
      cases a with
      | resolved =>
          cases effect
          exact quiet (sameSessions_createUserManager w discovery) rfl
      | failed error =>
          cases effect
          exact quiet (.refl w) rfl
      | _ => contradiction
  | handled | refreshed | gone => contradiction

end StreamingPortal.Web.StorageAuth
