import StreamingPortal.Shared.Claims
import StreamingPortal.Web.Listeners

set_option autoImplicit false

/-!
# The user managers of sign-ins and loads

Each sign-in and each load creates a manager of its own, which no session has yet when it ends.
-/

namespace StreamingPortal.Web.StorageAuth

open StreamingPortal.Promises

-- The manager that the function has created.
def Frame.manager? : Frame → Option Nat
  | .signInPopup _ userManager | .loadUser _ _ userManager => some userManager
  | _ => none

def Frame.managers (frame : Frame) : List Nat := frame.manager?.toList

structure Apart (s : State) (spent : List Nat) : Prop where
  exclusive : Tasks.Exclusive Frame.managers s.tasks spent
  used : ∀ session ∈ s.world.sessions, session.userManager ∈ spent
  below : ∀ m ∈ spent, m < s.world.managers.length
  held : ∀ frame ∈ s.tasks, ∀ m ∈ frame.managers, m < s.world.managers.length

theorem apart_start (now : Int) (stored : List String) : Apart (start now stored) [] where
  exclusive := Tasks.exclusive_nil
  used := by simp [start]
  below := by simp
  held := by simp [start]

theorem deed_manager {now : Int} {frame : Frame} {a : Answer} {page : Page} {discovery : String}
    {userManager : Nat} (does : deed now frame a = some (.activates page discovery userManager)) :
    frame.manager? = some userManager := by
  unfold deed at does
  split at does
  next =>
    cases does
    rfl
  next =>
    split at does
    next => contradiction
    next =>
      cases does
      rfl
  all_goals cases does

theorem managers_finish (w : World) (call : Call) (error : Option String) :
    (finish w call error).2.managers = [] := by
  unfold finish
  split <;> rfl

theorem managers_renews {w w' : World} {p : Nat} {call : Call} {stage : Stage} {a : Answer}
    {next : Frame} {started : List Frame} (renews : Renews w p call stage a w' next started) :
    next.managers = [] := by
  cases renews with
  | granted | renewed | absent | raised | succeeded | fellAgain => rfl
  | refused | unlocked => exact managers_finish w call _
  | cooled => exact managers_finish (release w call _) call _
  | fell a w' started ended => exact managers_finish (release w' call _) call _
  | recovered again a w' started error ended => exact managers_finish (release w' call _) call _

/-- A function goes on with a manager only when it has just created it. -/
theorem managers_resume {w w' : World} {p : Nat} {frame next : Frame} {a : Answer}
    {started : List Frame} (effect : resume w p frame a = some (w', next, started)) :
    next.managers = [] ∨
      next.managers = [w.managers.length] ∧ w'.managers.length = w.managers.length + 1 := by
  have created (discovery : String) :
      (createUserManager w discovery).1.managers.length = w.managers.length + 1 := by
    simp [createUserManager]
  cases frame with
  | signInManager request =>
      cases a with
      | resolved =>
          cases effect
          exact Or.inr ⟨rfl, created request.discovery⟩
      | failed error =>
          cases effect
          exact Or.inl rfl
      | _ => contradiction
  | loadManager page discovery =>
      cases a with
      | resolved =>
          cases effect
          exact Or.inr ⟨rfl, created discovery⟩
      | failed error =>
          cases effect
          exact Or.inl rfl
      | _ => contradiction
  | renewing call stage => exact Or.inl (managers_renews (renewal_cases effect))
  | loadUser page discovery userManager =>
      left
      cases a with
      | resolved | granted | refused => contradiction
      | failed error =>
          cases effect
          rfl
      | user found =>
          cases found with
          | none =>
              cases effect
              rfl
          | some user =>
              simp only [resume] at effect
              split at effect <;> cases effect <;> rfl
  | signInPopup | answering | refreshing | handled | refreshed =>
      left
      cases resume_cases effect with
      | aside frame a w' next started before => contradiction
      | _ => rfl
  | library | callback =>
      left
      cases a with
      | granted | refused => contradiction
      | _ => first | contradiction | (cases effect; rfl)
  | gone => contradiction

theorem Done.managers {w w' : World} {d : Option Deed} (done : Done w d w') :
    w.managers.length ≤ w'.managers.length := by
  cases done with
  | nothing w' same => exact same.managers
  | renewed index user w' same => exact same.managers
  | activated page discovery userManager user w' same =>
      refine Nat.le_trans ?_ same.managers
      cases mapped : w.sessionOf (page.id, discovery) with
      | some index =>
          rw [activateSession_known mapped]
          exact (sameSessions_activate w index page discovery user).managers
      | none =>
          rw [activateSession_new mapped]
          exact (sameSessions_activate (addSession w page discovery userManager) _ page discovery
            user).managers

theorem managers_setUser {w : World} {index : Nat} {user : User} {attached : Bool → Bool}
    {session : StorageApiSession} (member : session ∈ (setUser w index user attached).sessions) :
    ∃ before ∈ w.sessions, session.userManager = before.userManager := by
  obtain ⟨j, found⟩ := List.mem_iff_getElem?.mp member
  rw [getElem?_setUser] at found
  split at found
  next =>
    obtain ⟨before, found', rfl⟩ := Option.map_eq_some_iff.mp found
    exact ⟨before, List.mem_of_getElem? found', rfl⟩
  next => exact ⟨session, List.mem_of_getElem? found, rfl⟩

/-- The manager of a session is that of an older session, or of the load that has just ended. -/
theorem Done.used {w w' : World} {d : Option Deed} (done : Done w d w')
    {session : StorageApiSession} (member : session ∈ w'.sessions) :
    (∃ before ∈ w.sessions, session.userManager = before.userManager) ∨
      ∃ page discovery, d = some (.activates page discovery session.userManager) := by
  cases done with
  | nothing w' same =>
      rw [same.sessions] at member
      exact Or.inl ⟨session, member, rfl⟩
  | renewed index user w' same =>
      rw [same.sessions] at member
      exact Or.inl (managers_setUser member)
  | activated page discovery userManager user w' same =>
      rw [same.sessions] at member
      cases mapped : w.sessionOf (page.id, discovery) with
      | some index =>
          rw [activateSession_known mapped,
            (sameSessions_activate w index page discovery user).sessions] at member
          exact Or.inl (managers_setUser member)
      | none =>
          rw [activateSession_new mapped,
            (sameSessions_activate (addSession w page discovery userManager) _ page discovery
              user).sessions] at member
          obtain ⟨before, added, same⟩ := managers_setUser member
          rcases List.mem_append.mp added with old | new
          · exact Or.inl ⟨before, old, same⟩
          · rw [List.mem_singleton.mp new] at same
            exact Or.inr ⟨page, discovery, by rw [same]⟩

theorem managers_started {started : List Frame} (others : Refreshes started) :
    ∀ frame ∈ started, frame.managers = [] := by
  intro frame member
  obtain ⟨page, discovery, source, rfl⟩ := others frame member
  rfl

theorem managers_opened {w : World} {e : Event} {frame : Frame} (opens : Opens w e frame) :
    frame.managers = [] := by
  cases opens <;> rfl

/-! ## Along a run -/

theorem Apart.other {s : State} {spent : List Nat} (apart : Apart s spent) {p : Nat}
    {frame : Frame} {a : Answer} {page : Page} {discovery : String} {userManager : Nat}
    (task : s.tasks[p]? = some frame)
    (does : deed s.world.now frame a = some (.activates page discovery userManager))
    {session : StorageApiSession} (member : session ∈ s.world.sessions) :
    session.userManager ≠ userManager := by
  rintro rfl
  refine apart.exclusive.unspent p frame session.userManager task ?_ (apart.used session member)
  simp [Frame.managers, deed_manager does]

def Deed.managers : Deed → List Nat
  | .activates _ _ userManager => [userManager]
  | .renews _ => []

-- What the deed of a task uses up.
def usedUp (now : Int) (frame : Frame) (a : Answer) : List Nat :=
  ((deed now frame a).map Deed.managers).getD []

theorem usedUp_owned {now : Int} {frame : Frame} {a : Answer} :
    ∀ m ∈ usedUp now frame a, m ∈ frame.managers := by
  intro m used
  unfold usedUp at used
  cases does : deed now frame a with
  | none => simp [does] at used
  | some d =>
      cases d with
      | renews index => simp [does, Deed.managers] at used
      | activates page discovery userManager =>
          have same : m = userManager := by simpa [does, Deed.managers] using used
          simp [Frame.managers, deed_manager does, same]

theorem usedUp_nodup (now : Int) (frame : Frame) (a : Answer) : (usedUp now frame a).Nodup := by
  unfold usedUp
  cases deed now frame a with
  | none => simp
  | some d => cases d <;> simp [Deed.managers]

theorem apart_resumed {s : State} {spent : List Nat} {p : Nat} {frame next : Frame} {a : Answer}
    {w : World} {started : List Frame} (apart : Apart s spent) (task : s.tasks[p]? = some frame)
    (effect : resume s.world p frame a = some (w, next, started)) :
    Apart ⟨w, s.tasks.set p next ++ started⟩ (spent ++ usedUp s.world.now frame a) := by
  have done := resume_done effect
  have mine := List.mem_of_getElem? task
  have others := managers_started (resumes_refreshes (resume_cases effect))
  refine ⟨?_, ?_, ?_, ?_⟩
  next =>
    refine (apart.exclusive.move next task _ usedUp_owned (usedUp_nodup _ _ _) ?_ ?_).spawnAll
      others
    next => rcases managers_resume effect with none_ | ⟨new, -⟩ <;> simp [*]
    next =>
      intro m member
      rcases managers_resume effect with none_ | ⟨new, -⟩
      · simp [none_] at member
      · obtain rfl : m = s.world.managers.length := by simpa [new] using member
        refine ⟨fun used => ?_, Or.inr ⟨fun used => ?_, fun q other found used => ?_⟩⟩
        · exact Nat.lt_irrefl _ (apart.held frame mine _ (usedUp_owned _ used))
        · exact Nat.lt_irrefl _ (apart.below _ used)
        · exact Nat.lt_irrefl _ (apart.held other (List.mem_of_getElem? found) _ used)
  next =>
    intro session member
    rcases done.used member with ⟨before, old, same⟩ | ⟨page, discovery, does⟩
    · exact List.mem_append_left _ (same ▸ apart.used before old)
    · exact List.mem_append_right _ (by simp [usedUp, does, Deed.managers])
  next =>
    intro m used
    refine Nat.lt_of_lt_of_le ?_ done.managers
    rcases List.mem_append.mp used with old | now
    · exact apart.below m old
    · exact apart.held frame mine m (usedUp_owned m now)
  next =>
    intro other member m used
    rcases List.mem_append.mp member with old | new
    · rcases List.mem_or_eq_of_mem_set old with kept | rfl
      · exact Nat.lt_of_lt_of_le (apart.held other kept m used) done.managers
      · rcases managers_resume effect with none_ | ⟨new, grown⟩
        · simp [none_] at used
        · obtain rfl : m = s.world.managers.length := by simpa [new] using used
          exact grown ▸ Nat.lt_succ_self _
    · simp [others other new] at used

theorem event_managers {w w' : World} {e : Event} {started : List Frame}
    (effect : event w e = some (w', started)) :
    w.managers.length ≤ w'.managers.length ∧
      ∀ session ∈ w'.sessions, ∃ before ∈ w.sessions, session.userManager = before.userManager := by
  have still : ∀ session ∈ w.sessions, ∃ before ∈ w.sessions,
      session.userManager = before.userManager := fun session member => ⟨session, member, rfl⟩
  cases e with
  | openPortal =>
      cases effect
      exact ⟨by simp, still⟩
  | mount | signInCallback =>
      cases effect
      exact ⟨Nat.le_refl _, still⟩
  | customEvent | tick =>
      simp only [event] at effect
      split at effect
      next =>
        cases effect
        exact ⟨Nat.le_refl _, still⟩
      next => contradiction
  | deliver | accessTokenExpiring =>
      obtain ⟨_, _, same⟩ := Option.map_eq_some_iff.mp effect
      cases same
      exact ⟨Nat.le_refl _, still⟩
  | leave page =>
      simp only [event] at effect
      split at effect
      next =>
        cases effect
        refine ⟨Nat.le_refl _, fun session member => ?_⟩
        obtain ⟨before, old, rfl⟩ := List.mem_map.mp member
        refine ⟨before, old, ?_⟩
        split <;> rfl
      next => contradiction

theorem apart_step {s t : State} {act : Action} {spent : List Nat} (apart : Apart s spent)
    (taken : step s act = some t) : ∃ spent', Apart t spent' := by
  cases step_cases taken with
  | answer p a frame next world started task effect =>
      exact ⟨_, apart_resumed apart task effect⟩
  | event e world started effect =>
      obtain ⟨more, same⟩ := event_managers effect
      have others := fun frame member => managers_opened (event_opens effect frame member)
      refine ⟨spent, apart.exclusive.spawnAll others, ?_, ?_, ?_⟩
      next =>
        intro session member
        obtain ⟨before, old, own⟩ := same session member
        exact own ▸ apart.used before old
      next => exact fun m used => Nat.lt_of_lt_of_le (apart.below m used) more
      next =>
        intro frame member m used
        rcases List.mem_append.mp member with old | new
        · exact Nat.lt_of_lt_of_le (apart.held frame old m used) more
        · simp [others frame new] at used

end StreamingPortal.Web.StorageAuth
