import StreamingPortal.Web.Managers

set_option autoImplicit false

/-! # The listeners along whole runs -/

namespace StreamingPortal.Web.StorageAuth

open StreamingPortal.Listeners
open StreamingPortal.Promises

/-- What has been recorded is what the sessions have. -/
structure Watching (x : Watched) : Prop where
  tidy : x.listening.Tidy
  own : ∀ index listener, x.listening.removal index = some listener → ∃ session,
    x.state.world.sessions[index]? = some session ∧ listener.emitter = session.userManager
  attached : ∀ index session, x.state.world.sessions[index]? = some session →
    session.attached = (x.listening.removal index).isSome
  placed : ∀ key index, x.state.world.sessionOf key = some index → ∃ session,
    x.state.world.sessions[index]? = some session ∧ session.page.id = key.1

theorem watching_start (now : Int) (stored : List String) : Watching (watchedStart now stored) where
  tidy := tidy_empty
  own := by
    intro index listener kept
    contradiction
  attached := by
    intro index session found
    cases found
  placed := by
    intro key index found
    contradiction

theorem follows_start (now : Int) (stored : List String) : Follows (watchedStart now stored) where
  held := by
    intro key index found
    contradiction
  left := by
    intro index session found
    cases found

-- `Follows` in terms of the listeners that the sessions can remove.
structure Kept (x : Watched) : Prop where
  held : ∀ key index, x.state.world.sessionOf key = some index → ∃ listener,
    x.listening.removal index = some listener ∧ x.loadedBy index = some listener.emitter
  left : ∀ index session, x.state.world.sessions[index]? = some session →
    session.page ∉ x.state.world.channels →
      x.listening.removal index = none ∧ session.user = none

theorem follows_iff_kept {x : Watched} (tidy : x.listening.Tidy) : Follows x ↔ Kept x := by
  constructor
  next =>
    intro follows
    constructor
    next =>
      intro key index found
      obtain ⟨listener, one, loaded⟩ := follows.held key index found
      exact ⟨listener, tidy.one_iff.mp one, loaded⟩
    next =>
      intro index session found left
      obtain ⟨none_left, absent⟩ := follows.left index session found left
      exact ⟨tidy.none_iff.mp none_left, absent⟩
  next =>
    intro kept
    constructor
    next =>
      intro key index found
      obtain ⟨listener, one, loaded⟩ := kept.held key index found
      exact ⟨listener, tidy.one_iff.mpr one, loaded⟩
    next =>
      intro index session found left
      obtain ⟨removed, absent⟩ := kept.left index session found left
      exact ⟨tidy.none_iff.mpr removed, absent⟩

section Same

variable {x y : Watched} (same : SameSessions x.state.world y.state.world)
variable (listening : y.listening = x.listening)

include same listening

theorem watching_same (inv : Watching x) : Watching y where
  tidy := listening ▸ inv.tidy
  own := by
    rw [listening, same.sessions]
    exact inv.own
  attached := by
    rw [listening, same.sessions]
    exact inv.attached
  placed := by
    rw [same.sessionOf, same.sessions]
    exact inv.placed

theorem kept_same (loadedBy : y.loadedBy = x.loadedBy) : Kept y ↔ Kept x := by
  constructor
  next =>
    intro kept
    refine ⟨?_, ?_⟩
    · have held := kept.held
      rwa [listening, same.sessionOf, loadedBy] at held
    · have left := kept.left
      rwa [listening, same.sessions, same.channels] at left
  next =>
    intro kept
    refine ⟨?_, ?_⟩
    · rw [listening, same.sessionOf, loadedBy]
      exact kept.held
    · rw [listening, same.sessions, same.channels]
      exact kept.left

end Same

/-! ## A session is activated or renewed -/

-- `activate` of a session, with the world it leaves.
def Watched.activated (x : Watched) (index own userManager : Nat) (user : User)
    (tasks : List Frame) : Watched :=
  { x.activate index own userManager with
    state := ⟨setUser x.state.world index user fun _ => true, tasks⟩ }

section Activate

variable {x : Watched} {index : Nat} {session : StorageApiSession}

theorem watching_activated (inv : Watching x)
    (found : x.state.world.sessions[index]? = some session) (userManager : Nat) (user : User)
    (tasks : List Frame) :
    Watching (x.activated index session.userManager userManager user tasks) where
  tidy := tidy_replace inv.tidy index session.userManager
  own := by
    intro j listener removal
    simp only [Watched.activated, Watched.activate, removal_replace, getElem?_setUser] at removal ⊢
    split at removal
    next same =>
      obtain rfl := Option.some.inj removal
      rw [if_pos same, same, found]
      exact ⟨_, rfl, rfl⟩
    next other =>
      rw [if_neg other]
      exact inv.own j listener removal
  attached := by
    intro j other found'
    simp only [Watched.activated, Watched.activate, removal_replace, getElem?_setUser] at found' ⊢
    split at found'
    next same =>
      obtain ⟨_, -, rfl⟩ := Option.map_eq_some_iff.mp found'
      rw [if_pos same]
      rfl
    next different =>
      rw [if_neg different]
      exact inv.attached j other found'
  placed := by
    intro key j mapped
    obtain ⟨other, found', id⟩ := inv.placed key j mapped
    simp only [Watched.activated, getElem?_setUser]
    by_cases same : j = index
    next =>
      rw [if_pos same, found']
      exact ⟨_, rfl, id⟩
    next =>
      rw [if_neg same]
      exact ⟨other, found', id⟩

/-- When all is well with the other sessions, it stays so exactly if the session has the manager
that loaded the user and its page is still there. -/
theorem kept_activated_iff (found : x.state.world.sessions[index]? = some session)
    (mapped : ∃ key, x.state.world.sessionOf key = some index)
    (held : ∀ key j, x.state.world.sessionOf key = some j → j ≠ index → ∃ listener,
      x.listening.removal j = some listener ∧ x.loadedBy j = some listener.emitter)
    (left : ∀ j other, x.state.world.sessions[j]? = some other → j ≠ index →
      other.page ∉ x.state.world.channels → x.listening.removal j = none ∧ other.user = none)
    (userManager : Nat) (user : User) (tasks : List Frame) :
    Kept (x.activated index session.userManager userManager user tasks) ↔
      session.userManager = userManager ∧ session.page ∈ x.state.world.channels := by
  constructor
  next =>
    intro kept
    constructor
    next =>
      obtain ⟨key, mapped⟩ := mapped
      obtain ⟨listener, removal, loaded⟩ := kept.held key index mapped
      simp only [Watched.activated, Watched.activate, removal_replace, if_true,
        Function.update_self, Option.some.injEq] at removal loaded
      rw [loaded, ← removal]
    next =>
      by_contra gone
      have absent := (kept.left index { session with user := some user, attached := true }
        (by simp [Watched.activated, getElem?_setUser, found]) gone).2
      contradiction
  next =>
    rintro ⟨own, here⟩
    constructor
    next =>
      intro key j mapped'
      simp only [Watched.activated, Watched.activate, removal_replace]
      by_cases same : j = index
      next =>
        subst same
        rw [if_pos rfl, Function.update_self]
        exact ⟨_, rfl, congrArg some own.symm⟩
      next =>
        rw [if_neg same, Function.update_of_ne same]
        exact held key j mapped' same
    next =>
      intro j other found' gone
      simp only [Watched.activated, Watched.activate, removal_replace, getElem?_setUser]
        at found' ⊢
      split at found'
      next same =>
        rw [same, found] at found'
        obtain rfl := Option.some.inj found'
        exact absurd here gone
      next different =>
        rw [if_neg different]
        exact left j other found' different gone

end Activate

-- A renewal that ends, with the world it leaves.
def Watched.renewed (x : Watched) (index : Nat) (user : User) (tasks : List Frame) : Watched :=
  { x.record (.renews index) with state := ⟨setUser x.state.world index user id, tasks⟩ }

theorem watching_renewed {x : Watched} (inv : Watching x) (index : Nat) (user : User)
    (tasks : List Frame) : Watching (x.renewed index user tasks) where
  tidy := inv.tidy
  own := by
    intro j listener removal
    obtain ⟨session, found, same⟩ := inv.own j listener removal
    simp only [Watched.renewed, getElem?_setUser]
    split
    next =>
      rw [found]
      exact ⟨_, rfl, same⟩
    next => exact ⟨session, found, same⟩
  attached := by
    intro j session found
    simp only [Watched.renewed, getElem?_setUser] at found
    split at found
    next =>
      obtain ⟨before, found', rfl⟩ := Option.map_eq_some_iff.mp found
      exact inv.attached j before found'
    next => exact inv.attached j session found
  placed := by
    intro key j mapped
    obtain ⟨session, found, id⟩ := inv.placed key j mapped
    simp only [Watched.renewed, getElem?_setUser]
    split
    next =>
      rw [found]
      exact ⟨_, rfl, id⟩
    next => exact ⟨session, found, id⟩

theorem kept_renewed_iff {x : Watched} (inv : Watching x) (kept : Kept x) (index : Nat)
    (user : User) (tasks : List Frame) :
    Kept (x.renewed index user tasks) ↔ Fits x.state.world (.renews index) := by
  constructor
  next =>
    intro after session found
    by_contra gone
    have absent := (after.left index { session with user := some user }
      (by simp [Watched.renewed, getElem?_setUser, Option.mem_def.mp found]) gone).2
    contradiction
  next =>
    intro here
    constructor
    next =>
      intro key j mapped
      obtain ⟨listener, removal, loaded⟩ := kept.held key j mapped
      refine ⟨listener, removal, ?_⟩
      simp only [Watched.renewed, Watched.record]
      by_cases same : j = index
      next =>
        subst same
        obtain ⟨session, found, own⟩ := inv.own j listener removal
        rw [Function.update_self, found, own]
        rfl
      next =>
        rw [Function.update_of_ne same]
        exact loaded
    next =>
      intro j session found gone
      simp only [Watched.renewed, getElem?_setUser] at found
      split at found
      next same =>
        obtain ⟨before, found', rfl⟩ := Option.map_eq_some_iff.mp found
        exact absurd (here before (same ▸ found')) gone
      next => exact kept.left j session found gone

/-! ## A page is left -/

theorem mem_sessionsOf {w : World} {page : Page} {index : Nat} :
    index ∈ sessionsOf w page ↔
      ∃ session, w.sessions[index]? = some session ∧ session.page = page := by
  simp only [sessionsOf, List.mem_filter, List.mem_range, Option.any_eq_true,
    decide_eq_true_eq]
  constructor
  next => exact fun member => member.2
  next =>
    rintro ⟨session, found, own⟩
    exact ⟨(List.getElem?_eq_some_iff.mp found).1, session, found, own⟩

def Watched.left (x : Watched) (page : Page) (tasks : List Frame) : Watched :=
  { x with
    listening := x.listening.disposeAll (sessionsOf x.state.world page)
    state := ⟨dispose x.state.world page, tasks⟩ }

theorem getElem?_dispose (w : World) (page : Page) (j : Nat) :
    (dispose w page).sessions[j]? = (w.sessions[j]?).map fun session =>
      if session.page = page then { session with user := none, attached := false }
      else session :=
  List.getElem?_map

section Left

variable {x : Watched} (page : Page) (tasks : List Frame)

theorem watching_left (inv : Watching x) : Watching (x.left page tasks) where
  tidy := tidy_disposeAll inv.tidy _
  own := by
    intro j listener removal
    simp only [Watched.left, removal_disposeAll, getElem?_dispose] at removal ⊢
    split at removal
    next => contradiction
    next =>
      obtain ⟨session, found, own⟩ := inv.own j listener removal
      rw [found]
      refine ⟨_, rfl, ?_⟩
      dsimp only
      split <;> exact own
  attached := by
    intro j session found
    simp only [Watched.left, removal_disposeAll, getElem?_dispose] at found ⊢
    obtain ⟨before, found', rfl⟩ := Option.map_eq_some_iff.mp found
    by_cases own : before.page = page
    next =>
      rw [if_pos own, if_pos (mem_sessionsOf.mpr ⟨before, found', own⟩)]
      rfl
    next =>
      have other : j ∉ sessionsOf x.state.world page := by
        intro member
        obtain ⟨again, found'', same⟩ := mem_sessionsOf.mp member
        obtain rfl := Option.some.inj (found'.symm.trans found'')
        exact own same
      rw [if_neg own, if_neg other]
      exact inv.attached j before found'
  placed := by
    intro key j mapped
    simp only [Watched.left, dispose] at mapped
    split at mapped
    next => contradiction
    next =>
      obtain ⟨session, found, id⟩ := inv.placed key j mapped
      simp only [Watched.left, getElem?_dispose, found]
      refine ⟨_, rfl, ?_⟩
      dsimp only
      split <;> exact id

theorem kept_left (inv : Watching x) (kept : Kept x) : Kept (x.left page tasks) where
  held := by
    intro key j mapped
    simp only [Watched.left, dispose] at mapped
    split at mapped
    next => contradiction
    next other =>
      have elsewhere : j ∉ sessionsOf x.state.world page := by
        intro member
        obtain ⟨session, found, own⟩ := mem_sessionsOf.mp member
        obtain ⟨session', found', id⟩ := inv.placed key j mapped
        obtain rfl := Option.some.inj (found.symm.trans found')
        exact other (id.symm.trans (congrArg Page.id own))
      simp only [Watched.left, removal_disposeAll, if_neg elsewhere]
      exact kept.held key j mapped
  left := by
    intro j session found gone
    simp only [Watched.left, removal_disposeAll, getElem?_dispose] at found ⊢
    obtain ⟨before, found', rfl⟩ := Option.map_eq_some_iff.mp found
    by_cases own : before.page = page
    next =>
      rw [if_pos own, if_pos (mem_sessionsOf.mpr ⟨before, found', own⟩)]
      exact ⟨rfl, rfl⟩
    next =>
      rw [if_neg own] at gone ⊢
      have out : before.page ∉ x.state.world.channels := by
        intro inside
        exact gone (List.mem_filter.mpr ⟨inside, by simpa using own⟩)
      obtain ⟨removed, absent⟩ := kept.left j before found' out
      refine ⟨?_, absent⟩
      split
      next => rfl
      next => exact removed

end Left

/-! ## Steps -/

-- `y` is `x` after a deed, in a world that the deed makes.
structure After (x : Watched) (d : Option Deed) (y : Watched) : Prop where
  done : Done x.state.world d y.state.world
  listening : y.listening = (d.elim x x.record).listening
  loadedBy : y.loadedBy = (d.elim x x.record).loadedBy

theorem removal_beyond {x : Watched} (inv : Watching x) :
    x.listening.removal x.state.world.sessions.length = none := by
  cases removal : x.listening.removal x.state.world.sessions.length with
  | none => rfl
  | some listener =>
      obtain ⟨session, found, -⟩ := inv.own _ listener removal
      exact absurd (List.getElem?_eq_some_iff.mp found).1 (Nat.lt_irrefl _)

section Added

variable {x : Watched} (page : Page) (discovery : String) (userManager : Nat)

-- The map has the new session, which is not yet activated.
def Watched.added (x : Watched) (page : Page) (discovery : String) (userManager : Nat) : Watched :=
  { x with state := ⟨addSession x.state.world page discovery userManager, []⟩ }

theorem getElem?_added (w : World) (j : Nat) :
    (addSession w page discovery userManager).sessions[j]? =
      if j = w.sessions.length then some ⟨page, discovery, userManager, none, false⟩
      else w.sessions[j]? := by
  simp only [addSession, List.getElem?_append, List.getElem?_singleton]
  by_cases inside : j < w.sessions.length
  next => rw [if_pos inside, if_neg (by omega)]
  next =>
    rw [if_neg inside]
    by_cases same : j = w.sessions.length
    next => rw [if_pos (by omega), if_pos same]
    next => rw [if_neg (by omega), if_neg same, List.getElem?_eq_none (by omega)]

theorem watching_added (inv : Watching x) :
    Watching (x.added page discovery userManager) where
  tidy := inv.tidy
  own := by
    intro j listener removal
    obtain ⟨session, found, own⟩ := inv.own j listener removal
    have inside := (List.getElem?_eq_some_iff.mp found).1
    refine ⟨session, ?_, own⟩
    simp only [Watched.added, getElem?_added, if_neg (Nat.ne_of_lt inside), found]
  attached := by
    intro j session found
    simp only [Watched.added, getElem?_added] at found ⊢
    split at found
    next same =>
      obtain rfl := Option.some.inj found
      rw [same, removal_beyond inv]
      rfl
    next => exact inv.attached j session found
  placed := by
    intro key j mapped
    simp only [Watched.added, getElem?_added]
    by_cases here : key = (page.id, discovery)
    next =>
      subst here
      have last : x.state.world.sessions.length = j := by
        simpa [Watched.added, addSession] using mapped
      rw [if_pos last.symm]
      exact ⟨_, rfl, rfl⟩
    next =>
      have old : x.state.world.sessionOf key = some j := by
        simpa [Watched.added, addSession, here] using mapped
      obtain ⟨session, found, id⟩ := inv.placed key j old
      have inside := (List.getElem?_eq_some_iff.mp found).1
      rw [if_neg (Nat.ne_of_lt inside)]
      exact ⟨session, found, id⟩

end Added

section Deeds

variable {x : Watched} {page : Page} {discovery : String}

theorem kept_known_iff {index : Nat} {session : StorageApiSession} {userManager : Nat}
    (kept : Kept x) (mapped : x.state.world.sessionOf (page.id, discovery) = some index)
    (found : x.state.world.sessions[index]? = some session)
    (other : session.userManager ≠ userManager) (user : User) :
    Kept (x.activated index session.userManager userManager user []) ↔
      Fits x.state.world (.activates page discovery userManager) := by
  rw [kept_activated_iff found ⟨_, mapped⟩ (fun key j mapped' _ => kept.held key j mapped')
    (fun j other found' _ => kept.left j other found')]
  simp [Fits, mapped, other]

theorem kept_new_iff (kept : Kept x)
    (mapped : x.state.world.sessionOf (page.id, discovery) = none) (userManager : Nat)
    (user : User) :
    Kept ((x.added page discovery userManager).activated x.state.world.sessions.length userManager
      userManager user []) ↔ Fits x.state.world (.activates page discovery userManager) := by
  have found : (x.added page discovery userManager).state.world.sessions[
      x.state.world.sessions.length]? = some ⟨page, discovery, userManager, none, false⟩ := by
    simp only [Watched.added, getElem?_added, if_true]
  rw [kept_activated_iff found ⟨(page.id, discovery), by simp [Watched.added, addSession]⟩]
  next => simp [Fits, mapped, Watched.added, addSession]
  next =>
    intro key j mapped' other
    refine kept.held key j ?_
    by_cases here : key = (page.id, discovery)
    next =>
      subst here
      have last : x.state.world.sessions.length = j := by
        simpa [Watched.added, addSession] using mapped'
      exact absurd last.symm other
    next => simpa [Watched.added, addSession, here] using mapped'
  next =>
    intro j other found' different gone
    simp only [Watched.added, getElem?_added, if_neg different] at found'
    exact kept.left j other found' gone

theorem kept_after_iff {y : Watched} {d : Option Deed} (inv : Watching x)
    (after : After x d y) :
    Watching y ∧ (Kept x →
      (∀ page discovery userManager, d = some (.activates page discovery userManager) →
        ∀ session ∈ x.state.world.sessions, session.userManager ≠ userManager) →
      (Kept y ↔ ∀ deed ∈ d, Fits x.state.world deed)) := by
  obtain ⟨done, listening, loadedBy⟩ := after
  -- Only the sessions, the map and the channels of the base state matter.
  have transfer (base : Watched) (same : SameSessions base.state.world y.state.world)
      (listening : y.listening = base.listening) (loadedBy : y.loadedBy = base.loadedBy)
      (watching : Watching base) {before apart fits : Prop}
      (iff : before → apart → (Kept base ↔ fits)) :
      Watching y ∧ (before → apart → (Kept y ↔ fits)) :=
    ⟨watching_same same listening watching, fun kept other =>
      (kept_same same listening loadedBy).trans (iff kept other)⟩
  cases done with
  | nothing w' same =>
      exact transfer x same listening loadedBy inv fun kept _ => iff_of_true kept (by simp)
  | renewed index user w' same =>
      refine transfer (x.renewed index user []) same listening loadedBy
        (watching_renewed inv index user []) fun kept _ => ?_
      simpa using kept_renewed_iff inv kept index user []
  | activated page discovery userManager user w' same =>
      cases mapped : x.state.world.sessionOf (page.id, discovery) with
      | some index =>
          obtain ⟨session, found, -⟩ := inv.placed _ index mapped
          rw [activateSession_known mapped] at same
          simp only [Option.elim_some, Watched.record, mapped, found] at listening loadedBy
          refine transfer (x.activated index session.userManager userManager user [])
            ((sameSessions_activate _ index page discovery user).trans same) listening loadedBy
            (watching_activated inv found userManager user []) fun kept other => ?_
          have apart := other page discovery userManager rfl session (List.mem_of_getElem? found)
          simpa using kept_known_iff kept mapped found apart user
      | none =>
          rw [activateSession_new mapped] at same
          simp only [Option.elim_some, Watched.record, mapped] at listening loadedBy
          have found : (x.added page discovery userManager).state.world.sessions[
              x.state.world.sessions.length]? =
                some ⟨page, discovery, userManager, none, false⟩ := by
            simp only [Watched.added, getElem?_added, if_true]
          refine transfer ((x.added page discovery userManager).activated
              x.state.world.sessions.length userManager userManager user [])
            ((sameSessions_activate _ _ page discovery user).trans same) listening loadedBy
            (watching_activated (watching_added page discovery userManager inv) found
              userManager user []) fun kept _ => ?_
          simpa using kept_new_iff kept mapped userManager user

end Deeds

/-- A step keeps the listeners where they belong exactly if what it does to the sessions fits. -/
theorem watched_step_iff {x y : Watched} {act : Action} (inv : Watching x)
    (watched : watchedStep x act = some y) :
    Watching y ∧ (Kept x → ∀ spent, Apart x.state spent → (Kept y ↔ Fitting x.state act)) := by
  obtain ⟨s, taken, rfl⟩ := Option.map_eq_some_iff.mp watched
  cases step_cases taken with
  | answer p a frame next world started task effect =>
      have after : After x (deed x.state.world.now frame a)
          { x.watch (.answer p a) with state := ⟨world, x.state.tasks.set p next ++ started⟩ } := by
        refine ⟨resume_done effect, ?_, ?_⟩ <;>
          simp only [Watched.watch, task, Option.bind_some] <;>
          cases deed x.state.world.now frame a <;> rfl
      obtain ⟨watching, iff⟩ := kept_after_iff inv after
      refine ⟨watching, fun kept spent apart => ?_⟩
      simpa [Fitting, task] using iff kept
        fun page discovery userManager does session member => apart.other task does member
  | event e world started effect =>
      have others (same : SameSessions x.state.world world) (idle : x.watch (.event e) = x) :
          Watching { x.watch (.event e) with state := ⟨world, x.state.tasks ++ started⟩ } ∧
            (Kept x → ∀ spent, Apart x.state spent →
              (Kept { x.watch (.event e) with state := ⟨world, x.state.tasks ++ started⟩ } ↔
                Fitting x.state (.event e))) := by
        rw [idle]
        let y : Watched := { x with state := ⟨world, x.state.tasks ++ started⟩ }
        have unchanged : Kept y ↔ Kept x := kept_same same rfl rfl
        exact ⟨watching_same same rfl inv, fun kept _ _ =>
          unchanged.trans (iff_of_true kept trivial)⟩
      have effect : StorageAuth.event x.state.world e = some (world, started) := effect
      cases e with
      | openPortal =>
          cases effect
          exact others ⟨rfl, rfl, rfl, by simp⟩ rfl
      | signInCallback =>
          cases effect
          exact others (.refl _) rfl
      | customEvent | tick =>
          simp only [event] at effect
          split at effect
          next =>
            cases effect
            exact others ⟨rfl, rfl, rfl, Nat.le_refl _⟩ rfl
          next => contradiction
      | deliver | accessTokenExpiring =>
          obtain ⟨_, _, same⟩ := Option.map_eq_some_iff.mp effect
          cases same
          exact others ⟨rfl, rfl, rfl, Nat.le_refl _⟩ rfl
      | mount stream =>
          cases effect
          refine ⟨⟨inv.tidy, inv.own, inv.attached, inv.placed⟩, fun kept _ _ =>
            iff_of_true ?_ trivial⟩
          refine ⟨kept.held, fun index session found gone => kept.left index session found ?_⟩
          exact fun inside => gone (List.mem_append_left _ inside)
      | leave page =>
          simp only [event] at effect
          split at effect
          next =>
            cases effect
            exact ⟨watching_left page _ inv, fun kept _ _ =>
              iff_of_true (kept_left page _ inv kept) trivial⟩
          next => contradiction

/-- Recording what the sessions do leaves the runs as they are. -/
theorem watched_state (x : Watched) (acts : List Action) :
    (Runs.run watchedStep x acts).map Watched.state = Runs.run step x.state acts := by
  induction acts generalizing x with
  | nil => rfl
  | cons act acts ih =>
      simp only [Runs.run, watchedStep]
      cases step x.state act with
      | none => rfl
      | some s => exact ih _

/-- A session that is attached has one listener, on its own manager, and no other has any. -/
theorem watched_attached {now : Int} {stored : List String} {acts : List Action} {x : Watched}
    (reached : Runs.run watchedStep (watchedStart now stored) acts = some x) {index : Nat}
    {session : StorageApiSession} (found : x.state.world.sessions[index]? = some session) :
    (∃ serial, x.listening.listenersOf index = [⟨session.userManager, index, serial⟩]) ∧
        session.attached = true ∨
      x.listening.listenersOf index = [] ∧ session.attached = false := by
  have inv : Watching x := Runs.invariant Watching
    (fun x act y inv _ taken => (watched_step_iff inv taken).1) (watching_start now stored)
    (Runs.along_trivial acts) reached
  have attached := inv.attached index session found
  cases removal : x.listening.removal index with
  | none => exact Or.inr ⟨inv.tidy.none_iff.mpr removal, by rw [attached, removal]; rfl⟩
  | some listener =>
      obtain ⟨session', found', own⟩ := inv.own index listener removal
      obtain rfl := Option.some.inj (found.symm.trans found')
      have owner := inv.tidy.owner removal
      refine Or.inl ⟨⟨listener.serial, inv.tidy.one_iff.mpr ?_⟩, by rw [attached, removal]; rfl⟩
      rw [removal, ← own, ← owner]

/-- In every state reached the listeners follow the users, exactly in the runs in which no load or
sign-in ends for a discovery URL that has a session already, and none of them and no renewal ends
after its page has been left. -/
theorem listeners_follow_iff (now : Int) (stored : List String) (acts : List Action) :
    (∀ done rest x, acts = done ++ rest →
        Runs.run watchedStep (watchedStart now stored) done = some x → Follows x) ↔
      Runs.Along watchedStep (fun x act _ => Fitting x.state act) (watchedStart now stored)
        acts := by
  rw [← Runs.along_iff_reached Follows (follows_start now stored)]
  refine Runs.along_iff
    (fun x => Watching x ∧ Follows x ∧ ∃ spent, Apart x.state spent) ?_ ?_
    ⟨watching_start now stored, follows_start now stored, [], apart_start now stored⟩
  next =>
    rintro x act y ⟨inv, follows, spent, apart⟩ fits taken
    obtain ⟨watching, iff⟩ := watched_step_iff inv taken
    have kept := (follows_iff_kept inv.tidy).mp follows
    obtain ⟨s, step, rfl⟩ := Option.map_eq_some_iff.mp taken
    exact ⟨watching, (follows_iff_kept watching.tidy).mpr ((iff kept spent apart).mpr fits),
      apart_step apart step⟩
  next =>
    rintro x act y ⟨inv, follows, spent, apart⟩ taken
    obtain ⟨watching, iff⟩ := watched_step_iff inv taken
    have kept := (follows_iff_kept inv.tidy).mp follows
    exact (follows_iff_kept watching.tidy).trans (iff kept spent apart)

-- The stored URL is loaded, and the application asks for it again.
def repeatedSignIn : List Action :=
  [.event (.mount true), .answer 0 .resolved, .answer 0 (.user (some ⟨"first token", none⟩)),
    .event (.customEvent ⟨0, true⟩ .addNewStorageUrl "https://usd.example"),
    .answer 2 .resolved, .answer 2 (.user (some ⟨"second token", none⟩))]

theorem listener_left_behind : ∃ x,
    Runs.run watchedStep (watchedStart 0 ["https://usd.example"]) repeatedSignIn = some x ∧
      ¬ Follows x := by
  have ended : (Runs.run watchedStep (watchedStart 0 ["https://usd.example"]) repeatedSignIn).map
      (fun x => (x.state.world.sessionOf (0, "https://usd.example"), x.listening.listenersOf 0,
        x.loadedBy 0)) = some (some 0, [⟨0, 0, 1⟩], some 1) := by decide
  obtain ⟨x, reached, found⟩ := Option.map_eq_some_iff.mp ended
  refine ⟨x, reached, fun follows => ?_⟩
  obtain ⟨held, rest⟩ := Prod.mk.inj found
  obtain ⟨one, loaded⟩ := Prod.mk.inj rest
  obtain ⟨listener, only, own⟩ := follows.held _ 0 held
  rw [one] at only
  rw [loaded] at own
  obtain rfl : (⟨0, 0, 1⟩ : Listener Nat Nat) = listener := by simpa using only
  exact absurd own (by decide)

end StreamingPortal.Web.StorageAuth
