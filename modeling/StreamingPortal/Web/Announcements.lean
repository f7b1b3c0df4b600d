import Mathlib.Data.List.Nodup
import Mathlib.Data.List.Perm.Basic
import StreamingPortal.Shared.Tasks
import StreamingPortal.Web.StorageSteps

set_option autoImplicit false

/-!
# The messages between the tabs

What is posted on the channel, by which task, and that nothing else ever is.
-/

namespace StreamingPortal.Web.StorageAuth

open StreamingPortal.Promises

-- What a task that has ended was to announce: its sign-in, or a renewed token.
def Frame.message? : Frame → Option BroadcastMessage
  | .handled request true => some (.authenticated request.discovery)
  | .refreshed _ discovery .renewed => some (.renewal discovery)
  | _ => none

-- Each task has posted what it was to announce, and nothing else.
def Once (s : State) : Prop :=
  ∀ p, (s.world.posted.filter fun post => post.1 = p).map Prod.snd =
    ((s.tasks[p]?).bind Frame.message?).toList

/-- Sign-ins and renewals that are over have posted one message each, and nothing else has. -/
structure Announced (s : State) : Prop where
  once : Once s
  total : s.world.posted.length = s.tasks.countP fun frame => frame.message?.isSome

-- The stream takes the renewed token, and the channel of the page that posts is open.
def Hears (w : World) : Frame → Answer → Prop
  | .refreshing _ _ .renewed, .failed _ => False
  | .refreshing page _ .renewed, .resolved => page ∈ w.channels
  | .signInPopup request _, .user (some _) => request.page ∈ w.channels
  | _, _ => True

def Heard (s : State) : Action → Prop
  | .answer p a => ∀ frame, s.tasks[p]? = some frame → Hears s.world frame a
  | .event _ => True

/-! ## What is posted -/

-- The message, while the channel of the page is open.
def posting (w : World) (page : Page) (message : BroadcastMessage) : List BroadcastMessage :=
  if page ∈ w.channels then [message] else []

theorem postMessage_posted (w : World) (p : Nat) (page : Page) (message : BroadcastMessage) :
    (postMessage w p page message).posted =
      w.posted ++ (posting w page message).map (Prod.mk p) := by
  unfold postMessage posting
  split
  next => rfl
  next => simp

theorem renews_posted {w w' : World} {p : Nat} {call : Call} {stage : Stage} {a : Answer}
    {next : Frame} {started : List Frame} (renews : Renews w p call stage a w' next started) :
    w'.posted = w.posted := by
  cases renews with
  | granted | absent | raised | succeeded => rfl
  | refused | unlocked => exact (extends_finish w call _).posted
  | renewed user => exact (extends_renewed w call user).posted
  | cooled => exact conclude_posted w call _ _ _
  | fell a w' started ended =>
      exact (conclude_posted w' call _ _ _).trans (extends_onFailure ended).posted
  | fellAgain a w' started error ended => exact (extends_onFailure ended).posted
  | recovered again a w' started error ended =>
      exact (conclude_posted w' call _ _ _).trans (extends_onFailure ended).posted

theorem finish_message (w : World) (call : Call) (error : Option String) :
    (finish w call error).2.message? = none := by
  unfold finish
  split <;> rfl

theorem renews_message {w w' : World} {p : Nat} {call : Call} {stage : Stage} {a : Answer}
    {next : Frame} {started : List Frame} (renews : Renews w p call stage a w' next started) :
    next.message? = none := by
  cases renews with
  | granted | renewed | absent | raised | succeeded | fellAgain => rfl
  | refused | unlocked => exact finish_message w call _
  | cooled => exact finish_message (release w call _) call _
  | fell a w' started ended => exact finish_message (release w' call _) call _
  | recovered again a w' started error ended => exact finish_message (release w' call _) call _

-- The resumed function is about to post, or should be.
def Frame.posts : Frame → Answer → Bool
  | .signInPopup _ _, .user (some _) => true
  | .refreshing _ _ .renewed, _ => true
  | _, _ => false

/-- A step posts what the task announces, or loses it, or there is nothing to post. -/
inductive Posts (w w' : World) (p : Nat) : Frame → Answer → Frame → Prop
  | nothing (frame : Frame) (a : Answer) (next : Frame) (quiet : frame.posts a = false)
      (silent : next.message? = none) (posted : w'.posted = w.posted) :
      Posts w w' p frame a next
  | signedIn (request : Request) (m : Nat) (user : User)
      (posted : w'.posted = w.posted ++
        (posting w request.page (.authenticated request.discovery)).map (Prod.mk p)) :
      Posts w w' p (.signInPopup request m) (.user (some user)) (.handled request true)
  | renewed (page : Page) (discovery : String)
      (posted : w'.posted = w.posted ++ (posting w page (.renewal discovery)).map (Prod.mk p)) :
      Posts w w' p (.refreshing page discovery .renewed) .resolved
        (.refreshed page discovery .renewed)
  | lost (page : Page) (discovery error : String) (posted : w'.posted = w.posted) :
      Posts w w' p (.refreshing page discovery .renewed) (.failed error)
        (.refreshed page discovery .renewed)

theorem aside_posts_nothing {frame : Frame} (aside : frame.aside = true) (a : Answer) :
    frame.posts a = false := by
  cases frame with
  | loadManager | loadUser | library | callback | gone => rfl
  | _ => cases aside

theorem resumes_posts {w w' : World} {p : Nat} {frame next : Frame} {a : Answer}
    {started : List Frame} (resumes : Resumes w p frame a w' next started) :
    Posts w w' p frame a next := by
  cases resumes with
  | asked request => exact .nothing _ _ _ rfl rfl rfl
  | answered request a => exact .nothing _ _ _ rfl rfl rfl
  | signedIn request userManager user =>
      apply Posts.signedIn request userManager user
      have same := extends_activated w request user userManager
      rw [signIn_world, postMessage_posted, same.posted, posting, posting, same.channels]
  | rejected request frame error waits =>
      have quiet : frame.posts (.failed error) = false := signingIn_elim waits rfl fun _ => rfl
      exact .nothing _ _ _ quiet rfl rfl
  | heard page discovery source =>
      cases source with
      | activated => exact .nothing _ _ _ rfl rfl rfl
      | renewed => exact .renewed page discovery (postMessage_posted w p page _)
  | unheard page discovery source error =>
      cases source with
      | activated => exact .nothing _ _ _ rfl rfl rfl
      | renewed => exact .lost page discovery error rfl
  | renewal call stage a w' next started effect =>
      have renews := renewal_cases effect
      exact .nothing _ _ _ rfl (renews_message renews) (renews_posted renews)
  | aside frame a w' next started before after quiet others =>
      have silent : next.message? = none := aside_elim after rfl fun _ _ _ => rfl
      exact .nothing _ _ _ (aside_posts_nothing before a) silent quiet.posted

theorem resumed_silent {w w' : World} {p : Nat} {frame next : Frame} {a : Answer}
    {started : List Frame} (resumes : Resumes w p frame a w' next started) :
    frame.message? = none := by
  cases resumes with
  | rejected request frame error waits =>
      exact signingIn_elim waits rfl fun _ => rfl
  | aside frame a w' next started before =>
      cases frame with
      | loadManager | loadUser | library | callback | gone => rfl
      | _ => cases before
  | _ => rfl

/-! ## The balance -/

theorem filter_length_eq_count (posted : List (Nat × BroadcastMessage)) (p : Nat) :
    (posted.filter fun post => post.1 = p).length = (posted.map Prod.fst).count p := by
  rw [List.count, List.countP_map, List.countP_eq_length_filter]
  rfl

-- The tasks that have announced something by their end.
def announcing (s : State) : List Nat :=
  (List.range s.tasks.length).filter fun p => s.tasks[p]?.any fun frame => frame.message?.isSome

theorem mem_announcing {s : State} {p : Nat} :
    p ∈ announcing s ↔ ((s.tasks[p]?).bind Frame.message?).isSome = true := by
  unfold announcing
  rw [List.mem_filter, List.mem_range]
  cases task : s.tasks[p]? with
  | none => simp
  | some frame =>
      have inside : p < s.tasks.length := (List.getElem?_eq_some_iff.mp task).1
      simp [inside]

theorem count_announcing (s : State) (p : Nat) :
    (announcing s).count p = ((s.tasks[p]?).bind Frame.message?).toList.length := by
  have nodup : (announcing s).Nodup := List.nodup_range.filter _
  cases message : (s.tasks[p]?).bind Frame.message? with
  | none =>
      apply List.count_eq_zero.mpr
      simp [mem_announcing, message]
  | some m =>
      apply List.count_eq_one_of_mem nodup
      simp [mem_announcing, message]

-- With one message each, there are as many messages as tasks that announce one.
theorem Once.total {s : State} (once : Once s) :
    s.world.posted.length = s.tasks.countP fun frame => frame.message?.isSome := by
  have same : (s.world.posted.map Prod.fst).Perm (announcing s) := by
    rw [List.perm_iff_count]
    intro p
    have one := congrArg List.length (once p)
    rw [List.length_map, filter_length_eq_count] at one
    rw [one, count_announcing]
  have length := same.length_eq
  rw [List.length_map, announcing, ← List.countP_eq_length_filter] at length
  rw [length]
  exact (Tasks.countP_eq_range _ _).symm

theorem Once.resumed_iff {s : State} (once : Once s) {p : Nat} {frame next : Frame}
    {w' : World} {started : List Frame} {posts : List BroadcastMessage}
    (task : s.tasks[p]? = some frame) (silent : frame.message? = none)
    (posted : w'.posted = s.world.posted ++ posts.map (Prod.mk p))
    (quiet : ∀ other ∈ started, other.message? = none) :
    Once ⟨w', s.tasks.set p next ++ started⟩ ↔ posts = next.message?.toList := by
  have own : (posts.map (Prod.mk p)).filter (fun post => post.1 = p) = posts.map (Prod.mk p) := by
    rw [List.filter_eq_self]
    intro post member
    obtain ⟨message, _, rfl⟩ := List.mem_map.mp member
    simp
  have before := once p
  rw [task, Option.bind_some, silent] at before
  have here : (w'.posted.filter fun post => post.1 = p).map Prod.snd = posts := by
    rw [posted, List.filter_append, List.map_append, before, own, List.map_map]
    exact List.map_id posts
  constructor
  next =>
    intro after
    have balance := after p
    rw [here, resumed_self task] at balance
    exact balance
  next =>
    intro balance q
    by_cases same : q = p
    next =>
      subst same
      rw [here, resumed_self task]
      exact balance
    next =>
      have others : (posts.map (Prod.mk p)).filter (fun post => post.1 = q) = [] := by
        rw [List.filter_eq_nil_iff]
        intro post member
        obtain ⟨message, _, rfl⟩ := List.mem_map.mp member
        simpa using Ne.symm same
      have tasks : ((s.tasks.set p next ++ started)[q]?).bind Frame.message? =
          (s.tasks[q]?).bind Frame.message? := by
        cases old : s.tasks[q]? with
        | some other => rw [resumed_other same old]
        | none =>
            cases found : (s.tasks.set p next ++ started)[q]? with
            | none => rfl
            | some other =>
                cases resumed_cases found with
                | inl here => exact absurd here.1 same
                | inr rest =>
                    cases rest with
                    | inl stored =>
                        rw [old] at stored
                        cases stored.2
                    | inr new => exact quiet other new.2
      rw [posted, List.filter_append, others, List.append_nil, once q, tasks]

theorem Once.started {s : State} (once : Once s) {w' : World} {started : List Frame}
    (posted : w'.posted = s.world.posted) (quiet : ∀ other ∈ started, other.message? = none) :
    Once ⟨w', s.tasks ++ started⟩ := by
  intro q
  have tasks : ((s.tasks ++ started)[q]?).bind Frame.message? =
      (s.tasks[q]?).bind Frame.message? := by
    cases old : s.tasks[q]? with
    | some other => rw [started_old old]
    | none =>
        cases found : (s.tasks ++ started)[q]? with
        | none => rfl
        | some other =>
            cases started_cases found with
            | inl stored =>
                rw [old] at stored
                cases stored
            | inr new => exact quiet other new.2
  rw [posted, once q, tasks]

theorem refreshes_silent {started : List Frame} (refreshes : Refreshes started) :
    ∀ frame ∈ started, frame.message? = none := by
  intro frame member
  obtain ⟨_, _, _, rfl⟩ := refreshes frame member
  rfl

theorem opens_silent {w : World} {e : Event} {frame : Frame} (opens : Opens w e frame) :
    frame.message? = none := by
  cases opens <;> rfl

theorem posting_eq_iff {w : World} {page : Page} {message : BroadcastMessage} :
    posting w page message = [message] ↔ page ∈ w.channels := by
  unfold posting
  split
  next member => simp [member]
  next missing => simp [missing]

theorem hears_of_quiet {frame : Frame} {a : Answer} (quiet : frame.posts a = false) (w : World) :
    Hears w frame a := by
  unfold Hears
  split
  next => cases quiet
  next => cases quiet
  next => cases quiet
  next => trivial

theorem heard_answer {s : State} {p : Nat} {frame : Frame} (task : s.tasks[p]? = some frame)
    (a : Answer) : Heard s (.answer p a) ↔ Hears s.world frame a := by
  constructor
  next => exact fun heard => heard frame task
  next =>
    intro hears other found
    rw [task] at found
    cases found
    exact hears

-- A step keeps the balance exactly when it is heard.
theorem once_iff_heard {s t : State} {act : Action} (once : Once s)
    (taken : StorageAuth.step s act = some t) : Heard s act ↔ Once t := by
  cases step_cases taken with
  | event e world started effect =>
      constructor
      next =>
        intro _
        apply once.started (event_still effect).posted
        intro frame member
        exact opens_silent (event_opens effect frame member)
      next => exact fun _ => trivial
  | answer p a frame next world started task effect =>
      have resumes := resume_cases effect
      have quiet := refreshes_silent (resumes_refreshes resumes)
      have silent := resumed_silent resumes
      rw [heard_answer task a]
      cases resumes_posts resumes with
      | nothing _ _ _ idle last posted =>
          have none_posted : world.posted =
              s.world.posted ++ ([] : List BroadcastMessage).map (Prod.mk p) := by
            rw [posted, List.map_nil, List.append_nil]
          rw [once.resumed_iff task silent none_posted quiet, last]
          exact ⟨fun _ => rfl, fun _ => hears_of_quiet idle s.world⟩
      | signedIn request m user posted =>
          rw [once.resumed_iff task silent posted quiet]
          exact posting_eq_iff.symm
      | renewed page discovery posted =>
          rw [once.resumed_iff task silent posted quiet]
          exact posting_eq_iff.symm
      | lost page discovery error posted =>
          have none_posted : world.posted =
              s.world.posted ++ ([] : List BroadcastMessage).map (Prod.mk p) := by
            rw [posted, List.map_nil, List.append_nil]
          rw [once.resumed_iff task silent none_posted quiet]
          constructor
          next => exact False.elim
          next => exact fun same => by cases same

theorem announced_iff_once (s : State) : Announced s ↔ Once s :=
  ⟨fun announced => announced.once, fun once => ⟨once, once.total⟩⟩

theorem once_start (now : Int) (stored : List String) : Once (start now stored) := fun _ => rfl

/-- Each sign-in and each renewal is announced once, and nothing else is, exactly in the runs whose
steps are heard. -/
theorem announced_iff (now : Int) (stored : List String) (acts : List Action) :
    Runs.Along step (fun _ _ t => Announced t) (start now stored) acts ↔
      Runs.Along step (fun s act _ => Heard s act) (start now stored) acts := by
  apply Iff.symm
  apply Runs.along_iff Once
  next => exact fun s act t _ announced _ => announced.once
  next =>
    intro s act t once taken
    rw [announced_iff_once]
    exact once_iff_heard once taken
  next => exact once_start now stored

-- A token is renewed on request, and the stream refuses it.
def refusedTokenRun : List Action :=
  [.event (.mount true), .event (.customEvent ⟨0, true⟩ .addNewStorageUrl "https://usd.example"),
    .answer 0 .resolved, .answer 0 (.user (some ⟨"first token", none⟩)),
    .event (.customEvent ⟨0, true⟩ .requestTokenRefresh "https://usd.example"),
    .answer 2 .granted, .answer 2 (.user (some ⟨"second token", none⟩)),
    .answer 3 (.failed "The stream is not connected")]

theorem refused_token_unannounced :
    ¬ Runs.Along step (fun _ _ t => Announced t) (start 0 []) refusedTokenRun := by
  intro along
  have ended : (Runs.run step (start 0 []) refusedTokenRun).map
      (fun t => (t.world.posted, t.tasks[3]?)) =
      some ([(0, .authenticated "https://usd.example")],
        some (.refreshed ⟨0, true⟩ "https://usd.example" .renewed)) := by decide
  obtain ⟨t, reached, found⟩ := Option.map_eq_some_iff.mp ended
  have announced : Announced t :=
    (Runs.along_iff_reached Announced ((announced_iff_once _).mpr (once_start 0 []))).mp along
      refusedTokenRun [] t (List.append_nil refusedTokenRun).symm reached
  have posted : t.world.posted = [(0, .authenticated "https://usd.example")] :=
    congrArg Prod.fst found
  have task : t.tasks[3]? = some (.refreshed ⟨0, true⟩ "https://usd.example" .renewed) :=
    congrArg Prod.snd found
  have balance := announced.once 3
  rw [posted, task] at balance
  exact absurd balance (by decide)

end StreamingPortal.Web.StorageAuth
