import StreamingPortal.Web.Apps

set_option autoImplicit false

/-!
# The applications that grouping keeps

The loop of `getStreamingApps` never takes an application off a page exactly when every title that
comes back on another page finds the two pages joined, or is alone on its own.
-/

namespace StreamingPortal.Web.Apps

open StreamingPortal.Prefixes

variable (semver : Semver)

/-! ## What one item does -/

namespace Grouping

-- The applications of the `Set` object.
def content (g : Grouping) (ref : Nat) : List String := (g.sets[ref]?).getD []

-- The page of the application object that the item is put into.
def home (g : Grouping) (item : Item) : String :=
  ((g.apps.get? item.title).getD item.toApp).page

-- The `Set` object that the item is put into.
def target (g : Grouping) (item : Item) : Nat := (pageSet g item.page).1

/-- Objects are where the maps say that they are. -/
structure Sound (g : Grouping) : Prop where
  inRange : ∀ page ref, g.pages.get? page = some ref → ref < g.sets.length
  titled : ∀ title app, g.apps.get? title = some app → app.title = title

end Grouping

open Grouping

variable {semver}

theorem mem_addTo {title other : String} {set : List String} :
    other ∈ addTo title set ↔ other ∈ set ∨ other = title := by
  unfold addTo
  split
  next present =>
    constructor
    next => exact Or.inl
    next =>
      intro either
      cases either with
      | inl member => exact member
      | inr same => exact same ▸ present
  next => simp

theorem addItem_pages (g : Grouping) (item : Item) :
    (addItem semver g item).pages = g.pages.set (g.home item) (g.target item) := rfl

theorem Grouping.Sound.titled_object {g : Grouping} (sound : g.Sound) (item : Item) :
    ((g.apps.get? item.title).getD item.toApp).title = item.title := by
  cases stored : g.apps.get? item.title with
  | none => rfl
  | some app => exact sound.titled item.title app stored

theorem addItem_apps {g : Grouping} (sound : g.Sound) (item : Item) (title : String) :
    (addItem semver g item).apps.get? title =
      if title = item.title then
        some (withVersion semver item ((g.apps.get? item.title).getD item.toApp))
      else g.apps.get? title := by
  unfold addItem
  simp only [OrderedMap.get?_set, withVersion, sound.titled_object]

theorem target_of_key {g : Grouping} {item : Item} {ref : Nat}
    (stored : g.pages.get? item.page = some ref) : g.target item = ref := by
  simp [target, pageSet, stored]

theorem target_of_new {g : Grouping} {item : Item} (missing : g.pages.get? item.page = none) :
    g.target item = g.sets.length := by
  simp [target, pageSet, missing]

theorem content_of_fresh {g : Grouping} {ref : Nat} (fresh : g.sets.length ≤ ref) :
    g.content ref = [] := by
  simp [content, List.getElem?_eq_none fresh]

theorem content_target_of_new {g : Grouping} {item : Item}
    (missing : g.pages.get? item.page = none) : g.content (g.target item) = [] :=
  content_of_fresh (Nat.le_of_eq (target_of_new missing).symm)

-- A new `Set` object is not under any page yet.
theorem key_of_target {g : Grouping} (sound : g.Sound) {item : Item} {page : String}
    (stored : g.pages.get? page = some (g.target item)) :
    g.pages.get? item.page = some (g.target item) := by
  cases key : g.pages.get? item.page with
  | some ref => rw [target_of_key key]
  | none =>
      rw [target_of_new key] at stored
      exact absurd (sound.inRange page _ stored) (Nat.lt_irrefl _)

theorem mem_content_addItem {g : Grouping} (sound : g.Sound) (item : Item) (title : String)
    (ref : Nat) :
    title ∈ (addItem semver g item).content ref ↔
      title ∈ g.content ref ∨ (title = item.title ∧ ref = g.target item) := by
  have object := sound.titled_object item
  cases stored : g.pages.get? item.page with
  | some own =>
      have inside := sound.inRange item.page own stored
      by_cases here : ref = own
      next =>
        subst here
        simp [content, addItem, pageSet, target, stored, withVersion, object, inside, mem_addTo]
      next =>
        have other : ¬ own = ref := fun same => here same.symm
        simp [content, addItem, pageSet, target, stored, here, other]
  | none =>
      by_cases here : ref = g.sets.length
      next =>
        subst here
        simp [content, addItem, pageSet, target, stored, withVersion, object, mem_addTo]
      next =>
        have other : ¬ g.sets.length = ref := fun same => here same.symm
        have same : (g.sets ++ [[]])[ref]? = g.sets[ref]? := by
          by_cases inside : ref < g.sets.length
          next => rw [List.getElem?_append_left inside]
          next =>
            rw [List.getElem?_eq_none (by simp; omega), List.getElem?_eq_none (by omega)]
        simp [content, addItem, pageSet, target, stored, here, other, same]

theorem addItem_sound {g : Grouping} (sound : g.Sound) (item : Item) :
    (addItem semver g item).Sound := by
  constructor
  next =>
    intro page ref stored
    rw [addItem_pages, OrderedMap.get?_set] at stored
    have longer : g.sets.length ≤ (addItem semver g item).sets.length ∧
        g.target item < (addItem semver g item).sets.length := by
      cases own : g.pages.get? item.page with
      | some own' =>
          have inside := sound.inRange item.page own' own
          simpa [addItem, pageSet, target, own] using inside
      | none => simp [addItem, pageSet, target, own]
    split at stored
    next =>
      cases stored
      exact longer.2
    next => exact Nat.lt_of_lt_of_le (sound.inRange page ref stored) longer.1
  next =>
    intro title app stored
    rw [addItem_apps sound] at stored
    split at stored
    next same =>
      cases stored
      rw [same]
      exact sound.titled_object item
    next => exact sound.titled title app stored

theorem set?_eq_some {g : Grouping} (sound : g.Sound) {page : String} {set : List String} :
    g.set? page = some set ↔ ∃ ref, g.pages.get? page = some ref ∧ g.content ref = set := by
  constructor
  next =>
    intro found
    obtain ⟨ref, stored, object⟩ := Option.bind_eq_some_iff.mp found
    exact ⟨ref, stored, by simp [content, object]⟩
  next =>
    intro found
    obtain ⟨ref, stored, rfl⟩ := found
    have inside := sound.inRange page ref stored
    simp [set?, stored, content, inside]

-- Only the `Set` that the item's application had under its page can go.
theorem retains_addItem_iff {g : Grouping} (sound : g.Sound) (item : Item) :
    Retains g (addItem semver g item) ↔
      ∀ ref, g.pages.get? (g.home item) = some ref → ∀ title ∈ g.content ref,
        title ∈ g.content (g.target item) ∨ title = item.title := by
  have sound' : (addItem semver g item).Sound := addItem_sound sound item
  constructor
  next =>
    intro retains ref stored title member
    have found : g.set? (g.home item) = some (g.content ref) :=
      (set?_eq_some sound).mpr ⟨ref, stored, rfl⟩
    obtain ⟨set, after, kept⟩ := retains _ _ found title member
    obtain ⟨ref', stored', rfl⟩ := (set?_eq_some sound').mp after
    rw [addItem_pages, OrderedMap.get?_set_self] at stored'
    cases stored'
    have split := (mem_content_addItem sound item title (g.target item)).mp kept
    cases split with
    | inl old => exact Or.inl old
    | inr new => exact Or.inr new.1
  next =>
    intro own page set found title member
    obtain ⟨ref, stored, rfl⟩ := (set?_eq_some sound).mp found
    by_cases here : page = g.home item
    next =>
      subst here
      refine ⟨_, (set?_eq_some sound').mpr ⟨g.target item, ?_, rfl⟩, ?_⟩
      next => simp [addItem_pages]
      next =>
        apply (mem_content_addItem sound item title (g.target item)).mpr
        cases own ref stored title member with
        | inl kept => exact Or.inl kept
        | inr same => exact Or.inr ⟨same, rfl⟩
    next =>
      refine ⟨_, (set?_eq_some sound').mpr ⟨ref, ?_, rfl⟩, ?_⟩
      next => rw [addItem_pages, OrderedMap.get?_set_ne _ _ here, stored]
      next => exact (mem_content_addItem sound item title ref).mpr (Or.inl member)

/-! ## What the loop has built from the items before -/

theorem group_concat (before : List Item) (item : Item) :
    group semver (before ++ [item]) = step semver (group semver before) item := by
  simp [group]

theorem pageOf_concat (before : List Item) (item : Item) (title : String) :
    pageOf (before ++ [item]) title =
      (pageOf before title).or
        (if item.visible && item.title = title then some item.page else none) := by
  unfold pageOf
  rw [List.find?_append]
  cases before.find? (fun item => item.visible && item.title = title) with
  | some first => rfl
  | none =>
      cases hit : (item.visible && item.title = title : Bool) <;> simp [hit]

-- The versions that the items give to a title.
def versionsOf (items : List Item) (title : String) : List StreamingAppVersion :=
  (items.filter fun item => item.visible && item.title = title).map Item.toVersion

theorem versionsOf_concat (before : List Item) (item : Item) (title : String) :
    versionsOf (before ++ [item]) title =
      versionsOf before title ++
        (if item.visible && item.title = title then [item.toVersion] else []) := by
  unfold versionsOf
  cases hit : (item.visible && item.title = title : Bool) <;> simp [hit, List.filter_append]

/-- The two maps hold what the items before say. -/
structure Placed (before : List Item) (g : Grouping) : Prop where
  sound : g.Sound
  page : ∀ title, (g.apps.get? title).map StreamingApp.page = pageOf before title
  versions : ∀ title, ((g.apps.get? title).map StreamingApp.versions).getD [] =
    versionsOf before title
  started : ∀ page, (∃ ref, g.pages.get? page = some ref) ↔
    ∃ title, pageOf before title = some page

theorem Placed.home {before : List Item} {g : Grouping} (placed : Placed before g) (item : Item) :
    g.home item = (pageOf before item.title).getD item.page := by
  rw [← placed.page]
  unfold Grouping.home
  cases g.apps.get? item.title <;> rfl

theorem Placed.home_of_old {before : List Item} {g : Grouping} (placed : Placed before g)
    {item : Item} {page : String} (old : pageOf before item.title = some page) :
    g.home item = page := by
  rw [placed.home, old, Option.getD_some]

theorem pageOf_addItem {before : List Item} {g : Grouping} (placed : Placed before g) {item : Item}
    (visible : item.visible = true) (title : String) :
    pageOf (before ++ [item]) title =
      if title = item.title then some (g.home item) else pageOf before title := by
  rw [pageOf_concat, placed.home]
  by_cases same : title = item.title
  next =>
    subst same
    cases pageOf before item.title <;> simp [visible]
  next =>
    have other : ¬ item.title = title := fun h => same h.symm
    simp [same, other]

theorem placed_empty : Placed [] Grouping.empty := by
  constructor
  next =>
    constructor
    next =>
      intro page ref stored
      cases stored
    next =>
      intro title app stored
      cases stored
  next =>
    intro title
    rfl
  next =>
    intro title
    rfl
  next =>
    intro page
    simp [Grouping.empty, pageOf]

theorem Placed.addItem {before : List Item} {g : Grouping} (placed : Placed before g) {item : Item}
    (visible : item.visible = true) : Placed (before ++ [item]) (addItem semver g item) := by
  have sound := placed.sound
  constructor
  next => exact addItem_sound sound item
  next =>
    intro title
    rw [addItem_apps sound, pageOf_addItem placed visible]
    split
    next => rfl
    next => exact placed.page title
  next =>
    intro title
    rw [addItem_apps sound, versionsOf_concat, ← placed.versions title]
    by_cases same : title = item.title
    next =>
      subst same
      cases stored : g.apps.get? item.title <;> simp [visible, withVersion, Item.toApp]
    next =>
      have other : ¬ item.title = title := fun h => same h.symm
      simp [same, other]
  next =>
    intro page
    rw [addItem_pages]
    simp only [OrderedMap.get?_set, pageOf_addItem placed visible]
    by_cases here : page = g.home item
    next =>
      subst here
      exact ⟨fun _ => ⟨item.title, by simp⟩, fun _ => ⟨g.target item, by simp⟩⟩
    next =>
      simp only [here, if_false, placed.started page]
      constructor
      next =>
        intro found
        obtain ⟨title, first⟩ := found
        refine ⟨title, ?_⟩
        rw [if_neg ?_]
        next => exact first
        next =>
          intro same
          subst same
          exact here (placed.home_of_old first).symm
      next =>
        intro found
        obtain ⟨title, first⟩ := found
        split at first
        next =>
          cases first
          exact absurd rfl here
        next => exact ⟨title, first⟩

theorem pageOf_hidden {before : List Item} {item : Item} (hidden : item.visible = false)
    (title : String) : pageOf (before ++ [item]) title = pageOf before title := by
  simp [pageOf_concat, hidden]

theorem group_hidden {before : List Item} {item : Item} (hidden : item.visible = false) :
    group semver (before ++ [item]) = group semver before := by
  simp [group_concat, step, hidden]

theorem group_visible {before : List Item} {item : Item} (visible : item.visible = true) :
    group semver (before ++ [item]) = Apps.addItem semver (group semver before) item := by
  simp [group_concat, step, visible]

theorem placed (before : List Item) : Placed before (group semver before) := by
  induction before using List.reverseRecOn with
  | nil => exact placed_empty
  | append_singleton before item ih =>
      cases seen : item.visible with
      | true =>
          rw [group_visible seen]
          exact ih.addItem seen
      | false =>
          rw [group_hidden seen]
          constructor
          next => exact ih.sound
          next =>
            intro title
            rw [pageOf_hidden seen, ih.page]
          next =>
            intro title
            rw [versionsOf_concat, ih.versions]
            simp [seen]
          next =>
            intro page
            simp only [pageOf_hidden seen, ih.started]

/-! ## What holds while nothing has been lost -/

/-- A `Set` in use has the applications of the pages that use it, and these are joined. -/
structure Kept (before : List Item) (g : Grouping) : Prop where
  members : ∀ page ref, g.pages.get? page = some ref → ∀ title, title ∈ g.content ref ↔
    ∃ own, pageOf before title = some own ∧ g.pages.get? own = some ref
  joined : ∀ page ref, g.pages.get? page = some ref → ∀ other,
    g.pages.get? other = some ref ↔ Joined before page other

theorem Placed.key {before : List Item} {g : Grouping} (placed : Placed before g)
    {title page : String} (first : pageOf before title = some page) :
    ∃ ref, g.pages.get? page = some ref :=
  (placed.started page).mpr ⟨title, first⟩

-- What an item takes off its page: the `Set` under it, unless it is the one written there.
theorem retains_iff {before : List Item} {g : Grouping} (placed : Placed before g)
    (kept : Kept before g) {item : Item} {page : String} {ref : Nat}
    (first : pageOf before item.title = some page) (stored : g.pages.get? page = some ref) :
    Retains g (addItem semver g item) ↔
      ref = g.target item ∨
        ∀ title other, pageOf before title = some other → g.pages.get? other = some ref →
          title = item.title := by
  rw [retains_addItem_iff placed.sound, placed.home_of_old first]
  constructor
  next =>
    intro retains
    by_cases same : ref = g.target item
    next => exact Or.inl same
    next =>
      right
      intro title other own at_ref
      have member := (kept.members page ref stored title).mpr ⟨other, own, at_ref⟩
      cases retains ref stored title member with
      | inr here => exact here
      | inl moved =>
          exfalso
          cases key : g.pages.get? item.page with
          | none =>
              rw [content_target_of_new key] at moved
              contradiction
          | some target =>
              rw [target_of_key key] at moved same
              obtain ⟨own', first', at_target⟩ := (kept.members _ _ key title).mp moved
              rw [own] at first'
              cases first'
              rw [at_ref] at at_target
              cases at_target
              exact same rfl
  next =>
    intro harmless ref' stored' title member
    rw [stored] at stored'
    cases stored'
    cases harmless with
    | inl same => exact Or.inl (same ▸ member)
    | inr alone =>
        obtain ⟨own, first', at_ref⟩ := (kept.members _ _ stored title).mp member
        exact Or.inr (alone title own first' at_ref)

theorem retains_of_home {before : List Item} {g : Grouping} (placed : Placed before g)
    {item : Item} (home : g.home item = item.page) : Retains g (addItem semver g item) := by
  rw [retains_addItem_iff placed.sound, home]
  intro ref stored title member
  rw [target_of_key stored]
  exact Or.inl member

theorem Kept.joined_iff_target {before : List Item} {g : Grouping} (placed : Placed before g)
    (kept : Kept before g) {page : String} {ref : Nat} (stored : g.pages.get? page = some ref)
    (item : Item) : Joined before page item.page ↔ ref = g.target item := by
  rw [← kept.joined page ref stored]
  constructor
  next => exact fun found => (target_of_key found).symm
  next =>
    intro target
    subst target
    exact key_of_target placed.sound stored

theorem harmless_iff {before : List Item} {g : Grouping} (placed : Placed before g)
    (kept : Kept before g) {item : Item} (visible : item.visible = true) :
    Harmless before item ↔ Retains g (addItem semver g item) := by
  cases first : pageOf before item.title with
  | none =>
      have home : g.home item = item.page := by rw [placed.home, first, Option.getD_none]
      constructor
      next => exact fun _ => retains_of_home placed home
      next =>
        intro _ _ page old
        rw [first] at old
        contradiction
  | some page =>
      by_cases same : page = item.page
      next =>
        subst same
        constructor
        next => exact fun _ => retains_of_home placed (placed.home_of_old first)
        next =>
          intro _ _ page' old other
          rw [first] at old
          cases old
          exact absurd rfl other
      next =>
        obtain ⟨ref, stored⟩ := placed.key first
        have linked := kept.joined_iff_target placed stored item
        rw [retains_iff placed kept first stored]
        unfold Harmless
        constructor
        next =>
          intro harmless
          cases harmless visible page first same with
          | inl joined => exact Or.inl (linked.mp joined)
          | inr alone =>
              right
              intro title other own at_ref
              exact alone title other own ((kept.joined page ref stored other).mp at_ref)
        next =>
          intro harmless _ page' old _
          rw [first] at old
          cases old
          cases harmless with
          | inl target => exact Or.inl (linked.mpr target)
          | inr alone =>
              right
              intro title other own joined
              exact alone title other own ((kept.joined page ref stored other).mpr joined)

theorem kept_empty : Kept [] Grouping.empty := by
  constructor
  next =>
    intro page ref stored
    cases stored
  next =>
    intro page ref stored
    cases stored

theorem joins_concat {before : List Item} {item : Item} {page other : String} :
    Joins (before ++ [item]) page other ↔ Joins before page other ∨
      (item.visible = true ∧ pageOf before item.title = some page ∧ item.page = other ∧
        ∃ title, pageOf before title = some other) := by
  constructor
  next =>
    intro joins
    obtain ⟨front, found, after, split, rest⟩ := joins
    cases split_concat split with
    | inl earlier =>
        obtain ⟨others, _, front'⟩ := earlier
        exact Or.inl ⟨front, found, others, front', rest⟩
    | inr last =>
        obtain ⟨_, rfl, rfl⟩ := last
        exact Or.inr rest
  next =>
    intro either
    cases either with
    | inl joins =>
        obtain ⟨front, found, after, rfl, rest⟩ := joins
        exact ⟨front, found, after ++ [item], by simp, rest⟩
    | inr rest => exact ⟨before, item, [], rfl, rest⟩

theorem joins_started {items : List Item} {page other : String} (joins : Joins items page other) :
    ∃ title, pageOf items title = some page := by
  obtain ⟨before, item, after, rfl, _, first, _⟩ := joins
  refine ⟨item.title, ?_⟩
  unfold pageOf at first ⊢
  obtain ⟨found, early, own⟩ := Option.map_eq_some_iff.mp first
  rw [List.find?_append, early]
  exact congrArg some own

theorem Joined.concat {before : List Item} (item : Item) {page other : String}
    (joined : Joined before page other) : Joined (before ++ [item]) page other :=
  Relation.EqvGen.mono (fun _ _ joins => joins_concat.mpr (Or.inl joins)) page other joined

-- A page that gets another `Set` was used by the item's title alone.
theorem Kept.alone {before : List Item} {g : Grouping} (placed : Placed before g)
    (kept : Kept before g) {item : Item} (retains : Retains g (addItem semver g item)) {ref : Nat}
    (stored : g.pages.get? (g.home item) = some ref) (moved : ref ≠ g.target item)
    {title other : String} (first : pageOf before title = some other)
    (at_ref : g.pages.get? other = some ref) : title = item.title := by
  cases old : pageOf before item.title with
  | none =>
      rw [placed.home, old, Option.getD_none] at stored
      exact absurd (target_of_key stored).symm moved
  | some page =>
      rw [placed.home_of_old old] at stored
      cases (retains_iff placed kept old stored).mp retains with
      | inl same => exact absurd same moved
      | inr alone => exact alone title other first at_ref

theorem Kept.only_page {before : List Item} {g : Grouping} (placed : Placed before g)
    (kept : Kept before g) {item : Item} (retains : Retains g (addItem semver g item)) {ref : Nat}
    (stored : g.pages.get? (g.home item) = some ref) (moved : ref ≠ g.target item)
    {page : String} (at_ref : g.pages.get? page = some ref) : page = g.home item := by
  obtain ⟨title, first⟩ := (placed.started page).mp ⟨ref, at_ref⟩
  have same := kept.alone placed retains stored moved first at_ref
  subst same
  exact (placed.home_of_old first).symm

theorem Kept.members_target {before : List Item} {g : Grouping} (placed : Placed before g)
    (kept : Kept before g) (item : Item) (title : String) :
    title ∈ g.content (g.target item) ↔
      ∃ own, pageOf before title = some own ∧ g.pages.get? own = some (g.target item) := by
  cases key : g.pages.get? item.page with
  | some ref =>
      rw [target_of_key key]
      exact kept.members item.page ref key title
  | none =>
      rw [content_target_of_new key]
      constructor
      next => exact fun member => absurd member List.not_mem_nil
      next =>
        intro found
        obtain ⟨own, _, at_ref⟩ := found
        rw [key_of_target placed.sound at_ref] at key
        contradiction

-- The other applications stay in the `Set` that they were in.
theorem Kept.same_ref {before : List Item} {g : Grouping} (placed : Placed before g)
    (kept : Kept before g) {item : Item} (retains : Retains g (addItem semver g item))
    {title own : String} (other : title ≠ item.title) (first : pageOf before title = some own) :
    (addItem semver g item).pages.get? own = g.pages.get? own := by
  rw [addItem_pages, OrderedMap.get?_set]
  split
  next here =>
    subst here
    obtain ⟨ref, stored⟩ := placed.key first
    by_cases moved : ref = g.target item
    next => rw [stored, moved]
    next => exact absurd (kept.alone placed retains stored moved first stored) other
  next => rfl

theorem Kept.members_addItem {before : List Item} {g : Grouping} (placed : Placed before g)
    (kept : Kept before g) {item : Item} (visible : item.visible = true)
    (retains : Retains g (addItem semver g item)) {page : String} {ref : Nat}
    (stored : (addItem semver g item).pages.get? page = some ref) (title : String) :
    title ∈ (addItem semver g item).content ref ↔
      ∃ own, pageOf (before ++ [item]) title = some own ∧
        (addItem semver g item).pages.get? own = some ref := by
  rw [mem_content_addItem placed.sound, pageOf_addItem placed visible]
  have lookup := stored
  rw [addItem_pages, OrderedMap.get?_set] at lookup
  by_cases same : title = item.title
  next =>
    subst same
    simp only [if_true, true_and, Option.some.injEq, exists_eq_left', addItem_pages,
      OrderedMap.get?_set_self]
    constructor
    next =>
      intro either
      cases either with
      | inr here => exact here.symm
      | inl member =>
          by_cases here : page = g.home item
          next => simpa [here] using lookup
          next =>
            rw [if_neg here] at lookup
            obtain ⟨own, first, at_ref⟩ := (kept.members page ref lookup item.title).mp member
            rw [← placed.home_of_old first] at at_ref
            by_contra moved
            have other : ref ≠ g.target item := fun h => moved h.symm
            exact here (kept.only_page placed retains at_ref other lookup)
    next => exact fun here => Or.inr here.symm
  next =>
    have before_iff : title ∈ g.content ref ↔
        ∃ own, pageOf before title = some own ∧ g.pages.get? own = some ref := by
      split at lookup
      next =>
        cases lookup
        exact kept.members_target placed item title
      next => exact kept.members page ref lookup title
    simp only [same, false_and, or_false, if_false, before_iff]
    constructor
    next =>
      intro found
      obtain ⟨own, first, at_ref⟩ := found
      exact ⟨own, first, by rw [kept.same_ref placed retains same first, at_ref]⟩
    next =>
      intro found
      obtain ⟨own, first, at_ref⟩ := found
      exact ⟨own, first, by rw [← kept.same_ref placed retains same first, at_ref]⟩

theorem Kept.joined_target {before : List Item} {g : Grouping} (placed : Placed before g)
    (kept : Kept before g) {item : Item} (visible : item.visible = true) {page : String}
    (stored : (addItem semver g item).pages.get? page = some (g.target item)) :
    Joined (before ++ [item]) (g.home item) page := by
  rw [addItem_pages, OrderedMap.get?_set] at stored
  split at stored
  next here =>
    rw [here]
    exact Relation.EqvGen.refl _
  next =>
    have key := key_of_target placed.sound stored
    have rest : Joined (before ++ [item]) item.page page :=
      ((kept.joined item.page _ key page).mp stored).concat item
    cases old : pageOf before item.title with
    | none =>
        rw [placed.home, old, Option.getD_none]
        exact rest
    | some own =>
        rw [placed.home_of_old old]
        have started := (placed.started item.page).mp ⟨_, key⟩
        have link : Joins (before ++ [item]) own item.page :=
          joins_concat.mpr (Or.inr ⟨visible, old, rfl, started⟩)
        exact Relation.EqvGen.trans _ _ _ (Relation.EqvGen.rel _ _ link) rest

-- Pages joined before the item still use one `Set` after it.
theorem Kept.joined_same {before : List Item} {g : Grouping} (placed : Placed before g)
    (kept : Kept before g) {item : Item} (retains : Retains g (addItem semver g item))
    {page other : String} {ref : Nat} (stored : g.pages.get? page = some ref)
    (stored' : g.pages.get? other = some ref) :
    (addItem semver g item).pages.get? page = (addItem semver g item).pages.get? other := by
  rw [addItem_pages, OrderedMap.get?_set, OrderedMap.get?_set, stored, stored']
  by_cases moved : ref = g.target item
  next => simp [moved]
  next =>
    by_cases here : page = g.home item
    next =>
      subst here
      rw [kept.only_page placed retains stored moved stored']
    next =>
      have there : other ≠ g.home item := by
        intro same
        subst same
        exact here (kept.only_page placed retains stored' moved stored)
      rw [if_neg here, if_neg there]

theorem Kept.joined_addItem {before : List Item} {g : Grouping} (placed : Placed before g)
    (kept : Kept before g) {item : Item}
    (retains : Retains g (addItem semver g item)) {page other : String}
    (joined : Joined (before ++ [item]) page other) :
    (addItem semver g item).pages.get? page = (addItem semver g item).pages.get? other := by
  induction joined with
  | refl page => rfl
  | symm page other _ ih => exact ih.symm
  | trans page middle other _ _ first second => exact first.trans second
  | rel page other joins =>
      cases joins_concat.mp joins with
      | inl old =>
          obtain ⟨ref, stored⟩ := (placed.started page).mpr (joins_started old)
          have stored' := (kept.joined page ref stored other).mpr (Relation.EqvGen.rel _ _ old)
          exact kept.joined_same placed retains stored stored'
      | inr new =>
          obtain ⟨_, first, rfl, started⟩ := new
          obtain ⟨ref, stored⟩ := (placed.started item.page).mpr started
          rw [addItem_pages, ← placed.home_of_old first, OrderedMap.get?_set_self,
            OrderedMap.get?_set, stored, target_of_key stored]
          simp

theorem Kept.addItem {before : List Item} {g : Grouping} (placed : Placed before g)
    (kept : Kept before g) {item : Item} (visible : item.visible = true)
    (retains : Retains g (addItem semver g item)) :
    Kept (before ++ [item]) (Apps.addItem semver g item) := by
  constructor
  next =>
    intro page ref stored title
    exact kept.members_addItem placed visible retains stored title
  next =>
    intro page ref stored other
    constructor
    next =>
      intro stored'
      have lookup := stored
      have lookup' := stored'
      rw [addItem_pages, OrderedMap.get?_set] at lookup lookup'
      split at lookup
      next here =>
        cases lookup
        rw [here]
        exact kept.joined_target placed visible stored'
      next =>
        split at lookup'
        next there =>
          cases lookup'
          rw [there]
          exact Relation.EqvGen.symm _ _ (kept.joined_target placed visible stored)
        next => exact ((kept.joined page ref lookup other).mp lookup').concat item
    next =>
      intro joined
      rw [← kept.joined_addItem placed retains joined, stored]

theorem joined_hidden {before : List Item} {item : Item} (hidden : item.visible = false) :
    Joined (before ++ [item]) = Joined before := by
  have same : Joins (before ++ [item]) = Joins before := by
    funext page other
    simp [joins_concat, hidden]
  unfold Joined
  rw [same]

theorem Kept.hidden {before : List Item} {g : Grouping} (kept : Kept before g) {item : Item}
    (hidden : item.visible = false) : Kept (before ++ [item]) g := by
  constructor
  next =>
    intro page ref stored title
    simp only [pageOf_hidden hidden, kept.members page ref stored title]
  next =>
    intro page ref stored other
    rw [joined_hidden hidden, kept.joined page ref stored other]

theorem Kept.concat {before : List Item} {item : Item} (kept : Kept before (group semver before))
    (retains : Retains (group semver before) (group semver (before ++ [item]))) :
    Kept (before ++ [item]) (group semver (before ++ [item])) := by
  cases seen : item.visible with
  | true =>
      rw [group_visible seen] at retains ⊢
      exact kept.addItem (placed before) seen retains
  | false =>
      rw [group_hidden seen]
      exact kept.hidden seen

theorem harmless_iff_retains {before : List Item} {item : Item}
    (kept : Kept before (group semver before)) :
    Harmless before item ↔ Retains (group semver before) (group semver (before ++ [item])) := by
  cases seen : item.visible with
  | true =>
      rw [group_visible seen]
      exact harmless_iff (placed before) kept seen
  | false =>
      rw [group_hidden seen]
      constructor
      next => exact fun _ _ set found title member => ⟨set, found, member⟩
      next =>
        intro _ visible
        rw [seen] at visible
        contradiction

-- The loop never takes an application off a page exactly when every item is harmless.
theorem retained_iff (semver : Semver) (items : List Item) :
    Throughout
        (fun before item => Retains (group semver before) (group semver (before ++ [item]))) items ↔
      Throughout Harmless items := by
  apply Iff.symm
  exact throughout_iff (fun items => Kept items (group semver items)) kept_empty
    (fun _ _ => Kept.concat) (fun _ _ => harmless_iff_retains) items

theorem kept_of_retained {items : List Item}
    (retained : Throughout
      (fun before item => Retains (group semver before) (group semver (before ++ [item]))) items) :
    Kept items (group semver items) :=
  Prefixes.invariant (fun items => Kept items (group semver items)) kept_empty
    (fun _ _ => Kept.concat) retained

/-! ## The order of the versions -/

/-- The same application with its versions in some order. -/
structure Reordered (app app' : StreamingApp) : Prop where
  title : app'.title = app.title
  page : app'.page = app.page
  latest : app'.latestVersion = app.latestVersion
  versions : app'.versions.Perm app.versions

theorem Reordered.refl (app : StreamingApp) : Reordered app app :=
  ⟨rfl, rfl, rfl, List.Perm.refl _⟩

variable {array : ArraySort}

theorem Reordered.sortApp {app app' : StreamingApp} (same : Reordered app app') :
    Reordered app (sortApp semver array app') :=
  ⟨same.title, same.page, same.latest, (array.perm _ _).trans same.versions⟩

/-- The same applications under the same titles, up to the order of their versions. -/
structure SameApps (m m' : OrderedMap String StreamingApp) : Prop where
  kept : ∀ title app, m.get? title = some app → ∃ app', m'.get? title = some app' ∧
    Reordered app app'
  known : ∀ title app', m'.get? title = some app' → ∃ app, m.get? title = some app ∧
    Reordered app app'

theorem SameApps.refl (m : OrderedMap String StreamingApp) : SameApps m m :=
  ⟨fun _ app stored => ⟨app, stored, Reordered.refl app⟩,
    fun _ app stored => ⟨app, stored, Reordered.refl app⟩⟩

theorem SameApps.modify {m m' : OrderedMap String StreamingApp} (same : SameApps m m')
    (title : String) : SameApps m (m'.modify title (sortApp semver array)) := by
  constructor
  next =>
    intro other app stored
    obtain ⟨app', stored', related⟩ := same.kept other app stored
    by_cases hit : other = title
    next =>
      subst hit
      refine ⟨sortApp semver array app', ?_, related.sortApp⟩
      simp [OrderedMap.get?_modify, stored']
    next => exact ⟨app', by simp [OrderedMap.get?_modify, hit, stored'], related⟩
  next =>
    intro other app' stored'
    rw [OrderedMap.get?_modify] at stored'
    split at stored'
    next hit =>
      subst hit
      obtain ⟨before, found, rfl⟩ := Option.map_eq_some_iff.mp stored'
      obtain ⟨app, stored, related⟩ := same.known other before found
      exact ⟨app, stored, related.sortApp⟩
    next => exact same.known other app' stored'

theorem SameApps.sortSet {m m' : OrderedMap String StreamingApp} (same : SameApps m m')
    (set : List String) : SameApps m (sortSet semver array m' set) := by
  induction set generalizing m' with
  | nil => exact same
  | cons title rest ih => exact ih (same.modify title)

theorem sameApps_sortVersions (g : Grouping) :
    SameApps g.apps (sortVersions semver array g).apps := by
  have loop : ∀ (refs : List Nat) (m : OrderedMap String StreamingApp), SameApps g.apps m →
      SameApps g.apps (refs.foldl
        (fun apps ref => Apps.sortSet semver array apps ((g.sets[ref]?).getD [])) m) := by
    intro refs
    induction refs with
    | nil => exact fun m same => same
    | cons ref rest ih => exact fun m same => ih _ (same.sortSet _)
  exact loop g.pages.values g.apps (SameApps.refl g.apps)

/-! ## The applications of the map -/

theorem mem_versionsOf {items : List Item} {title : String} {version : StreamingAppVersion} :
    version ∈ versionsOf items title ↔
      ∃ item ∈ items, item.visible = true ∧ item.title = title ∧ item.toVersion = version := by
  simp [versionsOf, and_assoc]

theorem versionsOf_nodup {items : List Item} (ids_nodup : (items.map Item.id).Nodup)
    (title : String) : (versionsOf items title).Nodup := by
  apply List.Nodup.of_map StreamingAppVersion.id
  rw [versionsOf, List.map_map]
  exact ids_nodup.sublist (List.filter_sublist.map Item.id)

theorem Placed.versions_of_stored {items : List Item} {g : Grouping} (placed : Placed items g)
    {title : String} {app : StreamingApp} (stored : g.apps.get? title = some app) :
    app.versions = versionsOf items title := by
  rw [← placed.versions title, stored]
  rfl

theorem pageOf_of_mem {items : List Item} {item : Item} (listed : item ∈ items)
    (visible : item.visible = true) : ∃ page, pageOf items item.title = some page := by
  have found : (items.find? fun i => i.visible && i.title = item.title).isSome := by
    rw [List.find?_isSome]
    exact ⟨item, listed, by simp [visible]⟩
  obtain ⟨first, early⟩ := Option.isSome_iff_exists.mp found
  exact ⟨first.page, by simp [pageOf, early]⟩

-- What has not been lost is shown, whatever the versions are sorted by.
theorem Kept.appears {body : Body} (kept : Kept body.items (group semver body.items)) {item : Item}
    (listed : item ∈ body.items) (visible : item.visible = true) :
    Appears (sortVersions semver array (group semver body.items)) item := by
  have placed : Placed body.items (group semver body.items) := placed body.items
  have same : SameApps (group semver body.items).apps
      (sortVersions semver array (group semver body.items)).apps := sameApps_sortVersions _
  have sound : (sortVersions semver array (group semver body.items)).Sound := by
    constructor
    next => exact placed.sound.inRange
    next =>
      intro title app' stored'
      obtain ⟨app, stored, related⟩ := same.known title app' stored'
      rw [related.title, placed.sound.titled title app stored]
  obtain ⟨page, first⟩ := pageOf_of_mem listed visible
  obtain ⟨ref, key⟩ := placed.key first
  have own := placed.page item.title
  rw [first] at own
  obtain ⟨app, stored, rfl⟩ := Option.map_eq_some_iff.mp own
  obtain ⟨app', stored', related⟩ := same.kept item.title app stored
  have title := sound.titled item.title app' stored'
  have member := (kept.members app.page ref key item.title).mpr ⟨app.page, first, key⟩
  have versions := placed.versions_of_stored stored
  refine ⟨app', ?_, ?_, ?_⟩
  next =>
    rw [related.page]
    refine ⟨_, (set?_eq_some sound).mpr ⟨ref, key, rfl⟩, ?_, ?_⟩
    next => exact title ▸ member
    next => rw [title, stored']
  next =>
    rw [related.versions.count_eq, versions]
    apply List.count_eq_one_of_mem (versionsOf_nodup body.ids_nodup item.title)
    exact mem_versionsOf.mpr ⟨item, listed, visible, rfl, rfl⟩
  next =>
    intro page other has version
    obtain ⟨_, _, _, stored''⟩ := has
    obtain ⟨before, found, related'⟩ := same.known other.title other stored''
    rw [related'.versions.mem_iff, placed.versions_of_stored found] at version
    obtain ⟨item', listed', _, owner, copy⟩ := mem_versionsOf.mp version
    -- The ids of the items are distinct, so that the two items are one.
    have one : item' = item :=
      List.inj_on_of_nodup_map body.ids_nodup listed' listed (congrArg StreamingAppVersion.id copy)
    subst one
    rw [← owner, stored'] at stored''
    cases stored''
    rfl

/-- No visible application is lost exactly when every title that comes back on another page finds
the pages joined, or is the only one on its own page. -/
theorem none_lost_iff (semver : Semver) (array : ArraySort) (body : Body) :
    NoneLost semver array body ↔ Throughout Harmless body.items := by
  rw [← retained_iff semver]
  constructor
  next => exact fun none_lost => none_lost.retained
  next =>
    intro retained
    refine ⟨retained, ?_⟩
    intro response grouping same answered item listed visible
    unfold getStreamingApps at answered
    split at answered
    next =>
      cases answered
      rw [same]
      exact (kept_of_retained retained).appears listed visible
    next => contradiction

-- Titles that are each published on one page only.
theorem none_lost_of_one_page (semver : Semver) (array : ArraySort) (body : Body)
    (one_page : ∀ item ∈ body.items, ∀ other ∈ body.items, item.visible = true →
      other.visible = true → item.title = other.title → item.page = other.page) :
    NoneLost semver array body := by
  rw [none_lost_iff]
  intro before item after split visible page first different
  unfold pageOf at first
  obtain ⟨other, found, rfl⟩ := Option.map_eq_some_iff.mp first
  have hit := List.find?_some found
  have member := List.mem_of_find?_eq_some found
  rw [Bool.and_eq_true, decide_eq_true_eq] at hit
  exfalso
  apply different
  apply one_page other ?_ item ?_ hit.1 visible hit.2
  next => simp [split, member]
  next => simp [split]

/-! ## A title that comes back on a page of its own -/

-- The package on two versions.
def releases : Semver where
  valid version := version ∈ ["1.0.0", "2.0.0"]
  compare a b := if a = b then 0 else if a = "1.0.0" then -1 else 1

def stable : ArraySort where
  sort comparator versions := versions.mergeSort fun a b => comparator a b ≤ 0
  perm _ versions := List.mergeSort_perm versions _

def release (title version page : String) : Item where
  id := title ++ " " ++ version
  functionId := title
  functionVersionId := version
  title := title
  version := version
  icon := "icon.png"
  page := page
  category := "Tools"
  status := .active
  productArea := "Omniverse"
  mediaServer := none
  mediaPort := none

def preview : Body where
  items := [release "Composer" "1.0.0" "Design", release "Viewer" "1.0.0" "Design",
    release "Composer" "2.0.0" "Preview"]
  ids_nodup := by decide

theorem preview_loses_viewer : ¬ NoneLost releases stable preview := by
  intro none_lost
  have last : Retains (group releases (preview.items.take 2)) (group releases preview.items) :=
    none_lost.retained _ (release "Composer" "2.0.0" "Preview") [] rfl
  have before : (group releases (preview.items.take 2)).set? "Design" =
      some ["Composer", "Viewer"] := by decide
  have after : (group releases preview.items).set? "Design" = some ["Composer"] := by decide
  obtain ⟨set, found, member⟩ := last "Design" _ before "Viewer" (by decide)
  rw [after] at found
  cases found
  exact absurd member (by decide)

end StreamingPortal.Web.Apps
