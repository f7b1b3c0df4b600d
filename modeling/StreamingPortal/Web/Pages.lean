import Mathlib.Algebra.Group.Int.Defs
import Mathlib.Data.Int.Order.Basic
import StreamingPortal.Shared.SortBy
import StreamingPortal.Shared.Table
import StreamingPortal.Web.AppsKept

set_option autoImplicit false

/-!
# The order of the pages

`GET /pages/` sorts the pages of the sidebar by their order, and the portal's `Home` sorts the pages
of the applications that it shows by the orders it was given.
-/

namespace StreamingPortal.Web.Pages

open StreamingPortal.Web.Apps

/-- What a `SmallIntField` stores. -/
structure SmallInt where
  value : Int
  lower : -32768 ≤ value
  upper : value ≤ 32767
deriving DecidableEq

structure PublishedPage where
  name : String
  order : Option SmallInt
deriving DecidableEq

abbrev PublishedPages := Table String PublishedPage PublishedPage.name

/-- The elements of a Python set of strings, in the order of its iteration. -/
structure Iteration (elements : List String) where
  names : List String
  nodup : names.Nodup
  exact : ∀ name, name ∈ names ↔ name ∈ elements

/-! ## The backend -/

def appPageNames (items : List Item) : List String := (items.map Item.page).filter (· ≠ "")

def allPageNames (pages : PublishedPages) (items : List Item) : List String :=
  appPageNames items ++ pages.rows.map PublishedPage.name

-- `page_order_map.get(name)`.
def orderOf (pages : PublishedPages) (name : String) : Option SmallInt :=
  (pages.get? name).bind PublishedPage.order

-- `x["order"] or 0`.
def sortKey (page : PublishedPage) : Int := (page.order.map SmallInt.value).getD 0

-- The route `get_pages`.
def getPagesRoute (pages : PublishedPages) (items : List Item)
    (iteration : Iteration (allPageNames pages items)) : List PublishedPage :=
  sortBy sortKey (iteration.names.map fun name => ⟨name, orderOf pages name⟩)

/-! ## The portal -/

-- The map that `getPages` of the portal makes of the answer.
def getPages (body : List PublishedPage) : OrderedMap String PublishedPage :=
  body.foldl (fun result page => result.set page.name page) OrderedMap.empty

-- `Number.MAX_VALUE`.
def maxValue : Int := (2 ^ 53 - 1) * 2 ^ 971

def orderOrMax (page : Option PublishedPage) : Int :=
  ((page.bind PublishedPage.order).map SmallInt.value).getD maxValue

-- The difference before rounding, which never changes its sign.
def comparePageOrder (pageA pageB : Option PublishedPage) : Int :=
  orderOrMax pageA - orderOrMax pageB

-- The names of `ApplicationPages` in `Home`.
def pageNames (appsByPages : Grouping) (pages : OrderedMap String PublishedPage) : List String :=
  appsByPages.pages.keys.mergeSort fun a b =>
    comparePageOrder (pages.get? a) (pages.get? b) ≤ 0

-- What the backend puts before another page by its sort key, the sidebar does not put after.
def Agree (listed : List PublishedPage) (sidebar : List String) : Prop :=
  ∀ p q, Before listed p q → sortKey p < sortKey q → ¬ Before sidebar q.name p.name

/-! ## What the portal knows of the orders -/

theorem getPages_concat (body : List PublishedPage) (page : PublishedPage) :
    getPages (body ++ [page]) = (getPages body).set page.name page := by
  simp [getPages]

theorem getPages_of_not_mem {body : List PublishedPage} {name : String}
    (missing : name ∉ body.map PublishedPage.name) : (getPages body).get? name = none := by
  induction body using List.reverseRecOn with
  | nil => rfl
  | append_singleton body page ih =>
      rw [List.map_append, List.mem_append, not_or] at missing
      have other : name ≠ page.name := by simpa using missing.2
      rw [getPages_concat, OrderedMap.get?_set_ne _ _ other]
      exact ih missing.1

theorem getPages_of_mem {body : List PublishedPage} (nodup : (body.map PublishedPage.name).Nodup)
    {page : PublishedPage} (listed : page ∈ body) :
    (getPages body).get? page.name = some page := by
  induction body using List.reverseRecOn with
  | nil => contradiction
  | append_singleton body last ih =>
      rw [getPages_concat, OrderedMap.get?_set]
      rw [List.map_append, List.nodup_append] at nodup
      split
      next same =>
        cases List.mem_append.mp listed with
        | inl earlier =>
            exact absurd same (nodup.2.2 _ (List.mem_map_of_mem earlier) _ (by simp))
        | inr here => rw [List.mem_singleton.mp here]
      next other =>
        cases List.mem_append.mp listed with
        | inl earlier => exact ih nodup.1 earlier
        | inr here => exact absurd (congrArg PublishedPage.name (List.mem_singleton.mp here)) other

variable {pages : PublishedPages} {items : List Item}

theorem orderOf_unlisted {name : String} (missing : name ∉ allPageNames pages items) :
    orderOf pages name = none := by
  unfold orderOf
  cases found : pages.get? name with
  | none => rfl
  | some page =>
      exfalso
      apply missing
      obtain ⟨stored, rfl⟩ := Table.mem_of_get? found
      exact List.mem_append_right _ (List.mem_map_of_mem stored)

theorem listed_of_order {name : String} {order : SmallInt}
    (ordered : orderOf pages name = some order) : name ∈ allPageNames pages items := by
  by_contra missing
  rw [orderOf_unlisted missing] at ordered
  contradiction

theorem mem_getPagesRoute {iteration : Iteration (allPageNames pages items)}
    {page : PublishedPage} : page ∈ getPagesRoute pages items iteration ↔
      page.name ∈ allPageNames pages items ∧ page.order = orderOf pages page.name := by
  unfold getPagesRoute
  rw [mem_sortBy, List.mem_map]
  constructor
  next =>
    intro found
    obtain ⟨name, listed, rfl⟩ := found
    exact ⟨(iteration.exact name).mp listed, rfl⟩
  next =>
    intro found
    refine ⟨page.name, (iteration.exact _).mpr found.1, ?_⟩
    rw [← found.2]

theorem getPagesRoute_nodup (iteration : Iteration (allPageNames pages items)) :
    ((getPagesRoute pages items iteration).map PublishedPage.name).Nodup := by
  have names : (iteration.names.map fun name =>
      (⟨name, orderOf pages name⟩ : PublishedPage)).map PublishedPage.name = iteration.names := by
    rw [List.map_map]
    exact List.map_id _
  have same := (sortBy_perm sortKey
    (iteration.names.map fun name => ⟨name, orderOf pages name⟩)).map PublishedPage.name
  rw [names] at same
  exact same.nodup_iff.mpr iteration.nodup

-- The portal's key of a page: its order, or more than every order.
def portalKey (pages : PublishedPages) (name : String) : Int :=
  ((orderOf pages name).map SmallInt.value).getD maxValue

theorem orderOrMax_getPages (iteration : Iteration (allPageNames pages items)) (name : String) :
    orderOrMax ((getPages (getPagesRoute pages items iteration)).get? name) =
      portalKey pages name := by
  by_cases listed : name ∈ allPageNames pages items
  next =>
    have member : (⟨name, orderOf pages name⟩ : PublishedPage) ∈
        getPagesRoute pages items iteration := mem_getPagesRoute.mpr ⟨listed, rfl⟩
    rw [getPages_of_mem (getPagesRoute_nodup iteration) member]
    rfl
  next =>
    have missing : name ∉ (getPagesRoute pages items iteration).map PublishedPage.name := by
      intro member
      obtain ⟨page, found, rfl⟩ := List.mem_map.mp member
      exact listed (mem_getPagesRoute.mp found).1
    rw [getPages_of_not_mem missing, portalKey, orderOf_unlisted listed]
    rfl

theorem pageNames_eq (g : Grouping) (iteration : Iteration (allPageNames pages items)) :
    pageNames g (getPages (getPagesRoute pages items iteration)) =
      sortBy (portalKey pages) g.pages.keys := by
  have sign : ∀ a b : Int, a - b ≤ 0 ↔ a ≤ b := by omega
  unfold pageNames sortBy comparePageOrder
  simp only [orderOrMax_getPages, sign]

theorem value_lt_maxValue (order : SmallInt) : order.value < maxValue := by
  have large : (32767 : Int) < maxValue := by decide +kernel
  exact Int.lt_of_le_of_lt order.upper large

theorem portalKey_of_order {name : String} {order : SmallInt}
    (ordered : orderOf pages name = some order) : portalKey pages name = order.value := by
  rw [portalKey, ordered]
  rfl

theorem portalKey_of_none {name : String} (unordered : orderOf pages name = none) :
    portalKey pages name = maxValue := by
  rw [portalKey, unordered]
  rfl

/-! ## Where the two orders agree -/

-- The page of an application that the portal shows.
def Shown (items : List Item) (page : String) : Prop := ∃ title, pageOf items title = some page

-- No page without an order is shown next to a page with a positive one.
def Comparable (pages : PublishedPages) (items : List Item) : Prop :=
  ∀ p q, Shown items p → Shown items q → p ∈ allPageNames pages items →
    orderOf pages p = none → ∀ order, orderOf pages q = some order → order.value ≤ 0

-- The sidebar for what the backend answers.
def sidebar (semver : Semver) (array : ArraySort) (pages : PublishedPages) (items : List Item)
    (iteration : Iteration (allPageNames pages items)) : List String :=
  pageNames (sortVersions semver array (group semver items))
    (getPages (getPagesRoute pages items iteration))

variable {semver : Semver} {array : ArraySort} {iteration : Iteration (allPageNames pages items)}

theorem sidebar_eq : sidebar semver array pages items iteration =
    sortBy (portalKey pages) (group semver items).pages.keys := pageNames_eq _ iteration

theorem mem_keys_iff {page : String} :
    page ∈ (group semver items).pages.keys ↔ Shown items page := by
  rw [OrderedMap.mem_keys_iff, (placed items).started]
  rfl

theorem shown_left {p q : String} (h : Before (sidebar semver array pages items iteration) p q) :
    Shown items p := by
  rw [sidebar_eq] at h
  exact mem_keys_iff.mp (mem_sortBy.mp h.left)

theorem shown_right {p q : String} (h : Before (sidebar semver array pages items iteration) p q) :
    Shown items q := by
  rw [sidebar_eq] at h
  exact mem_keys_iff.mp (mem_sortBy.mp h.right)

theorem portalKey_le {p q : String} (h : Before (sidebar semver array pages items iteration) p q) :
    portalKey pages p ≤ portalKey pages q := by
  rw [sidebar_eq] at h
  exact key_le_of_before h

-- A page with an order comes before one without, whatever the order is.
theorem ordered_before {p q : String} (hp : Shown items p) (hq : Shown items q) {order : SmallInt}
    (ordered : orderOf pages q = some order) (unordered : orderOf pages p = none) :
    Before (sidebar semver array pages items iteration) q p := by
  rw [sidebar_eq]
  apply before_of_key_lt (mem_keys_iff.mpr hq) (mem_keys_iff.mpr hp)
  rw [portalKey_of_order ordered, portalKey_of_none unordered]
  exact value_lt_maxValue order

-- The backend has a page without an order before one with a positive order.
theorem unordered_listed_before {p q : String} {order : SmallInt}
    (listed : p ∈ allPageNames pages items) (unordered : orderOf pages p = none)
    (ordered : orderOf pages q = some order) (positive : 0 < order.value) :
    Before (getPagesRoute pages items iteration) ⟨p, none⟩ ⟨q, some order⟩ := by
  have hp : p ∈ iteration.names := (iteration.exact p).mpr listed
  have hq : q ∈ iteration.names := (iteration.exact q).mpr (listed_of_order ordered)
  apply before_of_key_lt
  next => exact List.mem_map.mpr ⟨p, hp, by rw [unordered]⟩
  next => exact List.mem_map.mpr ⟨q, hq, by rw [ordered]⟩
  next => exact positive

/-- The sidebar contradicts the backend's order exactly when a page without an order and one with a
positive order are both shown. -/
theorem agree_iff (semver : Semver) (array : ArraySort) (pages : PublishedPages)
    (items : List Item) (iteration : Iteration (allPageNames pages items)) :
    Agree (getPagesRoute pages items iteration) (sidebar semver array pages items iteration) ↔
      Comparable pages items := by
  constructor
  next =>
    intro agree p q hp hq listed unordered order ordered
    by_contra positive
    have positive : 0 < order.value := by omega
    have backend : Before (getPagesRoute pages items iteration) ⟨p, none⟩ ⟨q, some order⟩ :=
      unordered_listed_before listed unordered ordered positive
    exact agree _ _ backend positive (ordered_before hp hq ordered unordered)
  next =>
    intro comparable p q backend less turned
    obtain ⟨listed, own⟩ := mem_getPagesRoute.mp backend.left
    obtain ⟨_, own'⟩ := mem_getPagesRoute.mp backend.right
    have keys := portalKey_le turned
    unfold sortKey at less
    cases first : orderOf pages p.name with
    | none =>
        rw [first] at own
        rw [own] at less
        cases second : orderOf pages q.name with
        | none =>
            rw [second] at own'
            rw [own'] at less
            exact absurd less (by decide)
        | some order =>
            rw [second] at own'
            rw [own'] at less
            have bound := comparable p.name q.name (shown_right turned) (shown_left turned) listed
              first order second
            exact absurd less (not_lt_of_ge bound)
    | some order =>
        rw [first] at own
        rw [own] at less
        rw [portalKey_of_order first] at keys
        cases second : orderOf pages q.name with
        | none =>
            rw [portalKey_of_none second] at keys
            exact absurd (value_lt_maxValue order) (not_lt_of_ge keys)
        | some order' =>
            rw [second] at own'
            rw [own'] at less
            rw [portalKey_of_order second] at keys
            exact absurd less (not_lt_of_ge keys)

-- One page is published without an order and the other with the order 1.
def testPages : PublishedPages where
  rows := [⟨"Test Page 1", none⟩, ⟨"Test Page 2", some ⟨1, by decide, by decide⟩⟩]
  keys_nodup := by decide

def testItems : List Item :=
  [release "Composer" "1.0.0" "Test Page 1", release "Viewer" "1.0.0" "Test Page 2"]

def testIteration : Iteration (allPageNames testPages testItems) where
  names := ["Test Page 1", "Test Page 2"]
  nodup := by decide
  exact name := by
    have elements : allPageNames testPages testItems =
        ["Test Page 1", "Test Page 2", "Test Page 1", "Test Page 2"] := by decide
    rw [elements]
    grind

theorem test_pages_disagree :
    ¬ Agree (getPagesRoute testPages testItems testIteration)
      (sidebar releases stable testPages testItems testIteration) := by
  intro agree
  have ordered : orderOf testPages "Test Page 2" = some ⟨1, by decide, by decide⟩ := by decide
  have unordered : orderOf testPages "Test Page 1" = none := by decide
  have first : Shown testItems "Test Page 1" := ⟨"Composer", by decide⟩
  have second : Shown testItems "Test Page 2" := ⟨"Viewer", by decide⟩
  have backend : Before (getPagesRoute testPages testItems testIteration) ⟨"Test Page 1", none⟩
      ⟨"Test Page 2", some ⟨1, by decide, by decide⟩⟩ :=
    unordered_listed_before (by decide) unordered ordered (by decide)
  exact agree _ _ backend (by decide) (ordered_before first second ordered unordered)

end StreamingPortal.Web.Pages
