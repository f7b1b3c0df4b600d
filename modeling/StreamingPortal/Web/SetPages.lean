import Mathlib.Data.List.Induction
import StreamingPortal.Web.Pages

set_option autoImplicit false

/-!
# Setting the pages

`PUT /pages/` deletes the table, writes one element of the body after the other, and answers as
`GET /pages/` does.
-/

namespace StreamingPortal.Web.Pages

open StreamingPortal.Web.Apps

/-- An element of the body; `order` is `none` where the element leaves the field out. -/
structure SubmittedPage where
  name : String
  order : Option (Option SmallInt)
deriving DecidableEq

def writeOrder (pages : PublishedPages) (name : String) (order : Option SmallInt) :
    PublishedPages :=
  pages.update name (fun row => { row with order := order }) fun _ => rfl

-- `update_or_create` with the fields that were set.
def updateOrCreate (pages : PublishedPages) (page : SubmittedPage) : PublishedPages :=
  match pages.get? page.name with
  | some row => writeOrder pages page.name (page.order.getD row.order)
  | none => (pages.insert? ⟨page.name, page.order.getD none⟩).getD pages

def tableOf (submitted : List SubmittedPage) : PublishedPages :=
  submitted.foldl updateOrCreate Table.empty

-- The table that `set_pages` leaves.
def setPages (pages : PublishedPages) (submitted : List SubmittedPage) : PublishedPages :=
  submitted.foldl updateOrCreate (pages.deleteWhere fun _ => true)

-- The order of the last element with the name that states one.
def statedOrder (submitted : List SubmittedPage) (name : String) : Option SmallInt :=
  ((submitted.filter fun page => page.name = name).filterMap SubmittedPage.order).getLast?.getD none

/-- What the answer says of the submitted pages and of the pages of the applications. -/
structure RoundTrip (submitted : List SubmittedPage) (items : List Item)
    (result : List PublishedPage) : Prop where
  once : (result.map PublishedPage.name).Nodup
  names : ∀ name, name ∈ result.map PublishedPage.name ↔
    name ∈ submitted.map SubmittedPage.name ∨ (name ≠ "" ∧ ∃ item ∈ items, item.page = name)
  sorted : result.Pairwise fun p q => sortKey p ≤ sortKey q
  orders : ∀ page ∈ result, page.order = statedOrder submitted page.name

/-! ## The table -/

theorem deleteAll (pages : PublishedPages) : pages.deleteWhere (fun _ => true) = Table.empty := by
  simp [Table.deleteWhere, Table.empty]

theorem setPages_eq_tableOf (pages : PublishedPages) (submitted : List SubmittedPage) :
    setPages pages submitted = tableOf submitted := by
  rw [setPages, deleteAll, tableOf]

theorem tableOf_concat (submitted : List SubmittedPage) (page : SubmittedPage) :
    tableOf (submitted ++ [page]) = updateOrCreate (tableOf submitted) page := by
  simp [tableOf]

theorem get?_updateOrCreate (pages : PublishedPages) (page : SubmittedPage) (name : String) :
    (updateOrCreate pages page).get? name =
      if name = page.name then
        some ⟨name, page.order.getD (orderOf pages name)⟩
      else pages.get? name := by
  unfold updateOrCreate orderOf
  cases stored : pages.get? page.name with
  | some row =>
      have key := (Table.mem_of_get? stored).2
      simp only [writeOrder]
      rw [Table.get?_update, stored]
      split
      next same =>
        subst same
        rw [← key] at stored ⊢
        simp [stored]
      next => rfl
  | none =>
      obtain ⟨table, inserted⟩ : ∃ table, pages.insert? ⟨page.name, page.order.getD none⟩ =
          some table := Table.insert?_of_fresh stored
      rw [inserted, Option.getD_some, Table.get?_insert inserted]
      split
      next same =>
        subst same
        simp [stored]
      next => rfl

theorem statedOrder_concat (submitted : List SubmittedPage) (page : SubmittedPage)
    (name : String) : statedOrder (submitted ++ [page]) name =
      if name = page.name then page.order.getD (statedOrder submitted name)
      else statedOrder submitted name := by
  unfold statedOrder
  rw [List.filter_append, List.filterMap_append]
  by_cases same : name = page.name
  next =>
    subst same
    cases order : page.order <;> simp [order]
  next =>
    have other : ¬ page.name = name := fun h => same h.symm
    simp [same, other]

theorem statedOrder_of_not_mem {submitted : List SubmittedPage} {name : String}
    (missing : name ∉ submitted.map SubmittedPage.name) : statedOrder submitted name = none := by
  have none : submitted.filter (fun page => page.name = name) = [] := by
    rw [List.filter_eq_nil_iff]
    intro page member
    rw [decide_eq_true_eq]
    intro same
    exact missing (List.mem_map.mpr ⟨page, member, same⟩)
  rw [statedOrder, none]
  rfl

theorem get?_tableOf (submitted : List SubmittedPage) (name : String) :
    (tableOf submitted).get? name =
      if name ∈ submitted.map SubmittedPage.name then some ⟨name, statedOrder submitted name⟩
      else none := by
  induction submitted using List.reverseRecOn with
  | nil => rfl
  | append_singleton submitted page ih =>
      have order : orderOf (tableOf submitted) name = statedOrder submitted name := by
        unfold orderOf
        rw [ih]
        split
        next => rfl
        next missing => exact (statedOrder_of_not_mem missing).symm
      rw [tableOf_concat, get?_updateOrCreate, statedOrder_concat, order, ih]
      by_cases same : name = page.name <;> simp [same]

theorem orderOf_tableOf (submitted : List SubmittedPage) (name : String) :
    orderOf (tableOf submitted) name = statedOrder submitted name := by
  unfold orderOf
  rw [get?_tableOf]
  split
  next => rfl
  next missing => exact (statedOrder_of_not_mem missing).symm

theorem mem_names_tableOf (submitted : List SubmittedPage) (name : String) :
    name ∈ (tableOf submitted).rows.map PublishedPage.name ↔
      name ∈ submitted.map SubmittedPage.name := by
  constructor
  next =>
    intro listed
    obtain ⟨row, stored, rfl⟩ := List.mem_map.mp listed
    have found := Table.get?_of_mem stored
    rw [get?_tableOf] at found
    split at found
    next submitted => exact submitted
    next => contradiction
  next =>
    intro listed
    have found := get?_tableOf submitted name
    rw [if_pos listed] at found
    exact List.mem_map_of_mem (f := PublishedPage.name) (Table.mem_of_get? found).1

/-! ## The answer -/

-- The route `set_pages`, while no other request is served.
def setPagesRoute (pages : PublishedPages) (submitted : List SubmittedPage) (items : List Item)
    (iteration : Iteration (allPageNames (setPages pages submitted) items)) :
    List PublishedPage :=
  getPagesRoute (setPages pages submitted) items iteration

theorem mem_appPageNames {items : List Item} {name : String} :
    name ∈ appPageNames items ↔ name ≠ "" ∧ ∃ item ∈ items, item.page = name := by
  simp only [appPageNames, List.mem_filter, List.mem_map, decide_eq_true_eq]
  exact and_comm

/-- The answer has what was submitted, and the table that was there before has no part in it. -/
theorem setPages_roundTrip (pages : PublishedPages) (submitted : List SubmittedPage)
    (items : List Item)
    (iteration : Iteration (allPageNames (setPages pages submitted) items)) :
    RoundTrip submitted items (setPagesRoute pages submitted items iteration) ∧
      ∀ previous, setPages previous submitted = setPages pages submitted := by
  constructor
  next =>
    constructor
    next => exact getPagesRoute_nodup iteration
    next =>
      intro name
      have listed : name ∈ allPageNames (setPages pages submitted) items ↔
          name ∈ submitted.map SubmittedPage.name ∨
            (name ≠ "" ∧ ∃ item ∈ items, item.page = name) := by
        rw [allPageNames, List.mem_append, mem_appPageNames, setPages_eq_tableOf,
          mem_names_tableOf, or_comm]
      rw [← listed]
      constructor
      next =>
        intro found
        obtain ⟨page, member, rfl⟩ := List.mem_map.mp found
        exact (mem_getPagesRoute.mp member).1
      next =>
        intro found
        have member : (⟨name, orderOf (setPages pages submitted) name⟩ : PublishedPage) ∈
            setPagesRoute pages submitted items iteration := mem_getPagesRoute.mpr ⟨found, rfl⟩
        exact List.mem_map_of_mem (f := PublishedPage.name) member
    next => exact sortBy_pairwise sortKey _
    next =>
      intro page member
      rw [(mem_getPagesRoute.mp member).2, setPages_eq_tableOf, orderOf_tableOf]
  next =>
    intro previous
    rw [setPages_eq_tableOf, setPages_eq_tableOf]

end StreamingPortal.Web.Pages
