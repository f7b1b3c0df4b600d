import Mathlib.Data.List.Basic
import Mathlib.Order.Lattice

set_option autoImplicit false

/-!
# Comparators

A comparator that is consistent for the elements of a list decides what a stable sort makes of it.
-/

namespace StreamingPortal

universe u

variable {α : Type u}

/-- Zero on equal arguments, opposite signs when they are swapped, transitive. -/
structure Consistent (comparator : α → α → Int) (xs : List α) : Prop where
  same : ∀ x ∈ xs, comparator x x = 0
  swap : ∀ x ∈ xs, ∀ y ∈ xs, comparator x y < 0 ↔ 0 < comparator y x
  trans : ∀ x ∈ xs, ∀ y ∈ xs, ∀ z ∈ xs, comparator x y ≤ 0 → comparator y z ≤ 0 →
    comparator x z ≤ 0

/-- `ys` is `xs` in order, and what compares equal stands in it as it does in `xs`. -/
structure StablySorted (comparator : α → α → Int) (xs ys : List α) : Prop where
  perm : ys.Perm xs
  ordered : ys.Pairwise fun x y => comparator x y ≤ 0
  tied : ∀ x ∈ xs, ys.filter (comparator x · = 0) = xs.filter (comparator x · = 0)

variable {comparator : α → α → Int} {xs ys zs : List α}

theorem Consistent.subset (consistent : Consistent comparator xs) (listed : ∀ x ∈ ys, x ∈ xs) :
    Consistent comparator ys where
  same x hx := consistent.same x (listed x hx)
  swap x hx y hy := consistent.swap x (listed x hx) y (listed y hy)
  trans x hx y hy z hz := consistent.trans x (listed x hx) y (listed y hy) z (listed z hz)

theorem Consistent.total (consistent : Consistent comparator xs) {x y : α} (hx : x ∈ xs)
    (hy : y ∈ xs) : comparator x y ≤ 0 ∨ comparator y x ≤ 0 := by
  have opposite := consistent.swap y hy x hx
  omega

theorem Consistent.tied_symm (consistent : Consistent comparator xs) {x y : α} (hx : x ∈ xs)
    (hy : y ∈ xs) (tied : comparator x y = 0) : comparator y x = 0 := by
  have opposite := consistent.swap x hx y hy
  have opposite' := consistent.swap y hy x hx
  omega

theorem Consistent.head_le (consistent : Consistent comparator xs) {x y : α}
    (ordered : (x :: ys).Pairwise fun x y => comparator x y ≤ 0) (listed : x ∈ xs)
    (member : y ∈ x :: ys) : comparator x y ≤ 0 := by
  cases List.mem_cons.mp member with
  | inl same =>
      subst same
      exact (consistent.same y listed).le
  | inr later => exact (List.pairwise_cons.mp ordered).1 y later

section Agree

variable {other : α → α → Int} (agree : ∀ x ∈ xs, ∀ y ∈ xs, comparator x y = other x y)

include agree

-- Only what is in the list is compared.
theorem Consistent.congr (consistent : Consistent comparator xs) : Consistent other xs where
  same x hx := (agree x hx x hx).symm.trans (consistent.same x hx)
  swap x hx y hy := by
    rw [← agree x hx y hy, ← agree y hy x hx]
    exact consistent.swap x hx y hy
  trans x hx y hy z hz := by
    rw [← agree x hx y hy, ← agree y hy z hz, ← agree x hx z hz]
    exact consistent.trans x hx y hy z hz

theorem StablySorted.congr (sorted : StablySorted comparator xs ys) : StablySorted other xs ys where
  perm := sorted.perm
  ordered := by
    apply sorted.ordered.imp_of_mem
    intro x y hx hy below
    rwa [← agree x (sorted.perm.mem_iff.mp hx) y (sorted.perm.mem_iff.mp hy)]
  tied x hx := by
    have same : ∀ zs : List α, (∀ z ∈ zs, z ∈ xs) →
        zs.filter (other x · = 0) = zs.filter (comparator x · = 0) := by
      intro zs listed
      apply List.filter_congr
      intro z hz
      rw [agree x hx z (listed z hz)]
    rw [same ys fun y hy => sorted.perm.mem_iff.mp hy, same xs fun _ hz => hz]
    exact sorted.tied x hx

end Agree

/-- There is at most one list that is sorted so. -/
theorem StablySorted.unique (consistent : Consistent comparator xs)
    (first : StablySorted comparator xs ys) (second : StablySorted comparator xs zs) : ys = zs := by
  obtain ⟨perm, ordered, tied⟩ := first
  obtain ⟨perm', ordered', tied'⟩ := second
  have both : ∀ x ∈ ys, ys.filter (comparator x · = 0) = zs.filter (comparator x · = 0) :=
    fun x hx => (tied x (perm.mem_iff.mp hx)).trans (tied' x (perm.mem_iff.mp hx)).symm
  have consistent' : Consistent comparator ys := consistent.subset fun x hx => perm.mem_iff.mp hx
  have together : ys.Perm zs := perm.trans perm'.symm
  clear consistent perm perm' tied tied'
  induction ys generalizing zs with
  | nil => exact together.symm.eq_nil.symm
  | cons y ys ih =>
      cases zs with
      | nil => exact absurd together.eq_nil (List.cons_ne_nil y ys)
      | cons z zs =>
          have hy : y ∈ y :: ys := List.mem_cons_self
          have hz : z ∈ y :: ys := together.mem_iff.mpr List.mem_cons_self
          -- The two heads compare equal, so that each is the first of those that do.
          have below := consistent'.head_le ordered hy hz
          have above := consistent'.head_le ordered' hz (together.mem_iff.mp hy)
          have opposite := consistent'.swap y hy z hz
          have tie : comparator y z = 0 := by omega
          have firsts := both y hy
          rw [List.filter_cons_of_pos (by simp [consistent'.same y hy]),
            List.filter_cons_of_pos (by simp [tie]), List.cons.injEq] at firsts
          obtain ⟨rfl, -⟩ := firsts
          congr 1
          apply ih ordered.of_cons ordered'.of_cons
          next =>
            intro x hx
            have whole := both x (List.mem_cons_of_mem y hx)
            by_cases counted : comparator x y = 0
            next => simpa [counted] using whole
            next => simpa [counted] using whole
          next => exact consistent'.subset fun x hx => List.mem_cons_of_mem y hx
          next => exact together.cons_inv

theorem stablySorted_of_ordered (ordered : xs.Pairwise fun x y => comparator x y ≤ 0) :
    StablySorted comparator xs xs := ⟨List.Perm.refl xs, ordered, fun _ _ => rfl⟩

-- A list that is in order already stays as it is.
theorem StablySorted.again (consistent : Consistent comparator xs)
    (first : StablySorted comparator xs ys) (second : StablySorted comparator ys zs) : zs = ys := by
  have consistent' := consistent.subset fun x hx => first.perm.mem_iff.mp hx
  exact second.unique consistent' (stablySorted_of_ordered first.ordered)

/-! ## Merge sort -/

def sortWith (comparator : α → α → Int) (xs : List α) : List α :=
  xs.mergeSort fun x y => comparator x y ≤ 0

theorem sortWith_perm (comparator : α → α → Int) (xs : List α) :
    (sortWith comparator xs).Perm xs := List.mergeSort_perm xs _

section Elements

variable (consistent : Consistent comparator xs)

include consistent

-- Among the elements of the list the comparator is a total preorder.
theorem Consistent.trans_attach (x y z : {x // x ∈ xs}) (first : decide (comparator x y ≤ 0) = true)
    (second : decide (comparator y z ≤ 0) = true) : decide (comparator x z ≤ 0) = true := by
  rw [decide_eq_true_eq] at first second ⊢
  exact consistent.trans x x.2 y y.2 z z.2 first second

theorem Consistent.total_attach (x y : {x // x ∈ xs}) :
    (decide (comparator x y ≤ 0) || decide (comparator y x ≤ 0)) = true := by
  simpa using consistent.total x.2 y.2

omit consistent in
theorem sortWith_eq_map_attach (comparator : α → α → Int) (xs : List α) :
    sortWith comparator xs =
      (xs.attach.mergeSort fun x y => comparator x y ≤ 0).map Subtype.val := by
  calc
    sortWith comparator xs
        = (xs.attach.map Subtype.val).mergeSort fun x y => comparator x y ≤ 0 := by
          rw [List.attach_map_subtype_val, sortWith]
    _ = (xs.attach.mergeSort fun x y => comparator x y ≤ 0).map Subtype.val :=
          (List.map_mergeSort (s := fun x y => comparator x y ≤ 0) fun _ _ _ _ => rfl).symm

theorem sortWith_ordered : (sortWith comparator xs).Pairwise fun x y => comparator x y ≤ 0 := by
  rw [sortWith_eq_map_attach, List.pairwise_map]
  simpa using List.pairwise_mergeSort consistent.trans_attach consistent.total_attach
    xs.attach

theorem filter_sublist_sortWith {x : α} (listed : x ∈ xs) :
    (xs.filter (comparator x · = 0)).Sublist (sortWith comparator xs) := by
  let tied : List {y // y ∈ xs} := xs.attach.filter fun y => comparator x y = 0
  have ordered : tied.Pairwise fun y z : {y // y ∈ xs} =>
      decide (comparator y z ≤ 0) = true := by
    apply List.pairwise_of_forall_mem_list
    intro y hy z hz
    have front : comparator x y = 0 := by simpa [tied] using hy
    have back : comparator x z = 0 := by simpa [tied] using hz
    have turned := consistent.tied_symm listed y.2 front
    exact decide_eq_true (consistent.trans y y.2 x listed z z.2 turned.le back.le)
  have kept := List.sublist_mergeSort consistent.trans_attach consistent.total_attach
    ordered List.filter_sublist
  have same : tied.map Subtype.val = xs.filter (comparator x · = 0) := by
    have whole := List.filter_map (f := Subtype.val) (l := xs.attach)
      (p := fun y => decide (comparator x y = 0))
    rw [List.attach_map_subtype_val] at whole
    exact whole.symm
  rw [sortWith_eq_map_attach, ← same]
  exact kept.map Subtype.val

theorem stablySorted_sortWith : StablySorted comparator xs (sortWith comparator xs) where
  perm := sortWith_perm comparator xs
  ordered := sortWith_ordered consistent
  tied := by
    intro x hx
    have kept := (filter_sublist_sortWith consistent hx).filter (comparator x · = 0)
    simp only [List.filter_filter, Bool.and_self] at kept
    have lengths := ((sortWith_perm comparator xs).filter (comparator x · = 0)).length_eq
    exact (kept.eq_of_length lengths.symm).symm

end Elements

end StreamingPortal
