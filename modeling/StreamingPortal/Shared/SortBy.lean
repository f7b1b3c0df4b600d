import Mathlib.Data.List.Nodup
import Mathlib.Order.Lattice

set_option autoImplicit false

/-!
# Sorting by a key

A stable sort, and what it says about the places of two elements.
-/

namespace StreamingPortal

universe u v

variable {α : Type u} {κ : Type v}

-- `x` stands before `y`.
def Before (xs : List α) (x y : α) : Prop := [x, y].Sublist xs

theorem Before.map {xs : List α} {x y : α} {f : α → κ} (h : Before xs x y) :
    Before (xs.map f) (f x) (f y) := List.Sublist.map f h

theorem Before.left {xs : List α} {x y : α} (h : Before xs x y) : x ∈ xs :=
  h.subset List.mem_cons_self

theorem Before.right {xs : List α} {x y : α} (h : Before xs x y) : y ∈ xs :=
  h.subset (List.mem_cons_of_mem x List.mem_cons_self)

theorem before_or_before {xs : List α} {x y : α} (hx : x ∈ xs) (hy : y ∈ xs) (other : x ≠ y) :
    Before xs x y ∨ Before xs y x := by
  unfold Before
  induction xs with
  | nil => contradiction
  | cons z rest ih =>
      by_cases here : x = z
      next =>
        subst here
        cases List.mem_cons.mp hy with
        | inl same => exact absurd same.symm other
        | inr later => exact Or.inl ((List.singleton_sublist.mpr later).cons_cons x)
      next =>
        cases List.mem_cons.mp hx with
        | inl same => exact absurd same here
        | inr laterX =>
            cases List.mem_cons.mp hy with
            | inl same =>
                subst same
                exact Or.inr ((List.singleton_sublist.mpr laterX).cons_cons y)
            | inr laterY =>
                cases ih laterX laterY with
                | inl found => exact Or.inl (found.cons z)
                | inr found => exact Or.inr (found.cons z)

variable [LinearOrder κ]

-- Equal keys keep their order.
def sortBy (key : α → κ) (xs : List α) : List α := xs.mergeSort fun x y => key x ≤ key y

variable {key : α → κ} {xs : List α}

@[simp] theorem mem_sortBy {x : α} : x ∈ sortBy key xs ↔ x ∈ xs := List.mem_mergeSort

theorem sortBy_perm (key : α → κ) (xs : List α) : (sortBy key xs).Perm xs :=
  List.mergeSort_perm xs _

theorem sortBy_pairwise (key : α → κ) (xs : List α) :
    (sortBy key xs).Pairwise fun x y => key x ≤ key y := by
  have trans : ∀ x y z : α, decide (key x ≤ key y) = true → decide (key y ≤ key z) = true →
      decide (key x ≤ key z) = true := by
    intro x y z first second
    rw [decide_eq_true_eq] at first second ⊢
    exact le_trans first second
  have total : ∀ x y : α, (decide (key x ≤ key y) || decide (key y ≤ key x)) = true := by
    intro x y
    simpa using le_total (key x) (key y)
  simpa [sortBy] using List.pairwise_mergeSort trans total xs

theorem key_le_of_before {x y : α} (h : Before (sortBy key xs) x y) : key x ≤ key y :=
  List.pairwise_iff_forall_sublist.mp (sortBy_pairwise key xs) h

theorem before_of_key_lt {x y : α} (hx : x ∈ xs) (hy : y ∈ xs) (less : key x < key y) :
    Before (sortBy key xs) x y := by
  have other : x ≠ y := by
    intro same
    subst same
    exact lt_irrefl (key x) less
  have hx' : x ∈ sortBy key xs := mem_sortBy.mpr hx
  have hy' : y ∈ sortBy key xs := mem_sortBy.mpr hy
  cases before_or_before hx' hy' other with
  | inl found => exact found
  | inr found => exact absurd less (not_lt_of_ge (key_le_of_before found))

end StreamingPortal
