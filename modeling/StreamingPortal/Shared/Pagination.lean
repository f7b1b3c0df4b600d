import Mathlib.Data.List.Nodup
import Mathlib.Data.List.Perm.Basic

set_option autoImplicit false

/-!
# Pages of a sorted list

Every page is cut out of an answer of its own. All answers are sorted by the same
preorder, which leaves open how elements that tie are arranged.
-/

namespace StreamingPortal.Pagination

universe u

variable {α : Type u}

/-- Pages are counted from zero here. -/
def page (size k : Nat) (xs : List α) : List α := (xs.drop (k * size)).take size

theorem mem_take {n : Nat} {xs : List α} {x : α} :
    x ∈ xs.take n ↔ ∃ i, i < n ∧ xs[i]? = some x := by
  rw [List.mem_iff_getElem?]
  refine exists_congr fun i => ?_
  rw [List.getElem?_take]
  split
  next inside => simp [inside]
  next outside => simp [outside]

theorem mem_drop {n : Nat} {xs : List α} {x : α} :
    x ∈ xs.drop n ↔ ∃ i, n ≤ i ∧ xs[i]? = some x := by
  rw [List.mem_iff_getElem?]
  constructor
  · rintro ⟨i, here⟩
    exact ⟨n + i, Nat.le_add_right n i, by simpa using here⟩
  · rintro ⟨i, after, here⟩
    obtain ⟨j, rfl⟩ := Nat.exists_eq_add_of_le after
    exact ⟨j, by simpa using here⟩

theorem mem_page {size k : Nat} {xs : List α} {x : α} (positive : 0 < size) :
    x ∈ page size k xs ↔ ∃ i, i / size = k ∧ xs[i]? = some x := by
  rw [page, mem_take]
  constructor
  · rintro ⟨j, inside, here⟩
    refine ⟨k * size + j, ?_, by simpa using here⟩
    rw [Nat.mul_comm, Nat.mul_add_div positive, Nat.div_eq_of_lt inside, Nat.add_zero]
  · rintro ⟨i, rfl, here⟩
    refine ⟨i % size, Nat.mod_lt i positive, ?_⟩
    rw [List.getElem?_drop, Nat.mul_comm, Nat.div_add_mod]
    exact here

theorem page_map {β : Type u} (f : α → β) (size k : Nat) (xs : List α) :
    page size k (xs.map f) = (page size k xs).map f := by
  rw [page, page, List.map_take, List.map_drop]

theorem split_page (size k : Nat) (xs : List α) :
    xs = xs.take (k * size) ++ page size k xs ++ xs.drop ((k + 1) * size) := by
  rw [List.append_assoc, page, Nat.succ_mul, ← List.drop_drop, List.take_append_drop,
    List.take_append_drop]

theorem take_succ_page (size k : Nat) (xs : List α) :
    xs.take ((k + 1) * size) = xs.take (k * size) ++ page size k xs := by
  rw [page, Nat.succ_mul, List.take_add]

theorem page_disjoint {xs : List α} (nodup : xs.Nodup) (size k : Nat) :
    (xs.take (k * size)).Disjoint (page size k xs) := by
  intro x early late
  exact List.disjoint_take_drop nodup (Nat.le_refl _) early (List.mem_of_mem_take late)

theorem page_eq_filter {size k : Nat} {xs : List α} {good : α → Bool} (positive : 0 < size)
    (places : ∀ i x, xs[i]? = some x → (good x = true ↔ i / size = k)) :
    page size k xs = xs.filter good := by
  have before : (xs.take (k * size)).filter good = [] := by
    refine List.filter_eq_nil_iff.mpr fun x inside chosen => ?_
    obtain ⟨i, early, here⟩ := mem_take.mp inside
    have place := (places i x here).mp chosen
    exact absurd ((Nat.div_lt_iff_lt_mul positive).mpr early) (by omega)
  have after : (xs.drop ((k + 1) * size)).filter good = [] := by
    refine List.filter_eq_nil_iff.mpr fun x inside chosen => ?_
    obtain ⟨i, late, here⟩ := mem_drop.mp inside
    have place := (places i x here).mp chosen
    exact absurd ((Nat.le_div_iff_mul_le positive).mpr late) (by omega)
  have within : (page size k xs).filter good = page size k xs := by
    refine List.filter_eq_self.mpr fun x inside => ?_
    obtain ⟨i, place, here⟩ := (mem_page positive).mp inside
    exact (places i x here).mpr place
  conv_rhs => rw [split_page size k xs]
  rw [List.filter_append, List.filter_append, before, after, within, List.nil_append,
    List.append_nil]

/-! ## Where a sorted list can have an element -/

def Sorted (le : α → α → Bool) (xs : List α) : Prop := xs.Pairwise fun x y => le x y = true

def rank (le : α → α → Bool) (xs : List α) (x : α) : Nat := xs.countP fun y => !le x y

def ties (le : α → α → Bool) (xs : List α) (x : α) : Nat := xs.countP fun y => le x y && le y x

/-- No two elements that tie have a page boundary between them. -/
def TiesTogether (le : α → α → Bool) (size : Nat) (xs : List α) : Prop :=
  ∀ x ∈ xs, rank le xs x / size = (rank le xs x + ties le xs x - 1) / size

instance (le : α → α → Bool) (size : Nat) (xs : List α) : Decidable (TiesTogether le size xs) :=
  inferInstanceAs (Decidable (∀ x ∈ xs, _))

section Order

variable {le : α → α → Bool}
variable (trans : ∀ x y z, le x y = true → le y z = true → le x z = true)
variable (total : ∀ x y, (le x y || le y x) = true)
variable {xs ys : List α} {x y : α} {i : Nat}

theorem rank_perm (perm : ys.Perm xs) (x : α) : rank le ys x = rank le xs x :=
  perm.countP_eq _

theorem ties_perm (perm : ys.Perm xs) (x : α) : ties le ys x = ties le xs x :=
  perm.countP_eq _

include total in
theorem le_refl (x : α) : le x x = true := by simpa using total x x

include total in
theorem Sorted.le_of_index (sorted : Sorted le xs) {i j : Nat} (before : i ≤ j)
    (here : xs[i]? = some x) (there : xs[j]? = some y) : le x y = true := by
  rcases Nat.eq_or_lt_of_le before with rfl | earlier
  · obtain rfl := Option.some.inj (here.symm.trans there)
    exact le_refl total x
  · obtain ⟨bound, rfl⟩ := List.getElem?_eq_some_iff.mp here
    obtain ⟨bound', rfl⟩ := List.getElem?_eq_some_iff.mp there
    exact List.pairwise_iff_getElem.mp sorted i j bound bound' earlier

include total in
theorem rank_add_ties (xs : List α) (x : α) :
    rank le xs x + ties le xs x = xs.countP fun y => le y x := by
  induction xs with
  | nil => rfl
  | cons y ys ih =>
      have either := total x y
      unfold rank ties at ih ⊢
      simp only [List.countP_cons]
      cases above : le x y <;> cases below : le y x <;> simp_all <;> omega

include total in
theorem ties_pos (inside : x ∈ xs) : 0 < ties le xs x := by
  refine List.countP_pos_iff.mpr ⟨x, inside, ?_⟩
  simp [le_refl total x]

include total in
theorem rank_le_index (sorted : Sorted le xs) (here : xs[i]? = some x) : rank le xs x ≤ i := by
  have rest : (xs.drop i).countP (fun y => !le x y) = 0 := by
    refine List.countP_eq_zero.mpr fun y inside => ?_
    obtain ⟨j, after, there⟩ := mem_drop.mp inside
    simp [sorted.le_of_index total after here there]
  rw [rank, ← List.take_append_drop i xs, List.countP_append, rest, Nat.add_zero]
  exact Nat.le_trans List.countP_le_length (List.length_take_le i xs)

include total in
theorem index_lt_rank_add_ties (sorted : Sorted le xs) (here : xs[i]? = some x) :
    i < rank le xs x + ties le xs x := by
  have first : (xs.take (i + 1)).countP (fun y => le y x) = (xs.take (i + 1)).length := by
    refine List.countP_eq_length.mpr fun y inside => ?_
    obtain ⟨j, before, there⟩ := mem_take.mp inside
    exact sorted.le_of_index total (Nat.le_of_lt_succ before) there here
  have bound : i < xs.length := (List.getElem?_eq_some_iff.mp here).1
  rw [rank_add_ties total, ← List.take_append_drop (i + 1) xs, List.countP_append, first,
    List.length_take]
  omega

/-! ## The pages of many answers -/

include total in
theorem page_of_sorted {size k : Nat} (positive : 0 < size) (perm : ys.Perm xs)
    (sorted : Sorted le ys) (together : TiesTogether le size xs) :
    (page size k ys).Perm (xs.filter fun x => decide (rank le xs x / size = k)) := by
  have cut : page size k ys = ys.filter fun x => decide (rank le xs x / size = k) := by
    refine page_eq_filter positive fun i x here => ?_
    have low := rank_le_index total sorted here
    have high := index_lt_rank_add_ties total sorted here
    rw [rank_perm perm] at low high
    rw [ties_perm perm] at high
    have same := together x (perm.mem_iff.mp (List.mem_of_getElem? here))
    -- The place of `x` is between the ends of its ties, which are on one page.
    have above := Nat.div_le_div_right (c := size) low
    have below := Nat.div_le_div_right (c := size) (Nat.le_sub_one_of_lt high)
    rw [decide_eq_true_iff]
    omega
  rw [cut]
  exact perm.filter _

theorem classes_perm (f : α → Nat) (xs : List α) (n : Nat) :
    ((List.range n).flatMap fun k => xs.filter fun x => decide (f x = k)).Perm
      (xs.filter fun x => decide (f x < n)) := by
  induction n with
  | zero => simp
  | succ n ih =>
      rw [List.range_succ, List.flatMap_append, List.flatMap_singleton]
      refine (ih.append_right _).trans ?_
      have parts := List.filter_append_perm (fun x => decide (f x < n))
        (xs.filter fun x => decide (f x < n + 1))
      rw [List.filter_filter, List.filter_filter] at parts
      have low : (xs.filter fun x => decide (f x < n) && decide (f x < n + 1)) =
          xs.filter fun x => decide (f x < n) := by
        refine List.filter_congr fun x _ => ?_
        rw [← Bool.decide_and, decide_eq_decide]
        omega
      have last : (xs.filter fun x => !decide (f x < n) && decide (f x < n + 1)) =
          xs.filter fun x => decide (f x = n) := by
        refine List.filter_congr fun x _ => ?_
        rw [← decide_not, ← Bool.decide_and, decide_eq_decide]
        omega
      rwa [low, last] at parts

include total in
/-- Where ties stay together, the pages are a partition, whatever the answers are. -/
theorem pages_perm {size n : Nat} {answers : Nat → List α} (positive : 0 < size)
    (enough : xs.length ≤ n * size) (perm : ∀ k, (answers k).Perm xs)
    (sorted : ∀ k, Sorted le (answers k)) (together : TiesTogether le size xs) :
    ((List.range n).flatMap fun k => page size k (answers k)).Perm xs := by
  have cut (k : Nat) (_ : k ∈ List.range n) :=
    page_of_sorted (k := k) total positive (perm k) (sorted k) together
  refine (List.Perm.flatMap_left _ cut).trans ((classes_perm _ xs n).trans ?_)
  rw [List.filter_eq_self.mpr]
  intro x inside
  have some_ := ties_pos total inside
  have length : rank le xs x + ties le xs x ≤ xs.length := by
    rw [rank_add_ties total]
    exact List.countP_le_length
  rw [decide_eq_true_iff, Nat.div_lt_iff_lt_mul positive]
  omega

include total in
theorem tiesTogether_of_antisymm (nodup : xs.Nodup) (size : Nat)
    (antisymm : ∀ x ∈ xs, ∀ y ∈ xs, le x y = true → le y x = true → y = x) :
    TiesTogether le size xs := by
  classical
  intro x inside
  have alone : ties le xs x = xs.count x := by
    refine List.countP_congr fun y there => ?_
    rw [Bool.and_eq_true, beq_iff_eq]
    constructor
    · rintro ⟨above, below⟩
      exact antisymm x inside y there above below
    · rintro rfl
      exact ⟨le_refl total y, le_refl total y⟩
  rw [alone, List.count_eq_one_of_mem nodup inside, Nat.add_sub_cancel]

/-! ## Ties across a boundary -/

def swapTied (le : α → α → Bool) (i : Nat) (xs : List α) : List α :=
  match xs.drop i with
  | u :: v :: after => if le v u then xs.take i ++ v :: u :: after else xs
  | _ => xs

theorem swapTied_perm (le : α → α → Bool) (i : Nat) (xs : List α) :
    (swapTied le i xs).Perm xs := by
  unfold swapTied
  split
  next u v after rest =>
    split
    next =>
      have swapped := (List.Perm.swap u v after).append_left (xs.take i)
      rwa [← rest, List.take_append_drop] at swapped
    next => exact .refl xs
  next => exact .refl xs

theorem swapTied_sorted (i : Nat) (sorted : Sorted le xs) : Sorted le (swapTied le i xs) := by
  unfold swapTied
  split
  next u v after rest =>
    split
    next tied =>
      rw [← List.take_append_drop i xs, rest] at sorted
      unfold Sorted at sorted ⊢
      simp only [List.pairwise_append, List.pairwise_cons, List.mem_cons, forall_eq_or_imp]
        at sorted ⊢
      obtain ⟨before, ⟨⟨-, first⟩, second, later⟩, across⟩ := sorted
      refine ⟨before, ⟨⟨tied, second⟩, first, later⟩, fun x inside => ?_⟩
      exact ⟨(across x inside).2.1, (across x inside).1, (across x inside).2.2⟩
    next => exact sorted
  next => exact sorted

include trans total in
theorem tied_of_index (sorted : Sorted le xs) (here : xs[i]? = some y) (low : rank le xs x ≤ i)
    (high : i < rank le xs x + ties le xs x) : le x y = true ∧ le y x = true := by
  constructor
  · -- Otherwise everything up to `y` comes before `x`.
    by_contra below
    have first : (xs.take (i + 1)).countP (fun z => !le x z) = (xs.take (i + 1)).length := by
      refine List.countP_eq_length.mpr fun z inside => ?_
      obtain ⟨j, before, there⟩ := mem_take.mp inside
      have least := sorted.le_of_index total (Nat.le_of_lt_succ before) there here
      rw [Bool.not_eq_true']
      exact Bool.eq_false_iff.mpr fun above => below (trans x z y above least)
    have bound : i < xs.length := (List.getElem?_eq_some_iff.mp here).1
    rw [rank, ← List.take_append_drop (i + 1) xs, List.countP_append, first,
      List.length_take] at low
    omega
  · -- Otherwise nothing from `y` on is as small as `x`.
    by_contra above
    have rest : (xs.drop i).countP (fun z => le z x) = 0 := by
      refine List.countP_eq_zero.mpr fun z inside below => ?_
      obtain ⟨j, after, there⟩ := mem_drop.mp inside
      have least := sorted.le_of_index total after here there
      exact above (trans y z x least below)
    rw [rank_add_ties total, ← List.take_append_drop i xs, List.countP_append, rest,
      Nat.add_zero] at high
    have short := Nat.lt_of_lt_of_le high (Nat.le_trans List.countP_le_length
      (List.length_take_le i xs))
    omega

include trans total in
/-- Where ties do not stay together, two answers show one element on two pages. -/
theorem exists_repeated {size : Nat} (positive : 0 < size) (perm : ys.Perm xs)
    (sorted : Sorted le ys) (crossing : ¬ TiesTogether le size xs) :
    ∃ k u, (k + 1) * size < xs.length ∧ u ∈ page size k ys ∧
      u ∈ page size (k + 1) (swapTied le ((k + 1) * size - 1) ys) := by
  simp only [TiesTogether, not_forall] at crossing
  obtain ⟨x, inside, apart⟩ := crossing
  have some_ := ties_pos total inside
  have length : rank le xs x + ties le xs x ≤ xs.length := by
    rw [rank_add_ties total]
    exact List.countP_le_length
  have more := Nat.lt_of_le_of_ne (Nat.div_le_div_right
    (show rank le xs x ≤ rank le xs x + ties le xs x - 1 by omega)) apart
  obtain ⟨k, last⟩ : ∃ k, (rank le xs x + ties le xs x - 1) / size = k + 1 :=
    Nat.exists_eq_succ_of_ne_zero (Nat.ne_of_gt (Nat.zero_lt_of_lt more))
  have low : rank le xs x < (k + 1) * size := (Nat.div_lt_iff_lt_mul positive).mp (last ▸ more)
  have high : (k + 1) * size ≤ rank le xs x + ties le xs x - 1 :=
    (Nat.le_div_iff_mul_le positive).mp (Nat.le_of_eq last.symm)
  have wide : 0 < (k + 1) * size := Nat.mul_pos (Nat.succ_pos k) positive
  -- The boundary is between `u` and `v`, which both tie with `x`.
  obtain ⟨u, hu⟩ : ∃ u, ys[(k + 1) * size - 1]? = some u :=
    ⟨_, List.getElem?_eq_getElem (by rw [perm.length_eq]; omega)⟩
  obtain ⟨v, hv⟩ : ∃ v, ys[(k + 1) * size]? = some v :=
    ⟨_, List.getElem?_eq_getElem (by rw [perm.length_eq]; omega)⟩
  have tiedU := tied_of_index (x := x) trans total sorted hu
    (by rw [rank_perm perm]; omega) (by rw [rank_perm perm, ties_perm perm]; omega)
  have tiedV := tied_of_index (x := x) trans total sorted hv
    (by rw [rank_perm perm]; omega) (by rw [rank_perm perm, ties_perm perm]; omega)
  have tied : le v u = true := trans v x u tiedV.2 tiedU.1
  refine ⟨k, u, by omega, (mem_page positive).mpr ⟨_, ?_, hu⟩,
    (mem_page positive).mpr ⟨(k + 1) * size, Nat.mul_div_cancel _ positive, ?_⟩⟩
  · refine Nat.div_eq_of_lt_le ?_ (by omega)
    rw [Nat.succ_mul]
    omega
  · have rest : ys.drop ((k + 1) * size - 1) = u :: v :: ys.drop ((k + 1) * size + 1) := by
      obtain ⟨bound, rfl⟩ := List.getElem?_eq_some_iff.mp hu
      obtain ⟨bound', rfl⟩ := List.getElem?_eq_some_iff.mp hv
      rw [List.drop_eq_getElem_cons bound, Nat.sub_add_cancel wide,
        List.drop_eq_getElem_cons bound']
    have taken : (ys.take ((k + 1) * size - 1)).length = (k + 1) * size - 1 := by
      rw [List.length_take, perm.length_eq]
      omega
    simp only [swapTied, rest, tied, if_true]
    rw [List.getElem?_append_right (by omega), taken]
    simp [Nat.sub_sub_self (Nat.succ_le_of_lt wide)]

end Order

theorem not_perm_of_repeated {size n k : Nat} {xs : List α} {answers : Nat → List α} {u : α}
    (nodup : xs.Nodup) (bound : k + 1 < n) (first : u ∈ page size k (answers k))
    (second : u ∈ page size (k + 1) (answers (k + 1))) :
    ¬ ((List.range n).flatMap fun k => page size k (answers k)).Perm xs := by
  intro perm
  have apart := (List.nodup_flatMap.mp (perm.nodup_iff.mpr nodup)).2
  have here := List.pairwise_iff_getElem.mp apart k (k + 1) (by simp; omega) (by simpa using bound)
    (Nat.lt_succ_self k)
  simp only [List.getElem_range, Function.onFun] at here
  exact here first second

end StreamingPortal.Pagination
