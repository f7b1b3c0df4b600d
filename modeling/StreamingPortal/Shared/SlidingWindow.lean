import Mathlib.Data.List.Basic
import Mathlib.Order.Lattice

set_option autoImplicit false

/-!
# A queue of recent entries

Entries come in at the back in the order of their times, and leave at the front once they are older
than the start of the window.
-/

namespace StreamingPortal.SlidingWindow

universe u v

variable {α : Type u} {τ : Type v} [LinearOrder τ] (time : α → τ)

def InOrder (entries : List α) : Prop := entries.Pairwise fun x y => time x ≤ time y

def recent (start : τ) (entries : List α) : List α := entries.filter fun x => start ≤ time x

-- `shift` while the first entry is too old.
def shiftOld (start : τ) : List α → List α
  | [] => []
  | x :: rest => if time x < start then shiftOld start rest else x :: rest

variable {time} {entries : List α} {start : τ}

theorem shiftOld_eq_recent (ordered : InOrder time entries) :
    shiftOld time start entries = recent time start entries := by
  induction entries with
  | nil => rfl
  | cons x rest ih =>
      have later := List.pairwise_cons.mp ordered
      by_cases old : time x < start
      next =>
        have out : ¬ start ≤ time x := not_le_of_gt old
        simp only [shiftOld, old, if_true, recent, List.filter_cons, out, decide_false]
        exact ih later.2
      next =>
        have inside : ∀ y ∈ x :: rest, decide (start ≤ time y) = true := by
          intro y member
          rw [decide_eq_true_eq]
          cases List.mem_cons.mp member with
          | inl same => exact same ▸ le_of_not_gt old
          | inr after => exact le_trans (le_of_not_gt old) (later.1 y after)
        simp only [shiftOld, old, if_false, recent]
        exact (List.filter_eq_self.mpr inside).symm

theorem InOrder.recent (ordered : InOrder time entries) :
    InOrder time (recent time start entries) := List.Pairwise.filter _ ordered

/-- What an earlier window has dropped no later one asks for. -/
theorem recent_recent {later : τ} (moved : start ≤ later) (entries : List α) :
    recent time later (recent time start entries) = recent time later entries := by
  unfold recent
  rw [List.filter_filter]
  apply List.filter_congr
  intro x _
  rw [Bool.and_eq_left_iff_imp, decide_eq_true_eq, decide_eq_true_eq]
  exact fun inside => le_trans moved inside

/-- An ordered history is the entries before the window and those in it. -/
theorem split_recent (ordered : InOrder time entries) (start : τ) :
    ∃ old, entries = old ++ recent time start entries ∧ ∀ x ∈ old, time x < start := by
  induction entries with
  | nil => exact ⟨[], rfl, by simp⟩
  | cons x rest ih =>
      have later := List.pairwise_cons.mp ordered
      by_cases old : time x < start
      next =>
        obtain ⟨before, split, early⟩ := ih later.2
        have out : ¬ start ≤ time x := not_le_of_gt old
        refine ⟨x :: before, ?_, ?_⟩
        next =>
          simp only [recent, List.filter_cons, out, decide_false, List.cons_append]
          exact congrArg (x :: ·) split
        next =>
          intro y member
          cases List.mem_cons.mp member with
          | inl same => exact same ▸ old
          | inr before => exact early y before
      next =>
        refine ⟨[], ?_, by simp⟩
        rw [List.nil_append, ← shiftOld_eq_recent ordered]
        simp [shiftOld, old]

end StreamingPortal.SlidingWindow
