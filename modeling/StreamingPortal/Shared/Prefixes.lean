import Mathlib.Data.List.Induction

set_option autoImplicit false

/-!
# The prefixes of a list

What a loop over a list does at one element depends on the elements before it.
-/

namespace StreamingPortal.Prefixes

universe u

variable {α : Type u}

-- Every element satisfies `good` together with those before it.
def Throughout (good : List α → α → Prop) (xs : List α) : Prop :=
  ∀ before x after, xs = before ++ x :: after → good before x

variable {good ok : List α → α → Prop}

theorem split_concat {xs before after : List α} {x y : α}
    (split : xs ++ [x] = before ++ y :: after) :
    (∃ rest, after = rest ++ [x] ∧ xs = before ++ y :: rest) ∨
      (after = [] ∧ before = xs ∧ y = x) := by
  cases after using List.reverseRecOn with
  | nil =>
      obtain ⟨same, last⟩ := List.append_inj' split rfl
      cases last
      exact Or.inr ⟨rfl, same.symm, rfl⟩
  | append_singleton rest last _ =>
      rw [← List.cons_append, ← List.append_assoc] at split
      obtain ⟨front, same⟩ := List.append_inj' split rfl
      cases same
      exact Or.inl ⟨rest, rfl, front⟩

theorem throughout_nil : Throughout good [] := by
  intro before x after split
  simp at split

theorem throughout_concat {xs : List α} {x : α} :
    Throughout good (xs ++ [x]) ↔ Throughout good xs ∧ good xs x := by
  constructor
  next =>
    intro h
    constructor
    next =>
      intro before y after split
      apply h before y (after ++ [x])
      simp [split]
    next => exact h xs x [] rfl
  next =>
    intro h before y after split
    cases split_concat split with
    | inl earlier =>
        obtain ⟨rest, _, front⟩ := earlier
        exact h.1 before y rest front
    | inr last =>
        obtain ⟨_, rfl, rfl⟩ := last
        exact h.2

-- The invariant rule: what every element preserves, the whole list establishes.
theorem invariant (inv : List α → Prop) (start : inv [])
    (preserved : ∀ before x, inv before → ok before x → inv (before ++ [x])) {xs : List α}
    (throughout : Throughout ok xs) : inv xs := by
  induction xs using List.reverseRecOn with
  | nil => exact start
  | append_singleton xs x ih =>
      have steps := throughout_concat.mp throughout
      exact preserved xs x (ih steps.1) steps.2

/-- Two properties that agree wherever the invariant holds agree on the whole list, when either of
them is what keeps the invariant. -/
theorem throughout_iff (inv : List α → Prop) (start : inv [])
    (preserved : ∀ before x, inv before → ok before x → inv (before ++ [x]))
    (agree : ∀ before x, inv before → (good before x ↔ ok before x)) (xs : List α) :
    Throughout good xs ↔ Throughout ok xs := by
  induction xs using List.reverseRecOn with
  | nil => exact ⟨fun _ => throughout_nil, fun _ => throughout_nil⟩
  | append_singleton xs x ih =>
      rw [throughout_concat, throughout_concat, ih]
      constructor
      next =>
        intro h
        exact ⟨h.1, (agree xs x (invariant inv start preserved h.1)).mp h.2⟩
      next =>
        intro h
        exact ⟨h.1, (agree xs x (invariant inv start preserved h.1)).mpr h.2⟩

end StreamingPortal.Prefixes
