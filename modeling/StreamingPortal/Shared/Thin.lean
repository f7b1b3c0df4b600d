import StreamingPortal.Shared.Table

set_option autoImplicit false

/-!
# Tables that differ by expired rows

`t` holds what `t'` holds, except that some of the expired rows may be missing.
-/

namespace StreamingPortal

universe u v

namespace Table

variable {κ : Type u} {ρ : Type v} {key : ρ → κ} [DecidableEq κ]

theorem get?_deleteWhere (t : Table κ ρ key) (p : ρ → Bool) (k : κ) :
    (t.deleteWhere p).get? k = (t.get? k).filter fun r => !p r := by
  rw [get?_filter]
  rfl

def Thin (expired : ρ → Prop) (t t' : Table κ ρ key) : Prop :=
  ∀ k, t.get? k = t'.get? k ∨ (t.get? k = none ∧ ∃ row, t'.get? k = some row ∧ expired row)

variable {expired : ρ → Prop} {t t' : Table κ ρ key}

theorem Thin.refl (t : Table κ ρ key) : Thin expired t t := fun _ => Or.inl rfl

theorem Thin.mono (thin : Thin expired t t') {later : ρ → Prop}
    (more : ∀ row, expired row → later row) : Thin later t t' := by
  intro k
  rcases thin k with same | ⟨missing, row, stored, old⟩
  · exact Or.inl same
  · exact Or.inr ⟨missing, row, stored, more row old⟩

theorem Thin.none_of_none (thin : Thin expired t t') {k : κ} (missing : t'.get? k = none) :
    t.get? k = none := by
  rcases thin k with same | ⟨absent, -⟩
  · exact same.trans missing
  · exact absent

theorem Thin.insert (thin : Thin expired t t') {r : ρ} {u u' : Table κ ρ key}
    (inserted : t.insert? r = some u) (inserted' : t'.insert? r = some u') :
    Thin expired u u' := by
  intro k
  rw [get?_insert inserted, get?_insert inserted']
  split
  · exact Or.inl rfl
  · exact thin k

theorem Thin.delete (thin : Thin expired t t') (p : ρ → Bool) :
    Thin expired (t.deleteWhere p) (t'.deleteWhere p) := by
  intro k
  rw [get?_deleteWhere, get?_deleteWhere]
  rcases thin k with same | ⟨missing, row, stored, old⟩
  · exact Or.inl (by rw [same])
  · rw [missing, stored]
    cases hit : p row with
    | true => exact Or.inl (by simp [Option.filter, hit])
    | false => exact Or.inr ⟨rfl, row, by simp [Option.filter, hit], old⟩

/-- Expired rows may be deleted from the first table alone. -/
theorem Thin.purge (thin : Thin expired t t') {p : ρ → Bool}
    (old : ∀ row, p row = true → expired row) : Thin expired (t.deleteWhere p) t' := by
  intro k
  rw [get?_deleteWhere]
  rcases thin k with same | ⟨missing, row, stored, past⟩
  · rw [← same]
    cases here : t.get? k with
    | none => exact Or.inl rfl
    | some row =>
        cases hit : p row with
        | true => exact Or.inr ⟨by simp [Option.filter, hit], row, rfl, old row hit⟩
        | false => exact Or.inl (by simp [Option.filter, hit])
  · exact Or.inr ⟨by simp [missing], row, stored, past⟩

/-- A row that the first table does not have may be deleted from the second alone. -/
theorem Thin.catchUp (thin : Thin expired t t') {k : κ} (missing : t.get? k = none) :
    Thin expired t (t'.deleteWhere fun r => decide (key r = k)) := by
  intro j
  rw [get?_deleteWhere]
  by_cases same : j = k
  · subst same
    left
    rw [missing]
    cases stored : t'.get? j with
    | none => rfl
    | some row => simp [Option.filter, (mem_of_get? stored).2]
  · have kept : (t'.get? j).filter (fun r => !decide (key r = k)) = t'.get? j := by
      cases stored : t'.get? j with
      | none => rfl
      | some row =>
          have other : key row ≠ k := fun hit => same ((mem_of_get? stored).2.symm.trans hit)
          simp [Option.filter, other]
    rw [kept]
    exact thin j

end Table

end StreamingPortal
