import StreamingPortal.Shared.Table

set_option autoImplicit false

/-!
# A table that has lost the rows of some keys

`t` holds the rows of `t'`, in their order, except those whose key is `gone`.
-/

namespace StreamingPortal.Table

universe u v

variable {κ : Type u} {ρ : Type v} {key : ρ → κ} [DecidableEq κ]

theorem update_absent {t : Table κ ρ key} {k : κ} (f : ρ → ρ) (keeps : ∀ r, key (f r) = key r)
    (missing : t.get? k = none) : (t.update k f keeps).rows = t.rows := by
  simp only [Table.update]
  conv_rhs => rw [← List.map_id t.rows]
  apply List.map_congr_left
  intro r stored
  simp [get?_eq_none_iff.mp missing r stored]

def Without (gone : List κ) (t t' : Table κ ρ key) : Prop :=
  t.rows = t'.rows.filter fun r => !decide (key r ∈ gone)

variable {gone : List κ} {t t' : Table κ ρ key}

theorem Without.mem (without : Without gone t t') {r : ρ} :
    r ∈ t.rows ↔ r ∈ t'.rows ∧ key r ∉ gone := by
  rw [without, List.mem_filter]
  simp

theorem Without.get?_kept (without : Without gone t t') {k : κ} (kept : k ∉ gone) :
    t.get? k = t'.get? k := by
  apply Option.ext
  intro r
  rw [get?_eq_some_iff, get?_eq_some_iff, without.mem]
  constructor
  · rintro ⟨⟨stored, -⟩, rfl⟩
    exact ⟨stored, rfl⟩
  · rintro ⟨stored, rfl⟩
    exact ⟨⟨stored, kept⟩, rfl⟩

theorem Without.get?_gone (without : Without gone t t') {k : κ} (lost : k ∈ gone) :
    t.get? k = none := by
  rw [get?_eq_none_iff]
  rintro r stored rfl
  exact (without.mem.mp stored).2 lost

theorem Without.select (without : Without gone t t') {p : ρ → Bool}
    (kept : ∀ r ∈ t'.rows, p r = true → key r ∉ gone) : t.select p = t'.select p := by
  unfold Table.select
  rw [without, List.filter_filter]
  apply List.filter_congr
  intro r stored
  cases selected : p r with
  | false => rfl
  | true => simp [kept r stored selected]

theorem Without.count (without : Without gone t t') {p : ρ → Bool}
    (kept : ∀ r ∈ t'.rows, p r = true → key r ∉ gone) : t.count p = t'.count p := by
  rw [count_eq_length, count_eq_length, without.select kept]

theorem Without.update (without : Without gone t t') (k : κ) (f : ρ → ρ)
    (keeps : ∀ r, key (f r) = key r) : Without gone (t.update k f keeps) (t'.update k f keeps) := by
  unfold Without Table.update
  simp only
  rw [without, List.filter_map]
  congr 1
  apply List.filter_congr
  intro r _
  by_cases hit : key r = k <;> simp [hit, keeps]

/-- The rows that are gone may change in the second table alone. -/
theorem Without.update_gone (without : Without gone t t') {k : κ} (f : ρ → ρ)
    (keeps : ∀ r, key (f r) = key r) (lost : k ∈ gone) :
    Without gone t (t'.update k f keeps) := by
  have changed := without.update k f keeps
  unfold Without at changed ⊢
  rw [← changed, update_absent f keeps (without.get?_gone lost)]

theorem Without.update_lost (without : Without gone t t') {k : κ} (f : ρ → ρ)
    (keeps : ∀ r, key (f r) = key r) (lost : k ∈ gone) :
    Without gone (t.update k f keeps) t' :=
  (update_absent f keeps (without.get?_gone lost)).trans without

theorem Without.insert (without : Without gone t t') {r : ρ} (kept : key r ∉ gone)
    {u u' : Table κ ρ key} (inserted : t.insert? r = some u) (inserted' : t'.insert? r = some u') :
    Without gone u u' := by
  unfold Without at without ⊢
  rw [(insert?_eq_some inserted).2, (insert?_eq_some inserted').2, List.filter_append, without]
  simp [kept]

theorem Without.insert?_isSome (without : Without gone t t') {r : ρ} (kept : key r ∉ gone) :
    (t.insert? r).isSome = (t'.insert? r).isSome := by
  have same := without.get?_kept kept
  cases inserted : t.insert? r with
  | some u =>
      have free := (insert?_eq_some inserted).1
      obtain ⟨u', inserted'⟩ := insert?_of_fresh (same ▸ free)
      simp [inserted']
  | none =>
      cases inserted' : t'.insert? r with
      | none => rfl
      | some u' =>
          have free := (insert?_eq_some inserted').1
          obtain ⟨u, some_⟩ := insert?_of_fresh (same.trans free)
          rw [inserted] at some_
          contradiction

/-- More rows may go from the first table, when their keys are counted as gone. -/
theorem Without.purge (without : Without gone t t') (p : ρ → Bool) :
    Without (gone ++ (t.select p).map key) (t.deleteWhere p) t' := by
  unfold Without Table.deleteWhere
  simp only
  rw [without, List.filter_filter]
  apply List.filter_congr
  intro r stored
  have lost : key r ∈ (t.select p).map key ↔ key r ∉ gone ∧ p r = true := by
    constructor
    · intro inside
      obtain ⟨s, selected, same⟩ := List.mem_map.mp inside
      obtain ⟨stored', purged⟩ := List.mem_filter.mp selected
      obtain ⟨stored', kept⟩ := without.mem.mp stored'
      obtain rfl := eq_of_key_eq stored' stored same
      exact ⟨kept, purged⟩
    · rintro ⟨kept, purged⟩
      exact List.mem_map_of_mem (List.mem_filter.mpr ⟨without.mem.mpr ⟨stored, kept⟩, purged⟩)
  simp only [List.mem_append, lost]
  by_cases kept : key r ∈ gone <;> cases purged : p r <;> simp [kept]

end StreamingPortal.Table
