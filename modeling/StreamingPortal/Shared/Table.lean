import Mathlib.Data.List.Nodup

set_option autoImplicit false

/-!
# Tables with a primary key

Rows stay in insertion order; the key of a row never changes once it is stored.
-/

namespace StreamingPortal

universe u v

structure Table (κ : Type u) (ρ : Type v) (key : ρ → κ) where
  rows : List ρ
  keys_nodup : (rows.map key).Nodup

namespace Table

variable {κ : Type u} {ρ : Type v} {key : ρ → κ}

def empty : Table κ ρ key := ⟨[], by simp⟩

def select (t : Table κ ρ key) (p : ρ → Bool) : List ρ := t.rows.filter p

def count (t : Table κ ρ key) (p : ρ → Bool) : Nat := t.rows.countP p

def deleteWhere (t : Table κ ρ key) (p : ρ → Bool) : Table κ ρ key where
  rows := t.rows.filter fun r => !p r
  keys_nodup := t.keys_nodup.sublist (List.filter_sublist.map key)

variable [DecidableEq κ]

def get? (t : Table κ ρ key) (k : κ) : Option ρ := t.rows.find? fun r => key r = k

/-- `UPDATE` of one row; `f` leaves the key alone. -/
def update (t : Table κ ρ key) (k : κ) (f : ρ → ρ) (keeps : ∀ r, key (f r) = key r) :
    Table κ ρ key where
  rows := t.rows.map fun r => if key r = k then f r else r
  keys_nodup := by
    have same : (t.rows.map fun r => if key r = k then f r else r).map key = t.rows.map key := by
      rw [List.map_map]
      apply List.map_congr_left
      intro r _
      by_cases hit : key r = k <;> simp [hit, keeps]
    rw [same]
    exact t.keys_nodup

/-- `INSERT`, refused when the key is taken. -/
def insert? (t : Table κ ρ key) (r : ρ) : Option (Table κ ρ key) :=
  if fresh : key r ∈ t.rows.map key then none
  else some
    { rows := t.rows ++ [r]
      keys_nodup := by
        rw [List.map_append, List.nodup_append]
        refine ⟨t.keys_nodup, by simp, ?_⟩
        intro a ha b hb
        simp only [List.map_cons, List.map_nil, List.mem_singleton] at hb
        rintro rfl
        exact fresh (hb ▸ ha) }

theorem mem_of_get? {t : Table κ ρ key} {k : κ} {r : ρ} (h : t.get? k = some r) :
    r ∈ t.rows ∧ key r = k := by
  unfold get? at h
  exact ⟨List.mem_of_find?_eq_some h, by simpa using List.find?_some h⟩

omit [DecidableEq κ] in
theorem eq_of_key_eq {t : Table κ ρ key} {r s : ρ} (hr : r ∈ t.rows) (hs : s ∈ t.rows)
    (same : key r = key s) : r = s :=
  List.inj_on_of_nodup_map t.keys_nodup hr hs same

theorem get?_of_mem {t : Table κ ρ key} {r : ρ} (h : r ∈ t.rows) : t.get? (key r) = some r := by
  obtain ⟨s, found⟩ : ∃ s, t.get? (key r) = some s := by
    apply Option.isSome_iff_exists.mp
    unfold get?
    rw [List.find?_isSome]
    exact ⟨r, h, by simp⟩
  obtain ⟨stored, same⟩ := mem_of_get? found
  rw [found, eq_of_key_eq stored h same]

theorem get?_eq_some_iff {t : Table κ ρ key} {k : κ} {r : ρ} :
    t.get? k = some r ↔ r ∈ t.rows ∧ key r = k := by
  constructor
  · exact mem_of_get?
  · rintro ⟨stored, rfl⟩
    exact get?_of_mem stored

theorem get?_eq_none_iff {t : Table κ ρ key} {k : κ} :
    t.get? k = none ↔ ∀ r ∈ t.rows, key r ≠ k := by
  simp [get?]

theorem get?_update (t : Table κ ρ key) (k j : κ) (f : ρ → ρ) (keeps : ∀ r, key (f r) = key r) :
    (t.update k f keeps).get? j = if j = k then (t.get? k).map f else t.get? j := by
  have shape (rows : List ρ) :
      (rows.map fun r => if key r = k then f r else r).find? (fun r => key r = j) =
        if j = k then (rows.find? fun r => key r = k).map f
        else rows.find? fun r => key r = j := by
    induction rows with
    | nil => simp
    | cons r rows ih =>
        rw [List.map_cons, List.find?_cons, List.find?_cons, List.find?_cons, ih]
        by_cases same : j = k
        · subst same
          by_cases hit : key r = j <;> simp [hit, keeps]
        · by_cases hit : key r = k
          · have other : ¬ k = j := fun h => same h.symm
            simp [hit, keeps, same, other]
          · simp [hit, same]
  exact shape t.rows

@[simp] theorem get?_update_self (t : Table κ ρ key) (k : κ) (f : ρ → ρ)
    (keeps : ∀ r, key (f r) = key r) : (t.update k f keeps).get? k = (t.get? k).map f := by
  simp [get?_update]

theorem get?_update_ne (t : Table κ ρ key) {k j : κ} (f : ρ → ρ)
    (keeps : ∀ r, key (f r) = key r) (other : j ≠ k) :
    (t.update k f keeps).get? j = t.get? j := by
  simp [get?_update, other]

theorem update_eq_iff {t : Table κ ρ key} {k : κ} {r : ρ} (stored : t.get? k = some r)
    {f g : ρ → ρ} (keeps : ∀ r, key (f r) = key r) (keeps' : ∀ r, key (g r) = key r) :
    t.update k f keeps = t.update k g keeps' ↔ f r = g r := by
  constructor
  · intro same
    have here := congrArg (fun table => get? table k) same
    simpa [stored] using here
  · intro same
    have rows : (t.update k f keeps).rows = (t.update k g keeps').rows := by
      simp only [update]
      apply List.map_congr_left
      intro s member
      split
      next hit =>
        obtain rfl := Option.some.inj (stored.symm.trans (get?_eq_some_iff.mpr ⟨member, hit⟩))
        exact same
      next => rfl
    cases first : t.update k f keeps
    cases second : t.update k g keeps'
    rw [first, second] at rows
    cases rows
    rfl

theorem insert?_eq_some {t t' : Table κ ρ key} {r : ρ} (h : t.insert? r = some t') :
    t.get? (key r) = none ∧ t'.rows = t.rows ++ [r] := by
  unfold insert? at h
  split at h
  next => contradiction
  next fresh =>
    obtain rfl := Option.some.inj h
    refine ⟨?_, rfl⟩
    rw [get?_eq_none_iff]
    intro s stored same
    exact fresh (same ▸ List.mem_map_of_mem stored)

theorem get?_insert {t t' : Table κ ρ key} {r : ρ} (h : t.insert? r = some t') (j : κ) :
    t'.get? j = if j = key r then some r else t.get? j := by
  obtain ⟨fresh, rows⟩ := insert?_eq_some h
  unfold get? at fresh ⊢
  rw [rows, List.find?_append]
  by_cases same : j = key r
  · subst same
    simp [fresh]
  · have other : ¬ key r = j := fun hit => same hit.symm
    simp [same, other]

theorem get?_insert_of_ne {t t' : Table κ ρ key} {r s : ρ} {k : κ} (h : t.insert? r = some t')
    (stored : t.get? k = some s) : t'.get? k = some s := by
  rw [get?_insert h]
  have other : k ≠ key r := by
    rintro rfl
    rw [(insert?_eq_some h).1] at stored
    contradiction
  simpa [other] using stored

theorem count_update_of_none {t : Table κ ρ key} {k : κ} {f : ρ → ρ}
    (keeps : ∀ r, key (f r) = key r) (p : ρ → Bool) (missing : t.get? k = none) :
    (t.update k f keeps).count p = t.count p := by
  have same : (t.rows.map fun r => if key r = k then f r else r) = t.rows := by
    conv_rhs => rw [← List.map_id t.rows]
    apply List.map_congr_left
    intro r stored
    simp [get?_eq_none_iff.mp missing r stored]
  simp only [count, update, same]

theorem count_update {t : Table κ ρ key} {k : κ} {f : ρ → ρ}
    (keeps : ∀ r, key (f r) = key r) {r : ρ} (p : ρ → Bool) (stored : t.get? k = some r) :
    (t.update k f keeps).count p + (if p r then 1 else 0) =
      t.count p + (if p (f r) then 1 else 0) := by
  have shape (rows : List ρ) (nodup : (rows.map key).Nodup) (member : r ∈ rows) (hit : key r = k) :
      (rows.map fun s => if key s = k then f s else s).countP p + (if p r then 1 else 0) =
        rows.countP p + (if p (f r) then 1 else 0) := by
    induction rows with
    | nil => contradiction
    | cons s rows ih =>
        simp only [List.map_cons, List.nodup_cons] at nodup
        by_cases here : key s = k
        · have same : s = r := by
            rcases List.mem_cons.mp member with rfl | later
            · rfl
            · exact absurd (List.mem_map.mpr ⟨r, later, hit.trans here.symm⟩) nodup.1
          subst same
          have rest : (rows.map fun u => if key u = k then f u else u) = rows := by
            conv_rhs => rw [← List.map_id rows]
            apply List.map_congr_left
            intro u later
            have other : key u ≠ k := fun h =>
              nodup.1 (List.mem_map.mpr ⟨u, later, h.trans here.symm⟩)
            simp [other]
          simp only [List.map_cons, here, if_true, rest, List.countP_cons]
          omega
        · have later : r ∈ rows := by
            rcases List.mem_cons.mp member with rfl | later
            · exact absurd hit here
            · exact later
          have tail := ih nodup.2 later
          simp only [List.map_cons, here, if_false, List.countP_cons]
          omega
  obtain ⟨member, hit⟩ := mem_of_get? stored
  exact shape t.rows t.keys_nodup member hit

theorem count_insert {t t' : Table κ ρ key} {r : ρ} (p : ρ → Bool) (h : t.insert? r = some t') :
    t'.count p = t.count p + if p r then 1 else 0 := by
  simp only [count, (insert?_eq_some h).2, List.countP_append, List.countP_singleton]

theorem mem_select {t : Table κ ρ key} {p : ρ → Bool} {r : ρ} :
    r ∈ t.select p ↔ t.get? (key r) = some r ∧ p r = true := by
  simp [select, get?_eq_some_iff]

/-! ## What an operation does to the rows that satisfy `p` -/

theorem select_update {t : Table κ ρ key} (k : κ) (f : ρ → ρ) (keeps : ∀ r, key (f r) = key r)
    {p : ρ → Bool} (stable : ∀ r, p (f r) = p r) :
    (t.update k f keeps).select p = (t.select p).map fun r => if key r = k then f r else r := by
  unfold select update
  rw [List.filter_map]
  congr 1
  apply List.filter_congr
  intro r _
  by_cases hit : key r = k <;> simp [hit, stable]

theorem select_update_of_not {t : Table κ ρ key} {k : κ} {f : ρ → ρ} {r : ρ}
    (keeps : ∀ r, key (f r) = key r) {p : ρ → Bool} (stable : ∀ r, p (f r) = p r)
    (stored : t.get? k = some r) (outside : p r = false) :
    (t.update k f keeps).select p = t.select p := by
  rw [select_update k f keeps stable]
  conv_rhs => rw [← List.map_id (t.select p)]
  apply List.map_congr_left
  intro s selected
  have other : key s ≠ k := by
    rintro rfl
    obtain ⟨stored', inside⟩ := List.mem_filter.mp selected
    obtain rfl := Option.some.inj ((get?_of_mem stored').symm.trans stored)
    simp [inside] at outside
  simp [other]

theorem select_insert {t t' : Table κ ρ key} {r : ρ} (p : ρ → Bool) (h : t.insert? r = some t') :
    t'.select p = t.select p ++ if p r then [r] else [] := by
  simp only [select, (insert?_eq_some h).2, List.filter_append, List.filter_singleton]
  split <;> simp_all

theorem insert?_of_fresh {t : Table κ ρ key} {r : ρ} (fresh : t.get? (key r) = none) :
    ∃ t', t.insert? r = some t' := by
  unfold insert?
  split
  next taken =>
    obtain ⟨s, stored, same⟩ := List.mem_map.mp taken
    exact absurd same (get?_eq_none_iff.mp fresh s stored)
  next => exact ⟨_, rfl⟩

theorem get?_filter (t : Table κ ρ key) (k : κ) (p : ρ → Bool) :
    (t.get? k).filter p = (t.select p).find? fun r => key r = k := by
  have agree (r : ρ) : (t.get? k).filter p = some r ↔
      ((t.select p).find? fun r => key r = k) = some r := by
    rw [Option.filter_eq_some_iff, get?_eq_some_iff]
    constructor
    · rintro ⟨⟨stored, hit⟩, inside⟩
      obtain ⟨s, found⟩ : ∃ s, ((t.select p).find? fun r => key r = k) = some s := by
        apply Option.isSome_iff_exists.mp
        rw [List.find?_isSome]
        exact ⟨r, List.mem_filter.mpr ⟨stored, inside⟩, by simpa using hit⟩
      have stored' := (List.mem_filter.mp (List.mem_of_find?_eq_some found)).1
      have hit' : key s = k := by simpa using List.find?_some found
      rw [found, eq_of_key_eq stored' stored (hit'.trans hit.symm)]
    · intro found
      obtain ⟨stored, inside⟩ := List.mem_filter.mp (List.mem_of_find?_eq_some found)
      exact ⟨⟨stored, by simpa using List.find?_some found⟩, inside⟩
  exact Option.ext agree

omit [DecidableEq κ] in
theorem select_of_imp {t : Table κ ρ key} {p q : ρ → Bool}
    (narrower : ∀ r, q r = true → p r = true) :
    t.select q = (t.select p).filter q := by
  unfold select
  rw [List.filter_filter]
  apply List.filter_congr
  intro r _
  by_cases hit : q r = true
  · simp [hit, narrower r hit]
  · simp [hit]

omit [DecidableEq κ] in
theorem count_eq_length (t : Table κ ρ key) (p : ρ → Bool) : t.count p = (t.select p).length :=
  List.countP_eq_length_filter

end Table

end StreamingPortal
