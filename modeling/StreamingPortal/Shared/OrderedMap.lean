import Mathlib.Data.List.Induction
import Mathlib.Data.List.Nodup

set_option autoImplicit false

/-!
# Maps in insertion order

A key keeps the place at which it was first set, whatever is set under it later.
-/

namespace StreamingPortal

universe u v

structure OrderedMap (κ : Type u) (ν : Type v) where
  entries : List (κ × ν)
  keys_nodup : (entries.map Prod.fst).Nodup

namespace OrderedMap

variable {κ : Type u} {ν : Type v}

def empty : OrderedMap κ ν := ⟨[], by simp⟩

def keys (m : OrderedMap κ ν) : List κ := m.entries.map Prod.fst

def values (m : OrderedMap κ ν) : List ν := m.entries.map Prod.snd

variable [DecidableEq κ]

def get? (m : OrderedMap κ ν) (k : κ) : Option ν :=
  (m.entries.find? fun entry => entry.1 = k).map Prod.snd

def setEntries : List (κ × ν) → κ → ν → List (κ × ν)
  | [], k, v => [(k, v)]
  | entry :: rest, k, v => if entry.1 = k then (k, v) :: rest else entry :: setEntries rest k v

theorem keys_setEntries (entries : List (κ × ν)) (k : κ) (v : ν) :
    (setEntries entries k v).map Prod.fst =
      if k ∈ entries.map Prod.fst then entries.map Prod.fst else entries.map Prod.fst ++ [k] := by
  induction entries with
  | nil => simp [setEntries]
  | cons entry rest ih =>
      by_cases here : entry.1 = k
      next => simp [setEntries, here]
      next =>
        have other : ¬ k = entry.1 := fun same => here same.symm
        by_cases later : k ∈ rest.map Prod.fst
        next => simp_all [setEntries]
        next => simp_all [setEntries]

def set (m : OrderedMap κ ν) (k : κ) (v : ν) : OrderedMap κ ν where
  entries := setEntries m.entries k v
  keys_nodup := by
    rw [keys_setEntries]
    split
    next => exact m.keys_nodup
    next fresh =>
      rw [← List.concat_eq_append]
      exact m.keys_nodup.concat fresh

def erase (m : OrderedMap κ ν) (k : κ) : OrderedMap κ ν where
  entries := m.entries.filter fun entry => !decide (entry.1 = k)
  keys_nodup := m.keys_nodup.sublist (List.filter_sublist.map Prod.fst)

-- Changes what is stored under a key, and nothing when nothing is.
def modify (m : OrderedMap κ ν) (k : κ) (f : ν → ν) : OrderedMap κ ν :=
  match m.get? k with
  | some v => m.set k (f v)
  | none => m

@[simp] theorem get?_empty (k : κ) : (empty : OrderedMap κ ν).get? k = none := rfl

theorem get?_set (m : OrderedMap κ ν) (k j : κ) (v : ν) :
    (m.set k v).get? j = if j = k then some v else m.get? j := by
  have shape (entries : List (κ × ν)) :
      ((setEntries entries k v).find? fun entry => entry.1 = j).map Prod.snd =
        if j = k then some v else (entries.find? fun entry => entry.1 = j).map Prod.snd := by
    induction entries with
    | nil =>
        by_cases same : j = k
        next => simp [setEntries, same]
        next =>
          have other : ¬ k = j := fun h => same h.symm
          simp [setEntries, same, other]
    | cons entry rest ih =>
        by_cases same : j = k
        next =>
          subst same
          by_cases here : entry.1 = j
          next => simp [setEntries, here]
          next => simpa [setEntries, here] using ih
        next =>
          have other : ¬ k = j := fun h => same h.symm
          by_cases here : entry.1 = k
          next => simp [setEntries, here, same, other]
          next =>
            by_cases found : entry.1 = j
            next => simp [setEntries, same, found]
            next => simpa [setEntries, here, found, same] using ih
  exact shape m.entries

@[simp] theorem get?_set_self (m : OrderedMap κ ν) (k : κ) (v : ν) :
    (m.set k v).get? k = some v := by
  simp [get?_set]

theorem get?_set_ne (m : OrderedMap κ ν) {k j : κ} (v : ν) (other : j ≠ k) :
    (m.set k v).get? j = m.get? j := by
  simp [get?_set, other]

theorem get?_modify (m : OrderedMap κ ν) (k j : κ) (f : ν → ν) :
    (m.modify k f).get? j = if j = k then (m.get? k).map f else m.get? j := by
  unfold modify
  cases found : m.get? k with
  | some v => simp [get?_set]
  | none =>
      by_cases same : j = k
      next => simp [same, found]
      next => simp [same]

theorem get?_erase (m : OrderedMap κ ν) (k j : κ) :
    (m.erase k).get? j = if j = k then none else m.get? j := by
  rw [get?, get?, erase, List.find?_filter]
  by_cases same : j = k
  next =>
    subst same
    simp
  next =>
    have kept (entry : κ × ν) : ((!decide (entry.1 = k)) = true ∧ decide (entry.1 = j) = true) ↔
        entry.1 = j := by
      by_cases hit : entry.1 = j <;> simp [hit, same]
    simp only [kept, same, if_false]

theorem get?_of_mem {m : OrderedMap κ ν} {k : κ} {v : ν} (stored : (k, v) ∈ m.entries) :
    m.get? k = some v := by
  have found : m.entries.find? (fun entry => entry.1 = k) = some (k, v) := by
    obtain ⟨entries, nodup⟩ := m
    induction entries with
    | nil => contradiction
    | cons entry rest ih =>
        rw [List.map_cons, List.nodup_cons] at nodup
        cases stored with
        | head => simp
        | tail _ later =>
            have other : entry.1 ≠ k := fun same =>
              nodup.1 (same ▸ List.mem_map_of_mem (f := Prod.fst) later)
            simpa [other] using ih nodup.2 later
  simp [get?, found]

theorem mem_of_get? {m : OrderedMap κ ν} {k : κ} {v : ν} (found : m.get? k = some v) :
    (k, v) ∈ m.entries := by
  unfold get? at found
  rw [Option.map_eq_some_iff] at found
  obtain ⟨entry, first, rfl⟩ := found
  have hit := List.find?_some first
  have member := List.mem_of_find?_eq_some first
  simp only [decide_eq_true_eq] at hit
  subst hit
  exact member

theorem mem_keys_iff {m : OrderedMap κ ν} {k : κ} : k ∈ m.keys ↔ ∃ v, m.get? k = some v := by
  constructor
  next =>
    intro listed
    obtain ⟨entry, stored, rfl⟩ := List.mem_map.mp listed
    exact ⟨entry.2, get?_of_mem stored⟩
  next =>
    intro found
    obtain ⟨v, found⟩ := found
    exact List.mem_map_of_mem (f := Prod.fst) (mem_of_get? found)

/-! ## From a list of pairs -/

-- Of several values under one key the last one stays.
def ofList (pairs : List (κ × ν)) : OrderedMap κ ν :=
  pairs.foldl (fun m pair => m.set pair.1 pair.2) empty

theorem ofList_concat (pairs : List (κ × ν)) (pair : κ × ν) :
    ofList (pairs ++ [pair]) = (ofList pairs).set pair.1 pair.2 :=
  List.foldl_concat _ _ _ _

theorem setEntries_of_fresh {entries : List (κ × ν)} {k : κ} (fresh : k ∉ entries.map Prod.fst)
    (v : ν) : setEntries entries k v = entries ++ [(k, v)] := by
  induction entries with
  | nil => rfl
  | cons entry rest ih =>
      rw [List.map_cons, List.mem_cons, not_or] at fresh
      have other : ¬ entry.1 = k := fun same => fresh.1 same.symm
      rw [setEntries, if_neg other, ih fresh.2, List.cons_append]

theorem ofList_entries {pairs : List (κ × ν)} (nodup : (pairs.map Prod.fst).Nodup) :
    (ofList pairs).entries = pairs := by
  induction pairs using List.reverseRecOn with
  | nil => rfl
  | append_singleton pairs pair ih =>
      rw [List.map_append, List.map_singleton, List.nodup_append] at nodup
      obtain ⟨before, -, apart⟩ := nodup
      have fresh : pair.1 ∉ pairs.map Prod.fst := fun known =>
        apart pair.1 known pair.1 (List.mem_singleton_self pair.1) rfl
      calc
        (ofList (pairs ++ [pair])).entries
            = setEntries (ofList pairs).entries pair.1 pair.2 := by rw [ofList_concat, set]
        _ = setEntries pairs pair.1 pair.2 := by rw [ih before]
        _ = pairs ++ [pair] := setEntries_of_fresh fresh pair.2

/-- Nothing is lost exactly if no key comes back. -/
theorem ofList_entries_iff (pairs : List (κ × ν)) :
    (ofList pairs).entries = pairs ↔ (pairs.map Prod.fst).Nodup := by
  constructor
  next =>
    intro same
    have nodup := (ofList pairs).keys_nodup
    rwa [same] at nodup
  next => exact ofList_entries

end OrderedMap

end StreamingPortal
