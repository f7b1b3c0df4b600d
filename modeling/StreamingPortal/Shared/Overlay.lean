import Mathlib.Logic.Basic

set_option autoImplicit false

/-!
# Partial updates of a record

A record gives every field a value; an update mentions some of the fields.
-/

namespace StreamingPortal.Overlay

universe u v

variable {κ : Type u} {ν : Type v}

def override (s : κ → ν) (d : κ → Option ν) : κ → ν := fun k => (d k).getD (s k)

/-- The record after the updates, in their order. -/
def replay (s : κ → ν) (ds : List (κ → Option ν)) : κ → ν := ds.foldl override s

theorem override_mentioned {s : κ → ν} {d : κ → Option ν} {k : κ} {v : ν}
    (mentioned : d k = some v) : override s d k = v := by
  simp [override, mentioned]

theorem override_unmentioned {s : κ → ν} {d : κ → Option ν} {k : κ} (unmentioned : d k = none) :
    override s d k = s k := by
  simp [override, unmentioned]

theorem override_self (s : κ → ν) (d : κ → Option ν) :
    override (override s d) d = override s d := by
  funext k
  cases mentioned : d k with
  | none => rw [override_unmentioned mentioned]
  | some v => rw [override_mentioned mentioned, override_mentioned mentioned]

theorem replay_concat (s : κ → ν) (ds : List (κ → Option ν)) (d : κ → Option ν) :
    replay s (ds ++ [d]) = override (replay s ds) d := by
  simp [replay]

/-! ## Records that are kept in a normal form -/

section Normal

variable (n : κ → ν → ν)

def normal (s : κ → ν) : κ → ν := fun k => n k (s k)

variable {n}

theorem normal_override_normal (idem : ∀ k v, n k (n k v) = n k v) (s : κ → ν)
    (d : κ → Option ν) : normal n (override (normal n s) d) = normal n (override s d) := by
  funext k
  cases mentioned : d k with
  | none => simp [normal, override_unmentioned mentioned, idem]
  | some v => simp [normal, override_mentioned mentioned]

end Normal

end StreamingPortal.Overlay
