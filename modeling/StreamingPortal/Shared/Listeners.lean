import Mathlib.Data.List.Basic
import Mathlib.Logic.Function.Basic

set_option autoImplicit false

/-!
# Listeners on event emitters

An owner adds a new function to the listeners of an emitter and keeps what removes it again.
-/

namespace StreamingPortal.Listeners

variable {ε ω : Type}

/-- `serial` tells one closure from the next. -/
structure Listener (ε ω : Type) where
  emitter : ε
  owner : ω
  serial : Nat
deriving DecidableEq

structure Registry (ε ω : Type) where
  added : List (Listener ε ω)
  removal : ω → Option (Listener ε ω)
  made : Nat

def Registry.empty : Registry ε ω := ⟨[], fun _ => none, 0⟩

variable [DecidableEq ε] [DecidableEq ω]

def Registry.listenersOf (r : Registry ε ω) (o : ω) : List (Listener ε ω) :=
  r.added.filter fun listener => listener.owner = o

def Registry.remove (r : Registry ε ω) (o : ω) : Registry ε ω :=
  match r.removal o with
  | some listener => { r with added := r.added.erase listener }
  | none => r

def Registry.attach (r : Registry ε ω) (o : ω) (e : ε) : Registry ε ω :=
  let listener : Listener ε ω := ⟨e, o, r.made⟩
  { added := r.added ++ [listener]
    removal := Function.update r.removal o (some listener)
    made := r.made + 1 }

def Registry.dispose (r : Registry ε ω) (o : ω) : Registry ε ω :=
  { r.remove o with removal := Function.update r.removal o none }

/-- Each owner has the listener it can remove, and no other. -/
def Registry.Tidy (r : Registry ε ω) : Prop := ∀ o, r.listenersOf o = (r.removal o).toList

variable {r : Registry ε ω}

omit [DecidableEq ε] in
theorem tidy_empty : (Registry.empty : Registry ε ω).Tidy := fun _ => rfl

omit [DecidableEq ε] in
theorem Registry.Tidy.owner (tidy : r.Tidy) {o : ω} {listener : Listener ε ω}
    (kept : r.removal o = some listener) : listener.owner = o := by
  have member : listener ∈ r.listenersOf o := by simp [tidy o, kept]
  simpa using (List.mem_filter.mp member).2

omit [DecidableEq ε] in
theorem Registry.Tidy.one_iff (tidy : r.Tidy) {o : ω} {listener : Listener ε ω} :
    r.listenersOf o = [listener] ↔ r.removal o = some listener := by
  rw [tidy o]
  cases r.removal o <;> simp

omit [DecidableEq ε] in
theorem Registry.Tidy.none_iff (tidy : r.Tidy) {o : ω} :
    r.listenersOf o = [] ↔ r.removal o = none := by
  rw [tidy o]
  cases r.removal o <;> simp

theorem listenersOf_remove (tidy : r.Tidy) (o o' : ω) :
    (r.remove o).listenersOf o' = if o' = o then [] else r.listenersOf o' := by
  cases kept : r.removal o with
  | none =>
      have none_left := tidy o
      rw [kept] at none_left
      by_cases same : o' = o
      next =>
        subst same
        simpa [Registry.remove, kept] using none_left
      next => simp [Registry.remove, kept, same]
  | some listener =>
      have own := tidy o
      rw [kept] at own
      simp only [Registry.remove, kept, Registry.listenersOf]
      rw [← List.erase_filter]
      by_cases same : o' = o
      next =>
        subst same
        rw [if_pos rfl]
        change (r.listenersOf o').erase listener = []
        simp [own]
      next =>
        rw [if_neg same]
        apply List.erase_of_not_mem
        intro member
        have owned : listener.owner = o' := by simpa using (List.mem_filter.mp member).2
        exact same (owned.symm.trans (tidy.owner kept))

theorem listenersOf_dispose (tidy : r.Tidy) (o o' : ω) :
    (r.dispose o).listenersOf o' = if o' = o then [] else r.listenersOf o' :=
  listenersOf_remove tidy o o'

theorem tidy_dispose (tidy : r.Tidy) (o : ω) : (r.dispose o).Tidy := by
  intro o'
  rw [listenersOf_dispose tidy]
  by_cases same : o' = o
  next => simp [Registry.dispose, same]
  next => simp [Registry.dispose, same, tidy o']

omit [DecidableEq ε] in
theorem listenersOf_attach (o o' : ω) (e : ε) :
    (r.attach o e).listenersOf o' =
      r.listenersOf o' ++ if o' = o then [⟨e, o, r.made⟩] else [] := by
  by_cases same : o' = o
  next => simp [Registry.listenersOf, Registry.attach, same]
  next => simp [Registry.listenersOf, Registry.attach, same, Ne.symm same]

/-- The listener of the owner is replaced, those of the others stay. -/
theorem listenersOf_replace (tidy : r.Tidy) (o o' : ω) (e : ε) :
    ((r.remove o).attach o e).listenersOf o' =
      if o' = o then [⟨e, o, (r.remove o).made⟩] else r.listenersOf o' := by
  rw [listenersOf_attach, listenersOf_remove tidy]
  by_cases same : o' = o <;> simp [same]

theorem removal_remove (r : Registry ε ω) (o : ω) : (r.remove o).removal = r.removal := by
  unfold Registry.remove
  split <;> rfl

theorem removal_replace (r : Registry ε ω) (o o' : ω) (e : ε) :
    ((r.remove o).attach o e).removal o' =
      if o' = o then some ⟨e, o, (r.remove o).made⟩ else r.removal o' := by
  by_cases same : o' = o <;> simp [Registry.attach, removal_remove, same]

theorem tidy_replace (tidy : r.Tidy) (o : ω) (e : ε) : ((r.remove o).attach o e).Tidy := by
  intro o'
  rw [listenersOf_replace tidy]
  by_cases same : o' = o
  next => simp [Registry.attach, same]
  next => simp [Registry.attach, removal_remove, same, tidy o']

def Registry.disposeAll (r : Registry ε ω) (owners : List ω) : Registry ε ω :=
  owners.foldl Registry.dispose r

theorem tidy_disposeAll (tidy : r.Tidy) (owners : List ω) : (r.disposeAll owners).Tidy := by
  induction owners generalizing r with
  | nil => exact tidy
  | cons o owners ih => exact ih (tidy_dispose tidy o)

theorem removal_disposeAll (r : Registry ε ω) (owners : List ω) (o : ω) :
    (r.disposeAll owners).removal o = if o ∈ owners then none else r.removal o := by
  induction owners generalizing r with
  | nil => simp [Registry.disposeAll]
  | cons first owners ih =>
      have next := ih (r.dispose first)
      rw [Registry.disposeAll, List.foldl_cons, ← Registry.disposeAll, next]
      by_cases same : o = first <;> simp [Registry.dispose, same]

end StreamingPortal.Listeners
