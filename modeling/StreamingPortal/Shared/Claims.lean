import StreamingPortal.Shared.Tasks
import Mathlib.Data.List.Nodup

set_option autoImplicit false

/-!
# Exclusive claims

Tasks hold claims and spend them. No two tasks hold the same claim, and a claim that
has been spent is never held again, so none is spent twice.
-/

namespace StreamingPortal.Tasks

variable {τ β : Type}

structure Exclusive (claims : τ → List β) (tasks : List τ) (spent : List β) : Prop where
  nodup : ∀ (p : Nat) (t : τ), tasks[p]? = some t → (claims t).Nodup
  unique : ∀ (p q : Nat) (t u : τ) (y : β), tasks[p]? = some t → tasks[q]? = some u →
    y ∈ claims t → y ∈ claims u → p = q
  unspent : ∀ (p : Nat) (t : τ) (y : β), tasks[p]? = some t → y ∈ claims t → y ∉ spent
  spentOnce : spent.Nodup

def Unclaimed (claims : τ → List β) (tasks : List τ) (spent : List β) (y : β) : Prop :=
  -- Nobody holds the claim and nobody has spent it.
  y ∉ spent ∧ ∀ (p : Nat) (t : τ), tasks[p]? = some t → y ∉ claims t

variable {claims : τ → List β} {tasks : List τ} {spent : List β}

theorem exclusive_nil : Exclusive claims [] [] where
  nodup := by simp
  unique := by simp
  unspent := by simp
  spentOnce := List.nodup_nil

theorem Exclusive.spawn (h : Exclusive claims tasks spent) {t : τ} (none_ : claims t = []) :
    Exclusive claims (tasks ++ [t]) spent where
  nodup := by
    intro p u task
    rcases getElem?_spawn_cases task with ⟨-, rfl⟩ | old
    · simp [none_]
    · exact h.nodup p u old
  unique := by
    intro p q u v y first second mine theirs
    rcases getElem?_spawn_cases first with ⟨-, rfl⟩ | old
    · simp [none_] at mine
    · rcases getElem?_spawn_cases second with ⟨-, rfl⟩ | old'
      · simp [none_] at theirs
      · exact h.unique p q u v y old old' mine theirs
  unspent := by
    intro p u y task mine
    rcases getElem?_spawn_cases task with ⟨-, rfl⟩ | old
    · simp [none_] at mine
    · exact h.unspent p u y old mine
  spentOnce := h.spentOnce

theorem Exclusive.spawnAll (h : Exclusive claims tasks spent) {ts : List τ}
    (none_ : ∀ t ∈ ts, claims t = []) : Exclusive claims (tasks ++ ts) spent := by
  induction ts generalizing tasks with
  | nil => simpa using h
  | cons t ts ih =>
      have first := h.spawn (none_ t List.mem_cons_self)
      have rest := ih first fun u inside => none_ u (List.mem_cons_of_mem t inside)
      simpa using rest

/-- A task spends some of its claims, keeps others and takes ones that nobody has had. -/
theorem Exclusive.move (h : Exclusive claims tasks spent) {p : Nat} {t : τ} (t' : τ)
    (task : tasks[p]? = some t) (now : List β) (owned : ∀ y ∈ now, y ∈ claims t)
    (once : now.Nodup) (nodup : (claims t').Nodup)
    (next : ∀ y ∈ claims t', y ∉ now ∧ (y ∈ claims t ∨ Unclaimed claims tasks spent y)) :
    Exclusive claims (tasks.set p t') (spent ++ now) where
  nodup := by
    intro q u task'
    rcases getElem?_set_cases task' with ⟨-, rfl⟩ | ⟨-, old⟩
    · exact nodup
    · exact h.nodup q u old
  unique := by
    have apart (q : Nat) (u : τ) (y : β) (other : q ≠ p) (old : tasks[q]? = some u)
        (theirs : y ∈ claims u) : y ∉ claims t' := by
      intro mine
      rcases (next y mine).2 with before | fresh
      · exact other (h.unique q p u t y old task theirs before)
      · exact fresh.2 q u old theirs
    intro q r u v y first second mine theirs
    rcases getElem?_set_cases first with ⟨rfl, rfl⟩ | ⟨other, old⟩
    · rcases getElem?_set_cases second with ⟨rfl, rfl⟩ | ⟨other, old⟩
      · rfl
      · exact absurd mine (apart r v y other old theirs)
    · rcases getElem?_set_cases second with ⟨rfl, rfl⟩ | ⟨-, old'⟩
      · exact absurd theirs (apart q u y other old mine)
      · exact h.unique q r u v y old old' mine theirs
  unspent := by
    intro q u y task' mine
    rw [List.mem_append, not_or]
    rcases getElem?_set_cases task' with ⟨rfl, rfl⟩ | ⟨other, old⟩
    · obtain ⟨kept, before | fresh⟩ := next y mine
      · exact ⟨h.unspent q t y task before, kept⟩
      · exact ⟨fresh.1, kept⟩
    · refine ⟨h.unspent q u y old mine, fun spending => other ?_⟩
      exact h.unique q p u t y old task mine (owned y spending)
  spentOnce := by
    rw [List.nodup_append']
    refine ⟨h.spentOnce, once, ?_⟩
    intro y before spending
    exact h.unspent p t y task (owned y spending) before

theorem Exclusive.keep (h : Exclusive claims tasks spent) {p : Nat} {t t' : τ}
    (task : tasks[p]? = some t) (fewer : (claims t').Sublist (claims t)) :
    Exclusive claims (tasks.set p t') spent := by
  have kept := h.move t' task [] (by simp) List.nodup_nil
    ((h.nodup p t task).sublist fewer) fun y mine => ⟨by simp, Or.inl (fewer.subset mine)⟩
  simpa using kept

end StreamingPortal.Tasks
