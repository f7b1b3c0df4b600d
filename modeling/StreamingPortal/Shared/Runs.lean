import Mathlib.Logic.Basic

set_option autoImplicit false

/-!
# Runs of a labelled step function

`step s a` is `none` when the action `a` is not enabled in `s`.
-/

namespace StreamingPortal.Runs

universe u v

variable {σ : Type u} {α : Type v}

def run (step : σ → α → Option σ) : σ → List α → Option σ
  | s, [] => some s
  | s, a :: as => (step s a).bind fun t => run step t as

/-- Every step the run takes satisfies `good before action after`. -/
def Along (step : σ → α → Option σ) (good : σ → α → σ → Prop) : σ → List α → Prop
  | _, [] => True
  | s, a :: as => ∀ t, step s a = some t → good s a t ∧ Along step good t as

variable {step : σ → α → Option σ}

instance Along.decidable {good : σ → α → σ → Prop} [∀ s a t, Decidable (good s a t)] :
    (s : σ) → (as : List α) → Decidable (Along step good s as)
  | _, [] => isTrue trivial
  | s, a :: as =>
      match taken : step s a with
      | none => isTrue fun t first => by simp [taken] at first
      | some t =>
          have : Decidable (Along step good t as) := Along.decidable t as
          decidable_of_iff (good s a t ∧ Along step good t as)
            ⟨fun h u first => by rwa [← Option.some.inj (taken.symm.trans first)],
              fun h => h t taken⟩

theorem run_cons {s u : σ} {a : α} {as : List α} :
    run step s (a :: as) = some u ↔ ∃ t, step s a = some t ∧ run step t as = some u := by
  simp [run, Option.bind_eq_some_iff]

theorem run_append {s t : σ} {as : List α} (reached : run step s as = some t) (bs : List α) :
    run step s (as ++ bs) = run step t bs := by
  induction as generalizing s with
  | nil =>
      obtain rfl : s = t := by simpa [run] using reached
      rfl
  | cons a as ih =>
      obtain ⟨v, first, rest⟩ := run_cons.mp reached
      simp [run, first, ih rest]

theorem Along.cons {good : σ → α → σ → Prop} {s t : σ} {a : α} {as : List α}
    (taken : step s a = some t) (here : good s a t) (rest : Along step good t as) :
    Along step good s (a :: as) := by
  intro u taken'
  obtain rfl := Option.some.inj (taken.symm.trans taken')
  exact ⟨here, rest⟩

theorem Along.append {good : σ → α → σ → Prop} {s t : σ} {as bs : List α}
    (h : Along step good s (as ++ bs)) (reached : run step s as = some t) :
    Along step good s as ∧ Along step good t bs := by
  induction as generalizing s with
  | nil =>
      obtain rfl : s = t := by simpa [run] using reached
      exact ⟨trivial, h⟩
  | cons a as ih =>
      obtain ⟨v, first, rest⟩ := run_cons.mp reached
      have tail := ih (h v first).2 rest
      refine ⟨?_, tail.2⟩
      intro w hw
      obtain rfl : v = w := by simpa [first] using hw
      exact ⟨(h v first).1, tail.1⟩

theorem run_concat {s u : σ} {as : List α} {a : α} :
    run step s (as ++ [a]) = some u ↔ ∃ t, run step s as = some t ∧ step t a = some u := by
  induction as generalizing s with
  | nil => simp [run]
  | cons b as ih =>
      rw [List.cons_append, run_cons]
      simp only [ih, run_cons]
      constructor
      · rintro ⟨v, first, t, rest, last⟩
        exact ⟨t, ⟨v, first, rest⟩, last⟩
      · rintro ⟨t, ⟨v, first, rest⟩, last⟩
        exact ⟨v, first, t, rest, last⟩

theorem Along.concat {good : σ → α → σ → Prop} {s t : σ} {as : List α} {a : α}
    (h : Along step good s as) (reached : run step s as = some t)
    (next : ∀ u, step t a = some u → good t a u) : Along step good s (as ++ [a]) := by
  induction as generalizing s with
  | nil =>
      obtain rfl : s = t := by simpa [run] using reached
      exact fun u taken => ⟨next u taken, trivial⟩
  | cons b as ih =>
      obtain ⟨v, first, rest⟩ := run_cons.mp reached
      intro w hw
      obtain rfl : v = w := Option.some.inj (first.symm.trans hw)
      exact ⟨(h v first).1, ih (h v first).2 rest⟩

theorem along_and {good good' : σ → α → σ → Prop} {s : σ} {as : List α} :
    Along step (fun s a t => good s a t ∧ good' s a t) s as ↔
      Along step good s as ∧ Along step good' s as := by
  induction as generalizing s with
  | nil => simp [Along]
  | cons a as ih =>
      simp only [Along, ih]
      constructor
      · intro h
        exact ⟨fun t first => ⟨(h t first).1.1, (h t first).2.1⟩,
          fun t first => ⟨(h t first).1.2, (h t first).2.2⟩⟩
      · rintro ⟨h, h'⟩ t first
        exact ⟨⟨(h t first).1, (h' t first).1⟩, (h t first).2, (h' t first).2⟩

theorem Along.mono {good good' : σ → α → σ → Prop} {s : σ} {as : List α}
    (weaken : ∀ s a t, good s a t → good' s a t) (h : Along step good s as) :
    Along step good' s as := by
  induction as generalizing s with
  | nil => trivial
  | cons a as ih =>
      intro t first
      exact ⟨weaken _ _ _ (h t first).1, ih (h t first).2⟩

/-- The invariant rule: what every step taken preserves, the whole run preserves. -/
theorem invariant (inv : σ → Prop) {ok : σ → α → σ → Prop}
    (preserved : ∀ s a t, inv s → ok s a t → step s a = some t → inv t)
    {s t : σ} {as : List α} (start : inv s) (along : Along step ok s as)
    (reached : run step s as = some t) : inv t := by
  induction as generalizing s with
  | nil =>
      obtain rfl : s = t := by simpa [run] using reached
      exact start
  | cons a as ih =>
      obtain ⟨v, first, rest⟩ := run_cons.mp reached
      have good := along v first
      exact ih (preserved s a v start good.1 first) good.2 rest

/--
Two step properties that agree wherever the invariant holds agree on whole runs,
when either of them is what keeps the invariant.
-/
theorem along_iff (inv : σ → Prop) {ok good : σ → α → σ → Prop}
    (preserved : ∀ s a t, inv s → ok s a t → step s a = some t → inv t)
    (agree : ∀ s a t, inv s → step s a = some t → (good s a t ↔ ok s a t))
    {s : σ} {as : List α} (start : inv s) :
    Along step good s as ↔ Along step ok s as := by
  induction as generalizing s with
  | nil => exact Iff.rfl
  | cons a as ih =>
      constructor
      · intro h t first
        have here := (agree s a t start first).mp (h t first).1
        exact ⟨here, (ih (preserved s a t start here first)).mp (h t first).2⟩
      · intro h t first
        have here := (h t first).1
        exact ⟨(agree s a t start first).mpr here,
          (ih (preserved s a t start here first)).mpr (h t first).2⟩

/-! ## What is observed along a run -/

universe w

def trace {β : Type w} (step : σ → α → Option σ) (observe : σ → α → Option β) :
    σ → List α → List β
  | _, [] => []
  | s, a :: as =>
      (observe s a).toList ++
        match step s a with
        | some t => trace step observe t as
        | none => []

/-- The invariant rule for a relation between the state and what has been observed so far. -/
theorem invariant_trace {β : Type w} {observe : σ → α → Option β} (inv : σ → List β → Prop)
    {ok : σ → α → σ → Prop}
    (preserved : ∀ s seen a t, inv s seen → ok s a t → step s a = some t →
      inv t (seen ++ (observe s a).toList))
    {s t : σ} {seen : List β} {as : List α} (start : inv s seen) (along : Along step ok s as)
    (reached : run step s as = some t) : inv t (seen ++ trace step observe s as) := by
  induction as generalizing s seen with
  | nil =>
      obtain rfl : s = t := by simpa [run] using reached
      simpa [trace] using start
  | cons a as ih =>
      obtain ⟨v, first, rest⟩ := run_cons.mp reached
      have good := along v first
      have next := ih (preserved s seen a v start good.1 first) good.2 rest
      simpa [trace, first] using next

theorem trace_append {β : Type w} {observe : σ → α → Option β} {s t : σ} {as : List α}
    (reached : run step s as = some t) (bs : List α) :
    trace step observe s (as ++ bs) = trace step observe s as ++ trace step observe t bs := by
  induction as generalizing s with
  | nil =>
      obtain rfl : s = t := by simpa [run] using reached
      rfl
  | cons a as ih =>
      obtain ⟨v, first, rest⟩ := run_cons.mp reached
      simp [trace, first, ih rest]

theorem trace_concat {β : Type w} {observe : σ → α → Option β} {s t : σ} {as : List α} (a : α)
    (reached : run step s as = some t) :
    trace step observe s (as ++ [a]) = trace step observe s as ++ (observe t a).toList := by
  rw [trace_append reached]
  cases taken : step t a <;> simp [trace, taken]

theorem trace_eq_filterMap {β : Type w} {observe : α → Option β} {s t : σ} {as : List α}
    (reached : run step s as = some t) :
    trace step (fun _ => observe) s as = as.filterMap observe := by
  induction as generalizing s with
  | nil => rfl
  | cons a as ih =>
      obtain ⟨v, first, rest⟩ := run_cons.mp reached
      simp only [trace, first, ih rest, List.filterMap_cons]
      cases observe a <;> rfl

theorem along_trivial {s : σ} (as : List α) : Along step (fun _ _ _ => True) s as := by
  induction as generalizing s with
  | nil => trivial
  | cons a as ih => exact fun t _ => ⟨trivial, ih⟩

theorem along_of_forall_mem {ok : α → Prop} {s : σ} {as : List α} (h : ∀ a ∈ as, ok a) :
    Along step (fun _ a _ => ok a) s as := by
  induction as generalizing s with
  | nil => trivial
  | cons a as ih =>
      intro t _
      exact ⟨h a List.mem_cons_self, ih fun b inside => h b (List.mem_cons_of_mem a inside)⟩

/-- What every step preserves, every stretch of the run preserves. -/
theorem along_iff_stretches {R : σ → σ → Prop} (refl : ∀ s, R s s)
    (trans : ∀ s t u, R s t → R t u → R s u) {s : σ} {as : List α} :
    Along step (fun s _ t => R s t) s as ↔
      ∀ pre mid post t u, as = pre ++ mid ++ post → run step s pre = some t →
        run step t mid = some u → R t u := by
  constructor
  · rintro h pre mid post t u rfl first second
    rw [List.append_assoc] at h
    have fromT := (h.append first).2
    have atMid := (fromT.append second).1
    exact invariant (R t) (fun s a v inv good _ => trans t s v inv good) (refl t) atMid second
  · intro h
    induction as generalizing s with
    | nil => trivial
    | cons a as ih =>
        intro t first
        refine ⟨h [] [a] as s t rfl rfl (by simp [run, first]), ih ?_⟩
        intro pre mid post u v split reached stretch
        refine h (a :: pre) mid post u v (by simp [split]) ?_ stretch
        exact run_cons.mpr ⟨t, first, reached⟩

/-- What every step establishes, every state of the run satisfies. -/
theorem along_iff_reached {s : σ} {as : List α} (inv : σ → Prop) (start : inv s) :
    Along step (fun _ _ t => inv t) s as ↔
      ∀ pre post t, as = pre ++ post → run step s pre = some t → inv t := by
  constructor
  · rintro h pre post t rfl reached
    exact invariant inv (fun _ _ _ _ good _ => good) start (h.append reached).1 reached
  · intro h
    induction as generalizing s with
    | nil => trivial
    | cons a as ih =>
        intro t first
        have here := h [a] as t rfl (by simp [run, first])
        refine ⟨here, ih here ?_⟩
        rintro pre post u rfl reached
        exact h (a :: pre) post u rfl (run_cons.mpr ⟨t, first, reached⟩)

theorem Along.at_step {good : σ → α → σ → Prop} {s t u : σ} {a : α} (as bs : List α)
    (h : Along step good s (as ++ a :: bs)) (reached : run step s as = some t)
    (next : step t a = some u) : good t a u :=
  ((h.append reached).2 u next).1

end StreamingPortal.Runs
