import Mathlib
import StreamingPortal.Shared.Tasks

set_option autoImplicit false

/-!
# Tasks that come to rest

A task works until it is in a frame in which it rests. When every resumption lowers its rank, the
tasks at hand cannot work for ever, whatever the order of their steps.
-/

namespace StreamingPortal.Tasks

variable {Store World Op Answer Frame Request : Type}

section

variable (P : Program Store World Op Answer Frame Request) (rest : Frame → Prop)

/-- One step of a task that does not rest; the clock may move with it. -/
def Works (st st' : State Store World Answer Frame) : Prop :=
  ∃ (act : Action Answer Request) (p : Nat) (f : Frame) (time : Int)
    (u : State Store World Answer Frame), act.actor = some p ∧ st.frame? p = some f ∧ ¬ rest f ∧
      step P st act = some u ∧ st' = { u with world := P.tick time u.world }

structure Ranked where
  -- What a frame can be resumed with after its operation.
  fits : Frame → Answer → Prop
  performed : ∀ {store store' : Store} {p : Nat} {f : Frame} {op : Op} {a : Answer},
    P.op f = some op → P.perform store p op = some (store', a) → fits f a
  failed : ∀ {f : Frame} {op : Op} {a : Answer}, P.op f = some op → P.failure op = some a →
    fits f a
  -- The minor rank may grow when the major one drops.
  major : Frame → Nat
  minor : Frame → Nat
  drops : ∀ {w w' : World} {p : Nat} {f f' : Frame} {a : Answer}, ¬ rest f →
    (P.op f = none ∨ fits f a) → P.resume w p f a = some (w', f') →
      major f' < major f ∨ major f' ≤ major f ∧ minor f' < minor f

end

variable {P : Program Store World Op Answer Frame Request} {rest : Frame → Prop}

def Answered (ranked : Ranked P rest) (st : State Store World Answer Frame) : Prop :=
  ∀ (p : Nat) (t : Task Answer Frame), st.tasks[p]? = some t →
    ∀ a, t.answer = some a → ranked.fits t.frame a

theorem answered_step {ranked : Ranked P rest} {st st' : State Store World Answer Frame}
    {act : Action Answer Request} (answered : Answered ranked st)
    (taken : step P st act = some st') : Answered ranked st' := by
  cases step_cases taken with
  | request r => exact forall_spawn (by simp) answered
  | execute p f op store a task awaits effect =>
      refine forall_set ?_ fun q t _ => answered q t
      rintro b ⟨⟩
      exact ranked.performed awaits effect
  | raise p f op a task awaits effect =>
      refine forall_set ?_ fun q t _ => answered q t
      rintro b ⟨⟩
      exact ranked.failed awaits effect
  | resume p f next a w task effect => exact forall_set (by simp) fun q t _ => answered q t
  | answer p f next a w task awaits effect => exact forall_set (by simp) fun q t _ => answered q t
  | tick time => exact answered

theorem answered_init {ranked : Ranked P rest} {st : State Store World Answer Frame}
    (fresh : st.tasks = []) : Answered ranked st := by
  intro p t task
  simp [fresh] at task

/-! ## The rank of a state -/

def Ranked.steps (ranked : Ranked P rest) (t : Task Answer Frame) : Nat :=
  -- Two for an operation: it takes effect, and the task is resumed.
  2 * ranked.minor t.frame + if t.answer.isSome then 0 else 1

def Ranked.rank (ranked : Ranked P rest) (st : State Store World Answer Frame) : Nat × Nat :=
  ((st.tasks.map fun t => ranked.major t.frame).sum, (st.tasks.map ranked.steps).sum)

theorem sum_set {β : Type} (size : β → Nat) {tasks : List β} {p : Nat} {t u : β}
    (here : tasks[p]? = some u) :
    ((tasks.set p t).map size).sum + size u = (tasks.map size).sum + size t := by
  induction tasks generalizing p with
  | nil => simp at here
  | cons v tasks ih =>
      cases p with
      | zero =>
          obtain rfl : v = u := by simpa using here
          simp only [List.set_cons_zero, List.map_cons, List.sum_cons]
          omega
      | succ p =>
          have tail := ih (by simpa using here)
          simp only [List.set_cons_succ, List.map_cons, List.sum_cons]
          omega

def Lower : Nat × Nat → Nat × Nat → Prop := Prod.Lex (· < ·) (· < ·)

theorem lower_wellFounded : WellFounded Lower :=
  ⟨fun (_, b) => Prod.lexAccessible (Nat.lt_wfRel.wf.apply _) Nat.lt_wfRel.wf.apply b⟩

theorem lower_set (ranked : Ranked P rest) {st u : State Store World Answer Frame} {p : Nat}
    {t t' : Task Answer Frame} (task : st.tasks[p]? = some t) (moved : u.tasks = st.tasks.set p t')
    (drops : ranked.major t'.frame < ranked.major t.frame ∨
      ranked.major t'.frame ≤ ranked.major t.frame ∧ ranked.steps t' < ranked.steps t) :
    Lower (ranked.rank u) (ranked.rank st) := by
  have major := sum_set (fun t => ranked.major t.frame) (t := t') task
  have minor := sum_set ranked.steps (t := t') task
  unfold Ranked.rank
  rw [moved]
  rcases drops with first | ⟨first, second⟩
  · exact Prod.Lex.left _ _ (by omega)
  · rcases Nat.lt_or_eq_of_le first with less | same
    · exact Prod.Lex.left _ _ (by omega)
    · have level : ((st.tasks.set p t').map fun t => ranked.major t.frame).sum =
          (st.tasks.map fun t => ranked.major t.frame).sum := by omega
      rw [level]
      exact Prod.Lex.right _ (by omega)

theorem works_lower (ranked : Ranked P rest) {st st' : State Store World Answer Frame}
    (answered : Answered ranked st) (works : Works P rest st st') :
    Lower (ranked.rank st') (ranked.rank st) := by
  obtain ⟨act, p, f, time, u, actor, frame, busy, taken, rfl⟩ := works
  -- The clock is no part of the rank.
  change Lower (ranked.rank u) (ranked.rank st)
  have own {q : Nat} {t : Task Answer Frame} (same : some q = some p)
      (task : st.tasks[q]? = some t) : t.frame = f := by
    obtain rfl := Option.some.inj same
    rw [State.frame?_of_task task] at frame
    exact Option.some.inj frame
  cases step_cases taken with
  | request | tick => contradiction
  | execute q g op store a task awaits effect =>
      refine lower_set ranked task rfl (Or.inr ⟨Nat.le_refl _, ?_⟩)
      simp [Ranked.steps]
  | raise q g op a task awaits effect =>
      refine lower_set ranked task rfl (Or.inr ⟨Nat.le_refl _, ?_⟩)
      simp [Ranked.steps]
  | resume q g next a w task effect =>
      obtain rfl := own actor task
      have fits := answered q _ task a rfl
      refine lower_set ranked task rfl ((ranked.drops busy (Or.inr fits) effect).imp_right ?_)
      rintro ⟨level, less⟩
      have less : ranked.minor next < ranked.minor g := less
      exact ⟨level, show 2 * ranked.minor next + 1 < 2 * ranked.minor g + 0 by omega⟩
  | answer q g next a w task awaits effect =>
      obtain rfl := own actor task
      refine lower_set ranked task rfl ((ranked.drops busy (Or.inl awaits) effect).imp_right ?_)
      rintro ⟨level, less⟩
      have less : ranked.minor next < ranked.minor g := less
      exact ⟨level, show 2 * ranked.minor next + 1 < 2 * ranked.minor g + 1 by omega⟩

theorem answered_works (ranked : Ranked P rest) {st st' : State Store World Answer Frame}
    (answered : Answered ranked st) (works : Works P rest st st') : Answered ranked st' := by
  obtain ⟨act, p, f, time, u, -, -, -, taken, rfl⟩ := works
  have kept : Answered ranked u := answered_step answered taken
  exact kept

/-- The tasks at hand come to rest: no run of theirs goes on for ever. -/
theorem acc_works (ranked : Ranked P rest) {st : State Store World Answer Frame}
    (answered : Answered ranked st) : Acc (fun st' st => Works P rest st st') st := by
  have all (rank : Nat × Nat) : ∀ st, Answered ranked st → ranked.rank st = rank →
      Acc (fun st' st => Works P rest st st') st := by
    induction rank using lower_wellFounded.induction with
    | _ rank ih =>
        rintro st answered rfl
        refine Acc.intro st fun st' works => ?_
        have lower := works_lower ranked answered works
        exact ih _ lower st' (answered_works ranked answered works) rfl
  exact all _ st answered rfl

end StreamingPortal.Tasks
