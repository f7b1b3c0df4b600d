import StreamingPortal.Shared.Tasks

set_option autoImplicit false

/-!
# Schedules that two systems take in lockstep

A schedule is a list of actions; an action that is not enabled when its turn comes leaves
the state alone. What an action does to the task it is about depends on that task, the
store and the world only.
-/

namespace StreamingPortal.Tasks

variable {Store World Op Answer Frame Request : Type}
variable (P : Program Store World Op Answer Frame Request)

def attempt (st : State Store World Answer Frame) (act : Action Answer Request) :
    State Store World Answer Frame :=
  (step P st act).getD st

/-- The action as the task at position `p` takes it. -/
def moveTask (store : Store) (world : World) (p : Nat) (t : Task Answer Frame) :
    Action Answer Request → Option (Store × World × Task Answer Frame)
  | .execute _ =>
      match t with
      | ⟨frame, none⟩ => (P.op frame).bind fun op => (P.perform store p op).map fun result =>
          (result.1, world, ⟨frame, some result.2⟩)
      | _ => none
  | .raise _ =>
      match t with
      | ⟨frame, none⟩ => (P.op frame).bind fun op => (P.failure op).map fun a =>
          (store, world, ⟨frame, some a⟩)
      | _ => none
  | .resume _ =>
      match t with
      | ⟨frame, some a⟩ => (P.resume world p frame a).map fun next =>
          (store, next.1, ⟨next.2, none⟩)
      | _ => none
  | .answer _ a =>
      match t with
      | ⟨frame, none⟩ =>
          match P.op frame with
          | none => (P.resume world p frame a).map fun next => (store, next.1, ⟨next.2, none⟩)
          | some _ => none
      | _ => none
  | .request _ | .tick _ => none

/-- All a task can do, one constructor for each kind of action. -/
inductive Moved (store : Store) (world : World) (p : Nat) :
    Task Answer Frame → Action Answer Request → Store → World → Task Answer Frame → Prop
  | execute (q : Nat) (frame : Frame) (op : Op) (store' : Store) (a : Answer)
      (awaits : P.op frame = some op) (effect : P.perform store p op = some (store', a)) :
      Moved store world p ⟨frame, none⟩ (.execute q) store' world ⟨frame, some a⟩
  | raise (q : Nat) (frame : Frame) (op : Op) (a : Answer) (awaits : P.op frame = some op)
      (effect : P.failure op = some a) :
      Moved store world p ⟨frame, none⟩ (.raise q) store world ⟨frame, some a⟩
  | resume (q : Nat) (frame next : Frame) (a : Answer) (world' : World)
      (effect : P.resume world p frame a = some (world', next)) :
      Moved store world p ⟨frame, some a⟩ (.resume q) store world' ⟨next, none⟩
  | answer (q : Nat) (frame next : Frame) (a : Answer) (world' : World)
      (awaits : P.op frame = none) (effect : P.resume world p frame a = some (world', next)) :
      Moved store world p ⟨frame, none⟩ (.answer q a) store world' ⟨next, none⟩

variable {P} {st : State Store World Answer Frame} {act : Action Answer Request} {p : Nat}

theorem moveTask_cases {store store' : Store} {world world' : World} {t t' : Task Answer Frame}
    (h : moveTask P store world p t act = some (store', world', t')) :
    Moved P store world p t act store' world' t' := by
  obtain ⟨frame, answer⟩ := t
  cases act with
  | request | tick => contradiction
  | execute q =>
      cases answer with
      | some => contradiction
      | none =>
          obtain ⟨op, awaits, h⟩ := Option.bind_eq_some_iff.mp h
          obtain ⟨⟨store, a⟩, effect, same⟩ := Option.map_eq_some_iff.mp h
          obtain ⟨rfl, rfl, rfl⟩ := same
          exact .execute q frame op store a awaits effect
  | raise q =>
      cases answer with
      | some => contradiction
      | none =>
          obtain ⟨op, awaits, h⟩ := Option.bind_eq_some_iff.mp h
          obtain ⟨a, effect, same⟩ := Option.map_eq_some_iff.mp h
          obtain ⟨rfl, rfl, rfl⟩ := same
          exact .raise q frame op a awaits effect
  | resume q =>
      cases answer with
      | none => contradiction
      | some a =>
          obtain ⟨⟨world, next⟩, effect, same⟩ := Option.map_eq_some_iff.mp h
          obtain ⟨rfl, rfl, rfl⟩ := same
          exact .resume q frame next a world effect
  | answer q a =>
      cases answer with
      | some => contradiction
      | none =>
          simp only [moveTask] at h
          split at h
          next awaits =>
            obtain ⟨⟨world, next⟩, effect, same⟩ := Option.map_eq_some_iff.mp h
            obtain ⟨rfl, rfl, rfl⟩ := same
            exact .answer q frame next a world awaits effect
          next => contradiction

theorem step_moveTask {t : Task Answer Frame} (actor : act.actor = some p)
    (task : st.tasks[p]? = some t) :
    step P st act = (moveTask P st.store st.world p t act).map fun moved =>
      ⟨moved.1, moved.2.1, st.tasks.set p moved.2.2⟩ := by
  obtain ⟨frame, answer⟩ := t
  cases act with
  | request | tick => contradiction
  | execute q | raise q | resume q =>
      obtain rfl := Option.some.inj actor
      cases answer <;>
        simp [step, moveTask, task, resumeWith, State.setTask, Option.map_bind,
          Function.comp_def, Option.map_map]
  | answer q a =>
      obtain rfl := Option.some.inj actor
      cases answer with
      | some => simp [step, moveTask, task]
      | none =>
          cases awaits : P.op frame <;>
            simp [step, moveTask, task, awaits, resumeWith, State.setTask, Function.comp_def]

theorem attempt_moveTask {t : Task Answer Frame} (actor : act.actor = some p)
    (task : st.tasks[p]? = some t) :
    attempt P st act =
      let moved := (moveTask P st.store st.world p t act).getD (st.store, st.world, t)
      ⟨moved.1, moved.2.1, st.tasks.set p moved.2.2⟩ := by
  rw [attempt, step_moveTask actor task]
  cases moveTask P st.store st.world p t act with
  | some moved => rfl
  | none =>
      obtain ⟨bound, value⟩ := List.getElem?_eq_some_iff.mp task
      simp [← value]

theorem attempt_absent (actor : act.actor = some p) (missing : st.tasks[p]? = none) :
    attempt P st act = st := by
  cases act with
  | request | tick => contradiction
  | execute q | raise q | resume q | answer q =>
      obtain rfl := Option.some.inj actor
      simp [attempt, step, missing]

/-! ## Pairs of task lists -/

section Pairs

variable {β : Type} {R : β → β → Prop} {ts us : List β}

theorem forall₂_getElem? (related : List.Forall₂ R ts us) {t u : β} (first : ts[p]? = some t)
    (second : us[p]? = some u) : R t u := by
  induction related generalizing p with
  | nil => simp at first
  | cons head _ ih =>
      cases p with
      | zero =>
          obtain rfl := Option.some.inj first
          obtain rfl := Option.some.inj second
          exact head
      | succ p => exact ih first second

theorem forall₂_set (related : List.Forall₂ R ts us) {t u : β} (here : R t u) :
    List.Forall₂ R (ts.set p t) (us.set p u) := by
  induction related generalizing p with
  | nil => exact .nil
  | cons head tail ih =>
      cases p with
      | zero => exact .cons here tail
      | succ p => exact .cons head ih

end Pairs

/-- What every action of a schedule preserves between two systems holds at its end. -/
theorem lockstep {σ τ α : Type} {R : List α → σ → τ → Prop} {f : σ → α → σ} {g : τ → α → τ}
    (preserved : ∀ (a : α) (as : List α) (s : σ) (t : τ), R (a :: as) s t → R as (f s a) (g t a))
    {as : List α} {s : σ} {t : τ} (start : R as s t) : R [] (as.foldl f s) (as.foldl g t) := by
  induction as generalizing s t with
  | nil => exact start
  | cons a as ih => exact ih (preserved a as s t start)

end StreamingPortal.Tasks
