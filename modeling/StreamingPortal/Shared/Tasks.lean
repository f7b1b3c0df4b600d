import StreamingPortal.Shared.Runs
import Mathlib.Data.List.Basic

set_option autoImplicit false

/-!
# Cooperative tasks that share a store

A task is suspended in a frame. A frame either waits for an operation on the
shared store or for an answer of the environment. An operation takes effect in
one step and the task resumes with its result in a later one, so other tasks may
run between the two; what a task does between two awaits is one step.
-/

namespace StreamingPortal.Tasks

structure Program (Store World Op Answer Frame Request : Type) where
  start : World → Request → Frame
  op : Frame → Option Op
  -- The effect and the result of an operation, `none` while it is blocked.
  perform : Store → Nat → Op → Option (Store × Answer)
  -- What the task receives when the operation raises, `none` if it cannot.
  failure : Op → Option Answer
  resume : World → Nat → Frame → Answer → Option (World × Frame)
  tick : Int → World → World

structure Task (Answer Frame : Type) where
  frame : Frame
  -- The result of the frame's operation, once it has taken effect.
  answer : Option Answer

structure State (Store World Answer Frame : Type) where
  store : Store
  world : World
  tasks : List (Task Answer Frame)

inductive Action (Answer Request : Type)
  | request (r : Request)
  | execute (p : Nat)
  | raise (p : Nat)
  | resume (p : Nat)
  | answer (p : Nat) (a : Answer)
  | tick (time : Int)

variable {Store World Op Answer Frame Request : Type}
variable (P : Program Store World Op Answer Frame Request)

def State.setTask (st : State Store World Answer Frame) (p : Nat) (t : Task Answer Frame) :
    State Store World Answer Frame :=
  { st with tasks := st.tasks.set p t }

@[simp] theorem State.setTask_store (st : State Store World Answer Frame) (p : Nat)
    (t : Task Answer Frame) : (st.setTask p t).store = st.store := rfl

@[simp] theorem State.setTask_tasks (st : State Store World Answer Frame) (p : Nat)
    (t : Task Answer Frame) : (st.setTask p t).tasks = st.tasks.set p t := rfl

def resumeWith (st : State Store World Answer Frame) (p : Nat) (t : Task Answer Frame)
    (a : Answer) : Option (State Store World Answer Frame) :=
  (P.resume st.world p t.frame a).map fun next =>
    { st.setTask p ⟨next.2, none⟩ with world := next.1 }

def step (st : State Store World Answer Frame) :
    Action Answer Request → Option (State Store World Answer Frame)
  | .request r => some { st with tasks := st.tasks ++ [⟨P.start st.world r, none⟩] }
  | .execute p =>
      match st.tasks[p]? with
      | some ⟨frame, none⟩ =>
          (P.op frame).bind fun op => (P.perform st.store p op).map fun result =>
            { st.setTask p ⟨frame, some result.2⟩ with store := result.1 }
      | _ => none
  | .raise p =>
      match st.tasks[p]? with
      | some ⟨frame, none⟩ =>
          (P.op frame).bind fun op => (P.failure op).map fun a =>
            st.setTask p ⟨frame, some a⟩
      | _ => none
  | .resume p =>
      match st.tasks[p]? with
      | some ⟨frame, some a⟩ => resumeWith P st p ⟨frame, some a⟩ a
      | _ => none
  | .answer p a =>
      match st.tasks[p]? with
      | some ⟨frame, none⟩ =>
          match P.op frame with
          | none => resumeWith P st p ⟨frame, none⟩ a
          | some _ => none
      | _ => none
  | .tick time => some { st with world := P.tick time st.world }

/-- All a step can do, one constructor for each kind of action. -/
inductive Step (st : State Store World Answer Frame) :
    Action Answer Request → State Store World Answer Frame → Prop
  | request (r : Request) :
      Step st (.request r) { st with tasks := st.tasks ++ [⟨P.start st.world r, none⟩] }
  | execute (p : Nat) (frame : Frame) (op : Op) (store : Store) (a : Answer)
      (task : st.tasks[p]? = some ⟨frame, none⟩) (awaits : P.op frame = some op)
      (effect : P.perform st.store p op = some (store, a)) :
      Step st (.execute p) { st.setTask p ⟨frame, some a⟩ with store := store }
  | raise (p : Nat) (frame : Frame) (op : Op) (a : Answer)
      (task : st.tasks[p]? = some ⟨frame, none⟩) (awaits : P.op frame = some op)
      (effect : P.failure op = some a) :
      Step st (.raise p) (st.setTask p ⟨frame, some a⟩)
  | resume (p : Nat) (frame next : Frame) (a : Answer) (world : World)
      (task : st.tasks[p]? = some ⟨frame, some a⟩)
      (effect : P.resume st.world p frame a = some (world, next)) :
      Step st (.resume p) { st.setTask p ⟨next, none⟩ with world := world }
  | answer (p : Nat) (frame next : Frame) (a : Answer) (world : World)
      (task : st.tasks[p]? = some ⟨frame, none⟩) (awaits : P.op frame = none)
      (effect : P.resume st.world p frame a = some (world, next)) :
      Step st (.answer p a) { st.setTask p ⟨next, none⟩ with world := world }
  | tick (time : Int) : Step st (.tick time) { st with world := P.tick time st.world }

variable {P}

theorem step_cases {st st' : State Store World Answer Frame} {act : Action Answer Request}
    (h : step P st act = some st') : Step P st act st' := by
  cases act with
  | request r =>
      obtain rfl := Option.some.inj h
      exact .request r
  | tick time =>
      obtain rfl := Option.some.inj h
      exact .tick time
  | execute p =>
      simp only [step] at h
      split at h
      next frame task =>
        obtain ⟨op, awaits, h⟩ := Option.bind_eq_some_iff.mp h
        obtain ⟨⟨store, a⟩, effect, rfl⟩ := Option.map_eq_some_iff.mp h
        exact .execute p frame op store a task awaits effect
      next => contradiction
  | raise p =>
      simp only [step] at h
      split at h
      next frame task =>
        obtain ⟨op, awaits, h⟩ := Option.bind_eq_some_iff.mp h
        obtain ⟨a, effect, rfl⟩ := Option.map_eq_some_iff.mp h
        exact .raise p frame op a task awaits effect
      next => contradiction
  | resume p =>
      simp only [step] at h
      split at h
      next frame a task =>
        obtain ⟨⟨world, next⟩, effect, rfl⟩ := Option.map_eq_some_iff.mp h
        exact .resume p frame next a world task effect
      next => contradiction
  | answer p a =>
      simp only [step] at h
      split at h
      next frame task =>
        split at h
        next awaits =>
          obtain ⟨⟨world, next⟩, effect, rfl⟩ := Option.map_eq_some_iff.mp h
          exact .answer p frame next a world task awaits effect
        next => contradiction
      next => contradiction

section Forward

variable {st : State Store World Answer Frame} {p : Nat} {frame next : Frame} {op : Op}
variable {a : Answer} {store : Store} {world : World}

theorem step_execute (task : st.tasks[p]? = some ⟨frame, none⟩) (awaits : P.op frame = some op)
    (effect : P.perform st.store p op = some (store, a)) :
    step P st (.execute p) = some { st.setTask p ⟨frame, some a⟩ with store := store } := by
  simp [step, task, awaits, effect]

theorem step_answer (task : st.tasks[p]? = some ⟨frame, none⟩) (awaits : P.op frame = none)
    (effect : P.resume st.world p frame a = some (world, next)) :
    step P st (.answer p a) = some { st.setTask p ⟨next, none⟩ with world := world } := by
  simp [step, task, awaits, resumeWith, effect]

/-- An operation takes effect, and the task runs on to its next await. -/
theorem run_operation (task : st.tasks[p]? = some ⟨frame, none⟩) (awaits : P.op frame = some op)
    (effect : P.perform st.store p op = some (store, a))
    (resumed : P.resume st.world p frame a = some (world, next)) :
    Runs.run (step P) st [.execute p, .resume p] =
      some ⟨store, world, st.tasks.set p ⟨next, none⟩⟩ := by
  have bound : p < st.tasks.length := (List.getElem?_eq_some_iff.mp task).1
  rw [Runs.run, step_execute task awaits effect, Option.bind_some]
  simp [Runs.run, step, resumeWith, State.setTask, bound, resumed]

theorem run_failure (task : st.tasks[p]? = some ⟨frame, none⟩) (awaits : P.op frame = some op)
    (effect : P.failure op = some a)
    (resumed : P.resume st.world p frame a = some (world, next)) :
    Runs.run (step P) st [.raise p, .resume p] =
      some ⟨st.store, world, st.tasks.set p ⟨next, none⟩⟩ := by
  have bound : p < st.tasks.length := (List.getElem?_eq_some_iff.mp task).1
  have raised : step P st (.raise p) = some (st.setTask p ⟨frame, some a⟩) := by
    simp [step, task, awaits, effect]
  rw [Runs.run, raised, Option.bind_some]
  simp [Runs.run, step, resumeWith, State.setTask, bound, resumed]

end Forward

section Lists

variable {β : Type} {tasks : List β} {p : Nat}

theorem getElem?_set_cases {t u : β} {q : Nat} (h : (tasks.set p t)[q]? = some u) :
    (q = p ∧ u = t) ∨ (q ≠ p ∧ tasks[q]? = some u) := by
  by_cases same : q = p
  · subst same
    left
    refine ⟨rfl, ?_⟩
    rw [List.getElem?_set] at h
    split at h
    · split at h
      · exact (Option.some.inj h).symm
      · contradiction
    · contradiction
  · right
    rw [List.getElem?_set_ne (Ne.symm same)] at h
    exact ⟨same, h⟩

theorem getElem?_set_acting {t u : β} (h : tasks[p]? = some u) :
    (tasks.set p t)[p]? = some t := by
  have bound : p < tasks.length := (List.getElem?_eq_some_iff.mp h).1
  simp [bound]

theorem getElem?_spawn_cases {t u : β} {q : Nat} (h : (tasks ++ [t])[q]? = some u) :
    (q = tasks.length ∧ u = t) ∨ tasks[q]? = some u := by
  rw [List.getElem?_append] at h
  split at h
  next => exact Or.inr h
  next outside =>
    left
    obtain ⟨bound, value⟩ := List.getElem?_eq_some_iff.mp h
    have last : q = tasks.length := by
      simp only [List.length_singleton] at bound
      omega
    subst last
    simpa using value.symm

/-- What holds of the task that moves and of all others holds of every task. -/
theorem forall_set {Q : Nat → β → Prop} {t : β} (moved : Q p t)
    (others : ∀ q u, q ≠ p → tasks[q]? = some u → Q q u) :
    ∀ q u, (tasks.set p t)[q]? = some u → Q q u := by
  intro q u task
  rcases getElem?_set_cases task with ⟨rfl, rfl⟩ | ⟨other, old⟩
  · exact moved
  · exact others q u other old

theorem forall_spawn {Q : Nat → β → Prop} {t : β} (first : Q tasks.length t)
    (others : ∀ q u, tasks[q]? = some u → Q q u) :
    ∀ q u, (tasks ++ [t])[q]? = some u → Q q u := by
  intro q u task
  rcases getElem?_spawn_cases task with ⟨rfl, rfl⟩ | old
  · exact first
  · exact others q u old

theorem countP_set_acting {t u : β} (good : β → Bool) (h : tasks[p]? = some u) :
    (tasks.set p t).countP good + (good u).toNat = tasks.countP good + (good t).toNat := by
  induction tasks generalizing p with
  | nil => simp at h
  | cons v tasks ih =>
      have one (b : β) : (if good b = true then 1 else 0) = (good b).toNat := by
        cases good b <;> rfl
      cases p with
      | zero =>
          obtain rfl : v = u := by simpa using h
          simp only [List.set_cons_zero, List.countP_cons, one]
          omega
      | succ p =>
          have rest := ih (by simpa using h)
          simp only [List.set_cons_succ, List.countP_cons, one]
          omega

theorem countP_eq_range (good : β → Bool) (tasks : List β) :
    tasks.countP good = (List.range tasks.length).countP fun p => tasks[p]?.any good := by
  induction tasks with
  | nil => rfl
  | cons t tasks ih =>
      rw [List.countP_cons, List.length_cons, List.range_succ_eq_map, List.countP_cons,
        List.countP_map, ih]
      rfl

end Lists

/-! ## Steps as seen through the frames alone -/

def State.frame? (st : State Store World Answer Frame) (p : Nat) : Option Frame :=
  st.tasks[p]?.map Task.frame

/-- The task an action resumes, with the frame it leaves and the answer it gets. -/
def State.resumed (st : State Store World Answer Frame) :
    Action Answer Request → Option (Nat × Frame × Answer)
  | .resume p =>
      match st.tasks[p]? with
      | some ⟨frame, some a⟩ => some (p, frame, a)
      | _ => none
  | .answer p a => (st.frame? p).map fun frame => (p, frame, a)
  | _ => none

/-- The task whose await or whose next stretch of code the action is about. -/
def Action.actor : Action Answer Request → Option Nat
  | .execute p | .raise p | .resume p | .answer p _ => some p
  | .request _ | .tick _ => none

theorem State.frame?_of_task {st : State Store World Answer Frame} {p : Nat}
    {t : Task Answer Frame} (task : st.tasks[p]? = some t) : st.frame? p = some t.frame := by
  simp [State.frame?, task]

theorem State.resumed_resume {st : State Store World Answer Frame} {p : Nat} {frame : Frame}
    {a : Answer} (task : st.tasks[p]? = some ⟨frame, some a⟩) :
    st.resumed (.resume p : Action Answer Request) = some (p, frame, a) := by
  simp [State.resumed, task]

theorem State.resumed_answer {st : State Store World Answer Frame} {p : Nat} {frame : Frame}
    {b : Option Answer} (a : Answer) (task : st.tasks[p]? = some ⟨frame, b⟩) :
    st.resumed (.answer p a : Action Answer Request) = some (p, frame, a) := by
  simp [State.resumed, State.frame?, task]

theorem State.frame?_set_self {st : State Store World Answer Frame} {p : Nat}
    {t u : Task Answer Frame} (task : st.tasks[p]? = some u) :
    (st.setTask p t).frame? p = some t.frame :=
  State.frame?_of_task (getElem?_set_acting task)

theorem State.frame?_set_ne (st : State Store World Answer Frame) {p q : Nat}
    (t : Task Answer Frame) (other : q ≠ p) : (st.setTask p t).frame? q = st.frame? q := by
  simp [State.frame?, State.setTask, List.getElem?_set_ne (Ne.symm other)]

/-- A step starts a task, or moves one task to its next frame, or moves none. -/
inductive Moves (P : Program Store World Op Answer Frame Request)
    (st : State Store World Answer Frame) (act : Action Answer Request)
    (st' : State Store World Answer Frame) : Prop
  | started (r : Request) (still : st.resumed act = none) (world : st'.world = st.world)
      (absent : st.frame? st.tasks.length = none)
      (first : st'.frame? st.tasks.length = some (P.start st.world r))
      (others : ∀ q, q ≠ st.tasks.length → st'.frame? q = st.frame? q)
  | moved (p : Nat) (frame next : Frame) (a : Answer)
      (resumed : st.resumed act = some (p, frame, a)) (store : st'.store = st.store)
      (effect : P.resume st.world p frame a = some (st'.world, next))
      (before : st.frame? p = some frame) (after : st'.frame? p = some next)
      (others : ∀ q, q ≠ p → st'.frame? q = st.frame? q)
  | waiting (still : st.resumed act = none)
      (world : st'.world = st.world ∨ ∃ time, st'.world = P.tick time st.world)
      (frames : ∀ q, st'.frame? q = st.frame? q)

theorem frame?_set_answer {st : State Store World Answer Frame} {p : Nat} {frame : Frame}
    {a : Option Answer} (b : Option Answer) (task : st.tasks[p]? = some ⟨frame, a⟩) (q : Nat) :
    (st.setTask p ⟨frame, b⟩).frame? q = st.frame? q := by
  by_cases same : q = p
  · subst same
    rw [State.frame?_set_self task, State.frame?_of_task task]
  · exact State.frame?_set_ne st _ same

theorem step_moves {P : Program Store World Op Answer Frame Request}
    {st st' : State Store World Answer Frame} {act : Action Answer Request}
    (h : step P st act = some st') : Moves P st act st' := by
  cases step_cases h with
  | request r =>
      refine .started r rfl rfl (by simp [State.frame?]) (by simp [State.frame?]) ?_
      intro q other
      simp only [State.frame?, List.getElem?_append]
      split
      · rfl
      · rw [List.getElem?_eq_none (by simp only [List.length_singleton]; omega),
          List.getElem?_eq_none (by omega)]
  | execute p frame op store a task awaits effect =>
      exact .waiting rfl (Or.inl rfl) (frame?_set_answer (some a) task)
  | raise p frame op a task awaits effect =>
      exact .waiting rfl (Or.inl rfl) (frame?_set_answer (some a) task)
  | resume p frame next a world task effect =>
      exact .moved p frame next a (State.resumed_resume task) rfl effect
        (State.frame?_of_task task) (State.frame?_set_self task)
        fun q other => State.frame?_set_ne st _ other
  | answer p frame next a world task awaits effect =>
      exact .moved p frame next a (State.resumed_answer a task) rfl effect
        (State.frame?_of_task task) (State.frame?_set_self task)
        fun q other => State.frame?_set_ne st _ other
  | tick time => exact .waiting rfl (Or.inr ⟨time, rfl⟩) fun _ => rfl

theorem State.resumed_frame? {st : State Store World Answer Frame} {act : Action Answer Request}
    {p : Nat} {frame : Frame} {a : Answer} (resumed : st.resumed act = some (p, frame, a)) :
    st.frame? p = some frame := by
  cases act with
  | resume q =>
      simp only [State.resumed] at resumed
      split at resumed
      next f b task =>
        obtain ⟨rfl, rfl, rfl⟩ : q = p ∧ f = frame ∧ b = a := by simpa using resumed
        exact State.frame?_of_task task
      next => contradiction
  | answer q b =>
      obtain ⟨f, found, same⟩ := Option.map_eq_some_iff.mp resumed
      obtain ⟨rfl, rfl, rfl⟩ : q = p ∧ f = frame ∧ b = a := by simpa using same
      exact found
  | request | execute | raise | tick => contradiction

theorem State.resumed_actor {st : State Store World Answer Frame} {act : Action Answer Request}
    {p : Nat} {frame : Frame} {a : Answer} (resumed : st.resumed act = some (p, frame, a)) :
    act.actor = some p := by
  cases act with
  | resume q =>
      simp only [State.resumed] at resumed
      split at resumed
      · obtain ⟨rfl, -⟩ := Prod.mk.inj (Option.some.inj resumed)
        rfl
      · contradiction
  | answer q b =>
      obtain ⟨frame', -, same⟩ := Option.map_eq_some_iff.mp resumed
      obtain ⟨rfl, -⟩ := Prod.mk.inj same
      rfl
  | request | execute | raise | tick => contradiction

theorem step_other {P : Program Store World Op Answer Frame Request}
    {st st' : State Store World Answer Frame} {act : Action Answer Request} {p : Nat}
    {t : Task Answer Frame} (taken : step P st act = some st') (other : act.actor ≠ some p)
    (task : st.tasks[p]? = some t) : st'.tasks[p]? = some t := by
  have kept (q : Nat) (u : Task Answer Frame) (different : some q ≠ some p) :
      (st.tasks.set q u)[p]? = some t := by
    rw [List.getElem?_set_ne fun same => different (congrArg some same)]
    exact task
  cases step_cases taken with
  | request r =>
      have bound : p < st.tasks.length := (List.getElem?_eq_some_iff.mp task).1
      simpa [List.getElem?_append_left bound] using task
  | execute q | raise q | resume q | answer q => exact kept q _ other
  | tick time => exact task

end StreamingPortal.Tasks
