import Mathlib.Data.List.Basic
import StreamingPortal.Shared.Runs

set_option autoImplicit false

/-!
# Asynchronous functions of one event loop

A task waits in a frame for an answer. What it does until its next await is one step, in which it
may start other tasks; so may an event from outside. A task that has ended keeps its last frame.
-/

namespace StreamingPortal.Promises

structure Program (World Frame Answer Event : Type) where
  resume : World → Nat → Frame → Answer → Option (World × Frame × List Frame)
  event : World → Event → Option (World × List Frame)

structure State (World Frame : Type) where
  world : World
  tasks : List Frame

inductive Action (Answer Event : Type)
  | answer (p : Nat) (a : Answer)
  | event (e : Event)

variable {World Frame Answer Event : Type}
variable (P : Program World Frame Answer Event)

def step (s : State World Frame) : Action Answer Event → Option (State World Frame)
  | .answer p a =>
      s.tasks[p]?.bind fun frame => (P.resume s.world p frame a).map fun next =>
        ⟨next.1, s.tasks.set p next.2.1 ++ next.2.2⟩
  | .event e => (P.event s.world e).map fun next => ⟨next.1, s.tasks ++ next.2⟩

/-- All a step can do, one constructor for each kind of action. -/
inductive Step (s : State World Frame) : Action Answer Event → State World Frame → Prop
  | answer (p : Nat) (a : Answer) (frame next : Frame) (world : World) (started : List Frame)
      (task : s.tasks[p]? = some frame)
      (effect : P.resume s.world p frame a = some (world, next, started)) :
      Step s (.answer p a) ⟨world, s.tasks.set p next ++ started⟩
  | event (e : Event) (world : World) (started : List Frame)
      (effect : P.event s.world e = some (world, started)) :
      Step s (.event e) ⟨world, s.tasks ++ started⟩

variable {P}

theorem step_cases {s t : State World Frame} {act : Action Answer Event}
    (h : step P s act = some t) : Step P s act t := by
  cases act with
  | answer p a =>
      obtain ⟨frame, task, h⟩ := Option.bind_eq_some_iff.mp h
      obtain ⟨⟨world, next, started⟩, effect, rfl⟩ := Option.map_eq_some_iff.mp h
      exact .answer p a frame next world started task effect
  | event e =>
      obtain ⟨⟨world, started⟩, effect, rfl⟩ := Option.map_eq_some_iff.mp h
      exact .event e world started effect

section Tasks

variable {tasks started : List Frame} {p q : Nat} {frame next : Frame}

theorem started_cases (task : (tasks ++ started)[q]? = some frame) :
    tasks[q]? = some frame ∨ (tasks.length ≤ q ∧ frame ∈ started) := by
  by_cases inside : q < tasks.length
  next =>
    rw [List.getElem?_append_left inside] at task
    exact Or.inl task
  next =>
    rw [List.getElem?_append_right (by omega)] at task
    exact Or.inr ⟨by omega, List.mem_of_getElem? task⟩

theorem resumed_cases (task : (tasks.set p next ++ started)[q]? = some frame) :
    (q = p ∧ frame = next) ∨ (q ≠ p ∧ tasks[q]? = some frame) ∨
      (tasks.length ≤ q ∧ frame ∈ started) := by
  cases started_cases task with
  | inr new => exact Or.inr (Or.inr (by simpa using new))
  | inl old =>
      by_cases same : q = p
      next =>
        subst same
        rw [List.getElem?_set] at old
        split at old
        next =>
          split at old
          next =>
            cases old
            exact Or.inl ⟨rfl, rfl⟩
          next => contradiction
        next => contradiction
      next =>
        rw [List.getElem?_set_ne (Ne.symm same)] at old
        exact Or.inr (Or.inl ⟨same, old⟩)

theorem resumed_self (task : tasks[p]? = some frame) :
    (tasks.set p next ++ started)[p]? = some next := by
  have inside : p < tasks.length := (List.getElem?_eq_some_iff.mp task).1
  rw [List.getElem?_append_left (by simpa using inside)]
  simp [inside]

theorem resumed_other (other : q ≠ p) (task : tasks[q]? = some frame) :
    (tasks.set p next ++ started)[q]? = some frame := by
  have inside : q < tasks.length := (List.getElem?_eq_some_iff.mp task).1
  rw [List.getElem?_append_left (by simpa using inside), List.getElem?_set_ne (Ne.symm other), task]

theorem started_old (task : tasks[q]? = some frame) : (tasks ++ started)[q]? = some frame := by
  have inside : q < tasks.length := (List.getElem?_eq_some_iff.mp task).1
  rw [List.getElem?_append_left inside, task]

theorem started_new (h : started[q]? = some frame) :
    (tasks ++ started)[tasks.length + q]? = some frame := by
  rw [List.getElem?_append_right (by omega)]
  simpa using h

end Tasks

end StreamingPortal.Promises
