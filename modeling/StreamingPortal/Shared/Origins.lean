import Mathlib.Data.List.Induction
import StreamingPortal.Shared.Tasks

set_option autoImplicit false

/-!
# The requests that tasks go back to

The task at a position has been started by the request at that position, and what is known of a
task may depend on its request and on all that has happened since.
-/

namespace StreamingPortal.Tasks

variable {Store World Op Answer Frame Request : Type}

def Action.request? : Action Answer Request → Option Request
  | .request r => some r
  | _ => none

def requests (acts : List (Action Answer Request)) : List Request :=
  acts.filterMap Action.request?

variable (P : Program Store World Op Answer Frame Request)
variable (start : State Store World Answer Frame)

/-- The run has been in a state of which this holds. -/
def Once (acts : List (Action Answer Request))
    (holds : State Store World Answer Frame → Prop) : Prop :=
  ∃ before after st, acts = before ++ after ∧ Runs.run (step P) start before = some st ∧ holds st

/-- The run has been in such a state since the request at this position. -/
def Meanwhile (acts : List (Action Answer Request)) (p : Nat)
    (holds : State Store World Answer Frame → Prop) : Prop :=
  Once P start acts fun st => p < st.tasks.length ∧ holds st

/-- What each action establishes of the task it is about, and what any action leaves true. -/
structure Origin (Q : List (Action Answer Request) → Nat → Request → Task Answer Frame → Prop) :
    Prop where
  more : ∀ {acts : List (Action Answer Request)} {p : Nat} {r : Request} {t : Task Answer Frame}
    (act : Action Answer Request), Q acts p r t → Q (acts ++ [act]) p r t
  started : ∀ {acts : List (Action Answer Request)} {st : State Store World Answer Frame}
    (r : Request), Runs.run (step P) start acts = some st →
      Q acts st.tasks.length r ⟨P.start st.world r, none⟩
  executed : ∀ {acts : List (Action Answer Request)} {st : State Store World Answer Frame}
    {p : Nat} {r : Request} {f : Frame} {op : Op} {store : Store} {a : Answer},
      Runs.run (step P) start acts = some st → st.tasks[p]? = some ⟨f, none⟩ →
        Q acts p r ⟨f, none⟩ → P.op f = some op → P.perform st.store p op = some (store, a) →
          Q (acts ++ [.execute p]) p r ⟨f, some a⟩
  raised : ∀ {acts : List (Action Answer Request)} {p : Nat} {r : Request} {f : Frame} {op : Op}
    {a : Answer}, Q acts p r ⟨f, none⟩ → P.op f = some op → P.failure op = some a →
      Q acts p r ⟨f, some a⟩
  resumed : ∀ {acts : List (Action Answer Request)} {st : State Store World Answer Frame}
    {p : Nat} {r : Request} {f next : Frame} {a : Answer} {w : World},
      Runs.run (step P) start acts = some st → st.tasks[p]? = some ⟨f, some a⟩ →
        Q acts p r ⟨f, some a⟩ → P.resume st.world p f a = some (w, next) →
          Q acts p r ⟨next, none⟩
  answered : ∀ {acts : List (Action Answer Request)} {st : State Store World Answer Frame}
    {p : Nat} {r : Request} {f next : Frame} {a : Answer} {w : World},
      Runs.run (step P) start acts = some st → st.tasks[p]? = some ⟨f, none⟩ →
        Q acts p r ⟨f, none⟩ → P.op f = none → P.resume st.world p f a = some (w, next) →
          Q (acts ++ [.answer p a]) p r ⟨next, none⟩

variable {P} {start}

theorem once_now {acts : List (Action Answer Request)} {st : State Store World Answer Frame}
    {holds : State Store World Answer Frame → Prop}
    (reached : Runs.run (step P) start acts = some st) (now : holds st) :
    Once P start acts holds :=
  ⟨acts, [], st, by simp, reached, now⟩

theorem Once.more {acts : List (Action Answer Request)}
    {holds : State Store World Answer Frame → Prop} (act : Action Answer Request)
    (once : Once P start acts holds) : Once P start (acts ++ [act]) holds := by
  obtain ⟨before, after, st, rfl, reached, held⟩ := once
  exact ⟨before, after ++ [act], st, by simp, reached, held⟩

theorem Once.imp {acts : List (Action Answer Request)}
    {holds holds' : State Store World Answer Frame → Prop}
    (implies : ∀ st, holds st → holds' st) (once : Once P start acts holds) :
    Once P start acts holds' := by
  obtain ⟨before, after, st, cut, reached, held⟩ := once
  exact ⟨before, after, st, cut, reached, implies st held⟩

theorem Meanwhile.state {acts : List (Action Answer Request)} {p : Nat}
    {holds : State Store World Answer Frame → Prop}
    (meanwhile : Meanwhile P start acts p holds) : ∃ st, holds st := by
  obtain ⟨before, after, st, cut, reached, held⟩ := meanwhile
  exact ⟨st, held.2⟩

theorem Meanwhile.once {acts : List (Action Answer Request)} {p : Nat}
    {holds : State Store World Answer Frame → Prop}
    (meanwhile : Meanwhile P start acts p holds) : Once P start acts holds :=
  Once.imp (fun _ held => held.2) meanwhile

theorem meanwhile_now {acts : List (Action Answer Request)} {p : Nat}
    {st : State Store World Answer Frame} {t : Task Answer Frame}
    {holds : State Store World Answer Frame → Prop}
    (reached : Runs.run (step P) start acts = some st) (task : st.tasks[p]? = some t)
    (now : holds st) : Meanwhile P start acts p holds :=
  once_now reached ⟨(List.getElem?_eq_some_iff.mp task).1, now⟩

theorem Meanwhile.more {acts : List (Action Answer Request)} {p : Nat}
    {holds : State Store World Answer Frame → Prop} (act : Action Answer Request)
    (meanwhile : Meanwhile P start acts p holds) :
    Meanwhile P start (acts ++ [act]) p holds :=
  Once.more act meanwhile

theorem Meanwhile.imp {acts : List (Action Answer Request)} {p : Nat}
    {holds holds' : State Store World Answer Frame → Prop}
    (implies : ∀ st, holds st → holds' st) (meanwhile : Meanwhile P start acts p holds) :
    Meanwhile P start acts p holds' :=
  Once.imp (fun _ held => ⟨held.1, implies _ held.2⟩) meanwhile

theorem requests_append (acts : List (Action Answer Request)) (act : Action Answer Request) :
    requests (acts ++ [act]) = requests acts ++ act.request?.toList := by
  cases h : act.request? <;> simp [requests, h]

theorem length_tasks {acts : List (Action Answer Request)} {st : State Store World Answer Frame}
    (fresh : start.tasks = []) (reached : Runs.run (step P) start acts = some st) :
    st.tasks.length = (requests acts).length := by
  induction acts using List.reverseRecOn generalizing st with
  | nil =>
      obtain rfl : start = st := by simpa [Runs.run] using reached
      simp [fresh, requests]
  | append_singleton acts act ih =>
      obtain ⟨before, first, last⟩ := Runs.run_concat.mp reached
      have same := ih first
      rw [requests_append]
      cases step_cases last <;> simp [same, Action.request?]

/-- Every task has a request, and all that the actions have established of it. -/
theorem Origin.run
    {Q : List (Action Answer Request) → Nat → Request → Task Answer Frame → Prop}
    (origin : Origin P start Q) (fresh : start.tasks = [])
    {acts : List (Action Answer Request)} {st : State Store World Answer Frame}
    (reached : Runs.run (step P) start acts = some st) {p : Nat} {t : Task Answer Frame}
    (task : st.tasks[p]? = some t) : ∃ r, (requests acts)[p]? = some r ∧ Q acts p r t := by
  induction acts using List.reverseRecOn generalizing st p t with
  | nil =>
      obtain rfl : start = st := by simpa [Runs.run] using reached
      simp [fresh] at task
  | append_singleton acts act ih =>
      obtain ⟨before, first, last⟩ := Runs.run_concat.mp reached
      have kept {q : Nat} {u : Task Answer Frame} (old : before.tasks[q]? = some u) :
          ∃ r, (requests (acts ++ [act]))[q]? = some r ∧ Q (acts ++ [act]) q r u := by
        obtain ⟨r, asked, known⟩ := ih first old
        refine ⟨r, ?_, origin.more act known⟩
        obtain ⟨bound, -⟩ := List.getElem?_eq_some_iff.mp asked
        rw [requests_append, List.getElem?_append_left bound, asked]
      -- The task that moves, with the request it had before.
      have moved {q : Nat} {u v : Task Answer Frame} (old : before.tasks[q]? = some u)
          (now : ∀ r, Q acts q r u → Q (acts ++ [act]) q r v) :
          ∃ r, (requests (acts ++ [act]))[q]? = some r ∧ Q (acts ++ [act]) q r v := by
        obtain ⟨r, asked, known⟩ := ih first old
        refine ⟨r, ?_, now r known⟩
        obtain ⟨bound, -⟩ := List.getElem?_eq_some_iff.mp asked
        rw [requests_append, List.getElem?_append_left bound, asked]
      cases step_cases last with
      | request r =>
          rcases getElem?_spawn_cases task with ⟨rfl, rfl⟩ | old
          · refine ⟨r, ?_, origin.more _ (origin.started r first)⟩
            rw [requests_append, length_tasks fresh first]
            simp [Action.request?]
          · exact kept old
      | execute q f op store a acting awaits effect =>
          rcases getElem?_set_cases task with ⟨rfl, rfl⟩ | ⟨-, old⟩
          · exact moved acting fun r known => origin.executed first acting known awaits effect
          · exact kept old
      | raise q f op a acting awaits effect =>
          rcases getElem?_set_cases task with ⟨rfl, rfl⟩ | ⟨-, old⟩
          · exact moved acting fun r known => origin.more _ (origin.raised known awaits effect)
          · exact kept old
      | resume q f next a w acting effect =>
          rcases getElem?_set_cases task with ⟨rfl, rfl⟩ | ⟨-, old⟩
          · exact moved acting fun r known =>
              origin.more _ (origin.resumed first acting known effect)
          · exact kept old
      | answer q f next a w acting awaits effect =>
          rcases getElem?_set_cases task with ⟨rfl, rfl⟩ | ⟨-, old⟩
          · exact moved acting fun r known => origin.answered first acting known awaits effect
          · exact kept old
      | tick time => exact kept task

end StreamingPortal.Tasks
