import StreamingPortal.Shared.Tasks

set_option autoImplicit false

/-!
# What tasks are told of the operations they have performed

An operation makes something happen, and the task that performed it holds the receipt: the answer
while it has not been resumed, and later whatever its frames keep of that answer.
-/

namespace StreamingPortal.Tasks

variable {Store World Op Answer Frame Request : Type}
variable (P : Program Store World Op Answer Frame Request)

section

variable (happens : Store → Op → Bool)

def occurrence (st : State Store World Answer Frame) : Action Answer Request → Option Op
  | .execute p => (st.frame? p).bind fun frame => (P.op frame).filter (happens st.store)
  | _ => none

/-- The operations of a run that made it happen. -/
def occurrences (st : State Store World Answer Frame) (acts : List (Action Answer Request)) :
    List Op :=
  Runs.trace (step P) (occurrence P happens) st acts

/-- Only a task whose operation made it happen can tell. -/
structure Receipt (tells : Task Answer Frame → Bool) : Prop where
  started : ∀ w r, tells ⟨P.start w r, none⟩ = false
  waiting : ∀ {f op}, P.op f = some op → tells ⟨f, none⟩ = false
  executed : ∀ {store store' p f op a}, P.op f = some op →
    P.perform store p op = some (store', a) → tells ⟨f, some a⟩ = happens store op
  raised : ∀ {f op a}, P.op f = some op → P.failure op = some a → tells ⟨f, some a⟩ = false
  resumed : ∀ {w w' p f f' a}, P.resume w p f a = some (w', f') →
    tells ⟨f', none⟩ = true → tells ⟨f, some a⟩ = true
  answered : ∀ {w w' p f f' a}, P.op f = none → P.resume w p f a = some (w', f') →
    tells ⟨f', none⟩ = true → tells ⟨f, none⟩ = true

/-- No receipt is lost. -/
structure Receipt.Kept (tells : Task Answer Frame → Bool) : Prop where
  resumed : ∀ {w w' p f f' a}, P.resume w p f a = some (w', f') →
    tells ⟨f, some a⟩ = true → tells ⟨f', none⟩ = true
  answered : ∀ {w w' p f f' a}, P.op f = none → P.resume w p f a = some (w', f') →
    tells ⟨f, none⟩ = true → tells ⟨f', none⟩ = true

end

variable {P} {happens : Store → Op → Bool} {tells : Task Answer Frame → Bool}
variable {st st' : State Store World Answer Frame}

theorem countP_setTask_le {p : Nat} {t u : Task Answer Frame} (task : st.tasks[p]? = some u)
    (less : tells t = true → tells u = true) :
    (st.tasks.set p t).countP tells ≤ st.tasks.countP tells := by
  have moved := countP_set_acting (t := t) tells task
  cases old : tells u with
  | true =>
      have bound : (tells t).toNat ≤ 1 := Bool.toNat_le _
      simp only [old, Bool.toNat_true] at moved
      omega
  | false =>
      have none' : tells t = false := by
        by_contra told
        rw [less (by simpa using told)] at old
        contradiction
      simp only [old, none', Bool.toNat_false] at moved
      omega

theorem countP_executed (receipt : Receipt P happens tells) {p : Nat} {f : Frame} {op : Op}
    {store : Store} {a : Answer} (task : st.tasks[p]? = some ⟨f, none⟩)
    (awaits : P.op f = some op) (effect : P.perform st.store p op = some (store, a)) :
    (st.tasks.set p ⟨f, some a⟩).countP tells = st.tasks.countP tells +
      (occurrence P happens st (.execute p : Action Answer Request)).toList.length := by
  have moved := countP_set_acting (t := ⟨f, some a⟩) tells task
  rw [receipt.waiting awaits, receipt.executed awaits effect] at moved
  have seen : occurrence P happens st (.execute p : Action Answer Request) =
      (some op).filter (happens st.store) := by
    simp [occurrence, State.frame?_of_task task, awaits]
  rw [seen]
  cases hit : happens st.store op <;> simp_all [Option.filter]

theorem Receipt.step (receipt : Receipt P happens tells) {act : Action Answer Request}
    (taken : Tasks.step P st act = some st') :
    st'.tasks.countP tells ≤
      st.tasks.countP tells + (occurrence P happens st act).toList.length := by
  cases step_cases taken with
  | request r =>
      have blank := receipt.started st.world r
      simp [List.countP_append, blank]
  | execute p f op store a task awaits effect =>
      exact Nat.le_of_eq (countP_executed receipt task awaits effect)
  | raise p f op a task awaits effect =>
      have blank := receipt.raised awaits effect
      exact Nat.le_add_right_of_le (countP_setTask_le task (by simp [blank]))
  | resume p f next a w task effect =>
      exact Nat.le_add_right_of_le (countP_setTask_le task (receipt.resumed effect))
  | answer p f next a w task awaits effect =>
      exact Nat.le_add_right_of_le (countP_setTask_le task (receipt.answered awaits effect))
  | tick time => exact Nat.le_add_right _ _

theorem countP_setTask_eq {p : Nat} {t u : Task Answer Frame} (task : st.tasks[p]? = some u)
    (same : tells t = tells u) : (st.tasks.set p t).countP tells = st.tasks.countP tells := by
  have moved := countP_set_acting (t := t) tells task
  rw [same] at moved
  omega

theorem Receipt.step_kept (receipt : Receipt P happens tells) (kept : Receipt.Kept P tells)
    {act : Action Answer Request} (taken : Tasks.step P st act = some st') :
    st'.tasks.countP tells =
      st.tasks.countP tells + (occurrence P happens st act).toList.length := by
  cases step_cases taken with
  | request r =>
      have blank := receipt.started st.world r
      simp [List.countP_append, blank, occurrence]
  | execute p f op store a task awaits effect => exact countP_executed receipt task awaits effect
  | raise p f op a task awaits effect =>
      exact countP_setTask_eq task
        ((receipt.raised awaits effect).trans (receipt.waiting awaits).symm)
  | resume p f next a w task effect =>
      exact countP_setTask_eq task
        (Bool.eq_iff_iff.mpr ⟨receipt.resumed effect, kept.resumed effect⟩)
  | answer p f next a w task awaits effect =>
      exact countP_setTask_eq task
        (Bool.eq_iff_iff.mpr ⟨receipt.answered awaits effect, kept.answered awaits effect⟩)
  | tick time => rfl

/-- No more tasks can tell than made it happen. -/
theorem Receipt.run (receipt : Receipt P happens tells) (fresh : st.tasks = [])
    {acts : List (Action Answer Request)} (reached : Runs.run (Tasks.step P) st acts = some st') :
    st'.tasks.countP tells ≤ (occurrences P happens st acts).length := by
  have first : st.tasks.countP tells ≤ ([] : List Op).length := by simp [fresh]
  refine Runs.invariant_trace (fun st (seen : List Op) => st.tasks.countP tells ≤ seen.length)
    ?_ first (Runs.along_trivial acts) reached
  intro s seen act t told _ taken
  have next := receipt.step taken
  rw [List.length_append]
  omega

/-- As many tasks tell as made it happen. -/
theorem Receipt.run_kept (receipt : Receipt P happens tells) (kept : Receipt.Kept P tells)
    (fresh : st.tasks = []) {acts : List (Action Answer Request)}
    (reached : Runs.run (Tasks.step P) st acts = some st') :
    st'.tasks.countP tells = (occurrences P happens st acts).length := by
  have first : st.tasks.countP tells = ([] : List Op).length := by simp [fresh]
  refine Runs.invariant_trace (fun st (seen : List Op) => st.tasks.countP tells = seen.length)
    ?_ first (Runs.along_trivial acts) reached
  intro s seen act t told _ taken
  have next := receipt.step_kept kept taken
  rw [List.length_append]
  omega

end StreamingPortal.Tasks
