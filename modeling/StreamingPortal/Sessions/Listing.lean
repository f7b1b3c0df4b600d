import StreamingPortal.Sessions.System
import StreamingPortal.Shared.Pagination
import Mathlib.Data.List.Flatten

set_option autoImplicit false

/-! # The pages that `get_sessions` answers with -/

namespace StreamingPortal.Sessions

open Tasks

/-! ## The handler on the databases it meets -/

def awaited (cfg : Config) (p : Nat) (admin : Bool) (db : Db) (f : RequestFrame) : Answer :=
  match requestOp f with
  | some op => (db.perform cfg p op).2
  | none => .isAdmin admin

/-- The outcome when each await finds the next of these databases. -/
def serve (cfg : Config) (w : World) (p : Nat) (admin : Bool) : List Db → Frame → Option Outcome
  | _, .finished o => some o
  | db :: later, .request f =>
      (requestResume cfg w f (awaited cfg p admin db f)).bind (serve cfg w p admin later)
  | _, _ => none

def ListRequest.scope (l : ListRequest) (admin : Bool) : SessionQuery := l.query (l.own || !admin)

def ListRequest.moments (l : ListRequest) (counted fetched : Db) : List Db :=
  -- The question whether the user is an administrator looks at no row.
  if l.own then [counted, fetched] else [counted, counted, fetched]

def fetchedRows (cfg : Config) (l : ListRequest) (order : SessionOrder) (q : SessionQuery)
    (db : Db) : List SessionInstance :=
  ((cfg.arrange order l.descending (db.selectSessions q.matches)).drop
    ((l.page - 1) * l.pageSize).toNat).take l.pageSize.toNat

theorem serve_getSessions (cfg : Config) {l : ListRequest} {order : SessionOrder}
    (valid : l.invalidValues = []) (field : sessionOrderFields.lookup l.fieldName = some order)
    (w : World) (p : Nat) (admin : Bool) (counted fetched : Db) :
    serve cfg w p admin (l.moments counted fetched) (getSessions l) =
      some (.response ⟨200, .page (sessionsPage l
        (counted.sessions.count (l.scope admin).matches)
        (fetchedRows cfg l order (l.scope admin) fetched)), [], []⟩) := by
  cases own : l.own <;>
    simp [getSessions, valid, field, own, ListRequest.moments, ListRequest.scope, serve, awaited,
      requestOp, requestResume, Db.perform, fetchedRows, respond]

/-! ## Every run of the process serves the list so -/

inductive ListFrame : Frame → Prop
  | asking (l : ListRequest) (order : SessionOrder) :
      ListFrame (.request (.askingListAdmin l order))
  | counting (l : ListRequest) (order : SessionOrder) (q : SessionQuery) :
      ListFrame (.request (.countingSessions l order q))
  | fetching (l : ListRequest) (order : SessionOrder) (q : SessionQuery) (total : Nat) :
      ListFrame (.request (.fetchingSessions l order q total))
  | finished (o : Outcome) : ListFrame (.finished o)

/-- The database at each await of task `p`. -/
def atAwait (p : Nat) (st : State) : Action → Option Db
  | .execute q | .answer q _ => if q = p then some st.store else none
  | _ => none

def serveTask (cfg : Config) (w : World) (p : Nat) (admin : Bool) (later : List Db) (t : Task) :
    Option Outcome :=
  match t.frame, t.answer with
  | .request f, some a => (requestResume cfg w f a).bind (serve cfg w p admin later)
  | f, _ => serve cfg w p admin later f

theorem listFrame_resumed {cfg : Config} {w : World} {f : RequestFrame} {a : Answer} {f' : Frame}
    (list : ListFrame (.request f)) (resumed : requestResume cfg w f a = some f') :
    ListFrame f' := by
  cases requestResume_cases resumed with
  | askedListAdmin | counted | fetched | raised => constructor
  | queried | admitted | refused | savedError | stopped | checked | savedCheck => contradiction

theorem requestResume_world {cfg : Config} {f : RequestFrame} (list : ListFrame (.request f))
    (w w' : World) (a : Answer) : requestResume cfg w f a = requestResume cfg w' f a := by
  cases list <;> cases a <;> rfl

theorem atAwait_other {p : Nat} {st : State} {act : Action} (other : act.actor ≠ some p) :
    atAwait p st act = none := by
  cases act with
  | execute q | answer q => exact if_neg fun same => other (congrArg some same)
  | request | raise | resume | tick => rfl

theorem resumed_request {cfg : Config} {w w₁ w₂ : World} (p : Nat) {f : RequestFrame} {a : Answer}
    {next : Frame} (list : ListFrame (.request f))
    (effect : resumeFrame cfg w₁ p (.request f) a = some (w₂, next)) :
    requestResume cfg w f a = some next := by
  obtain ⟨f', resumed, same⟩ := Option.map_eq_some_iff.mp effect
  obtain ⟨-, rfl⟩ := Prod.mk.inj same
  rw [requestResume_world list w w₁]
  exact resumed

/-- In every run of the process the handler ends as it does on the databases it has met. -/
theorem serve_of_run {cfg : Config} (w : World) {p : Nat} {admin : Bool} {st st' : State}
    {acts : List Action} {t : Task} {o : Outcome} (task : st.tasks[p]? = some t)
    (list : ListFrame t.frame) (succeeds : .raise p ∉ acts)
    (asked : ∀ a, .answer p a ∈ acts → a = .isAdmin admin) (ran : run cfg st acts = some st')
    (finished : st'.frame? p = some (.finished o)) :
    serveTask cfg w p admin (Runs.trace (step cfg) (atAwait p) st acts) t = some o := by
  induction acts generalizing st t with
  | nil =>
      obtain rfl := Option.some.inj ran
      rw [State.frame?_of_task task] at finished
      obtain ⟨frame, answer⟩ := t
      obtain rfl : frame = .finished o := Option.some.inj finished
      cases answer <;> rfl
  | cons act acts ih =>
      obtain ⟨mid, taken, rest⟩ := Runs.run_cons.mp ran
      have ih {t : Task} (task : mid.tasks[p]? = some t) (list : ListFrame t.frame) :=
        ih task list (fun inside => succeeds (List.mem_cons_of_mem act inside))
          (fun a inside => asked a (List.mem_cons_of_mem act inside)) rest
      by_cases own : act.actor = some p
      · cases step_cases taken with
        | request | tick => contradiction
        | raise q f op a task' =>
            obtain rfl := Option.some.inj own
            exact absurd List.mem_cons_self succeeds
        | execute q f op db a task' awaits effect =>
            obtain rfl := Option.some.inj own
            obtain rfl := Option.some.inj (task.symm.trans task')
            obtain ⟨-, rfl, rfl⟩ := perform_of_effect effect
            have served := ih (getElem?_set_acting task) list
            cases f with
            | request f =>
                have awaits : requestOp f = some op := awaits
                simpa [Runs.trace, taken, atAwait, serveTask, serve, awaited, awaits] using served
            | finished | connect | ending | start | watch => contradiction
        | resume q f next a world task' effect =>
            obtain rfl := Option.some.inj own
            obtain rfl := Option.some.inj (task.symm.trans task')
            cases f with
            | request f =>
                have resumed := resumed_request (w := w) q list effect
                have served := ih (getElem?_set_acting task) (listFrame_resumed list resumed)
                simpa [Runs.trace, taken, atAwait, serveTask, resumed] using served
            | finished | connect | ending | start | watch => contradiction
        | answer q f next a world task' awaits effect =>
            obtain rfl := Option.some.inj own
            obtain rfl := Option.some.inj (task.symm.trans task')
            obtain rfl := asked a List.mem_cons_self
            cases f with
            | request f =>
                have awaits : requestOp f = none := awaits
                have resumed := resumed_request (w := w) q list effect
                have served := ih (getElem?_set_acting task) (listFrame_resumed list resumed)
                simpa [Runs.trace, taken, atAwait, serveTask, serve, awaited, awaits, resumed]
                  using served
            | finished | connect | ending | start | watch => contradiction
      · have served := ih (step_other taken own task) list
        simpa [Runs.trace, taken, atAwait_other own] using served

section Moments

variable {cfg : Config} {w : World} {p : Nat} {admin : Bool} {moments : List Db} {l : ListRequest}
variable {order : SessionOrder} {q : SessionQuery} {o : Outcome}

theorem serve_fetching {total : Nat}
    (served : serve cfg w p admin moments (.request (.fetchingSessions l order q total)) = some o) :
    ∃ fetched ∈ moments, o = .response
      ⟨200, .page (sessionsPage l total (fetchedRows cfg l order q fetched)), [], []⟩ := by
  cases moments with
  | nil => contradiction
  | cons fetched later =>
      refine ⟨fetched, List.mem_cons_self, ?_⟩
      cases later <;> exact (Option.some.inj served).symm

theorem serve_counting
    (served : serve cfg w p admin moments (.request (.countingSessions l order q)) = some o) :
    ∃ counted fetched, [counted, fetched].Sublist moments ∧ o = .response
      ⟨200, .page (sessionsPage l (counted.sessions.count q.matches)
        (fetchedRows cfg l order q fetched)), [], []⟩ := by
  cases moments with
  | nil => contradiction
  | cons counted later =>
      have rest : serve cfg w p admin later (.request
          (.fetchingSessions l order q (counted.sessions.count q.matches))) = some o := served
      obtain ⟨fetched, inside, answered⟩ := serve_fetching rest
      exact ⟨counted, fetched, (List.singleton_sublist.mpr inside).cons_cons counted, answered⟩

theorem serve_asking
    (served : serve cfg w p admin moments (.request (.askingListAdmin l order)) = some o) :
    ∃ counted fetched, [counted, fetched].Sublist moments ∧ o = .response
      ⟨200, .page (sessionsPage l (counted.sessions.count (l.query !admin).matches)
        (fetchedRows cfg l order (l.query !admin) fetched)), [], []⟩ := by
  cases moments with
  | nil => contradiction
  | cons asked later =>
      have rest : serve cfg w p admin later (.request
          (.countingSessions l order (l.query !admin))) = some o := served
      obtain ⟨counted, fetched, inside, answered⟩ := serve_counting rest
      exact ⟨counted, fetched, inside.cons asked, answered⟩

end Moments

/-- A list is answered from the rows of two moments of the run, first counted, then fetched. -/
theorem answered_of_run {cfg : Config} {l : ListRequest} {order : SessionOrder}
    (valid : l.invalidValues = []) (field : sessionOrderFields.lookup l.fieldName = some order)
    {p : Nat} {admin : Bool} {st st' : State} {acts : List Action} {o : Outcome}
    (task : st.tasks[p]? = some ⟨getSessions l, none⟩) (succeeds : .raise p ∉ acts)
    (asked : ∀ a, .answer p a ∈ acts → a = .isAdmin admin) (ran : run cfg st acts = some st')
    (finished : st'.frame? p = some (.finished o)) :
    ∃ counted fetched,
      [counted, fetched].Sublist (Runs.trace (step cfg) (atAwait p) st acts) ∧
      o = .response ⟨200, .page (sessionsPage l
        (counted.sessions.count (l.scope admin).matches)
        (fetchedRows cfg l order (l.scope admin) fetched)), [], []⟩ := by
  cases own : l.own with
  | true =>
      have first : getSessions l = .request (.countingSessions l order (l.query true)) := by
        simp [getSessions, valid, field, own]
      rw [first] at task
      have served := serve_of_run st.world task (.counting ..) succeeds asked ran finished
      rw [ListRequest.scope, own, Bool.true_or]
      exact serve_counting served
  | false =>
      have first : getSessions l = .request (.askingListAdmin l order) := by
        simp [getSessions, valid, field, own]
      rw [first] at task
      have served := serve_of_run st.world task (.asking ..) succeeds asked ran finished
      rw [ListRequest.scope, own, Bool.false_or]
      exact serve_asking served

end StreamingPortal.Sessions
