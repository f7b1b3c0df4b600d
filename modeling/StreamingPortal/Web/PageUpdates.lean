import StreamingPortal.Shared.Tasks
import StreamingPortal.Web.SetPages

set_option autoImplicit false

/-!
# Concurrent requests for the pages

`get_pages` and `set_pages` as tasks that share the table of the pages. No transaction spans the
updates of `set_pages`; `update_or_create` is a read, and then an update or another read and an
insert.
-/

namespace StreamingPortal.Web.Pages

open StreamingPortal.Tasks
open StreamingPortal.Web.Apps

inductive Request
  | getPages
  | setPages (submitted : List SubmittedPage)

inductive DbOp
  | selectPages
  | deletePages
  | selectPage (name : String)
  | updatePage (name : String) (order : Option SmallInt)
  | insertPage (page : PublishedPage)

inductive Answer
  -- The applications; other requests publish and delete them.
  | apps (items : List Item)
  | pages (pages : PublishedPages)
  | page (row : Option PublishedPage)
  | written
  -- The name has been taken in the meantime.
  | integrityError
  | failed

/-- Where the loop of `set_pages` is. -/
structure Loop where
  before : List SubmittedPage
  page : SubmittedPage
  after : List SubmittedPage

def Loop.submitted (loop : Loop) : List SubmittedPage := loop.before ++ loop.page :: loop.after

inductive Frame
  | deleting (submitted : List SubmittedPage)
  -- `update_or_create`: the read of its transaction, and the update.
  | finding (loop : Loop)
  | updating (loop : Loop) (row : PublishedPage)
  -- `get_or_create`: the read, the insert, and the read after an `IntegrityError`.
  | getting (loop : Loop)
  | inserting (loop : Loop)
  | refetching (loop : Loop)
  -- `get_pages`, by either request.
  | readingApps
  | readingPages (items : List Item)
  | listed (pages : PublishedPages) (items : List Item)
  | raised

def Frame.ended : Frame → Bool
  | .listed _ _ | .raised => true
  | _ => false

def startRequest : Request → Frame
  | .getPages => .readingApps
  | .setPages submitted => .deleting submitted

def frameOp : Frame → Option DbOp
  | .deleting _ => some .deletePages
  | .finding loop => some (.selectPage loop.page.name)
  | .updating loop row => some (.updatePage row.name (loop.page.order.getD row.order))
  | .getting loop => some (.selectPage loop.page.name)
  | .inserting loop => some (.insertPage ⟨loop.page.name, loop.page.order.getD none⟩)
  | .refetching loop => some (.selectPage loop.page.name)
  | .readingPages _ => some .selectPages
  | .readingApps | .listed _ _ | .raised => none

def perform (pages : PublishedPages) : DbOp → PublishedPages × Answer
  | .selectPages => (pages, .pages pages)
  | .deletePages => (pages.deleteWhere fun _ => true, .written)
  | .selectPage name => (pages, .page (pages.get? name))
  | .updatePage name order => (writeOrder pages name order, .written)
  | .insertPage page =>
      match pages.insert? page with
      | some pages => (pages, .written)
      | none => (pages, .integrityError)

-- The next element, or `get_pages` after the last one.
def proceed (before : List SubmittedPage) : List SubmittedPage → Frame
  | [] => .readingApps
  | page :: after => .finding ⟨before, page, after⟩

def Loop.next (loop : Loop) : Frame := proceed (loop.before ++ [loop.page]) loop.after

def resumeFrame : Frame → Answer → Option Frame
  | .deleting submitted, .written => some (proceed [] submitted)
  | .finding loop, .page (some row) => some (.updating loop row)
  | .finding loop, .page none => some (.getting loop)
  | .updating loop _, .written => some loop.next
  -- An existing row is not written.
  | .getting loop, .page (some _) => some loop.next
  | .getting loop, .page none => some (.inserting loop)
  | .inserting loop, .written => some loop.next
  | .inserting loop, .integrityError => some (.refetching loop)
  | .refetching loop, .page (some _) => some loop.next
  | .refetching _, .page none => some .raised
  | .readingApps, .apps items => some (.readingPages items)
  | .readingPages items, .pages pages => some (.listed pages items)
  | .listed _ _, _ | .raised, _ => none
  | _, .failed => some .raised
  | _, _ => none

abbrev Task := Tasks.Task Answer Frame
abbrev State := Tasks.State PublishedPages Unit Answer Frame
abbrev Action := Tasks.Action Answer Request

def program : Tasks.Program PublishedPages Unit DbOp Answer Frame Request where
  start _ := startRequest
  op := frameOp
  perform pages _ op := some (perform pages op)
  failure _ := some .failed
  resume _ _ frame a := (resumeFrame frame a).map fun next => ((), next)
  tick _ _ := ()

abbrev step : State → Action → Option State := Tasks.step program

abbrev run : State → List Action → Option State := Runs.run step

abbrev Along : (State → Action → State → Prop) → State → List Action → Prop := Runs.Along step

def start (pages : PublishedPages) : State := ⟨pages, (), []⟩

/-! ## What is seen -/

inductive Event
  | submitted (pages : List SubmittedPage)
  | seen (pages : PublishedPages)

def observe (st : State) : Action → Option Event
  | .request (.setPages submitted) => some (.submitted submitted)
  | .execute p =>
      match st.frame? p with
      | some (.readingPages _) => some (.seen st.store)
      | _ => none
  | _ => none

def eventsOf (pages : PublishedPages) (acts : List Action) : List Event :=
  Runs.trace step observe (start pages) acts

-- The table is the first one, or the one that a submitted list makes.
def Complete (first : PublishedPages) (events : List Event) (pages : PublishedPages) : Prop :=
  pages = first ∨ ∃ submitted, .submitted submitted ∈ events ∧ pages = tableOf submitted

/-- Whatever is read, and whatever is left once all requests have ended, is a complete table. -/
structure Atomic (first : PublishedPages) (events : List Event) (st : State) : Prop where
  reads : ∀ pages, .seen pages ∈ events → Complete first events pages
  final : (∀ (p : Nat) (task : Task), st.tasks[p]? = some task → task.frame.ended = true) →
    Complete first events st.store

-- The delete of the task has taken effect, and its last write has not.
def partway (task : Task) : Bool :=
  match task.frame, task.answer with
  | .deleting submitted, some .written => !submitted.isEmpty
  | .updating loop _, some .written | .inserting loop, some .written => !loop.after.isEmpty
  | .finding _, _ | .updating _ _, _ | .getting _, _ | .inserting _, _ | .refetching _, _ => true
  | _, _ => false

/-- While a request is partway through its update, no other one gets at the table, and no statement
of its own fails. -/
structure Undisturbed (st : State) (act : Action) : Prop where
  alone : ∀ (p : Nat), act = .execute p → ∀ (q : Nat) (task : Task), q ≠ p →
    st.tasks[q]? = some task → partway task = false
  succeeds : ∀ (p : Nat) (task : Task), act = .raise p → st.tasks[p]? = some task →
    partway task = false

instance (st : State) : (act : Action) → Decidable (Undisturbed st act)
  | .execute p =>
      decidable_of_iff
        (∀ q < st.tasks.length, q ≠ p → st.tasks[q]?.all (fun task => !partway task) = true) <| by
          constructor
          next =>
            intro idle
            refine ⟨?_, by simp⟩
            rintro _ ⟨⟩ q task other current
            have bound : q < st.tasks.length := (List.getElem?_eq_some_iff.mp current).1
            simpa [current] using idle q bound other
          next =>
            intro undisturbed q _ other
            cases current : st.tasks[q]? with
            | none => rfl
            | some task => simp [undisturbed.alone p rfl q task other current]
  | .raise p =>
      decidable_of_iff (st.tasks[p]?.all (fun task => !partway task) = true) <| by
        constructor
        next =>
          intro idle
          refine ⟨by simp, ?_⟩
          rintro _ task ⟨⟩ current
          simpa [current] using idle
        next =>
          intro undisturbed
          cases current : st.tasks[p]? with
          | none => rfl
          | some task => simp [undisturbed.succeeds p task rfl current]
  | .request _ | .resume _ | .answer _ _ | .tick _ => isTrue ⟨by simp, by simp⟩

/-! ## The update of one request -/

-- The list that the task is writing.
def Frame.submitted? : Frame → Option (List SubmittedPage)
  | .deleting submitted => some submitted
  | .finding loop | .updating loop _ | .getting loop | .inserting loop | .refetching loop =>
      some loop.submitted
  | .readingApps | .readingPages _ | .listed _ _ | .raised => none

/-- How far an update that nobody disturbs has brought the table. -/
inductive Reached (pages : PublishedPages) : Task → Prop
  | deleted (submitted : List SubmittedPage) (empty : pages = tableOf []) :
      Reached pages ⟨.deleting submitted, some .written⟩
  | finding (loop : Loop) (table : pages = tableOf loop.before) :
      Reached pages ⟨.finding loop, none⟩
  | found (loop : Loop) (table : pages = tableOf loop.before) :
      Reached pages ⟨.finding loop, some (.page (pages.get? loop.page.name))⟩
  | updating (loop : Loop) (row : PublishedPage) (table : pages = tableOf loop.before)
      (stored : pages.get? loop.page.name = some row) :
      Reached pages ⟨.updating loop row, none⟩
  | updated (loop : Loop) (row : PublishedPage)
      (table : pages = tableOf (loop.before ++ [loop.page])) :
      Reached pages ⟨.updating loop row, some .written⟩
  | getting (loop : Loop) (table : pages = tableOf loop.before)
      (missing : pages.get? loop.page.name = none) : Reached pages ⟨.getting loop, none⟩
  | got (loop : Loop) (table : pages = tableOf loop.before)
      (missing : pages.get? loop.page.name = none) :
      Reached pages ⟨.getting loop, some (.page none)⟩
  | inserting (loop : Loop) (table : pages = tableOf loop.before)
      (missing : pages.get? loop.page.name = none) : Reached pages ⟨.inserting loop, none⟩
  | inserted (loop : Loop) (table : pages = tableOf (loop.before ++ [loop.page])) :
      Reached pages ⟨.inserting loop, some .written⟩

theorem partway_proceed (before after : List SubmittedPage) :
    partway ⟨proceed before after, none⟩ = !after.isEmpty := by
  cases after <;> rfl

theorem reached_proceed {pages : PublishedPages} {before after : List SubmittedPage}
    (table : pages = tableOf before) (more : partway ⟨proceed before after, none⟩ = true) :
    Reached pages ⟨proceed before after, none⟩ := by
  cases after with
  | nil => contradiction
  | cons page after => exact .finding ⟨before, page, after⟩ table

theorem submitted?_proceed {before after submitted : List SubmittedPage}
    (found : (proceed before after).submitted? = some submitted) : submitted = before ++ after := by
  cases after with
  | nil => contradiction
  | cons page after => exact (Option.some.inj found).symm

theorem submitted?_next {loop : Loop} {submitted : List SubmittedPage}
    (found : loop.next.submitted? = some submitted) : submitted = loop.submitted := by
  have same := submitted?_proceed found
  rwa [List.append_assoc, List.singleton_append] at same

-- The list stays the same as long as there is one.
theorem submitted?_resumed {frame next : Frame} {a : Answer}
    (effect : resumeFrame frame a = some next) {submitted : List SubmittedPage}
    (found : next.submitted? = some submitted) : frame.submitted? = some submitted := by
  unfold resumeFrame at effect
  split at effect <;> cases effect <;> first
    | contradiction
    | exact found
    | rw [submitted?_next found]; rfl
    | rw [submitted?_proceed found]; rfl

theorem written_last {loop : Loop} {pages : PublishedPages} (last : loop.after = [])
    (table : pages = tableOf (loop.before ++ [loop.page])) : pages = tableOf loop.submitted := by
  rw [table, Loop.submitted, last]

section Steps

variable {first : PublishedPages} {events : List Event} {pages pages' : PublishedPages}
variable {frame next : Frame} {a : Answer}

theorem reached_executed {op : DbOp} (awaits : frameOp frame = some op)
    (effect : perform pages op = (pages', a))
    (asked : ∀ submitted, frame.submitted? = some submitted → .submitted submitted ∈ events)
    (reached : partway ⟨frame, none⟩ = true → Reached pages ⟨frame, none⟩)
    (complete : partway ⟨frame, none⟩ = false → Complete first events pages) :
    (partway ⟨frame, some a⟩ = true → Reached pages' ⟨frame, some a⟩) ∧
      (partway ⟨frame, some a⟩ = false → Complete first events pages') := by
  cases frame with
  | deleting submitted =>
      cases awaits
      cases effect
      constructor
      next => exact fun _ => .deleted submitted (deleteAll pages)
      next =>
        intro none
        have empty : submitted = [] := by simpa [partway] using none
        exact Or.inr ⟨submitted, asked submitted rfl, by rw [empty, deleteAll]; rfl⟩
  | finding loop =>
      cases awaits
      cases effect
      cases reached rfl with
      | finding _ table => exact ⟨fun _ => .found loop table, fun done => by contradiction⟩
  | updating loop row =>
      cases awaits
      cases effect
      cases reached rfl with
      | updating _ _ table stored =>
          have key : row.name = loop.page.name := (Table.mem_of_get? stored).2
          have written : writeOrder pages row.name (loop.page.order.getD row.order) =
              tableOf (loop.before ++ [loop.page]) := by
            rw [tableOf_concat, ← table, updateOrCreate, stored, key]
          refine ⟨fun _ => .updated loop row written, fun done => ?_⟩
          have last : loop.after = [] := by simpa [partway] using done
          exact Or.inr ⟨loop.submitted, asked _ rfl, written_last last written⟩
  | getting loop =>
      cases awaits
      cases effect
      cases reached rfl with
      | getting _ table missing =>
          rw [missing]
          exact ⟨fun _ => .got loop table missing, fun done => by contradiction⟩
  | inserting loop =>
      cases awaits
      cases reached rfl with
      | inserting _ table missing =>
          obtain ⟨table', inserted⟩ : ∃ table',
              pages.insert? ⟨loop.page.name, loop.page.order.getD none⟩ = some table' :=
            Table.insert?_of_fresh missing
          have written : table' = tableOf (loop.before ++ [loop.page]) := by
            rw [tableOf_concat, ← table, updateOrCreate, missing, inserted, Option.getD_some]
          simp only [perform, inserted] at effect
          cases effect
          refine ⟨fun _ => .inserted loop written, fun done => ?_⟩
          have last : loop.after = [] := by simpa [partway] using done
          exact Or.inr ⟨loop.submitted, asked _ rfl, written_last last written⟩
  | refetching loop => cases reached rfl
  | readingPages items =>
      cases awaits
      cases effect
      exact ⟨fun more => by contradiction, fun _ => complete rfl⟩
  | readingApps | listed | raised => contradiction

theorem partway_resumed (effect : resumeFrame frame a = some next)
    (done : partway ⟨frame, some a⟩ = false) : partway ⟨next, none⟩ = false := by
  cases frame with
  | deleting submitted =>
      cases a with
      | written =>
          cases effect
          exact (partway_proceed [] submitted).trans done
      | failed =>
          cases effect
          rfl
      | apps | pages | page | integrityError => contradiction
  | updating loop | inserting loop =>
      cases a with
      | written =>
          cases effect
          exact (partway_proceed _ loop.after).trans done
      | apps | pages | page | integrityError | failed => contradiction
  | readingApps | readingPages =>
      cases a <;> cases effect <;> rfl
  | finding | getting | refetching | listed | raised => contradiction

theorem reached_resumed (effect : resumeFrame frame a = some next)
    (reached : partway ⟨frame, some a⟩ = true → Reached pages ⟨frame, some a⟩) :
    partway ⟨next, none⟩ = partway ⟨frame, some a⟩ ∧
      (partway ⟨next, none⟩ = true → Reached pages ⟨next, none⟩) := by
  by_cases more : partway ⟨frame, some a⟩ = true
  next =>
    rw [more]
    cases reached more with
    | deleted submitted empty =>
        cases effect
        have more' := (partway_proceed [] submitted).trans more
        exact ⟨more', reached_proceed empty⟩
    | found loop table =>
        cases stored : pages.get? loop.page.name with
        | some row =>
            rw [stored] at effect
            cases effect
            exact ⟨rfl, fun _ => .updating loop row table stored⟩
        | none =>
            rw [stored] at effect
            cases effect
            exact ⟨rfl, fun _ => .getting loop table stored⟩
    | updated loop row table =>
        cases effect
        exact ⟨(partway_proceed _ loop.after).trans more, reached_proceed table⟩
    | got loop table missing =>
        cases effect
        exact ⟨rfl, fun _ => .inserting loop table missing⟩
    | inserted loop table =>
        cases effect
        exact ⟨(partway_proceed _ loop.after).trans more, reached_proceed table⟩
  next =>
    have ended : partway ⟨frame, some a⟩ = false := Bool.eq_false_iff.mpr more
    have done := partway_resumed effect ended
    rw [done, ended]
    exact ⟨rfl, fun more' => by contradiction⟩

end Steps

/-! ## One update alone -/

-- A statement of the only task, and what follows it.
theorem sole_operation {pages pages' : PublishedPages} {frame next : Frame} {op : DbOp} {a : Answer}
    (awaits : frameOp frame = some op) (effect : perform pages op = (pages', a))
    (resumed : resumeFrame frame a = some next) :
    run ⟨pages, (), [⟨frame, none⟩]⟩ [.execute 0, .resume 0] =
      some ⟨pages', (), [⟨next, none⟩]⟩ :=
  Tasks.run_operation (P := program) (p := 0) rfl awaits (congrArg some effect)
    (by simp [program, resumed])

theorem sole_updateOrCreate (pages : PublishedPages) (loop : Loop) :
    ∃ acts, run ⟨pages, (), [⟨.finding loop, none⟩]⟩ acts =
      some ⟨updateOrCreate pages loop.page, (), [⟨loop.next, none⟩]⟩ := by
  cases stored : pages.get? loop.page.name with
  | some row =>
      have key : row.name = loop.page.name := (Table.mem_of_get? stored).2
      have written : updateOrCreate pages loop.page =
          writeOrder pages row.name (loop.page.order.getD row.order) := by
        rw [updateOrCreate, stored, key]
      have found : run ⟨pages, (), [⟨.finding loop, none⟩]⟩ [.execute 0, .resume 0] =
          some ⟨pages, (), [⟨.updating loop row, none⟩]⟩ :=
        sole_operation rfl (by rw [perform, stored]) rfl
      have updated : run ⟨pages, (), [⟨.updating loop row, none⟩]⟩ [.execute 0, .resume 0] =
          some ⟨writeOrder pages row.name (loop.page.order.getD row.order), (),
            [⟨loop.next, none⟩]⟩ := sole_operation rfl rfl rfl
      rw [written]
      exact ⟨_, (Runs.run_append found _).trans updated⟩
  | none =>
      obtain ⟨table, inserted⟩ : ∃ table,
          pages.insert? ⟨loop.page.name, loop.page.order.getD none⟩ = some table :=
        Table.insert?_of_fresh stored
      have written : updateOrCreate pages loop.page = table := by
        rw [updateOrCreate, stored, inserted, Option.getD_some]
      have found : run ⟨pages, (), [⟨.finding loop, none⟩]⟩ [.execute 0, .resume 0] =
          some ⟨pages, (), [⟨.getting loop, none⟩]⟩ :=
        sole_operation rfl (by rw [perform, stored]) rfl
      have missing : run ⟨pages, (), [⟨.getting loop, none⟩]⟩ [.execute 0, .resume 0] =
          some ⟨pages, (), [⟨.inserting loop, none⟩]⟩ :=
        sole_operation rfl (by rw [perform, stored]) rfl
      have created : run ⟨pages, (), [⟨.inserting loop, none⟩]⟩ [.execute 0, .resume 0] =
          some ⟨table, (), [⟨loop.next, none⟩]⟩ :=
        sole_operation rfl (by rw [perform, inserted]) rfl
      rw [written]
      exact ⟨_, (Runs.run_append ((Runs.run_append found _).trans missing) _).trans created⟩

theorem sole_proceed (pages : PublishedPages) (before after : List SubmittedPage) :
    ∃ acts, run ⟨pages, (), [⟨proceed before after, none⟩]⟩ acts =
      some ⟨after.foldl updateOrCreate pages, (), [⟨.readingApps, none⟩]⟩ := by
  induction after generalizing pages before with
  | nil => exact ⟨[], rfl⟩
  | cons page after ih =>
      obtain ⟨first, written⟩ := sole_updateOrCreate pages ⟨before, page, after⟩
      obtain ⟨rest, ended⟩ := ih (updateOrCreate pages page) (before ++ [page])
      exact ⟨first ++ rest, (Runs.run_append written rest).trans ended⟩

/-- An update that is served alone leaves the table of `setPages`. -/
theorem sole_setPages (pages : PublishedPages) (submitted : List SubmittedPage) :
    ∃ acts, run (start pages) (.request (.setPages submitted) :: acts) =
      some ⟨setPages pages submitted, (), [⟨.readingApps, none⟩]⟩ := by
  have asked : run (start pages) [.request (.setPages submitted)] =
      some ⟨pages, (), [⟨.deleting submitted, none⟩]⟩ := rfl
  have deleted : run ⟨pages, (), [⟨.deleting submitted, none⟩]⟩ [.execute 0, .resume 0] =
      some ⟨pages.deleteWhere fun _ => true, (), [⟨proceed [] submitted, none⟩]⟩ :=
    sole_operation rfl rfl rfl
  obtain ⟨rest, ended⟩ := sole_proceed (pages.deleteWhere fun _ => true) [] submitted
  have written := (Runs.run_append deleted rest).trans ended
  exact ⟨[.execute 0, .resume 0] ++ rest, (Runs.run_append asked _).trans written⟩

/-! ## Runs -/

theorem Complete.mono {first pages : PublishedPages} {events events' : List Event}
    (more : ∀ e ∈ events, e ∈ events') (complete : Complete first events pages) :
    Complete first events' pages := by
  cases complete with
  | inl same => exact Or.inl same
  | inr written =>
      obtain ⟨submitted, asked, table⟩ := written
      exact Or.inr ⟨submitted, more _ asked, table⟩

structure Inv (first : PublishedPages) (st : State) (events : List Event) : Prop where
  asked : ∀ (p : Nat) (task : Task), st.tasks[p]? = some task →
    ∀ submitted, task.frame.submitted? = some submitted → .submitted submitted ∈ events
  alone : ∀ (p q : Nat) (task other : Task), st.tasks[p]? = some task →
    st.tasks[q]? = some other → partway task = true → partway other = true → p = q
  reached : ∀ (p : Nat) (task : Task), st.tasks[p]? = some task → partway task = true →
    Reached st.store task
  complete : (∀ (p : Nat) (task : Task), st.tasks[p]? = some task → partway task = false) →
    Complete first events st.store
  reads : ∀ pages, .seen pages ∈ events → Complete first events pages

section Moves

variable {first : PublishedPages} {events : List Event} {st : State} {p : Nat}

theorem inv_start : Inv first (start first) [] where
  asked := by simp [start]
  alone := by simp [start]
  reached := by simp [start]
  complete _ := Or.inl rfl
  reads := by simp

theorem inv_requested (inv : Inv first st events) (r : Request) :
    Inv first { st with tasks := st.tasks ++ [⟨startRequest r, none⟩] }
      (events ++ (observe st (.request r)).toList) := by
  have idle : partway ⟨startRequest r, none⟩ = false := by cases r <;> rfl
  have grows : ∀ e ∈ events, e ∈ events ++ (observe st (.request r)).toList :=
    fun e member => List.mem_append_left _ member
  have earlier (q : Nat) (task : Task) (more : partway task = true)
      (here : (st.tasks ++ [⟨startRequest r, none⟩])[q]? = some task) :
      st.tasks[q]? = some task := by
    rcases getElem?_spawn_cases here with ⟨-, rfl⟩ | old
    · rw [idle] at more
      contradiction
    · exact old
  constructor
  next =>
    refine forall_spawn ?_ fun q task old submitted found => grows _ (inv.asked q task old _ found)
    intro submitted found
    cases r with
    | getPages => contradiction
    | setPages pages =>
        cases found
        exact List.mem_append_right _ (List.mem_singleton_self _)
  next =>
    intro q q' task other here there more more'
    exact inv.alone q q' task other (earlier q task more here) (earlier q' other more' there)
      more more'
  next => exact fun q task here more => inv.reached q task (earlier q task more here) more
  next =>
    intro none
    refine (inv.complete fun q task old => none q task ?_).mono grows
    have bound : q < st.tasks.length := (List.getElem?_eq_some_iff.mp old).1
    rwa [List.getElem?_append_left bound]
  next =>
    intro pages read
    rcases List.mem_append.mp read with old | now
    · exact (inv.reads pages old).mono grows
    · cases r <;> simp [observe] at now

-- A task goes on, and the table stays as it is.
theorem inv_moved (inv : Inv first st events) {task next : Task}
    (current : st.tasks[p]? = some task) (same : partway next = partway task)
    (asked : ∀ submitted, next.frame.submitted? = some submitted →
      task.frame.submitted? = some submitted)
    (reached : partway next = true → Reached st.store next) :
    Inv first (st.setTask p next) events := by
  have earlier (q : Nat) (u : Task) (more : partway u = true)
      (here : (st.tasks.set p next)[q]? = some u) :
      ∃ v, st.tasks[q]? = some v ∧ partway v = true := by
    rcases getElem?_set_cases here with ⟨rfl, rfl⟩ | ⟨-, old⟩
    · exact ⟨task, current, same ▸ more⟩
    · exact ⟨u, old, more⟩
  constructor
  next =>
    exact forall_set (fun submitted found => inv.asked p task current _ (asked _ found))
      fun q u _ old => inv.asked q u old
  next =>
    intro q q' u u' here there more more'
    obtain ⟨v, old, was⟩ := earlier q u more here
    obtain ⟨v', old', was'⟩ := earlier q' u' more' there
    exact inv.alone q q' v v' old old' was was'
  next => exact forall_set reached fun q u _ old => inv.reached q u old
  next =>
    intro none
    refine inv.complete fun q u old => ?_
    by_cases acting : q = p
    next =>
      subst acting
      obtain rfl := Option.some.inj (current.symm.trans old)
      rw [← same]
      exact none q next (getElem?_set_acting current)
    next => exact none q u (by rwa [State.setTask_tasks, List.getElem?_set_ne (Ne.symm acting)])
  next => exact inv.reads

theorem observe_execute {frame : Frame} {task : Option Answer} {pages : PublishedPages}
    (current : st.tasks[p]? = some ⟨frame, task⟩)
    (seen : observe st (.execute p) = some (.seen pages)) :
    pages = st.store ∧ partway ⟨frame, none⟩ = false := by
  simp only [observe, State.frame?_of_task current] at seen
  split at seen
  next items reading =>
    cases reading
    cases seen
    exact ⟨rfl, rfl⟩
  next => contradiction

theorem inv_executed (inv : Inv first st events) {frame : Frame} {op : DbOp}
    {pages : PublishedPages} {a : Answer} (current : st.tasks[p]? = some ⟨frame, none⟩)
    (awaits : frameOp frame = some op) (effect : perform st.store op = (pages, a))
    (others : ∀ (q : Nat) (task : Task), q ≠ p → st.tasks[q]? = some task → partway task = false) :
    Inv first { st.setTask p ⟨frame, some a⟩ with store := pages }
      (events ++ (observe st (.execute p)).toList) := by
  have grows : ∀ e ∈ events, e ∈ events ++ (observe st (.execute p)).toList :=
    fun e member => List.mem_append_left _ member
  have complete (done : partway ⟨frame, none⟩ = false) : Complete first events st.store := by
    refine inv.complete fun q task old => ?_
    by_cases acting : q = p
    next =>
      subst acting
      obtain rfl := Option.some.inj (current.symm.trans old)
      exact done
    next => exact others q task acting old
  have after := reached_executed awaits effect (inv.asked p _ current) (inv.reached p _ current)
    complete
  constructor
  next =>
    refine forall_set ?_ fun q task _ old submitted found => grows _ (inv.asked q task old _ found)
    exact fun submitted found => grows _ (inv.asked p _ current submitted found)
  next =>
    -- Only the acting task can be partway.
    have acting (q : Nat) (task : Task) (more : partway task = true)
        (here : (st.tasks.set p ⟨frame, some a⟩)[q]? = some task) : q = p := by
      rcases getElem?_set_cases here with ⟨same, -⟩ | ⟨other, old⟩
      · exact same
      · rw [others q task other old] at more
        contradiction
    intro q q' task task' here there more more'
    rw [acting q task more here, acting q' task' more' there]
  next =>
    refine forall_set after.1 fun q task other old more => ?_
    rw [others q task other old] at more
    contradiction
  next =>
    intro none
    exact (after.2 (none p _ (getElem?_set_acting current))).mono grows
  next =>
    intro read member
    rcases List.mem_append.mp member with old | now
    · exact (inv.reads read old).mono grows
    · obtain ⟨rfl, done⟩ := observe_execute current (by simpa using now)
      exact (complete done).mono grows

theorem inv_step {st' : State} {act : Action} (inv : Inv first st events)
    (undisturbed : Undisturbed st act) (taken : step st act = some st') :
    Inv first st' (events ++ (observe st act).toList) := by
  cases step_cases taken with
  | request r => exact inv_requested inv r
  | execute p frame op pages a current awaits effect =>
      exact inv_executed inv current awaits (Option.some.inj effect) (undisturbed.alone p rfl)
  | raise p frame op a current awaits effect =>
      cases effect
      have idle : partway ⟨frame, none⟩ = false := undisturbed.succeeds p _ rfl current
      have stays : partway ⟨frame, some .failed⟩ = false := by
        cases frame <;> first | rfl | contradiction
      have moved : Inv first (st.setTask p ⟨frame, some .failed⟩) events :=
        inv_moved inv current (stays.trans idle.symm) (fun _ found => found)
          fun more => absurd (stays.symm.trans more) Bool.false_ne_true
      simpa [observe] using moved
  | resume p frame next a world current effect =>
      obtain ⟨next', resumed, same⟩ := Option.map_eq_some_iff.mp effect
      cases same
      have after := reached_resumed resumed (inv.reached p _ current)
      have moved : Inv first (st.setTask p ⟨next, none⟩) events :=
        inv_moved inv current after.1 (fun _ found => submitted?_resumed resumed found) after.2
      have quiet : events ++ (observe st (.resume p)).toList = events := List.append_nil events
      rw [quiet]
      exact moved
  | answer p frame next a world current awaits effect =>
      obtain ⟨next', resumed, same⟩ := Option.map_eq_some_iff.mp effect
      cases same
      have idle : partway ⟨frame, none⟩ = false ∧ partway ⟨next, none⟩ = false := by
        cases frame <;> first | contradiction | exact ⟨rfl, partway_resumed resumed rfl⟩
      have moved : Inv first (st.setTask p ⟨next, none⟩) events :=
        inv_moved inv current (idle.2.trans idle.1.symm)
          (fun _ found => submitted?_resumed resumed found)
          fun more => absurd (idle.2.symm.trans more) Bool.false_ne_true
      have quiet : events ++ (observe st (.answer p a)).toList = events := List.append_nil events
      rw [quiet]
      exact moved
  | tick time => simpa [observe] using inv

end Moves

theorem partway_ended {task : Task} (done : task.frame.ended = true) : partway task = false := by
  obtain ⟨frame, answer⟩ := task
  cases frame <;> first | contradiction | (cases answer <;> rfl)

theorem Inv.atomic {first : PublishedPages} {events : List Event} {st : State}
    (inv : Inv first st events) : Atomic first events st where
  reads := inv.reads
  final ended := inv.complete fun p task current => partway_ended (ended p task current)

/-- While no update is disturbed, every read and the final table are complete. -/
theorem replacement_atomic (pages : PublishedPages) (acts pre : List Action) (st : State)
    (undisturbed : Along (fun st act _ => Undisturbed st act) (start pages) acts)
    (stretch : pre <+: acts) (reached : run (start pages) pre = some st) :
    Atomic pages (eventsOf pages pre) st := by
  obtain ⟨post, rfl⟩ := stretch
  have along := (Runs.Along.append undisturbed reached).1
  have inv := Runs.invariant_trace (Inv pages)
    (fun _ _ _ _ inv ok taken => inv_step inv ok taken) inv_start along reached
  exact inv.atomic

def savedPages : PublishedPages := ⟨[⟨"Apps", none⟩], by decide⟩

-- Two pages are submitted. A reader and a second update come in meanwhile; the one reads, and the
-- other deletes, when both pages have been written.
def overlapping : List Action :=
  [.request (.setPages [⟨"Games", none⟩, ⟨"Apps", some (some ⟨2, by decide, by decide⟩)⟩]),
    .execute 0, .request .getPages, .resume 0, .execute 0, .answer 1 (.apps []), .resume 0,
    .execute 0, .resume 0, .execute 0, .request (.setPages [⟨"Films", none⟩]), .resume 0,
    .execute 0, .resume 0, .execute 0, .resume 0, .execute 0, .execute 1, .resume 0, .execute 2,
    .resume 1, .resume 2, .execute 2, .resume 2, .execute 2, .resume 2, .execute 2, .resume 2]

theorem replacement_atomic_overlapping :
    ∃ st, run (start savedPages) overlapping = some st ∧
      Atomic savedPages (eventsOf savedPages overlapping) st := by
  refine ⟨_, rfl, ?_⟩
  exact replacement_atomic savedPages overlapping _ _ (by decide) (List.prefix_refl _) rfl

-- The body with one page, and what its update does.
def updateActions : List Action :=
  [.request (.setPages [⟨"Games", none⟩]), .execute 0, .resume 0, .execute 0, .resume 0,
    .execute 0, .resume 0, .execute 0, .resume 0]

-- A request for the pages that reads them in the middle of the update.
def readActions : List Action := [.request .getPages, .answer 1 (.apps []), .execute 1, .resume 1]

theorem read_empty_between :
    ∃ st, run (start savedPages) (updateActions.take 2 ++ readActions ++ updateActions.drop 2) =
        some st ∧
      ¬ Atomic savedPages
        (eventsOf savedPages (updateActions.take 2 ++ readActions ++ updateActions.drop 2)) st := by
  refine ⟨_, rfl, ?_⟩
  intro atomic
  have events : eventsOf savedPages
      (updateActions.take 2 ++ readActions ++ updateActions.drop 2) =
        [.submitted [⟨"Games", none⟩], .seen (savedPages.deleteWhere fun _ => true)] := rfl
  rw [events] at atomic
  have complete := atomic.reads _ (List.mem_cons_of_mem _ (List.mem_singleton_self _))
  cases complete with
  | inl same => exact absurd (congrArg Table.rows same) (by decide)
  | inr written =>
      obtain ⟨submitted, asked, table⟩ := written
      obtain rfl : submitted = [⟨"Games", none⟩] := by simpa using asked
      exact absurd (congrArg Table.rows table) (by decide)

end StreamingPortal.Web.Pages
