import StreamingPortal.Sessions.SessionPages

set_option autoImplicit false

/-!
# The running sessions that a logout finds

`getOwnAliveSessions` asks for one page after the other, and sessions start and end
between its requests and between the two queries of each request.
-/

namespace StreamingPortal.Web.LogOut

open Sessions Pagination

def ownSessionsPageSize : Nat := 100

-- The query of the first page, as the backend reads it.
def ownAlive (user : User) : ListRequest where
  user := user
  filteredStatus := some .alive
  filteredApp := none
  own := true
  page := 1
  pageSize := ownSessionsPageSize
  -- The default of the backend: the portal sends no `order_by`.
  orderBy := "-start_date"

/-! ## The loop and the table it reads -/

inductive Phase
  | requested
  -- `get_sessions` has counted, and has not fetched the rows.
  | counted (db : Db)
  | returned

structure State where
  db : Db
  sessions : List SessionResponse
  page : Nat
  phase : Phase
  -- A history variable: all rows of the last query, in the order of its answer.
  previous : List SessionInstance

inductive Action (c : Collation)
  | change (db : Db)
  | count
  | fetch (a : Arrangement c)

def initial (db : Db) : State := ⟨db, [], 1, .requested, []⟩

-- Rows stay, and a session that has ended does not run again.
def Onward (db db' : Db) : Prop :=
  ∀ row ∈ db.sessions.rows, ∃ row' ∈ db'.sessions.get? row.id, row'.userId = row.userId ∧
    (row.status ∈ terminalStatuses → row'.status ∈ terminalStatuses)

instance (db db' : Db) : Decidable (Onward db db') :=
  inferInstanceAs (Decidable (∀ row ∈ db.sessions.rows, _))

def running (user : User) (db : Db) : List SessionInstance := (ownAlive user).matching true db

def ids (l : List SessionInstance) : List String := l.map fun s => s.row.id

def State.listed (s : State) : List String := s.sessions.map fun r => r.session.id

def receive (s : State) (result : Page) : State :=
  { s with
    sessions := s.sessions ++ result.items
    page := s.page + 1
    phase := if ((s.page + 1 : Nat) : Int) ≤ result.totalPages then .requested else .returned }

section Loop

variable {c : Collation} (cfg : Config) (w : World) (admin : Bool) (user : User)

def step (s : State) : Action c → Option State
  | .change db => if Onward s.db db then some { s with db := db } else none
  | .count =>
      match s.phase with
      | .requested => some { s with phase := .counted s.db }
      | _ => none
  | .fetch a =>
      match s.phase with
      | .counted counted =>
          (servedPage (cfg.answering a) w admin ((ownAlive user).atPage s.page) counted s.db).map
            fun result => { receive s result with
              previous := a.arrange .startDate true (running user s.db) }
      | _ => none

abbrev run : State → List (Action c) → Option State := Runs.run (step cfg w admin user)

abbrev Along : (State → Action c → State → Prop) → State → List (Action c) → Prop :=
  Runs.Along (step cfg w admin user)

/-- All a step can do. -/
inductive Step (s : State) : Action c → State → Prop
  | changed (db : Db) (onward : Onward s.db db) : Step s (.change db) { s with db := db }
  | counted (requested : s.phase = .requested) : Step s .count { s with phase := .counted s.db }
  | fetched (a : Arrangement c) (counted : Db) (result : Page) (waits : s.phase = .counted counted)
      (served : servedPage (cfg.answering a) w admin ((ownAlive user).atPage s.page) counted s.db =
        some result) :
      Step s (.fetch a) { receive s result with
        previous := a.arrange .startDate true (running user s.db) }

variable {cfg w admin user}

theorem step_cases {s s' : State} {act : Action c} (taken : step cfg w admin user s act = some s') :
    Step cfg w admin user s act s' := by
  cases act with
  | change db =>
      simp only [step] at taken
      split at taken
      next onward =>
        obtain rfl := Option.some.inj taken
        exact .changed db onward
      next => contradiction
  | count =>
      simp only [step] at taken
      split at taken
      next requested =>
        obtain rfl := Option.some.inj taken
        exact .counted requested
      next => contradiction
  | fetch a =>
      simp only [step] at taken
      split at taken
      next counted waits =>
        obtain ⟨result, served, rfl⟩ := Option.map_eq_some_iff.mp taken
        exact .fetched a counted result waits served
      next => contradiction

end Loop

/-! ## Sessions that run through -/

theorem Onward.get? {db db' : Db} (onward : Onward db db') {id : String} {row : SessionModel}
    (stored : db.sessions.get? id = some row) :
    ∃ row', db'.sessions.get? id = some row' ∧ row'.userId = row.userId ∧
      (row.status ∈ terminalStatuses → row'.status ∈ terminalStatuses) := by
  obtain ⟨inside, rfl⟩ := Table.get?_eq_some_iff.mp stored
  obtain ⟨row', stored', kept⟩ := onward row inside
  exact ⟨row', stored', kept⟩

theorem onward_refl (db : Db) : Onward db db := fun row inside =>
  ⟨row, Table.get?_of_mem inside, rfl, id⟩

theorem Onward.trans {db₁ db₂ db₃ : Db} (first : Onward db₁ db₂) (second : Onward db₂ db₃) :
    Onward db₁ db₃ := by
  intro row inside
  obtain ⟨row₂, stored₂, user₂, ended₂⟩ := first row inside
  obtain ⟨row₃, stored₃, user₃, ended₃⟩ := second.get? stored₂
  exact ⟨row₃, stored₃, user₃.trans user₂, fun ended => ended₃ (ended₂ ended)⟩

def Stored (db : Db) (id : String) : Prop := (db.sessions.get? id).isSome

theorem Onward.stored {db db' : Db} (onward : Onward db db') {id : String}
    (stored : Stored db id) : Stored db' id := by
  obtain ⟨row, stored⟩ := Option.isSome_iff_exists.mp stored
  obtain ⟨row', stored', -⟩ := onward.get? stored
  exact Option.isSome_iff_exists.mpr ⟨row', stored'⟩

theorem alive_iff (status : SessionStatus) :
    status ∈ aliveStatuses ↔ status ∉ terminalStatuses := by
  cases status <;> decide

theorem mem_running {user : User} {db : Db} {id : String} :
    id ∈ ids (running user db) ↔ ∃ row, db.sessions.get? id = some row ∧
      row.status ∉ terminalStatuses ∧ row.userId = user.sub := by
  have accepts (row : SessionModel) : ((ownAlive user).scope true).matches row = true ↔
      row.status ∉ terminalStatuses ∧ row.userId = user.sub := by
    rw [← alive_iff]
    simp [ListRequest.scope, ListRequest.query, ownAlive, SessionQuery.matches,
      StatusFilter.statuses]
  constructor
  · intro inside
    obtain ⟨s, found, rfl⟩ := List.mem_map.mp inside
    obtain ⟨stored, -, accepted⟩ := Db.mem_selectSessions found
    exact ⟨s.row, stored, (accepts s.row).mp accepted⟩
  · rintro ⟨row, stored, accepted⟩
    obtain ⟨inside, rfl⟩ := Table.get?_eq_some_iff.mp stored
    refine List.mem_map.mpr ⟨db.load row, List.mem_map.mpr ⟨row, ?_, rfl⟩, rfl⟩
    exact Table.mem_select.mpr ⟨stored, (accepts row).mpr accepted⟩

theorem running_stored {user : User} {db : Db} {id : String} (runs : id ∈ ids (running user db)) :
    Stored db id := by
  obtain ⟨row, stored, -⟩ := mem_running.mp runs
  exact Option.isSome_iff_exists.mpr ⟨row, stored⟩

-- A session that runs has been running ever since it was started.
theorem Onward.ran {user : User} {db db' : Db} (onward : Onward db db') {id : String}
    (stored : Stored db id) (runs : id ∈ ids (running user db')) : id ∈ ids (running user db) := by
  obtain ⟨row, stored⟩ := Option.isSome_iff_exists.mp stored
  obtain ⟨row₁, stored₁, user₁, ended₁⟩ := onward.get? stored
  obtain ⟨row₂, stored₂, alive, owner⟩ := mem_running.mp runs
  obtain rfl := Option.some.inj (stored₁.symm.trans stored₂)
  exact mem_running.mpr ⟨row, stored, fun ended => alive (ended₁ ended), user₁.symm.trans owner⟩

/-! ## What the answers must agree on -/

def State.offset (s : State) : Nat := (s.page - 1) * ownSessionsPageSize

-- The rows ahead of the next page, as far as the last answer tells.
def State.before (s : State) : List String := (ids s.previous).take s.offset

-- All rows that the query finds, in the order of its answer.
def State.answered {c : Collation} (s : State) (user : User) (a : Arrangement c) : List String :=
  ids (a.arrange .startDate true (running user s.db))

/--
The query of the next page has the same sessions ahead of it as the query before it
had, except for those that have started or ended since; and the pages up to the last
one, as counted, have all sessions that were running when they were counted.
-/
def CutKept {c : Collation} (user : User) (s : State) : Action c → State → Prop
  | .fetch a, _ =>
      (∀ id ∈ s.answered user a, id ∈ ids s.previous →
        (id ∈ (s.answered user a).take s.offset ↔ id ∈ s.before)) ∧
      ∀ counted, s.phase = .counted counted →
        (running user counted).length ≤ s.page * ownSessionsPageSize →
          ∀ id ∈ s.answered user a, id ∈ ids (running user counted) →
            id ∈ (s.answered user a).take (s.page * ownSessionsPageSize)
  | _, _ => True

/-- What the call has found of the sessions that have been running since it began. -/
structure Found (user : User) (start : Db) (s : State) : Prop where
  page : 1 ≤ s.page
  onward : Onward start s.db
  counted : ∀ db, s.phase = .counted db → Onward start db ∧ Onward db s.db
  nodup : s.listed.Nodup
  listed : ∀ id ∈ s.listed, Stored s.db id ∧ (id ∈ ids (running user s.db) → id ∈ s.before)
  stored : ∀ id ∈ ids s.previous, Stored s.db id
  seen : ∀ id ∈ ids (running user start), id ∈ ids (running user s.db) →
    s.page = 1 ∨ id ∈ ids s.previous
  read : ∀ id ∈ ids (running user start), id ∈ ids (running user s.db) → id ∈ s.before →
    id ∈ s.listed
  all : s.phase = .returned → ∀ id ∈ ids (running user start), id ∈ ids (running user s.db) →
    id ∈ s.listed

theorem found_initial (user : User) (db : Db) : Found user db (initial db) where
  page := Nat.le_refl 1
  onward := onward_refl db
  counted := by simp [initial]
  nodup := List.nodup_nil
  listed := by simp [initial, State.listed]
  stored := by simp [initial, ids]
  seen := fun _ _ _ => Or.inl rfl
  read := by simp [initial, State.before, ids]
  all := by simp [initial]

theorem Found.changed {user : User} {start db : Db} {s : State} (found : Found user start s)
    (onward : Onward s.db db) : Found user start { s with db := db } where
  page := found.page
  onward := found.onward.trans onward
  counted := by
    intro db' waits
    obtain ⟨early, late⟩ := found.counted db' waits
    exact ⟨early, late.trans onward⟩
  nodup := found.nodup
  listed := by
    intro id inside
    obtain ⟨stored, before⟩ := found.listed id inside
    exact ⟨onward.stored stored, fun runs => before (onward.ran stored runs)⟩
  stored := fun id inside => onward.stored (found.stored id inside)
  seen := fun id first runs =>
    found.seen id first (onward.ran (found.onward.stored (running_stored first)) runs)
  read := fun id first runs =>
    found.read id first (onward.ran (found.onward.stored (running_stored first)) runs)
  all := fun returned id first runs =>
    found.all returned id first (onward.ran (found.onward.stored (running_stored first)) runs)

theorem Found.counts {user : User} {start : Db} {s : State} (found : Found user start s) :
    Found user start { s with phase := .counted s.db } where
  page := found.page
  onward := found.onward
  counted := by
    rintro _ ⟨⟩
    exact ⟨found.onward, onward_refl s.db⟩
  nodup := found.nodup
  listed := found.listed
  stored := found.stored
  seen := found.seen
  read := found.read
  all := by simp

-- When nothing happens between the two queries of a page, only the cut ahead of it matters.
theorem cutKept_counted {c : Collation} {user : User} {s s' : State} (a : Arrangement c)
    (waits : s.phase = .counted s.db)
    (ahead : ∀ id ∈ s.answered user a, id ∈ ids s.previous →
      (id ∈ (s.answered user a).take s.offset ↔ id ∈ s.before)) :
    CutKept user s (.fetch a) s' := by
  refine ⟨ahead, ?_⟩
  intro counted phase few id inside _
  obtain rfl := Phase.counted.inj (waits.symm.trans phase)
  have length := (a.perm .startDate true (running user s.db)).length_eq
  rwa [List.take_of_length_le]
  rw [State.answered, ids, List.length_map, length]
  exact few

section Fetch

variable {c : Collation} {cfg : Config} {w : World} {admin : Bool} {user : User}

theorem ownAlive_order (user : User) :
    sessionOrderFields.lookup (ownAlive user).fieldName = some .startDate := by
  have field : (ownAlive user).fieldName = "start_date" := by
    simp only [ListRequest.fieldName, ownAlive]
    decide
  rw [field]
  decide

theorem ownAlive_descending (user : User) : (ownAlive user).descending = true := by
  have first : "-start_date".toList.head? = some '-' := by decide
  exact decide_eq_true first

theorem served_result {s : State} {k : Nat} (here : s.page = k + 1) (a : Arrangement c)
    {counted : Db} {result : Page}
    (served : servedPage (cfg.answering a) w admin ((ownAlive user).atPage s.page) counted s.db =
      some result) :
    result.items = (Pagination.page ownSessionsPageSize k
        (a.arrange .startDate true (running user s.db))).map SessionResponse.ofInstance ∧
      result.totalPages = (((running user counted).length + ownSessionsPageSize - 1) /
        ownSessionsPageSize : Nat) := by
  have expected := servedPage_atPage (cfg.answering a) (l := ownAlive user)
    (show (5 : Int) ≤ ownSessionsPageSize by decide) (ownAlive_order user) w admin counted s.db k
  rw [here, Int.natCast_succ] at served
  rw [ownAlive_descending] at expected
  obtain rfl := Option.some.inj (expected.symm.trans served)
  refine ⟨rfl, ?_⟩
  have count : counted.sessions.count ((ownAlive user).scope admin).matches =
      (running user counted).length := by
    simp only [running, ListRequest.matching, Db.selectSessions, List.length_map,
      Table.count_eq_length]
    rfl
  simp only [sessionsPage, count]
  exact totalPages_eq _ (show 0 < ownSessionsPageSize by decide)

theorem step_change {s : State} {db : Db} (onward : Onward s.db db) :
    step cfg w admin user s (.change db : Action c) = some { s with db := db } := by
  simp only [step, if_pos onward]

theorem step_count {s : State} (requested : s.phase = .requested) :
    step cfg w admin user s (.count : Action c) = some { s with phase := .counted s.db } := by
  simp only [step, requested]

theorem step_fetch (cfg : Config) (w : World) (admin : Bool) (user : User) {s : State} {k : Nat}
    (here : s.page = k + 1) {counted : Db} (waits : s.phase = .counted counted)
    (a : Arrangement c) :
    ∃ result, step cfg w admin user s (.fetch a) = some { receive s result with
        previous := a.arrange .startDate true (running user s.db) } ∧
      result.items = (Pagination.page ownSessionsPageSize k
        (a.arrange .startDate true (running user s.db))).map SessionResponse.ofInstance ∧
      result.totalPages = (((running user counted).length + ownSessionsPageSize - 1) /
        ownSessionsPageSize : Nat) := by
  have served := servedPage_atPage (cfg.answering a) (l := ownAlive user)
    (show (5 : Int) ≤ ownSessionsPageSize by decide) (ownAlive_order user) w admin counted s.db k
  rw [← Int.natCast_succ, show k.succ = s.page from here.symm] at served
  refine ⟨_, ?_, served_result here a served⟩
  simp only [step, waits, served]
  rfl

theorem mem_answered {s : State} (a : Arrangement c) (id : String) :
    id ∈ s.answered user a ↔ id ∈ ids (running user s.db) :=
  ((a.perm .startDate true _).map _).mem_iff

theorem answered_nodup {s : State} (a : Arrangement c) : (s.answered user a).Nodup :=
  ((a.perm .startDate true _).map _).nodup_iff.mpr (matching_nodup (ownAlive user) true s.db)

theorem offset_eq {s : State} {k : Nat} (here : s.page = k + 1) :
    s.offset = k * ownSessionsPageSize := by
  rw [State.offset, here, Nat.add_sub_cancel]

theorem listed_receive {s : State} {k : Nat} {a : Arrangement c} {result : Page}
    (items : result.items = (Pagination.page ownSessionsPageSize k
      (a.arrange .startDate true (running user s.db))).map SessionResponse.ofInstance) :
    (receive s result).listed =
      s.listed ++ Pagination.page ownSessionsPageSize k (s.answered user a) := by
  rw [State.answered, ids, page_map]
  simp [State.listed, receive, items, SessionResponse.ofInstance]

-- Ahead of the page after this one are the rows ahead of this page, and this page.
theorem before_receive {s : State} {k : Nat} (here : s.page = k + 1) (a : Arrangement c)
    (result : Page) :
    State.before { receive s result with
        previous := a.arrange .startDate true (running user s.db) } =
      (s.answered user a).take s.offset ++
        Pagination.page ownSessionsPageSize k (s.answered user a) := by
  rw [offset_eq here, ← take_succ_page, State.before, State.offset]
  simp [receive, here, State.answered]

-- The last page ends behind all rows that were counted.
theorem few_of_returned {s : State} {rows : Nat} {result : Page}
    (pages : result.totalPages = ((rows + ownSessionsPageSize - 1) / ownSessionsPageSize : Nat))
    (returned : (receive s result).phase = .returned) :
    rows ≤ s.page * ownSessionsPageSize := by
  simp only [receive, pages, Int.ofNat_le] at returned
  split at returned
  · contradiction
  next past =>
    refine Nat.le_of_not_lt fun more => past ?_
    exact (lt_totalPages (show 0 < ownSessionsPageSize by decide)).mpr more

-- What was listed before and still runs is ahead of this page in both answers.
theorem Found.ahead {start : Db} {s s' : State} (found : Found user start s) {a : Arrangement c}
    (cut : CutKept user s (.fetch a) s') {id : String} (inside : id ∈ s.listed)
    (runs : id ∈ ids (running user s.db)) : id ∈ (s.answered user a).take s.offset := by
  have was := (found.listed id inside).2 runs
  exact (cut.1 id ((mem_answered a id).mpr runs) (List.mem_of_mem_take was)).mpr was

-- What is ahead of this page, and has run since the call began, was listed before.
theorem Found.listed_of_ahead {start : Db} {s s' : State} (found : Found user start s)
    {a : Arrangement c} (cut : CutKept user s (.fetch a) s') {id : String}
    (first : id ∈ ids (running user start)) (runs : id ∈ ids (running user s.db))
    (early : id ∈ (s.answered user a).take s.offset) : id ∈ s.listed := by
  rcases found.seen id first runs with one | known
  · simp [State.offset, one] at early
  · exact found.read id first runs ((cut.1 id ((mem_answered a id).mpr runs) known).mp early)

theorem Found.fetched {start : Db} {s : State} (found : Found user start s) (a : Arrangement c)
    {counted : Db} {result : Page} (waits : s.phase = .counted counted)
    (served : servedPage (cfg.answering a) w admin ((ownAlive user).atPage s.page) counted s.db =
      some result)
    {s' : State} (next : s' = { receive s result with
      previous := a.arrange .startDate true (running user s.db) })
    (cut : CutKept user s (.fetch a) s') : Found user start s' := by
  obtain ⟨k, here⟩ : ∃ k, s.page = k + 1 := Nat.exists_eq_succ_of_ne_zero
    (Nat.ne_of_gt found.page)
  obtain ⟨items, pages⟩ := served_result here a served
  have listed : s'.listed = s.listed ++
      Pagination.page ownSessionsPageSize k (s.answered user a) := next ▸ listed_receive items
  have before : s'.before = (s.answered user a).take s.offset ++
      Pagination.page ownSessionsPageSize k (s.answered user a) :=
    next ▸ before_receive here a result
  have previous : ids s'.previous = s.answered user a := by rw [next]; rfl
  have db : s'.db = s.db := by rw [next]; rfl
  have onPage (id : String)
      (inside : id ∈ Pagination.page ownSessionsPageSize k (s.answered user a)) :
      id ∈ ids (running user s.db) :=
    (mem_answered a id).mp (List.mem_of_mem_drop (List.mem_of_mem_take inside))
  have read (id : String) (first : id ∈ ids (running user start))
      (runs : id ∈ ids (running user s.db)) (early : id ∈ s'.before) : id ∈ s'.listed := by
    rw [before, List.mem_append] at early
    rw [listed, List.mem_append]
    exact early.imp_left (found.listed_of_ahead cut first runs)
  exact
    { page := by
        rw [next]
        exact Nat.succ_pos _
      onward := db ▸ found.onward
      counted := by
        intro db' phase
        rw [next] at phase
        simp only [receive] at phase
        split at phase <;> contradiction
      nodup := by
        rw [listed, List.nodup_append']
        have own : (s.answered user a).Nodup := answered_nodup a
        refine ⟨found.nodup, own.sublist ((List.take_sublist _ _).trans (List.drop_sublist _ _)),
          fun id inside again => ?_⟩
        have ahead := found.ahead cut inside (onPage id again)
        rw [offset_eq here] at ahead
        exact page_disjoint own _ _ ahead again
      listed := by
        intro id inside
        rw [listed, List.mem_append] at inside
        rw [db, before, List.mem_append]
        rcases inside with inside | again
        · exact ⟨(found.listed id inside).1, fun runs => Or.inl (found.ahead cut inside runs)⟩
        · exact ⟨running_stored (onPage id again), fun _ => Or.inr again⟩
      stored := by
        intro id inside
        rw [previous] at inside
        rw [db]
        exact running_stored ((mem_answered a id).mp inside)
      seen := by
        intro id _ runs
        rw [db] at runs
        rw [previous]
        exact Or.inr ((mem_answered a id).mpr runs)
      read := by
        intro id first runs
        rw [db] at runs
        exact read id first runs
      all := by
        intro returned id first runs
        rw [db] at runs
        rw [next] at returned
        have few := few_of_returned pages returned
        obtain ⟨early, late⟩ := found.counted counted waits
        have ran := late.ran (early.stored (running_stored first)) runs
        refine read id first runs ?_
        rw [before, offset_eq here, ← take_succ_page, ← here]
        exact cut.2 counted waits few id ((mem_answered a id).mpr runs) ran }

theorem found_step {start : Db} {s s' : State} {act : Action c} (found : Found user start s)
    (cut : CutKept user s act s') (taken : step cfg w admin user s act = some s') :
    Found user start s' := by
  cases step_cases taken with
  | changed db onward => exact found.changed onward
  | counted requested => exact found.counts
  | fetched a counted result waits served => exact found.fetched a waits served rfl cut

end Fetch

/-! ## The whole call -/

section Call

variable {c : Collation} (cfg : Config) (w : World) (admin : Bool) (user : User)

-- The session runs in every state of the call.
def RunsThroughout (db : Db) (acts : List (Action c)) (id : String) : Prop :=
  ∀ pre post s, acts = pre ++ post → run cfg w admin user (initial db) pre = some s →
    id ∈ ids (running user s.db)

/-- What the call has returned, if it has, is every session that runs throughout. -/
structure Complete (db : Db) (acts : List (Action c)) (t : State) : Prop where
  once : t.listed.Nodup
  all : t.phase = .returned → ∀ id, RunsThroughout cfg w admin user db acts id → id ∈ t.listed

/--
Whatever starts and ends in between, the call lists every session that runs throughout,
and none twice, as long as each answer keeps the cut of the one before.
-/
theorem complete_of_cutKept (db : Db) (acts : List (Action c))
    (kept : Along cfg w admin user (CutKept user) (initial db) acts) :
    ∀ pre post t, acts = pre ++ post → run cfg w admin user (initial db) pre = some t →
      Complete cfg w admin user db pre t := by
  rintro pre post t rfl reached
  have found : Found user db t := by
    refine Runs.invariant (Found user db) ?_ (found_initial user db) (kept.append reached).1 reached
    intro s act s' found cut taken
    exact found_step found cut taken
  refine ⟨found.nodup, fun returned id throughout => ?_⟩
  have first := throughout [] pre (initial db) rfl rfl
  have last := throughout pre [] t (List.append_nil pre).symm reached
  exact found.all returned id first last

end Call

/-! ## A session that is skipped -/

namespace Sample

open Sessions.Sample

def name (k : Nat) : String := String.ofList (List.replicate k 'a')

theorem name_inj {j k : Nat} (same : name j = name k) : j = k := by
  have lengths := congrArg (fun s => s.toList.length) same
  simpa [name] using lengths

def row (ended : Nat → Bool) (k : Nat) : SessionModel :=
  { session (name k) none with
    status := if ended k then .stopped else .idle
    startDate := -(k : Int) }

-- The sessions of a user whose numbers start at `first`, the newest first in the table.
def startedFrom (first n : Nat) (ended : Nat → Bool) : Db :=
  { (start none 0).store with
    sessions := ⟨(List.range' first n).map (row ended), by
      rw [List.map_map]
      exact (List.nodup_range').map fun j k same => name_inj same⟩ }

def started (n : Nat) (ended : Nat → Bool) : Db := startedFrom 0 n ended

-- Older sessions are there already, newer ones may be started and any may end.
theorem startedFrom_onward (newer first n : Nat) {ended ended' : Nat → Bool}
    (more : ∀ k, ended k = true → ended' k = true) :
    Onward (startedFrom (first + newer) n ended) (startedFrom first (newer + n) ended') := by
  intro r inside
  obtain ⟨k, bound, rfl⟩ := List.mem_map.mp inside
  have bound' : k ∈ List.range' first (newer + n) := by
    rw [List.mem_range'_1] at bound ⊢
    omega
  refine ⟨row ended' k, Table.get?_eq_some_iff.mpr ⟨List.mem_map_of_mem bound', rfl⟩, rfl, ?_⟩
  intro terminal
  cases here : ended k with
  | true =>
      simp [row, more k here, terminalStatuses]
  | false => simp [row, here, terminalStatuses] at terminal

def alive (first n : Nat) (ended : Nat → Bool) : List Nat :=
  (List.range' first n).filter fun k => !ended k

def newestFirst (first n : Nat) (ended : Nat → Bool) : List SessionInstance :=
  (alive first n ended).map fun k => (startedFrom first n ended).load (row ended k)

theorem ids_newestFirst (first n : Nat) (ended : Nat → Bool) :
    ids (newestFirst first n ended) = (alive first n ended).map name := by
  rw [ids, newestFirst, List.map_map]
  rfl

theorem running_startedFrom (first n : Nat) (ended : Nat → Bool) :
    running user (startedFrom first n ended) = newestFirst first n ended := by
  have accepts (k : Nat) : ((ownAlive user).scope true).matches (row ended k) = !ended k := by
    cases here : ended k <;>
      simp [row, here, ListRequest.scope, ListRequest.query, ownAlive, SessionQuery.matches,
        StatusFilter.statuses, aliveStatuses, session]
  simp only [running, ListRequest.matching, Db.selectSessions, Table.select, newestFirst, alive]
  rw [show (startedFrom first n ended).sessions.rows = (List.range' first n).map (row ended)
    from rfl, List.filter_map, List.map_map]
  congr 1
  exact List.filter_congr fun k _ => accepts k

theorem arranged (first n : Nat) (ended : Nat → Bool) :
    binary.sorting.arrange .startDate true (newestFirst first n ended) =
      newestFirst first n ended := by
  have ordered : (List.range' first n).Pairwise (· < ·) := List.pairwise_lt_range'
  refine List.mergeSort_of_pairwise ?_
  refine List.pairwise_map.mpr ((ordered.filter _).imp fun {j k} less => ?_)
  simp only [Collation.sessionLe, SessionOrder.key, if_true, binary, SortKey.le, decide_eq_true_eq,
    Db.load_row, row]
  omega

theorem alive_runs {first n k : Nat} {ended : Nat → Bool} (inside : k ∈ alive first n ended) :
    name k ∈ ids (running user (startedFrom first n ended)) := by
  rw [running_startedFrom, ids_newestFirst]
  exact List.mem_map_of_mem inside

theorem mem_names {k : Nat} {l : List Nat} : name k ∈ l.map name ↔ k ∈ l :=
  List.mem_map_of_injective fun _ _ same => name_inj same

-- A page that is counted and fetched on one such table.
theorem fetch_startedFrom (first n : Nat) (ended : Nat → Bool) (k : Nat)
    (sessions : List SessionResponse) (previous : List SessionInstance) :
    ∃ found, step (config 1) (start none 0).world false user
        ⟨startedFrom first n ended, sessions, k + 1, .counted (startedFrom first n ended),
          previous⟩ (.fetch binary.sorting) =
          some ⟨startedFrom first n ended, sessions ++ found, k + 2,
            if k + 2 ≤ ((alive first n ended).length + ownSessionsPageSize - 1) /
              ownSessionsPageSize then .requested else .returned, newestFirst first n ended⟩ ∧
      (found.map fun r => r.session.id) =
        (page ownSessionsPageSize k (alive first n ended)).map name := by
  obtain ⟨result, fetched, items, pages⟩ := step_fetch (config 1) (start none 0).world false user
    (k := k) (s := ⟨startedFrom first n ended, sessions, k + 1,
      .counted (startedFrom first n ended), previous⟩) rfl rfl binary.sorting
  rw [running_startedFrom, newestFirst, List.length_map] at pages
  simp only [running_startedFrom, arranged] at items fetched
  refine ⟨result.items, ?_, ?_⟩
  · rw [fetched]
    simp only [receive, pages, Int.ofNat_le]
  · rw [items, newestFirst, page_map, List.map_map, List.map_map]
    rfl

-- The newest of 101 sessions ends when the first 100 have been listed.
def newestEnds (k : Nat) : Bool := decide (k = 0)

def skipping : List (Action binary) :=
  [.count, .fetch binary.sorting, .change (started 101 newestEnds), .count, .fetch binary.sorting]

-- The second page starts behind the last session that is left.
theorem skipping_run :
    ∃ t, run (config 1) (start none 0).world false user (initial (started 101 fun _ => false))
        skipping = some t ∧ t.phase = .returned ∧
      t.listed = (List.range' 0 100).map name := by
  obtain ⟨first, fetched, listed⟩ := fetch_startedFrom 0 101 (fun _ => false) 0 [] []
  obtain ⟨second, fetched', listed'⟩ := fetch_startedFrom 0 101 newestEnds 1 ([] ++ first)
    (newestFirst 0 101 fun _ => false)
  have onward : Onward (started 101 fun _ => false) (started 101 newestEnds) :=
    startedFrom_onward 0 0 101 fun k ended => by contradiction
  refine ⟨_, Runs.run_cons.mpr ⟨_, step_count rfl, Runs.run_cons.mpr ⟨_, fetched,
    Runs.run_cons.mpr ⟨_, step_change onward, Runs.run_cons.mpr ⟨_, step_count rfl,
      Runs.run_cons.mpr ⟨_, fetched', rfl⟩⟩⟩⟩⟩, rfl, ?_⟩
  rw [State.listed, List.nil_append, List.map_append, listed, listed', ← List.map_append]
  rfl

-- Between the two pages of 101 sessions the newest one ends and another is started.
def newestReplaced (k : Nat) : Bool := decide (k = 1)

def replacing : List (Action binary) :=
  [.count, .fetch binary.sorting, .change (startedFrom 0 102 newestReplaced), .count,
    .fetch binary.sorting]

theorem replacing_ahead {k : Nat} (runs : k ∈ alive 0 102 newestReplaced)
    (known : k ∈ alive 1 101 fun _ => false) :
    k ∈ (alive 0 102 newestReplaced).take ownSessionsPageSize ↔
      k ∈ (alive 1 101 fun _ => false).take ownSessionsPageSize := by
  have before : (alive 1 101 fun _ => false).take ownSessionsPageSize = List.range' 1 100 := rfl
  have now : (alive 0 102 newestReplaced).take ownSessionsPageSize = 0 :: List.range' 2 99 := rfl
  rw [before, now]
  simp [alive, newestReplaced, List.mem_range'_1] at runs known ⊢
  omega

end Sample

theorem db_of_run {c : Collation} {cfg : Config} {w : World} {admin : Bool} {user : User}
    {s t : State} {acts : List (Action c)} (reached : run cfg w admin user s acts = some t) :
    t.db = s.db ∨ .change t.db ∈ acts := by
  induction acts generalizing s with
  | nil =>
      obtain rfl := Option.some.inj reached
      exact Or.inl rfl
  | cons act acts ih =>
      obtain ⟨mid, taken, rest⟩ := Runs.run_cons.mp reached
      rcases ih rest with same | inside
      · cases step_cases taken with
        | changed db onward => exact Or.inr (same ▸ List.mem_cons_self)
        | counted | fetched => exact Or.inl same
      · exact Or.inr (List.mem_cons_of_mem act inside)

theorem complete_replacing :
    ∃ t, run (Sessions.Sample.config 1) (Sessions.Sample.start none 0).world false
        Sessions.Sample.user (initial (Sample.startedFrom 1 101 fun _ => false))
          Sample.replacing = some t ∧ t.phase = .returned ∧
      Complete (Sessions.Sample.config 1) (Sessions.Sample.start none 0).world false
        Sessions.Sample.user (Sample.startedFrom 1 101 fun _ => false) Sample.replacing t := by
  obtain ⟨first, fetched, listed⟩ := Sample.fetch_startedFrom 1 101 (fun _ => false) 0 [] []
  obtain ⟨second, fetched', listed'⟩ := Sample.fetch_startedFrom 0 102 Sample.newestReplaced 1
    ([] ++ first) (Sample.newestFirst 1 101 fun _ => false)
  have onward : Onward (Sample.startedFrom 1 101 fun _ => false)
      (Sample.startedFrom 0 102 Sample.newestReplaced) :=
    Sample.startedFrom_onward 1 0 101 fun k ended => by contradiction
  obtain ⟨t, reached, returned⟩ : ∃ t, run (Sessions.Sample.config 1)
      (Sessions.Sample.start none 0).world false Sessions.Sample.user
      (initial (Sample.startedFrom 1 101 fun _ => false)) Sample.replacing = some t ∧
        t.phase = .returned :=
    ⟨_, Runs.run_cons.mpr ⟨_, step_count rfl, Runs.run_cons.mpr ⟨_, fetched,
      Runs.run_cons.mpr ⟨_, step_change onward, Runs.run_cons.mpr ⟨_, step_count rfl,
        Runs.run_cons.mpr ⟨_, fetched', rfl⟩⟩⟩⟩⟩, rfl⟩
  refine ⟨t, reached, returned,
    complete_of_cutKept _ _ _ _ _ _ ?_ _ [] t (List.append_nil _).symm reached⟩
  refine Runs.Along.cons (step_count rfl) trivial (Runs.Along.cons fetched ?_
    (Runs.Along.cons (step_change onward) trivial (Runs.Along.cons (step_count rfl) trivial
      (Runs.Along.cons fetched' ?_ trivial))))
  · exact cutKept_counted binary.sorting rfl fun id _ known => absurd known List.not_mem_nil
  · refine cutKept_counted binary.sorting rfl ?_
    simp only [State.answered, State.before, State.offset, Sample.running_startedFrom,
      Sample.arranged, Sample.ids_newestFirst, ← List.map_take]
    intro id runs known
    obtain ⟨j, -, rfl⟩ := List.mem_map.mp runs
    simp only [Sample.mem_names] at runs known ⊢
    exact Sample.replacing_ahead runs known

theorem complete_fails :
    ∃ t, run (Sessions.Sample.config 1) (Sessions.Sample.start none 0).world false
        Sessions.Sample.user (initial (Sample.started 101 fun _ => false)) Sample.skipping =
          some t ∧ t.phase = .returned ∧
      ¬ Complete (Sessions.Sample.config 1) (Sessions.Sample.start none 0).world false
        Sessions.Sample.user (Sample.started 101 fun _ => false) Sample.skipping t := by
  obtain ⟨t, reached, returned, listed⟩ := Sample.skipping_run
  have skipped : Sample.name 100 ∉ t.listed := by
    rw [listed, Sample.mem_names]
    decide
  refine ⟨t, reached, returned, fun complete => skipped (complete.all returned _ ?_)⟩
  intro pre post s split before
  rcases db_of_run before with same | inside
  · rw [same]
    exact Sample.alive_runs (by decide)
  · have changed : .change s.db ∈ Sample.skipping := split ▸ List.mem_append_left post inside
    simp only [Sample.skipping, List.mem_cons, reduceCtorEq, Action.change.injEq, false_or,
      or_false, List.not_mem_nil] at changed
    rw [changed]
    exact Sample.alive_runs (by decide)

end StreamingPortal.Web.LogOut
