import StreamingPortal.Sessions.Authority
import StreamingPortal.Sessions.EndMetrics

set_option autoImplicit false

/-!
# The counters of starts and ends against the table

A dashboard knows the counters only. How many sessions are running is the difference of the two.
-/

namespace StreamingPortal.Sessions

open Tasks

/-- What the start of a session is counted with, read off its row. -/
def SessionModel.startAttributes (row : SessionModel) : Attributes :=
  attributes
    [("session.app", row.appId),
      ("session.user", some row.userId),
      ("session.username", some row.userName),
      ("nvcf.function_id", some row.functionId),
      ("nvcf.function_version_id", some row.functionVersionId)]

def Db.startAttributes (db : Db) : List Attributes :=
  db.sessions.rows.map SessionModel.startAttributes

/-- The row has been created, and its start is not counted yet. -/
def awaitsStart (t : Task) : Option Attributes :=
  match t.frame, t.answer with
  | .start (.creating s _ app _ _), some (.created _) => some (startedAttributes s app)
  | _, _ => none

def State.alive (st : State) : Nat :=
  st.store.sessions.count fun row => decide (row.status ∈ aliveStatuses)

structure CountsAdded (cfg : Config) (start : State) (acts : List Action) (st : State) :
    Prop where
  -- Each row has been there from the start, or has been counted, or is about to be.
  starts : st.store.startAttributes.Perm
    (start.store.startAttributes ++ st.world.sessionStart ++ st.tasks.filterMap awaitsStart)
  -- Where each end is counted once and no handler is about to count, the difference of the
  -- counters is that of the running sessions.
  difference : Along cfg EndsOnce start acts →
    (∀ t ∈ st.tasks, awaitsStart t = none ∧ awaitsMetric t = none) →
      st.alive + st.world.sessionEnd.length = start.alive + st.world.sessionStart.length

/-! ## What a step does to the starts -/

section Steps

variable {cfg : Config}

theorem startAttributes_fixed {row row' : SessionModel} (fixed : row'.fixed = row.fixed) :
    row'.startAttributes = row.startAttributes := by
  obtain ⟨-, function, version, -, app, user, name, -⟩ := SessionModel.mk.inj fixed
  simp only [SessionModel.startAttributes, function, version, app, user, name]

theorem startAttributes_update (sessions : SessionTable) (id : String)
    (f : SessionModel → SessionModel) (keeps : ∀ row, (f row).id = row.id)
    (fixed : ∀ row, (f row).fixed = row.fixed) :
    (sessions.update id f keeps).rows.map SessionModel.startAttributes =
      sessions.rows.map SessionModel.startAttributes := by
  simp only [Table.update, List.map_map]
  apply List.map_congr_left
  intro row _
  simp only [Function.comp_apply]
  split
  · exact startAttributes_fixed (fixed row)
  · rfl

theorem startAttributes_perform {db : Db} {p : Nat} {op : DbOp}
    (noCreation : ∀ row, op ≠ .createSession row) :
    (db.perform cfg p op).1.startAttributes = db.startAttributes := by
  cases op with
  | createSession row => exact absurd rfl (noCreation row)
  | save s fields =>
      exact startAttributes_update _ _ (s.row.assign fields) (fun _ => rfl) fun _ => rfl
  | setErrorIfNull id error =>
      simp only [Db.perform, Db.setErrorIfNull]
      repeat' split
      · exact startAttributes_update _ _ (fun row => { row with error := some error })
          (fun _ => rfl) fun _ => rfl
      all_goals rfl
  | _ => rfl

theorem awaitsStart_executed {db : Db} {p : Nat} {f : Frame} {op : DbOp}
    (awaits : frameOp f = some op)
    (belongs : ∀ s running app row cookie, f = .start (.creating s running app row cookie) →
      row.startAttributes = startedAttributes s app) :
    (db.perform cfg p op).1.startAttributes =
      db.startAttributes ++ (awaitsStart ⟨f, some (db.perform cfg p op).2⟩).toList := by
  by_cases creation : ∃ row, op = .createSession row
  · obtain ⟨row, rfl⟩ := creation
    obtain ⟨s, running, app, cookie, rfl⟩ := createFrame_of_op awaits
    have same := belongs s running app row cookie rfl
    simp only [Db.perform, Db.createSession]
    split
    next sessions inserted =>
      simp [Db.startAttributes, (Table.insert?_eq_some inserted).2, awaitsStart, same]
    next => simp [awaitsStart]
  · have noCreation (row : SessionModel) : op ≠ .createSession row :=
      fun same => creation ⟨row, same⟩
    have nothing : awaitsStart ⟨f, some (db.perform cfg p op).2⟩ = none := by
      cases f with
      | start f =>
          cases f with
          | creating s running app row cookie =>
              exact absurd (Option.some.inj awaits).symm (noCreation row)
          | _ => rfl
      | _ => rfl
    rw [startAttributes_perform noCreation, nothing, Option.toList_none, List.append_nil]

theorem cleanup_starts (w : World) (p : Nat) (c : Connection) :
    (cleanup w p c).1.sessionStart = w.sessionStart := by
  unfold cleanup
  simp only
  repeat' split
  all_goals rfl

theorem admit_starts (w : World) (p : Nat) (user : User) (found : Option SessionInstance) :
    (checkAdmission w p user found).1.sessionStart = w.sessionStart := by
  unfold checkAdmission
  repeat' split
  all_goals rfl

theorem connectResume_starts {w w' : World} {p : Nat} {f : ConnectFrame} {a : Answer} {f' : Frame}
    (h : connectResume w p f a = some (w', f')) : w'.sessionStart = w.sessionStart := by
  cases connectResume_cases h with
  | loaded user id cookie found => exact admit_starts w p user found
  | saveConnectingFailed | closed | closeFailed | openFailed => exact cleanup_starts w p _
  | savedFailed | recordedError =>
      simp [finishFailed, removeWebsocket, World.emitSessionEndMetrics, World.closeWebsocket,
        World.unregister]
  | _ => rfl

theorem endResume_starts {w w' : World} {f : EndFrame} {a : Answer} {f' : Frame}
    (h : endResume w f a = some (w', f')) : w'.sessionStart = w.sessionStart := by
  cases endResume_cases h <;> rfl

theorem watchResume_starts {w w' : World} {f : WatchFrame} {a : Answer} {f' : Frame}
    (h : watchResume cfg w f a = some (w', f')) : w'.sessionStart = w.sessionStart := by
  cases watchResume_cases h <;> rfl

/-- A handler that is resumed counts the start that it was about to count, and no other. -/
theorem resumeFrame_starts {w w' : World} {p : Nat} {f f' : Frame} {a : Answer}
    (h : resumeFrame cfg w p f a = some (w', f')) :
    w'.sessionStart = w.sessionStart ++ (awaitsStart ⟨f, some a⟩).toList := by
  have nothing (same : w'.sessionStart = w.sessionStart)
      (idle : awaitsStart ⟨f, some a⟩ = none) :
      w'.sessionStart = w.sessionStart ++ (awaitsStart ⟨f, some a⟩).toList := by
    rw [same, idle, Option.toList_none, List.append_nil]
  cases f with
  | connect f => exact nothing (connectResume_starts h) rfl
  | ending f => exact nothing (endResume_starts h) rfl
  | request f =>
      obtain ⟨next, resumed, same⟩ := Option.map_eq_some_iff.mp h
      obtain ⟨rfl, rfl⟩ := Prod.mk.inj same
      exact nothing rfl rfl
  | start f =>
      cases startResume_cases h with
      | created => rfl
      | raised f => exact nothing rfl (by cases f <;> rfl)
      | _ => exact nothing rfl rfl
  | watch f => exact nothing (watchResume_starts h) rfl
  | finished => contradiction

theorem awaitsStart_waiting (f : Frame) : awaitsStart ⟨f, none⟩ = none := by
  cases f with
  | start f => cases f <;> rfl
  | _ => rfl

end Steps

/-! ## Along a run -/

section Runs

variable {cfg : Config} {start st st' : State}

def State.starting (st : State) (a : Attributes) : Nat :=
  st.tasks.countP fun t => decide (awaitsStart t = some a)

/-- The rows with these attributes, and where their starts are counted. -/
def StartsBalanced (start st : State) (a : Attributes) : Prop :=
  st.store.startAttributes.count a =
    start.store.startAttributes.count a + st.world.sessionStart.count a + st.starting a

theorem count_toList (o : Option Attributes) (a : Attributes) :
    o.toList.count a = (decide (o = some a)).toNat := by
  cases o with
  | none => rfl
  | some b => by_cases same : b = a <;> simp [same]

/-- A task moves, and what it was about to count becomes a row's, or is counted. -/
theorem startsBalanced_moved {p : Nat} {t u : Task} {a : Attributes}
    (task : st.tasks[p]? = some t) (tasks : st'.tasks = st.tasks.set p u)
    (kept : st'.store.startAttributes.count a + st.world.sessionStart.count a +
        (awaitsStart t).toList.count a =
      st.store.startAttributes.count a + st'.world.sessionStart.count a +
        (awaitsStart u).toList.count a)
    (balanced : StartsBalanced start st a) : StartsBalanced start st' a := by
  have moved := countP_set_acting (t := u) (fun t => decide (awaitsStart t = some a)) task
  rw [count_toList, count_toList] at kept
  unfold StartsBalanced State.starting at balanced ⊢
  rw [tasks]
  omega

theorem startsBalanced_resumed {p : Nat} {f next : Frame} {answer : Answer} {b : Option Answer}
    {a : Attributes} (task : st.tasks[p]? = some ⟨f, b⟩)
    (given : awaitsStart ⟨f, b⟩ = awaitsStart ⟨f, some answer⟩)
    (effect : resumeFrame cfg st.world p f answer = some (st'.world, next))
    (tasks : st'.tasks = st.tasks.set p ⟨next, none⟩) (store : st'.store = st.store)
    (balanced : StartsBalanced start st a) : StartsBalanced start st' a := by
  refine startsBalanced_moved task tasks ?_ balanced
  rw [store, resumeFrame_starts effect, given, awaitsStart_waiting, List.count_append]
  simp only [Option.toList_none, List.count_nil]
  omega

theorem startsBalanced_executed {p : Nat} {f : Frame} {op : DbOp} {a : Attributes}
    (task : st.tasks[p]? = some ⟨f, none⟩) (awaits : frameOp f = some op)
    (belongs : ∀ s running app row cookie, f = .start (.creating s running app row cookie) →
      row.startAttributes = startedAttributes s app)
    (tasks : st'.tasks = st.tasks.set p ⟨f, some (st.store.perform cfg p op).2⟩)
    (store : st'.store = (st.store.perform cfg p op).1) (world : st'.world = st.world)
    (balanced : StartsBalanced start st a) : StartsBalanced start st' a := by
  refine startsBalanced_moved task tasks ?_ balanced
  rw [store, world, awaitsStart_executed awaits belongs, awaitsStart_waiting, List.count_append]
  simp only [Option.toList_none, List.count_nil]
  omega

theorem startsBalanced_run {sessions : SessionTable} {apps : AppTable} {now : Int}
    {acts : List Action} (reached : run cfg (init sessions apps now) acts = some st)
    (a : Attributes) : StartsBalanced (init sessions apps now) st a := by
  induction acts using List.reverseRecOn generalizing st with
  | nil =>
      obtain rfl : init sessions apps now = st := by simpa [Runs.run] using reached
      simp [StartsBalanced, State.starting, init]
  | append_singleton acts act ih =>
      obtain ⟨before, first, last⟩ := Runs.run_concat.mp reached
      have balanced := ih first
      cases step_cases last with
      | request r =>
          have blank := awaitsStart_waiting ((backend cfg).start before.world r)
          simpa [StartsBalanced, State.starting, blank] using balanced
      | execute p f op db answer task awaits effect =>
          obtain ⟨-, rfl, rfl⟩ := perform_of_effect effect
          obtain ⟨r, -, known, -⟩ := (origin_kept cfg _).run rfl first task
          refine startsBalanced_executed task awaits ?_ rfl rfl rfl balanced
          rintro s running app row cookie rfl
          obtain ⟨-, -, uuid, moment, rfl⟩ := known
          rfl
      | raise p f op answer task awaits effect =>
          obtain rfl := failure_raised effect
          have nothing : awaitsStart ⟨f, some .raised⟩ = awaitsStart ⟨f, none⟩ := by
            cases f with
            | start f => cases f <;> rfl
            | _ => rfl
          refine startsBalanced_moved task rfl ?_ balanced
          rw [nothing]
          rfl
      | resume p f next answer world task effect =>
          have effect : resumeFrame cfg before.world p f answer = some (world, next) := effect
          exact startsBalanced_resumed task rfl effect rfl rfl balanced
      | answer p f next answer world task awaits effect =>
          have awaits : frameOp f = none := awaits
          have given : awaitsStart ⟨f, none⟩ = awaitsStart ⟨f, some answer⟩ := by
            cases f with
            | start f => cases f <;> first | rfl | simp [frameOp, startOp] at awaits
            | _ => rfl
          have effect : resumeFrame cfg before.world p f answer = some (world, next) := effect
          exact startsBalanced_resumed task given effect rfl rfl balanced
      | tick time => exact balanced

theorem starts_perm {sessions : SessionTable} {apps : AppTable} {now : Int} {acts : List Action}
    (reached : run cfg (init sessions apps now) acts = some st) :
    st.store.startAttributes.Perm ((init sessions apps now).store.startAttributes ++
      st.world.sessionStart ++ st.tasks.filterMap awaitsStart) := by
  refine List.perm_iff_count.mpr fun a => ?_
  have balanced := startsBalanced_run reached a
  rw [List.count_append, List.count_append, List.count_filterMap]
  simpa [StartsBalanced, State.starting, beq_eq_decide] using balanced

def State.endedIds (st : State) : List String :=
  (st.store.sessions.select fun row => decide (row.status ∈ terminalStatuses)).map SessionModel.id

theorem count_endedIds (st : State) (id : String) :
    st.endedIds.count id = (st.ended id).toNat := by
  have nodup : st.endedIds.Nodup :=
    st.store.sessions.keys_nodup.sublist (List.filter_sublist.map SessionModel.id)
  have inside : id ∈ st.endedIds ↔ st.ended id = true := by
    simp only [State.endedIds, State.ended, State.session?, List.mem_map, Option.any_eq_true,
      Table.mem_select]
    constructor
    · rintro ⟨row, ⟨stored, terminal⟩, rfl⟩
      exact ⟨row, stored, terminal⟩
    · rintro ⟨row, stored, terminal⟩
      obtain rfl := (Table.mem_of_get? stored).2
      exact ⟨row, ⟨stored, terminal⟩, rfl⟩
  rw [nodup.count]
  by_cases terminal : st.ended id = true
  · simp [inside, terminal]
  · simp [inside, terminal]

theorem alive_add_ended (st : State) :
    st.alive + st.endedIds.length = st.store.startAttributes.length := by
  have terminal (row : SessionModel) :
      decide (row.status ∈ terminalStatuses) = !decide (row.status ∈ aliveStatuses) := by
    simp [mem_aliveStatuses]
  have all := List.length_eq_countP_add_countP (l := st.store.sessions.rows)
    fun row => decide (row.status ∈ aliveStatuses)
  simp only [State.alive, State.endedIds, Db.startAttributes, List.length_map, terminal,
    Table.count, Table.select, ← List.countP_eq_length_filter]
  simpa using all.symm

theorem ends_perm (balanced : Balanced start st) (quiet : Quiet st) :
    st.endedIds.Perm (start.endedIds ++ st.world.emittedIds) := by
  refine List.perm_iff_count.mpr fun id => ?_
  have once := balanced.countedOnce quiet id
  rw [List.count_append, count_endedIds, count_endedIds]
  simp only [State.emitted] at once
  omega

/--
In every reachable state the counter of starts accounts for the rows, and together with the
counter of ends for how many sessions are running.
-/
theorem counters_account {sessions : SessionTable} {apps : AppTable} {now : Int}
    {acts : List Action} (reached : run cfg (init sessions apps now) acts = some st) :
    CountsAdded cfg (init sessions apps now) acts st := by
  have starts := starts_perm reached
  refine ⟨starts, fun once quiet => ?_⟩
  have counted : Counted (init sessions apps now) st := by
    refine Runs.invariant (Counted (init sessions apps now)) ?_
      (counted_init sessions apps now) once reached
    intro s act t counted once taken
    exact counted_step counted once taken
  have ends := (ends_perm counted.balanced fun t here => (quiet t here).2).length_eq
  have none' : st.tasks.filterMap awaitsStart = [] :=
    List.filterMap_eq_nil_iff.mpr fun t here => (quiet t here).1
  have rows := starts.length_eq
  have before := alive_add_ended (init sessions apps now)
  have after := alive_add_ended st
  rw [none', List.append_nil, List.length_append] at rows
  rw [List.length_append, World.emittedIds, List.length_map] at ends
  omega

end Runs

/-- The idle watcher ends the session there is, and its user starts another. -/
def idleEndAndStart : List Action :=
  idleEnd ++
    [.request (.startStream ⟨Sample.user, "app", "/"⟩), .execute 1, .resume 1, .execute 1,
      .resume 1, .execute 1, .resume 1, .answer 1 (.nvcfStarted ⟨200, "", [], some "nvcf2"⟩ "uuid"),
      .execute 1, .resume 1]

theorem counters_account_idleEndAndStart :
    Along (Sample.config 1) EndsOnce (Sample.start (some 0) 1000000000) idleEndAndStart ∧
      CountsAdded (Sample.config 1) (Sample.start (some 0) 1000000000) idleEndAndStart
        ((run (Sample.config 1) (Sample.start (some 0) 1000000000) idleEndAndStart).get
          (by decide)) :=
  ⟨by decide, counters_account (Option.some_get _).symm⟩

end StreamingPortal.Sessions
