import StreamingPortal.Sessions.Saves

set_option autoImplicit false

/-! # One pass of the timeout watcher -/

namespace StreamingPortal.Sessions

open Tasks

inductive DeleteOutcome
  | response (r : NvcfResponse)
  | timeout
  -- Any other `httpx.TransportError`, such as a refused connection.
  | transportError

/-- How the awaits of one call of `end_session` turn out, and when NVCF answers. -/
structure Delete where
  outcome : DeleteOutcome
  time : Int
  -- Whether `ws.close` raises, should the call get as far as closing a websocket.
  closeRaises : Bool
  -- Whether the save of the row raises, should the call get as far as that.
  saveRaises : Bool

def DeleteOutcome.answer : DeleteOutcome → Answer
  | .response r => .nvcf r
  | .timeout => .nvcfTimeout
  | .transportError => .raised

def Delete.closesWebsocket (registry : String → Option Nat) (s : SessionInstance)
    (r : NvcfResponse) : Bool :=
  decide (r.statusCode = 200) && (registry s.row.id).isSome

/-- No exception leaves `end_session`. -/
def Delete.returns (registry : String → Option Nat) (s : SessionInstance) (d : Delete) : Bool :=
  match d.outcome with
  | .response r => !(closesWebsocket registry s r && d.closeRaises) && !d.saveRaises
  | .timeout => true
  | .transportError => false

def saveActions (p : Nat) (raises : Bool) : List Action :=
  [if raises then .raise p else .execute p, .resume p]

def responseActions (registry : String → Option Nat) (p : Nat) (s : SessionInstance) (d : Delete)
    (r : NvcfResponse) : List Action :=
  if Delete.closesWebsocket registry s r then
    if d.closeRaises then [.answer p .raised] else .answer p .done :: saveActions p d.saveRaises
  else saveActions p d.saveRaises

def endActions (registry : String → Option Nat) (p : Nat) (s : SessionInstance) (d : Delete) :
    List Action :=
  -- What the watcher goes through in one call of `end_session`.
  [.tick d.time, .answer p d.outcome.answer] ++
    match d.outcome with
    | .response r => responseActions registry p s d r
    | .timeout | .transportError => []

def loopActions (registry : String → Option Nat) (p : Nat) (deletes : String → Delete)
    (sessions : List SessionInstance) : List Action :=
  sessions.flatMap fun s => endActions registry p s (deletes s.row.id)

def passActions (registry : String → Option Nat) (p : Nat) (deletes : String → Delete)
    (sessions : List SessionInstance) : List Action :=
  [.execute p, .resume p] ++ loopActions registry p deletes sessions

/-- The session that the watcher is ending when its DELETE is answered. -/
def called (p : Nat) (st : State) : Action → Option String
  | .answer q _ =>
      match st.frame? p with
      | some (.ending (.deleting e)) => if q = p then some e.session.row.id else none
      | _ => none
  | _ => none

/-- Task `p` is about to load the sessions that have timed out. -/
structure PassStart (cfg : Config) (st : State) (p : Nat) (cutoff : Int) : Prop where
  task : st.tasks[p]? = some ⟨.watch (.queryingTimedOut cutoff), none⟩
  free : st.store.blocked cfg p = false

/--
The pass over these sessions ends in the state `t`: `end_session` has been called for
each of them in turn, those with a response have ended, and the next pass can start.
-/
structure PassEnds (cfg : Config) (st : State) (p : Nat) (deletes : String → Delete)
    (sessions : List SessionInstance) (t : State) : Prop where
  reached : run cfg st (passActions st.world.sessionWebsockets p deletes sessions) = some t
  called : Runs.trace (step cfg) (called p) st
    (passActions st.world.sessionWebsockets p deletes sessions) = sessions.map fun s => s.row.id
  ended : ∀ s ∈ sessions, ∀ r, (deletes s.row.id).outcome = .response r →
    t.ended s.row.id = true
  next : ∃ u cutoff, step cfg t (.answer p .done) = some u ∧ PassStart cfg u p cutoff

/-! ## One session -/

section

variable {cfg : Config} {st t : State} {p : Nat}

structure LeavesReady (st t : State) : Prop where
  registry : t.world.sessionWebsockets = st.world.sessionWebsockets
  transaction : t.store.transaction = st.store.transaction
  ended : ∀ id, st.ended id = true → t.ended id = true
  stored : ∀ id, (st.session? id).isSome → (t.session? id).isSome

theorem LeavesReady.refl (st : State) : LeavesReady st st :=
  ⟨rfl, rfl, fun _ h => h, fun _ h => h⟩

theorem LeavesReady.trans {u : State} (h : LeavesReady st t) (h' : LeavesReady t u) :
    LeavesReady st u where
  registry := h'.registry.trans h.registry
  transaction := h'.transaction.trans h.transaction
  ended := fun id e => h'.ended id (h.ended id e)
  stored := fun id e => h'.stored id (h.stored id e)

theorem LeavesReady.free (h : LeavesReady st t) (free : st.store.blocked cfg p = false) :
    t.store.blocked cfg p = false := by
  rw [← free, Db.blocked, Db.blocked, h.transaction]

theorem leavesReady_world {w : World} {tasks : List Task}
    (registry : w.sessionWebsockets = st.world.sessionWebsockets) :
    LeavesReady st ⟨st.store, w, tasks⟩ :=
  ⟨registry, rfl, fun _ h => h, fun _ h => h⟩

theorem leavesReady_save {s : SessionInstance} {fields : List Column} {w : World}
    {tasks : List Task} (registry : w.sessionWebsockets = st.world.sessionWebsockets)
    (ended : s.row.status ∈ terminalStatuses) :
    LeavesReady st ⟨st.store.save s fields, w, tasks⟩ where
  registry := registry
  transaction := rfl
  ended := by
    intro id before
    cases stored : st.session? s.row.id with
    | some row =>
        rw [@ended_save st ⟨st.store.save s fields, w, tasks⟩ s fields row rfl stored]
        split
        · exact decide_eq_true ended
        · exact before
    | none =>
        have stored : st.store.sessions.get? s.row.id = none := stored
        simp only [State.ended, State.session?, Db.get?_save, stored, Option.map_none] at before ⊢
        split
        next same => rw [same, stored] at before; contradiction
        next => exact before
  stored := by
    intro id before
    simp only [State.session?, Db.get?_save] at before ⊢
    split
    next same => subst same; simpa using before
    next => exact before

/-- A stretch of a pass, with the calls of `end_session` that are made in it. -/
structure Goes (cfg : Config) (p : Nat) (st : State) (acts : List Action) (ids : List String)
    (t : State) : Prop where
  reached : run cfg st acts = some t
  called : Runs.trace (step cfg) (called p) st acts = ids
  ready : LeavesReady st t

theorem Goes.append {u : State} {acts acts' : List Action} {ids ids' : List String}
    (h : Goes cfg p st acts ids t) (h' : Goes cfg p t acts' ids' u) :
    Goes cfg p st (acts ++ acts') (ids ++ ids') u where
  reached := (Runs.run_append h.reached acts').trans h'.reached
  called := by rw [Runs.trace_append h.reached, h.called, h'.called]
  ready := h.ready.trans h'.ready

theorem called_save (p : Nat) (st : State) (raises : Bool) :
    Runs.trace (step cfg) (called p) st (saveActions p raises) = [] := by
  cases raises <;> simp only [saveActions, Runs.trace, called, Option.toList_none,
    List.nil_append, if_true, Bool.false_eq_true, if_false]
  all_goals
    split
    · split <;> rfl
    · rfl

def timeoutCall (s : SessionInstance) (rest : List SessionInstance) : EndCall :=
  ⟨s, "Timed out.", watcherTerminalStatus s, .watchSessionTimeout rest⟩

theorem endResume_closes {w : World} {e : EndCall} {r : NvcfResponse}
    (closes : Delete.closesWebsocket w.sessionWebsockets e.session r = true) :
    ∃ websocket, endResume w (.deleting e) (.nvcf r) =
      some (w.closeWebsocket websocket 3010 (some e.reason), .ending (.closingWebsocket e r)) := by
  simp only [Delete.closesWebsocket, Bool.and_eq_true, decide_eq_true_eq] at closes
  obtain ⟨websocket, registered⟩ := Option.isSome_iff_exists.mp closes.2
  exact ⟨websocket, by simp [endResume, closes.1, registered]⟩

theorem endResume_records {w : World} {e : EndCall} {r : NvcfResponse}
    (silent : Delete.closesWebsocket w.sessionWebsockets e.session r = false) :
    endResume w (.deleting e) (.nvcf r) = some (recordEnd w e r) := by
  simp only [endResume]
  split
  next ok =>
    split
    next websocket registered => simp [Delete.closesWebsocket, ok, registered] at silent
    next => rfl
  next => rfl

theorem answered_round {e : EndCall} {time : Int} {a : Answer} {w : World} {next : Frame}
    (task : st.tasks[p]? = some ⟨.ending (.deleting e), none⟩)
    (effect : endResume { st.world with now := time } (.deleting e) a = some (w, next))
    (registry : w.sessionWebsockets = st.world.sessionWebsockets) :
    ∃ t, Goes cfg p st [.tick time, .answer p a] [e.session.row.id] t ∧
      t.tasks[p]? = some ⟨next, none⟩ := by
  have ticked : step cfg st (.tick time) =
    some { st with world := { st.world with now := time } } := rfl
  have task' : ({ st with world := { st.world with now := time } } : State).tasks[p]? =
    some ⟨.ending (.deleting e), none⟩ := task
  have answered : step cfg _ (.answer p a) = some _ := step_answer task' rfl effect
  refine ⟨_, ⟨Runs.run_cons.mpr ⟨_, ticked, Runs.run_cons.mpr ⟨_, answered, rfl⟩⟩, ?_,
    leavesReady_world registry⟩, getElem?_set_acting task⟩
  have frame := State.frame?_of_task task'
  simp [Runs.trace, ticked, answered, called, frame]

theorem closed_round {e : EndCall} {r : NvcfResponse} {a : Answer} {next : Frame}
    (task : st.tasks[p]? = some ⟨.ending (.closingWebsocket e r), none⟩)
    (effect : endResume st.world (.closingWebsocket e r) a = some (st.world, next)) :
    ∃ t, Goes cfg p st [.answer p a] [] t ∧ t.tasks[p]? = some ⟨next, none⟩ := by
  have answered : step cfg st (.answer p a) = some _ := step_answer task rfl effect
  refine ⟨_, ⟨Runs.run_cons.mpr ⟨_, answered, rfl⟩, ?_, leavesReady_world rfl⟩,
    getElem?_set_acting task⟩
  have frame := State.frame?_of_task task
  simp [Runs.trace, answered, called, frame]

def afterCall (rest : List SessionInstance) (returns : Bool) : Frame :=
  -- The frame in which one call of `end_session` leaves the watcher.
  if returns then terminateTimedOut rest else .finished .raised

theorem save_round {s : SessionInstance} {rest : List SessionInstance} {r : NvcfResponse}
    {w : World} (raises : Bool)
    (task : st.tasks[p]? = some ⟨(recordEnd w (timeoutCall s rest) r).2, none⟩)
    (free : st.store.blocked cfg p = false) (stored : (st.session? s.row.id).isSome) :
    ∃ t, Goes cfg p st (saveActions p raises) [] t ∧
      t.tasks[p]? = some ⟨afterCall rest !raises, none⟩ ∧
      (raises = false → t.ended s.row.id = true) := by
  obtain ⟨row, stored⟩ := Option.isSome_iff_exists.mp stored
  have ended := watcherTerminalStatus_terminal s
  cases raises with
  | true =>
      exact ⟨_, ⟨run_failure task rfl rfl rfl, called_save p st true, leavesReady_world rfl⟩,
        getElem?_set_acting task, by simp⟩
  | false =>
      have effect (s : SessionInstance) :
          (backend cfg).perform st.store p (.save s [.status, .endDate, .duration]) =
            some (st.store.save s [.status, .endDate, .duration], .saved) := by
        simp [backend, free, Db.perform]
      refine ⟨_, ⟨run_operation task rfl (effect _) rfl, called_save p st false,
        leavesReady_save rfl ended⟩, getElem?_set_acting task, fun _ => ?_⟩
      have marked : st.session? (s.markEnded (watcherTerminalStatus s) w.now).row.id = some row :=
        stored
      refine (ended_save rfl marked s.row.id).trans ?_
      rw [if_pos ⟨rfl, by simp⟩]
      exact decide_eq_true ended

/-- The rest of a call whose DELETE has been answered, from the closing of the websocket on. -/
theorem response_round {s : SessionInstance} {rest : List SessionInstance} (r : NvcfResponse)
    (d : Delete) (task : st.tasks[p]? = some ⟨.ending (.deleting (timeoutCall s rest)), none⟩)
    (free : st.store.blocked cfg p = false) (stored : (st.session? s.row.id).isSome) :
    ∃ t, Goes cfg p st ([.tick d.time, .answer p (.nvcf r)] ++
        responseActions st.world.sessionWebsockets p s d r) [s.row.id] t ∧
      t.tasks[p]? = some ⟨afterCall rest
        (!(Delete.closesWebsocket st.world.sessionWebsockets s r && d.closeRaises) &&
          !d.saveRaises), none⟩ ∧
      ((Delete.closesWebsocket st.world.sessionWebsockets s r && d.closeRaises) = false →
        d.saveRaises = false → t.ended s.row.id = true) := by
  unfold responseActions
  cases closes : Delete.closesWebsocket st.world.sessionWebsockets s r with
  | false =>
      have effect : endResume { st.world with now := d.time } (.deleting (timeoutCall s rest))
        (.nvcf r) = some _ := endResume_records closes
      obtain ⟨t, goes, task⟩ := answered_round task effect rfl
      obtain ⟨u, goes', task, ended⟩ := save_round d.saveRaises task (goes.ready.free free)
        (goes.ready.stored _ stored)
      exact ⟨u, goes.append goes', by simpa using task, fun _ => ended⟩
  | true =>
      obtain ⟨websocket, effect⟩ : ∃ websocket, endResume { st.world with now := d.time }
        (.deleting (timeoutCall s rest)) (.nvcf r) = some _ := endResume_closes closes
      obtain ⟨t, goes, task⟩ := answered_round task effect rfl
      cases raises : d.closeRaises with
      | true =>
          have effect : endResume t.world (.closingWebsocket (timeoutCall s rest) r) .raised =
            some (t.world, .finished .raised) := rfl
          obtain ⟨u, goes', task⟩ := closed_round task effect
          exact ⟨u, goes.append goes', by simpa [afterCall] using task, by simp⟩
      | false =>
          have effect : endResume t.world (.closingWebsocket (timeoutCall s rest) r) .done =
            some (recordEnd t.world (timeoutCall s rest) r) := rfl
          obtain ⟨u, goes', task⟩ := closed_round task effect
          have goes := goes.append goes'
          obtain ⟨v, goes', task, ended⟩ := save_round d.saveRaises task (goes.ready.free free)
            (goes.ready.stored _ stored)
          refine ⟨v, ?_, by simpa using task, fun _ => ended⟩
          have all := goes.append goes'
          rw [List.append_assoc] at all
          exact all

theorem end_round {s : SessionInstance} {rest : List SessionInstance} (d : Delete)
    (task : st.tasks[p]? = some ⟨terminateTimedOut (s :: rest), none⟩)
    (free : st.store.blocked cfg p = false) (stored : (st.session? s.row.id).isSome) :
    ∃ t, Goes cfg p st (endActions st.world.sessionWebsockets p s d) [s.row.id] t ∧
      t.tasks[p]? = some ⟨afterCall rest (d.returns st.world.sessionWebsockets s), none⟩ ∧
      (d.returns st.world.sessionWebsockets s = true → ∀ r, d.outcome = .response r →
        t.ended s.row.id = true) := by
  have task : st.tasks[p]? = some ⟨.ending (.deleting (timeoutCall s rest)), none⟩ := task
  unfold endActions Delete.returns
  cases outcome : d.outcome with
  | timeout =>
      have effect (w : World) : endResume w (.deleting (timeoutCall s rest)) .nvcfTimeout =
        some (w, terminateTimedOut rest) := rfl
      obtain ⟨t, goes, task⟩ := answered_round task (effect { st.world with now := d.time }) rfl
      exact ⟨t, goes, task, by simp⟩
  | transportError =>
      have effect (w : World) : endResume w (.deleting (timeoutCall s rest)) .raised =
        some (w, .finished .raised) := rfl
      obtain ⟨t, goes, task⟩ := answered_round task (effect { st.world with now := d.time }) rfl
      exact ⟨t, goes, task, by simp⟩
  | response r =>
      obtain ⟨t, goes, task, ended⟩ := response_round r d task free stored
      refine ⟨t, goes, task, fun returns _ _ => ?_⟩
      simp only [Bool.and_eq_true, Bool.not_eq_true'] at returns
      exact ended returns.1 returns.2

/-! ## The loop -/

theorem loop_ends {deletes : String → Delete} {sessions : List SessionInstance} {st : State}
    (task : st.tasks[p]? = some ⟨terminateTimedOut sessions, none⟩)
    (free : st.store.blocked cfg p = false)
    (stored : ∀ s ∈ sessions, (st.session? s.row.id).isSome)
    (returns : ∀ s ∈ sessions,
      (deletes s.row.id).returns st.world.sessionWebsockets s = true) :
    ∃ t, Goes cfg p st (loopActions st.world.sessionWebsockets p deletes sessions)
        (sessions.map fun s => s.row.id) t ∧
      t.tasks[p]? = some ⟨.watch .sleepingTimeout, none⟩ ∧
      ∀ s ∈ sessions, ∀ r, (deletes s.row.id).outcome = .response r →
        t.ended s.row.id = true := by
  induction sessions generalizing st with
  | nil => exact ⟨st, ⟨rfl, rfl, LeavesReady.refl st⟩, task, by simp⟩
  | cons s rest ih =>
      obtain ⟨t, goes, task, ended⟩ :=
        end_round (deletes s.row.id) task free (stored s List.mem_cons_self)
      have here := returns s List.mem_cons_self
      rw [here] at task
      obtain ⟨u, goes', task, ended'⟩ := ih task (goes.ready.free free)
        (fun s' inside => goes.ready.stored _ (stored s' (List.mem_cons_of_mem s inside)))
        fun s' inside => by
          rw [goes.ready.registry]
          exact returns s' (List.mem_cons_of_mem s inside)
      rw [goes.ready.registry] at goes'
      refine ⟨u, goes.append goes', task, ?_⟩
      intro s' inside r responded
      rcases List.mem_cons.mp inside with rfl | inside
      · exact goes'.ready.ended _ (ended here r responded)
      · exact ended' s' inside r responded

theorem finished_stops {registry : String → Option Nat} {deletes : String → Delete}
    {sessions : List SessionInstance} {o : Outcome}
    (task : st.tasks[p]? = some ⟨.finished o, none⟩)
    (reached : run cfg st (loopActions registry p deletes sessions) = some t) :
    t.tasks[p]? = some ⟨.finished o, none⟩ := by
  cases sessions with
  | nil =>
      obtain rfl := Option.some.inj reached
      exact task
  | cons s rest =>
      obtain ⟨u, ticked, rest⟩ := Runs.run_cons.mp reached
      obtain rfl := Option.some.inj ticked
      obtain ⟨v, answered, -⟩ := Runs.run_cons.mp rest
      cases step_cases answered with
      | answer _ f next a world task' awaits effect =>
          obtain ⟨rfl, -⟩ := Tasks.Task.mk.inj (Option.some.inj (task.symm.trans task'))
          contradiction

theorem loop_stops {deletes : String → Delete} {sessions : List SessionInstance} {st : State}
    (task : st.tasks[p]? = some ⟨terminateTimedOut sessions, none⟩)
    (free : st.store.blocked cfg p = false)
    (stored : ∀ s ∈ sessions, (st.session? s.row.id).isSome)
    (failed : ∃ s ∈ sessions, (deletes s.row.id).returns st.world.sessionWebsockets s = false)
    (reached : run cfg st (loopActions st.world.sessionWebsockets p deletes sessions) = some t) :
    t.tasks[p]? = some ⟨.finished .raised, none⟩ := by
  induction sessions generalizing st with
  | nil => simp at failed
  | cons s rest ih =>
      obtain ⟨u, goes, task, -⟩ :=
        end_round (deletes s.row.id) task free (stored s List.mem_cons_self)
      have reached : run cfg u (loopActions st.world.sessionWebsockets p deletes rest) = some t :=
        (Runs.run_append goes.reached _).symm.trans reached
      cases here : (deletes s.row.id).returns st.world.sessionWebsockets s with
      | false =>
          rw [here] at task
          exact finished_stops task reached
      | true =>
          rw [here] at task
          rw [← goes.ready.registry] at reached
          refine ih task (goes.ready.free free) ?_ ?_ reached
          · intro s' inside
            exact goes.ready.stored _ (stored s' (List.mem_cons_of_mem s inside))
          · obtain ⟨s', inside, raises⟩ := failed
            rw [goes.ready.registry]
            rcases List.mem_cons.mp inside with rfl | inside
            · rw [here] at raises
              contradiction
            · exact ⟨s', inside, raises⟩

end

/-! ## The pass -/

theorem loaded_round {cfg : Config} {st : State} {p : Nat} {cutoff : Int}
    (start : PassStart cfg st p cutoff) :
    ∃ t, Goes cfg p st [.execute p, .resume p] [] t ∧
      t.tasks[p]? = some ⟨terminateTimedOut (st.store.selectSessions (timedOut cutoff)), none⟩ := by
  have effect : (backend cfg).perform st.store p (.timedOutSessions cutoff) =
      some (st.store, .sessions (st.store.selectSessions (timedOut cutoff))) := by
    simp [backend, start.free, Db.perform]
  exact ⟨_,
    ⟨run_operation start.task rfl effect rfl, called_save p st false, leavesReady_world rfl⟩,
    getElem?_set_acting start.task⟩

/--
Whatever state the process is in, a pass of `watch_session_timeout` gets through the
sessions it has loaded exactly when every call of `end_session` returns: no DELETE fails
with a transport error other than a timeout and, where a DELETE has been answered,
neither the closing of the websocket nor the save of the row raises.
-/
theorem passEnds_iff (cfg : Config) (st : State) (p : Nat) (cutoff : Int)
    (deletes : String → Delete) (start : PassStart cfg st p cutoff) :
    (∃ t, PassEnds cfg st p deletes (st.store.selectSessions (timedOut cutoff)) t) ↔
      ∀ s ∈ st.store.selectSessions (timedOut cutoff),
        (deletes s.row.id).returns st.world.sessionWebsockets s = true := by
  obtain ⟨t, goes, task⟩ := loaded_round start
  have free := goes.ready.free start.free
  have stored : ∀ s ∈ st.store.selectSessions (timedOut cutoff),
      (t.session? s.row.id).isSome := by
    intro s inside
    have here : st.session? s.row.id = some s.row := (Db.mem_selectSessions inside).1
    exact goes.ready.stored _ (by simp [here])
  constructor
  · rintro ⟨u, ends⟩ s inside
    by_contra raises
    have reached := (Runs.run_append goes.reached _).symm.trans ends.reached
    rw [← goes.ready.registry] at reached raises
    have stopped := loop_stops task free stored ⟨s, inside, by simpa using raises⟩ reached
    obtain ⟨v, cutoff', next, -⟩ := ends.next
    cases step_cases next with
    | answer _ f next a world task' awaits effect =>
        obtain ⟨rfl, -⟩ := Tasks.Task.mk.inj (Option.some.inj (stopped.symm.trans task'))
        contradiction
  · intro returns
    rw [← goes.ready.registry] at returns
    obtain ⟨u, goes', asleep, ended⟩ := loop_ends task free stored returns
    rw [goes.ready.registry] at goes'
    have all := goes.append goes'
    refine ⟨u, all.reached, all.called, ended, ?_⟩
    have woken : step cfg u (.answer p .done) = some _ := step_answer asleep rfl rfl
    exact ⟨_, _, woken, getElem?_set_acting asleep, all.ready.free start.free⟩

theorem PassEnds.not_of_stuck {cfg : Config} {st : State} {p : Nat} {deletes : String → Delete}
    {sessions : List SessionInstance}
    (stuck : run cfg st (passActions st.world.sessionWebsockets p deletes sessions) = none) :
    ¬ ∃ t, PassEnds cfg st p deletes sessions t := by
  rintro ⟨t, ends⟩
  have reached := ends.reached
  rw [stuck] at reached
  contradiction

def watching : State :=
  -- The watcher starts its pass on two sessions that have timed out.
  { init ⟨[Sample.session "first" none, Sample.session "second" none], by decide⟩
      ⟨[Sample.app], List.nodup_singleton _⟩ 28800000000 with
    world := ⟨28800000000, fun id => if id = "first" then some 1 else some 2, [], [], [], []⟩
    tasks := [⟨.watch (.queryingTimedOut 0), none⟩] }

def deletesWith (first : DeleteOutcome) (closeRaises : Bool) (id : String) : Delete :=
  ⟨if id = "first" then first else .response Sample.ok, 28800000000, closeRaises, false⟩

theorem passEnds_timeout :
    ∃ t, PassEnds (Sample.config 1) watching 0 (deletesWith .timeout false)
      (watching.store.selectSessions (timedOut 0)) t := by
  refine (passEnds_iff (Sample.config 1) watching 0 0 _ ⟨rfl, rfl⟩).mpr ?_
  intro s _
  by_cases first : s.row.id = "first" <;> simp [Delete.returns, deletesWith, first]

/-- NVCF refuses the first connection: the second session is not tried. -/
theorem passEnds_fails :
    ¬ ∃ t, PassEnds (Sample.config 1) watching 0 (deletesWith .transportError false)
      (watching.store.selectSessions (timedOut 0)) t := PassEnds.not_of_stuck rfl

-- Nor is it when the DELETE is answered 200 and the websocket of the first is closed already.
example :
    ¬ ∃ t, PassEnds (Sample.config 1) watching 0 (deletesWith (.response Sample.ok) true)
      (watching.store.selectSessions (timedOut 0)) t := PassEnds.not_of_stuck rfl

end StreamingPortal.Sessions
