import StreamingPortal.Sessions.Columns

set_option autoImplicit false

/-! # How often the end of a session is counted -/

namespace StreamingPortal.Sessions

open Tasks

/-- The session whose end a handler has saved and not yet counted. -/
def awaitsMetric (t : Task) : Option String :=
  match t.frame, t.answer with
  | .ending (.saving e _), some .saved => some e.session.row.id
  | .watch (.savingExpiry s _ _), some .saved => some s.row.id
  | .connect (.savingFailed c), some .saved => some c.session.row.id
  -- An exception of the update leaves the handler before the metric.
  | .connect (.recordingError _ _), some .raised => none
  | .connect (.recordingError c _), _ => some c.session.row.id
  | _, _ => none

def World.emittedIds (w : World) : List String := w.sessionEnd.map EndMetrics.sessionId

def State.emitted (st : State) (id : String) : Nat := st.world.emittedIds.count id

def State.awaited (st : State) (id : String) : Nat :=
  st.tasks.countP fun t => decide (awaitsMetric t = some id)

/-- Every end since the start has been counted once, or is about to be. -/
def Balanced (start st : State) : Prop :=
  ∀ id, st.emitted id + st.awaited id + (start.ended id).toNat = (st.ended id).toNat

/-- No handler is between the save of an end and its metric. -/
def Quiet (st : State) : Prop := ∀ t ∈ st.tasks, awaitsMetric t = none

/--
In a quiet state, the end metrics of a session have been emitted once if it has
ended since the start, and not at all otherwise.
-/
def CountedOnce (start st : State) : Prop :=
  Quiet st → ∀ id, st.emitted id + (start.ended id).toNat = (st.ended id).toNat

def savesOnce (ended : Bool) : Frame → Bool
  -- What a save must find in its row, given as whether the row has ended.
  | .request (.savingError _) => true
  -- `check_session` counts nothing.
  | .request (.savingCheck _) => ended
  | _ => !ended

/--
No status is saved over a row that has ended, except by `check_session`, which ends
no other rows; and nothing raises between the save of an end and its metric.
-/
def EndsOnce (st : State) : Action → State → Prop
  | .execute p, _ => ∀ f ∈ st.frame? p, ∀ s ∈ savedCopy f,
      savesOnce (st.ended s.row.id) f = true
  | .raise p, _ => ∀ f ∈ st.frame? p, awaitsMetric ⟨f, none⟩ = none
  | _, _ => True

instance (st : State) (act : Action) (st' : State) : Decidable (EndsOnce st act st') :=
  match act with
  | .execute p => inferInstanceAs (Decidable (∀ f ∈ st.frame? p, ∀ s ∈ savedCopy f, _))
  | .raise p => inferInstanceAs (Decidable (∀ f ∈ st.frame? p, _))
  | .request _ | .resume _ | .answer _ _ | .tick _ => isTrue trivial

/-! ## A resumed handler emits what it was about to emit -/

theorem cleanup_emitted (w : World) (p : Nat) (c : Connection) :
    (cleanup w p c).1.emittedIds ++ (awaitsMetric ⟨(cleanup w p c).2, none⟩).toList =
      w.emittedIds := by
  unfold cleanup
  simp only
  repeat' split
  all_goals exact List.append_nil _

theorem admit_emitted (w : World) (p : Nat) (user : User) (found : Option SessionInstance) :
    (checkAdmission w p user found).1.emittedIds ++
      (awaitsMetric ⟨(checkAdmission w p user found).2, none⟩).toList = w.emittedIds := by
  unfold checkAdmission
  repeat' split
  all_goals exact List.append_nil _

theorem finishFailed_emitted (w : World) (p : Nat) (c : Connection) :
    (finishFailed w p c).1.emittedIds ++ (awaitsMetric ⟨(finishFailed w p c).2, none⟩).toList =
      w.emittedIds ++ [c.session.row.id] := by
  simp [finishFailed, removeWebsocket, World.emittedIds, World.emitSessionEndMetrics,
    World.closeWebsocket, World.unregister, awaitsMetric]

def SameEmissions (w : World) (t : Task) (w' : World) (f' : Frame) : Prop :=
  -- What is emitted and awaited together, before and after a task is resumed.
  w'.emittedIds ++ (awaitsMetric ⟨f', none⟩).toList = w.emittedIds ++ (awaitsMetric t).toList

theorem sameEmissions_idle (w : World) {t : Task} {f' : Frame} (before : awaitsMetric t = none)
    (after : awaitsMetric ⟨f', none⟩ = none) : SameEmissions w t w f' := by
  rw [SameEmissions, before, after]

theorem sameEmissions_metric (w : World) {t : Task} {f' : Frame} {s : SessionInstance}
    (before : awaitsMetric t = some s.row.id) (after : awaitsMetric ⟨f', none⟩ = none) :
    SameEmissions w t (w.emitSessionEndMetrics s) f' := by
  rw [SameEmissions, before, after]
  simp [World.emittedIds, World.emitSessionEndMetrics]

theorem connectResume_emitted {w w' : World} {p : Nat} {f : ConnectFrame} {a : Answer}
    {f' : Frame} (h : connectResume w p f a = some (w', f')) :
    SameEmissions w ⟨.connect f, some a⟩ w' f' := by
  cases connectResume_cases h with
  | loaded user id cookie found =>
      exact (admit_emitted w p user found).trans (List.append_nil _).symm
  | saveConnectingFailed | closed | closeFailed =>
      exact (cleanup_emitted w p _).trans (List.append_nil _).symm
  | openFailed c c' a caught =>
      exact (cleanup_emitted w p c').trans (List.append_nil _).symm
  | savedFailed c => exact finishFailed_emitted w p c
  | recordedError c recorded n session same =>
      have kept : session.row.id = c.session.row.id := by rcases same with rfl | rfl <;> rfl
      have all := finishFailed_emitted w p { c with session := session }
      rw [kept] at all
      exact all
  | _ => rfl

theorem terminateTimedOut_awaits (rest : List SessionInstance) :
    awaitsMetric ⟨terminateTimedOut rest, none⟩ = none := by
  cases rest <;> rfl

theorem caller_return_awaits (caller : EndCaller) (r : Response) :
    awaitsMetric ⟨caller.return r, none⟩ = none := by
  cases caller with
  | stopStream | terminateSession => rfl
  | watchSessionTimeout rest => exact terminateTimedOut_awaits rest

theorem endResume_emitted {w w' : World} {f : EndFrame} {a : Answer} {f' : Frame}
    (h : endResume w f a = some (w', f')) : SameEmissions w ⟨.ending f, some a⟩ w' f' := by
  cases endResume_cases h with
  | deleted | answered | closed => rfl
  | timedOut e => exact sameEmissions_idle w rfl (caller_return_awaits e.caller _)
  | saved e r => exact sameEmissions_metric w rfl (caller_return_awaits e.caller _)
  | raised => cases f <;> rfl

theorem stopIdle_awaits (now : Int) (rest : List SessionInstance) :
    awaitsMetric ⟨stopIdle now rest, none⟩ = none := by
  cases rest <;> rfl

theorem watchResume_emitted {cfg : Config} {w w' : World} {f : WatchFrame} {a : Answer} {f' : Frame}
    (h : watchResume cfg w f a = some (w', f')) : SameEmissions w ⟨.watch f, some a⟩ w' f' := by
  cases watchResume_cases h with
  | timedOut cutoff sessions => exact sameEmissions_idle w rfl (terminateTimedOut_awaits sessions)
  | orphaned expired cutoff orphaned => exact sameEmissions_idle w rfl (stopIdle_awaits w.now _)
  | saved s rest now => exact sameEmissions_metric w rfl (stopIdle_awaits now rest)
  | timeoutSlept | expired | idleSlept => rfl
  | raised => cases f <;> rfl

theorem withSession_awaits_nothing (user : User) (s : SessionInstance)
    (caller : SessionQueryCaller) : awaitsMetric ⟨withSession user s caller, none⟩ = none := by
  unfold withSession terminateSession
  repeat' split
  all_goals rfl

theorem requestResume_awaits_nothing {cfg : Config} {w : World} {f : RequestFrame} {a : Answer}
    {f' : Frame} (h : requestResume cfg w f a = some f') : awaitsMetric ⟨f', none⟩ = none := by
  cases requestResume_cases h with
  | queried user id caller found =>
      unfold querySession
      repeat' split
      all_goals first | rfl | exact withSession_awaits_nothing ..
  | admitted user id s caller => exact withSession_awaits_nothing user s caller
  | stopped user id cookie found =>
      unfold stopStream
      repeat' split
      all_goals rfl
  | checked user id path found =>
      unfold checkSession
      repeat' split
      all_goals rfl
  | refused | savedError | savedCheck | askedListAdmin | counted | fetched | raised => rfl

theorem resumeFrame_emitted {cfg : Config} {w w' : World} {p : Nat} {f f' : Frame} {a : Answer}
    (h : resumeFrame cfg w p f a = some (w', f')) : SameEmissions w ⟨f, some a⟩ w' f' := by
  cases f with
  | connect f => exact connectResume_emitted h
  | ending f => exact endResume_emitted h
  | request f =>
      obtain ⟨next, resumed, same⟩ := Option.map_eq_some_iff.mp h
      obtain ⟨rfl, rfl⟩ := Prod.mk.inj same
      exact sameEmissions_idle w rfl (requestResume_awaits_nothing resumed)
  | start f => cases startResume_cases h <;> rfl
  | watch f => exact watchResume_emitted h
  | finished => contradiction

/-! ## What a save does to the balance -/

inductive SaveKind (f : Frame) (s : SessionInstance) (fields : List Column) : Prop
  | unnamed (names : .status ∉ fields) (awaited : awaitsMetric ⟨f, some .saved⟩ = none)
      (once : ∀ ended, savesOnce ended f = true)
  | uncounted (names : .status ∈ fields) (status : s.row.status ∈ terminalStatuses)
      (awaited : awaitsMetric ⟨f, some .saved⟩ = none)
      (once : ∀ ended, savesOnce ended f = ended)
  | counted (names : .status ∈ fields) (status : s.row.status ∈ terminalStatuses)
      (awaited : awaitsMetric ⟨f, some .saved⟩ = some s.row.id)
      (once : ∀ ended, savesOnce ended f = !ended)
  | running (names : .status ∈ fields) (status : s.row.status ∉ terminalStatuses)
      (awaited : awaitsMetric ⟨f, some .saved⟩ = none)
      (once : ∀ ended, savesOnce ended f = !ended)

theorem saveKind_of_frame {f : Frame} {s : SessionInstance} {fields : List Column}
    (saves : SaveFrame f s fields) (prepared : Prepared f) : SaveKind f s fields := by
  cases saves with
  | connecting c =>
      exact .running (by simp) (by simp [prepared.1, terminalStatuses]) rfl fun _ => rfl
  | active c =>
      have active : c.session.row.status = .active := prepared
      exact .running (by simp) (by simp [active, terminalStatuses]) rfl fun _ => rfl
  | idle c => exact .running (by simp) (by simp [prepared.1, terminalStatuses]) rfl fun _ => rfl
  | failed c => exact .counted (by simp) (by simp [prepared.1, terminalStatuses]) rfl fun _ => rfl
  | ended e r => exact .counted (by simp) (prepared.2.1 ▸ prepared.1.1) rfl fun _ => rfl
  | error => exact .unnamed (by simp) rfl fun _ => rfl
  | check =>
      have classified : s.Classified := prepared
      exact .uncounted (by simp) (classified ▸ watcherTerminalStatus_terminal s) rfl fun _ => rfl
  | expiry s rest now =>
      have classified : s.Classified := prepared.1
      exact .counted (by simp) (classified ▸ watcherTerminalStatus_terminal s) rfl fun _ => rfl

theorem saveFrame_awaits_nothing {f : Frame} {s : SessionInstance} {fields : List Column}
    (saves : SaveFrame f s fields) : awaitsMetric ⟨f, none⟩ = none := by
  cases saves <;> rfl

theorem awaited_set {st st' : State} {p : Nat} {t u : Task}
    (tasks : st'.tasks = st.tasks.set p u) (task : st.tasks[p]? = some t) (id : String) :
    st'.awaited id + (decide (awaitsMetric t = some id)).toNat =
      st.awaited id + (decide (awaitsMetric u = some id)).toNat := by
  unfold State.awaited
  rw [tasks]
  exact countP_set_acting (fun t => decide (awaitsMetric t = some id)) task

section

variable {start st st' : State} {p : Nat} {f : Frame} {s : SessionInstance}
variable {fields : List Column} {row : SessionModel}

theorem balanced_save_iff (balanced : Balanced start st) (task : st.tasks[p]? = some ⟨f, none⟩)
    (saves : SaveFrame f s fields) (stored : st.session? s.row.id = some row)
    (tasks : st'.tasks = st.tasks.set p ⟨f, some .saved⟩) (world : st'.world = st.world)
    (saved : st'.store = st.store.save s fields)
    (mine : ∀ id, awaitsMetric ⟨f, some .saved⟩ = some id → id = s.row.id) :
    Balanced start st' ↔
      st.emitted s.row.id +
          (st.awaited s.row.id + (awaitsMetric ⟨f, some .saved⟩).isSome.toNat) +
          (start.ended s.row.id).toNat =
        (if .status ∈ fields then decide (s.row.status ∈ terminalStatuses)
          else st.ended s.row.id).toNat := by
  have idle := saveFrame_awaits_nothing saves
  have counted (id : String) : st'.awaited id =
      st.awaited id + (decide (awaitsMetric ⟨f, some .saved⟩ = some id)).toNat := by
    have moved := awaited_set tasks task id
    simpa [idle] using moved
  have emitted (id : String) : st'.emitted id = st.emitted id := by
    rw [State.emitted, State.emitted, world]
  have own : decide (awaitsMetric ⟨f, some .saved⟩ = some s.row.id) =
      (awaitsMetric ⟨f, some .saved⟩).isSome := by
    cases awaits : awaitsMetric ⟨f, some .saved⟩ with
    | none => rfl
    | some id => simp [mine id awaits]
  constructor
  · intro after
    have here := after s.row.id
    rw [emitted, counted, ended_save saved stored, own] at here
    simpa using here
  · intro here id
    rw [emitted, counted, ended_save saved stored]
    by_cases target : id = s.row.id
    · subst target
      rw [own]
      simpa using here
    · have elsewhere : awaitsMetric ⟨f, some .saved⟩ ≠ some id := fun h => target (mine id h)
      simpa [target, elsewhere] using balanced id

theorem balanced_save (balanced : Balanced start st) (task : st.tasks[p]? = some ⟨f, none⟩)
    (saves : SaveFrame f s fields) (prepared : Prepared f)
    (stored : st.session? s.row.id = some row)
    (tasks : st'.tasks = st.tasks.set p ⟨f, some .saved⟩) (world : st'.world = st.world)
    (saved : st'.store = st.store.save s fields) :
    Balanced start st' ↔ savesOnce (st.ended s.row.id) f = true := by
  have before := balanced s.row.id
  have after := balanced_save_iff balanced task saves stored tasks world saved
  generalize (start.ended s.row.id).toNat = earlier at before after
  cases saveKind_of_frame saves prepared with
  | unnamed names awaited once =>
      rw [after (by simp [awaited]), awaited, once, if_neg names]
      simpa using before
  | uncounted names status awaited once =>
      rw [after (by simp [awaited]), awaited, once, if_pos names, decide_eq_true status]
      cases ended : st.ended s.row.id <;> rw [ended] at before <;>
        simp only [Option.isSome_none, Bool.toNat_false, Bool.toNat_true, Bool.false_eq_true,
          iff_false, iff_true] at before ⊢ <;> omega
  | counted names status awaited once =>
      rw [after (by simp [awaited]), awaited, once, if_pos names, decide_eq_true status]
      cases ended : st.ended s.row.id <;> rw [ended] at before <;>
        simp only [Option.isSome_some, Bool.toNat_false, Bool.toNat_true, Bool.not_false,
          Bool.not_true, Bool.false_eq_true, iff_false, iff_true] at before ⊢ <;> omega
  | running names status awaited once =>
      rw [after (by simp [awaited]), awaited, once, if_pos names, decide_eq_false status]
      cases ended : st.ended s.row.id <;> rw [ended] at before <;>
        simp only [Option.isSome_none, Bool.toNat_false, Bool.toNat_true, Bool.not_false,
          Bool.not_true, Bool.false_eq_true, iff_false, iff_true] at before ⊢ <;> omega

end

/-! ## The other steps -/

theorem opless_awaits_nothing {f : Frame} (idle : frameOp f = none) (a : Option Answer) :
    awaitsMetric ⟨f, a⟩ = none := by
  cases f with
  | connect f => cases f <;> first | rfl | exact absurd idle (by simp [frameOp, connectOp])
  | ending f => cases f <;> first | rfl | exact absurd idle (by simp [frameOp, endOp])
  | watch f => cases f <;> first | rfl | exact absurd idle (by simp [frameOp, watchOp])
  | request | start | finished => rfl

theorem awaits_of_executed {cfg : Config} {db : Db} {p : Nat} {f : Frame} {op : DbOp}
    (awaits : frameOp f = some op) (noSave : ∀ s fields, op ≠ .save s fields) :
    awaitsMetric ⟨f, some (db.perform cfg p op).2⟩ = awaitsMetric ⟨f, none⟩ := by
  cases f with
  | connect f =>
      cases f with
      | recordingError c recorded =>
          obtain rfl := Option.some.inj awaits
          rfl
      | savingFailed => exact absurd (Option.some.inj awaits).symm (noSave _ _)
      | _ => rfl
  | ending f =>
      cases f with
      | saving => exact absurd (Option.some.inj awaits).symm (noSave _ _)
      | _ => rfl
  | watch f =>
      cases f with
      | savingExpiry => exact absurd (Option.some.inj awaits).symm (noSave _ _)
      | _ => rfl
  | request | start | finished => rfl

theorem raised_awaits_nothing (f : Frame) : awaitsMetric ⟨f, some .raised⟩ = none := by
  cases f with
  | connect f => cases f <;> rfl
  | ending f => cases f <;> rfl
  | watch f => cases f <;> rfl
  | request | start | finished => rfl

theorem ended_perform {cfg : Config} {st : State} {p : Nat} {op : DbOp}
    (noSave : ∀ s fields, op ≠ .save s fields)
    (idle : ∀ row, op = .createSession row → row.status = .idle) {st' : State}
    (store : st'.store = (st.store.perform cfg p op).1) (id : String) :
    st'.ended id = st.ended id := by
  have after : st'.session? id = (st.store.perform cfg p op).1.sessions.get? id := by
    rw [State.session?, store]
  unfold State.ended
  cases stored : st.session? id with
  | some row =>
      obtain ⟨row', stored', change⟩ := perform_stored cfg p stored op
      rw [after, stored']
      cases change with
      | kept | errorSet => rfl
      | saved s fields => exact absurd rfl (noSave s fields)
  | none =>
      cases stored' : st'.session? id with
      | none => rfl
      | some row' =>
          have change : RowChange id op (st.session? id) row' := perform_row (after ▸ stored')
          rw [stored] at change
          cases change with
          | created _ target => simp [idle row' rfl, terminalStatuses]

theorem FirstFrame.awaits_nothing {f : Frame} (first : FirstFrame f) :
    awaitsMetric ⟨f, none⟩ = none := by
  cases first <;> rfl

section

variable {start st st' : State}

theorem balanced_same (balanced : Balanced start st)
    (emitted : ∀ id, st'.emitted id + st'.awaited id = st.emitted id + st.awaited id)
    (ended : ∀ id, st'.ended id = st.ended id) : Balanced start st' := by
  intro id
  rw [emitted, ended]
  exact balanced id

theorem count_append_option (l : List String) (o : Option String) (id : String) :
    (l ++ o.toList).count id = l.count id + (decide (o = some id)).toNat := by
  cases o with
  | none => simp
  | some j => by_cases same : j = id <;> simp [same]

theorem balanced_resumed {cfg : Config} {p : Nat} {f next : Frame} {a : Answer}
    {b : Option Answer} (balanced : Balanced start st) (task : st.tasks[p]? = some ⟨f, b⟩)
    (given : awaitsMetric ⟨f, b⟩ = awaitsMetric ⟨f, some a⟩)
    (effect : resumeFrame cfg st.world p f a = some (st'.world, next))
    (tasks : st'.tasks = st.tasks.set p ⟨next, none⟩) (store : st'.store = st.store) :
    Balanced start st' := by
  refine balanced_same balanced (fun id => ?_) fun id => ?_
  · have moved := awaited_set tasks task id
    have same := congrArg (List.count id) (resumeFrame_emitted effect)
    rw [count_append_option, count_append_option, ← given] at same
    simp only [State.emitted]
    omega
  · rw [State.ended, State.session?, store]
    rfl

theorem balanced_executed {cfg : Config} {p : Nat} {f : Frame} {op : DbOp}
    (balanced : Balanced start st) (prepared : Prepared f)
    (task : st.tasks[p]? = some ⟨f, none⟩) (awaits : frameOp f = some op)
    (noSave : ∀ s fields, op ≠ .save s fields) (world : st'.world = st.world)
    (tasks : st'.tasks = st.tasks.set p ⟨f, some (st.store.perform cfg p op).2⟩)
    (store : st'.store = (st.store.perform cfg p op).1) : Balanced start st' := by
  refine balanced_same balanced (fun id => ?_) (ended_perform noSave ?_ store)
  · have moved := awaited_set tasks task id
    rw [awaits_of_executed awaits noSave] at moved
    rw [State.emitted, world, ← State.emitted]
    omega
  · rintro row rfl
    obtain ⟨s, running, app, cookie, rfl⟩ := createFrame_of_op awaits
    exact prepared.1

theorem balanced_raised {p : Nat} {f : Frame} (balanced : Balanced start st)
    (task : st.tasks[p]? = some ⟨f, none⟩)
    (tasks : st'.tasks = st.tasks.set p ⟨f, some .raised⟩) (world : st'.world = st.world)
    (store : st'.store = st.store) :
    Balanced start st' ↔ awaitsMetric ⟨f, none⟩ = none := by
  have moved (id : String) := awaited_set tasks task id
  simp only [raised_awaits_nothing, reduceCtorEq, decide_false, Bool.toNat_false] at moved
  have emitted (id : String) : st'.emitted id = st.emitted id := by
    rw [State.emitted, State.emitted, world]
  have ended (id : String) : st'.ended id = st.ended id := by
    rw [State.ended, State.session?, store]
    rfl
  constructor
  · intro after
    cases awaits : awaitsMetric ⟨f, none⟩ with
    | none => rfl
    | some id =>
        have before := balanced id
        have lost := after id
        have moved := moved id
        rw [emitted, ended] at lost
        simp only [awaits, decide_true, Bool.toNat_true] at moved
        omega
  · intro nothing
    refine balanced_same balanced (fun id => ?_) ended
    have moved := moved id
    simp only [nothing, reduceCtorEq, decide_false, Bool.toNat_false] at moved
    rw [emitted]
    omega

end

/-! ## Whole runs -/

structure Counted (start st : State) : Prop where
  balanced : Balanced start st
  prepared : AllPrepared st
  fixed : ColumnsFixed st

theorem balanced_iff_endsOnce {cfg : Config} {start st st' : State} {act : Action}
    (counted : Counted start st) (taken : step cfg st act = some st') :
    Balanced start st' ↔ EndsOnce st act st' := by
  have balanced := counted.balanced
  cases step_cases taken with
  | request r =>
      refine iff_of_true (balanced_same balanced (fun id => ?_) fun _ => rfl) trivial
      have first := (startRequest_first cfg st.world r).awaits_nothing
      simp [State.awaited, backend, first, State.emitted]
  | execute p f op db a task awaits effect =>
      obtain ⟨-, rfl, rfl⟩ := perform_of_effect effect
      have awaits : frameOp f = some op := awaits
      have frame := State.frame?_of_task task
      have prepared := counted.prepared p f frame
      cases copy : savedCopy f with
      | some s =>
          obtain ⟨fields, saving⟩ := op_of_savedCopy copy
          obtain rfl : op = .save s fields := Option.some.inj (awaits.symm.trans saving)
          have saves := saveFrame_of_op saving
          obtain ⟨row, stored, -⟩ := counted.fixed.stored task (frameCopies_of_save saves)
          refine Iff.trans (balanced_save balanced task saves prepared stored rfl rfl rfl) ?_
          constructor
          · intro once f' frame' s' copy'
            obtain rfl := Option.some.inj (frame.symm.trans frame')
            obtain rfl := Option.some.inj (copy.symm.trans copy')
            exact once
          · exact fun once => once f frame s copy
      | none =>
          have noSave (s : SessionInstance) (fields : List Column) : op ≠ .save s fields := by
            rintro rfl
            simp [savedCopy_of_op awaits] at copy
          refine iff_of_true (balanced_executed balanced prepared task awaits noSave rfl rfl rfl) ?_
          intro f' frame' s copy'
          obtain rfl := Option.some.inj (frame.symm.trans frame')
          rw [copy] at copy'
          contradiction
  | raise p f op a task awaits effect =>
      obtain rfl := failure_raised effect
      have frame := State.frame?_of_task task
      refine Iff.trans (balanced_raised balanced task rfl rfl rfl) ?_
      constructor
      · intro nothing f' frame'
        obtain rfl := Option.some.inj (frame.symm.trans frame')
        exact nothing
      · exact fun once => once f frame
  | resume p f next a world task effect =>
      exact iff_of_true (balanced_resumed balanced task rfl effect rfl rfl) trivial
  | answer p f next a world task awaits effect =>
      have given : awaitsMetric ⟨f, none⟩ = awaitsMetric ⟨f, some a⟩ := by
        rw [opless_awaits_nothing awaits, opless_awaits_nothing awaits]
      exact iff_of_true (balanced_resumed balanced task given effect rfl rfl) trivial
  | tick time => exact iff_of_true balanced trivial

theorem counted_init (sessions : SessionTable) (apps : AppTable) (now : Int) :
    Counted (init sessions apps now) (init sessions apps now) where
  balanced := fun id => by simp [State.emitted, State.awaited, init, World.emittedIds]
  prepared := allPrepared_init sessions apps now
  fixed := columnsFixed_init sessions apps now

theorem counted_step {cfg : Config} {start st st' : State} {act : Action}
    (counted : Counted start st) (once : EndsOnce st act st')
    (taken : step cfg st act = some st') : Counted start st' where
  balanced := (balanced_iff_endsOnce counted taken).mpr once
  prepared := allPrepared_step counted.prepared taken
  fixed := columnsFixed_step counted.fixed taken

theorem Balanced.countedOnce {start st : State} (balanced : Balanced start st) :
    CountedOnce start st := by
  intro quiet id
  have none : st.awaited id = 0 := List.countP_eq_zero.mpr fun t here => by simp [quiet t here]
  have here := balanced id
  omega

/--
In every run of a process that meets the condition, each session that has ended since
the start has been counted once, and no other.
-/
theorem countedOnce_of_endsOnce (cfg : Config) (sessions : SessionTable) (apps : AppTable)
    (now : Int) (acts : List Action)
    (once : Along cfg EndsOnce (init sessions apps now) acts) :
    ∀ pre post t, acts = pre ++ post → run cfg (init sessions apps now) pre = some t →
      CountedOnce (init sessions apps now) t := by
  rintro pre post t rfl reached
  refine (Runs.invariant (Counted (init sessions apps now)) ?_
    (counted_init sessions apps now) (once.append reached).1 reached).balanced.countedOnce
  intro s act t counted once taken
  exact counted_step counted once taken

def idleEnd : List Action :=
  -- The idle watcher ends the first session that it finds, and counts it.
  [.request .watchIdleSessions, .execute 0, .resume 0, .execute 0, .resume 0, .execute 0,
    .resume 0]

theorem countedOnce_idleEnd :
    CountedOnce (Sample.start (some 0) 1000000000)
      ((run (Sample.config 1) (Sample.start (some 0) 1000000000) idleEnd).get (by decide)) :=
  countedOnce_of_endsOnce (Sample.config 1) _ _ 1000000000 idleEnd (by decide) idleEnd [] _
    (List.append_nil _).symm (Option.some_get _).symm

def checkedEnd : List Action :=
  -- The proxy asks for a session that nobody has used for `session_ttl`.
  [.request (.checkSession Sample.user "session" "/"), .execute 0, .resume 0, .execute 0]

theorem countedOnce_fails :
    ¬ ∀ pre post t, checkedEnd = pre ++ post →
      run (Sample.config 1) (Sample.start (some 0) 28800000000) pre = some t →
        CountedOnce (Sample.start (some 0) 28800000000) t := by
  intro counted
  have here := counted checkedEnd [] _ (List.append_nil _).symm rfl
  refine absurd (here ?_ "session") (by decide)
  intro t inside
  obtain rfl := List.mem_singleton.mp inside
  rfl

/-- The condition is met exactly as long as the balance is kept. -/
theorem balanced_along_iff (cfg : Config) (sessions : SessionTable) (apps : AppTable) (now : Int)
    (acts : List Action) :
    Along cfg (fun _ _ t => Balanced (init sessions apps now) t) (init sessions apps now) acts ↔
      Along cfg EndsOnce (init sessions apps now) acts := by
  refine Runs.along_iff (Counted (init sessions apps now)) ?_ ?_ (counted_init sessions apps now)
  · intro s act t counted once taken
    exact counted_step counted once taken
  · intro s act t counted taken
    exact balanced_iff_endsOnce counted taken

end StreamingPortal.Sessions
