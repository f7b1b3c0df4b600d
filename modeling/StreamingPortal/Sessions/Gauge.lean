import StreamingPortal.Sessions.Saves
import Mathlib.Algebra.Ring.Int.Defs

set_option autoImplicit false

/-! # The gauge of active sessions -/

namespace StreamingPortal.Sessions

open Tasks

abbrev GaugeCall := Int × Attributes

def World.gauge (w : World) : Int := (w.activeSessions.map Prod.fst).sum

/-- The call of `active_sessions.add` that a step makes, with the handler that makes it. -/
def gaugeCall (cfg : Config) (st : State) (act : Action) : Option (Nat × GaugeCall) :=
  match st.resumed act, step cfg st act with
  | some (p, _, _), some st' =>
      (st'.world.activeSessions.drop st.world.activeSessions.length).head?.map fun call => (p, call)
  | _, _ => none

def callsOf (calls : List (Nat × GaugeCall)) (p : Nat) : List GaugeCall :=
  (calls.filter fun call => decide (call.1 = p)).map Prod.snd

def incremented (calls : List GaugeCall) : Bool := calls.any fun call => decide (0 < call.1)

/-- The handler has finished relaying: it is in its `finally` block or has returned. -/
def leftTry : Frame → Bool
  | .connect (.savingFailed _) | .connect (.recordingError _ _) | .connect (.savingIdle _)
  | .connect (.closingClient _) | .finished _ => true
  | _ => false

/-- A finished handler has taken back what it had added, under the same attributes. -/
def TakenBack (calls : List GaugeCall) : Prop :=
  calls = [] ∨ ∃ attrs, calls = [(1, attrs), (-1, attrs)]

/-- The handlers that have incremented the gauge and not finished. -/
def openHandlers (calls : List (Nat × GaugeCall)) (st : State) : Nat :=
  (List.range st.tasks.length).countP fun p =>
    incremented (callsOf calls p) && !(st.frame? p).any leftTry

structure GaugeCounts (calls : List (Nat × GaugeCall)) (st : State) : Prop where
  recorded : st.world.activeSessions = calls.map Prod.snd
  value : st.world.gauge = openHandlers calls st
  takenBack : ∀ p f, st.frame? p = some f → leftTry f = true → TakenBack (callsOf calls p)

def savesActive : Frame → Bool
  | .connect (.savingActive _) => true
  | _ => false

/-- The save of ACTIVE, which comes before the increment, does not raise. -/
def ActiveSaved (st : State) : Action → State → Prop
  | .raise p, _ => ∀ f ∈ st.frame? p, savesActive f = false
  | _, _ => True

instance (st : State) (act : Action) (st' : State) : Decidable (ActiveSaved st act st') :=
  match act with
  | .raise p => inferInstanceAs (Decidable (∀ f ∈ st.frame? p, savesActive f = false))
  | .request _ | .execute _ | .resume _ | .answer _ _ | .tick _ => isTrue trivial

/-! ## One handler -/

def isOpen : Frame → Bool
  | .connect (.relaying _ _ _) | .connect (.closingUpstream _ _ _) => true
  | _ => false

def FrameCalls : Frame → List GaugeCall → Prop
  -- The calls that a handler in this frame has made.
  | .connect (.relaying c _ _), calls | .connect (.closingUpstream c _ _), calls =>
      calls = [(1, c.gaugeAttributes)]
  | f, calls => if leftTry f then TakenBack calls else calls = []

structure TaskCalls (t : Task) (calls : List GaugeCall) : Prop where
  frame : FrameCalls t.frame calls
  saved : savesActive t.frame = true → t.answer ≠ some .raised

theorem FrameCalls.takenBack {f : Frame} {calls : List GaugeCall} (made : FrameCalls f calls)
    (left : leftTry f = true) : TakenBack calls := by
  unfold FrameCalls at made
  split at made
  next => contradiction
  next => contradiction
  next => rwa [if_pos left] at made

theorem FrameCalls.open_iff {f : Frame} {calls : List GaugeCall} (made : FrameCalls f calls) :
    (incremented calls && !leftTry f) = isOpen f := by
  unfold FrameCalls at made
  split at made
  next => subst made; rfl
  next => subst made; rfl
  next relaying closing =>
    have closed : isOpen f = false := by
      unfold isOpen
      split
      next c d₁ d₂ => exact absurd rfl (relaying c d₁ d₂)
      next c d₁ d₂ => exact absurd rfl (closing c d₁ d₂)
      next => rfl
    rw [closed]
    split at made
    next left => simp [left]
    next => subst made; rfl

theorem FrameCalls.sum {f : Frame} {calls : List GaugeCall} (made : FrameCalls f calls) :
    (calls.map Prod.fst).sum = ((isOpen f).toNat : Int) := by
  rw [← made.open_iff]
  unfold FrameCalls at made
  split at made
  next => subst made; rfl
  next => subst made; rfl
  next =>
    split at made
    next left =>
      rcases made with rfl | ⟨attrs, rfl⟩ <;> simp [left]
    next => subst made; rfl

/-! ## What a resumed handler adds -/

def Adds (w : World) (calls : List GaugeCall) (w' : World) (f' : Frame) : Prop :=
  ∃ added : Option GaugeCall, w'.activeSessions = w.activeSessions ++ added.toList ∧
    FrameCalls f' (calls ++ added.toList)

theorem adds_nothing {w w' : World} {calls : List GaugeCall} {f' : Frame}
    (same : w'.activeSessions = w.activeSessions) (made : FrameCalls f' calls) :
    Adds w calls w' f' :=
  ⟨none, by simpa using same, by simpa using made⟩

theorem adds_nothing_takenBack {w w' : World} {calls : List GaugeCall} {f' : Frame}
    (same : w'.activeSessions = w.activeSessions) (left : leftTry f' = true)
    (takenBack : TakenBack calls) : Adds w calls w' f' := by
  refine adds_nothing same ?_
  unfold FrameCalls
  split
  next => contradiction
  next => contradiction
  next => rwa [if_pos left]

theorem cleanup_left (w : World) (p : Nat) (c : Connection) :
    leftTry (cleanup w p c).2 = true := by
  unfold cleanup
  simp only
  repeat' split
  all_goals rfl

theorem cleanup_gauge (w : World) (p : Nat) (c : Connection) :
    (cleanup w p c).1.activeSessions =
      if c.session.row.status = .active then w.activeSessions ++ [(-1, c.gaugeAttributes)]
      else w.activeSessions := by
  unfold cleanup
  simp only
  repeat' split
  all_goals rfl

theorem cleanup_unopened {w : World} (p : Nat) {c : Connection}
    (inactive : c.session.row.status ≠ .active) :
    Adds w [] (cleanup w p c).1 (cleanup w p c).2 := by
  refine adds_nothing_takenBack ?_ (cleanup_left w p c) (Or.inl rfl)
  rw [cleanup_gauge, if_neg inactive]

theorem cleanup_opened {w : World} (p : Nat) {c : Connection}
    (active : c.session.row.status = .active) :
    Adds w [(1, c.gaugeAttributes)] (cleanup w p c).1 (cleanup w p c).2 := by
  refine ⟨some (-1, c.gaugeAttributes), ?_, ?_⟩
  · rw [cleanup_gauge, if_pos active]
    rfl
  · have takenBack : TakenBack [(1, c.gaugeAttributes), (-1, c.gaugeAttributes)] := Or.inr ⟨_, rfl⟩
    have left := cleanup_left w p c
    unfold FrameCalls
    split
    next same => rw [same] at left; contradiction
    next same => rw [same] at left; contradiction
    next => rwa [if_pos left]

@[simp] theorem relayFailed_gaugeAttributes (c : Connection) (e : RelayError) :
    (c.relayFailed e).gaugeAttributes = c.gaugeAttributes := by
  unfold Connection.relayFailed
  cases e with
  | disconnect | other => rfl
  | upstreamClosed rcvd =>
      simp only
      split <;> rfl

theorem checkAdmission_adds (w : World) (p : Nat) (user : User)
    (found : Option SessionInstance) :
    Adds w [] (checkAdmission w p user found).1 (checkAdmission w p user found).2 := by
  unfold checkAdmission
  repeat' split
  all_goals exact adds_nothing rfl rfl

theorem connectResume_adds {w w' : World} {p : Nat} {f : ConnectFrame} {a : Answer} {f' : Frame}
    {calls : List GaugeCall} (prepared : ConnectPrepared f) (made : FrameCalls (.connect f) calls)
    (saved : savesActive (.connect f) = true → a ≠ .raised)
    (h : connectResume w p f a = some (w', f')) : Adds w calls w' f' := by
  cases connectResume_cases h with
  | noCookie | accepted | savedConnecting | opened =>
      obtain rfl : calls = [] := made
      exact adds_nothing rfl rfl
  | acceptFailed | rejected | loadFailed =>
      obtain rfl : calls = [] := made
      exact adds_nothing rfl (Or.inl rfl)
  | loaded user id cookie found =>
      obtain rfl : calls = [] := made
      exact checkAdmission_adds w p user found
  | saveConnectingFailed c =>
      obtain rfl : calls = [] := made
      exact cleanup_unopened p (by simp [prepared.1])
  | openFailed c c' a caught =>
      obtain rfl : calls = [] := made
      exact cleanup_unopened p (by simp [connectFailed_session caught, prepared.1])
  | savedActive c =>
      obtain rfl : calls = [] := made
      exact ⟨some (1, c.gaugeAttributes), rfl, rfl⟩
  -- Nothing has been added yet, and the `finally` block is going to subtract.
  | saveActiveFailed => exact absurd rfl (saved rfl)
  | relayEnded | lateRelayEnded =>
      obtain rfl := made
      exact adds_nothing rfl (by simp [FrameCalls])
  | relayWoken | relayRaised =>
      obtain rfl := made
      exact adds_nothing rfl rfl
  | closed c =>
      obtain rfl := made
      exact cleanup_opened p prepared
  | closeFailed c =>
      obtain rfl := made
      have active : c.session.row.status = .active := prepared
      exact @cleanup_opened w p { c with raising := true } active
  | savedFailed | savedFailedRecording | recordedError | savedIdle | saveFailedRaised
  | recordingRaised | saveIdleRaised | clientClosed | clientCloseFailed =>
      exact adds_nothing_takenBack rfl rfl (made.takenBack rfl)

theorem frameCalls_nil {f : Frame} (other : f.kind ≠ .connect) : FrameCalls f [] := by
  cases f with
  | connect => exact absurd rfl other
  | finished => exact Or.inl rfl
  | ending | request | start | watch => rfl

theorem resumeFrame_gauge {cfg : Config} {w w' : World} {p : Nat} {f f' : Frame} {a : Answer}
    (other : f.kind ≠ .connect) (h : resumeFrame cfg w p f a = some (w', f')) :
    w'.activeSessions = w.activeSessions := by
  cases f with
  | connect => exact absurd rfl other
  | ending f => cases endResume_cases h <;> rfl
  | request f =>
      obtain ⟨next, -, same⟩ := Option.map_eq_some_iff.mp h
      obtain ⟨rfl, -⟩ := Prod.mk.inj same
      rfl
  | start f => cases startResume_cases h <;> rfl
  | watch f => cases watchResume_cases h <;> rfl
  | finished => contradiction

theorem resumeFrame_adds {cfg : Config} {w w' : World} {p : Nat} {f f' : Frame} {a : Answer}
    {calls : List GaugeCall} (prepared : Prepared f) (made : FrameCalls f calls)
    (saved : savesActive f = true → a ≠ .raised)
    (h : resumeFrame cfg w p f a = some (w', f')) : Adds w calls w' f' := by
  by_cases connects : f.kind = .connect
  · cases f with
    | connect f => exact connectResume_adds prepared made saved h
    | ending | request | start | watch | finished => contradiction
  · have next := resumeFrame_kind h
    have other : f'.kind ≠ .connect := by
      intro same
      rw [same] at next
      cases f <;> simp_all [Frame.kind, Kind.next]
    have none : calls = [] := by
      cases f with
      | connect => exact absurd rfl connects
      | finished => contradiction
      | ending | request | start | watch => exact made
    subst none
    exact adds_nothing (resumeFrame_gauge connects h) (frameCalls_nil other)

theorem FirstFrame.closed {f : Frame} (first : FirstFrame f) : isOpen f = false := by
  cases first <;> rfl

theorem FirstFrame.calls {f : Frame} (first : FirstFrame f) : FrameCalls f [] := by
  cases first with
  | finished => exact Or.inl rfl
  | _ => rfl

/-! ## Whole runs -/

structure GaugeKept (st : State) (calls : List (Nat × GaugeCall)) : Prop where
  recorded : st.world.activeSessions = calls.map Prod.snd
  value : st.world.gauge = st.tasks.countP fun t => isOpen t.frame
  made : ∀ p t, st.tasks[p]? = some t → TaskCalls t (callsOf calls p)
  absent : ∀ p, st.tasks[p]? = none → callsOf calls p = []

theorem callsOf_append_self (calls : List (Nat × GaugeCall)) (p : Nat) (o : Option GaugeCall) :
    callsOf (calls ++ (o.map fun call => (p, call)).toList) p = callsOf calls p ++ o.toList := by
  cases o <;> simp [callsOf]

theorem callsOf_append_other (calls : List (Nat × GaugeCall)) {p q : Nat} (other : q ≠ p)
    (o : Option GaugeCall) :
    callsOf (calls ++ (o.map fun call => (p, call)).toList) q = callsOf calls q := by
  cases o <;> simp [callsOf, Ne.symm other]

theorem gaugeCall_resumed {cfg : Config} {st st' : State} {act : Action} {p : Nat} {f : Frame}
    {a : Answer} {added : Option GaugeCall} (resumed : st.resumed act = some (p, f, a))
    (taken : step cfg st act = some st')
    (adds : st'.world.activeSessions = st.world.activeSessions ++ added.toList) :
    gaugeCall cfg st act = added.map fun call => (p, call) := by
  simp only [gaugeCall, resumed, taken, adds, List.drop_left]
  cases added <;> rfl

theorem gaugeCall_still {cfg : Config} {st : State} {act : Action}
    (still : st.resumed act = none) : gaugeCall cfg st act = none := by
  simp [gaugeCall, still]

section

variable {cfg : Config} {st st' : State} {calls : List (Nat × GaugeCall)} {act : Action}

theorem gaugeKept_resumed {p : Nat} {f next : Frame} {a : Answer} {b : Option Answer}
    (kept : GaugeKept st calls) (prepared : Prepared f) (task : st.tasks[p]? = some ⟨f, b⟩)
    (saved : savesActive f = true → a ≠ .raised)
    (effect : resumeFrame cfg st.world p f a = some (st'.world, next))
    (tasks : st'.tasks = st.tasks.set p ⟨next, none⟩) (resumed : st.resumed act = some (p, f, a))
    (taken : step cfg st act = some st') :
    GaugeKept st' (calls ++ (gaugeCall cfg st act).toList) := by
  have made : FrameCalls f (callsOf calls p) := (kept.made p _ task).frame
  obtain ⟨added, adds, made'⟩ := resumeFrame_adds prepared made saved effect
  rw [gaugeCall_resumed resumed taken adds]
  refine ⟨?_, ?_, ?_, ?_⟩
  · rw [adds, kept.recorded]
    cases added <;> simp
  · have moved := countP_set_acting (t := (⟨next, none⟩ : Task)) (fun t => isOpen t.frame) task
    have before := made.sum
    have after := made'.sum
    have value := kept.value
    simp only [World.gauge, adds, tasks, List.map_append, List.sum_append] at moved value after ⊢
    omega
  · rw [tasks]
    refine forall_set ?_ fun q t other old => ?_
    · rw [callsOf_append_self]
      exact ⟨made', fun _ => by simp⟩
    · rw [callsOf_append_other calls other]
      exact kept.made q t old
  · intro q outside
    rw [tasks, List.getElem?_eq_none_iff, List.length_set, ← List.getElem?_eq_none_iff] at outside
    have other : q ≠ p := by
      rintro rfl
      rw [task] at outside
      contradiction
    rw [callsOf_append_other calls other]
    exact kept.absent q outside

theorem gaugeKept_answered {p : Nat} {f : Frame} {a : Answer} (kept : GaugeKept st calls)
    (task : st.tasks[p]? = some ⟨f, none⟩) (saved : savesActive f = true → a ≠ .raised)
    (world : st'.world = st.world) (tasks : st'.tasks = st.tasks.set p ⟨f, some a⟩) :
    GaugeKept st' calls := by
  refine ⟨by rw [world]; exact kept.recorded, ?_, ?_, ?_⟩
  · have moved := countP_set_acting (t := (⟨f, some a⟩ : Task)) (fun t => isOpen t.frame) task
    have value := kept.value
    simp only at moved
    rw [world, tasks]
    omega
  · rw [tasks]
    refine forall_set ⟨(kept.made p _ task).frame, fun saves => ?_⟩ fun q t _ => kept.made q t
    simpa using saved saves
  · intro q outside
    rw [tasks, List.getElem?_eq_none_iff, List.length_set, ← List.getElem?_eq_none_iff] at outside
    exact kept.absent q outside

theorem perform_save_saved {db : Db} {p : Nat} {f : Frame} {op : DbOp}
    (awaits : frameOp f = some op) (saves : savesActive f = true) :
    (db.perform cfg p op).2 ≠ .raised := by
  unfold savesActive at saves
  split at saves
  next c =>
    obtain rfl := Option.some.inj awaits
    simp [Db.perform]
  next => contradiction

theorem gaugeKept_step (kept : GaugeKept st calls) (prepared : AllPrepared st)
    (saved : ActiveSaved st act st') (taken : step cfg st act = some st') :
    GaugeKept st' (calls ++ (gaugeCall cfg st act).toList) := by
  cases step_cases taken with
  | request r =>
      rw [gaugeCall_still rfl, Option.toList_none, List.append_nil]
      have first := startRequest_first cfg st.world r
      have new : callsOf calls st.tasks.length = [] := kept.absent _ (by simp)
      refine ⟨kept.recorded, ?_, ?_, ?_⟩
      · simpa [backend, first.closed] using kept.value
      · refine forall_spawn ?_ kept.made
        rw [new]
        exact ⟨first.calls, fun _ => by simp⟩
      · intro q outside
        refine kept.absent q ?_
        rw [List.getElem?_eq_none_iff, List.length_append] at outside
        rw [List.getElem?_eq_none_iff]
        omega
  | execute p f op db a task awaits effect =>
      rw [gaugeCall_still rfl, Option.toList_none, List.append_nil]
      obtain ⟨-, rfl, rfl⟩ := perform_of_effect effect
      exact gaugeKept_answered kept task (perform_save_saved awaits) rfl rfl
  | raise p f op a task awaits effect =>
      rw [gaugeCall_still rfl, Option.toList_none, List.append_nil]
      refine gaugeKept_answered kept task (fun saves => ?_) rfl rfl
      have spared := saved f (State.frame?_of_task task)
      rw [saves] at spared
      contradiction
  | resume p f next a world task effect =>
      refine gaugeKept_resumed kept (prepared p f (State.frame?_of_task task)) task ?_ effect rfl
        (State.resumed_resume task) taken
      exact fun saves raised => (kept.made p _ task).saved saves (congrArg some raised)
  | answer p f next a world task awaits effect =>
      refine gaugeKept_resumed kept (prepared p f (State.frame?_of_task task)) task ?_ effect rfl
        (State.resumed_answer a task) taken
      intro saves
      unfold savesActive at saves
      split at saves <;> contradiction
  | tick time =>
      rw [gaugeCall_still rfl, Option.toList_none, List.append_nil]
      exact ⟨kept.recorded, kept.value, kept.made, kept.absent⟩

end

theorem gaugeKept_init (sessions : SessionTable) (apps : AppTable) (now : Int) :
    GaugeKept (init sessions apps now) [] where
  recorded := rfl
  value := rfl
  made := fun p t task => by simp [init] at task
  absent := fun _ _ => rfl

theorem GaugeKept.counts {st : State} {calls : List (Nat × GaugeCall)}
    (kept : GaugeKept st calls) : GaugeCounts calls st where
  recorded := kept.recorded
  value := by
    rw [kept.value, openHandlers, countP_eq_range]
    refine congrArg Nat.cast (List.countP_congr fun p inside => ?_)
    have bound : p < st.tasks.length := List.mem_range.mp inside
    have task : st.tasks[p]? = some st.tasks[p] := List.getElem?_eq_getElem bound
    rw [State.frame?_of_task task, task]
    simp [(kept.made p _ task).frame.open_iff]
  takenBack := by
    intro p f frame left
    obtain ⟨t, task, rfl⟩ := Option.map_eq_some_iff.mp frame
    exact (kept.made p t task).frame.takenBack left

/--
In every run of a process in which no save of ACTIVE raises, whatever else fails or is
cancelled, the gauge counts the handlers that are relaying.
-/
theorem gaugeCounts_of_activeSaved (cfg : Config) (sessions : SessionTable) (apps : AppTable)
    (now : Int) (acts : List Action)
    (saved : Along cfg ActiveSaved (init sessions apps now) acts) :
    ∀ pre post t, acts = pre ++ post → run cfg (init sessions apps now) pre = some t →
      GaugeCounts (Runs.trace (step cfg) (gaugeCall cfg) (init sessions apps now) pre) t := by
  rintro pre post t rfl reached
  have kept : AllPrepared t ∧ GaugeKept t
      ([] ++ Runs.trace (step cfg) (gaugeCall cfg) (init sessions apps now) pre) := by
    refine Runs.invariant_trace (fun st calls => AllPrepared st ∧ GaugeKept st calls) ?_
      ⟨allPrepared_init sessions apps now, gaugeKept_init sessions apps now⟩
      (saved.append reached).1 reached
    rintro st calls act st' ⟨prepared, kept⟩ saved taken
    exact ⟨allPrepared_step prepared taken, gaugeKept_step kept prepared saved taken⟩
  exact kept.2.counts

def opening : List Action :=
  Sample.accepted 0 ++
    [.execute 0, .resume 0, .execute 0, .resume 0, .answer 0 .connected]

def connection : List Action :=
  -- A client connects, and closes its connection.
  opening ++
    [.execute 0, .resume 0, .answer 0 (.relayEnded .consumer (.disconnect 1000 none)),
      .answer 0 .relayWoken, .answer 0 .done, .execute 0, .resume 0, .answer 0 .done]

theorem gaugeCounts_connection :
    GaugeCounts (Runs.trace (step (Sample.config 1)) (gaugeCall (Sample.config 1))
        (Sample.start none 0) connection)
      ((run (Sample.config 1) (Sample.start none 0) connection).get (by decide)) :=
  gaugeCounts_of_activeSaved (Sample.config 1) _ _ 0 connection (by decide) connection [] _
    (List.append_nil _).symm (Option.some_get _).symm

/-- The database fails when ACTIVE is to be saved: the gauge falls to -1. -/
def unsaved : List Action := opening ++ [.raise 0, .resume 0, .answer 0 .done]

theorem gaugeCounts_fails :
    ¬ ∀ pre post t, unsaved = pre ++ post →
      run (Sample.config 1) (Sample.start none 0) pre = some t →
        GaugeCounts (Runs.trace (step (Sample.config 1)) (gaugeCall (Sample.config 1))
          (Sample.start none 0) pre) t := by
  intro counts
  have here := counts unsaved [] _ (List.append_nil _).symm rfl
  exact absurd here.value (by decide)

end StreamingPortal.Sessions
