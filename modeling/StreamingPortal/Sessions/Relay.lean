import StreamingPortal.Sessions.Connect
import StreamingPortal.Shared.Pump

set_option autoImplicit false

/-!
# The relay of a stream

`consumer` and `producer` of `connect_to_stream`, while both connections stay open and no send
fails.
-/

namespace StreamingPortal.Sessions.Relay

open StreamingPortal.Pump

inductive Message
  | text (content : String)
  | binary (data : List UInt8)
deriving DecidableEq

def Message.isText : Message → Bool
  | .text _ => true
  | .binary _ => false

-- `websocket.receive_text`, which raises for a binary frame.
def receiveText : Message → Option String
  | .text content => some content
  | .binary _ => none

-- `forward_to.send` of a `str`.
def consumer : Loop Message String Message := ⟨receiveText, .text⟩

-- `forward_to.recv`; then `send_text` of a `str` or `send_bytes`.
def producer : Loop Message Message Message where
  receive := some
  send
    | .text content => .text content
    | .binary data => .binary data

structure State where
  consumer : Pump.State Message String Message
  producer : Pump.State Message Message Message
  -- `asyncio.wait` has returned, and the task that had not raised is cancelled.
  woken : Bool

def start : State := ⟨Pump.start, Pump.start, false⟩

inductive Action
  | client (frame : Message)
  | nvcf (frame : Message)
  | consume
  | produce
  | wake
deriving DecidableEq

def Action.client? : Action → Option Message
  | .client frame => some frame
  | _ => none

def Action.nvcf? : Action → Option Message
  | .nvcf frame => some frame
  | _ => none

def raised {β : Type} : Phase β → Bool
  | .raised => true
  | _ => false

def cancelPending {β : Type} (task : Pump.State Message β Message) : Pump.State Message β Message :=
  if raised task.phase then task else task.cancel

def step (st : State) : Action → Option State
  | .client frame => some { st with consumer := st.consumer.offer frame }
  | .nvcf frame => some { st with producer := st.producer.offer frame }
  | .consume => (Pump.step consumer st.consumer).map fun task => { st with consumer := task }
  | .produce => (Pump.step producer st.producer).map fun task => { st with producer := task }
  | .wake =>
      if raised st.consumer.phase ∨ raised st.producer.phase then
        some ⟨cancelPending st.consumer, cancelPending st.producer, true⟩
      else none

abbrev run : State → List Action → Option State := Runs.run step

def Action.isLoop : Action → Bool
  | .consume | .produce => true
  | _ => false

-- The two tasks have nothing more to do.
def Settled (st : State) : Prop := ∀ act : Action, act.isLoop = true → step st act = none

/--
Both directions have sent on what came, in order and unchanged, and whenever the tasks have
nothing more to do they have sent on everything.
-/
structure Transparent (st : State) : Prop where
  running : st.woken = false ∧ raised st.consumer.phase = false ∧ raised st.producer.phase = false
  toNvcf : st.consumer.sent <+: st.consumer.offered
  toClient : st.producer.sent <+: st.producer.offered
  settles : ∃ acts st', (∀ act ∈ acts, act.isLoop = true) ∧ run st acts = some st' ∧ Settled st'
  delivers : ∀ acts st', (∀ act ∈ acts, act.isLoop = true) → run st acts = some st' → Settled st' →
    st'.consumer.sent = st.consumer.offered ∧ st'.producer.sent = st.producer.offered

/-! ## What both tasks keep -/

structure Inv (st : State) : Prop where
  consumer : Accounted consumer st.consumer
  producer : Accounted producer st.producer
  cause : st.woken = true → st.consumer.phase = .raised ∨ st.producer.phase = .raised
  pending : st.woken = false → st.consumer.phase ≠ .cancelled ∧ st.producer.phase ≠ .cancelled

theorem raised_iff {β : Type} {phase : Phase β} : raised phase = true ↔ phase = .raised := by
  cases phase <;> simp [raised]

theorem accounted_cancelPending {β : Type} {L : Loop Message β Message}
    {task : Pump.State Message β Message} (accounted : Accounted L task) :
    Accounted L (cancelPending task) := by
  unfold cancelPending
  split
  next => exact accounted
  next => exact accounted_cancel accounted

theorem cancelPending_raised {β : Type} {task : Pump.State Message β Message}
    (failed : raised task.phase = true) : (cancelPending task).phase = .raised := by
  rw [cancelPending, if_pos failed]
  exact raised_iff.mp failed

-- A task that has raised takes no step.
theorem step_not_raised {β : Type} {L : Loop Message β Message}
    {task task' : Pump.State Message β Message} (taken : Pump.step L task = some task') :
    task.phase ≠ .raised := by
  intro failed
  simp [Pump.step, failed] at taken

theorem inv_start : Inv start := ⟨accounted_start, accounted_start, nofun, fun _ => ⟨nofun, nofun⟩⟩

theorem inv_step {st st' : State} {act : Action} (inv : Inv st) (taken : step st act = some st') :
    Inv st' := by
  cases act with
  | client frame =>
      obtain rfl := Option.some.inj taken
      exact ⟨accounted_offer inv.consumer frame, inv.producer, inv.cause, inv.pending⟩
  | nvcf frame =>
      obtain rfl := Option.some.inj taken
      exact ⟨inv.consumer, accounted_offer inv.producer frame, inv.cause, inv.pending⟩
  | consume =>
      obtain ⟨task, moved, rfl⟩ := Option.map_eq_some_iff.mp taken
      refine ⟨accounted_step inv.consumer moved, inv.producer, ?_, ?_⟩
      next =>
        intro woken
        exact Or.inr ((inv.cause woken).resolve_left (step_not_raised moved))
      next => exact fun running => ⟨not_cancelled_step moved, (inv.pending running).2⟩
  | produce =>
      obtain ⟨task, moved, rfl⟩ := Option.map_eq_some_iff.mp taken
      refine ⟨inv.consumer, accounted_step inv.producer moved, ?_, ?_⟩
      next =>
        intro woken
        exact Or.inl ((inv.cause woken).resolve_right (step_not_raised moved))
      next => exact fun running => ⟨(inv.pending running).1, not_cancelled_step moved⟩
  | wake =>
      simp only [step] at taken
      split at taken
      next failed =>
        obtain rfl := Option.some.inj taken
        refine ⟨accounted_cancelPending inv.consumer, accounted_cancelPending inv.producer, ?_,
          nofun⟩
        exact fun _ => failed.imp cancelPending_raised cancelPending_raised
      next => contradiction

theorem inv_run {st st' : State} {acts : List Action} (inv : Inv st)
    (reached : run st acts = some st') : Inv st' :=
  Runs.invariant Inv (fun _ _ _ inv _ taken => inv_step inv taken) inv (Runs.along_trivial acts)
    reached

theorem offered_step {st st' : State} {act : Action} (taken : step st act = some st') :
    st'.consumer.offered = st.consumer.offered ++ act.client?.toList ∧
      st'.producer.offered = st.producer.offered ++ act.nvcf?.toList := by
  cases act with
  | client frame | nvcf frame =>
      obtain rfl := Option.some.inj taken
      simp [Action.client?, Action.nvcf?, State.offer]
  | consume =>
      obtain ⟨task, moved, rfl⟩ := Option.map_eq_some_iff.mp taken
      simp [Action.client?, Action.nvcf?, Pump.offered_step moved]
  | produce =>
      obtain ⟨task, moved, rfl⟩ := Option.map_eq_some_iff.mp taken
      simp [Action.client?, Action.nvcf?, Pump.offered_step moved]
  | wake =>
      have kept {β : Type} (task : Pump.State Message β Message) :
          (cancelPending task).offered = task.offered := by
        unfold cancelPending
        split <;> rfl
      simp only [step] at taken
      split at taken
      next =>
        obtain rfl := Option.some.inj taken
        simp [Action.client?, Action.nvcf?, kept]
      next => contradiction

theorem offered_run {st st' : State} {acts : List Action} (reached : run st acts = some st') :
    st'.consumer.offered = st.consumer.offered ++ acts.filterMap Action.client? ∧
      st'.producer.offered = st.producer.offered ++ acts.filterMap Action.nvcf? := by
  induction acts generalizing st with
  | nil =>
      obtain rfl := Option.some.inj reached
      simp
  | cons act acts ih =>
      obtain ⟨next, first, rest⟩ := Runs.run_cons.mp reached
      obtain ⟨client, nvcf⟩ := offered_step first
      obtain ⟨clients, nvcfs⟩ := ih rest
      rw [clients, nvcfs, client, nvcf]
      cases act <;> simp [Action.client?, Action.nvcf?, List.filterMap_cons]

-- The tasks' own steps bring nothing new.
theorem offered_loops {st st' : State} {acts : List Action}
    (loops : ∀ act ∈ acts, act.isLoop = true) (reached : run st acts = some st') :
    st'.consumer.offered = st.consumer.offered ∧ st'.producer.offered = st.producer.offered := by
  have quiet (act : Action) (member : act ∈ acts) : act.client? = none ∧ act.nvcf? = none := by
    have loop := loops act member
    cases act <;> first | contradiction | exact ⟨rfl, rfl⟩
  obtain ⟨client, nvcf⟩ := offered_run reached
  rw [client, nvcf, List.filterMap_eq_nil_iff.mpr fun act member => (quiet act member).1,
    List.filterMap_eq_nil_iff.mpr fun act member => (quiet act member).2]
  simp

/-! ## Text frames only -/

theorem consumer_text {frame : Message} (text : frame.isText = true) :
    consumer.relay frame = some frame := by
  cases frame with
  | text content => rfl
  | binary data => contradiction

theorem producer_relay (frame : Message) : producer.relay frame = some frame := by
  cases frame <;> rfl

theorem isText_of_sent {st : State} (inv : Inv st) {frame : Message}
    (sent : frame ∈ st.consumer.sent) : frame.isText = true := by
  obtain ⟨origin, relayed⟩ := mem_sent inv.consumer sent
  cases origin with
  | text content =>
      obtain rfl := Option.some.inj relayed
      rfl
  | binary data => contradiction

section Text

variable {st : State}

theorem running_of_text (inv : Inv st)
    (text : ∀ frame ∈ st.consumer.offered, frame.isText = true) :
    st.woken = false ∧ st.consumer.phase ≠ .raised ∧ st.producer.phase ≠ .raised := by
  have received : st.consumer.phase ≠ .raised := by
    apply not_raised inv.consumer
    intro frame member
    cases frame with
    | text content => rfl
    | binary data => exact absurd (text _ member) Bool.false_ne_true
  have forwarded : st.producer.phase ≠ .raised := not_raised inv.producer fun _ _ => rfl
  refine ⟨?_, received, forwarded⟩
  by_contra woken
  rcases inv.cause (Bool.not_eq_false _ ▸ woken) with failed | failed
  · exact received failed
  · exact forwarded failed

theorem settled_delivers (inv : Inv st)
    (text : ∀ frame ∈ st.consumer.offered, frame.isText = true) (settled : Settled st) :
    st.consumer.sent = st.consumer.offered ∧ st.producer.sent = st.producer.offered := by
  obtain ⟨asleep, received, forwarded⟩ := running_of_text inv text
  obtain ⟨consuming, producing⟩ := inv.pending asleep
  constructor
  next =>
    exact settled_sent inv.consumer (fun frame member => consumer_text (text frame member))
      ⟨received, consuming⟩ (Option.map_eq_none_iff.mp (settled .consume rfl))
  next =>
    exact settled_sent inv.producer (fun frame _ => producer_relay frame) ⟨forwarded, producing⟩
      (Option.map_eq_none_iff.mp (settled .produce rfl))

end Text

-- Each step of a task leaves it fewer steps.
theorem settles (st : State) : ∃ acts st', (∀ act ∈ acts, act.isLoop = true) ∧
    run st acts = some st' ∧ Settled st' := by
  induction steps : st.consumer.remaining + st.producer.remaining using Nat.strongRecOn
    generalizing st with
  | ind total ih =>
      by_cases settled : Settled st
      next => exact ⟨[], st, by simp, rfl, settled⟩
      next =>
        have moves : ∃ act next, act.isLoop = true ∧ step st act = some next ∧
            next.consumer.remaining + next.producer.remaining < total := by
          unfold Settled at settled
          push Not at settled
          obtain ⟨act, loop, enabled⟩ := settled
          obtain ⟨next, taken⟩ := Option.ne_none_iff_exists'.mp enabled
          refine ⟨act, next, loop, taken, ?_⟩
          cases act with
          | consume | produce =>
              obtain ⟨task, moved, rfl⟩ := Option.map_eq_some_iff.mp taken
              have fewer := remaining_step moved
              simp only
              omega
          | client | nvcf | wake => contradiction
        obtain ⟨act, next, loop, taken, fewer⟩ := moves
        obtain ⟨acts, st', loops, reached, settled'⟩ := ih _ fewer next rfl
        exact ⟨act :: acts, st', List.forall_mem_cons.mpr ⟨loop, loops⟩,
          Runs.run_cons.mpr ⟨next, taken, reached⟩, settled'⟩

theorem transparent_of_inv {st : State} (inv : Inv st) :
    Transparent st ↔ ∀ frame ∈ st.consumer.offered, frame.isText = true := by
  constructor
  next =>
    intro transparent frame offered
    obtain ⟨acts, st', loops, reached, settled⟩ := transparent.settles
    obtain ⟨delivered, -⟩ := transparent.delivers acts st' loops reached settled
    rw [← delivered] at offered
    exact isText_of_sent (inv_run inv reached) offered
  next =>
    intro text
    obtain ⟨asleep, received, forwarded⟩ := running_of_text inv text
    constructor
    next =>
      refine ⟨asleep, ?_, ?_⟩
      next => exact Bool.eq_false_iff.mpr fun failed => received (raised_iff.mp failed)
      next => exact Bool.eq_false_iff.mpr fun failed => forwarded (raised_iff.mp failed)
    next => exact sent_prefix inv.consumer fun frame member => consumer_text (text frame member)
    next => exact sent_prefix inv.producer fun frame _ => producer_relay frame
    next => exact settles st
    next =>
      intro acts st' loops reached settled
      obtain ⟨client, nvcf⟩ := offered_loops loops reached
      rw [← client] at text ⊢
      rw [← nvcf]
      exact settled_delivers (inv_run inv reached) text settled

/-! ## `connect_to_stream` meanwhile -/

-- The frame that the handler waits in.
def frame (c : Connection) (st : State) : ConnectFrame :=
  if st.woken then .closingUpstream c true true
  else .relaying c (raised st.consumer.phase) (raised st.producer.phase)

theorem raised_of_step {β : Type} {L : Loop Message β Message}
    {task task' : Pump.State Message β Message} (taken : Pump.step L task = some task') :
    raised task.phase = false := by
  rw [Bool.eq_false_iff]
  exact fun failed => step_not_raised taken (raised_iff.mp failed)

/-- The handler stands still, or hears of an exception, or wakes up and closes the connection. -/
theorem step_connect {st st' : State} {act : Action} (taken : step st act = some st') (w : World)
    (p : Nat) (c : Connection) :
    frame c st' = frame c st ∨
      ∃ a, connectResume w p (frame c st) a = some (w, .connect (frame c st')) := by
  cases woken : st.woken with
  | true =>
      have still : st'.woken = true := by
        cases act with
        | client | nvcf =>
            obtain rfl := Option.some.inj taken
            exact woken
        | consume | produce =>
            obtain ⟨task, -, rfl⟩ := Option.map_eq_some_iff.mp taken
            exact woken
        | wake =>
            simp only [step] at taken
            split at taken
            next =>
              obtain rfl := Option.some.inj taken
              rfl
            next => contradiction
      simp [frame, woken, still]
  | false =>
      cases act with
      | client | nvcf =>
          obtain rfl := Option.some.inj taken
          exact Or.inl rfl
      | consume =>
          obtain ⟨task, moved, rfl⟩ := Option.map_eq_some_iff.mp taken
          have before := raised_of_step moved
          cases after : raised task.phase with
          | false => simp [frame, before, after]
          | true =>
              refine Or.inr ⟨.relayEnded .consumer .other, ?_⟩
              simp [frame, woken, before, after, connectResume, Connection.relayFailed]
      | produce =>
          obtain ⟨task, moved, rfl⟩ := Option.map_eq_some_iff.mp taken
          have before := raised_of_step moved
          cases after : raised task.phase with
          | false => simp [frame, before, after]
          | true =>
              refine Or.inr ⟨.relayEnded .producer .other, ?_⟩
              cases consumed : raised st.consumer.phase <;>
                simp [frame, woken, before, after, consumed, connectResume, Connection.relayFailed]
      | wake =>
          simp only [step] at taken
          split at taken
          next failed =>
            obtain rfl := Option.some.inj taken
            refine Or.inr ⟨.relayWoken, ?_⟩
            have done : (raised st.consumer.phase || raised st.producer.phase) = true :=
              Bool.or_eq_true_iff.mpr failed
            simp [frame, woken, connectResume, done]
          next => contradiction

/-! ## The relay -/

/-- The relay is transparent exactly as long as the client sends text frames only. -/
theorem transparent_iff (acts : List Action) (st : State) (reached : run start acts = some st) :
    Transparent st ↔ ∀ frame, .client frame ∈ acts → frame.isText = true := by
  rw [transparent_of_inv (inv_run inv_start reached), (offered_run reached).1]
  have offered (frame : Message) :
      frame ∈ start.consumer.offered ++ acts.filterMap Action.client? ↔ .client frame ∈ acts := by
    simp only [start, Pump.start, List.nil_append, List.mem_filterMap]
    constructor
    next =>
      rintro ⟨act, member, same⟩
      cases act with
      | client other =>
          obtain rfl := Option.some.inj same
          exact member
      | nvcf | consume | produce | wake => contradiction
    next => exact fun member => ⟨_, member, rfl⟩
  simp only [offered]

theorem transparent_offer :
    ∃ st, run start [.client (.text "offer"), .nvcf (.binary [1]), .produce, .consume] = some st ∧
      Transparent st := by
  refine ⟨_, rfl, (transparent_iff
    [.client (.text "offer"), .nvcf (.binary [1]), .produce, .consume] _ rfl).mpr ?_⟩
  intro frame sent
  obtain rfl : frame = .text "offer" := by simpa using sent
  rfl

/-- A binary frame of the client ends the session, and the frame after it never arrives. -/
theorem binary_ends :
    ∃ st, run start [.client (.binary [1]), .client (.text "offer"), .consume, .wake] = some st ∧
      st.woken = true ∧ st.consumer.sent = [] ∧ Settled st ∧ ¬ Transparent st := by
  refine ⟨_, rfl, rfl, rfl, ?_, ?_⟩
  next =>
    intro act loop
    cases act <;> first | contradiction | rfl
  next =>
    intro transparent
    have running := transparent.running.1
    contradiction

end StreamingPortal.Sessions.Relay
