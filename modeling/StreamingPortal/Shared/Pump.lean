import Mathlib.Data.List.Basic
import Mathlib.Data.Option.Basic

set_option autoImplicit false

/-!
# Loops that receive and send on

A loop takes one message at a time from a queue and sends it on before it takes the next. It
raises where it cannot receive a message, and whoever runs it may cancel it.
-/

namespace StreamingPortal.Pump

universe u v w

variable {α : Type u} {β : Type v} {γ : Type w}

structure Loop (α : Type u) (β : Type v) (γ : Type w) where
  receive : α → Option β
  send : β → γ

inductive Phase (β : Type v)
  | receiving
  | sending (message : β)
  | raised
  | cancelled

structure State (α : Type u) (β : Type v) (γ : Type w) where
  -- All that has been put into the queue so far.
  offered : List α
  queue : List α
  phase : Phase β
  sent : List γ

def start : State α β γ := ⟨[], [], .receiving, []⟩

def State.offer (st : State α β γ) (message : α) : State α β γ :=
  { st with offered := st.offered ++ [message], queue := st.queue ++ [message] }

def State.cancel (st : State α β γ) : State α β γ := { st with phase := .cancelled }

def step (L : Loop α β γ) (st : State α β γ) : Option (State α β γ) :=
  match st.phase, st.queue with
  | .receiving, message :: queue =>
      match L.receive message with
      | some received => some { st with queue := queue, phase := .sending received }
      | none => some { st with queue := queue, phase := .raised }
  | .sending message, _ =>
      some { st with phase := .receiving, sent := st.sent ++ [L.send message] }
  | .receiving, [] | .raised, _ | .cancelled, _ => none

-- What becomes of a message.
def Loop.relay (L : Loop α β γ) (message : α) : Option γ := (L.receive message).map L.send

def Relays (L : Loop α β γ) (messages : List α) (sent : List γ) : Prop :=
  messages.map L.relay = sent.map some

/-- Where all that was offered is. -/
inductive Accounted (L : Loop α β γ) : State α β γ → Prop
  | receiving (taken queue : List α) (sent : List γ) (relays : Relays L taken sent) :
      Accounted L ⟨taken ++ queue, queue, .receiving, sent⟩
  | sending (taken queue : List α) (sent : List γ) (message : α) (received : β)
      (relays : Relays L taken sent) (accepted : L.receive message = some received) :
      Accounted L ⟨taken ++ message :: queue, queue, .sending received, sent⟩
  | raised (taken queue : List α) (sent : List γ) (message : α) (relays : Relays L taken sent)
      (refused : L.receive message = none) :
      Accounted L ⟨taken ++ message :: queue, queue, .raised, sent⟩
  | cancelled (taken rest queue : List α) (sent : List γ) (relays : Relays L taken sent) :
      Accounted L ⟨taken ++ rest, queue, .cancelled, sent⟩

variable {L : Loop α β γ}

theorem accounted_start : Accounted L start := .receiving [] [] [] rfl

theorem accounted_offer {st : State α β γ} (accounted : Accounted L st) (message : α) :
    Accounted L (st.offer message) := by
  cases accounted with
  | receiving taken queue sent relays =>
      rw [State.offer, List.append_assoc]
      exact .receiving taken (queue ++ [message]) sent relays
  | sending taken queue sent current received relays accepted =>
      rw [State.offer, List.append_assoc, List.cons_append]
      exact .sending taken (queue ++ [message]) sent current received relays accepted
  | raised taken queue sent current relays refused =>
      rw [State.offer, List.append_assoc, List.cons_append]
      exact .raised taken (queue ++ [message]) sent current relays refused
  | cancelled taken rest queue sent relays =>
      rw [State.offer, List.append_assoc]
      exact .cancelled taken (rest ++ [message]) (queue ++ [message]) sent relays

theorem accounted_cancel {st : State α β γ} (accounted : Accounted L st) :
    Accounted L st.cancel := by
  cases accounted with
  | receiving taken queue sent relays | cancelled taken queue _ sent relays =>
      exact .cancelled taken queue _ sent relays
  | sending taken queue sent message _ relays | raised taken queue sent message relays =>
      exact .cancelled taken (message :: queue) queue sent relays

theorem relays_concat {taken : List α} {sent : List γ} {message : α} {received : β}
    (relays : Relays L taken sent) (accepted : L.receive message = some received) :
    Relays L (taken ++ [message]) (sent ++ [L.send received]) := by
  unfold Relays at relays ⊢
  rw [List.map_append, List.map_append, relays]
  simp [Loop.relay, accepted]

theorem accounted_step {st st' : State α β γ} (accounted : Accounted L st)
    (taken : step L st = some st') : Accounted L st' := by
  cases accounted with
  | receiving earlier queue sent relays =>
      cases queue with
      | nil => contradiction
      | cons message queue =>
          simp only [step] at taken
          split at taken
          next received accepted =>
            obtain rfl := Option.some.inj taken
            exact .sending earlier queue sent message received relays accepted
          next refused =>
            obtain rfl := Option.some.inj taken
            exact .raised earlier queue sent message relays refused
  | sending earlier queue sent message received relays accepted =>
      obtain rfl := Option.some.inj taken
      have next := Accounted.receiving (earlier ++ [message]) queue _
        (relays_concat relays accepted)
      rwa [← List.append_cons] at next
  | raised | cancelled => contradiction

theorem offered_step {st st' : State α β γ} (taken : step L st = some st') :
    st'.offered = st.offered := by
  unfold step at taken
  split at taken
  next =>
    split at taken <;> (obtain rfl := Option.some.inj taken; rfl)
  next =>
    obtain rfl := Option.some.inj taken
    rfl
  all_goals contradiction

theorem not_cancelled_step {st st' : State α β γ} (taken : step L st = some st') :
    st'.phase ≠ .cancelled := by
  unfold step at taken
  split at taken
  next =>
    split at taken <;> (obtain rfl := Option.some.inj taken; exact nofun)
  next =>
    obtain rfl := Option.some.inj taken
    exact nofun
  all_goals contradiction

theorem mem_sent {st : State α β γ} (accounted : Accounted L st) {message : γ}
    (sent : message ∈ st.sent) : ∃ origin, L.relay origin = some message := by
  have origin {taken : List α} {out : List γ} (relays : Relays L taken out)
      (member : message ∈ out) : ∃ origin, L.relay origin = some message := by
    have image : some message ∈ taken.map L.relay := by
      rw [relays]
      exact List.mem_map_of_mem member
    obtain ⟨origin, -, same⟩ := List.mem_map.mp image
    exact ⟨origin, same⟩
  cases accounted with
  | receiving _ _ _ relays | sending _ _ _ _ _ relays | raised _ _ _ _ relays
  | cancelled _ _ _ _ relays => exact origin relays sent

/-! ## Progress -/

-- The steps that are left, as long as nothing else arrives.
def State.remaining (st : State α β γ) : Nat :=
  2 * st.queue.length + match st.phase with | .sending _ => 1 | _ => 0

theorem remaining_step {st st' : State α β γ} (taken : step L st = some st') :
    st'.remaining < st.remaining := by
  obtain ⟨offered, queue, phase, sent⟩ := st
  cases phase with
  | receiving =>
      cases queue with
      | nil => contradiction
      | cons message queue =>
          simp only [step] at taken
          split at taken <;>
            (obtain rfl := Option.some.inj taken
             simp only [State.remaining, List.length_cons]
             omega)
  | sending message =>
      obtain rfl := Option.some.inj taken
      simp only [State.remaining]
      omega
  | raised | cancelled => contradiction

theorem sent_of_relays {L : Loop α β α} {messages sent : List α}
    (relays : Relays L messages sent)
    (kept : ∀ message ∈ messages, L.relay message = some message) : sent = messages := by
  have same : messages.map L.relay = messages.map some := List.map_congr_left kept
  rw [Relays, same] at relays
  exact ((Option.some_injective α).list_map relays).symm

/-- What has been sent is the beginning of what was offered, each message as it came. -/
theorem sent_prefix {L : Loop α β α} {st : State α β α} (accounted : Accounted L st)
    (kept : ∀ message ∈ st.offered, L.relay message = some message) : st.sent <+: st.offered := by
  cases accounted with
  | receiving taken rest sent relays | cancelled taken rest _ sent relays =>
      refine ⟨rest, ?_⟩
      rw [sent_of_relays relays fun message member => kept message (List.mem_append_left _ member)]
  | sending taken rest sent message _ relays | raised taken rest sent message relays =>
      refine ⟨message :: rest, ?_⟩
      rw [sent_of_relays relays fun message member => kept message (List.mem_append_left _ member)]

theorem not_raised {st : State α β γ} (accounted : Accounted L st)
    (accepts : ∀ message ∈ st.offered, (L.receive message).isSome) : st.phase ≠ .raised := by
  intro raised
  cases accounted with
  | raised taken queue sent message relays refused =>
      have accepted := accepts message (by simp)
      rw [refused] at accepted
      contradiction
  | receiving | sending | cancelled => contradiction

/-- A loop that runs and cannot go on has sent everything on. -/
theorem settled_sent {L : Loop α β α} {st : State α β α} (accounted : Accounted L st)
    (kept : ∀ message ∈ st.offered, L.relay message = some message)
    (running : st.phase ≠ .raised ∧ st.phase ≠ .cancelled) (settled : step L st = none) :
    st.sent = st.offered := by
  cases accounted with
  | receiving taken queue sent relays =>
      cases queue with
      | nil =>
          rw [List.append_nil] at kept ⊢
          exact sent_of_relays relays kept
      | cons message queue =>
          simp only [step] at settled
          split at settled <;> contradiction
  | sending => contradiction
  | raised => exact absurd rfl running.1
  | cancelled => exact absurd rfl running.2

end StreamingPortal.Pump
