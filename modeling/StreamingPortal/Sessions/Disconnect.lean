import StreamingPortal.Sessions.Terminal
import StreamingPortal.Sessions.Connected

set_option autoImplicit false

/-! # What a handler leaves behind when its client is gone -/

namespace StreamingPortal.Sessions

open Tasks

/-! ## The closes a handler is told of -/

def Answer.upstreamFailure : Answer → Bool
  -- NVCF has rejected the handshake or closed the connection abnormally.
  | .relayEnded _ (.upstreamClosed rcvd) => decide ((upstreamCloseFrame rcvd).1 ≠ 1000)
  | .invalidStatus _ (some _) => true
  | .connectTimeout => true
  | _ => false

def Answer.closeCode : Answer → Option Int
  | .relayEnded _ (.disconnect code _) => some code
  | .relayEnded _ (.upstreamClosed rcvd) => some (upstreamCloseFrame rcvd).1
  | .disconnected code _ => some code
  | _ => none

/-- The last close was the client's, with a code between 3000 and 3999, and NVCF has not failed. -/
def ClosedWithApiCode (answers : List Answer) : Prop :=
  (∀ a ∈ answers, a.upstreamFailure = false) ∧
    ∃ code, (answers.filterMap Answer.closeCode).getLast? = some code ∧ 3000 ≤ code ∧ code < 4000

def Recorded (c : Connection) (answers : List Answer) : Prop :=
  -- The locals of the handler summarise the answers it has been given.
  c.upstreamFailed = answers.any Answer.upstreamFailure ∧
    (c.upstreamFailed = false →
      c.code = ((answers.filterMap Answer.closeCode).getLast?).getD 1000)

theorem recorded_closed {c : Connection} {answers : List Answer} (recorded : Recorded c answers) :
    ClosedWithApiCode answers ↔ c.upstreamFailed = false ∧ 3000 ≤ c.code ∧ c.code < 4000 := by
  obtain ⟨failed, code⟩ := recorded
  have quiet : (∀ a ∈ answers, a.upstreamFailure = false) ↔ c.upstreamFailed = false := by
    rw [failed, List.any_eq_false]
    simp
  unfold ClosedWithApiCode
  rw [quiet]
  refine and_congr_right fun upstream => ?_
  rw [code upstream]
  cases (answers.filterMap Answer.closeCode).getLast? with
  | none => simp
  | some last => simp

theorem Recorded.quiet {c : Connection} {answers : List Answer} (recorded : Recorded c answers)
    {a : Answer} (upstream : a.upstreamFailure = false) (open_ : a.closeCode = none) :
    Recorded c (answers ++ [a]) := by
  refine ⟨?_, ?_⟩
  · simpa [upstream] using recorded.1
  · simpa [open_] using recorded.2

theorem closedWithApiCode_quiet {answers : List Answer} {a : Answer}
    (upstream : a.upstreamFailure = false) (open_ : a.closeCode = none) :
    ClosedWithApiCode (answers ++ [a]) ↔ ClosedWithApiCode answers := by
  simp only [ClosedWithApiCode, List.filterMap_append, List.mem_append, List.mem_singleton]
  simp [open_, or_imp, forall_and, upstream]

theorem Recorded.relayFailed {c : Connection} {answers : List Answer}
    (recorded : Recorded c answers) (task : RelayTask) (e : RelayError) :
    Recorded (c.relayFailed e) (answers ++ [.relayEnded task e]) := by
  obtain ⟨failed, code⟩ := recorded
  cases e with
  | other => exact Recorded.quiet ⟨failed, code⟩ rfl rfl
  | disconnect code reason =>
      refine ⟨?_, fun _ => ?_⟩
      · simpa [Connection.relayFailed, Answer.upstreamFailure] using failed
      · simp [Connection.relayFailed, Answer.closeCode]
  | upstreamClosed rcvd =>
      by_cases clean : (upstreamCloseFrame rcvd).1 = 1000
      · refine ⟨?_, fun _ => ?_⟩
        · simpa [Connection.relayFailed, Answer.upstreamFailure, clean] using failed
        · simp [Connection.relayFailed, Answer.closeCode, clean]
      · refine ⟨?_, fun upstream => ?_⟩
        · simp [Connection.relayFailed, Answer.upstreamFailure, clean]
        · simp [Connection.relayFailed, clean] at upstream

theorem Recorded.connectFailed {c c' : Connection} {answers : List Answer} {a : Answer}
    (recorded : Recorded c answers) (caught : connectFailed c a = some c') :
    Recorded c' (answers ++ [a]) := by
  obtain ⟨failed, code⟩ := recorded
  cases a with
  | invalidStatus status body =>
      cases body with
      | none =>
          obtain rfl := Option.some.inj caught
          exact Recorded.quiet (c := { c with raising := true }) ⟨failed, code⟩ rfl rfl
      | some body =>
          obtain rfl := Option.some.inj caught
          exact ⟨by simp [Answer.upstreamFailure], fun upstream => by contradiction⟩
  | connectTimeout =>
      obtain rfl := Option.some.inj caught
      exact ⟨by simp [Answer.upstreamFailure], fun upstream => by contradiction⟩
  | disconnected code reason =>
      obtain rfl := Option.some.inj caught
      refine ⟨?_, fun _ => ?_⟩
      · simpa [Answer.upstreamFailure] using failed
      · simp [Answer.closeCode]
  | raised =>
      obtain rfl := Option.some.inj caught
      exact Recorded.quiet (c := { c with raising := true }) ⟨failed, code⟩ rfl rfl
  | _ => contradiction

/-! ## What the row holds while the handler runs -/

inductive ConnectionEvent
  | answered (a : Answer)
  -- A save by this task has put this status into the row.
  | statusSaved (p : Nat) (status : SessionStatus)

def ConnectionEvent.answer? : ConnectionEvent → Option Answer
  | .answered a => some a
  | .statusSaved _ _ => none

def ConnectionEvent.save? : ConnectionEvent → Option (Nat × SessionStatus)
  | .answered _ => none
  | .statusSaved p status => some (p, status)

/-- What task `p` is resumed with, and the statuses of the session that any task saves. -/
def connectionEvent (p : Nat) (id : String) (st : State) (act : Action) :
    Option ConnectionEvent :=
  match act with
  | .execute q =>
      (((st.frame? q).bind frameOp).bind (DbOp.savedStatus id)).map (.statusSaved q)
  | act =>
      match st.resumed act with
      | some (q, _, a) => if q = p then some (.answered a) else none
      | none => none

def answersIn (events : List ConnectionEvent) : List Answer :=
  events.filterMap ConnectionEvent.answer?

def lastSave (events : List ConnectionEvent) : Option (Nat × SessionStatus) :=
  (events.filterMap ConnectionEvent.save?).getLast?

theorem answersIn_append (events : List ConnectionEvent) (e : Option ConnectionEvent) :
    answersIn (events ++ e.toList) =
      answersIn events ++ (e.bind ConnectionEvent.answer?).toList := by
  cases e with
  | none => simp [answersIn]
  | some e => cases e <;> simp [answersIn, ConnectionEvent.answer?]

theorem lastSave_append (events : List ConnectionEvent) (e : Option ConnectionEvent) :
    lastSave (events ++ e.toList) = (e.bind ConnectionEvent.save?).or (lastSave events) := by
  cases e with
  | none => simp
  | some e => cases e <;> simp [lastSave, ConnectionEvent.save?]

def LastSaved (p : Nat) (last : Option (Nat × SessionStatus)) (expected : SessionStatus) : Prop :=
  -- Somebody has saved a status, and if it was `p`, then it is this one.
  ∃ q status, last = some (q, status) ∧ (q = p → status = expected)

def Settled (status : SessionStatus) : Prop := status = .idle ∨ status ∈ terminalStatuses

instance (status : SessionStatus) : Decidable (Settled status) :=
  inferInstanceAs (Decidable (_ ∨ _))

/-- Where the handler stands, given its answers so far and the last save of a status. -/
inductive Phase (p : Nat) (id : String) (answers : List Answer)
    (last : Option (Nat × SessionStatus)) : Task → Prop
  | connecting (c : Connection) (a : Option Answer) (is : c.session.row.id = id)
      (copy : c.session.row.status = .connecting) (recorded : Recorded c answers)
      (saved : a = none ∨ a = some .saved ∧ LastSaved p last .connecting) :
      Phase p id answers last ⟨.connect (.savingConnecting c), a⟩
  | opening (c : Connection) (is : c.session.row.id = id)
      (copy : c.session.row.status = .connecting) (recorded : Recorded c answers)
      (own : LastSaved p last .connecting) :
      Phase p id answers last ⟨.connect (.openingUpstream c), none⟩
  | activating (c : Connection) (a : Option Answer) (is : c.session.row.id = id)
      (copy : c.session.row.status = .active) (recorded : Recorded c answers)
      (saved : a = none ∨ a = some .saved ∧ LastSaved p last .active) :
      Phase p id answers last ⟨.connect (.savingActive c), a⟩
  | relaying (c : Connection) (d₁ d₂ : Bool) (is : c.session.row.id = id)
      (copy : c.session.row.status = .active) (recorded : Recorded c answers)
      (own : LastSaved p last .active) :
      Phase p id answers last ⟨.connect (.relaying c d₁ d₂), none⟩
  | closing (c : Connection) (d₁ d₂ : Bool) (is : c.session.row.id = id)
      (copy : c.session.row.status = .active) (recorded : Recorded c answers)
      (own : LastSaved p last .active) :
      Phase p id answers last ⟨.connect (.closingUpstream c d₁ d₂), none⟩
  | failing (c : Connection) (a : Option Answer) (is : c.session.row.id = id)
      (copy : c.session.row.status = .failed) (settles : ¬ ClosedWithApiCode answers)
      (saved : a = none ∨ a = some .saved ∧ LastSaved p last .failed) :
      Phase p id answers last ⟨.connect (.savingFailed c), a⟩
  | recording (c : Connection) (truncated : String) (a : Option Answer)
      (settles : ¬ ClosedWithApiCode answers) (own : LastSaved p last .failed)
      (affected : a = none ∨ ∃ n, a = some (.affected n)) :
      Phase p id answers last ⟨.connect (.recordingError c truncated), a⟩
  | idling (c : Connection) (a : Option Answer) (is : c.session.row.id = id)
      (copy : c.session.row.status = .idle) (settles : ¬ ClosedWithApiCode answers)
      (saved : a = none ∨ a = some .saved ∧ LastSaved p last .idle) :
      Phase p id answers last ⟨.connect (.savingIdle c), a⟩
  | left (f : Frame) (expected : SessionStatus)
      (left : (∃ c, f = .connect (.closingClient c)) ∨ ∃ o, f = .finished o)
      (own : LastSaved p last expected)
      (settles : Settled expected ↔ ¬ ClosedWithApiCode answers) :
      Phase p id answers last ⟨f, none⟩

theorem Phase.other_saved {p q : Nat} {id : String} {answers : List Answer}
    {last : Option (Nat × SessionStatus)} {t : Task} (phase : Phase p id answers last t)
    (other : q ≠ p) (status : SessionStatus) : Phase p id answers (some (q, status)) t := by
  have own (expected : SessionStatus) : LastSaved p (some (q, status)) expected :=
    ⟨q, status, rfl, fun same => absurd same other⟩
  cases phase with
  | connecting c a is copy recorded saved =>
      exact .connecting c a is copy recorded (saved.imp_right fun h => ⟨h.1, own _⟩)
  | opening c is copy recorded => exact .opening c is copy recorded (own _)
  | activating c a is copy recorded saved =>
      exact .activating c a is copy recorded (saved.imp_right fun h => ⟨h.1, own _⟩)
  | relaying c d₁ d₂ is copy recorded => exact .relaying c d₁ d₂ is copy recorded (own _)
  | closing c d₁ d₂ is copy recorded => exact .closing c d₁ d₂ is copy recorded (own _)
  | failing c a is copy settles saved =>
      exact .failing c a is copy settles (saved.imp_right fun h => ⟨h.1, own _⟩)
  | recording c truncated a settles _ affected =>
      exact .recording c truncated a settles (own _) affected
  | idling c a is copy settles saved =>
      exact .idling c a is copy settles (saved.imp_right fun h => ⟨h.1, own _⟩)
  | left f expected left _ settles => exact .left f expected left (own _) settles

theorem Phase.executed {p : Nat} {id : String} {answers : List Answer}
    {last : Option (Nat × SessionStatus)} {f : Frame} {op : DbOp}
    (phase : Phase p id answers last ⟨f, none⟩) (awaits : frameOp f = some op)
    (cfg : Config) (db : Db) :
    Phase p id answers (((op.savedStatus id).map (Prod.mk p)).or last)
      ⟨f, some (db.perform cfg p op).2⟩ := by
  have own (expected : SessionStatus) : LastSaved p (some (p, expected)) expected :=
    ⟨p, expected, rfl, fun _ => rfl⟩
  -- The four saves write the status of the copy; the error update writes none.
  cases phase with
  | connecting c _ is copy recorded =>
      obtain rfl := Option.some.inj awaits
      simp only [DbOp.savedStatus, is, copy]
      exact .connecting c _ is copy recorded (Or.inr ⟨rfl, own _⟩)
  | activating c _ is copy recorded =>
      obtain rfl := Option.some.inj awaits
      simp only [DbOp.savedStatus, is, copy]
      exact .activating c _ is copy recorded (Or.inr ⟨rfl, own _⟩)
  | failing c _ is copy settles =>
      obtain rfl := Option.some.inj awaits
      simp only [DbOp.savedStatus, is, copy]
      exact .failing c _ is copy settles (Or.inr ⟨rfl, own _⟩)
  | idling c _ is copy settles =>
      obtain rfl := Option.some.inj awaits
      simp only [DbOp.savedStatus, is, copy]
      exact .idling c _ is copy settles (Or.inr ⟨rfl, own _⟩)
  | recording c truncated _ settles saved =>
      obtain rfl := Option.some.inj awaits
      exact .recording c truncated _ settles saved (Or.inr ⟨_, rfl⟩)
  | opening | relaying | closing => contradiction
  | left f expected left =>
      rcases left with ⟨c, rfl⟩ | ⟨o, rfl⟩ <;> contradiction

theorem phase_cleanup {w : World} {p : Nat} {id : String} {answers : List Answer}
    {last : Option (Nat × SessionStatus)} {c : Connection} (is : c.session.row.id = id)
    (copy : c.session.row.status = .connecting ∨ c.session.row.status = .active)
    (recorded : Recorded c answers) (own : LastSaved p last c.session.row.status) :
    Phase p id answers last ⟨(cleanup w p c).2, none⟩ := by
  have closed := recorded_closed recorded
  unfold cleanup
  simp only
  split
  next failed =>
    exact .failing _ none is rfl (by simp [closed, failed]) (Or.inl rfl)
  next upstream =>
    split
    next outside =>
      exact .idling _ none is rfl (fun h => outside (closed.mp h).2) (Or.inl rfl)
    next inside =>
      -- No status is saved, so the row keeps CONNECTING or ACTIVE.
      refine .left _ c.session.row.status (Or.inl ⟨c, rfl⟩) own ?_
      have left : ¬ Settled c.session.row.status := by
        rcases copy with h | h <;> simp [Settled, h, terminalStatuses]
      have api : ClosedWithApiCode answers :=
        closed.mpr ⟨by simpa using upstream, by simpa using inside⟩
      simp [left, api]

theorem phase_connectResume {w w' : World} {p : Nat} {id : String} {answers : List Answer}
    {last : Option (Nat × SessionStatus)} {f : ConnectFrame} {f' : Frame} {a : Answer}
    {stored : Option Answer} (phase : Phase p id answers last ⟨.connect f, stored⟩)
    (given : stored = some a ∨ connectOp f = none)
    (h : connectResume w p f a = some (w', f')) :
    Phase p id (answers ++ [a]) last ⟨f', none⟩ := by
  have step := connectResume_cases h
  cases phase with
  | connecting c _ is copy recorded saved =>
      obtain rfl := given.resolve_right (by simp [connectOp])
      obtain ⟨same, own⟩ := saved.resolve_left (by simp)
      obtain rfl := Option.some.inj same
      cases step
      exact .opening c is copy (recorded.quiet rfl rfl) own
  | opening c is copy recorded own =>
      cases step with
      | opened => exact .activating _ none is rfl (recorded.quiet rfl rfl) (Or.inl rfl)
      | openFailed _ c' _ caught =>
          have same := connectFailed_session caught
          refine phase_cleanup (by rw [same, is]) (Or.inl (by rw [same, copy]))
            (recorded.connectFailed caught) ?_
          rwa [same, copy]
  | activating c _ is copy recorded saved =>
      obtain rfl := given.resolve_right (by simp [connectOp])
      obtain ⟨same, own⟩ := saved.resolve_left (by simp)
      obtain rfl := Option.some.inj same
      cases step
      exact .relaying c false false is copy (recorded.quiet rfl rfl) own
  | relaying c d₁ d₂ is copy recorded own =>
      cases step with
      | relayEnded _ _ _ d₁' d₂' task e =>
          exact .relaying _ d₁' d₂' (by simpa using is) (by simpa using copy)
            (recorded.relayFailed task e) own
      | relayWoken => exact .closing c true true is copy (recorded.quiet rfl rfl) own
      | relayRaised =>
          exact .closing _ d₁ d₂ is copy (Recorded.quiet (c := { c with raising := true })
            recorded rfl rfl) own
  | closing c d₁ d₂ is copy recorded own =>
      cases step with
      | lateRelayEnded _ _ _ d₁' d₂' task e =>
          exact .closing _ d₁' d₂' (by simpa using is) (by simpa using copy)
            (recorded.relayFailed task e) own
      | closed =>
          exact phase_cleanup is (Or.inr copy) (recorded.quiet rfl rfl) (by rwa [copy])
      | closeFailed =>
          exact phase_cleanup (c := { c with raising := true }) is (Or.inr copy)
            (Recorded.quiet (c := { c with raising := true }) recorded rfl rfl)
            (by rwa [copy])
  | failing c _ is copy settles saved =>
      obtain rfl := given.resolve_right (by simp [connectOp])
      obtain ⟨same, own⟩ := saved.resolve_left (by simp)
      obtain rfl := Option.some.inj same
      have settles' : ¬ ClosedWithApiCode (answers ++ [.saved]) := by
        rwa [closedWithApiCode_quiet rfl rfl]
      cases step with
      | savedFailed =>
          exact .left _ .failed (Or.inl ⟨_, rfl⟩) own
            (by simp [Settled, terminalStatuses, settles'])
      | savedFailedRecording _ truncated =>
          exact .recording c truncated none settles' own (Or.inl rfl)
  | recording c truncated _ settles own affected =>
      obtain rfl := given.resolve_right (by simp [connectOp])
      obtain ⟨n, same⟩ := affected.resolve_left (by simp)
      obtain rfl := Option.some.inj same
      have settles' : ¬ ClosedWithApiCode (answers ++ [.affected n]) := by
        rwa [closedWithApiCode_quiet rfl rfl]
      cases step with
      | recordedError =>
          exact .left _ .failed (Or.inl ⟨_, rfl⟩) own
            (by simp [Settled, terminalStatuses, settles'])
  | idling c _ is copy settles saved =>
      obtain rfl := given.resolve_right (by simp [connectOp])
      obtain ⟨same, own⟩ := saved.resolve_left (by simp)
      obtain rfl := Option.some.inj same
      have settles' : ¬ ClosedWithApiCode (answers ++ [.saved]) := by
        rwa [closedWithApiCode_quiet rfl rfl]
      cases step
      exact .left _ .idle (Or.inl ⟨_, rfl⟩) own (by simp [Settled, settles'])
  | left _ expected left own settles =>
      obtain ⟨c, same⟩ := left.resolve_right (by simp)
      obtain rfl : f = .closingClient c := by simpa using same
      cases step with
      | clientClosed =>
          refine .left _ expected (Or.inr ⟨_, rfl⟩) own ?_
          rwa [closedWithApiCode_quiet rfl rfl]
      | clientCloseFailed =>
          refine .left _ expected (Or.inr ⟨_, rfl⟩) own ?_
          rwa [closedWithApiCode_quiet rfl rfl]

theorem Phase.resumed {cfg : Config} {w w' : World} {p : Nat} {id : String}
    {answers : List Answer} {last : Option (Nat × SessionStatus)} {f f' : Frame} {a : Answer}
    {stored : Option Answer} (phase : Phase p id answers last ⟨f, stored⟩)
    (given : stored = some a ∨ frameOp f = none)
    (h : resumeFrame cfg w p f a = some (w', f')) :
    Phase p id (answers ++ [a]) last ⟨f', none⟩ := by
  cases f with
  | connect f => exact phase_connectResume phase given h
  | ending | request | start | watch | finished =>
      cases phase with
      | left _ _ left => rcases left with ⟨c, same⟩ | ⟨o, same⟩ <;> cases same <;> contradiction

theorem phase_admitted (w : World) (p : Nat) (user : User) {s : SessionInstance}
    (last : Option (Nat × SessionStatus)) (admissible : Admissible s) :
    Phase p s.row.id [.session (some s)] last
      ⟨(checkAdmission w p user (some s)).2, none⟩ := by
  obtain ⟨running, free, present⟩ := admissible
  obtain ⟨app, found⟩ := Option.isSome_iff_exists.mp present
  simp only [checkAdmission, found]
  rw [if_neg running, if_neg free]
  exact .connecting _ none rfl rfl
    ⟨rfl, fun _ => by simp [Answer.closeCode]⟩ (Or.inl rfl)

/-! ## The run of one handler -/

structure Attended (p : Nat) (id : String) (st : State) (events : List ConnectionEvent) : Prop where
  current : ∃ row, st.session? id = some row ∧
    ∀ q status, lastSave events = some (q, status) → row.status = status
  phase : ∃ t, st.tasks[p]? = some t ∧ Phase p id (answersIn events) (lastSave events) t

theorem Attended.idle {p : Nat} {id : String} {st st' : State} {events : List ConnectionEvent}
    (attended : Attended p id st events) (stored : st'.session? id = st.session? id)
    (task : ∀ t, st.tasks[p]? = some t → st'.tasks[p]? = some t) :
    Attended p id st' (events ++ []) := by
  obtain ⟨row, found, current⟩ := attended.current
  obtain ⟨t, running, phase⟩ := attended.phase
  rw [List.append_nil]
  exact ⟨⟨row, stored.trans found, current⟩, t, task t running, phase⟩

theorem attended_execute {cfg : Config} {p q : Nat} {id : String} {st : State}
    {events : List ConnectionEvent} {f : Frame} {op : DbOp} (attended : Attended p id st events)
    (task : st.tasks[q]? = some ⟨f, none⟩) (awaits : frameOp f = some op) :
    Attended p id { st.setTask q ⟨f, some (st.store.perform cfg q op).2⟩ with
      store := (st.store.perform cfg q op).1 }
      (events ++ (connectionEvent p id st (.execute q)).toList) := by
  obtain ⟨row, found, current⟩ := attended.current
  obtain ⟨t, running, phase⟩ := attended.phase
  obtain ⟨row', found', written⟩ := perform_status cfg q found op
  have event : connectionEvent p id st (.execute q) =
      (op.savedStatus id).map (.statusSaved q) := by
    simp [connectionEvent, State.frame?_of_task task, awaits]
  have answers : answersIn (events ++ (connectionEvent p id st (.execute q)).toList) =
      answersIn events := by
    rw [answersIn_append, event]
    cases op.savedStatus id <;> simp [ConnectionEvent.answer?]
  have last : lastSave (events ++ (connectionEvent p id st (.execute q)).toList) =
      ((op.savedStatus id).map (Prod.mk q)).or (lastSave events) := by
    rw [lastSave_append, event]
    cases op.savedStatus id <;> simp [ConnectionEvent.save?]
  refine ⟨⟨row', found', ?_⟩, ?_⟩
  · intro q' status is
    rw [last] at is
    cases saved : op.savedStatus id with
    | none =>
        rw [written, saved, Option.getD_none]
        exact current q' status (by simpa [saved] using is)
    | some value =>
        rw [written, saved, Option.getD_some]
        simp only [saved, Option.map_some, Option.some_or] at is
        exact (Prod.mk.inj (Option.some.inj is)).2
  · rw [answers, last]
    by_cases own : q = p
    · subst own
      obtain rfl := Option.some.inj (running.symm.trans task)
      exact ⟨_, getElem?_set_acting task, phase.executed awaits cfg st.store⟩
    · refine ⟨t, by simpa [List.getElem?_set_ne own] using running, ?_⟩
      cases saved : op.savedStatus id with
      | none => simpa using phase
      | some value => simpa using phase.other_saved own value

theorem attended_resume {cfg : Config} {p q : Nat} {id : String} {st : State} {act : Action}
    {events : List ConnectionEvent} {f f' : Frame} {a : Answer} {stored : Option Answer} {w : World}
    (attended : Attended p id st events)
    (event : connectionEvent p id st act = if q = p then some (.answered a) else none)
    (task : st.tasks[q]? = some ⟨f, stored⟩) (given : stored = some a ∨ frameOp f = none)
    (effect : resumeFrame cfg st.world q f a = some (w, f')) :
    Attended p id { st.setTask q ⟨f', none⟩ with world := w }
      (events ++ (connectionEvent p id st act).toList) := by
  rw [event]
  by_cases own : q = p
  · subst own
    obtain ⟨t, running, phase⟩ := attended.phase
    obtain rfl := Option.some.inj (running.symm.trans task)
    rw [if_pos rfl]
    have last : lastSave (events ++ (some (ConnectionEvent.answered a)).toList) =
        lastSave events := by
      rw [lastSave_append]
      rfl
    refine ⟨?_, ⟨f', none⟩, getElem?_set_acting task, ?_⟩
    · rw [last]
      exact attended.current
    · rw [last, answersIn_append]
      exact phase.resumed given effect
  · rw [if_neg own]
    exact attended.idle rfl fun t running => by simpa [List.getElem?_set_ne own] using running

theorem attended_step {cfg : Config} {p : Nat} {id : String} {st st' : State} {act : Action}
    {events : List ConnectionEvent} (attended : Attended p id st events)
    (succeeds : act ≠ .raise p) (taken : step cfg st act = some st') :
    Attended p id st' (events ++ (connectionEvent p id st act).toList) := by
  cases step_cases taken with
  | request r =>
      refine attended.idle rfl fun t running => ?_
      have bound := (List.getElem?_eq_some_iff.mp running).1
      rwa [List.getElem?_append_left bound]
  | tick time => exact attended.idle rfl fun t running => running
  | raise q f op a task awaits effect =>
      have other : q ≠ p := fun same => succeeds (congrArg _ same)
      exact attended.idle rfl fun t running => by
        simpa [List.getElem?_set_ne other] using running
  | execute q f op db a task awaits effect =>
      obtain ⟨-, rfl, rfl⟩ := perform_of_effect effect
      exact attended_execute attended task awaits
  | resume q f f' a w task effect =>
      exact attended_resume attended (by simp [connectionEvent, State.resumed_resume task])
        task (Or.inl rfl) effect
  | answer q f f' a w task awaits effect =>
      exact attended_resume attended (by simp [connectionEvent, State.resumed_answer a task])
        task (Or.inr awaits) effect

/--
A run of the handler `p` from its admission checks on the copy `s`, which pass, to its
return, with any steps of other tasks in between. Its operations on the database do
not raise.
-/
structure HandlerRun (cfg : Config) (start t u : State) (p : Nat) (s : SessionInstance)
    (acts : List Action) : Prop where
  reached : ∃ before, run cfg start before = some t
  loaded : ∃ user id cookie,
    t.tasks[p]? = some ⟨.connect (.loading user id cookie), some (.session (some s))⟩
  admissible : Admissible s
  ran : run cfg t (.resume p :: acts) = some u
  succeeds : .raise p ∉ acts
  returned : ∃ o, u.frame? p = some (.finished o)

def eventsOf (cfg : Config) (p : Nat) (id : String) (st : State) (acts : List Action) :
    List ConnectionEvent :=
  Runs.trace (step cfg) (connectionEvent p id) st acts

/--
If the handler has saved the last status of its session, its client has not closed with
a code of the API; if another task has, that status is IDLE or terminal.
-/
def LeavesSettled (p : Nat) (events : List ConnectionEvent) : Prop :=
  ∀ q status, lastSave events = some (q, status) →
    if q = p then ¬ ClosedWithApiCode (answersIn events) else Settled status

theorem attended_admitted {cfg : Config} {p : Nat} {t t' : State} {s : SessionInstance}
    {user : User} {id cookie : String} (current : CopiesCurrent t)
    (loaded : t.tasks[p]? =
      some ⟨.connect (.loading user id cookie), some (.session (some s))⟩)
    (admissible : Admissible s) (taken : step cfg t (.resume p) = some t') :
    Attended p s.row.id t' [.answered (.session (some s))] := by
  obtain ⟨-, row, read, stored, -⟩ :=
    current p _ loaded (Held.asRead s) (List.mem_append_right _ (List.mem_singleton_self _))
  cases step_cases taken with
  | resume _ f f' a w task effect =>
      obtain ⟨rfl, rfl⟩ : f = .connect (.loading user id cookie) ∧ a = .session (some s) := by
        simpa using Option.some.inj (task.symm.trans loaded)
      have admitted : checkAdmission t.world p user (some s) = (w, f') := Option.some.inj effect
      refine ⟨⟨row, stored, ?_⟩, ⟨f', none⟩, getElem?_set_acting task, ?_⟩
      · simp [lastSave, ConnectionEvent.save?]
      · have phase := phase_admitted t.world p user none admissible
        rwa [admitted] at phase

/--
When the handler returns, its session is IDLE or ended unless its client has closed
with a code from 3000 to 3999, or another client has connected in the meantime.
-/
theorem settled_iff {cfg : Config} {sessions : SessionTable} {apps : AppTable} {now : Int}
    {t u : State} {p : Nat} {s : SessionInstance} {acts : List Action}
    (handled : HandlerRun cfg (init sessions apps now) t u p s acts) :
    (∃ row, u.session? s.row.id = some row ∧ Settled row.status) ↔
      LeavesSettled p (eventsOf cfg p s.row.id t (.resume p :: acts)) := by
  obtain ⟨before, reached⟩ := handled.reached
  obtain ⟨user, id, cookie, loaded⟩ := handled.loaded
  obtain ⟨o, returned⟩ := handled.returned
  obtain ⟨t', taken, rest⟩ := Runs.run_cons.mp handled.ran
  have current := copiesCurrent_run (copiesCurrent_init sessions apps now) reached
  have start := attended_admitted current loaded handled.admissible taken
  -- The invariant starts when the handler has just passed its checks.
  have succeeds : Along cfg (fun _ act _ => act ≠ .raise p) t' acts :=
    Runs.along_of_forall_mem fun act inside same => handled.succeeds (same ▸ inside)
  have attended := Runs.invariant_trace (Attended p s.row.id)
    (fun _ _ _ _ attended good taken => attended_step attended good taken) start succeeds rest
  have events : eventsOf cfg p s.row.id t (.resume p :: acts) =
      [.answered (.session (some s))] ++
        Runs.trace (step cfg) (connectionEvent p s.row.id) t' acts := by
    simp [eventsOf, Runs.trace, taken, connectionEvent, State.resumed, loaded]
  rw [← events] at attended
  obtain ⟨row, found, latest⟩ := attended.current
  obtain ⟨task, running, phase⟩ := attended.phase
  have settled : (∃ row, u.session? s.row.id = some row ∧ Settled row.status) ↔
      Settled row.status := by
    constructor
    · rintro ⟨row', found', settled⟩
      obtain rfl := Option.some.inj (found.symm.trans found')
      exact settled
    · exact fun settled => ⟨row, found, settled⟩
  rw [settled]
  have done := State.frame?_of_task running
  rw [returned] at done
  cases phase with
  | left f expected _ own settles =>
      obtain ⟨q, status, last, own⟩ := own
      have leaves : LeavesSettled p (eventsOf cfg p s.row.id t (.resume p :: acts)) ↔
          if q = p then ¬ ClosedWithApiCode
            (answersIn (eventsOf cfg p s.row.id t (.resume p :: acts))) else Settled status := by
        simp [LeavesSettled, last]
      rw [leaves, latest q status last]
      split
      next mine => rw [own mine, settles]
      next => exact Iff.rfl
  | _ => simp at done

def clientCloses (code : Int) (answers : List Action) : List Action :=
  -- The handler connects, and then its client closes the connection with this code.
  [.execute 0, .resume 0, .answer 0 .connected, .execute 0, .resume 0,
    .answer 0 (.relayEnded .consumer (.disconnect code none)), .answer 0 .relayWoken] ++ answers

def loadedState : State :=
  { Sample.start none 0 with
    tasks := [⟨.connect (.loading Sample.user "session" "nvcf"),
      some (.session (some ⟨Sample.session "session" none, some Sample.app, 0⟩))⟩] }

theorem handlerRun_sample {u : State} (code : Int) (answers : List Action)
    (ran : run (Sample.config 1) loadedState (.resume 0 :: clientCloses code answers) = some u)
    (returned : ∃ o, u.frame? 0 = some (.finished o))
    (quiet : .raise 0 ∉ answers) :
    HandlerRun (Sample.config 1) (Sample.start none 0) loadedState u 0
      ⟨Sample.session "session" none, some Sample.app, 0⟩ (clientCloses code answers) where
  reached := ⟨Sample.accepted 0 ++ [.execute 0], rfl⟩
  loaded := ⟨_, _, _, rfl⟩
  admissible := by decide
  ran := ran
  succeeds := by
    intro inside
    rcases List.mem_append.mp inside with inside | inside
    · simp at inside
    · exact quiet inside
  returned := returned

theorem settled_awayCode :
    ∃ u row, run (Sample.config 1) loadedState (.resume 0 ::
        clientCloses 1001 [.answer 0 .done, .execute 0, .resume 0, .answer 0 .done]) = some u ∧
      u.session? "session" = some row ∧ Settled row.status := by
  have handled := handlerRun_sample 1001
    [.answer 0 .done, .execute 0, .resume 0, .answer 0 .done] rfl ⟨_, rfl⟩ (by simp)
  have leaves : LeavesSettled 0 (eventsOf (Sample.config 1) 0 "session" loadedState (.resume 0 ::
      clientCloses 1001 [.answer 0 .done, .execute 0, .resume 0, .answer 0 .done])) := by
    intro q status last
    obtain ⟨rfl, rfl⟩ := Prod.mk.inj (Option.some.inj last)
    rw [if_pos rfl]
    rintro ⟨-, code, closed, low, -⟩
    obtain rfl : 1001 = code := Option.some.inj closed
    contradiction
  obtain ⟨row, found, settled⟩ := (settled_iff handled).mpr leaves
  exact ⟨_, row, rfl, found, settled⟩

theorem settled_fails :
    ∃ u row, HandlerRun (Sample.config 1) (Sample.start none 0) loadedState u 0
        ⟨Sample.session "session" none, some Sample.app, 0⟩
        (clientCloses 3001 [.answer 0 .done, .answer 0 .done]) ∧
      -- No task but the handler has ever been started, so no `end_session` either.
      u.tasks.length = 1 ∧ u.session? "session" = some row ∧ ¬ Settled row.status :=
  ⟨_, _, handlerRun_sample 3001 [.answer 0 .done, .answer 0 .done] rfl ⟨_, rfl⟩ (by simp), rfl, rfl,
    by decide⟩

end StreamingPortal.Sessions
