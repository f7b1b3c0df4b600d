import StreamingPortal.Shared.Alone
import StreamingPortal.Sessions.Connected
import StreamingPortal.Sessions.Ownership

set_option autoImplicit false

/-! # A user without administrator rights on two databases -/

namespace StreamingPortal.Sessions

open Tasks

def Request.sentBy (u : User) : Request → Prop
  | .connectToStream user _ _ | .stopStream user _ _ | .terminateSession user _
  | .checkSession user _ _ | .updateSession user _ _ | .getSession user _ => user = u
  | .getSessions l => l.user = u
  | .startStream s => s.user = u
  | .watchSessionTimeout | .watchIdleSessions => False

def Request.isConnect : Request → Bool
  | .connectToStream _ _ _ => true
  | _ => false

def NonAdmin (answer : Frame → Answer) : Prop :=
  (∀ user id s caller, answer (.request (.askingAdmin user id s caller)) = .isAdmin false) ∧
    ∀ l order, answer (.request (.askingListAdmin l order)) = .isAdmin false

def FreshUuids (answer : Frame → Answer) (db : Db) : Prop :=
  -- `uuid4` returns an id that no row has.
  ∀ s running app r uuid, answer (.start (.posting s running app)) = .nvcfStarted r uuid →
    db.sessions.get? uuid = none

def Responds (cfg : Config) (answer : Frame → Answer) : Prop :=
  -- The environment answers every await that is not an operation on the database.
  ∀ w p f, frameOp f = none → f.kind ≠ .finished → (resumeFrame cfg w p f (answer f)).isSome = true

/-! ## The frames of a request that look at rows of the user only -/

def EndCaller.isRequest : EndCaller → Prop
  | .stopStream | .terminateSession => True
  | .watchSessionTimeout _ => False

def OwnFrame (u : User) : Frame → Prop
  | .connect (.accepting user _ _) | .connect (.loading user _ _) => user = u
  | .connect _ => True
  | .ending (.deleting e) | .ending (.closingWebsocket e _) | .ending (.saving e _) =>
      e.caller.isRequest
  | .request (.querying _ _ _) | .request (.stopping _ _ _)
  | .request (.askingAdmin _ _ _ _) => False
  | .request (.checking user _ _) => user = u
  | .request (.askingListAdmin l _) => l.user = u
  | .request (.countingSessions _ _ q) | .request (.fetchingSessions _ _ q _) =>
      q.userId = some u.sub
  | .request (.savingError _) | .request (.savingCheck _) => True
  | .start (.entering s) | .start (.counting s) | .start (.gettingApp s _)
  | .start (.posting s _ _) => s.user = u
  | .start (.creating _ _ _ row _) => row.userId = u.sub
  | .start (.leaving _) => True
  | .watch _ => False
  | .finished _ => True

def writes : Frame → Option String
  | .connect f => registeredFor (.connect f)
  | .ending (.deleting e) | .ending (.closingWebsocket e _) | .ending (.saving e _) =>
      some e.session.row.id
  | .request (.savingError s) | .request (.savingCheck s) => some s.row.id
  | _ => none

def FreshFor (answer : Frame → Answer) (db : Db) : Frame → Prop
  | .start (.leaving _) => True
  | .start (.creating _ _ _ row _) => db.sessions.get? row.id = none
  | .start _ => FreshUuids answer db
  | _ => True

theorem ownFrame_op {u : User} {f : Frame} {op : DbOp} (own : OwnFrame u f)
    (awaits : frameOp f = some op) :
    OwnOp u op ∧ (∀ id, op.target = some id → writes f = some id) ∧
      ∀ id answer db, op.inserted = some id → FreshFor answer db f →
        db.sessions.get? id = none := by
  cases f with
  | connect f =>
      cases f with
      | loading user =>
          obtain rfl := Option.some.inj awaits
          obtain rfl : user = u := own
          exact ⟨rfl, by simp [DbOp.target], by simp [DbOp.inserted]⟩
      | savingConnecting | savingActive | savingFailed | recordingError | savingIdle =>
          obtain rfl := Option.some.inj awaits
          exact ⟨trivial, fun _ same => same, by simp [DbOp.inserted]⟩
      | accepting | rejecting | openingUpstream | relaying | closingUpstream | closingClient =>
          contradiction
  | ending f =>
      cases f with
      | saving e =>
          obtain rfl := Option.some.inj awaits
          exact ⟨trivial, fun _ same => same, by simp [DbOp.inserted]⟩
      | deleting | closingWebsocket => contradiction
  | request f =>
      cases f with
      | querying | stopping | askingAdmin => exact own.elim
      | checking user =>
          obtain rfl := Option.some.inj awaits
          obtain rfl : user = u := own
          exact ⟨rfl, by simp [DbOp.target], by simp [DbOp.inserted]⟩
      | countingSessions | fetchingSessions =>
          obtain rfl := Option.some.inj awaits
          exact ⟨own, by simp [DbOp.target], by simp [DbOp.inserted]⟩
      | savingError | savingCheck =>
          obtain rfl := Option.some.inj awaits
          exact ⟨trivial, fun _ same => same, by simp [DbOp.inserted]⟩
      | askingListAdmin => contradiction
  | start f =>
      cases f with
      | counting s =>
          obtain rfl := Option.some.inj awaits
          obtain rfl : s.user = u := own
          exact ⟨rfl, by simp [DbOp.target], by simp [DbOp.inserted]⟩
      | creating s running app row =>
          obtain rfl := Option.some.inj awaits
          refine ⟨own, by simp [DbOp.target], ?_⟩
          rintro id answer db ⟨⟩ fresh
          exact fresh
      | entering | gettingApp | leaving =>
          obtain rfl := Option.some.inj awaits
          exact ⟨trivial, by simp [DbOp.target], by simp [DbOp.inserted]⟩
      | posting => contradiction
  | watch => exact own.elim
  | finished => contradiction

theorem resume_performed (cfg : Config) (w : World) (p : Nat) {f : Frame} {op : DbOp}
    (awaits : frameOp f = some op) (db : Db) :
    (resumeFrame cfg w p f (db.perform cfg p op).2).isSome = true := by
  cases f with
  | connect f =>
      cases f with
      | savingFailed =>
          -- The error is recorded next, unless there is none to record.
          obtain rfl := Option.some.inj awaits
          simp only [resumeFrame, Db.perform, connectResume]
          split <;> rfl
      | loading | savingConnecting | savingActive | recordingError | savingIdle =>
          obtain rfl := Option.some.inj awaits
          rfl
      | accepting | rejecting | openingUpstream | relaying | closingUpstream | closingClient =>
          contradiction
  | ending f =>
      cases f with
      | saving =>
          obtain rfl := Option.some.inj awaits
          rfl
      | deleting | closingWebsocket => contradiction
  | request f =>
      cases f with
      | querying | savingError | stopping | checking | savingCheck | countingSessions
      | fetchingSessions =>
          obtain rfl := Option.some.inj awaits
          rfl
      | askingAdmin | askingListAdmin => contradiction
  | start f =>
      cases f with
      | counting s =>
          obtain rfl := Option.some.inj awaits
          simp only [resumeFrame, Db.perform, startResume]
          split <;> rfl
      | gettingApp s =>
          obtain rfl := Option.some.inj awaits
          simp only [resumeFrame, Db.perform, startResume]
          split <;> rfl
      | creating s running app row cookie =>
          obtain rfl := Option.some.inj awaits
          simp only [resumeFrame, Db.perform, Db.createSession]
          split <;> rfl
      | entering | leaving =>
          obtain rfl := Option.some.inj awaits
          rfl
      | posting => contradiction
  | watch f =>
      cases f with
      | queryingTimedOut | queryingExpired | queryingOrphaned | savingExpiry =>
          obtain rfl := Option.some.inj awaits
          rfl
      | sleepingTimeout | sleepingIdle => contradiction
  | finished => contradiction

theorem resume_external_session {cfg : Config} {w : World} {p : Nat} {f : Frame}
    {found : Option SessionInstance} (external : frameOp f = none) :
    resumeFrame cfg w p f (.session found) = none := by
  cases f with
  | connect f =>
      cases f with
      | relaying _ d₁ d₂ | closingUpstream _ d₁ d₂ => cases d₁ <;> cases d₂ <;> rfl
      | _ => first | contradiction | rfl
  | ending f => cases f <;> first | contradiction | rfl
  | request f => cases f <;> first | contradiction | rfl
  | start f => cases f <;> first | contradiction | rfl
  | watch f => cases f <;> first | contradiction | rfl
  | finished => rfl

/-! ## Resuming keeps a request to the rows of its user -/

def WritesFrom (f : Frame) (a : Answer) (f' : Frame) : Prop :=
  -- The row that the next frame writes is the one already at hand or the one just loaded.
  ∀ id, writes f' = some id →
    writes f = some id ∨ ∃ s, a = .session (some s) ∧ s.row.id = id

theorem ownFrame_connectResume {u : User} {w w' : World} {p : Nat} {f : ConnectFrame} {a : Answer}
    {f' : Frame} (own : OwnFrame u (.connect f)) (h : connectResume w p f a = some (w', f')) :
    OwnFrame u f' ∧ WritesFrom (.connect f) a f' := by
  have registration := connectResume_registration h
  have kinds := connectResume_kind h
  have registered : writes f' = registeredFor f' := by
    cases f' <;> first | rfl | simp [Frame.kind, Kind.next] at kinds
  refine ⟨?_, ?_⟩
  · cases connectResume_cases h with
    | accepted => exact own
    | loaded user id cookie found =>
        unfold checkAdmission
        repeat' split
        all_goals trivial
    | saveConnectingFailed | openFailed | closed | closeFailed =>
        unfold cleanup
        simp only
        repeat' split
        all_goals trivial
    | _ => trivial
  · intro id target
    rw [registered] at target
    cases registration with
    | kept same => exact Or.inl (same.symm.trans target)
    | admitted s checked _ opened =>
        obtain ⟨user, j, cookie, -, rfl⟩ := checkedCopy_eq_some checked
        rw [registeredFor_of_openFor opened] at target
        exact Or.inr ⟨s, rfl, Option.some.inj target⟩
    | removed _ _ gone | abandoned _ _ _ _ gone => simp [gone] at target

theorem ownFrame_return {u : User} {caller : EndCaller} (request : caller.isRequest)
    (r : Response) : OwnFrame u (caller.return r) ∧ writes (caller.return r) = none := by
  cases caller with
  | stopStream | terminateSession => exact ⟨trivial, rfl⟩
  | watchSessionTimeout => exact request.elim

theorem ownFrame_endResume {u : User} {w w' : World} {f : EndFrame} {a : Answer} {f' : Frame}
    (own : OwnFrame u (.ending f)) (h : endResume w f a = some (w', f')) :
    OwnFrame u f' ∧ WritesFrom (.ending f) a f' := by
  have keeps {g : Frame} {id : String} (same : writes g = some id) (target : writes f' = some id) :
      WritesFrom g a f' := fun j is => Or.inl (by rw [same, ← target, is])
  have stops {g : Frame} (gone : writes f' = none) : WritesFrom g a f' := by
    intro id target
    simp [gone] at target
  cases endResume_cases h with
  | deleted | answered | closed => exact ⟨own, keeps rfl rfl⟩
  | timedOut | saved =>
      obtain ⟨own', gone⟩ := ownFrame_return (u := u) own _
      exact ⟨own', stops gone⟩
  | raised => exact ⟨trivial, stops rfl⟩

theorem ownFrame_withSession (u : User) (s : SessionInstance) (caller : SessionQueryCaller) :
    OwnFrame u (withSession u s caller) ∧
      ∀ id, writes (withSession u s caller) = some id → s.row.id = id := by
  unfold withSession terminateSession
  repeat' split
  all_goals exact ⟨trivial, by simp [writes, respond, endSession, SessionInstance.setError]⟩

theorem ownFrame_stopStream (u : User) (found : Option SessionInstance) :
    OwnFrame u (stopStream u found) ∧
      ∀ id, writes (stopStream u found) = some id → ∃ s, found = some s ∧ s.row.id = id := by
  unfold stopStream
  repeat' split
  all_goals exact ⟨trivial, by simp [writes, respond, endSession]⟩

theorem ownFrame_checkSession (u : User) (cfg : Config) (w : World) (path : String)
    (found : Option SessionInstance) :
    OwnFrame u (checkSession cfg w path found) ∧
      ∀ id, writes (checkSession cfg w path found) = some id →
        ∃ s, found = some s ∧ s.row.id = id := by
  unfold checkSession
  repeat' split
  all_goals exact ⟨trivial, by simp [writes, respond, SessionInstance.markExpired]⟩

theorem ownFrame_requestResume {u : User} {cfg : Config} {w : World} {f : RequestFrame}
    {a : Answer} {f' : Frame} (own : OwnFrame u (.request f))
    (admin : ∀ l order, f = .askingListAdmin l order → a = .isAdmin false)
    (h : requestResume cfg w f a = some f') :
    OwnFrame u f' ∧ WritesFrom (.request f) a f' := by
  cases requestResume_cases h with
  | queried | admitted | refused | stopped => exact own.elim
  | checked user id path found =>
      obtain ⟨own', target⟩ := ownFrame_checkSession u cfg w path found
      refine ⟨own', fun id is => ?_⟩
      obtain ⟨s, rfl, same⟩ := target id is
      exact Or.inr ⟨s, rfl, same⟩
  | askedListAdmin l order admin' =>
      obtain rfl : admin' = false := by simpa using admin l order rfl
      obtain rfl : l.user = u := own
      exact ⟨rfl, fun id is => by simp [writes] at is⟩
  | counted => exact ⟨own, fun id is => by simp [writes] at is⟩
  | savedError | savedCheck | fetched | raised =>
      exact ⟨trivial, fun id is => by simp [writes, respond] at is⟩

theorem ownFrame_startResume {u : User} {cfg : Config} {w w' : World} {f : StartFrame}
    {a : Answer} {f' : Frame} (own : OwnFrame u (.start f))
    (h : startResume cfg w f a = some (w', f')) : OwnFrame u f' ∧ writes f' = none := by
  cases startResume_cases h with
  | entered | counted | gotApp => exact ⟨own, rfl⟩
  | started s =>
      obtain rfl : s.user = u := own
      exact ⟨rfl, rfl⟩
  | notEntered | full | noApp | notStarted | timedOut | created | left | raised =>
      exact ⟨trivial, rfl⟩

theorem ownFrame_resume {u : User} {cfg : Config} {w w' : World} {p : Nat} {f f' : Frame}
    {a : Answer} (own : OwnFrame u f)
    (admin : ∀ l order, f = .request (.askingListAdmin l order) → a = .isAdmin false)
    (h : resumeFrame cfg w p f a = some (w', f')) : OwnFrame u f' ∧ WritesFrom f a f' := by
  cases f with
  | connect f => exact ownFrame_connectResume own h
  | ending f => exact ownFrame_endResume own h
  | request f =>
      obtain ⟨next, resumed, same⟩ := Option.map_eq_some_iff.mp h
      obtain ⟨-, rfl⟩ := Prod.mk.inj same
      exact ownFrame_requestResume own (fun l order is => admin l order (congrArg _ is)) resumed
  | start f =>
      obtain ⟨own', gone⟩ := ownFrame_startResume own h
      exact ⟨own', fun id is => by simp [gone] at is⟩
  | watch => exact own.elim
  | finished => contradiction

theorem freshFor_of_kind {f : Frame} (other : f.kind ≠ .start) (answer : Frame → Answer)
    (db : Db) : FreshFor answer db f := by
  cases f with
  | start => exact absurd rfl other
  | connect | ending | request | watch | finished => trivial

theorem freshFor_next {cfg : Config} {w w' : World} {p : Nat} {f f' : Frame} {a : Answer}
    {answer : Frame → Answer} {db db' : Db} (fresh : FreshFor answer db f)
    (unchanged : (∀ s running app row cookie, f ≠ .start (.creating s running app row cookie)) →
      f.kind = .start → db'.sessions = db.sessions)
    (given : frameOp f = none → a = answer f)
    (h : resumeFrame cfg w p f a = some (w', f')) : FreshFor answer db' f' := by
  have kinds := resumeFrame_kind h
  cases f with
  | start f =>
      -- The tables are unchanged until the row is inserted, so its id is still free then.
      have uuids (same : db'.sessions = db.sessions) (fresh : FreshUuids answer db) :
          FreshUuids answer db' := by
        intro s running app r uuid answered
        rw [same]
        exact fresh s running app r uuid answered
      cases startResume_cases h with
      | entered | counted | gotApp => exact uuids (unchanged (by simp) rfl) fresh
      | started s running app r uuid =>
          exact uuids (unchanged (by simp) rfl) fresh s running app r uuid (given rfl).symm
      | notEntered | full | noApp | notStarted | timedOut | created | left | raised => trivial
  | connect | ending | request | watch | finished =>
      refine freshFor_of_kind (fun same => ?_) answer db'
      rw [same] at kinds
      simp [Frame.kind, Kind.next] at kinds

/-! ## Two runs -/

abbrev Solo := Tasks.Solo Db World Frame

/-- The runs are in the same frame, which is about rows of the user only. -/
structure Lockstep (u : User) (p : Nat) (answer : Frame → Answer) (c₁ c₂ : Solo) : Prop where
  world : c₁.world = c₂.world
  frame : c₁.frame = c₂.frame
  own : OwnFrame u c₁.frame
  target : ∀ id, writes c₁.frame = some id → c₁.store.Owned u id
  fresh₁ : FreshFor answer c₁.store c₁.frame
  fresh₂ : FreshFor answer c₂.store c₁.frame

inductive Refused : Response → Frame → Prop
  | asking (user : User) (id : String) (s : SessionInstance) (caller : SessionQueryCaller) :
      Refused (sessionNotFound id) (.request (.askingAdmin user id s caller))
  | answered (r : Response) : Refused r (.finished (.response r))

/-- What two runs that started from `db₁` and `db₂` have in common. -/
structure Related (u : User) (p : Nat) (answer : Frame → Answer) (db₁ db₂ : Db) (c₁ c₂ : Solo) :
    Prop where
  agree : Agree u p c₁.store c₂.store
  others₁ : c₁.store.rowsOfOthers u = db₁.rowsOfOthers u
  others₂ : c₂.store.rowsOfOthers u = db₂.rowsOfOthers u
  closes : c₁.world.closeCalls = c₂.world.closeCalls
  runs : Lockstep u p answer c₁ c₂ ∨ ∃ r, Refused r c₁.frame ∧ Refused r c₂.frame

theorem perform_session_owned {cfg : Config} {u : User} {p : Nat} {db : Db} {op : DbOp}
    {s : SessionInstance} (own : OwnOp u op)
    (found : (db.perform cfg p op).2 = .session (some s)) : db.Owned u s.row.id := by
  cases op with
  | getSession id cookie userId =>
      obtain rfl : userId = some u.sub := own
      obtain ⟨stored, -, -, user⟩ := Db.getSession_eq_some (Answer.session.inj found)
      have here := (Table.mem_of_get? stored).2
      exact owned_iff.mpr ⟨s.row, by rw [here, stored], user u.sub rfl⟩
  | createSession row =>
      simp only [Db.perform, Db.createSession] at found
      split at found <;> contradiction
  | _ => simp [Db.perform] at found

theorem perform_sessions {cfg : Config} {p : Nat} {db : Db} {f : Frame} {op : DbOp}
    (awaits : frameOp f = some op)
    (quiet : ∀ s running app row cookie, f ≠ .start (.creating s running app row cookie))
    (kind : f.kind = .start) : (db.perform cfg p op).1.sessions = db.sessions := by
  cases f with
  | start f =>
      cases f with
      | creating s running app row cookie => exact absurd rfl (quiet s running app row cookie)
      | posting => contradiction
      | entering | counting | gettingApp | leaving =>
          obtain rfl := Option.some.inj awaits
          rfl
  | connect | ending | request | watch | finished => contradiction

def World.at (w : World) (time : Int) : World := { w with now := time }

theorem round_op {cfg : Config} {p : Nat} {answer : Frame → Answer} {time : Int} {c : Solo}
    {op : DbOp} {w : World} {f : Frame} (awaits : frameOp c.frame = some op)
    (free : c.store.blocked cfg p = false)
    (resumed : resumeFrame cfg (c.world.at time) p c.frame (c.store.perform cfg p op).2 =
      some (w, f)) :
    soloRound (backend cfg) answer p time c = some ⟨(c.store.perform cfg p op).1, w, f⟩ := by
  have performed : (backend cfg).perform c.store p op = some (c.store.perform cfg p op) := by
    simp [backend, free]
  have next : (backend cfg).resume ((backend cfg).tick time c.world) p c.frame
      (c.store.perform cfg p op).2 = some (w, f) := resumed
  have op' : (backend cfg).op c.frame = some op := awaits
  simp [soloRound, op', performed, next]

theorem round_external {cfg : Config} {p : Nat} {answer : Frame → Answer} {time : Int} {c : Solo}
    (external : frameOp c.frame = none) :
    soloRound (backend cfg) answer p time c =
      some (match resumeFrame cfg (c.world.at time) p c.frame (answer c.frame) with
        | some next => ⟨c.store, next.1, next.2⟩
        | none => { c with world := c.world.at time }) := by
  have op' : (backend cfg).op c.frame = none := external
  have next : (backend cfg).resume ((backend cfg).tick time c.world) p c.frame (answer c.frame) =
      resumeFrame cfg (c.world.at time) p c.frame (answer c.frame) := rfl
  simp only [soloRound, op', next]
  cases resumeFrame cfg (c.world.at time) p c.frame (answer c.frame) <;> rfl

theorem lockstep_op {cfg : Config} {u : User} {p : Nat} {answer : Frame → Answer}
    {c₁ c₂ : Solo} {op : DbOp} (agree : Agree u p c₁.store c₂.store)
    (lockstep : Lockstep u p answer c₁ c₂) (awaits : frameOp c₁.frame = some op) (time : Int) :
    ∃ d₁ d₂, soloRound (backend cfg) answer p time c₁ = some d₁ ∧
      soloRound (backend cfg) answer p time c₂ = some d₂ ∧
      Related u p answer c₁.store c₂.store d₁ d₂ ∧ d₁.frame = d₂.frame := by
  obtain ⟨ownOp, target, inserted⟩ := ownFrame_op lockstep.own awaits
  have apart := perform_apart cfg agree ownOp
    (fun id is => lockstep.target id (target id is))
    (fun id is =>
      ⟨inserted id answer _ is lockstep.fresh₁, inserted id answer _ is lockstep.fresh₂⟩)
  obtain ⟨free₁, free₂⟩ := agree.unblocked cfg
  obtain ⟨⟨w, f⟩, resumed⟩ := Option.isSome_iff_exists.mp
    (resume_performed cfg (c₁.world.at time) p awaits c₁.store)
  have first : soloRound (backend cfg) answer p time c₁ =
      some ⟨(c₁.store.perform cfg p op).1, w, f⟩ := round_op awaits free₁ resumed
  have second : soloRound (backend cfg) answer p time c₂ =
      some ⟨(c₂.store.perform cfg p op).1, w, f⟩ := by
    refine round_op (lockstep.frame ▸ awaits) free₂ ?_
    rw [← lockstep.frame, ← lockstep.world, ← apart.answer]
    exact resumed
  -- The operation is not one of the awaits that the environment answers.
  have external : frameOp c₁.frame = none → (c₁.store.perform cfg p op).2 = answer c₁.frame := by
    intro none_
    simp [none_] at awaits
  have admin : ∀ l order, c₁.frame = .request (.askingListAdmin l order) →
      (c₁.store.perform cfg p op).2 = .isAdmin false := by
    intro l order is
    rw [is] at awaits
    contradiction
  obtain ⟨own, target'⟩ := ownFrame_resume lockstep.own admin resumed
  refine ⟨_, _, first, second, ⟨apart.agree, apart.others₁, apart.others₂, rfl, Or.inl ?_⟩, rfl⟩
  refine ⟨rfl, rfl, own, ?_, ?_, ?_⟩
  · intro id is
    rcases target' id is with before | ⟨s, found, rfl⟩
    · exact apart.keeps id (lockstep.target id before)
    · exact apart.keeps _ (perform_session_owned ownOp found)
  · exact freshFor_next lockstep.fresh₁ (perform_sessions awaits) external resumed
  · exact freshFor_next lockstep.fresh₂ (perform_sessions awaits) external resumed

theorem lockstep_external {cfg : Config} {u : User} {p : Nat} {answer : Frame → Answer}
    {c₁ c₂ : Solo} (agree : Agree u p c₁.store c₂.store) (admin : NonAdmin answer)
    (lockstep : Lockstep u p answer c₁ c₂) (external : frameOp c₁.frame = none) (time : Int) :
    ∃ d₁ d₂, soloRound (backend cfg) answer p time c₁ = some d₁ ∧
      soloRound (backend cfg) answer p time c₂ = some d₂ ∧
      Related u p answer c₁.store c₂.store d₁ d₂ ∧ d₁.frame = d₂.frame := by
  refine ⟨_, _, round_external external, round_external (lockstep.frame ▸ external), ?_⟩
  rw [← lockstep.frame, ← lockstep.world]
  cases resumed : resumeFrame cfg (c₁.world.at time) p c₁.frame (answer c₁.frame) with
  | none =>
      -- The answer does not fit the frame: both runs stay where they are.
      refine ⟨⟨agree, rfl, rfl, rfl, Or.inl ?_⟩, rfl⟩
      exact ⟨rfl, rfl, lockstep.own, lockstep.target, lockstep.fresh₁, lockstep.fresh₂⟩
  | some next =>
      obtain ⟨w, f⟩ := next
      obtain ⟨own, target'⟩ := ownFrame_resume lockstep.own
        (fun l order is => by rw [is]; exact admin.2 l order) resumed
      refine ⟨⟨agree, rfl, rfl, rfl, Or.inl ⟨rfl, rfl, own, ?_, ?_, ?_⟩⟩, rfl⟩
      · intro id is
        rcases target' id is with before | ⟨s, found, rfl⟩
        · exact lockstep.target id before
        · rw [found, resume_external_session external] at resumed
          contradiction
      · exact freshFor_next lockstep.fresh₁ (fun _ _ => rfl) (fun _ => rfl) resumed
      · exact freshFor_next lockstep.fresh₂ (fun _ _ => rfl) (fun _ => rfl) resumed

theorem refused_round {cfg : Config} {p : Nat} {answer : Frame → Answer} {c : Solo} {r : Response}
    (admin : NonAdmin answer) (refused : Refused r c.frame) (time : Int) :
    soloRound (backend cfg) answer p time c =
      some ⟨c.store, c.world.at time, .finished (.response r)⟩ := by
  obtain ⟨store, world, frame⟩ := c
  cases refused with
  | asking user id s caller =>
      rw [round_external rfl]
      simp only [resumeFrame, requestResume, admin.1]
      rfl
  | answered r =>
      rw [round_external rfl]
      rfl

theorem related_round (cfg : Config) {u : User} {p : Nat} {answer : Frame → Answer}
    {db₁ db₂ : Db} (admin : NonAdmin answer) (time : Int) (c₁ c₂ : Solo)
    (related : Related u p answer db₁ db₂ c₁ c₂) :
    ∃ d₁ d₂, soloRound (backend cfg) answer p time c₁ = some d₁ ∧
      soloRound (backend cfg) answer p time c₂ = some d₂ ∧
      Related u p answer db₁ db₂ d₁ d₂ ∧ d₁.frame = d₂.frame := by
  rcases related.runs with lockstep | ⟨r, refused₁, refused₂⟩
  · obtain ⟨d₁, d₂, first, second, next, same⟩ :
        ∃ d₁ d₂, soloRound (backend cfg) answer p time c₁ = some d₁ ∧
          soloRound (backend cfg) answer p time c₂ = some d₂ ∧
          Related u p answer c₁.store c₂.store d₁ d₂ ∧ d₁.frame = d₂.frame := by
      cases awaits : frameOp c₁.frame with
      | none => exact lockstep_external related.agree admin lockstep awaits time
      | some op => exact lockstep_op related.agree lockstep awaits time
    exact ⟨d₁, d₂, first, second, ⟨next.agree, next.others₁.trans related.others₁,
      next.others₂.trans related.others₂, next.closes, next.runs⟩, same⟩
  · -- A refusal takes at most one more round, so after it the frames are the same.
    exact ⟨_, _, refused_round admin refused₁ time, refused_round admin refused₂ time,
      ⟨related.agree, related.others₁, related.others₂, related.closes,
        Or.inr ⟨r, .answered r, .answered r⟩⟩, rfl⟩

/-! ## The lookups that are not restricted to the user -/

inductive Lookup (u : User) : Frame → Prop
  | query (id : String) (caller : SessionQueryCaller) : Lookup u (.request (.querying u id caller))
  | stop (id cookie : String) : Lookup u (.request (.stopping u id cookie))

theorem querySession_refused {u : User} {id : String} {caller : SessionQueryCaller}
    {found : Option SessionInstance} (foreign : ∀ s, found = some s → s.row.userId ≠ u.sub) :
    Refused (sessionNotFound id) (querySession u id caller found) := by
  cases found with
  | none => exact .answered _
  | some s =>
      simp only [querySession, if_neg (foreign s rfl)]
      exact .asking u id s caller

theorem stopStream_refused {u : User} {found : Option SessionInstance}
    (foreign : ∀ s, found = some s → s.row.userId ≠ u.sub) :
    Refused stopNotFound (stopStream u found) := by
  cases found with
  | none => exact .answered _
  | some s =>
      have other : s.row.userId ≠ u.sub ∨ s.row.status ∈ terminalStatuses := Or.inl (foreign s rfl)
      simp only [stopStream, if_pos other]
      exact .answered _

theorem related_lookup {u : User} {p : Nat} {answer : Frame → Answer} {db₁ db₂ : Db}
    (agree : Agree u p db₁ db₂) (w : World) {id : String} {cookie : Option String}
    {next : Option SessionInstance → Frame} {r : Response}
    (refused : ∀ found, (∀ s, found = some s → s.row.userId ≠ u.sub) → Refused r (next found))
    (own : ∀ s, s.row.userId = u.sub → OwnFrame u (next (some s)) ∧
      (next (some s)).kind ≠ .start ∧ ∀ j, writes (next (some s)) = some j → s.row.id = j) :
    Related u p answer db₁ db₂ ⟨db₁, w, next (db₁.getSession id cookie none)⟩
      ⟨db₂, w, next (db₂.getSession id cookie none)⟩ := by
  refine ⟨agree, rfl, rfl, rfl, ?_⟩
  by_cases mine : ∃ s, db₁.getSession id cookie none = some s ∧ s.row.userId = u.sub
  · -- The user's own row is the same in both databases.
    obtain ⟨s, found, user⟩ := mine
    obtain ⟨stored, -⟩ := Db.getSession_eq_some found
    rcases getSession_any agree id cookie with same | ⟨foreign, -⟩
    · obtain ⟨own', kind, target⟩ := own s user
      rw [← same, found]
      refine Or.inl ⟨rfl, rfl, own', ?_, freshFor_of_kind kind answer _,
        freshFor_of_kind kind answer _⟩
      rintro j is
      have here := (Table.mem_of_get? stored).2
      rw [← target j is]
      exact owned_iff.mpr ⟨s.row, by rw [here, stored], user⟩
    · exact absurd user (foreign s found)
  · -- A foreign row in one database and none in the other give the same answer.
    have foreign : ∀ s, db₁.getSession id cookie none = some s → s.row.userId ≠ u.sub :=
      fun s found user => mine ⟨s, found, user⟩
    rcases getSession_any agree id cookie with same | ⟨-, foreign'⟩
    · exact Or.inr ⟨r, refused _ foreign, refused _ (same ▸ foreign)⟩
    · exact Or.inr ⟨r, refused _ foreign, refused _ foreign'⟩

theorem lookup_round {cfg : Config} {u : User} {p : Nat} {answer : Frame → Answer} {db₁ db₂ : Db}
    {f : Frame} (agree : Agree u p db₁ db₂) (lookup : Lookup u f) (w : World) (time : Int) :
    ∃ d₁ d₂, soloRound (backend cfg) answer p time ⟨db₁, w, f⟩ = some d₁ ∧
      soloRound (backend cfg) answer p time ⟨db₂, w, f⟩ = some d₂ ∧
      Related u p answer db₁ db₂ d₁ d₂ := by
  obtain ⟨free₁, free₂⟩ := agree.unblocked cfg
  cases lookup with
  | query id caller =>
      refine ⟨_, _, round_op rfl free₁ rfl, round_op rfl free₂ rfl, ?_⟩
      refine related_lookup agree _ (fun found foreign => querySession_refused foreign) ?_
      intro s user
      obtain ⟨own, target⟩ := ownFrame_withSession u s caller
      simp only [querySession, if_pos user]
      refine ⟨own, fun same => ?_, target⟩
      have kinds := withSession_kind u s caller
      rw [same] at kinds
      simp [Kind.next] at kinds
  | stop id cookie =>
      refine ⟨_, _, round_op rfl free₁ rfl, round_op rfl free₂ rfl, ?_⟩
      refine related_lookup agree _ (fun found foreign => stopStream_refused foreign) ?_
      intro s user
      obtain ⟨own, target⟩ := ownFrame_stopStream u (some s)
      refine ⟨own, ?_, fun j is => ?_⟩
      · unfold stopStream
        simp only
        split <;> simp [Frame.kind, respond, endSession]
      · obtain ⟨s', same, here⟩ := target j is
        obtain rfl := Option.some.inj same
        exact here

theorem startRequest_own (cfg : Config) {u : User} {r : Request} (sent : r.sentBy u) (w : World) :
    Lookup u (startRequest cfg w r) ∨
      OwnFrame u (startRequest cfg w r) ∧ writes (startRequest cfg w r) = none ∧
        ∀ answer db, FreshUuids answer db → FreshFor answer db (startRequest cfg w r) := by
  cases r with
  | connectToStream user id cookie =>
      right
      simp only [startRequest, startConnect]
      split
      · exact ⟨trivial, rfl, fun _ _ _ => trivial⟩
      · exact ⟨sent, rfl, fun _ _ _ => trivial⟩
  | stopStream user id cookie =>
      obtain rfl : user = u := sent
      cases cookie with
      | none => exact Or.inr ⟨trivial, rfl, fun _ _ _ => trivial⟩
      | some cookie => exact Or.inl (.stop id cookie)
  | terminateSession user id =>
      obtain rfl : user = u := sent
      exact Or.inl (.query id .terminateSession)
  | getSession user id =>
      obtain rfl : user = u := sent
      exact Or.inl (.query id .getSession)
  | updateSession user id error =>
      obtain rfl : user = u := sent
      simp only [startRequest, startUpdateSession]
      repeat' split
      · exact Or.inr ⟨trivial, rfl, fun _ _ _ => trivial⟩
      all_goals exact Or.inl (.query id (.updateSession _))
  | checkSession user id path => exact Or.inr ⟨sent, rfl, fun _ _ _ => trivial⟩
  | getSessions l =>
      obtain rfl : l.user = u := sent
      right
      simp only [startRequest, getSessions]
      repeat' split
      all_goals first
        | exact ⟨rfl, rfl, fun _ _ _ => trivial⟩
        | exact ⟨trivial, rfl, fun _ _ _ => trivial⟩
  | startStream s =>
      right
      simp only [startRequest, startStream]
      split
      · exact ⟨trivial, rfl, fun _ _ _ => trivial⟩
      · exact ⟨sent, rfl, fun _ _ fresh => fresh⟩
  | watchSessionTimeout | watchIdleSessions => exact sent.elim

theorem related_run (cfg : Config) {u : User} {p : Nat} {answer : Frame → Answer} {db₁ db₂ : Db}
    {r : Request} (sent : r.sentBy u) (agree : Agree u p db₁ db₂) (admin : NonAdmin answer)
    (fresh₁ : FreshUuids answer db₁) (fresh₂ : FreshUuids answer db₂) (w : World)
    (clock : Nat → Int) (rounds : Nat) :
    ∃ d₁ d₂, alone (backend cfg) answer p clock (rounds + 2)
        ⟨db₁, w, startRequest cfg w r⟩ = some d₁ ∧
      alone (backend cfg) answer p clock (rounds + 2) ⟨db₂, w, startRequest cfg w r⟩ = some d₂ ∧
      Related u p answer db₁ db₂ d₁ d₂ ∧ d₁.frame = d₂.frame := by
  -- The first round may be the lookup of a foreign row, the second one the refusal.
  obtain ⟨e₁, e₂, first₁, first₂, related⟩ :
      ∃ d₁ d₂, soloRound (backend cfg) answer p (clock (rounds + 1))
          ⟨db₁, w, startRequest cfg w r⟩ = some d₁ ∧
        soloRound (backend cfg) answer p (clock (rounds + 1)) ⟨db₂, w, startRequest cfg w r⟩ =
          some d₂ ∧ Related u p answer db₁ db₂ d₁ d₂ := by
    rcases startRequest_own cfg sent w with lookup | ⟨own, quiet, fresh⟩
    · exact lookup_round agree lookup w _
    · have start : Related u p answer db₁ db₂ ⟨db₁, w, startRequest cfg w r⟩
          ⟨db₂, w, startRequest cfg w r⟩ :=
        ⟨agree, rfl, rfl, rfl, Or.inl ⟨rfl, rfl, own, fun id is => by simp [quiet] at is,
          fresh _ _ fresh₁, fresh _ _ fresh₂⟩⟩
      obtain ⟨d₁, d₂, ran₁, ran₂, next, -⟩ := related_round cfg admin _ _ _ start
      exact ⟨d₁, d₂, ran₁, ran₂, next⟩
  obtain ⟨f₁, f₂, second₁, second₂, same⟩ :=
    related_round cfg admin (clock rounds) _ _ related
  obtain ⟨d₁, d₂, rest₁, rest₂, last⟩ :=
    alone_related (R := fun c₁ c₂ => Related u p answer db₁ db₂ c₁ c₂ ∧ c₁.frame = c₂.frame)
      (fun time c₁ c₂ here => related_round cfg admin time c₁ c₂ here.1) clock rounds same
  exact ⟨d₁, d₂, by simp [alone, first₁, second₁, rest₁], by simp [alone, first₂, second₂, rest₂],
    last⟩

/-! ## Requests are answered -/

def RestFrame : Frame → Prop
  | .connect _ | .watch _ => False
  | .ending (.deleting e) | .ending (.closingWebsocket e _) | .ending (.saving e _) =>
      e.caller.isRequest
  | .request _ | .start _ | .finished _ => True

-- A bound on the awaits left, when each of them is answered.
def awaitsLeft : Frame → Nat
  | .connect _ | .watch _ | .finished _ => 0
  | .ending (.deleting _) => 3
  | .ending (.closingWebsocket _ _) => 2
  | .ending (.saving _ _) => 1
  | .request (.querying _ _ _) => 5
  | .request (.askingAdmin _ _ _ _) | .request (.stopping _ _ _) => 4
  | .request (.askingListAdmin _ _) => 3
  | .request (.countingSessions _ _ _) | .request (.checking _ _ _) => 2
  | .request (.fetchingSessions _ _ _ _) | .request (.savingError _)
  | .request (.savingCheck _) => 1
  | .start (.entering _) => 6
  | .start (.counting _) => 5
  | .start (.gettingApp _ _) => 4
  | .start (.posting _ _ _) => 3
  | .start (.creating _ _ _ _ _) => 2
  | .start (.leaving _) => 1

theorem withSession_awaits (u : User) (s : SessionInstance) (caller : SessionQueryCaller) :
    RestFrame (withSession u s caller) ∧ awaitsLeft (withSession u s caller) ≤ 3 := by
  unfold withSession terminateSession
  repeat' split
  all_goals exact ⟨trivial, by simp [awaitsLeft, respond, endSession]⟩

theorem requestResume_awaits {cfg : Config} {w : World} {f : RequestFrame} {a : Answer}
    {f' : Frame} (h : requestResume cfg w f a = some f') :
    RestFrame f' ∧ awaitsLeft f' < awaitsLeft (.request f) := by
  cases requestResume_cases h with
  | queried user id caller found =>
      unfold querySession
      repeat' split
      · exact ⟨trivial, by simp [awaitsLeft, respond]⟩
      next s _ =>
        have bound := withSession_awaits user s caller
        exact ⟨bound.1, Nat.lt_of_le_of_lt bound.2 (by simp [awaitsLeft])⟩
      · exact ⟨trivial, by simp [awaitsLeft]⟩
  | admitted user id s caller =>
      have bound := withSession_awaits user s caller
      exact ⟨bound.1, Nat.lt_succ_of_le bound.2⟩
  | stopped =>
      unfold stopStream
      repeat' split
      all_goals exact ⟨trivial, by simp [awaitsLeft, respond, endSession]⟩
  | checked =>
      unfold checkSession
      repeat' split
      all_goals exact ⟨trivial, by simp [awaitsLeft, respond]⟩
  | raised => exact ⟨trivial, by cases f <;> simp [awaitsLeft]⟩
  | refused | savedError | savedCheck | askedListAdmin | counted | fetched =>
      exact ⟨trivial, by simp [awaitsLeft, respond]⟩

theorem endResume_awaits {w w' : World} {f : EndFrame} {a : Answer} {f' : Frame}
    (rest : RestFrame (.ending f)) (h : endResume w f a = some (w', f')) :
    RestFrame f' ∧ awaitsLeft f' < awaitsLeft (.ending f) := by
  have returns {caller : EndCaller} (request : caller.isRequest) (r : Response) :
      RestFrame (caller.return r) ∧ awaitsLeft (caller.return r) = 0 := by
    cases caller with
    | stopStream | terminateSession => exact ⟨trivial, rfl⟩
    | watchSessionTimeout => exact request.elim
  cases endResume_cases h with
  | deleted | answered | closed => exact ⟨rest, by simp [awaitsLeft, recordEnd]⟩
  | timedOut e =>
      obtain ⟨kept, done⟩ := returns rest endSessionTimeout
      exact ⟨kept, by rw [done]; simp [awaitsLeft]⟩
  | saved e r =>
      obtain ⟨kept, done⟩ := returns rest (endSessionResponse r)
      exact ⟨kept, by rw [done]; simp [awaitsLeft]⟩
  | raised => exact ⟨trivial, by cases f <;> simp [awaitsLeft]⟩

theorem startResume_awaits {cfg : Config} {w w' : World} {f : StartFrame} {a : Answer} {f' : Frame}
    (left : ∀ o, f = .leaving o → a = .done) (h : startResume cfg w f a = some (w', f')) :
    RestFrame f' ∧ awaitsLeft f' < awaitsLeft (.start f) := by
  cases startResume_cases h with
  | raised _ inside =>
      cases f with
      | leaving o => exact absurd (left o rfl) (by simp)
      | _ => exact ⟨trivial, by simp [awaitsLeft, leave]⟩
  | entered | notEntered | full | counted | noApp | gotApp | started | notStarted | timedOut
  | created | left => exact ⟨trivial, by simp [awaitsLeft, leave]⟩

theorem resumeFrame_awaits {cfg : Config} {w w' : World} {p : Nat} {f f' : Frame} {a : Answer}
    (rest : RestFrame f) (left : ∀ o, f = .start (.leaving o) → a = .done)
    (h : resumeFrame cfg w p f a = some (w', f')) :
    RestFrame f' ∧ awaitsLeft f' < awaitsLeft f := by
  cases f with
  | ending f => exact endResume_awaits rest h
  | request f =>
      obtain ⟨next, resumed, same⟩ := Option.map_eq_some_iff.mp h
      obtain ⟨-, rfl⟩ := Prod.mk.inj same
      exact requestResume_awaits resumed
  | start f => exact startResume_awaits (fun o is => left o (congrArg _ is)) h
  | connect | watch => exact rest.elim
  | finished => contradiction

theorem round_awaits {cfg : Config} {p : Nat} {answer : Frame → Answer}
    (responds : Responds cfg answer) (time : Int) (c d : Solo) (rest : RestFrame c.frame)
    (ran : soloRound (backend cfg) answer p time c = some d) :
    RestFrame d.frame ∧ awaitsLeft d.frame ≤ awaitsLeft c.frame - 1 := by
  cases awaits : frameOp c.frame with
  | none =>
      rw [round_external awaits] at ran
      obtain rfl := Option.some.inj ran
      have left : ∀ o, c.frame = .start (.leaving o) → answer c.frame = .done := by
        intro o is
        rw [is] at awaits
        contradiction
      by_cases finished : c.frame.kind = .finished
      · obtain ⟨o, is⟩ : ∃ o, c.frame = .finished o := by
          cases here : c.frame <;> simp [here, Frame.kind] at finished ⊢
        rw [is]
        exact ⟨trivial, Nat.le_refl _⟩
      · obtain ⟨⟨w, f⟩, resumed⟩ :=
          Option.isSome_iff_exists.mp (responds (c.world.at time) p c.frame awaits finished)
        obtain ⟨rest', lower⟩ := resumeFrame_awaits rest left resumed
        rw [resumed]
        exact ⟨rest', by simp only; omega⟩
  | some op =>
      have op' : (backend cfg).op c.frame = some op := awaits
      simp only [soloRound, op'] at ran
      obtain ⟨⟨db, a⟩, performed, ran⟩ := Option.bind_eq_some_iff.mp ran
      obtain ⟨⟨w, f⟩, resumed, rfl⟩ := Option.map_eq_some_iff.mp ran
      obtain ⟨-, -, rfl⟩ := perform_of_effect performed
      have left : ∀ o, c.frame = .start (.leaving o) → (c.store.perform cfg p op).2 = .done := by
        intro o is
        rw [is] at awaits
        obtain rfl := Option.some.inj awaits
        rfl
      obtain ⟨rest', lower⟩ := resumeFrame_awaits rest left resumed
      exact ⟨rest', by simp only; omega⟩

theorem startRequest_awaits (cfg : Config) {u : User} {r : Request} (sent : r.sentBy u)
    (rest : r.isConnect = false) (w : World) :
    RestFrame (startRequest cfg w r) ∧ awaitsLeft (startRequest cfg w r) ≤ 6 := by
  have first := startRequest_first cfg w r
  have kind : (startRequest cfg w r).kind ≠ .connect ∧ (startRequest cfg w r).kind ≠ .watch := by
    cases r with
    | connectToStream => contradiction
    | watchSessionTimeout | watchIdleSessions => exact sent.elim
    | stopStream user id cookie =>
        cases cookie <;> simp [startRequest, startStopStream, Frame.kind, respond]
    | terminateSession | checkSession | getSession => simp [startRequest, Frame.kind]
    | updateSession =>
        simp only [startRequest, startUpdateSession]
        repeat' split
        all_goals simp [Frame.kind, respond]
    | getSessions =>
        simp only [startRequest, getSessions]
        repeat' split
        all_goals simp [Frame.kind, respond]
    | startStream =>
        simp only [startRequest, startStream]
        split <;> simp [Frame.kind]
  generalize startRequest cfg w r = f at first kind
  cases first with
  | connect | watchTimeout | watchIdle => simp [Frame.kind] at kind
  | _ => exact ⟨trivial, by simp [awaitsLeft]⟩

theorem finished_of_awaits {f : Frame} (rest : RestFrame f) (none_ : awaitsLeft f = 0) :
    ∃ o, f = .finished o := by
  cases f with
  | finished o => exact ⟨o, rfl⟩
  | connect | watch => exact rest.elim
  | ending f => cases f <;> simp [awaitsLeft] at none_
  | request f => cases f <;> simp [awaitsLeft] at none_
  | start f => cases f <;> simp [awaitsLeft] at none_

/-- What the user can tell from two runs, and what they leave behind. -/
structure Isolated (u : User) (db₁ db₂ : Db) (d₁ d₂ : Solo) : Prop where
  response : d₁.frame = d₂.frame
  closes : d₁.world.closeCalls = d₂.world.closeCalls
  rows : d₁.store.rowsOf u = d₂.store.rowsOf u
  others₁ : d₁.store.rowsOfOthers u = db₁.rowsOfOthers u
  others₂ : d₂.store.rowsOfOthers u = db₂.rowsOfOthers u

/--
Whatever else two databases hold, a request of a user without administrator rights
gets the same answer, leaves the same rows of the user behind and touches no others.
Unless it is a connection, it is answered within six awaits.
-/
theorem isolated (cfg : Config) (u : User) (r : Request) (p : Nat) (db₁ db₂ : Db)
    (answer : Frame → Answer) (clock : Nat → Int) (rounds : Nat) (w : World)
    (sent : r.sentBy u) (agree : Agree u p db₁ db₂) (admin : NonAdmin answer)
    (fresh₁ : FreshUuids answer db₁) (fresh₂ : FreshUuids answer db₂) (enough : 2 ≤ rounds) :
    ∃ d₁ d₂, alone (backend cfg) answer p clock rounds ⟨db₁, w, startRequest cfg w r⟩ = some d₁ ∧
      alone (backend cfg) answer p clock rounds ⟨db₂, w, startRequest cfg w r⟩ = some d₂ ∧
      Isolated u db₁ db₂ d₁ d₂ ∧
      (Responds cfg answer → r.isConnect = false → 6 ≤ rounds → ∃ o, d₁.frame = .finished o) := by
  obtain ⟨more, rfl⟩ : ∃ n, rounds = n + 2 := ⟨rounds - 2, by omega⟩
  obtain ⟨d₁, d₂, ran₁, ran₂, related, same⟩ :=
    related_run cfg sent agree admin fresh₁ fresh₂ w clock more
  refine ⟨d₁, d₂, ran₁, ran₂, ⟨same, related.closes, related.agree.rows, related.others₁,
    related.others₂⟩, ?_⟩
  intro responds rest six
  obtain ⟨start, bound⟩ := startRequest_awaits cfg sent rest w
  obtain ⟨kept, left⟩ := alone_rank (fun c => RestFrame c.frame)
    (fun time c d here ran => round_awaits responds time c d here ran) start ran₁
  exact finished_of_awaits kept (by simp only at left; omega)

def acceptingAnswer : Frame → Answer
  -- NVCF accepts everything, and the client closes once it is relayed.
  | .connect (.openingUpstream _) => .connected
  | .connect (.relaying _ false _) => .relayEnded .consumer (.disconnect 1001 none)
  | .connect (.relaying _ true _) => .relayWoken
  | .ending (.deleting _) => .nvcf Sample.ok
  | .request (.askingAdmin _ _ _ _) | .request (.askingListAdmin _ _) => .isAdmin false
  | .start (.posting _ _ _) =>
      .nvcfStarted { Sample.ok with nvcfRequestId := some "next" } "session 2"
  | _ => .done

theorem acceptingAnswer_responds (cfg : Config) : Responds cfg acceptingAnswer := by
  intro w p f external running
  cases f with
  | connect f =>
      cases f with
      | accepting user id cookie =>
          simp only [acceptingAnswer, resumeFrame, connectResume]
          split <;> rfl
      | relaying c d₁ d₂ => cases d₁ <;> cases d₂ <;> rfl
      | closingUpstream c d₁ d₂ => cases d₁ <;> cases d₂ <;> rfl
      | _ => first | contradiction | rfl
  | ending f =>
      cases f with
      | deleting e =>
          simp only [acceptingAnswer, resumeFrame, endResume]
          repeat' split
          all_goals rfl
      | _ => first | contradiction | rfl
  | request f => cases f <;> first | contradiction | rfl
  | start f => cases f <;> first | contradiction | rfl
  | watch f => cases f <;> first | contradiction | rfl
  | finished => exact absurd rfl running

def soleSession : Db := (Sample.start none 0).store

def withForeignSession : Db :=
  -- The same database with a session of somebody else.
  { soleSession with
    sessions := ⟨[{ Sample.session "other" none with userId := "somebody" },
      Sample.session "session" none], by decide⟩ }

theorem isolated_foreignSession :
    ∃ d₁ d₂, alone (backend (Sample.config 1)) acceptingAnswer 0 (fun _ => 0) 6
        ⟨withForeignSession, (Sample.start none 0).world,
          startRequest (Sample.config 1) (Sample.start none 0).world
            (.terminateSession Sample.user "other")⟩ = some d₁ ∧
      alone (backend (Sample.config 1)) acceptingAnswer 0 (fun _ => 0) 6
        ⟨soleSession, (Sample.start none 0).world,
          startRequest (Sample.config 1) (Sample.start none 0).world
            (.terminateSession Sample.user "other")⟩ = some d₂ ∧
      Isolated Sample.user withForeignSession soleSession d₁ d₂ ∧ ∃ o, d₁.frame = .finished o := by
  have fresh {db : Db} (free : db.sessions.get? "session 2" = none) :
      FreshUuids acceptingAnswer db := by
    rintro s running app r uuid answered
    obtain ⟨-, rfl⟩ := Answer.nvcfStarted.inj answered
    exact free
  obtain ⟨d₁, d₂, ran₁, ran₂, same, finishes⟩ :=
    isolated (Sample.config 1) Sample.user (.terminateSession Sample.user "other") 0
      withForeignSession soleSession acceptingAnswer (fun _ => 0) 6 (Sample.start none 0).world rfl
      ⟨by decide, rfl, rfl, Or.inl rfl, Or.inl rfl⟩ ⟨fun _ _ _ _ => rfl, fun _ _ => rfl⟩
      (fresh (by decide)) (fresh (by decide)) (by decide)
  exact ⟨d₁, d₂, ran₁, ran₂, same, finishes (acceptingAnswer_responds _) rfl (by decide)⟩

end StreamingPortal.Sessions
