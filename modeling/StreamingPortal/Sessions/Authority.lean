import StreamingPortal.Shared.Origins
import StreamingPortal.Sessions.AllOrNothing
import StreamingPortal.Sessions.Errors

set_option autoImplicit false

/-!
# Who may have the row of a session changed

Anyone may name any session. A handler looks a row up, checks it, and writes the row later, when
others have written it too; what it has checked is kept with the request that its task goes
back to.
-/

namespace StreamingPortal.Sessions

open Tasks

def Bearer (user : User) (id : String) (cookie : Option String) (row : SessionModel) : Prop :=
  row.id = id ∧ row.userId = user.sub ∧ ∃ value, cookie = some value ∧
    row.nvcfRequestId = some value

section Checks

variable (cfg : Config) (start : State) (acts : List Action)

def Steward (p : Nat) (user : User) (id : String) (row : SessionModel) : Prop :=
  -- The owner, or someone whom this very task has been told to be an administrator.
  row.id = id ∧ (row.userId = user.sub ∨ .answer p (.isAdmin true) ∈ acts)

def Due (due : Int → SessionModel → Bool) (id : String) : Prop :=
  -- The clock and the row that were compared; neither need be the present one.
  ∃ time old, Once (backend cfg) start acts (fun st : State => st.world.now = time) ∧
    Once (backend cfg) start acts (fun st : State => st.session? id = some old) ∧
      due time old = true

def outlived (time : Int) (row : SessionModel) : Bool :=
  timedOut (time - seconds cfg.sessionTtl) row

def abandoned (time : Int) (row : SessionModel) : Bool :=
  expiredIdle (time - seconds cfg.sessionIdleTimeout) row ||
    orphanedIdle (time - seconds cfg.sessionIdleTimeout) row

def lapsed (time : Int) (row : SessionModel) : Bool :=
  expiredIdle (time - seconds cfg.sessionTtl) row

/-- What the request of task `p` may make of a row, `none` where there was no row. -/
inductive MayChange (p : Nat) : Request → Option SessionModel → SessionModel → Prop
  | started (s : StartRequest) (app : PublishedAppModel) (uuid cookie : String) (now : Int)
      (named : app.id = s.appId) :
      MayChange p (.startStream s) none (newSession s app uuid cookie now)
  | connected (user : User) (id : String) (cookie : Option String) (row row' : SessionModel)
      (bearer : Bearer user id cookie row) (fixed : row'.fixed = row.fixed)
      (status : row'.status ∈ [.connecting, .active, .idle, .failed]) :
      MayChange p (.connectToStream user id cookie) (some row) row'
  | blamed (user : User) (id : String) (cookie : Option String) (row : SessionModel)
      (error : String) (bearer : Bearer user id cookie row) (unset : row.error = none) :
      MayChange p (.connectToStream user id cookie) (some row) { row with error := some error }
  | stopped (user : User) (id : String) (cookie : Option String) (row row' : SessionModel)
      (bearer : Bearer user id cookie row) (fixed : row'.fixed = row.fixed)
      (status : row'.status = .stopped) (error : row'.error = row.error) :
      MayChange p (.stopStream user id cookie) (some row) row'
  | terminated (user : User) (id : String) (row row' : SessionModel)
      (steward : Steward acts p user id row) (fixed : row'.fixed = row.fixed)
      (status : row'.status = .stopped) (error : row'.error = row.error) :
      MayChange p (.terminateSession user id) (some row) row'
  | reported (user : User) (id : String) (row : SessionModel) (error : Option String)
      (steward : Steward acts p user id row) :
      MayChange p (.updateSession user id (some error)) (some row) { row with error := error }
  | checked (user : User) (id path : String) (row : SessionModel) (status : SessionStatus)
      (owner : row.id = id ∧ row.userId = user.sub) (due : Due cfg start acts (lapsed cfg) row.id)
      (terminal : status ∈ [.expired, .failed]) :
      MayChange p (.checkSession user id path) (some row) { row with status := status }
  | timedOut (row row' : SessionModel) (due : Due cfg start acts (outlived cfg) row.id)
      (fixed : row'.fixed = row.fixed) (status : row'.status ∈ [.expired, .failed])
      (error : row'.error = row.error) :
      MayChange p .watchSessionTimeout (some row) row'
  | idled (row : SessionModel) (status : SessionStatus) (duration : Int)
      (due : Due cfg start acts (abandoned cfg) row.id) (terminal : status ∈ [.expired, .failed]) :
      MayChange p .watchIdleSessions (some row)
        { row with status := status, duration := duration }

end Checks

/-! ## What a frame keeps of the request -/

def SessionQueryCaller.request (user : User) (id : String) : SessionQueryCaller → Request
  | .getSession => .getSession user id
  | .updateSession error => .updateSession user id error
  | .terminateSession => .terminateSession user id

section Belongs

variable (cfg : Config) (start : State) (acts : List Action) (p : Nat) (r : Request)

def ConnectBelongs (f : ConnectFrame) : Prop :=
  ∃ user id cookie, r = .connectToStream user id cookie ∧
    match f with
    | .accepting u i c => u = user ∧ i = id ∧ c = cookie
    | .loading u i c => u = user ∧ i = id ∧ cookie = some c
    | f => ∀ s ∈ connectCopies f, Bearer user id cookie s.row

def CallBelongs (e : EndCall) : Prop :=
  match e.caller with
  | .stopStream => e.finalStatus = .stopped ∧
      ∃ user id cookie, r = .stopStream user id cookie ∧ Bearer user id cookie e.session.row
  | .terminateSession => e.finalStatus = .stopped ∧
      ∃ user id, r = .terminateSession user id ∧ Steward acts p user id e.session.row
  | .watchSessionTimeout rest => e.finalStatus ∈ [.expired, .failed] ∧ r = .watchSessionTimeout ∧
      ∀ s ∈ e.session :: rest, Due cfg start acts (outlived cfg) s.row.id

def EndBelongs : EndFrame → Prop
  | .deleting e | .closingWebsocket e _ | .saving e _ => CallBelongs cfg start acts p r e

def RequestBelongs : RequestFrame → Prop
  | .querying user id caller => r = caller.request user id
  | .askingAdmin user id s caller => r = caller.request user id ∧ s.row.id = id
  | .savingError s => ∃ user id error, r = .updateSession user id (some error) ∧
      Steward acts p user id s.row ∧ s.row.error = error
  | .stopping user id cookie => r = .stopStream user id (some cookie)
  | .checking user id path => r = .checkSession user id path
  | .savingCheck s => s.row.status ∈ [.expired, .failed] ∧
      ∃ user id path, r = .checkSession user id path ∧ s.row.id = id ∧ s.row.userId = user.sub ∧
        Due cfg start acts (lapsed cfg) s.row.id
  | _ => True

def StartBelongs : StartFrame → Prop
  | .entering s | .counting s | .gettingApp s _ => r = .startStream s
  | .posting s _ app => r = .startStream s ∧ app.id = s.appId
  | .creating s _ app row cookie => r = .startStream s ∧ app.id = s.appId ∧
      ∃ uuid now, row = newSession s app uuid cookie now
  | .leaving _ => True

def CutoffBelongs (ttl cutoff : Int) : Prop :=
  ∃ time, Once (backend cfg) start acts (fun st : State => st.world.now = time) ∧
    cutoff = time - seconds ttl

def WatchBelongs : WatchFrame → Prop
  | .queryingTimedOut cutoff => r = .watchSessionTimeout ∧
      CutoffBelongs cfg start acts cfg.sessionTtl cutoff
  | .sleepingTimeout => r = .watchSessionTimeout
  | .queryingExpired cutoff => r = .watchIdleSessions ∧
      CutoffBelongs cfg start acts cfg.sessionIdleTimeout cutoff
  | .queryingOrphaned expired cutoff => r = .watchIdleSessions ∧
      CutoffBelongs cfg start acts cfg.sessionIdleTimeout cutoff ∧
        ∀ s ∈ expired, Due cfg start acts (abandoned cfg) s.row.id
  | .savingExpiry s rest _ => r = .watchIdleSessions ∧ s.row.status ∈ [.expired, .failed] ∧
      ∀ s' ∈ s :: rest, Due cfg start acts (abandoned cfg) s'.row.id
  | .sleepingIdle => r = .watchIdleSessions

def Belongs : Frame → Prop
  | .connect f => ConnectBelongs r f
  | .ending f => EndBelongs cfg start acts p r f
  | .request f => RequestBelongs cfg start acts p r f
  | .start f => StartBelongs r f
  | .watch f => WatchBelongs cfg start acts r f
  | .finished _ => True

end Belongs

/-! ## What an answer tells -/

/-- The session as the table had it at some moment of the call. -/
def Read (cfg : Config) (start : State) (acts : List Action) (p : Nat) (s : SessionInstance) :
    Prop :=
  Meanwhile (backend cfg) start acts p fun st : State =>
    st.session? s.row.id = some s.row ∧ s = st.store.load s.row

def DbOp.selects : DbOp → SessionModel → Prop
  | .getSession id cookie userId, row => row.id = id ∧
      (∀ n, cookie = some n → row.nvcfRequestId = some n) ∧ ∀ u, userId = some u → row.userId = u
  | .timedOutSessions cutoff, row => timedOut cutoff row = true
  | .expiredSessions cutoff, row => expiredIdle cutoff row = true
  | .orphanedSessions cutoff, row => orphanedIdle cutoff row = true
  | _, _ => True

structure Fits (cfg : Config) (start : State) (acts : List Action) (p : Nat) (op : DbOp)
    (a : Answer) : Prop where
  copies : ∀ s ∈ a.copies, op.selects s.row ∧ Read cfg start acts p s
  app : ∀ id app, op = .getApp id → a = .app (some app) → app.id = id

def Given (cfg : Config) (start : State) (acts : List Action) (p : Nat) (f : Frame) (a : Answer) :
    Prop :=
  (∃ op, frameOp f = some op ∧
      (a = .raised ∨
        Meanwhile (backend cfg) start acts p fun st => (st.store.perform cfg p op).2 = a)) ∨
    frameOp f = none ∧ .answer p a ∈ acts

section

variable {cfg : Config} {start : State} {acts : List Action} {p : Nat} {r : Request}

theorem Read.stored {s : SessionInstance} (read : Read cfg start acts p s) :
    Once (backend cfg) start acts fun st : State => st.session? s.row.id = some s.row :=
  (Meanwhile.imp (fun _ held => held.1) read).once

theorem perform_copied {cfg : Config} {db : Db} {p : Nat} {op : DbOp} {s : SessionInstance}
    (copied : s ∈ (db.perform cfg p op).2.copies) :
    op.selects s.row ∧ db.sessions.get? s.row.id = some s.row ∧ s = db.load s.row := by
  cases op with
  | getSession id cookie userId =>
      have found : db.getSession id cookie userId = some s := Option.mem_toList.mp copied
      obtain ⟨stored, loaded, bearer, owner⟩ := Db.getSession_eq_some found
      have named := (Table.mem_of_get? stored).2
      exact ⟨⟨named, bearer, owner⟩, by rwa [named], loaded⟩
  | timedOutSessions | expiredSessions | orphanedSessions =>
      obtain ⟨stored, loaded, due⟩ := Db.mem_selectSessions copied
      exact ⟨due, stored, loaded⟩
  | fetchSessions q order descending offset limit =>
      have arranged := List.mem_of_mem_drop (List.mem_of_mem_take copied)
      have selected := (cfg.arrange_perm order descending _).mem_iff.mp arranged
      obtain ⟨stored, loaded, -⟩ := Db.mem_selectSessions selected
      exact ⟨trivial, stored, loaded⟩
  | createSession row =>
      simp only [Db.perform, Db.createSession] at copied
      split at copied <;> simp [Answer.copies] at copied
  | countSessions | getApp | save | setErrorIfNull | beginTransaction | endTransaction =>
      simp [Db.perform, Answer.copies] at copied

theorem Given.performed {f : Frame} {op : DbOp} {a : Answer} (awaits : frameOp f = some op)
    (result : a ≠ .raised) (given : Given cfg start acts p f a) :
    Meanwhile (backend cfg) start acts p fun st => (st.store.perform cfg p op).2 = a := by
  rcases given with ⟨op', awaits', outcome⟩ | ⟨external, -⟩
  · obtain rfl := Option.some.inj (awaits.symm.trans awaits')
    exact outcome.resolve_left result
  · simp [external] at awaits

theorem Given.fits {f : Frame} {op : DbOp} {a : Answer} (awaits : frameOp f = some op)
    (given : Given cfg start acts p f a) : Fits cfg start acts p op a := by
  by_cases result : a = .raised
  · subst result
    exact ⟨by simp [Answer.copies], by simp⟩
  · have performed := given.performed awaits result
    refine ⟨fun s copied => ?_, ?_⟩
    · obtain ⟨st, same⟩ := performed.state
      have read : Read cfg start acts p s := performed.imp fun st same => by
        exact (perform_copied (same ▸ copied)).2
      exact ⟨(perform_copied (same ▸ copied)).1, read⟩
    · rintro id app rfl rfl
      obtain ⟨st, same⟩ := performed.state
      have stored : st.store.apps.get? id = some app := Answer.app.inj same
      exact (Table.mem_of_get? stored).2

/-! ## Nothing that is known gets lost -/

theorem Steward.more {user : User} {id : String} {row : SessionModel} (act : Action)
    (steward : Steward acts p user id row) : Steward (acts ++ [act]) p user id row :=
  ⟨steward.1, steward.2.imp_right fun told => List.mem_append_left _ told⟩

theorem Due.more {due : Int → SessionModel → Bool} {id : String} (act : Action)
    (held : Due cfg start acts due id) : Due cfg start (acts ++ [act]) due id := by
  obtain ⟨time, old, clock, stored, compared⟩ := held
  exact ⟨time, old, clock.more act, stored.more act, compared⟩

theorem CutoffBelongs.more {ttl cutoff : Int} (act : Action)
    (known : CutoffBelongs cfg start acts ttl cutoff) :
    CutoffBelongs cfg start (acts ++ [act]) ttl cutoff := by
  obtain ⟨time, clock, same⟩ := known
  exact ⟨time, clock.more act, same⟩

theorem CallBelongs.more {e : EndCall} (act : Action) (known : CallBelongs cfg start acts p r e) :
    CallBelongs cfg start (acts ++ [act]) p r e := by
  unfold CallBelongs at known ⊢
  split
  next caller => simpa [caller] using known
  next caller =>
    simp only [caller] at known
    obtain ⟨stopped, user, id, asked, steward⟩ := known
    exact ⟨stopped, user, id, asked, steward.more act⟩
  next rest caller =>
    simp only [caller] at known
    obtain ⟨terminal, asked, due⟩ := known
    exact ⟨terminal, asked, fun s inside => (due s inside).more act⟩

theorem Belongs.more {f : Frame} (act : Action) (known : Belongs cfg start acts p r f) :
    Belongs cfg start (acts ++ [act]) p r f := by
  cases f with
  | connect | start | finished => exact known
  | ending f => cases f <;> exact CallBelongs.more act known
  | request f =>
      cases f with
      | savingError s =>
          obtain ⟨user, id, error, asked, steward, same⟩ := known
          exact ⟨user, id, error, asked, steward.more act, same⟩
      | savingCheck s =>
          obtain ⟨terminal, user, id, path, asked, named, owner, due⟩ := known
          exact ⟨terminal, user, id, path, asked, named, owner, due.more act⟩
      | _ => exact known
  | watch f =>
      cases f with
      | queryingTimedOut | queryingExpired => exact ⟨known.1, known.2.more act⟩
      | queryingOrphaned expired cutoff =>
          obtain ⟨asked, cut, due⟩ := known
          exact ⟨asked, cut.more act, fun s inside => (due s inside).more act⟩
      | savingExpiry s rest now =>
          obtain ⟨asked, terminal, due⟩ := known
          exact ⟨asked, terminal, fun s inside => (due s inside).more act⟩
      | sleepingTimeout | sleepingIdle => exact known

theorem Given.more {f : Frame} {a : Answer} (act : Action) (given : Given cfg start acts p f a) :
    Given cfg start (acts ++ [act]) p f a := by
  rcases given with ⟨op, awaits, outcome⟩ | ⟨external, told⟩
  · exact Or.inl ⟨op, awaits, outcome.imp_right (Meanwhile.more act)⟩
  · exact Or.inr ⟨external, List.mem_append_left _ told⟩

/-! ## The handlers keep what they have checked -/

theorem columns_of_fixed {row row' : SessionModel} (fixed : row'.fixed = row.fixed) :
    row'.id = row.id ∧ row'.userId = row.userId ∧ row'.nvcfRequestId = row.nvcfRequestId := by
  obtain ⟨id, -, -, cookie, -, user, -⟩ := SessionModel.mk.inj fixed
  exact ⟨id, user, cookie⟩

theorem Bearer.congr {user : User} {id : String} {cookie : Option String}
    {row row' : SessionModel} (fixed : row'.fixed = row.fixed)
    (bearer : Bearer user id cookie row) : Bearer user id cookie row' := by
  obtain ⟨sameId, sameUser, sameCookie⟩ := columns_of_fixed fixed
  obtain ⟨named, owner, value, given, held⟩ := bearer
  exact ⟨sameId.trans named, sameUser.trans owner, value, given, sameCookie.trans held⟩

theorem Steward.congr {user : User} {id : String} {row row' : SessionModel}
    (fixed : row'.fixed = row.fixed) (steward : Steward acts p user id row) :
    Steward acts p user id row' := by
  obtain ⟨sameId, sameUser, -⟩ := columns_of_fixed fixed
  exact ⟨sameId.trans steward.1, steward.2.imp_left fun owner => sameUser.trans owner⟩

theorem watcherTerminalStatus_cases (s : SessionInstance) :
    watcherTerminalStatus s ∈ [.expired, .failed] := by
  unfold watcherTerminalStatus
  repeat' split
  all_goals decide

theorem ConnectBelongs.copies {f : ConnectFrame} (known : ConnectBelongs r f) :
    ∃ user id cookie, r = .connectToStream user id cookie ∧
      ∀ s ∈ connectCopies f, Bearer user id cookie s.row := by
  obtain ⟨user, id, cookie, asked, kept⟩ := known
  refine ⟨user, id, cookie, asked, ?_⟩
  cases f with
  | accepting | loading => simp [connectCopies]
  | _ => exact kept

theorem connectResume_given {w w' : World} {f : ConnectFrame} {a : Answer} {f' : Frame}
    {s : SessionInstance} (h : connectResume w p f a = some (w', f'))
    (given : s ∈ givenCopies (.connect f) a) :
    ∃ user id cookie, f = .loading user id cookie ∧ a = .session (some s) := by
  cases connectResume_cases h with
  | loaded user id cookie found =>
      exact ⟨user, id, cookie, rfl, by simpa [givenCopies, frameOp, connectOp, Answer.copies]
        using given⟩
  | _ => simp [givenCopies, frameOp, connectOp, Answer.copies] at given

theorem connectResume_checked {w w' : World} {f : ConnectFrame} {a : Answer} {f' : Frame}
    (h : connectResume w p f a = some (w', f')) :
    (∃ user id cookie, f = .accepting user id cookie) ∨
      ∀ g, f' = .connect g → (∀ user id cookie, g ≠ .accepting user id cookie) ∧
        ∀ user id cookie, g ≠ .loading user id cookie := by
  cases connectResume_cases h with
  | noCookie user id cookie | accepted user id cookie | acceptFailed user id cookie =>
      exact Or.inl ⟨user, id, cookie, rfl⟩
  | loaded =>
      right
      unfold checkAdmission
      repeat' split
      all_goals
        intro g same
        cases same
        simp
  | saveConnectingFailed | openFailed | closed | closeFailed =>
      right
      unfold cleanup
      simp only
      repeat' split
      all_goals
        intro g same
        cases same
        simp
  | _ =>
      right
      intro g same
      cases same <;> simp

theorem belongs_connectResume {w w' : World} {f : ConnectFrame} {a : Answer} {f' : Frame}
    (known : ConnectBelongs r f) (given : Given cfg start acts p (.connect f) a)
    (h : connectResume w p f a = some (w', f')) : Belongs cfg start acts p r f' := by
  obtain ⟨user, id, cookie, asked, mine⟩ := known.copies
  -- The copies in the next frame are those at hand and the one just loaded.
  have bearers (s : SessionInstance) (copied : s ∈ frameCopies f') :
      Bearer user id cookie s.row := by
    have from' := connectResume_copies h (List.mem_map_of_mem copied)
    rcases List.mem_append.mp from' with old | new
    · obtain ⟨s₀, held, fixed⟩ := List.mem_map.mp old
      exact (mine s₀ held).congr fixed.symm
    · obtain ⟨s₀, loaded, fixed⟩ := List.mem_map.mp new
      obtain ⟨user', id', value, rfl, rfl⟩ := connectResume_given h loaded
      obtain ⟨user₀, id₀, cookie₀, asked₀, rfl, rfl, rfl⟩ := known
      obtain ⟨rfl, rfl, rfl⟩ := Request.connectToStream.inj (asked₀.symm.trans asked)
      obtain ⟨⟨named, held, owner⟩, -⟩ := (given.fits rfl).copies s₀ (by simp [Answer.copies])
      exact Bearer.congr fixed.symm ⟨named, owner _ rfl, value, rfl, held _ rfl⟩
  rcases connectResume_checked h with ⟨user', id', cookie', rfl⟩ | onward
  · obtain ⟨user₀, id₀, cookie₀, asked₀, rfl, rfl, rfl⟩ := known
    cases connectResume_cases h with
    | noCookie => exact ⟨user', id', cookie', asked₀, by simp [connectCopies]⟩
    | accepted _ _ _ some' =>
        refine ⟨user', id', cookie', asked₀, rfl, rfl, ?_⟩
        cases cookie' with
        | none => exact absurd rfl some'
        | some => rfl
    | acceptFailed => trivial
  · have kind := connectResume_kind h
    cases f' with
    | connect g =>
        obtain ⟨accepting, loading⟩ := onward g rfl
        refine ⟨user, id, cookie, asked, ?_⟩
        cases g with
        | accepting u i c => exact absurd rfl (accepting u i c)
        | loading u i c => exact absurd rfl (loading u i c)
        | _ => exact bearers
    | finished => trivial
    | ending | request | start | watch => simp [Frame.kind, Kind.next] at kind

theorem belongs_terminateTimedOut {sessions : List SessionInstance}
    (asked : r = .watchSessionTimeout)
    (due : ∀ s ∈ sessions, Due cfg start acts (outlived cfg) s.row.id) :
    Belongs cfg start acts p r (terminateTimedOut sessions) := by
  cases sessions with
  | nil => exact asked
  | cons s rest => exact ⟨watcherTerminalStatus_cases s, asked, due⟩

theorem belongs_return {e : EndCall} (known : CallBelongs cfg start acts p r e)
    (response : Response) : Belongs cfg start acts p r (e.caller.return response) := by
  unfold CallBelongs at known
  split at known
  next caller =>
    rw [caller]
    trivial
  next caller =>
    rw [caller]
    trivial
  next rest caller =>
    rw [caller]
    obtain ⟨-, asked, due⟩ := known
    exact belongs_terminateTimedOut asked fun s inside => due s (List.mem_cons_of_mem _ inside)

theorem CallBelongs.marked {e : EndCall} (now : Int) (known : CallBelongs cfg start acts p r e) :
    CallBelongs cfg start acts p r
      { e with session := e.session.markEnded e.finalStatus now } := by
  obtain ⟨s, reason, status, caller⟩ := e
  cases caller with
  | stopStream | terminateSession => exact known
  | watchSessionTimeout rest =>
      obtain ⟨terminal, asked, due⟩ := known
      exact ⟨terminal, asked, List.forall_mem_cons.mpr (List.forall_mem_cons.mp due)⟩

theorem belongs_endResume {w w' : World} {f : EndFrame} {a : Answer} {f' : Frame}
    (known : EndBelongs cfg start acts p r f) (h : endResume w f a = some (w', f')) :
    Belongs cfg start acts p r f' := by
  cases endResume_cases h with
  | deleted => exact known
  | answered | closed => exact CallBelongs.marked w.now known
  | timedOut | saved => exact belongs_return known _
  | raised => trivial

theorem belongs_withSession {user : User} {id : String} {s : SessionInstance}
    {caller : SessionQueryCaller} (asked : r = caller.request user id)
    (steward : Steward acts p user id s.row) :
    Belongs cfg start acts p r (withSession user s caller) := by
  cases caller with
  | getSession => trivial
  | updateSession error =>
      cases error with
      | none => trivial
      | some error => exact ⟨user, id, error, asked, steward, rfl⟩
  | terminateSession =>
      unfold withSession terminateSession
      simp only
      split
      · trivial
      · exact ⟨rfl, user, id, asked, steward⟩

theorem Given.session {f : Frame} {op : DbOp} {s : SessionInstance} (awaits : frameOp f = some op)
    (given : Given cfg start acts p f (.session (some s))) :
    op.selects s.row ∧ Read cfg start acts p s :=
  (given.fits awaits).copies s (by simp [Answer.copies])

theorem belongs_requestResume {w : World} {f : RequestFrame} {a : Answer} {f' : Frame}
    (clock : Once (backend cfg) start acts fun st : State => st.world.now = w.now)
    (known : RequestBelongs cfg start acts p r f) (given : Given cfg start acts p (.request f) a)
    (h : requestResume cfg w f a = some f') : Belongs cfg start acts p r f' := by
  cases requestResume_cases h with
  | queried user id caller found =>
      cases found with
      | none => trivial
      | some s =>
          obtain ⟨⟨named, -⟩, -⟩ := given.session rfl
          unfold querySession
          simp only
          split
          next owner => exact belongs_withSession known ⟨named, Or.inl owner⟩
          next => exact ⟨known, named⟩
  | admitted user id s caller =>
      obtain ⟨asked, named⟩ := known
      obtain ⟨op, awaits, -⟩ | ⟨-, told⟩ := given
      · contradiction
      · exact belongs_withSession asked ⟨named, Or.inr told⟩
  | stopped user id cookie found =>
      unfold stopStream
      split
      next => trivial
      next s =>
        obtain ⟨⟨named, held, -⟩, -⟩ := given.session rfl
        split
        next => trivial
        next mine =>
          have owner : s.row.userId = user.sub := by
            by_contra other
            exact mine (Or.inl other)
          exact ⟨rfl, user, id, some cookie, known, named, owner, cookie, rfl, held _ rfl⟩
  | checked user id path found =>
      unfold checkSession
      split
      next => trivial
      next s =>
        obtain ⟨⟨named, -, owner⟩, read⟩ := given.session rfl
        split
        next => trivial
        next =>
          split
          next outlasted =>
            have compared : lapsed cfg w.now s.row = true := by
              simpa [lapsed, expiredIdle] using outlasted
            exact ⟨watcherTerminalStatus_cases s, user, id, path, known, named, owner _ rfl,
              w.now, s.row, clock, read.stored, compared⟩
          next => trivial
  | refused | savedError | savedCheck | askedListAdmin | counted | fetched | raised => trivial

theorem belongs_startResume {w w' : World} {f : StartFrame} {a : Answer} {f' : Frame}
    (known : StartBelongs r f) (given : Given cfg start acts p (.start f) a)
    (h : startResume cfg w f a = some (w', f')) : Belongs cfg start acts p r f' := by
  cases startResume_cases h with
  | entered | counted => exact known
  | gotApp s running app =>
      exact ⟨known, (given.fits rfl).app s.appId app rfl rfl⟩
  | started s running app response uuid cookie =>
      exact ⟨known.1, known.2, uuid, w.now, rfl⟩
  | notEntered | full | noApp | notStarted | timedOut | created | left | raised => trivial

theorem Given.due {f : Frame} {op : DbOp} {sessions : List SessionInstance} {ttl cutoff : Int}
    {due : Int → SessionModel → Bool} (awaits : frameOp f = some op)
    (given : Given cfg start acts p f (.sessions sessions))
    (cut : CutoffBelongs cfg start acts ttl cutoff)
    (compares : ∀ time row, cutoff = time - seconds ttl → op.selects row → due time row = true) :
    ∀ s ∈ sessions, Due cfg start acts due s.row.id := by
  intro s inside
  obtain ⟨selected, read⟩ := (given.fits awaits).copies s inside
  obtain ⟨time, clock, same⟩ := cut
  exact ⟨time, s.row, clock, read.stored, compares time s.row same selected⟩

theorem belongs_stopIdle {sessions : List SessionInstance} (now : Int)
    (asked : r = .watchIdleSessions)
    (due : ∀ s ∈ sessions, Due cfg start acts (abandoned cfg) s.row.id) :
    Belongs cfg start acts p r (stopIdle now sessions) := by
  cases sessions with
  | nil => exact asked
  | cons s rest =>
      exact ⟨asked, watcherTerminalStatus_cases s,
        List.forall_mem_cons.mpr (List.forall_mem_cons.mp due)⟩

theorem belongs_watchResume {w w' : World} {f : WatchFrame} {a : Answer} {f' : Frame}
    (clock : Once (backend cfg) start acts fun st : State => st.world.now = w.now)
    (known : WatchBelongs cfg start acts r f) (given : Given cfg start acts p (.watch f) a)
    (h : watchResume cfg w f a = some (w', f')) : Belongs cfg start acts p r f' := by
  cases watchResume_cases h with
  | timedOut cutoff sessions =>
      refine belongs_terminateTimedOut known.1 (given.due rfl known.2 ?_)
      rintro time row rfl selected
      exact selected
  | expired cutoff expired =>
      refine ⟨known.1, ⟨w.now, clock, rfl⟩, given.due rfl known.2 ?_⟩
      rintro time row rfl selected
      exact Bool.or_eq_true_iff.mpr (Or.inl selected)
  | orphaned expired cutoff orphaned =>
      obtain ⟨asked, cut, due⟩ := known
      refine belongs_stopIdle _ asked fun s inside => ?_
      rcases List.mem_append.mp inside with first | second
      · exact due s first
      · refine given.due rfl cut ?_ s second
        rintro time row rfl selected
        exact Bool.or_eq_true_iff.mpr (Or.inr selected)
  | saved s rest now =>
      obtain ⟨asked, -, due⟩ := known
      exact belongs_stopIdle _ asked fun s inside => due s (List.mem_cons_of_mem _ inside)
  | timeoutSlept => exact ⟨known, w.now, clock, rfl⟩
  | idleSlept => exact ⟨known, w.now, clock, rfl⟩
  | raised => trivial

theorem belongs_resume {w w' : World} {f f' : Frame} {a : Answer}
    (clock : Once (backend cfg) start acts fun st : State => st.world.now = w.now)
    (known : Belongs cfg start acts p r f) (given : Given cfg start acts p f a)
    (h : resumeFrame cfg w p f a = some (w', f')) : Belongs cfg start acts p r f' := by
  cases f with
  | connect f => exact belongs_connectResume known given h
  | ending f => exact belongs_endResume known h
  | request f =>
      obtain ⟨next, resumed, same⟩ := Option.map_eq_some_iff.mp h
      obtain ⟨-, rfl⟩ := Prod.mk.inj same
      exact belongs_requestResume clock known given resumed
  | start f => exact belongs_startResume known given h
  | watch f => exact belongs_watchResume clock known given h
  | finished => contradiction

theorem belongs_start (w : World)
    (clock : Once (backend cfg) start acts fun st : State => st.world.now = w.now)
    (r : Request) : Belongs cfg start acts p r (startRequest cfg w r) := by
  cases r with
  | connectToStream user id cookie =>
      simp only [startRequest, startConnect]
      split
      · trivial
      · exact ⟨user, id, cookie, rfl, rfl, rfl, rfl⟩
  | stopStream user id cookie =>
      cases cookie with
      | none => trivial
      | some cookie => exact rfl
  | updateSession user id error =>
      simp only [startRequest, startUpdateSession]
      repeat' split
      all_goals trivial
  | getSessions l =>
      simp only [startRequest, getSessions]
      repeat' split
      all_goals trivial
  | startStream s =>
      simp only [startRequest, startStream]
      split
      · trivial
      · exact rfl
  | terminateSession | checkSession | getSession => exact rfl
  | watchSessionTimeout | watchIdleSessions => exact ⟨rfl, w.now, clock, rfl⟩

end

def Kept (cfg : Config) (start : State) (acts : List Action) (p : Nat) (r : Request) (t : Task) :
    Prop :=
  Belongs cfg start acts p r t.frame ∧ ∀ a, t.answer = some a → Given cfg start acts p t.frame a

theorem clock_now {cfg : Config} {start st : State} {acts : List Action}
    (reached : run cfg start acts = some st) :
    Once (backend cfg) start acts fun past : State => past.world.now = st.world.now :=
  once_now reached rfl

theorem origin_kept (cfg : Config) (start : State) :
    Origin (backend cfg) start (Kept cfg start) where
  more act known := ⟨known.1.more act, fun a is => (known.2 a is).more act⟩
  started r reached := ⟨belongs_start _ (clock_now reached) r, by simp⟩
  executed reached task known awaits effect := by
    refine ⟨known.1.more _, ?_⟩
    rintro a ⟨⟩
    obtain ⟨-, -, rfl⟩ := perform_of_effect effect
    exact Or.inl ⟨_, awaits, Or.inr (Meanwhile.more _ (meanwhile_now reached task rfl))⟩
  raised known awaits effect := by
    refine ⟨known.1, ?_⟩
    rintro a ⟨⟩
    obtain rfl := failure_raised effect
    exact Or.inl ⟨_, awaits, Or.inl rfl⟩
  resumed reached _ known effect :=
    ⟨belongs_resume (clock_now reached) known.1 (known.2 _ rfl) effect, by simp⟩
  answered reached _ known awaits effect :=
    ⟨belongs_resume ((clock_now reached).more _) (known.1.more _)
      (Or.inr ⟨awaits, by simp⟩) effect, by simp⟩

/-! ## Every change of a row -/

theorem mayChange_saved {cfg : Config} {start : State} {acts : List Action} {p : Nat} {r : Request}
    {f : Frame} {s : SessionInstance} {fields : List Column} {row : SessionModel}
    (saves : SaveFrame f s fields) (known : Belongs cfg start acts p r f) (prepared : Prepared f)
    (fixed : row.fixed = s.row.fixed) :
    MayChange cfg start acts p r (some row) (s.row.assign fields row) := by
  obtain ⟨sameId, sameUser, -⟩ := columns_of_fixed fixed
  cases saves with
  | connecting c =>
      obtain ⟨user, id, cookie, rfl, mine⟩ := known
      refine .connected user id cookie row _ (.congr fixed (mine _ List.mem_cons_self)) rfl ?_
      simp [SessionModel.assign, prepared.1]
  | active c =>
      obtain ⟨user, id, cookie, rfl, mine⟩ := known
      have active : c.session.row.status = .active := prepared
      refine .connected user id cookie row _ (.congr fixed (mine _ List.mem_cons_self)) rfl ?_
      simp [SessionModel.assign, active]
  | failed c =>
      obtain ⟨user, id, cookie, rfl, mine⟩ := known
      refine .connected user id cookie row _ (.congr fixed (mine _ List.mem_cons_self)) rfl ?_
      simp [SessionModel.assign, prepared.1]
  | idle c =>
      obtain ⟨user, id, cookie, rfl, mine⟩ := known
      refine .connected user id cookie row _ (.congr fixed (mine _ List.mem_cons_self)) rfl ?_
      simp [SessionModel.assign, prepared.1]
  | ended e response =>
      obtain ⟨-, status, -⟩ := prepared
      obtain ⟨s, reason, final, caller⟩ := e
      cases caller with
      | stopStream =>
          obtain ⟨rfl, user, id, cookie, rfl, bearer⟩ := known
          refine .stopped user id cookie row _ (.congr fixed bearer) rfl ?_ rfl
          simpa [SessionModel.assign] using status
      | terminateSession =>
          obtain ⟨rfl, user, id, rfl, steward⟩ := known
          refine .terminated user id row _ (.congr fixed steward) rfl ?_ rfl
          simpa [SessionModel.assign] using status
      | watchSessionTimeout rest =>
          obtain ⟨terminal, rfl, due⟩ := known
          refine .timedOut row _ (sameId ▸ due s List.mem_cons_self) rfl ?_ rfl
          have status : s.row.status = final := status
          simpa [SessionModel.assign, status] using terminal
  | error s =>
      obtain ⟨user, id, error, rfl, steward, rfl⟩ := known
      exact .reported user id row s.row.error (.congr fixed steward)
  | check s =>
      obtain ⟨terminal, user, id, path, rfl, named, owner, due⟩ := known
      exact .checked user id path row s.row.status ⟨sameId.trans named, sameUser.trans owner⟩
        (sameId ▸ due) terminal
  | expiry s rest now =>
      obtain ⟨rfl, terminal, due⟩ := known
      exact .idled row s.row.status s.row.duration (sameId ▸ due s List.mem_cons_self) terminal

/-- In whatever order the tasks run, a row changes only as the request behind it may change it. -/
theorem changes_authorised {cfg : Config} {sessions : SessionTable} {apps : AppTable} {now : Int}
    {acts : List Action} {st st' : State} {act : Action} {id : String}
    (reached : run cfg (init sessions apps now) acts = some st)
    (taken : step cfg st act = some st') (changed : st'.session? id ≠ st.session? id) :
    ∃ p r row', act = .execute p ∧ (Tasks.requests acts)[p]? = some r ∧
      st'.session? id = some row' ∧
      MayChange cfg (init sessions apps now) acts p r (st.session? id) row' := by
  cases step_cases taken with
  | request | raise | resume | answer | tick => exact absurd rfl changed
  | execute p f op db a task awaits effect =>
      obtain ⟨-, rfl, -⟩ := perform_of_effect effect
      obtain ⟨r, asked, known, -⟩ := (origin_kept cfg _).run rfl reached task
      have stays : ∃ row', (st.store.perform cfg p op).1.sessions.get? id = some row' := by
        cases before : st.session? id with
        | some row =>
            obtain ⟨row', stored', -⟩ := perform_stored cfg p before op
            exact ⟨row', stored'⟩
        | none => exact Option.ne_none_iff_exists'.mp (before ▸ changed)
      obtain ⟨row', stored'⟩ := stays
      refine ⟨p, r, row', rfl, asked, stored', ?_⟩
      have fixed := columnsFixed_run reached
      have prepared := allPrepared_run (allPrepared_init sessions apps now) reached p f
        (State.frame?_of_task task)
      have change : RowChange id op (st.session? id) row' := perform_row stored'
      generalize before : st.session? id = old at change
      cases change with
      | kept => exact absurd (stored'.trans before.symm) changed
      | saved s fields row target =>
          have saves := saveFrame_of_op awaits
          obtain ⟨row₀, stored, same⟩ := fixed.stored task (frameCopies_of_save saves)
          obtain rfl : row = row₀ := Option.some.inj (before.symm.trans (target ▸ stored))
          exact mayChange_saved saves known prepared same
      | errorSet error row unset =>
          obtain ⟨c, rfl, rfl⟩ := recordFrame_of_op awaits
          obtain ⟨user, name, cookie, rfl, mine⟩ := known
          obtain ⟨row₀, stored, same⟩ := fixed.stored task List.mem_cons_self
          obtain rfl : row = row₀ := Option.some.inj (before.symm.trans stored)
          exact .blamed user name cookie row error (.congr same (mine _ List.mem_cons_self)) unset
      | created row target =>
          obtain ⟨s, running, app, cookie, rfl⟩ := createFrame_of_op awaits
          obtain ⟨rfl, named, uuid, moment, rfl⟩ := known
          exact .started s app uuid cookie moment named

def terminatedByAdmin : List Action :=
  [.request (.terminateSession ⟨"admin", "Admin"⟩ "session"), .execute 0, .resume 0,
    .answer 0 (.isAdmin true), .answer 0 (.nvcf Sample.ok)]

theorem changes_authorised_byAdmin :
    ∃ st st', run (Sample.config 1) (Sample.start none 0) terminatedByAdmin = some st ∧
      step (Sample.config 1) st (.execute 0) = some st' ∧
      ∃ p r row', Tasks.Action.execute 0 = (.execute p : Action) ∧
        (Tasks.requests terminatedByAdmin)[p]? = some r ∧ st'.session? "session" = some row' ∧
        MayChange (Sample.config 1) (Sample.start none 0) terminatedByAdmin p r
          (st.session? "session") row' :=
  ⟨_, _, rfl, rfl, changes_authorised rfl rfl (by decide)⟩

end StreamingPortal.Sessions
