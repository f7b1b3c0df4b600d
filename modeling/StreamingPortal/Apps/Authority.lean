import StreamingPortal.Apps.Catalogue
import StreamingPortal.Shared.Thin

set_option autoImplicit false

/-!
# Who may have the catalogue changed

A handler is let in, may look the application up by its function and fetch it, and writes the
table some awaits later. What it writes is traced to its request.
-/

namespace StreamingPortal.Apps.Catalogue

open Tasks

variable {υ : Type} [DecidableEq υ]

/-- What a row becomes by a write, and a new row where there is none. -/
def wrote (now : Int) (fields : AppFields υ) (id : String) (old : Option (PublishedApp υ)) :
    PublishedApp υ :=
  stamped now (old.elim (fields.create id) fields.applyTo)

section Checks

variable (b : Backend υ) (start : State υ) (acts : List (Action υ)) (p : Nat)

/-- The identity provider has been asked for this very call, and the user is let in. -/
def LetIn (r : Request) : Prop :=
  ∃ idp, .answer p (.user idp) ∈ acts ∧ permits b idp r = .ok ()

def Seen (app : PublishedApp υ) : Prop :=
  Meanwhile (backend b) start acts p fun st => st.store.get? app.id = some app

/-- The application that the arguments of a tool name. -/
inductive Names : Option String → Option String → Option String → String → Prop
  | appId (functionId functionVersionId : Option String) (id : String) (given : id ≠ "") :
      Names (some id) functionId functionVersionId id
  | function (appId : Option String) (functionId functionVersionId : String)
      (app : PublishedApp υ) (blank : appId.getD "" = "")
      (function : b.uuids.parse functionId = some app.functionId)
      (version : b.uuids.parse functionVersionId = some app.functionVersionId)
      (seen : Seen b start acts p app) :
      Names appId (some functionId) (some functionVersionId) app.id

/-- What the request of a call may make of an application; `none` where there is none. -/
inductive MayChange :
    Request → String → Option (PublishedApp υ) → Option (PublishedApp υ) → Prop
  | put (user : Mcp.User) (appId : String) (body : AppBody) (fields : AppFields υ) (now : Int)
      (old : Option (PublishedApp υ)) (given : appId ≠ "")
      (valid : validate b body = some fields)
      (clock : Meanwhile (backend b) start acts p fun st => st.world = now) :
      MayChange (.putApp user appId body) appId old (some (wrote now fields appId old))
  | published (user : Option Mcp.User) (call : PublishCall) (fields : AppFields υ) (now : Int)
      (old : Option (PublishedApp υ)) (valid : validate b (call.body b.lower) = some fields)
      (clock : Meanwhile (backend b) start acts p fun st => st.world = now) :
      MayChange (.publishApp user call) (call.appId b.lower) old
        (some (wrote now fields (call.appId b.lower) old))
  | deleted (user : Mcp.User) (appId : String) (row : PublishedApp υ) (given : appId ≠ "") :
      MayChange (.deleteApp user appId) appId (some row) none
  | removed (user : Option Mcp.User) (appId functionId functionVersionId : Option String)
      (app row : PublishedApp υ)
      (named : Names b start acts p appId functionId functionVersionId app.id)
      -- The row that it has fetched; the one it deletes may be a later one.
      (fetched : Seen b start acts p app) :
      MayChange (.removeApp user appId functionId functionVersionId true) app.id (some row) none

/-! ## What a frame keeps of the request -/

variable (r : Request)

inductive Writes (w : Writing υ) : Request → Prop
  | put (user : Mcp.User) (body : AppBody) (given : w.id ≠ "")
      (valid : validate b body = some w.fields) : Writes w (.putApp user w.id body)
  | published (user : Option Mcp.User) (call : PublishCall) (named : w.id = call.appId b.lower)
      (valid : validate b (call.body b.lower) = some w.fields) : Writes w (.publishApp user call)

def Resolves (filter : AppFilter) (confirm : Bool) : Prop :=
  LetIn b acts p r ∧ ∃ user appId, appId.getD "" = "" ∧
    filter.functionId.getD "" ≠ "" ∧ filter.functionVersionId.getD "" ≠ "" ∧
    r = .removeApp user appId filter.functionId filter.functionVersionId confirm

def Removes (id : String) (confirm : Bool) : Prop :=
  LetIn b acts p r ∧ ∃ user appId functionId functionVersionId,
    Names b start acts p appId functionId functionVersionId id ∧
    r = .removeApp user appId functionId functionVersionId confirm

def Belongs : Frame υ → Prop
  | .authorizing r' => r' = r
  | .selecting filter (.resolve (.removeApp confirm)) => Resolves b acts p r filter confirm
  | .fetching id (.removeApp confirm) => Removes b start acts p r id confirm
  | .gettingFunctions (.app id app (.removeApp confirm)) =>
      Removes b start acts p r id confirm ∧ app.id = id ∧ Seen b start acts p app
  | .writing w =>
      LetIn b acts p r ∧ Writes b w r ∧
        Meanwhile (backend b) start acts p fun st => st.world = w.now
  | .deleting id .deleteApp => LetIn b acts p r ∧ id ≠ "" ∧ ∃ user, r = .deleteApp user id
  | .deleting id .removeApp =>
      Removes b start acts p r id true ∧ ∃ app, app.id = id ∧ Seen b start acts p app
  | _ => True

/-- The answer at hand is what the operation has come to, or what has come from outside. -/
def Given (f : Frame υ) (a : Answer υ) : Prop :=
  (∃ op, frameOp f = some op ∧
      (a = .raised ∨
        Meanwhile (backend b) start acts p fun st => (perform b st.store op).2 = a)) ∨
    frameOp f = none ∧ .answer p a ∈ acts

end Checks

section Growth

variable {b : Backend υ} {start : State υ} {acts : List (Action υ)} {p : Nat} {r : Request}

omit [DecidableEq υ] in
theorem LetIn.more (act : Action υ) (letIn : LetIn b acts p r) : LetIn b (acts ++ [act]) p r := by
  obtain ⟨idp, told, admin⟩ := letIn
  exact ⟨idp, List.mem_append_left _ told, admin⟩

theorem Seen.more {app : PublishedApp υ} (act : Action υ) (seen : Seen b start acts p app) :
    Seen b start (acts ++ [act]) p app :=
  Meanwhile.more act seen

theorem Names.more {appId functionId functionVersionId : Option String} {id : String}
    (act : Action υ) (named : Names b start acts p appId functionId functionVersionId id) :
    Names b start (acts ++ [act]) p appId functionId functionVersionId id := by
  cases named with
  | appId functionId functionVersionId id given => exact .appId _ _ id given
  | function appId functionId functionVersionId app blank function version seen =>
      exact .function appId functionId functionVersionId app blank function version (seen.more act)

theorem Removes.more {id : String} {confirm : Bool} (act : Action υ)
    (known : Removes b start acts p r id confirm) :
    Removes b start (acts ++ [act]) p r id confirm := by
  obtain ⟨letIn, user, appId, functionId, functionVersionId, named, asked⟩ := known
  exact ⟨letIn.more act, user, appId, functionId, functionVersionId, named.more act, asked⟩

theorem Belongs.more {f : Frame υ} (act : Action υ) (known : Belongs b start acts p r f) :
    Belongs b start (acts ++ [act]) p r f := by
  cases f with
  | authorizing | gettingDeployment | finished => exact known
  | selecting filter selection =>
      cases selection with
      | list => trivial
      | resolve purpose =>
          cases purpose with
          | getAppInfo | getApp => trivial
          | removeApp => exact ⟨known.1.more act, known.2⟩
  | fetching id purpose =>
      cases purpose with
      | getAppInfo | getApp => trivial
      | removeApp => exact Removes.more act known
  | gettingFunctions pending =>
      cases pending with
      | apps | written => trivial
      | app id app purpose =>
          cases purpose with
          | getAppInfo | getApp => trivial
          | removeApp => exact ⟨known.1.more act, known.2.1, known.2.2.more act⟩
  | writing w => exact ⟨known.1.more act, known.2.1, known.2.2.more act⟩
  | deleting id deleter =>
      cases deleter with
      | deleteApp => exact ⟨known.1.more act, known.2⟩
      | removeApp =>
          obtain ⟨removes, app, named, seen⟩ := known
          exact ⟨removes.more act, app, named, seen.more act⟩

theorem Given.more {f : Frame υ} {a : Answer υ} (act : Action υ)
    (given : Given b start acts p f a) : Given b start (acts ++ [act]) p f a := by
  rcases given with ⟨op, awaits, result⟩ | ⟨external, told⟩
  · exact Or.inl ⟨op, awaits, result.imp_right fun once => once.more act⟩
  · exact Or.inr ⟨external, List.mem_append_left _ told⟩

end Growth

/-! ## The handlers keep what they have checked -/

section Handlers

variable {b : Backend υ} {start : State υ} {acts : List (Action υ)} {p : Nat} {r : Request}

theorem belongs_resolveAppId {user : Option Mcp.User}
    {appId functionId functionVersionId : Option String} {confirm : Bool}
    (letIn : LetIn b acts p r)
    (asked : r = .removeApp user appId functionId functionVersionId confirm) :
    Belongs b start acts p r
      (resolveAppId appId functionId functionVersionId (.removeApp confirm)) := by
  unfold resolveAppId
  split
  next given =>
    cases appId with
    | none => exact absurd rfl given
    | some id =>
        exact ⟨letIn, user, some id, functionId, functionVersionId, .appId _ _ id given, asked⟩
  next blank =>
    split
    next full => exact ⟨letIn, user, appId, not_not.mp blank, full.1, full.2, asked⟩
    next => trivial

theorem belongs_getApp (appId functionId functionVersionId : Option String) :
    Belongs b start acts p r (resolveAppId appId functionId functionVersionId .getApp) := by
  unfold resolveAppId
  repeat' split
  all_goals trivial

theorem belongs_handler {now : Int} (letIn : LetIn b acts p r)
    (clock : Meanwhile (backend b) start acts p fun st => st.world = now) :
    Belongs b start acts p r (handler b now r) := by
  cases r with
  | getApps | getAppInfo => trivial
  | listApps =>
      simp only [handler]
      split <;> trivial
  | getApp => exact belongs_getApp _ _ _
  | putApp user appId body =>
      simp only [handler]
      split
      next => trivial
      next fields valid =>
        split
        next => trivial
        next given => exact ⟨letIn, .put user body given valid, clock⟩
  | deleteApp user appId =>
      simp only [handler]
      split
      next => trivial
      next given => exact ⟨letIn, given, user, rfl⟩
  | publishApp user call =>
      simp only [handler]
      split
      next => trivial
      next fields valid => exact ⟨letIn, .published user call rfl valid, clock⟩
  | removeApp => exact belongs_resolveAppId letIn rfl

theorem belongs_start (now : Int) (r : Request) :
    Belongs b start acts p r (startRequest b now r) := by
  cases r with
  | putApp | deleteApp | publishApp | removeApp => exact rfl
  | getApps | getAppInfo => trivial
  | listApps =>
      simp only [startRequest, handler]
      split <;> trivial
  | getApp => exact belongs_getApp _ _ _

theorem Given.performed {f : Frame υ} {op : DbOp υ} {a : Answer υ} (awaits : frameOp f = some op)
    (result : a ≠ .raised) (given : Given b start acts p f a) :
    Meanwhile (backend b) start acts p fun st => (perform b st.store op).2 = a := by
  rcases given with ⟨op', awaits', outcome⟩ | ⟨external, -⟩
  · obtain rfl := Option.some.inj (awaits.symm.trans awaits')
    exact outcome.resolve_left result
  · simp [external] at awaits

theorem belongs_resolved {filter : AppFilter} {confirm : Bool} {found : List (PublishedApp υ)}
    (known : Resolves b acts p r filter confirm)
    (selected : Meanwhile (backend b) start acts p fun st =>
      (perform b st.store (.select filter)).2 = .apps (.ok found)) :
    Belongs b start acts p r (resolved (.removeApp confirm) found) := by
  match found with
  | [] => trivial
  | app :: other :: rest => trivial
  | [app] =>
      obtain ⟨letIn, user, appId, blank, function, version, asked⟩ := known
      obtain ⟨functionId, functionVersionId⟩ := filter
      have matched (st : State υ)
          (held : (perform b st.store (.select ⟨functionId, functionVersionId⟩)).2 =
            .apps (.ok [app])) :=
        fromQueryset_mem (Answer.apps.inj held) (List.mem_singleton.mpr rfl)
      have seen : Seen b start acts p app :=
        selected.imp fun st held => Table.get?_of_mem (matched st held).1
      obtain ⟨st, held⟩ := selected.state
      obtain ⟨-, sameFunction, sameVersion⟩ := matched st held
      cases functionId with
      | none => exact absurd rfl function
      | some functionId =>
          cases functionVersionId with
          | none => exact absurd rfl version
          | some functionVersionId =>
              exact ⟨letIn, user, appId, _, _,
                .function appId functionId functionVersionId app blank
                  (sameFunction.resolve_left function) (sameVersion.resolve_left version) seen,
                asked⟩

theorem belongs_resumes {now : Int} {f f' : Frame υ} {a : Answer υ}
    (clock : Meanwhile (backend b) start acts p fun st => st.world = now)
    (known : Belongs b start acts p r f) (given : Given b start acts p f a)
    (resumes : Resumes b now f a f') : Belongs b start acts p r f' := by
  cases resumes with
  | raised | described => trivial
  | authorized r' idp =>
      obtain rfl : r' = r := known
      unfold authorized
      split
      next admin =>
        rcases given with ⟨op, awaits, -⟩ | ⟨-, told⟩
        · contradiction
        · exact belongs_handler ⟨idp, told, admin⟩ clock
      next => trivial
  | selected filter selection found =>
      cases found with
      | error => cases selection <;> trivial
      | ok apps =>
          cases selection with
          | list => trivial
          | resolve purpose =>
              cases purpose with
              | removeApp confirm =>
                  exact belongs_resolved known (given.performed rfl (by simp))
              | getAppInfo | getApp =>
                  simp only [selected]
                  unfold resolved
                  split <;> trivial
  | fetched id purpose found =>
      cases found with
      | none => cases purpose <;> trivial
      | some app =>
          cases purpose with
          | getAppInfo | getApp => trivial
          | removeApp confirm =>
              have stored := given.performed rfl (by simp)
              obtain ⟨st, held⟩ := stored.state
              have named : app.id = id := (Table.mem_of_get? (Answer.app.inj held)).2
              refine ⟨known, named, stored.imp fun st held => ?_⟩
              rw [named]
              exact Answer.app.inj held
  | saved w result => cases result <;> trivial
  | deleted id deleter n =>
      cases deleter <;>
        · simp only [deleted]
          split <;> trivial
  | populated pending functions =>
      cases pending with
      | apps =>
          simp only [populated]
          split <;> trivial
      | written w =>
          simp only [populated]
          split <;> trivial
      | app id app purpose =>
          simp only [populated]
          split
          next =>
            cases purpose with
            | getAppInfo | getApp => trivial
            | removeApp confirm =>
                obtain ⟨removes, named, seen⟩ := known
                cases confirm with
                | false => trivial
                | true => exact ⟨removes, app, named, seen⟩
          next => trivial

end Handlers

/-! ## Along a run -/

section Runs

variable {b : Backend υ}

def Known (b : Backend υ) (start : State υ) (acts : List (Action υ)) (p : Nat) (r : Request)
    (t : Task υ) : Prop :=
  Belongs b start acts p r t.frame ∧ ∀ a, t.answer = some a → Given b start acts p t.frame a

theorem clock_now {start st : State υ} {acts : List (Action υ)} {p : Nat} {t : Task υ}
    (reached : run b start acts = some st) (task : st.tasks[p]? = some t) :
    Meanwhile (backend b) start acts p fun past => past.world = st.world :=
  meanwhile_now reached task rfl

theorem origin_known (b : Backend υ) (start : State υ) :
    Origin (backend b) start (Known b start) where
  more act known := ⟨known.1.more act, fun a is => (known.2 a is).more act⟩
  started r _ := ⟨belongs_start _ r, by simp⟩
  executed reached task known awaits effect := by
    refine ⟨known.1.more _, ?_⟩
    rintro a ⟨⟩
    obtain ⟨-, rfl⟩ := perform_of_effect effect
    exact Or.inl ⟨_, awaits, Or.inr (Meanwhile.more _ (meanwhile_now reached task rfl))⟩
  raised known awaits effect := by
    refine ⟨known.1, ?_⟩
    rintro a ⟨⟩
    exact Or.inl ⟨_, awaits, Or.inl (Option.some.inj effect).symm⟩
  resumed reached task known effect :=
    ⟨belongs_resumes (clock_now reached task) known.1 (known.2 _ rfl)
      (resume_of_effect effect).2, by simp⟩
  answered reached task known awaits effect :=
    ⟨belongs_resumes ((clock_now reached task).more _) (known.1.more _)
      (Or.inr ⟨awaits, by simp⟩) (resume_of_effect effect).2, by simp⟩

theorem mayChange_written {start : State υ} {acts : List (Action υ)} {p : Nat} {r : Request}
    {w : Writing υ} (writes : Writes b w r)
    (clock : Meanwhile (backend b) start acts p fun st => st.world = w.now)
    (old : Option (PublishedApp υ)) :
    MayChange b start acts p r w.id old (some (wrote w.now w.fields w.id old)) := by
  obtain ⟨id, fields, now, writer⟩ := w
  cases writes with
  | put user body given valid => exact .put user id body fields now old given valid clock
  | published user call named valid =>
      obtain rfl : id = call.appId b.lower := named
      exact .published user call fields now old valid clock

/-- What a write or a deletion makes of the application with an id. -/
theorem change_of_performs {apps apps' : PublishedApps υ} {op : DbOp υ} {a : Answer υ}
    {id : String} (performs : Performs b apps op apps' a)
    (changed : apps'.get? id ≠ apps.get? id) :
    (∃ fields now, op = .updateOrCreate id fields now ∧
        apps'.get? id = some (wrote now fields id (apps.get? id))) ∨
      op = .delete id ∧ apps'.get? id = none ∧ ∃ row, apps.get? id = some row := by
  cases performs with
  | select | get | refused => exact absurd rfl changed
  | updated i fields now row fits free found =>
      by_cases same : id = i
      · subst same
        refine Or.inl ⟨fields, now, rfl, ?_⟩
        rw [Table.get?_update_self, found]
        rfl
      · exact absurd (Table.get?_update_ne apps _ _ same) changed
  | created i fields now _ fits free inserted =>
      have named : (stamped now (fields.create i)).id = i := rfl
      rw [Table.get?_insert inserted, named] at changed ⊢
      by_cases same : id = i
      · subst same
        have missing := (Table.insert?_eq_some inserted).1
        rw [named] at missing
        refine Or.inl ⟨fields, now, rfl, ?_⟩
        rw [if_pos rfl, missing]
        rfl
      · exact absurd (if_neg same) changed
  | deleted i =>
      rw [Table.get?_deleteWhere] at changed ⊢
      cases found : apps.get? id with
      | none => simp [found] at changed
      | some row =>
          have named : row.id = id := (Table.mem_of_get? found).2
          by_cases same : id = i
          · subst same
            exact Or.inr ⟨rfl, by simp [Option.filter, named], row, rfl⟩
          · simp [found, Option.filter, named, same] at changed

/--
However requests and tools interleave, an application changes only by a call whose user is let in,
and only as that call asks.
-/
theorem catalogue_authorised {apps : PublishedApps υ} {now : Int} {acts : List (Action υ)}
    {st st' : State υ} {act : Action υ} {id : String}
    (reached : run b (init apps now) acts = some st)
    (taken : step (backend b) st act = some st') (changed : st'.store.get? id ≠ st.store.get? id) :
    ∃ p r, act = .execute p ∧ (requests acts)[p]? = some r ∧ LetIn b acts p r ∧
      MayChange b (init apps now) acts p r id (st.store.get? id) (st'.store.get? id) := by
  cases step_cases taken with
  | request | raise | resume | answer | tick => exact absurd rfl changed
  | execute p f op apps' a task awaits effect =>
      obtain ⟨r, asked, known, -⟩ := (origin_known b _).run rfl reached task
      refine ⟨p, r, rfl, asked, ?_⟩
      rcases change_of_performs (performs_of_effect effect) changed with
        ⟨fields, moment, rfl, after⟩ | ⟨rfl, after, row, before⟩
      · cases awaits_of_op awaits with
        | writing w =>
            obtain ⟨letIn, writes, clock⟩ := known
            refine ⟨letIn, ?_⟩
            have may := mayChange_written writes clock (st.store.get? w.id)
            rwa [← after] at may
      · cases awaits_of_op awaits with
        | deleting _ deleter =>
            have may (letIn : LetIn b acts p r)
                (change : MayChange b (init apps now) acts p r id (some row) none) :
                LetIn b acts p r ∧
                  MayChange b (init apps now) acts p r id (st.store.get? id)
                    (apps'.get? id) := by
              rw [before, after]
              exact ⟨letIn, change⟩
            cases deleter with
            | deleteApp =>
                obtain ⟨letIn, given, user, rfl⟩ := known
                exact may letIn (.deleted user id row given)
            | removeApp =>
                obtain ⟨⟨letIn, user, appId, functionId, functionVersionId, named, rfl⟩, app, rfl,
                  seen⟩ := known
                exact may letIn
                  (.removed user appId functionId functionVersionId app row named seen)

end Runs

namespace Sample

open Apps.Sample (admin)

/-- An administrator names the viewer by its function, and has fetched it. -/
def removalByFunction : List (Action String) :=
  [.request (.removeApp (some admin) none (some "f1") (some "1") true),
    .answer 0 (.user Auth.Sample.idp), .execute 0, .resume 0, .execute 0, .resume 0,
    .answer 0 (.functions .empty)]

end Sample

theorem catalogue_authorised_byFunction :
    ∃ st st', run Apps.Sample.backend (init Apps.Sample.apps 0) Sample.removalByFunction =
        some st ∧
      step (Catalogue.backend Apps.Sample.backend) st (.execute 0) = some st' ∧
      ∃ p r, Tasks.Action.execute 0 = (.execute p : Action String) ∧
        (requests Sample.removalByFunction)[p]? = some r ∧
        LetIn Apps.Sample.backend Sample.removalByFunction p r ∧
        MayChange Apps.Sample.backend (init Apps.Sample.apps 0) Sample.removalByFunction p r
          "viewer" (st.store.get? "viewer") (st'.store.get? "viewer") :=
  ⟨_, _, rfl, rfl, catalogue_authorised rfl rfl (by
    intro same
    exact absurd (congrArg Option.isSome same) (by decide))⟩

end StreamingPortal.Apps.Catalogue
