import StreamingPortal.Apps.NvcfCache
import StreamingPortal.Apps.Publish
import StreamingPortal.Shared.Origins

set_option autoImplicit false

/-!
# The catalogue of applications under requests and tools

The routes of `/apps` and the tools read and write one table. A handler awaits the identity
provider, the table and NVCF in turn, and any other handler may run meanwhile. An
`update_or_create` of the library, its reads and its write, is one operation on the table here.
-/

namespace StreamingPortal.Apps.Catalogue

variable {υ : Type} [DecidableEq υ]

inductive Request
  | getApps (filter : AppFilter) (filteredStatus : NvcfFunctionStatus)
  | getAppInfo (appId : String)
  | putApp (user : Mcp.User) (appId : String) (body : AppBody)
  | deleteApp (user : Mcp.User) (appId : String)
  -- The tools; `none` where a call leaves an argument out.
  | listApps (filter : AppFilter) (status : String)
  | getApp (appId functionId functionVersionId : Option String)
  | publishApp (user : Option Mcp.User) (call : PublishCall)
  | removeApp (user : Option Mcp.User) (appId functionId functionVersionId : Option String)
      (confirm : Bool)

/-- What an application is fetched for. -/
inductive Purpose
  | getAppInfo
  | getApp
  | removeApp (confirm : Bool)

/-- What applications are selected for. -/
inductive Selection
  | list (filteredStatus : NvcfFunctionStatus)
  | resolve (purpose : Purpose)

inductive Writer
  | putApp
  | publishApp (iconPlaceholderUsed : Bool)

inductive Deleter
  | deleteApp
  | removeApp

structure Writing (υ : Type) where
  id : String
  fields : AppFields υ
  now : Int
  writer : Writer

/-- What waits for the functions of NVCF. -/
inductive Statusless (υ : Type)
  | apps (apps : List (PublishedApp υ)) (filteredStatus : NvcfFunctionStatus)
  | app (id : String) (app : PublishedApp υ) (purpose : Purpose)
  | written (w : Writing υ) (row : PublishedApp υ) (created : Bool)

inductive Reply (υ : Type)
  | apps (entries : List (PublishedAppResponse υ))
  | app (response : PublishedAppResponse υ) (deployment : Option NvcfDeploymentDetails)
  | put (response : PutResponse υ)
  | published (payload : ToolPayload υ)
  | confirmationRequired (message : String) (app : PublishedAppResponse υ)
  -- To the request to delete this application.
  | noContent (id : String)
  | deleted (id : String)
  -- Tortoise's handler makes a 404 of it.
  | doesNotExist
  | error (e : AppError)
  | raised

inductive Frame (υ : Type)
  -- Awaits `is_admin`.
  | authorizing (r : Request)
  | selecting (filter : AppFilter) (selection : Selection)
  | fetching (id : String) (purpose : Purpose)
  | writing (w : Writing υ)
  | deleting (id : String) (deleter : Deleter)
  | gettingFunctions (pending : Statusless υ)
  | gettingDeployment (response : PublishedAppResponse υ)
  | finished (reply : Reply υ)

inductive DbOp (υ : Type)
  | select (filter : AppFilter)
  | get (id : String)
  | updateOrCreate (id : String) (fields : AppFields υ) (now : Int)
  | delete (id : String)

inductive Answer (υ : Type)
  | user (idp : Auth.IdentityProvider)
  | functions (functions : NvcfFunctions)
  | deployment (details : Option NvcfDeploymentDetails)
  | apps (found : Except AppError (List (PublishedApp υ)))
  | app (found : Option (PublishedApp υ))
  | written (result : Except AppError (PublishedApp υ × Bool))
  | deletedCount (n : Nat)
  | raised

/-! ## The table -/

def perform (b : Backend υ) (apps : PublishedApps υ) : DbOp υ → PublishedApps υ × Answer υ
  | .select filter => (apps, .apps (fromQueryset b.uuids filter apps))
  | .get id => (apps, .app (apps.get? id))
  | .updateOrCreate id fields now =>
      match Apps.updateOrCreate b now apps id fields with
      | .ok (apps, row, created) => (apps, .written (.ok (row, created)))
      | .error e => (apps, .written (.error e))
  | .delete id =>
      (apps.deleteWhere fun app => app.id = id, .deletedCount (apps.count fun app => app.id = id))

/-! ## The handlers -/

-- `admin_only` of the routes and `ensure_admin` of the tools.
def permits (b : Backend υ) (idp : Auth.IdentityProvider) : Request → Except Auth.AuthError Unit
  | .putApp user _ _ | .deleteApp user _ => Auth.adminOnly b.cfg idp user
  | .publishApp user _ | .removeApp user _ _ _ _ => Auth.ensureAdmin b.cfg idp user
  | .getApps _ _ | .getAppInfo _ | .listApps _ _ | .getApp _ _ _ => .ok ()

def resolveAppId (appId functionId functionVersionId : Option String) (purpose : Purpose) :
    Frame υ :=
  if appId.getD "" ≠ "" then .fetching (appId.getD "") purpose
  else if functionId.getD "" ≠ "" ∧ functionVersionId.getD "" ≠ "" then
    .selecting ⟨functionId, functionVersionId⟩ (.resolve purpose)
  else
    .finished (.error (.tool "Provide app_id, or both function_id and function_version_id."))

def multipleMatched (matching : List (PublishedApp υ)) : String :=
  "Multiple apps matched: " ++ ", ".intercalate (matching.map PublishedApp.id) ++
    ". Provide an exact app_id."

def resolved (purpose : Purpose) : List (PublishedApp υ) → Frame υ
  | [] => .finished (.error (.tool "No app matches the provided function identifiers."))
  | [app] => .fetching app.id purpose
  | matching => .finished (.error (.tool (multipleMatched matching)))

def selected (found : Except AppError (List (PublishedApp υ))) : Selection → Frame υ
  | .list filteredStatus =>
      match found with
      | .ok apps => .gettingFunctions (.apps apps filteredStatus)
      | .error e => .finished (.error e)
  | .resolve purpose =>
      match found with
      | .ok apps => resolved purpose apps
      | .error e => .finished (.error e)

def notFound (id : String) : String := "App " ++ id ++ " is not found."

def fetched (id : String) (found : Option (PublishedApp υ)) (purpose : Purpose) : Frame υ :=
  match found with
  | some app => .gettingFunctions (.app id app purpose)
  | none =>
      match purpose with
      | .getAppInfo => .finished .doesNotExist
      | .getApp | .removeApp _ => .finished (.error (.tool (notFound id)))

-- Once the user is let in.
def handler (b : Backend υ) (now : Int) : Request → Frame υ
  | .putApp _ appId body =>
      match validate b body with
      | none => .finished (.error .validationError)
      | some fields =>
          if appId = "" then
            .finished (.error (.http 400 "\x60app_id\x60 must be specified in the URL."))
          else .writing ⟨appId, fields, now, .putApp⟩
  | .deleteApp _ appId =>
      if appId = "" then
        .finished (.error (.http 400 "\x60app_id\x60 must be specified in the URL."))
      else .deleting appId .deleteApp
  | .publishApp _ call =>
      match validate b (call.body b.lower) with
      | none => .finished (.error .validationError)
      | some fields => .writing ⟨call.appId b.lower, fields, now, .publishApp call.icon.isNone⟩
  | .removeApp _ appId functionId functionVersionId confirm =>
      resolveAppId appId functionId functionVersionId (.removeApp confirm)
  | .getApps filter filteredStatus => .selecting filter (.list filteredStatus)
  | .listApps filter status =>
      match NvcfFunctionStatus.ofValue? status with
      | some filteredStatus => .selecting filter (.list filteredStatus)
      | none => .finished (.error (.tool ("Invalid status: " ++ status)))
  | .getAppInfo appId => .fetching appId .getAppInfo
  | .getApp appId functionId functionVersionId =>
      resolveAppId appId functionId functionVersionId .getApp

def startRequest (b : Backend υ) (now : Int) (r : Request) : Frame υ :=
  match r with
  | .putApp _ _ _ | .deleteApp _ _ | .publishApp _ _ | .removeApp _ _ _ _ _ => .authorizing r
  | .getApps _ _ | .getAppInfo _ | .listApps _ _ | .getApp _ _ _ => handler b now r

def authorized (b : Backend υ) (now : Int) (idp : Auth.IdentityProvider) (r : Request) :
    Frame υ :=
  match permits b idp r with
  | .ok () => handler b now r
  | .error e => .finished (.error (.auth e))

def responded (response : PublishedAppResponse υ) (created : Bool) : Writer → Reply υ
  | .putApp => .put ⟨if created then 201 else 200, response⟩
  | .publishApp iconPlaceholderUsed => .published ⟨response, created, iconPlaceholderUsed⟩

-- What becomes of an application once its status is known.
def described (id : String) (response : PublishedAppResponse υ) : Purpose → Frame υ
  | .getAppInfo | .getApp => .gettingDeployment response
  | .removeApp confirm =>
      if confirm then .deleting id .removeApp
      else
        .finished (.confirmationRequired ("Re-run with confirm=true to delete " ++ id ++ ".")
          response)

def populated (b : Backend υ) (functions : NvcfFunctions) : Statusless υ → Frame υ
  | .apps apps filteredStatus =>
      match populate b.uuids functions filteredStatus apps with
      | .ok entries => .finished (.apps entries)
      | .error e => .finished (.error e)
  | .app id app purpose =>
      match getNvcfFunctionStatus b.uuids functions app.functionId app.functionVersionId with
      | .ok status => described id ⟨app, status⟩ purpose
      | .error e => .finished (.error e)
  | .written w row created =>
      match getNvcfFunctionStatus b.uuids functions w.fields.functionId
        w.fields.functionVersionId with
      | .ok status => .finished (responded ⟨row, status⟩ created w.writer)
      | .error e => .finished (.error e)

def saved (w : Writing υ) : Except AppError (PublishedApp υ × Bool) → Frame υ
  | .ok (row, created) => .gettingFunctions (.written w row created)
  | .error e => .finished (.error e)

def deleted (id : String) (n : Nat) : Deleter → Frame υ
  | .deleteApp =>
      if n = 0 then .finished (.error (.http 404 (notFound id))) else .finished (.noContent id)
  | .removeApp =>
      if n = 0 then .finished (.error (.tool (notFound id))) else .finished (.deleted id)

def resume (b : Backend υ) (now : Int) : Frame υ → Answer υ → Option (Frame υ)
  | .finished _, _ => none
  | _, .raised => some (.finished .raised)
  | .authorizing r, .user idp => some (authorized b now idp r)
  | .selecting _ selection, .apps found => some (selected found selection)
  | .fetching id purpose, .app found => some (fetched id found purpose)
  | .writing w, .written result => some (saved w result)
  | .deleting id deleter, .deletedCount n => some (deleted id n deleter)
  | .gettingFunctions pending, .functions functions => some (populated b functions pending)
  | .gettingDeployment response, .deployment details => some (.finished (.app response details))
  | _, _ => none

def frameOp : Frame υ → Option (DbOp υ)
  | .selecting filter _ => some (.select filter)
  | .fetching id _ => some (.get id)
  | .writing w => some (.updateOrCreate w.id w.fields w.now)
  | .deleting id _ => some (.delete id)
  | .authorizing _ | .gettingFunctions _ | .gettingDeployment _ | .finished _ => none

/-- The world is the clock. -/
def backend (b : Backend υ) :
    Tasks.Program (PublishedApps υ) Int (DbOp υ) (Answer υ) (Frame υ) Request where
  start := startRequest b
  op := frameOp
  perform := fun apps _ op => some (perform b apps op)
  failure := fun _ => some .raised
  resume := fun now _ frame a => (resume b now frame a).map fun next => (now, next)
  tick := fun time _ => time

abbrev State (υ : Type) := Tasks.State (PublishedApps υ) Int (Answer υ) (Frame υ)

abbrev Action (υ : Type) := Tasks.Action (Answer υ) Request

abbrev Task (υ : Type) := Tasks.Task (Answer υ) (Frame υ)

def init (apps : PublishedApps υ) (now : Int) : State υ := ⟨apps, now, []⟩

abbrev run (b : Backend υ) : State υ → List (Action υ) → Option (State υ) :=
  Runs.run (Tasks.step (backend b))

/-! ## What a step can do -/

/-- All that a resumed handler can do. -/
inductive Resumes (b : Backend υ) (now : Int) : Frame υ → Answer υ → Frame υ → Prop
  | raised (f : Frame υ) (live : ∀ reply, f ≠ .finished reply) :
      Resumes b now f .raised (.finished .raised)
  | authorized (r : Request) (idp : Auth.IdentityProvider) :
      Resumes b now (.authorizing r) (.user idp) (authorized b now idp r)
  | selected (filter : AppFilter) (selection : Selection)
      (found : Except AppError (List (PublishedApp υ))) :
      Resumes b now (.selecting filter selection) (.apps found) (selected found selection)
  | fetched (id : String) (purpose : Purpose) (found : Option (PublishedApp υ)) :
      Resumes b now (.fetching id purpose) (.app found) (fetched id found purpose)
  | saved (w : Writing υ) (result : Except AppError (PublishedApp υ × Bool)) :
      Resumes b now (.writing w) (.written result) (saved w result)
  | deleted (id : String) (deleter : Deleter) (n : Nat) :
      Resumes b now (.deleting id deleter) (.deletedCount n) (deleted id n deleter)
  | populated (pending : Statusless υ) (functions : NvcfFunctions) :
      Resumes b now (.gettingFunctions pending) (.functions functions)
        (populated b functions pending)
  | described (response : PublishedAppResponse υ) (details : Option NvcfDeploymentDetails) :
      Resumes b now (.gettingDeployment response) (.deployment details)
        (.finished (.app response details))

inductive Awaits : Frame υ → DbOp υ → Prop
  | selecting (filter : AppFilter) (selection : Selection) :
      Awaits (.selecting filter selection) (.select filter)
  | fetching (id : String) (purpose : Purpose) : Awaits (.fetching id purpose) (.get id)
  | writing (w : Writing υ) : Awaits (.writing w) (.updateOrCreate w.id w.fields w.now)
  | deleting (id : String) (deleter : Deleter) : Awaits (.deleting id deleter) (.delete id)

section Steps

variable {b : Backend υ}

omit [DecidableEq υ] in
theorem awaits_of_op {f : Frame υ} {op : DbOp υ} (h : frameOp f = some op) : Awaits f op := by
  unfold frameOp at h
  split at h <;> first | contradiction | obtain rfl := Option.some.inj h
  · exact .selecting _ _
  · exact .fetching _ _
  · exact .writing _
  · exact .deleting _ _

omit [DecidableEq υ] in
theorem resume_cases {now : Int} {f f' : Frame υ} {a : Answer υ}
    (h : resume b now f a = some f') : Resumes b now f a f' := by
  unfold resume at h
  split at h <;> first | contradiction | obtain rfl := Option.some.inj h
  next live => exact .raised f live
  · exact .authorized _ _
  · exact .selected _ _ _
  · exact .fetched _ _ _
  · exact .saved _ _
  · exact .deleted _ _ _
  · exact .populated _ _
  · exact .described _ _

theorem resume_of_effect {now now' : Int} {p : Nat} {f f' : Frame υ} {a : Answer υ}
    (effect : (backend b).resume now p f a = some (now', f')) :
    now' = now ∧ Resumes b now f a f' := by
  obtain ⟨next, resumed, same⟩ := Option.map_eq_some_iff.mp effect
  obtain ⟨rfl, rfl⟩ := Prod.mk.inj same
  exact ⟨rfl, resume_cases resumed⟩

theorem perform_of_effect {apps apps' : PublishedApps υ} {p : Nat} {op : DbOp υ} {a : Answer υ}
    (effect : (backend b).perform apps p op = some (apps', a)) :
    apps' = (perform b apps op).1 ∧ a = (perform b apps op).2 := by
  have same : perform b apps op = (apps', a) := Option.some.inj effect
  simp [same]

theorem updateOrCreate_error {now : Int} {apps : PublishedApps υ} {id : String}
    {fields : AppFields υ} {e : AppError}
    (failed : Apps.updateOrCreate b now apps id fields = .error e) :
    e = .validationError ∨ e = .integrityError := by
  unfold Apps.updateOrCreate at failed
  repeat' split at failed
  all_goals first | contradiction | obtain rfl := Except.error.inj failed
  all_goals simp

/-- All that an operation can do to the table. -/
inductive Performs (b : Backend υ) (apps : PublishedApps υ) :
    DbOp υ → PublishedApps υ → Answer υ → Prop
  | select (filter : AppFilter) :
      Performs b apps (.select filter) apps (.apps (fromQueryset b.uuids filter apps))
  | get (id : String) : Performs b apps (.get id) apps (.app (apps.get? id))
  | refused (id : String) (fields : AppFields υ) (now : Int) (e : AppError)
      (reason : e = .validationError ∨ e = .integrityError) :
      Performs b apps (.updateOrCreate id fields now) apps (.written (.error e))
  | updated (id : String) (fields : AppFields υ) (now : Int) (row : PublishedApp υ)
      (fits : storable b id fields = true) (free : taken apps id fields = false)
      (found : apps.get? id = some row) :
      Performs b apps (.updateOrCreate id fields now)
        (apps.update id (fun row => stamped now (fields.applyTo row))
          (stamped_applyTo_id now fields))
        (.written (.ok (stamped now (fields.applyTo row), false)))
  | created (id : String) (fields : AppFields υ) (now : Int) (apps' : PublishedApps υ)
      (fits : storable b id fields = true) (free : taken apps id fields = false)
      (inserted : apps.insert? (stamped now (fields.create id)) = some apps') :
      Performs b apps (.updateOrCreate id fields now) apps'
        (.written (.ok (stamped now (fields.create id), true)))
  | deleted (id : String) :
      Performs b apps (.delete id) (apps.deleteWhere fun app => app.id = id)
        (.deletedCount (apps.count fun app => app.id = id))

theorem perform_cases (b : Backend υ) (apps : PublishedApps υ) (op : DbOp υ) :
    Performs b apps op (perform b apps op).1 (perform b apps op).2 := by
  cases op with
  | select filter => exact .select filter
  | get id => exact .get id
  | delete id => exact .deleted id
  | updateOrCreate id fields now =>
      by_cases accepted : storable b id fields = true ∧ taken apps id fields = false
      next =>
        obtain ⟨fits, free⟩ := accepted
        cases found : apps.get? id with
        | some row =>
            simp only [perform, updateOrCreate_update now fits free found]
            exact .updated id fields now row fits free found
        | none =>
            obtain ⟨apps', inserted, wrote⟩ := updateOrCreate_create now fits free found
            simp only [perform, wrote]
            exact .created id fields now apps' fits free inserted
      next =>
        obtain ⟨e, failed⟩ := updateOrCreate_refused now accepted
        simp only [perform, failed]
        exact .refused id fields now e (updateOrCreate_error failed)

theorem performs_of_effect {apps apps' : PublishedApps υ} {p : Nat} {op : DbOp υ} {a : Answer υ}
    (effect : (backend b).perform apps p op = some (apps', a)) : Performs b apps op apps' a := by
  obtain ⟨rfl, rfl⟩ := perform_of_effect effect
  exact perform_cases b apps op

theorem fromQueryset_mem {uuids : Uuids υ} {filter : AppFilter} {apps : PublishedApps υ}
    {found : List (PublishedApp υ)} (selected : fromQueryset uuids filter apps = .ok found)
    {app : PublishedApp υ} (inside : app ∈ found) :
    app ∈ apps.rows ∧ Matches uuids PublishedApp.functionId filter.functionId app ∧
      Matches uuids PublishedApp.functionVersionId filter.functionVersionId app := by
  by_cases wellFormed : filter.WellFormed uuids
  next =>
    rw [fromQueryset_ok wellFormed] at selected
    obtain rfl := Except.ok.inj selected
    simpa [matching, Table.select] using inside
  next =>
    rw [fromQueryset_error wellFormed] at selected
    contradiction

end Steps

end StreamingPortal.Apps.Catalogue
