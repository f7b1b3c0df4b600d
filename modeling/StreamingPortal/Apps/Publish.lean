import StreamingPortal.Apps.Listing
import StreamingPortal.Auth.Admin
import StreamingPortal.Shared.Words

set_option autoImplicit false

/-!
# Publishing an application

`PUT /apps/{id}` and the tool `publish_app`. Both write the fields of a `PublishedApp` that were
set; the tool sets all of them.
-/

namespace StreamingPortal.Apps

variable {υ : Type} [DecidableEq υ]

/-- A `PublishedApp` as it is given; `none` for an optional field that is left out. -/
structure AppBody where
  slug : String
  functionId : String
  functionVersionId : String
  title : String
  description : String
  version : String
  icon : String
  page : String
  category : String
  productArea : String
  publishedAt : Option (Option Int)
  authenticationType : Option (Option String)
  mediaServer : Option (Option String)
  mediaPort : Option (Option Int)

/-- The fields that were set, as pydantic has read them. -/
structure AppFields (υ : Type) where
  slug : String
  functionId : υ
  functionVersionId : υ
  title : String
  description : String
  version : String
  icon : String
  page : String
  category : String
  productArea : String
  publishedAt : Option (Option Int)
  authenticationType : Option (Option String)
  mediaServer : Option (Option String)
  mediaPort : Option (Option Int)

structure Backend (υ : Type) where
  cfg : Auth.Config
  idp : Auth.IdentityProvider
  uuids : Uuids υ
  -- pydantic's reading of a UUID and of the URL of an icon, `none` for a `ValidationError`.
  readUuid : String → Option υ
  readUrl : String → Option String
  -- The integers that the column of the media port takes.
  fits : Int → Bool
  -- Python's `str.lower`.
  lower : String → String

-- The lengths that the model gives its text fields.
def AppBody.lengthsFit (body : AppBody) : Bool :=
  body.slug.length ≤ 100 ∧ body.title.length ≤ 100 ∧ body.version.length ≤ 50 ∧
    body.page.length ≤ 150 ∧ body.category.length ≤ 150 ∧ body.productArea.length ≤ 150 ∧
    body.authenticationType.join.all fun text => text.length ≤ 100

def validate (b : Backend υ) (body : AppBody) : Option (AppFields υ) :=
  match b.readUuid body.functionId, b.readUuid body.functionVersionId, b.readUrl body.icon with
  | some functionId, some functionVersionId, some icon =>
      if body.lengthsFit then
        some
          { slug := body.slug
            functionId := functionId
            functionVersionId := functionVersionId
            title := body.title
            description := body.description
            version := body.version
            icon := icon
            page := body.page
            category := body.category
            productArea := body.productArea
            publishedAt := body.publishedAt
            authenticationType := body.authenticationType
            mediaServer := body.mediaServer
            mediaPort := body.mediaPort }
      else none
  | _, _, _ => none

/-! ## `update_or_create` -/

-- What `save` checks that `PublishedApp` does not; the columns that are not set have passed it.
def storable (b : Backend υ) (id : String) (fields : AppFields υ) : Bool :=
  id.length ≤ 200 ∧ fields.mediaServer.join.all (fun text => text.length ≤ 255) ∧
    fields.mediaPort.join.all b.fits

-- Another application has the function.
def taken (apps : PublishedApps υ) (id : String) (fields : AppFields υ) : Bool :=
  apps.rows.any fun row => row.id ≠ id ∧ row.functionId = fields.functionId ∧
    row.functionVersionId = fields.functionVersionId

def AppFields.applyTo (fields : AppFields υ) (row : PublishedApp υ) : PublishedApp υ :=
  { row with
    slug := fields.slug
    functionId := fields.functionId
    functionVersionId := fields.functionVersionId
    title := fields.title
    description := fields.description
    version := fields.version
    icon := fields.icon
    page := fields.page
    category := fields.category
    productArea := fields.productArea
    publishedAt := fields.publishedAt.getD row.publishedAt
    authenticationType := fields.authenticationType.getD row.authenticationType
    mediaServer := fields.mediaServer.getD row.mediaServer
    mediaPort := fields.mediaPort.getD row.mediaPort }

-- A new row, with the defaults of the model.
def AppFields.create (fields : AppFields υ) (id : String) : PublishedApp υ where
  id := id
  slug := fields.slug
  functionId := fields.functionId
  functionVersionId := fields.functionVersionId
  title := fields.title
  description := fields.description
  version := fields.version
  icon := fields.icon
  page := fields.page
  category := fields.category
  productArea := fields.productArea
  publishedAt := fields.publishedAt.getD none
  authenticationType := fields.authenticationType.getD (some "NONE")
  mediaServer := fields.mediaServer.getD none
  mediaPort := fields.mediaPort.getD none

-- `auto_now_add`, whenever there is no date yet.
def stamped (now : Int) (row : PublishedApp υ) : PublishedApp υ :=
  { row with publishedAt := some (row.publishedAt.getD now) }

omit [DecidableEq υ] in
theorem stamped_applyTo_id (now : Int) (fields : AppFields υ) (row : PublishedApp υ) :
    (stamped now (fields.applyTo row)).id = row.id := rfl

def updateOrCreate (b : Backend υ) (now : Int) (apps : PublishedApps υ) (id : String)
    (fields : AppFields υ) : Except AppError (PublishedApps υ × PublishedApp υ × Bool) :=
  if storable b id fields = false then .error .validationError
  else if taken apps id fields then .error .integrityError
  else
    match apps.get? id with
    | some row =>
        .ok (apps.update id (fun row => stamped now (fields.applyTo row))
            (stamped_applyTo_id now fields),
          stamped now (fields.applyTo row), false)
    | none =>
        match apps.insert? (stamped now (fields.create id)) with
        | some apps => .ok (apps, stamped now (fields.create id), true)
        | none => .error .integrityError

/-! ## The two interfaces -/

-- The applications that are left, and the answer.
structure Outcome (υ : Type) (α : Type) where
  apps : PublishedApps υ
  answer : Except AppError α

structure PutResponse (υ : Type) where
  statusCode : Nat
  content : PublishedAppResponse υ

structure ToolPayload (υ : Type) where
  app : PublishedAppResponse υ
  created : Bool
  iconPlaceholderUsed : Bool

-- The write, and the status that is fetched after it.
def write {α : Type} (b : Backend υ) (now : Int) (functions : NvcfFunctions)
    (apps : PublishedApps υ) (id : String) (fields : AppFields υ)
    (respond : PublishedAppResponse υ → Bool → α) : Outcome υ α :=
  match updateOrCreate b now apps id fields with
  | .error e => ⟨apps, .error e⟩
  | .ok (apps, row, created) =>
      match getNvcfFunctionStatus b.uuids functions fields.functionId fields.functionVersionId with
      | .error e => ⟨apps, .error e⟩
      | .ok status => ⟨apps, .ok (respond ⟨row, status⟩ created)⟩

def putApp (b : Backend υ) (user : Mcp.User) (now : Int) (functions : NvcfFunctions)
    (apps : PublishedApps υ) (appId : String) (body : AppBody) : Outcome υ (PutResponse υ) :=
  match Auth.adminOnly b.cfg b.idp user with
  | .error e => ⟨apps, .error (.auth e)⟩
  | .ok () =>
      match validate b body with
      | none => ⟨apps, .error .validationError⟩
      | some fields =>
          if appId = "" then
            ⟨apps, .error (.http 400 "\x60app_id\x60 must be specified in the URL.")⟩
          else
            write b now functions apps appId fields fun app created =>
              ⟨if created then 201 else 200, app⟩

structure PublishCall where
  functionId : String
  functionVersionId : String
  title : String
  version : String
  category : String
  page : String
  productArea : String
  -- `none` where the call leaves the argument out.
  authenticationType : Option String
  mediaServer : Option (Option String)
  mediaPort : Option (Option Int)
  icon : Option String

def placeholderIcon : String := "https://placehold.co/256x256?text=App"

def slugChar (c : Char) : Char := if c.isAlphanum ∨ c = '_' ∨ c = '-' then c else '-'

def buildSlug (lower : String → String) (title : String) : String :=
  let slug := Words.squeeze '-' ((lower title).toList.map slugChar)
  String.ofList ((Words.trim '-' slug).take 100)

def PublishCall.appId (call : PublishCall) (lower : String → String) : String :=
  buildSlug lower call.title ++ ":" ++ call.version

-- The `PublishedApp` of the tool.
def PublishCall.body (call : PublishCall) (lower : String → String) : AppBody where
  slug := buildSlug lower call.title
  functionId := call.functionId
  functionVersionId := call.functionVersionId
  title := call.title
  description := call.title
  version := call.version
  icon := if call.icon.getD "" = "" then placeholderIcon else call.icon.getD ""
  page := call.page
  category := call.category
  productArea := call.productArea
  publishedAt := none
  authenticationType := some (some (call.authenticationType.getD "NONE"))
  mediaServer := some (call.mediaServer.getD none)
  mediaPort := some (call.mediaPort.getD none)

def publishApp (b : Backend υ) (user : Option Mcp.User) (now : Int) (functions : NvcfFunctions)
    (apps : PublishedApps υ) (call : PublishCall) : Outcome υ (ToolPayload υ) :=
  match Auth.ensureAdmin b.cfg b.idp user with
  | .error e => ⟨apps, .error (.auth e)⟩
  | .ok () =>
      match validate b (call.body b.lower) with
      | none => ⟨apps, .error .validationError⟩
      | some fields =>
          write b now functions apps (call.appId b.lower) fields fun app created =>
            ⟨app, created, call.icon.isNone⟩

/-! ## Agreement -/

-- The body with the same fields, and the same optional ones left out.
def PublishCall.sameBody (call : PublishCall) (lower : String → String) : AppBody :=
  { call.body lower with
    authenticationType := call.authenticationType.map some
    mediaServer := call.mediaServer
    mediaPort := call.mediaPort }

/-- What the fields that the call leaves out are in a row. -/
structure OmittedAre (call : PublishCall) (authenticationType mediaServer : Option String)
    (mediaPort : Option Int) (row : PublishedApp υ) : Prop where
  authenticationType : call.authenticationType = none →
    row.authenticationType = authenticationType
  mediaServer : call.mediaServer = none → row.mediaServer = mediaServer
  mediaPort : call.mediaPort = none → row.mediaPort = mediaPort

/-- The tables that the tool and the request leave; what is left out is kept, or the default. -/
structure Agrees (call : PublishCall) (id : String) (apps tool put : PublishedApps υ) : Prop where
  same : tool = put
  kept : ∀ row new, apps.get? id = some row → tool.get? id = some new →
    OmittedAre call row.authenticationType row.mediaServer row.mediaPort new
  created : ∀ new, apps.get? id = none → tool.get? id = some new →
    OmittedAre call (some "NONE") none none new

-- The fields are valid, and no other application has the function.
def Accepted (b : Backend υ) (apps : PublishedApps υ) (id : String) (body : AppBody) : Prop :=
  ∃ fields, validate b body = some fields ∧ storable b id fields = true ∧
    taken apps id fields = false

-- The tool's fields, from those of the same body.
def filled (call : PublishCall) (fields : AppFields υ) : AppFields υ :=
  { fields with
    authenticationType := some (some (call.authenticationType.getD "NONE"))
    mediaServer := some (call.mediaServer.getD none)
    mediaPort := some (call.mediaPort.getD none) }

section Fields

variable {b : Backend υ} {call : PublishCall} {lower : String → String} {fields : AppFields υ}

omit [DecidableEq υ] in
theorem validate_optional {body : AppBody} (valid : validate b body = some fields) :
    fields.authenticationType = body.authenticationType ∧
      fields.mediaServer = body.mediaServer ∧ fields.mediaPort = body.mediaPort := by
  unfold validate at valid
  split at valid
  next =>
    split at valid
    next =>
      obtain rfl := Option.some.inj valid
      exact ⟨rfl, rfl, rfl⟩
    next => contradiction
  next => contradiction

-- The defaults pass their own checks.
theorem lengthsFit_body (call : PublishCall) (lower : String → String) :
    (call.body lower).lengthsFit = (call.sameBody lower).lengthsFit := by
  unfold AppBody.lengthsFit PublishCall.sameBody
  cases given : call.authenticationType with
  | some text => simp [PublishCall.body, given]
  | none =>
      have short : "NONE".length ≤ 100 := by decide
      simp [PublishCall.body, given, short]

omit [DecidableEq υ] in
theorem validate_body : validate b (call.body lower) =
    (validate b (call.sameBody lower)).map (filled call) := by
  have function : (call.sameBody lower).functionId = (call.body lower).functionId := rfl
  have version : (call.sameBody lower).functionVersionId = (call.body lower).functionVersionId :=
    rfl
  have icon : (call.sameBody lower).icon = (call.body lower).icon := rfl
  unfold validate
  rw [lengthsFit_body, function, version, icon]
  split
  next =>
    split
    next => rfl
    next => rfl
  next => rfl

omit [DecidableEq υ] in
theorem storable_filled {id : String} (valid : validate b (call.sameBody lower) = some fields) :
    storable b id (filled call fields) = storable b id fields := by
  obtain ⟨-, server, port⟩ := validate_optional valid
  unfold storable
  rw [server, port]
  cases givenServer : call.mediaServer <;> cases givenPort : call.mediaPort <;>
    simp [filled, PublishCall.sameBody, givenServer, givenPort]

-- A row is written alike exactly if it has the defaults where the call leaves a field out.
omit [DecidableEq υ] in
theorem applyTo_filled_iff (valid : validate b (call.sameBody lower) = some fields)
    (now : Int) (row : PublishedApp υ) :
    stamped now ((filled call fields).applyTo row) = stamped now (fields.applyTo row) ↔
      OmittedAre call (some "NONE") none none row := by
  obtain ⟨type, server, port⟩ := validate_optional valid
  have split : stamped now ((filled call fields).applyTo row) = stamped now (fields.applyTo row) ↔
      some (call.authenticationType.getD "NONE") =
          (call.authenticationType.map some).getD row.authenticationType ∧
        call.mediaServer.getD none = call.mediaServer.getD row.mediaServer ∧
        call.mediaPort.getD none = call.mediaPort.getD row.mediaPort := by
    simp [stamped, AppFields.applyTo, filled, type, server, port, PublishCall.sameBody]
  rw [split]
  constructor
  next =>
    intro ⟨sameType, sameServer, samePort⟩
    constructor
    next =>
      intro omitted
      simpa [omitted] using sameType.symm
    next =>
      intro omitted
      simpa [omitted] using sameServer.symm
    next =>
      intro omitted
      simpa [omitted] using samePort.symm
  next =>
    intro defaults
    refine ⟨?_, ?_, ?_⟩
    next =>
      cases given : call.authenticationType with
      | some text => rfl
      | none => exact (defaults.authenticationType given).symm
    next =>
      cases given : call.mediaServer with
      | some text => rfl
      | none => exact (defaults.mediaServer given).symm
    next =>
      cases given : call.mediaPort with
      | some text => rfl
      | none => exact (defaults.mediaPort given).symm

omit [DecidableEq υ] in
theorem create_filled (valid : validate b (call.sameBody lower) = some fields) (id : String) :
    (filled call fields).create id = fields.create id := by
  obtain ⟨type, server, port⟩ := validate_optional valid
  cases givenType : call.authenticationType <;> cases givenServer : call.mediaServer <;>
    cases givenPort : call.mediaPort <;>
    simp [AppFields.create, filled, type, server, port, PublishCall.sameBody, givenType,
      givenServer, givenPort]

end Fields

section Writes

variable {b : Backend υ} {apps : PublishedApps υ} {id : String} {fields : AppFields υ}

theorem write_apps {α : Type} {now : Int} (functions : NvcfFunctions)
    (respond : PublishedAppResponse υ → Bool → α) :
    (write b now functions apps id fields respond).apps =
      match updateOrCreate b now apps id fields with
      | .error _ => apps
      | .ok (apps, _, _) => apps := by
  unfold write
  split
  next => rfl
  next => split <;> rfl

theorem updateOrCreate_refused (now : Int)
    (refused : ¬ (storable b id fields = true ∧ taken apps id fields = false)) :
    ∃ e, updateOrCreate b now apps id fields = .error e := by
  unfold updateOrCreate
  cases fits : storable b id fields with
  | false => exact ⟨_, rfl⟩
  | true =>
      have other : taken apps id fields = true := by
        simpa [fits] using refused
      exact ⟨.integrityError, by simp [other]⟩

theorem updateOrCreate_update (now : Int) (fits : storable b id fields = true)
    (free : taken apps id fields = false) {row : PublishedApp υ}
    (stored : apps.get? id = some row) :
    updateOrCreate b now apps id fields =
      .ok (apps.update id (fun row => stamped now (fields.applyTo row))
          (stamped_applyTo_id now fields),
        stamped now (fields.applyTo row), false) := by
  simp [updateOrCreate, fits, free, stored]

theorem updateOrCreate_create (now : Int) (fits : storable b id fields = true)
    (free : taken apps id fields = false) (missing : apps.get? id = none) :
    ∃ apps', apps.insert? (stamped now (fields.create id)) = some apps' ∧
      updateOrCreate b now apps id fields = .ok (apps', stamped now (fields.create id), true) := by
  have key : (stamped now (fields.create id)).id = id := rfl
  obtain ⟨apps', inserted⟩ : ∃ apps', apps.insert? (stamped now (fields.create id)) = some apps' :=
    Table.insert?_of_fresh (by rw [key]; exact missing)
  exact ⟨apps', inserted, by simp [updateOrCreate, fits, free, missing, inserted]⟩

end Writes

theorem appId_ne_empty (call : PublishCall) (lower : String → String) : call.appId lower ≠ "" := by
  intro empty
  have text := congrArg String.toList empty
  simp [PublishCall.appId] at text

section Agreement

variable {b : Backend υ} {now : Int} {apps : PublishedApps υ} {call : PublishCall}

-- What the two calls leave, once the administrators are let in.
def left (b : Backend υ) (now : Int) (apps : PublishedApps υ) (id : String) (body : AppBody) :
    PublishedApps υ :=
  match validate b body with
  | none => apps
  | some fields =>
      match updateOrCreate b now apps id fields with
      | .error _ => apps
      | .ok (apps, _, _) => apps

theorem publishApp_apps {user : Option Mcp.User} (functions : NvcfFunctions)
    (admin : Auth.ensureAdmin b.cfg b.idp user = .ok ()) :
    (publishApp b user now functions apps call).apps =
      left b now apps (call.appId b.lower) (call.body b.lower) := by
  unfold publishApp left
  rw [admin]
  cases validate b (call.body b.lower) with
  | none => rfl
  | some fields =>
      simp only
      rw [write_apps]

theorem putApp_apps {user : Mcp.User} {appId : String} {body : AppBody} (functions : NvcfFunctions)
    (admin : Auth.adminOnly b.cfg b.idp user = .ok ()) (given : appId ≠ "") :
    (putApp b user now functions apps appId body).apps = left b now apps appId body := by
  unfold putApp left
  rw [admin]
  cases validate b body with
  | none => rfl
  | some fields =>
      simp only [given, if_false]
      rw [write_apps]

theorem left_refused {id : String} {body : AppBody} (refused : ¬ Accepted b apps id body) :
    left b now apps id body = apps := by
  unfold left
  cases valid : validate b body with
  | none => rfl
  | some fields =>
      have outside : ¬ (storable b id fields = true ∧ taken apps id fields = false) :=
        fun both => refused ⟨fields, valid, both⟩
      obtain ⟨e, failed⟩ := updateOrCreate_refused now outside
      simp [failed]

theorem accepted_body {id : String} {lower : String → String} :
    Accepted b apps id (call.body lower) ↔ Accepted b apps id (call.sameBody lower) := by
  unfold Accepted
  rw [validate_body]
  constructor
  next =>
    rintro ⟨fields', valid, fits, free⟩
    obtain ⟨fields, same, rfl⟩ := Option.map_eq_some_iff.mp valid
    exact ⟨fields, same, (storable_filled same).symm.trans fits, free⟩
  next =>
    rintro ⟨fields, same, fits, free⟩
    exact ⟨filled call fields, by rw [same, Option.map_some],
      (storable_filled same).trans fits, free⟩

omit [DecidableEq υ] in
theorem omittedAre_self (call : PublishCall) (row : PublishedApp υ) :
    OmittedAre call row.authenticationType row.mediaServer row.mediaPort row :=
  ⟨fun _ => rfl, fun _ => rfl, fun _ => rfl⟩

theorem agrees_refused {id : String} {lower : String → String}
    (refused : ¬ Accepted b apps id (call.sameBody lower)) :
    Agrees call id apps (left b now apps id (call.body lower))
      (left b now apps id (call.sameBody lower)) := by
  rw [left_refused refused, left_refused fun accepted => refused (accepted_body.mp accepted)]
  constructor
  next => rfl
  next =>
    intro row new stored found
    obtain rfl := Option.some.inj (stored.symm.trans found)
    exact omittedAre_self call row
  next =>
    intro new missing found
    rw [missing] at found
    contradiction

omit [DecidableEq υ] in
theorem omittedAre_stamped {fields : AppFields υ} {lower : String → String}
    (valid : validate b (call.sameBody lower) = some fields) (row : PublishedApp υ) :
    OmittedAre call row.authenticationType row.mediaServer row.mediaPort
      (stamped now (fields.applyTo row)) := by
  obtain ⟨type, server, port⟩ := validate_optional valid
  constructor
  next =>
    intro omitted
    simp [stamped, AppFields.applyTo, type, PublishCall.sameBody, omitted]
  next =>
    intro omitted
    simp [stamped, AppFields.applyTo, server, PublishCall.sameBody, omitted]
  next =>
    intro omitted
    simp [stamped, AppFields.applyTo, port, PublishCall.sameBody, omitted]

omit [DecidableEq υ] in
theorem omittedAre_created {fields : AppFields υ} {lower : String → String}
    (valid : validate b (call.sameBody lower) = some fields) (id : String) :
    OmittedAre call (some "NONE") none none (stamped now (fields.create id)) := by
  obtain ⟨type, server, port⟩ := validate_optional valid
  constructor
  next =>
    intro omitted
    simp [stamped, AppFields.create, type, PublishCall.sameBody, omitted]
  next =>
    intro omitted
    simp [stamped, AppFields.create, server, PublishCall.sameBody, omitted]
  next =>
    intro omitted
    simp [stamped, AppFields.create, port, PublishCall.sameBody, omitted]

theorem agrees_created {id : String} {lower : String → String}
    (accepted : Accepted b apps id (call.sameBody lower)) (missing : apps.get? id = none) :
    Agrees call id apps (left b now apps id (call.body lower))
      (left b now apps id (call.sameBody lower)) := by
  obtain ⟨fields, valid, fits, free⟩ := accepted
  obtain ⟨apps', inserted, wrote⟩ := updateOrCreate_create now fits free missing
  have fits' : storable b id (filled call fields) = true := (storable_filled valid).trans fits
  have free' : taken apps id (filled call fields) = false := free
  obtain ⟨tool, inserted', wrote'⟩ := updateOrCreate_create now fits' free' missing
  obtain rfl : tool = apps' := by
    rw [create_filled valid, inserted] at inserted'
    exact (Option.some.inj inserted').symm
  have put : left b now apps id (call.sameBody lower) = tool := by simp [left, valid, wrote]
  have same : left b now apps id (call.body lower) = tool := by
    simp [left, validate_body, valid, wrote']
  rw [put, same]
  constructor
  next => rfl
  next =>
    intro row new stored
    rw [missing] at stored
    contradiction
  next =>
    intro new _ found
    have key : (stamped now (fields.create id)).id = id := rfl
    rw [Table.get?_insert inserted, key, if_pos rfl] at found
    obtain rfl := Option.some.inj found
    exact omittedAre_created valid id

theorem agrees_updated {id : String} {lower : String → String}
    (accepted : Accepted b apps id (call.sameBody lower)) {row : PublishedApp υ}
    (stored : apps.get? id = some row) :
    Agrees call id apps (left b now apps id (call.body lower))
        (left b now apps id (call.sameBody lower)) ↔
      OmittedAre call (some "NONE") none none row := by
  obtain ⟨fields, valid, fits, free⟩ := accepted
  have fits' : storable b id (filled call fields) = true := (storable_filled valid).trans fits
  have free' : taken apps id (filled call fields) = false := free
  have put : left b now apps id (call.sameBody lower) =
      apps.update id (fun row => stamped now (fields.applyTo row))
        (stamped_applyTo_id now fields) := by
    simp [left, valid, updateOrCreate_update now fits free stored]
  have tool : left b now apps id (call.body lower) =
      apps.update id (fun row => stamped now ((filled call fields).applyTo row))
        (stamped_applyTo_id now (filled call fields)) := by
    simp [left, validate_body, valid, updateOrCreate_update now fits' free' stored]
  have same_iff := Table.update_eq_iff stored (stamped_applyTo_id now (filled call fields))
    (stamped_applyTo_id now fields)
  rw [put, tool]
  constructor
  next =>
    intro agrees
    exact (applyTo_filled_iff valid now row).mp (same_iff.mp agrees.same)
  next =>
    intro defaults
    have same := same_iff.mpr ((applyTo_filled_iff valid now row).mpr defaults)
    refine ⟨same, ?_, ?_⟩
    next =>
      intro row' new stored' found
      obtain rfl := Option.some.inj (stored.symm.trans stored')
      rw [same, Table.get?_update_self, stored] at found
      obtain rfl := Option.some.inj found
      exact omittedAre_stamped valid row
    next =>
      intro new missing
      rw [stored] at missing
      contradiction

end Agreement

/--
The tool agrees with the request exactly if the call leaves no field out that the application has
something else in than the default.
-/
theorem publish_agrees_iff (b : Backend υ) (user : Option Mcp.User) (other : Mcp.User) (now : Int)
    (functions : NvcfFunctions) (apps : PublishedApps υ) (call : PublishCall)
    (toolAdmin : Auth.ensureAdmin b.cfg b.idp user = .ok ())
    (putAdmin : Auth.adminOnly b.cfg b.idp other = .ok ()) :
    Agrees call (call.appId b.lower) apps (publishApp b user now functions apps call).apps
        (putApp b other now functions apps (call.appId b.lower) (call.sameBody b.lower)).apps ↔
      (Accepted b apps (call.appId b.lower) (call.sameBody b.lower) →
        ∀ row, apps.get? (call.appId b.lower) = some row →
          OmittedAre call (some "NONE") none none row) := by
  rw [publishApp_apps functions toolAdmin,
    putApp_apps functions putAdmin (appId_ne_empty call b.lower)]
  by_cases accepted : Accepted b apps (call.appId b.lower) (call.sameBody b.lower)
  next =>
    rw [forall_prop_of_true accepted]
    cases stored : apps.get? (call.appId b.lower) with
    | some row =>
        rw [agrees_updated accepted stored]
        simp
    | none =>
        refine iff_of_true (agrees_created accepted stored) ?_
        intro row found
        contradiction
  next =>
    exact iff_of_true (agrees_refused accepted) fun accepted' => absurd accepted' accepted

namespace Sample

def backend : Backend String where
  cfg := Auth.Sample.config
  idp := Auth.Sample.idp
  uuids := uuids
  readUuid := some
  readUrl := some
  fits := fun port => decide (0 ≤ port)
  lower := fun text => text

def admin : Mcp.User := ⟨"administrator", none, Auth.Sample.administrator⟩

def call : PublishCall where
  functionId := "f1"
  functionVersionId := "2"
  title := "viewer"
  version := "1.0"
  category := "Samples"
  page := "Apps"
  productArea := "Samples"
  authenticationType := none
  mediaServer := none
  mediaPort := none
  icon := none

-- The application that the call updates streams through a server of its own.
def served : PublishedApps String :=
  ⟨[{ app "viewer:1.0" "f1" with mediaServer := some "media.example.com" }], by simp⟩

end Sample

theorem publish_agrees_new :
    Agrees Sample.call "viewer:1.0" Sample.apps
      (publishApp Sample.backend (some Sample.admin) 0 .empty Sample.apps Sample.call).apps
      (putApp Sample.backend Sample.admin 0 .empty Sample.apps "viewer:1.0"
        (Sample.call.sameBody Sample.backend.lower)).apps := by
  refine (publish_agrees_iff Sample.backend (some Sample.admin) Sample.admin 0 .empty Sample.apps
    Sample.call rfl rfl).mpr fun _ row stored => ?_
  have missing : Sample.apps.get? (Sample.call.appId Sample.backend.lower) = none := by decide
  rw [missing] at stored
  contradiction

theorem publish_overwrites :
    ¬ Agrees Sample.call "viewer:1.0" Sample.served
      (publishApp Sample.backend (some Sample.admin) 0 .empty Sample.served Sample.call).apps
      (putApp Sample.backend Sample.admin 0 .empty Sample.served "viewer:1.0"
        (Sample.call.sameBody Sample.backend.lower)).apps := by
  intro agrees
  have same := congrArg (fun apps => apps.rows.map PublishedApp.mediaServer) agrees.same
  exact absurd same (by decide)

end StreamingPortal.Apps
