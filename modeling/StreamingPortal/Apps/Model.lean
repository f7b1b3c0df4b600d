import StreamingPortal.Auth.Model
import StreamingPortal.Shared.OrderedMap
import StreamingPortal.Shared.Table

set_option autoImplicit false

/-!
# Published applications and NVCF functions

A UUID is an element of `υ`; reading one from a text and writing one are parameters.
-/

namespace StreamingPortal.Apps

variable {υ : Type}

/-- How the columns of UUIDs read the texts that they are compared with. SQLite keeps a UUID as a
text and takes any, so `parse` is total there. -/
structure Uuids (υ : Type) where
  -- `none` where the column refuses the text.
  parse : String → Option υ
  str : υ → String

/-! ## Statuses -/

inductive NvcfFunctionStatus
  -- Special status for obtaining all applications.
  | all
  | unknown
  | active
  | inactive
  | deploying
  | error
  | degrading
  | degraded
deriving DecidableEq

namespace NvcfFunctionStatus

def value : NvcfFunctionStatus → String
  | all => "ALL"
  | unknown => "UNKNOWN"
  | active => "ACTIVE"
  | inactive => "INACTIVE"
  | deploying => "DEPLOYING"
  | error => "ERROR"
  | degrading => "DEGRADING"
  | degraded => "DEGRADED"

def members : List NvcfFunctionStatus :=
  [all, unknown, active, inactive, deploying, error, degrading, degraded]

-- `NvcfFunctionStatus(text)`, `none` for the `ValueError`.
def ofValue? (text : String) : Option NvcfFunctionStatus :=
  members.find? fun status => status.value = text

theorem ofValue?_value (status : NvcfFunctionStatus) : ofValue? status.value = some status := by
  cases status <;> decide

theorem value_of_ofValue? {text : String} {status : NvcfFunctionStatus}
    (known : ofValue? text = some status) : status.value = text := by
  simpa using List.find?_some known

end NvcfFunctionStatus

/-! ## Functions -/

structure NvcfFunction where
  id : String
  versionId : String
  name : String
  -- As NVCF has it, which may have statuses that are no `NvcfFunctionStatus`.
  status : String

abbrev NvcfFunctions := OrderedMap (String × String) NvcfFunction

inductive NvcfReply
  | success (functions : List NvcfFunction)
  -- An error of NVCF, or no API key to ask it with.
  | failure

def getNvcfFunctions : NvcfReply → NvcfFunctions
  -- Of two entries with one key the later one stays.
  | .success functions =>
      functions.foldl (fun all function => all.set (function.id, function.versionId) function)
        .empty
  | .failure => .empty

/-! ## Applications -/

structure PublishedApp (υ : Type) where
  id : String
  slug : String
  functionId : υ
  functionVersionId : υ
  title : String
  description : String
  version : String
  icon : String
  page : String
  category : String
  productArea : String
  publishedAt : Option Int
  authenticationType : Option String
  mediaServer : Option String
  mediaPort : Option Int

abbrev PublishedApps (υ : Type) := Table String (PublishedApp υ) PublishedApp.id

structure PublishedAppResponse (υ : Type) where
  app : PublishedApp υ
  status : NvcfFunctionStatus

inductive AppError
  | auth (error : Auth.AuthError)
  | http (statusCode : Nat) (detail : String)
  | tool (message : String)
  -- What pydantic and the fields of the model refuse.
  | validationError
  | integrityError
  | valueError
deriving DecidableEq

def getNvcfFunctionStatus (uuids : Uuids υ) (functions : NvcfFunctions) (functionId : υ)
    (functionVersionId : υ) : Except AppError NvcfFunctionStatus :=
  match functions.get? (uuids.str functionId, uuids.str functionVersionId) with
  | some function =>
      match NvcfFunctionStatus.ofValue? function.status with
      | some status => .ok status
      | none => .error .valueError
  | none => .ok .unknown

end StreamingPortal.Apps
