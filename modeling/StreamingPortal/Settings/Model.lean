import StreamingPortal.Shared.Overlay
import Mathlib.Logic.Function.Basic
import Mathlib.Data.List.Nodup

set_option autoImplicit false

/-! # The service configuration: `settings.toml` and the `Settings` object -/

namespace StreamingPortal.Settings

open Overlay

/-! ## TOML -/

inductive Double
  | finite (value : Rat)
  | infinite (negative : Bool)
  | nan

inductive Toml
  | bool (value : Bool)
  | int (value : Int)
  | float (value : Double)
  | string (value : String)
  | dateTime (text : String)
  | array (items : List Toml)
  | table (entries : List (String × Toml))

/-- What `tomllib.loads` returns: a top-level key is defined once. -/
structure Data where
  entries : List (String × Toml)
  keys_nodup : (entries.map Prod.fst).Nodup

def Data.get? (data : Data) (key : String) : Option Toml := data.entries.lookup key

/-- The value of an attribute, `none` for Python's `None`. -/
abbrev Value := Option Toml

def Value.truthy : Value → Bool
  | none => false
  | some (.bool b) => b
  | some (.int n) => n ≠ 0
  | some (.float (.finite x)) => x ≠ 0
  | some (.float (.infinite _)) | some (.float .nan) => true
  | some (.string s) => s ≠ ""
  | some (.dateTime _) => true
  | some (.array items) => !items.isEmpty
  | some (.table entries) => !entries.isEmpty

/-! ## Fields -/

inductive Field
  | clientId | nvcfApiKey | nvcfControlEndpoint | ngcEndpoint | ngcOrg | nvcfSignalingEndpoint
  | nvcfCacheTtl | rootPath | databaseUrl | allowedOrigins | adminGroup | groupsClaim
  | unsafeDisableAuth | metadataUri | issuer | jwksAlg | jwksTtl | userinfoTtl
  | maxAppInstancesCount | sessionTtl | sessionWatchInterval | sessionIdleTimeout | watchInterval
  | sessionRetentionDays | h11MaxIncompleteEventSize | mcpEnabled | mcpResourceUrl | mcpPath
  | mcpRequiredScopes | mcpUpstreamClientId | mcpUpstreamClientSecret | mcpUpstreamScopes
  | mcpCallbackPath
deriving DecidableEq, Repr

def Field.all : List Field :=
  [.clientId, .nvcfApiKey, .nvcfControlEndpoint, .ngcEndpoint, .ngcOrg, .nvcfSignalingEndpoint,
    .nvcfCacheTtl, .rootPath, .databaseUrl, .allowedOrigins, .adminGroup, .groupsClaim,
    .unsafeDisableAuth, .metadataUri, .issuer, .jwksAlg, .jwksTtl, .userinfoTtl,
    .maxAppInstancesCount, .sessionTtl, .sessionWatchInterval, .sessionIdleTimeout, .watchInterval,
    .sessionRetentionDays, .h11MaxIncompleteEventSize, .mcpEnabled, .mcpResourceUrl, .mcpPath,
    .mcpRequiredScopes, .mcpUpstreamClientId, .mcpUpstreamClientSecret, .mcpUpstreamScopes,
    .mcpCallbackPath]

def Field.key : Field → String
  | .clientId => "client_id"
  | .nvcfApiKey => "nvcf_api_key"
  | .nvcfControlEndpoint => "nvcf_control_endpoint"
  | .ngcEndpoint => "ngc_endpoint"
  | .ngcOrg => "ngc_org"
  | .nvcfSignalingEndpoint => "nvcf_signaling_endpoint"
  | .nvcfCacheTtl => "nvcf_cache_ttl"
  | .rootPath => "root_path"
  | .databaseUrl => "database_url"
  | .allowedOrigins => "allowed_origins"
  | .adminGroup => "admin_group"
  | .groupsClaim => "groups_claim"
  | .unsafeDisableAuth => "unsafe_disable_auth"
  | .metadataUri => "metadata_uri"
  | .issuer => "issuer"
  | .jwksAlg => "jwks_alg"
  | .jwksTtl => "jwks_ttl"
  | .userinfoTtl => "userinfo_ttl"
  | .maxAppInstancesCount => "max_app_instances_count"
  | .sessionTtl => "session_ttl"
  | .sessionWatchInterval => "session_watch_interval"
  | .sessionIdleTimeout => "session_idle_timeout"
  | .watchInterval => "watch_interval"
  | .sessionRetentionDays => "session_retention_days"
  | .h11MaxIncompleteEventSize => "h11_max_incomplete_event_size"
  | .mcpEnabled => "mcp_enabled"
  | .mcpResourceUrl => "mcp_resource_url"
  | .mcpPath => "mcp_path"
  | .mcpRequiredScopes => "mcp_required_scopes"
  | .mcpUpstreamClientId => "mcp_upstream_client_id"
  | .mcpUpstreamClientSecret => "mcp_upstream_client_secret"
  | .mcpUpstreamScopes => "mcp_upstream_scopes"
  | .mcpCallbackPath => "mcp_callback_path"

def Field.ofKey? (key : String) : Option Field := Field.all.find? fun f => f.key = key

def strings (items : List String) : Toml := .array (items.map .string)

/-- Maximum session length for NVCF functions on GFN, 8 hours. -/
def maxSessionTtl : Int := 60 * 60 * 8

def Field.default : Field → Value
  | .clientId | .nvcfApiKey | .ngcOrg | .rootPath | .metadataUri | .issuer | .mcpResourceUrl
  | .mcpUpstreamClientId | .mcpUpstreamClientSecret => none
  | .nvcfControlEndpoint => some (.string "https://api.nvcf.nvidia.com")
  | .ngcEndpoint => some (.string "https://api.ngc.nvidia.com")
  | .nvcfSignalingEndpoint => some (.string "wss://grpc.nvcf.nvidia.com")
  | .nvcfCacheTtl => some (.int 30)
  | .databaseUrl => some (.string "sqlite://db/db.sqlite3")
  | .allowedOrigins => some (strings ["http://localhost", "http://localhost:3180",
      "http://127.0.0.1:3180", "https://localhost:3180"])
  | .adminGroup => some (.string "admin")
  | .groupsClaim => some (.string "groups")
  | .unsafeDisableAuth => some (.bool false)
  | .jwksAlg => some (.string "ES256")
  | .jwksTtl => some (.int (60 * 15))
  | .userinfoTtl => some (.int (60 * 15))
  | .maxAppInstancesCount => some (.int 3)
  | .sessionTtl => some (.int (60 * 60 * 8))
  | .sessionWatchInterval => some (.int 60)
  | .sessionIdleTimeout => some (.int (60 * 5))
  | .watchInterval => some (.int 15)
  | .sessionRetentionDays => some (.int 30)
  | .h11MaxIncompleteEventSize => some (.int (16 * 1024))
  | .mcpEnabled => some (.bool false)
  | .mcpPath => some (.string "/mcp")
  | .mcpRequiredScopes => some (strings [])
  | .mcpUpstreamScopes => some (strings ["openid", "profile", "email"])
  | .mcpCallbackPath => some (.string "/oauth/callback")

theorem Field.ofKey?_key (f : Field) : Field.ofKey? f.key = some f := by
  cases f <;> decide

theorem Field.key_of_ofKey? {key : String} {f : Field} (h : Field.ofKey? key = some f) :
    f.key = key := by
  simpa using List.find?_some h

end StreamingPortal.Settings

namespace StreamingPortal

/-- The configuration fields of the `Settings` object. -/
abbrev Settings := Settings.Field → Settings.Value

namespace Settings

open Overlay

/-! ## `validate` -/

inductive Error
  | tomlDecodeError
  | typeError
  | valueError (text : String)
deriving DecidableEq, Repr

def missing (s : Settings) : Option String :=
  -- The first value that `validate` misses.
  if !(s .unsafeDisableAuth).truthy && !(s .metadataUri).truthy then
    some "You must specify a metadata URI."
  else if (s .mcpEnabled).truthy && !(s .unsafeDisableAuth).truthy then
    if !(s .mcpResourceUrl).truthy then
      some "You must specify mcp_resource_url when MCP is enabled."
    else if !((s .mcpUpstreamClientId).truthy && (s .mcpUpstreamClientSecret).truthy) then
      some ("You must specify mcp_upstream_client_id and " ++
        "mcp_upstream_client_secret when MCP is enabled.")
    else none
  else none

def exceedsMax : Value → Option Bool
  -- `value > MAX_SESSION_TTL`; `none` where Python cannot compare the two.
  | some (.bool _) => some false
  | some (.int n) => some (maxSessionTtl < n)
  | some (.float (.finite x)) => some (maxSessionTtl < x)
  | some (.float (.infinite negative)) => some (!negative)
  | some (.float .nan) => some false
  | none | some (.string _) | some (.dateTime _) | some (.array _) | some (.table _) => none

def validate (s : Settings) : Except Error Settings :=
  match missing s with
  | some text => .error (.valueError text)
  | none =>
      match exceedsMax (s .sessionTtl) with
      | none => .error .typeError
      | some true => .ok (Function.update s .sessionTtl (some (.int maxSessionTtl)))
      | some false => .ok s

/-! ## `read` and `listen` -/

inductive Watcher
  | absent
  | running
  -- An exception has ended the task.
  | failed
deriving DecidableEq, Repr

structure Instance where
  settings : Settings
  lastContent : String
  -- Whether `__listening_task` is not `None`.
  listeningTask : Bool
  watcher : Watcher

/-- To `cls(**data)` the annotated `__listening_task` is a field like any other. -/
def listeningTaskKey : String := "_Settings__listening_task"

def accepts (key : String) : Bool := (Field.ofKey? key).isSome || key == listeningTaskKey

def Data.values (data : Data) (f : Field) : Option Value := (data.get? f.key).map some

section

variable (loads : String → Option Data)

def read (content : String) : Except Error Instance :=
  match loads content with
  | none => .error .tomlDecodeError
  | some data =>
      if data.entries.all fun entry => accepts entry.1 then
        (validate (override Field.default data.values)).map fun s =>
          { settings := s
            lastContent := content
            listeningTask := (data.get? listeningTaskKey).isSome
            watcher := .absent }
      else .error .typeError

/-- The least integer that has no `float`, `2 ^ 1024 - 2 ^ 970`. -/
def floatOverflow : Nat := Nat.pow (Nat.pow 2 256) 4 - Nat.pow (Nat.pow 2 194) 5

def canSleep : Value → Bool
  -- Whether `asyncio.sleep` takes the delay.
  | some (.bool _) => true
  | some (.int n) => n.toNat < floatOverflow
  | some (.float .nan) => false
  | some (.float _) => true
  | none | some (.string _) | some (.dateTime _) | some (.array _) | some (.table _) => false

/-- `setattr` on a configuration field. A key that is no field may replace a method. -/
def setattr (s : Settings) (entry : String × Toml) : Settings :=
  match Field.ofKey? entry.1 with
  | some f => Function.update s f (some entry.2)
  | none => s

def revalidate (data : Data) (s : Settings) : Except Error Settings :=
  -- The value of a key `validate` is in the method's place by now, and cannot be called.
  if (data.get? "validate").isSome then .error .typeError else validate s

def Instance.listen (self : Instance) : Instance :=
  if self.listeningTask then self else { self with listeningTask := true, watcher := .running }

def Instance.wake (self : Instance) (content : String) : Instance :=
  -- One round of `_listen`: the task sleeps and then finds `content` in the file.
  match self.watcher with
  | .absent | .failed => self
  | .running =>
      if !canSleep (self.settings .watchInterval) then { self with watcher := .failed }
      else if content = self.lastContent then self
      else
        match loads content with
        | none => { self with watcher := .failed }
        | some data =>
            let s := data.entries.foldl setattr self.settings
            match revalidate data s with
            | .ok s' => { self with settings := s', lastContent := content }
            | .error _ => { self with settings := s, lastContent := content, watcher := .failed }

end

end Settings

end StreamingPortal
