import StreamingPortal.ApiKeys.Model
import StreamingPortal.Mcp.Model
import Mathlib.Data.List.Infix

set_option autoImplicit false

/-!
# Users and administrators

The checks that PyJWT makes of an ID token, the answers of the identity provider and
what the cache of `get_groups` holds at the moment are parameters.
-/

namespace StreamingPortal.Auth

open Settings (Toml)
open Mcp (Json Payload User)
open ApiKeys (ApiKey)

/-- What `jwt.decode` makes of an ID token, with the key and the issuer looked up for it. -/
inductive Decoded
  | payload (p : Payload)
  -- `PyJWTError`
  | invalid
  | raised

structure Config where
  adminGroup : String
  groupsClaim : String
  unsafeDisableAuth : Bool
  decode : String → Decoded
  -- Python's `format` of the name of an API key.
  format : Toml → String

inductive UserinfoReply
  -- `none` when the body is no JSON.
  | success (data : Option Json)
  | failure
  | raised

structure IdentityProvider where
  -- The `userinfo_endpoint` of the configuration, `none` where getting that raises.
  userinfoEndpoint : Option (Option String)
  -- By access token.
  userinfo : String → UserinfoReply
  -- The groups of an access token that `get_groups` has cached.
  cached : String → Option Json

inductive AuthError
  | http (statusCode : Nat)
  | tool (message : String)
  | raised
deriving DecidableEq

/-! ## JSON values in Python -/

def truthy : Json → Bool
  | .null => false
  | .bool b => b
  | .number n => n ≠ 0
  | .string s => s ≠ ""
  | .array items => !items.isEmpty
  | .object fields => !fields.isEmpty

def isString (text : String) : Json → Bool
  | .string s => decide (s = text)
  | _ => false

/-- `text in value`, `none` for the `TypeError`. -/
def contains (text : String) : Json → Option Bool
  | .array items => some (items.any (isString text))
  -- A substring.
  | .string s => some (decide (text.toList <:+: s.toList))
  -- A key.
  | .object fields => some (fields.any fun field => decide (field.1 = text))
  | .null | .bool _ | .number _ => none

def get (payload : Payload) (claim : String) : Json := (payload.lookup claim).getD .null

def set (payload : Payload) (claim : String) (value : Json) : Payload :=
  (claim, value) :: payload.filter fun field => decide (field.1 ≠ claim)

/-! ## `User` -/

def startsWith (s start : String) : Bool := decide (start.toList <+: s.toList)

/-- `none` where `payload["sub"]` raises. -/
def isApiKeyUser (user : User) : Option Bool := user.sub.map fun sub => startsWith sub "api_key:"

def getGroups (idp : IdentityProvider) (accessToken : String) : Option Json :=
  match idp.cached accessToken with
  | some groups => some groups
  | none =>
      idp.userinfoEndpoint.bind fun endpoint =>
        if endpoint.getD "" = "" then some (.array [])
        else
          match idp.userinfo accessToken with
          | .success (some (.object data)) => some ((data.lookup "groups").getD (.array []))
          -- `response.json()` or `data.get` raises.
          | .success _ | .raised => none
          | .failure => some (.array [])

/-- The groups that `is_admin` looks at, with the user who remembers them. -/
def groupsOf (cfg : Config) (idp : IdentityProvider) (user : User) : Option (Json × User) :=
  let groups := get user.payload cfg.groupsClaim
  if truthy groups = false ∧ user.accessToken.getD "" ≠ "" then
    (getGroups idp (user.accessToken.getD "")).map fun groups =>
      (groups, { user with payload := set user.payload cfg.groupsClaim groups })
  else some (groups, user)

def isAdmin (cfg : Config) (idp : IdentityProvider) (user : User) : Option (Bool × User) :=
  (isApiKeyUser user).bind fun apiKeyUser =>
    if apiKeyUser then some (true, user)
    else
      (groupsOf cfg idp user).bind fun (groups, user) =>
        if truthy groups then
          (contains cfg.adminGroup groups).map fun isMember => (isMember, user)
        else some (false, user)

/-! ## Authentication -/

def extractBearerToken (authorization : Option String) : Option String :=
  -- `authorization.split(" ", 1)`
  let text := authorization.getD ""
  if startsWith text "Bearer " then some (String.ofList (text.toList.drop 7)) else none

def createApiKeyUser (cfg : Config) (apiKey : ApiKey) : User where
  idToken := ""
  accessToken := some ""
  payload :=
    let name := cfg.format apiKey.name
    [("sub", .string ("api_key:" ++ name)), ("exp", .number 0),
      ("email", .string (name ++ "@api.system")),
      ("preferred_username", .string ("api_key_" ++ name)),
      ("name", .string ("API Key (" ++ name ++ ")"))]

def unsafeUser : User where
  idToken := ""
  accessToken := some ""
  payload := [("sub", .string ""), ("exp", .number 0), ("email", .string ""),
    ("preferred_username", .string ""), ("name", .string "")]

def decodeToken (cfg : Config) (idToken : String) (accessToken : Option String) :
    Except AuthError User :=
  match cfg.decode idToken with
  | .payload payload => .ok ⟨idToken, accessToken, payload⟩
  | .invalid => .error (.http 401)
  | .raised => .error .raised

/-- The configured API key of a request. -/
def requestApiKey (keys : ApiKeys) (authorization : Option String) : Option ApiKey :=
  (extractBearerToken authorization).bind fun token =>
    if token = "" then none else keys.isValidKey token

def authenticatedOnly (cfg : Config) (keys : ApiKeys) (authorization idToken accessToken :
    Option String) : Except AuthError User :=
  if cfg.unsafeDisableAuth then .ok unsafeUser
  else
    match requestApiKey keys authorization with
    | some apiKey => .ok (createApiKeyUser cfg apiKey)
    | none =>
        if idToken.getD "" = "" then .error (.http 401)
        else decodeToken cfg (idToken.getD "") accessToken

/-! ## The two guards -/

def adminOnly (cfg : Config) (idp : IdentityProvider) (user : User) : Except AuthError Unit :=
  if cfg.unsafeDisableAuth then .ok ()
  else
    match isAdmin cfg idp user with
    | none => .error .raised
    | some (true, _) => .ok ()
    | some (false, _) => .error (.http 403)

/-- `ensure_admin` of the MCP tools; `user` is the `current_user()`. -/
def ensureAdmin (cfg : Config) (idp : IdentityProvider) (user : Option User) :
    Except AuthError Unit :=
  if cfg.unsafeDisableAuth then .ok ()
  else
    match user with
    | none => .error (.tool "Authentication is required for this operation.")
    | some user =>
        match isAdmin cfg idp user with
        | none => .error .raised
        | some (true, _) => .ok ()
        | some (false, _) =>
            .error (.tool "This operation requires portal admin group membership.")

end StreamingPortal.Auth
