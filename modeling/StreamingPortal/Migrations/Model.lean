import StreamingPortal.Shared.Relational

set_option autoImplicit false

/-!
# The version files, and the command that applies them

The command is aerich's and not part of the repository. What it has recorded in its own table is
`applied`, and the table is not among the others. Types of columns, indexes, foreign keys and
defaults that no row is given here are left out.
-/

namespace StreamingPortal.Migrations

open Relational

inductive Value
  | integer (value : Int)
  | text (value : String)
  -- Any other value, as it is stored.
  | bytes (value : List UInt8)
deriving DecidableEq

def required (name : String) : Column := ⟨name, true⟩
def optional (name : String) : Column := ⟨name, false⟩

/-! ## Tables -/

def publishedApp : Schema where
  columns :=
    [required "id", required "slug", required "function_id", required "function_version_id",
      required "title", required "description", required "version", required "image",
      required "icon", required "category", required "product_area", optional "published_at",
      optional "authentication_type"]
  unique := [["id"], ["function_id", "function_version_id"]]
  names_nodup := by decide
  unique_known := by decide

def session : Schema where
  columns :=
    [required "id", required "function_id", required "function_version_id",
      optional "nvcf_request_id", required "user_id", required "user_name", required "status",
      required "start_date", optional "end_date", optional "app_id"]
  unique := [["id"]]
  names_nodup := by decide
  unique_known := by decide

def publishedPage : Schema where
  columns := [required "name", optional "order"]
  unique := [["name"]]
  names_nodup := by decide
  unique_known := by decide

def userGrant : List Column :=
  [required "client_id", required "scopes", required "expires_at", optional "subject",
    required "user_id_token", optional "user_access_token", required "user_payload"]

def mcpToken : Schema where
  columns := userGrant ++ [required "token"]
  unique := [["token"]]
  names_nodup := by decide
  unique_known := by decide

def mcpAuthCode : Schema where
  columns := userGrant ++
    [required "code", required "code_challenge", required "redirect_uri",
      required "redirect_uri_provided_explicitly", optional "resource"]
  unique := [["code"]]
  names_nodup := by decide
  unique_known := by decide

def mcpAuthTransaction : Schema where
  columns :=
    [required "id", required "client_id", required "redirect_uri",
      required "redirect_uri_provided_explicitly", required "code_challenge", required "scopes",
      optional "client_state", optional "resource", required "expires_at"]
  unique := [["id"]]
  names_nodup := by decide
  unique_known := by decide

def mcpOauthClient : Schema where
  columns := [required "client_id", required "client_info", required "created_at"]
  unique := [["client_id"]]
  names_nodup := by decide
  unique_known := by decide

/-! ## Version files -/

structure VersionFile where
  name : String
  upgrade : List (Statement Value)
  downgrade : List (Statement Value)

def init : VersionFile where
  name := "0_20250808174831_init.py"
  upgrade := [.createTable "published_app" publishedApp, .createTable "session" session]
  downgrade := []

def mediaServer : VersionFile where
  name := "1_20250808201505_media_server.py"
  upgrade :=
    [.addColumn "published_app" (optional "media_server") none,
      .addColumn "published_app" (optional "media_port") none]
  downgrade :=
    [.dropColumn "published_app" "media_server", .dropColumn "published_app" "media_port"]

def pageOfApp : VersionFile where
  name := "2_20250923204541_update.py"
  upgrade :=
    [.addColumn "published_app" (required "page") (some (.text "")),
      .copyColumn "published_app" "page" "category", .dropColumn "published_app" "image"]
  downgrade :=
    [.addColumn "published_app" (required "image") none, .dropColumn "published_app" "page"]

def pages : VersionFile where
  name := "3_20250923222501_update.py"
  upgrade :=
    [.createTable "published_page" publishedPage,
      .insertDistinct "published_page" "name" "published_app" "page"]
  downgrade := [.dropTable "published_page"]

def addSessionDuration : VersionFile where
  name := "5_20260320053423_add_session_duration.py"
  upgrade := [.addColumn "session" (required "duration") (some (.integer 0))]
  downgrade := [.dropColumn "session" "duration"]

def addSessionError : VersionFile where
  name := "6_20260512000000_add_session_error.py"
  upgrade := [.addColumn "session" (optional "error") none]
  downgrade := [.dropColumn "session" "error"]

def addMcpOauth : VersionFile where
  name := "7_20260602233819_add_mcp_oauth.py"
  upgrade :=
    [.createTable "mcp_access_token" mcpToken, .createTable "mcp_auth_code" mcpAuthCode,
      .createTable "mcp_auth_transaction" mcpAuthTransaction,
      .createTable "mcp_oauth_client" mcpOauthClient, .createTable "mcp_refresh_token" mcpToken]
  downgrade :=
    [.dropTable "mcp_oauth_client", .dropTable "mcp_auth_code", .dropTable "mcp_refresh_token",
      .dropTable "mcp_access_token", .dropTable "mcp_auth_transaction"]

-- In the order of the numbers that the names begin with.
def versionFiles : List VersionFile :=
  [init, mediaServer, pageOfApp, pages, addSessionDuration, addSessionError, addMcpOauth]

/-! ## `aerich upgrade` -/

structure State where
  db : Db Value
  applied : List String

/-- `Command.upgrade` on the version files it finds; `none` where it raises. -/
abbrev Command := State → List VersionFile → Option State

/-- What is documented of the command: a file that is recorded as applied is skipped, and the
others are run in their order and recorded. -/
structure Documented (upgrade : Command) : Prop where
  ends : ∀ st, upgrade st [] = some st
  skips : ∀ st file files, file.name ∈ st.applied →
    upgrade st (file :: files) = upgrade st files
  applies : ∀ st file files db, file.name ∉ st.applied → run st.db file.upgrade = some db →
    upgrade st (file :: files) = upgrade ⟨db, st.applied ++ [file.name]⟩ files

/-- `migrations` of `main.py`. -/
def migrations (upgrade : Command) (st : State) : Option State := upgrade st versionFiles

/-! ## The models of the application -/

structure Model where
  table : String
  fields : List Column

def publishedAppModel : Model where
  table := "published_app"
  fields :=
    [required "id", required "slug", required "function_id", required "function_version_id",
      required "title", required "description", required "version", required "icon",
      required "page", required "category", required "product_area", optional "published_at",
      optional "authentication_type", optional "media_server", optional "media_port"]

def sessionModel : Model where
  table := "session"
  fields :=
    [required "id", required "function_id", required "function_version_id",
      optional "nvcf_request_id", optional "app_id", required "user_id", required "user_name",
      required "status", required "start_date", optional "end_date", required "duration",
      optional "error"]

def publishedPageModel : Model where
  table := "published_page"
  fields := [required "name", optional "order"]

def mcpOauthClientModel : Model where
  table := "mcp_oauth_client"
  fields := [required "client_id", required "client_info", required "created_at"]

def mcpAuthTransactionModel : Model where
  table := "mcp_auth_transaction"
  fields :=
    [required "id", required "client_id", required "redirect_uri",
      required "redirect_uri_provided_explicitly", required "code_challenge", required "scopes",
      optional "client_state", optional "resource", required "expires_at"]

def mcpUserGrantModel : List Column :=
  [required "client_id", required "scopes", required "expires_at", optional "subject",
    required "user_id_token", optional "user_access_token", required "user_payload"]

def mcpAuthCodeModel : Model where
  table := "mcp_auth_code"
  fields := mcpUserGrantModel ++
    [required "code", required "code_challenge", required "redirect_uri",
      required "redirect_uri_provided_explicitly", optional "resource"]

def mcpAccessTokenModel : Model where
  table := "mcp_access_token"
  fields := mcpUserGrantModel ++ [required "token"]

def mcpRefreshTokenModel : Model where
  table := "mcp_refresh_token"
  fields := mcpUserGrantModel ++ [required "token"]

def models : List Model :=
  [publishedAppModel, sessionModel, publishedPageModel, mcpOauthClientModel,
    mcpAuthTransactionModel, mcpAuthCodeModel, mcpAccessTokenModel, mcpRefreshTokenModel]

end StreamingPortal.Migrations
