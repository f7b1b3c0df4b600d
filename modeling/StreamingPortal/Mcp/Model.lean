import StreamingPortal.Shared.Table
import StreamingPortal.Shared.Tasks

set_option autoImplicit false

/-!
# The OAuth broker: grants, requests and the frames its methods wait in

Times are microseconds. Registered clients are left out: the provider methods get
the client they act for from the MCP SDK.
-/

namespace StreamingPortal.Mcp

inductive Json
  | null
  | bool (value : Bool)
  | number (value : Int)
  | string (value : String)
  | array (items : List Json)
  | object (fields : List (String × Json))

abbrev Payload := List (String × Json)

/-- `app.auth.User` -/
structure User where
  idToken : String
  accessToken : Option String
  payload : Payload

def User.sub (user : User) : Option String :=
  -- `payload["sub"]`; `none` where that raises.
  match user.payload.lookup "sub" with
  | some (.string sub) => some sub
  | _ => none

/-! ## Rows -/

structure McpAuthTransactionModel where
  id : String
  clientId : String
  redirectUri : String
  redirectUriProvidedExplicitly : Bool
  codeChallenge : String
  scopes : List String
  clientState : Option String
  resource : Option String
  expiresAt : Int

/-- The columns every grant has. -/
structure McpUserGrantModel where
  clientId : String
  scopes : List String
  expiresAt : Int
  subject : Option String
  userIdToken : String
  userAccessToken : Option String
  userPayload : Payload

structure McpAuthCodeModel extends McpUserGrantModel where
  code : String
  codeChallenge : String
  redirectUri : String
  redirectUriProvidedExplicitly : Bool
  resource : Option String

structure McpTokenModel extends McpUserGrantModel where
  token : String

/-! ## What the provider hands to the MCP SDK -/

structure Client where
  clientId : String

structure AuthorizationParams where
  state : Option String
  scopes : Option (List String)
  codeChallenge : String
  redirectUri : String
  redirectUriProvidedExplicitly : Bool
  resource : Option String

structure AuthorizationCode where
  code : String
  scopes : List String
  expiresAt : Int
  clientId : String
  codeChallenge : String
  redirectUri : String
  redirectUriProvidedExplicitly : Bool
  resource : Option String
  subject : Option String
  user : User

/-- A loaded access or refresh token; `expiresAt` is in seconds. -/
structure LoadedToken where
  token : String
  clientId : String
  scopes : List String
  expiresAt : Int
  subject : Option String
  user : User

structure OAuthToken where
  accessToken : String
  expiresIn : Int
  scope : Option String
  refreshToken : String

structure CodeGrant where
  code : String
  redirectUri : Option String
  codeVerifier : String

structure RefreshGrant where
  refreshToken : String
  scope : Option String

inductive Outcome
  | redirect (uri : String) (query : List (String × String))
  | error (statusCode : Nat) (error : String) (description : Option String)
  | tokens (token : OAuthToken)
  | accessToken (token : Option LoadedToken)
  | revoked
  -- The token endpoint of the SDK refuses the grant.
  | refused
  | raised

inductive Request
  | authorize (client : Client) (params : AuthorizationParams)
  | oauthCallback (error errorDescription code state : Option String)
  | exchangeCode (client : Client) (grant : CodeGrant)
  | exchangeRefresh (client : Client) (grant : RefreshGrant)
  | loadAccessToken (token : String)
  | revokeToken (token : String)
  | watchDataPurge

inductive Purged
  | transactions | codes | accessTokens | refreshTokens
deriving DecidableEq, Repr

inductive DbOp
  | createTransaction (row : McpAuthTransactionModel)
  | getTransaction (id : String)
  | deleteTransaction (id : String)
  | createCode (row : McpAuthCodeModel)
  | getCode (code : String)
  | deleteCode (code : String)
  | createAccessToken (row : McpTokenModel)
  | getAccessToken (token : String)
  | deleteAccessToken (token : String)
  | createRefreshToken (row : McpTokenModel)
  | getRefreshToken (token : String)
  | deleteRefreshToken (token : String)
  | purge (model : Purged) (now : Int)

inductive Answer
  | transaction (row : Option McpAuthTransactionModel)
  | code (row : Option McpAuthCodeModel)
  | token (row : Option McpTokenModel)
  | created
  | deleted (n : Nat)
  | raised
  | done
  -- The identity provider has answered the exchange with a valid ID token of this user.
  | upstream (user : User)
  -- Its ID token is not valid.
  | upstreamInvalid

/-- The exchange that is issuing tokens, with the credential it has loaded. -/
inductive Exchange
  | code (code : AuthorizationCode)
  | refresh (token : LoadedToken)

/-- The locals of `_issue_tokens`; `now` is in seconds. -/
structure Issue where
  clientId : String
  scopes : List String
  user : User
  subject : String
  now : Int
  access : String
  refresh : String

inductive Frame
  -- The SDK validates the request before it calls `authorize`.
  | validating (client : Client) (params : AuthorizationParams)
  | creatingTransaction (row : McpAuthTransactionModel)
  | loadingTransaction (transactionId upstreamCode : String)
  | deletingTransaction (transaction : McpAuthTransactionModel) (upstreamCode : String)
  | exchangingUpstream (transaction : McpAuthTransactionModel) (upstreamCode : String)
  | creatingCode (transaction : McpAuthTransactionModel) (user : User) (row : McpAuthCodeModel)
  | loadingCode (client : Client) (grant : CodeGrant)
  | deletingCode (client : Client) (code : AuthorizationCode)
  | loadingRefresh (client : Client) (grant : RefreshGrant)
  | deletingRefresh (client : Client) (token : LoadedToken) (scopes : List String)
  | creatingAccess (exchange : Exchange) (issue : Issue)
  | creatingRefresh (exchange : Exchange) (issue : Issue)
  | loadingAccess (token : String)
  | deletingAccess (token : String)
  | revokingAccess (token : String)
  | revokingRefresh (token : String)
  | purging (model : Purged) (now : Int) (deleted : Nat)
  | sleeping
  | finished (o : Outcome)

structure Config where
  -- `secrets.token_urlsafe(32)`, as a function of how many have been drawn before.
  tokenUrlsafe : Nat → String
  -- Whether the token endpoint of the SDK goes on to `exchange_authorization_code`.
  acceptsCode : Client → CodeGrant → AuthorizationCode → Int → Bool
  -- The scopes with which it goes on to `exchange_refresh_token`.
  acceptsRefresh : Client → RefreshGrant → LoadedToken → Int → Option (List String)
  authorizationEndpoint : String
  mcpUpstreamClientId : String
  mcpUpstreamScopes : List String
  mcpCallbackUrl : String

structure World where
  now : Int
  drawn : Nat

structure Db where
  transactions : Table String McpAuthTransactionModel McpAuthTransactionModel.id
  codes : Table String McpAuthCodeModel McpAuthCodeModel.code
  accessTokens : Table String McpTokenModel McpTokenModel.token
  refreshTokens : Table String McpTokenModel McpTokenModel.token

end StreamingPortal.Mcp
