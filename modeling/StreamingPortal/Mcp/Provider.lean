import StreamingPortal.Mcp.Model

set_option autoImplicit false

/-! # `PortalOAuthProvider` -/

namespace StreamingPortal.Mcp

def authCodeTtl : Int := 300
def transactionTtl : Int := 600
def accessTokenTtl : Int := 60 * 60
def refreshTokenTtl : Int := 60 * 60 * 24 * 30

def seconds (n : Int) : Int := n * 1000000

/-- `int(t)` of a time in seconds. -/
def wholeSeconds (t : Int) : Int := t.tdiv 1000000

/-! ## The database -/

def insertRow {ρ : Type} {key : ρ → String} (t : Table String ρ key) (row : ρ) :
    Table String ρ key × Answer :=
  match t.insert? row with
  | some t' => (t', .created)
  | none => (t, .raised)

def deleteRows {ρ : Type} {key : ρ → String} (t : Table String ρ key) (p : ρ → Bool) :
    Table String ρ key × Answer :=
  (t.deleteWhere p, .deleted (t.count p))

def Db.perform (db : Db) : DbOp → Db × Answer
  | .createTransaction row =>
      let (t, a) := insertRow db.transactions row
      ({ db with transactions := t }, a)
  | .getTransaction id => (db, .transaction (db.transactions.get? id))
  | .deleteTransaction id =>
      let (t, a) := deleteRows db.transactions fun r => decide (r.id = id)
      ({ db with transactions := t }, a)
  | .createCode row =>
      let (t, a) := insertRow db.codes row
      ({ db with codes := t }, a)
  | .getCode code => (db, .code (db.codes.get? code))
  | .deleteCode code =>
      let (t, a) := deleteRows db.codes fun r => decide (r.code = code)
      ({ db with codes := t }, a)
  | .createAccessToken row =>
      let (t, a) := insertRow db.accessTokens row
      ({ db with accessTokens := t }, a)
  | .getAccessToken token => (db, .token (db.accessTokens.get? token))
  | .deleteAccessToken token =>
      let (t, a) := deleteRows db.accessTokens fun r => decide (r.token = token)
      ({ db with accessTokens := t }, a)
  | .createRefreshToken row =>
      let (t, a) := insertRow db.refreshTokens row
      ({ db with refreshTokens := t }, a)
  | .getRefreshToken token => (db, .token (db.refreshTokens.get? token))
  | .deleteRefreshToken token =>
      let (t, a) := deleteRows db.refreshTokens fun r => decide (r.token = token)
      ({ db with refreshTokens := t }, a)
  | .purge .transactions now =>
      let (t, a) := deleteRows db.transactions fun r => decide (r.expiresAt < now)
      ({ db with transactions := t }, a)
  | .purge .codes now =>
      let (t, a) := deleteRows db.codes fun r => decide (r.expiresAt < now)
      ({ db with codes := t }, a)
  | .purge .accessTokens now =>
      let (t, a) := deleteRows db.accessTokens fun r => decide (r.expiresAt < now)
      ({ db with accessTokens := t }, a)
  | .purge .refreshTokens now =>
      let (t, a) := deleteRows db.refreshTokens fun r => decide (r.expiresAt < now)
      ({ db with refreshTokens := t }, a)

/-! ## Rows and loaded grants -/

def McpUserGrantModel.user (row : McpUserGrantModel) : User :=
  -- `_user_from_row`
  ⟨row.userIdToken, row.userAccessToken, row.userPayload⟩

def userGrant (clientId : String) (scopes : List String) (expiresAt : Int)
    (subject : Option String) (user : User) : McpUserGrantModel where
  clientId := clientId
  scopes := scopes
  expiresAt := expiresAt
  subject := subject
  userIdToken := user.idToken
  userAccessToken := user.accessToken
  userPayload := user.payload

def loadAuthorizationCode (row : McpAuthCodeModel) : AuthorizationCode where
  code := row.code
  scopes := row.scopes
  expiresAt := row.expiresAt
  clientId := row.clientId
  codeChallenge := row.codeChallenge
  redirectUri := row.redirectUri
  redirectUriProvidedExplicitly := row.redirectUriProvidedExplicitly
  resource := row.resource
  subject := row.subject
  user := row.user

def loadToken (row : McpTokenModel) : LoadedToken where
  token := row.token
  clientId := row.clientId
  scopes := row.scopes
  expiresAt := wholeSeconds row.expiresAt
  subject := row.subject
  user := row.user

/-! ## `authorize` -/

def newTransaction (client : Client) (params : AuthorizationParams) (id : String) (now : Int) :
    McpAuthTransactionModel where
  id := id
  clientId := client.clientId
  redirectUri := params.redirectUri
  redirectUriProvidedExplicitly := params.redirectUriProvidedExplicitly
  codeChallenge := params.codeChallenge
  scopes := params.scopes.getD []
  clientState := params.state
  resource := params.resource
  expiresAt := now + seconds transactionTtl

def authorizeRedirect (cfg : Config) (transactionId : String) : Outcome :=
  .redirect cfg.authorizationEndpoint
    [("response_type", "code"), ("client_id", cfg.mcpUpstreamClientId),
      ("redirect_uri", cfg.mcpCallbackUrl),
      ("scope", String.intercalate " " cfg.mcpUpstreamScopes), ("state", transactionId)]

/-! ## `complete_authorization` -/

def invalidGrant (description : String) : Frame :=
  -- The response of the callback to `TokenError("invalid_grant", description)`.
  .finished (.error 400 "invalid_grant" (some description))

def unknownTransaction : Frame := invalidGrant "Unknown or expired authorization transaction."

def callbackFailed : Frame := .finished (.error 400 "server_error" none)

def newCode (transaction : McpAuthTransactionModel) (user : User) (code : String) (now : Int) :
    McpAuthCodeModel where
  toMcpUserGrantModel :=
    userGrant transaction.clientId transaction.scopes (now + seconds authCodeTtl) none user
  code := code
  codeChallenge := transaction.codeChallenge
  redirectUri := transaction.redirectUri
  redirectUriProvidedExplicitly := transaction.redirectUriProvidedExplicitly
  resource := transaction.resource

def clientRedirect (transaction : McpAuthTransactionModel) (code : String) : Outcome :=
  .redirect transaction.redirectUri
    (("code", code) :: (transaction.clientState.map fun state => ("state", state)).toList)

def handleOauthCallback (error errorDescription code state : Option String) : Frame :=
  -- `handle_oauth_callback` up to the first `await`.
  if error.getD "" ≠ "" then
    .finished (.error 400 (error.getD "") (some (errorDescription.getD "")))
  else if code.getD "" = "" ∨ state.getD "" = "" then
    .finished (.error 400 "invalid_request" none)
  else .loadingTransaction (state.getD "") (code.getD "")

/-! ## `_issue_tokens` -/

def issueTokens (cfg : Config) (w : World) (exchange : Exchange) (clientId : String)
    (scopes : List String) (user : User) : World × Frame :=
  -- Up to the first `await`; it raises when the user has no `sub`.
  let w' := { w with drawn := w.drawn + 2 }
  match user.sub with
  | none => (w', .finished .raised)
  | some subject => (w', .creatingAccess exchange
      { clientId := clientId
        scopes := scopes
        user := user
        subject := subject
        now := wholeSeconds w.now
        access := cfg.tokenUrlsafe w.drawn
        refresh := cfg.tokenUrlsafe (w.drawn + 1) })

def Issue.row (issue : Issue) (token : String) (ttl : Int) : McpTokenModel where
  toMcpUserGrantModel := userGrant issue.clientId issue.scopes (seconds (issue.now + ttl))
    (some issue.subject) issue.user
  token := token

def Issue.accessRow (issue : Issue) : McpTokenModel := issue.row issue.access accessTokenTtl

def Issue.refreshRow (issue : Issue) : McpTokenModel := issue.row issue.refresh refreshTokenTtl

def Issue.token (issue : Issue) : OAuthToken where
  accessToken := issue.access
  expiresIn := accessTokenTtl
  scope :=
    let joined := String.intercalate " " issue.scopes
    if joined = "" then none else some joined
  refreshToken := issue.refresh

/-! ## Frames -/

def startRequest (w : World) : Request → Frame
  | .authorize client params => .validating client params
  | .oauthCallback error errorDescription code state =>
      handleOauthCallback error errorDescription code state
  | .exchangeCode client grant => .loadingCode client grant
  | .exchangeRefresh client grant => .loadingRefresh client grant
  | .loadAccessToken token => .loadingAccess token
  | .revokeToken token => .revokingAccess token
  | .watchDataPurge => .purging .transactions w.now 0

def frameOp : Frame → Option DbOp
  | .creatingTransaction row => some (.createTransaction row)
  | .loadingTransaction id _ => some (.getTransaction id)
  | .deletingTransaction transaction _ => some (.deleteTransaction transaction.id)
  | .creatingCode _ _ row => some (.createCode row)
  | .loadingCode _ grant => some (.getCode grant.code)
  | .deletingCode _ code => some (.deleteCode code.code)
  | .loadingRefresh _ grant => some (.getRefreshToken grant.refreshToken)
  | .deletingRefresh _ token _ => some (.deleteRefreshToken token.token)
  | .creatingAccess _ issue => some (.createAccessToken issue.accessRow)
  | .creatingRefresh _ issue => some (.createRefreshToken issue.refreshRow)
  | .loadingAccess token => some (.getAccessToken token)
  | .deletingAccess token => some (.deleteAccessToken token)
  | .revokingAccess token => some (.deleteAccessToken token)
  | .revokingRefresh token => some (.deleteRefreshToken token)
  | .purging model now _ => some (.purge model now)
  | .validating _ _ | .exchangingUpstream _ _ | .sleeping | .finished _ => none

def failed : Frame → Frame
  -- What the method does when an operation raises.
  | .loadingTransaction _ _ | .deletingTransaction _ _ | .exchangingUpstream _ _
  | .creatingCode _ _ _ => callbackFailed
  | _ => .finished .raised

def Purged.next : Purged → Option Purged
  | .transactions => some .codes
  | .codes => some .accessTokens
  | .accessTokens => some .refreshTokens
  | .refreshTokens => none

def resumeFrame (cfg : Config) (w : World) : Frame → Answer → Option (World × Frame)
  | .validating client params, .done =>
      some ({ w with drawn := w.drawn + 1 },
        .creatingTransaction (newTransaction client params (cfg.tokenUrlsafe w.drawn) w.now))
  | .creatingTransaction row, .created => some (w, .finished (authorizeRedirect cfg row.id))
  | .loadingTransaction _ upstreamCode, .transaction (some transaction) =>
      some (w, .deletingTransaction transaction upstreamCode)
  | .loadingTransaction _ _, .transaction none => some (w, unknownTransaction)
  -- How many rows a delete has removed is not looked at, here or in the exchanges.
  | .deletingTransaction transaction upstreamCode, .deleted _ =>
      if transaction.expiresAt < w.now then some (w, unknownTransaction)
      else some (w, .exchangingUpstream transaction upstreamCode)
  | .exchangingUpstream transaction _, .upstream user =>
      some ({ w with drawn := w.drawn + 1 },
        .creatingCode transaction user
          (newCode transaction user (cfg.tokenUrlsafe w.drawn) w.now))
  | .exchangingUpstream _ _, .upstreamInvalid => some (w, invalidGrant "Invalid upstream id_token.")
  | .creatingCode transaction _ row, .created =>
      some (w, .finished (clientRedirect transaction row.code))
  | .loadingCode client grant, .code (some row) =>
      let code := loadAuthorizationCode row
      if cfg.acceptsCode client grant code w.now then some (w, .deletingCode client code)
      else some (w, .finished .refused)
  | .loadingCode _ _, .code none => some (w, .finished .refused)
  | .deletingCode client code, .deleted _ =>
      some (issueTokens cfg w (.code code) client.clientId code.scopes code.user)
  | .loadingRefresh client grant, .token (some row) =>
      let token := loadToken row
      match cfg.acceptsRefresh client grant token w.now with
      | some scopes => some (w, .deletingRefresh client token scopes)
      | none => some (w, .finished .refused)
  | .loadingRefresh _ _, .token none => some (w, .finished .refused)
  | .deletingRefresh client token scopes, .deleted _ =>
      some (issueTokens cfg w (.refresh token) client.clientId
        (if scopes = [] then token.scopes else scopes) token.user)
  | .creatingAccess exchange issue, .created => some (w, .creatingRefresh exchange issue)
  | .creatingRefresh _ issue, .created => some (w, .finished (.tokens issue.token))
  | .loadingAccess _, .token (some row) =>
      if row.expiresAt < w.now then some (w, .deletingAccess row.token)
      else some (w, .finished (.accessToken (some (loadToken row))))
  | .loadingAccess _, .token none => some (w, .finished (.accessToken none))
  | .deletingAccess _, .deleted _ => some (w, .finished (.accessToken none))
  | .revokingAccess token, .deleted _ => some (w, .revokingRefresh token)
  | .revokingRefresh _, .deleted _ => some (w, .finished .revoked)
  | .purging model now deleted, .deleted n =>
      match model.next with
      | some next => some (w, .purging next now (deleted + n))
      | none => some (w, .sleeping)
  | .sleeping, .done => some (w, .purging .transactions w.now 0)
  | .finished _, _ => none
  | f, .raised => some (w, failed f)
  | _, _ => none

/-! ## All a method can do -/

inductive Starts : Frame → Prop
  | authorize (client : Client) (params : AuthorizationParams) : Starts (.validating client params)
  | callbackRefused (o : Outcome) : Starts (.finished o)
  | callback (id upstreamCode : String) : Starts (.loadingTransaction id upstreamCode)
  | exchangeCode (client : Client) (grant : CodeGrant) : Starts (.loadingCode client grant)
  | exchangeRefresh (client : Client) (grant : RefreshGrant) : Starts (.loadingRefresh client grant)
  | loadAccessToken (token : String) : Starts (.loadingAccess token)
  | revokeToken (token : String) : Starts (.revokingAccess token)
  | watchDataPurge (now : Int) : Starts (.purging .transactions now 0)

theorem startRequest_starts (w : World) (r : Request) : Starts (startRequest w r) := by
  cases r with
  | oauthCallback error errorDescription code state =>
      simp only [startRequest, handleOauthCallback]
      split
      · exact .callbackRefused _
      · split
        · exact .callbackRefused _
        · exact .callback _ _
  | authorize | exchangeCode | exchangeRefresh | loadAccessToken | revokeToken | watchDataPurge =>
      constructor

inductive ProviderStep (cfg : Config) (w : World) : Frame → Answer → World → Frame → Prop
  | authorizing (client : Client) (params : AuthorizationParams) :
      ProviderStep cfg w (.validating client params) .done { w with drawn := w.drawn + 1 }
        (.creatingTransaction (newTransaction client params (cfg.tokenUrlsafe w.drawn) w.now))
  | loadedTransaction (id upstreamCode : String) (transaction : McpAuthTransactionModel) :
      ProviderStep cfg w (.loadingTransaction id upstreamCode) (.transaction (some transaction)) w
        (.deletingTransaction transaction upstreamCode)
  | deletedTransaction (transaction : McpAuthTransactionModel) (upstreamCode : String) (n : Nat)
      (live : ¬ transaction.expiresAt < w.now) :
      ProviderStep cfg w (.deletingTransaction transaction upstreamCode) (.deleted n) w
        (.exchangingUpstream transaction upstreamCode)
  | identified (transaction : McpAuthTransactionModel) (upstreamCode : String) (user : User) :
      ProviderStep cfg w (.exchangingUpstream transaction upstreamCode) (.upstream user)
        { w with drawn := w.drawn + 1 }
        (.creatingCode transaction user
          (newCode transaction user (cfg.tokenUrlsafe w.drawn) w.now))
  | loadedCode (client : Client) (grant : CodeGrant) (row : McpAuthCodeModel)
      (accepted : cfg.acceptsCode client grant (loadAuthorizationCode row) w.now = true) :
      ProviderStep cfg w (.loadingCode client grant) (.code (some row)) w
        (.deletingCode client (loadAuthorizationCode row))
  | deletedCode (client : Client) (code : AuthorizationCode) (n : Nat) (issue : Issue)
      (clientId : issue.clientId = client.clientId) (scopes : issue.scopes = code.scopes)
      (user : issue.user = code.user) (access : issue.access = cfg.tokenUrlsafe w.drawn)
      (refresh : issue.refresh = cfg.tokenUrlsafe (w.drawn + 1)) :
      ProviderStep cfg w (.deletingCode client code) (.deleted n)
        { w with drawn := w.drawn + 2 } (.creatingAccess (.code code) issue)
  | loadedRefresh (client : Client) (grant : RefreshGrant) (row : McpTokenModel)
      (scopes : List String)
      (accepted : cfg.acceptsRefresh client grant (loadToken row) w.now = some scopes) :
      ProviderStep cfg w (.loadingRefresh client grant) (.token (some row)) w
        (.deletingRefresh client (loadToken row) scopes)
  | deletedRefresh (client : Client) (token : LoadedToken) (scopes : List String) (n : Nat)
      (issue : Issue) (clientId : issue.clientId = client.clientId)
      (narrowed : issue.scopes = if scopes = [] then token.scopes else scopes)
      (user : issue.user = token.user) (access : issue.access = cfg.tokenUrlsafe w.drawn)
      (refresh : issue.refresh = cfg.tokenUrlsafe (w.drawn + 1)) :
      ProviderStep cfg w (.deletingRefresh client token scopes) (.deleted n)
        { w with drawn := w.drawn + 2 } (.creatingAccess (.refresh token) issue)
  | createdAccess (exchange : Exchange) (issue : Issue) :
      ProviderStep cfg w (.creatingAccess exchange issue) .created w
        (.creatingRefresh exchange issue)
  | loadedExpired (token : String) (row : McpTokenModel) :
      ProviderStep cfg w (.loadingAccess token) (.token (some row)) w (.deletingAccess row.token)
  | revokedAccess (token : String) (n : Nat) :
      ProviderStep cfg w (.revokingAccess token) (.deleted n) w (.revokingRefresh token)
  | purged (model next : Purged) (now : Int) (deleted n : Nat) :
      ProviderStep cfg w (.purging model now deleted) (.deleted n) w
        (.purging next now (deleted + n))
  | purgedAll (model : Purged) (now : Int) (deleted n : Nat) :
      ProviderStep cfg w (.purging model now deleted) (.deleted n) w .sleeping
  | slept : ProviderStep cfg w .sleeping .done w (.purging .transactions w.now 0)
  | finished (f : Frame) (a : Answer) (o : Outcome) (unidentified : ∀ user, a ≠ .upstream user) :
      ProviderStep cfg w f a w (.finished o)
  -- The user has no `sub`: the tokens have been drawn and are not stored.
  | withoutSub (f : Frame) (n : Nat) :
      ProviderStep cfg w f (.deleted n) { w with drawn := w.drawn + 2 } (.finished .raised)

theorem issueTokens_cases (cfg : Config) (w : World) (exchange : Exchange) (clientId : String)
    (scopes : List String) (user : User) :
    issueTokens cfg w exchange clientId scopes user =
        ({ w with drawn := w.drawn + 2 }, .finished .raised) ∨
      ∃ issue : Issue, issueTokens cfg w exchange clientId scopes user =
          ({ w with drawn := w.drawn + 2 }, .creatingAccess exchange issue) ∧
        issue.clientId = clientId ∧ issue.scopes = scopes ∧ issue.user = user ∧
        issue.access = cfg.tokenUrlsafe w.drawn ∧
        issue.refresh = cfg.tokenUrlsafe (w.drawn + 1) := by
  unfold issueTokens
  cases user.sub with
  | none => exact Or.inl rfl
  | some subject => exact Or.inr ⟨_, rfl, rfl, rfl, rfl, rfl, rfl⟩

theorem resumeFrame_deleted {cfg : Config} {w w' : World} {f f' : Frame} {n : Nat}
    (h : resumeFrame cfg w f (.deleted n) = some (w', f')) :
    ProviderStep cfg w f (.deleted n) w' f' := by
  have ends (o : Outcome) (same : some (w, Frame.finished o) = some (w', f')) :
      ProviderStep cfg w f (.deleted n) w' f' := by
    obtain ⟨rfl, rfl⟩ := Prod.mk.inj (Option.some.inj same)
    exact .finished f _ o (by simp)
  cases f with
  | deletingTransaction transaction upstreamCode =>
      simp only [resumeFrame] at h
      split at h
      · exact ends _ h
      next live =>
        obtain ⟨rfl, rfl⟩ := Prod.mk.inj (Option.some.inj h)
        exact .deletedTransaction transaction upstreamCode n live
  | deletingCode client code =>
      rcases issueTokens_cases cfg w (.code code) client.clientId code.scopes code.user with
        raised | ⟨issue, issued, clientId, scopes, user, access, refresh⟩
      · rw [resumeFrame, raised] at h
        obtain ⟨rfl, rfl⟩ := Prod.mk.inj (Option.some.inj h)
        exact .withoutSub _ n
      · rw [resumeFrame, issued] at h
        obtain ⟨rfl, rfl⟩ := Prod.mk.inj (Option.some.inj h)
        exact .deletedCode client code n issue clientId scopes user access refresh
  | deletingRefresh client token scopes =>
      rcases issueTokens_cases cfg w (.refresh token) client.clientId
        (if scopes = [] then token.scopes else scopes) token.user with
        raised | ⟨issue, issued, clientId, narrowed, user, access, refresh⟩
      · rw [resumeFrame, raised] at h
        obtain ⟨rfl, rfl⟩ := Prod.mk.inj (Option.some.inj h)
        exact .withoutSub _ n
      · rw [resumeFrame, issued] at h
        obtain ⟨rfl, rfl⟩ := Prod.mk.inj (Option.some.inj h)
        exact .deletedRefresh client token scopes n issue clientId narrowed user access refresh
  | revokingAccess token =>
      obtain ⟨rfl, rfl⟩ := Prod.mk.inj (Option.some.inj h)
      exact .revokedAccess token n
  | purging model now deleted =>
      simp only [resumeFrame] at h
      split at h
      next following _ =>
        obtain ⟨rfl, rfl⟩ := Prod.mk.inj (Option.some.inj h)
        exact .purged model following now deleted n
      · obtain ⟨rfl, rfl⟩ := Prod.mk.inj (Option.some.inj h)
        exact .purgedAll model now deleted n
  | deletingAccess | revokingRefresh => exact ends _ h
  | _ => contradiction

theorem resumeFrame_cases {cfg : Config} {w w' : World} {f f' : Frame} {a : Answer}
    (h : resumeFrame cfg w f a = some (w', f')) : ProviderStep cfg w f a w' f' := by
  have ends (o : Outcome) (same : some (w, Frame.finished o) = some (w', f'))
      (unidentified : ∀ user, a ≠ .upstream user) : ProviderStep cfg w f a w' f' := by
    obtain ⟨rfl, rfl⟩ := Prod.mk.inj (Option.some.inj same)
    exact .finished f a o unidentified
  cases a with
  | done =>
      cases f with
      | validating client params =>
          obtain ⟨rfl, rfl⟩ := Prod.mk.inj (Option.some.inj h)
          exact .authorizing client params
      | sleeping =>
          obtain ⟨rfl, rfl⟩ := Prod.mk.inj (Option.some.inj h)
          exact .slept
      | _ => contradiction
  | created =>
      cases f with
      | creatingAccess exchange issue =>
          obtain ⟨rfl, rfl⟩ := Prod.mk.inj (Option.some.inj h)
          exact .createdAccess exchange issue
      | creatingTransaction | creatingCode | creatingRefresh => exact ends _ h (by simp)
      | _ => contradiction
  | transaction found =>
      cases f with
      | loadingTransaction id upstreamCode =>
          cases found with
          | none => exact ends _ h (by simp)
          | some transaction =>
              obtain ⟨rfl, rfl⟩ := Prod.mk.inj (Option.some.inj h)
              exact .loadedTransaction id upstreamCode transaction
      | _ => contradiction
  | code found =>
      cases f with
      | loadingCode client grant =>
          cases found with
          | none => exact ends _ h (by simp)
          | some row =>
              simp only [resumeFrame] at h
              split at h
              next accepted =>
                obtain ⟨rfl, rfl⟩ := Prod.mk.inj (Option.some.inj h)
                exact .loadedCode client grant row accepted
              · exact ends _ h (by simp)
      | _ => contradiction
  | token found =>
      cases f with
      | loadingRefresh client grant =>
          cases found with
          | none => exact ends _ h (by simp)
          | some row =>
              simp only [resumeFrame] at h
              split at h
              next scopes accepted =>
                obtain ⟨rfl, rfl⟩ := Prod.mk.inj (Option.some.inj h)
                exact .loadedRefresh client grant row scopes accepted
              · exact ends _ h (by simp)
      | loadingAccess token =>
          cases found with
          | none => exact ends _ h (by simp)
          | some row =>
              simp only [resumeFrame] at h
              split at h
              · obtain ⟨rfl, rfl⟩ := Prod.mk.inj (Option.some.inj h)
                exact .loadedExpired token row
              · exact ends _ h (by simp)
      | _ => contradiction
  | deleted n => exact resumeFrame_deleted h
  | upstream user =>
      cases f with
      | exchangingUpstream transaction upstreamCode =>
          obtain ⟨rfl, rfl⟩ := Prod.mk.inj (Option.some.inj h)
          exact .identified transaction upstreamCode user
      | _ => contradiction
  | upstreamInvalid => cases f <;> first | contradiction | exact ends _ h (by simp)
  | raised => cases f <;> first | contradiction | exact ends _ h (by simp)

/-! ## The provider as a system of tasks -/

abbrev Task := Tasks.Task Answer Frame
abbrev State := Tasks.State Db World Answer Frame
abbrev Action := Tasks.Action Answer Request

def provider (cfg : Config) : Tasks.Program Db World DbOp Answer Frame Request where
  -- All replicas share the database; a task may run in any of them.
  start := startRequest
  op := frameOp
  perform db _ op := some (db.perform op)
  failure _ := some .raised
  resume w _ f a := resumeFrame cfg w f a
  tick time w := { w with now := time }

abbrev step (cfg : Config) : State → Action → Option State := Tasks.step (provider cfg)

abbrev run (cfg : Config) : State → List Action → Option State := Runs.run (step cfg)

abbrev Along (cfg : Config) : (State → Action → State → Prop) → State → List Action → Prop :=
  Runs.Along (step cfg)

def init (now : Int) : State where
  store := ⟨.empty, .empty, .empty, .empty⟩
  world := ⟨now, 0⟩
  tasks := []

end StreamingPortal.Mcp
