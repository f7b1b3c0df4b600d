import StreamingPortal.Auth.Admin
import StreamingPortal.Shared.CachedCalls

set_option autoImplicit false

/-!
# How long the groups of a user are remembered

`get_groups` keeps what the identity provider has told of an access token for `userinfo_ttl`, and
`is_admin` goes by it. The cache is a parameter.
-/

namespace StreamingPortal.Auth

open CachedCalls
open Mcp (Json User)

/-- The identity provider as it is when nothing is cached. -/
def IdentityProvider.uncached (idp : IdentityProvider) : IdentityProvider :=
  { idp with cached := fun _ => none }

/-- What `get_groups` makes of the answers of the identity provider, `none` where it raises. -/
def readGroups (accessToken : String) (idp : IdentityProvider) : Option Json :=
  getGroups idp.uncached accessToken

-- As `is_admin` sees it once its call of `get_groups` has returned.
def returning (groups : Json) : IdentityProvider := ⟨none, fun _ => .raised, fun _ => some groups⟩

theorem isAdmin_congr (cfg : Config) {idp idp' : IdentityProvider} {user : User}
    (same : getGroups idp (user.accessToken.getD "") =
      getGroups idp' (user.accessToken.getD "")) :
    isAdmin cfg idp user = isAdmin cfg idp' user := by
  simp only [isAdmin, groupsOf, same]

theorem isAdmin_returning (cfg : Config) {user : User} {groups : Json} {idp : IdentityProvider}
    (told : readGroups (user.accessToken.getD "") idp = some groups) :
    isAdmin cfg (returning groups) user = isAdmin cfg idp.uncached user :=
  isAdmin_congr cfg told.symm

section Rights

variable (cfg : Config) {cache : TtlCache String Json}

/-- Whether the answers of the identity provider make the user an administrator. -/
def ToldAdmin (user : User) (idp : IdentityProvider) : Prop :=
  ∃ after, isAdmin cfg idp.uncached user = some (true, after)

def AdminBy (user : User) (groups : Json) : Prop :=
  ∃ after, isAdmin cfg (returning groups) user = some (true, after)

structure RightsFollow (user : User) (s : State cache)
    (events : List (Event String Json IdentityProvider)) : Prop where
  -- Whoever was an administrator by a call, the identity provider has told so.
  returned : ∀ (p : Nat) groups,
    s.calls[p]? = some (.returned (user.accessToken.getD "") groups) →
      ∃ stored, .stored stored ∈ events ∧ stored.key = user.accessToken.getD "" ∧
        stored.time ≤ s.now ∧ (AdminBy cfg user groups ↔ ToldAdmin cfg user stored.reply)
  -- Unless the provider is asked again, it has told so not too long ago.
  next : (lookUp cache s (user.accessToken.getD "")).calls =
      s.calls ++ [.asking (user.accessToken.getD "")] ∨
    ∃ stored, (lookUp cache s (user.accessToken.getD "")).calls =
        s.calls ++ [.returned (user.accessToken.getD "") stored.value] ∧
      .stored stored ∈ events ∧ stored.key = user.accessToken.getD "" ∧
      s.now < stored.time + cache.ttl ∧
      (AdminBy cfg user stored.value ↔ ToldAdmin cfg user stored.reply)
  -- Rights that have been withdrawn are gone once the time to live has passed.
  withdrawn : ∀ since, since + cache.ttl ≤ s.now →
    (∀ stored, .stored stored ∈ events → stored.key = user.accessToken.getD "" →
      since ≤ stored.time → ¬ ToldAdmin cfg user stored.reply) →
    ∀ groups, (lookUp cache s (user.accessToken.getD "")).calls =
      s.calls ++ [.returned (user.accessToken.getD "") groups] → ¬ AdminBy cfg user groups

theorem adminBy_iff {user : User} {groups : Json} {idp : IdentityProvider}
    (told : readGroups (user.accessToken.getD "") idp = some groups) :
    AdminBy cfg user groups ↔ ToldAdmin cfg user idp := by
  rw [AdminBy, ToldAdmin, isAdmin_returning cfg told]

theorem next_rights {user : User} {s : State cache}
    {events : List (Event String Json IdentityProvider)} (inv : Holds readGroups s events)
    {groups : Json}
    (found : cache.get? s.contents s.now (user.accessToken.getD "") = some groups) :
    ∃ stored, .stored stored ∈ events ∧ stored.key = user.accessToken.getD "" ∧
      stored.value = groups ∧ s.now < stored.time + cache.ttl ∧
      (AdminBy cfg user groups ↔ ToldAdmin cfg user stored.reply) := by
  obtain ⟨last, fresh, rfl⟩ := inv.answer found
  obtain ⟨young, inside, same, -⟩ := freshStored_cases fresh
  have told := inv.wasRead last inside
  rw [same] at told
  exact ⟨last, inside, same, rfl, young, adminBy_iff cfg told⟩

/--
However calls of `get_groups`, answers of the identity provider and the clock interleave, the
rights of a user are those the identity provider has told of less than the time to live ago.
-/
theorem rightsFollow (user : User) {start : Int} {acts : List (Action String IdentityProvider)}
    {s : State cache}
    (reached : Runs.run (step cache readGroups) (init cache start) acts = some s) :
    RightsFollow cfg user s (eventsOf cache readGroups (init cache start) acts) where
  returned := by
    intro p groups returned
    obtain ⟨stored, of⟩ := traced_run reached p _ groups returned
    exact ⟨stored, of.inside, of.sameKey, of.past, adminBy_iff cfg of.wasRead⟩
  next := by
    rw [lookUp_calls]
    cases found : cache.get? s.contents s.now (user.accessToken.getD "") with
    | none => exact Or.inl rfl
    | some groups =>
        obtain ⟨stored, inside, same, rfl, young, told⟩ :=
          next_rights cfg (holds_run reached) found
        exact Or.inr ⟨stored, rfl, inside, same, young, told⟩
  withdrawn := by
    intro since late gone groups answered admin
    rw [lookUp_calls] at answered
    cases found : cache.get? s.contents s.now (user.accessToken.getD "") with
    | none => simp [found] at answered
    | some kept =>
        obtain rfl : kept = groups := by simpa [found] using answered
        obtain ⟨stored, inside, same, -, young, told⟩ :=
          next_rights cfg (holds_run reached) found
        exact gone stored inside same (by omega) (told.mp admin)

end Rights

namespace Sample

def member : User := ⟨"id", some "access", [("sub", .string "member")]⟩

def cache : TtlCache String Json := .lru String Json 64 60

def telling (groups : List Json) : IdentityProvider :=
  ⟨some (some "https://idp/userinfo"),
    fun _ => .success (some (.object [("groups", .array groups)])), fun _ => none⟩

/-- An administrator loses the group, and with the next question to the provider the rights. -/
def demotion : List (Action String IdentityProvider) :=
  [.call "access", .reply 0 (telling [.string "admin"]), .tick 59, .call "access", .tick 60,
    .call "access", .reply 2 (telling [])]

end Sample

theorem rightsFollow_sample :
    RightsFollow Sample.config Sample.member
      ((Runs.run (step Sample.cache readGroups) (init Sample.cache 0) Sample.demotion).get
        (by decide))
      (eventsOf Sample.cache readGroups (init Sample.cache 0) Sample.demotion) :=
  rightsFollow Sample.config Sample.member (Option.some_get _).symm

end StreamingPortal.Auth
