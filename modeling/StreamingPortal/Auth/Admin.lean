import StreamingPortal.Auth.Model

set_option autoImplicit false

/-! # Who is an administrator -/

namespace StreamingPortal.Auth

open Mcp (Json User)

/-- The groups of a user, `none` where getting them raises. -/
def userGroups (cfg : Config) (idp : IdentityProvider) (user : User) : Option Json :=
  (groupsOf cfg idp user).map Prod.fst

def HasGroup (group : String) : Option Json → Prop
  -- One of the groups is equal to this one.
  | some (.array items) => Json.string group ∈ items
  | some (.string s) => s = group
  | _ => False

def AdminByGroup (cfg : Config) (idp : IdentityProvider) (user : User) : Prop :=
  ∀ after, isAdmin cfg idp user = some (true, after) →
    HasGroup cfg.adminGroup (userGroups cfg idp user)

def Misread (group : String) : Option Json → Prop
  -- The groups are a text or an object that `in` finds the group in.
  | some (.string s) => group.toList <:+: s.toList ∧ s ≠ group
  | some (.object fields) => ∃ field ∈ fields, field.1 = group
  | _ => False

/--
A user whose `sub` looks like that of an API key has the admin group, and the groups
of any other user are not misread.
-/
def GroupsAsMeant (cfg : Config) (idp : IdentityProvider) (user : User) : Prop :=
  match isApiKeyUser user with
  | none => True
  | some true => HasGroup cfg.adminGroup (userGroups cfg idp user)
  | some false => ¬ Misread cfg.adminGroup (userGroups cfg idp user)

theorem any_isString {group : String} {items : List Json} :
    items.any (isString group) = true ↔ Json.string group ∈ items := by
  rw [List.any_eq_true]
  constructor
  · rintro ⟨item, inside, same⟩
    unfold isString at same
    split at same
    next s => rwa [of_decide_eq_true same] at inside
    next => contradiction
  · exact fun inside => ⟨_, inside, by simp [isString]⟩

theorem contains_iff {group : String} {groups : Json} :
    contains group groups = some true ↔
      HasGroup group (some groups) ∨ Misread group (some groups) := by
  cases groups with
  | null | bool | number => simp [contains, HasGroup, Misread]
  | array items =>
      simp only [contains, HasGroup, Misread, Option.some.injEq, any_isString, or_false]
  | object fields =>
      simp only [contains, HasGroup, Misread, Option.some.injEq, List.any_eq_true,
        decide_eq_true_eq, false_or]
  | string s =>
      simp only [contains, HasGroup, Misread, Option.some.injEq, decide_eq_true_eq]
      constructor
      · intro inside
        by_cases same : s = group
        · exact Or.inl same
        · exact Or.inr ⟨inside, same⟩
      · rintro (rfl | ⟨inside, -⟩)
        · exact List.infix_refl _
        · exact inside

theorem misread_truthy {group : String} {groups : Json} (misread : Misread group (some groups)) :
    truthy groups = true := by
  cases groups with
  | null | bool | number | array => exact absurd misread (by simp [Misread])
  | object fields =>
      obtain ⟨field, inside, -⟩ := misread
      cases fields with
      | nil => contradiction
      | cons => rfl
  | string s =>
      obtain ⟨inside, other⟩ := misread
      by_cases empty : s = ""
      · subst empty
        have nothing : group.toList = [] := List.eq_nil_of_infix_nil inside
        exact absurd (String.toList_eq_nil_iff.mp nothing).symm other
      · simp [truthy, empty]

theorem misread_lacks {group : String} {groups : Json} (misread : Misread group (some groups)) :
    ¬ HasGroup group (some groups) := by
  cases groups with
  | string s => exact misread.2
  | null | bool | number | array | object => simp_all [Misread, HasGroup]

theorem isAdmin_iff {cfg : Config} {idp : IdentityProvider} {user : User}
    (token : isApiKeyUser user = some false) :
    (∃ after, isAdmin cfg idp user = some (true, after)) ↔
      ∃ groups, userGroups cfg idp user = some groups ∧ truthy groups = true ∧
        contains cfg.adminGroup groups = some true := by
  simp only [isAdmin, token, Option.bind_some, Bool.false_eq_true, if_false, userGroups,
    Option.map_eq_some_iff, Option.bind_eq_some_iff]
  constructor
  · rintro ⟨after, ⟨groups, remembered⟩, given, answer⟩
    split at answer
    next full =>
      obtain ⟨isMember, member, same⟩ := Option.map_eq_some_iff.mp answer
      obtain ⟨rfl, -⟩ := Prod.mk.inj same
      exact ⟨groups, ⟨_, given, rfl⟩, full, member⟩
    next => simp at answer
  · rintro ⟨_, ⟨⟨groups, remembered⟩, given, rfl⟩, full, member⟩
    exact ⟨remembered, ⟨groups, remembered⟩, given, by simp [full, member]⟩

/-- Whatever the ID token says, its user is an administrator by the group alone exactly if so. -/
theorem adminByGroup_iff (cfg : Config) (idp : IdentityProvider) (user : User) :
    AdminByGroup cfg idp user ↔ GroupsAsMeant cfg idp user := by
  unfold GroupsAsMeant
  split
  next raises =>
    refine iff_of_true (fun after admin => ?_) trivial
    simp [isAdmin, raises] at admin
  next known =>
    constructor
    · exact fun byGroup => byGroup user (by simp [isAdmin, known])
    · exact fun has _ _ => has
  next token =>
    constructor
    · intro byGroup misread
      cases given : userGroups cfg idp user with
      | none => rw [given] at misread; exact misread
      | some groups =>
          rw [given] at misread
          obtain ⟨after, admin⟩ := (isAdmin_iff token).mpr
            ⟨groups, given, misread_truthy misread, contains_iff.mpr (Or.inr misread)⟩
          have has := byGroup after admin
          rw [given] at has
          exact misread_lacks misread has
    · intro meant after admin
      obtain ⟨groups, given, -, member⟩ := (isAdmin_iff token).mp ⟨after, admin⟩
      rw [given] at meant ⊢
      exact (contains_iff.mp member).resolve_right meant

/-! ## Whom `authenticated_only` lets in -/

/-- Built by `create_api_key_user` from a configured API key. -/
def FromApiKey (cfg : Config) (keys : ApiKeys) (user : User) : Prop :=
  ∃ apiKey ∈ keys.keys, user = createApiKeyUser cfg apiKey

/-- Built by `decode_token` from an ID token. -/
def FromToken (cfg : Config) (user : User) : Prop :=
  ∃ idToken accessToken, idToken ≠ "" ∧ decodeToken cfg idToken accessToken = .ok user

theorem decodeToken_idToken {cfg : Config} {idToken : String} {accessToken : Option String}
    {user : User} (decoded : decodeToken cfg idToken accessToken = .ok user) :
    user.idToken = idToken := by
  unfold decodeToken at decoded
  split at decoded
  next => obtain rfl := Except.ok.inj decoded; rfl
  next => contradiction
  next => contradiction

theorem requestApiKey_configured {keys : ApiKeys} {authorization : Option String}
    {apiKey : ApiKeys.ApiKey} (sent : requestApiKey keys authorization = some apiKey) :
    apiKey ∈ keys.keys := by
  obtain ⟨token, -, valid⟩ := Option.bind_eq_some_iff.mp sent
  split at valid
  next => contradiction
  next => exact List.mem_of_find?_eq_some valid

inductive Authenticated (cfg : Config) (keys : ApiKeys) : User → Prop
  | disabled : Authenticated cfg keys unsafeUser
  | apiKey (user : User) (key : FromApiKey cfg keys user) : Authenticated cfg keys user
  | token (user : User) (decoded : FromToken cfg user) : Authenticated cfg keys user

theorem authenticatedOnly_cases {cfg : Config} {keys : ApiKeys}
    {authorization idToken accessToken : Option String} {user : User}
    (entered : authenticatedOnly cfg keys authorization idToken accessToken = .ok user) :
    Authenticated cfg keys user := by
  unfold authenticatedOnly at entered
  split at entered
  next =>
    obtain rfl := Except.ok.inj entered
    exact .disabled
  next =>
    split at entered
    next apiKey sent =>
      obtain rfl := Except.ok.inj entered
      exact .apiKey _ ⟨apiKey, requestApiKey_configured sent, rfl⟩
    next =>
      split at entered
      next => contradiction
      next given => exact .token user ⟨_, accessToken, given, entered⟩

theorem unsafeUser_asMeant (cfg : Config) (idp : IdentityProvider) :
    GroupsAsMeant cfg idp unsafeUser := by
  have token : isApiKeyUser unsafeUser = some false := by decide
  have own : userGroups cfg idp unsafeUser = some (get unsafeUser.payload cfg.groupsClaim) := by
    simp [userGroups, groupsOf, unsafeUser]
  have blank : truthy (get unsafeUser.payload cfg.groupsClaim) = false := by
    simp only [get, unsafeUser, List.lookup_cons, List.lookup_nil]
    repeat' split
    all_goals rfl
  rw [GroupsAsMeant, token, own]
  intro misread
  rw [misread_truthy misread] at blank
  contradiction

/--
Administrator rights come from the admin group alone, API keys apart, exactly for the
users whose token names their groups as meant: for each user by any token, and among
all whom `authenticated_only` lets in.
-/
theorem administrators_iff (cfg : Config) (keys : ApiKeys) (idp : IdentityProvider) :
    (∀ user, AdminByGroup cfg idp user ↔ GroupsAsMeant cfg idp user) ∧
      ∀ authorization idToken accessToken user,
        authenticatedOnly cfg keys authorization idToken accessToken = .ok user →
          (AdminByGroup cfg idp user ∨ FromApiKey cfg keys user ↔
            (FromToken cfg user → GroupsAsMeant cfg idp user)) := by
  refine ⟨adminByGroup_iff cfg idp, ?_⟩
  intro authorization idToken accessToken user entered
  rw [adminByGroup_iff]
  constructor
  · rintro (meant | ⟨apiKey, -, rfl⟩) ⟨idToken, accessToken, given, decoded⟩
    · exact meant
    · exact absurd (decodeToken_idToken decoded).symm given
  · intro meant
    cases authenticatedOnly_cases entered with
    | disabled => exact Or.inl (unsafeUser_asMeant cfg idp)
    | apiKey _ key => exact Or.inr key
    | token _ decoded => exact Or.inl (meant decoded)

/-! ## Three ID tokens -/

namespace Sample

def administrator : Mcp.Payload :=
  [("sub", .string "omniverse"), ("groups", .array [.string "admin"])]

def reviewer : Mcp.Payload :=
  [("sub", .string "reviewer"), ("groups", .string "administrators-read-only")]

def impostor : Mcp.Payload :=
  [("sub", .string "api_key:nightly"), ("groups", .array [.string "users"])]

def config : Config where
  adminGroup := "admin"
  groupsClaim := "groups"
  unsafeDisableAuth := false
  decode := fun idToken =>
    if idToken = "administrator" then .payload administrator
    else if idToken = "reviewer" then .payload reviewer
    else if idToken = "impostor" then .payload impostor
    else .invalid
  format := fun _ => ""

def noKeys : ApiKeys := ⟨[], "", .absent⟩

def idp : IdentityProvider := ⟨some none, fun _ => .failure, fun _ => none⟩

end Sample

theorem administrators_sample :
    AdminByGroup Sample.config Sample.idp ⟨"administrator", none, Sample.administrator⟩ ∨
      FromApiKey Sample.config Sample.noKeys ⟨"administrator", none, Sample.administrator⟩ := by
  refine ((administrators_iff Sample.config Sample.noKeys Sample.idp).2
    none (some "administrator") none _ rfl).mpr fun _ => ?_
  exact fun misread => misread

/-- A group whose name contains the admin group's, and a subject that looks like an API key. -/
theorem administrators_fails :
    ¬ (∀ user, FromToken Sample.config user → user.sub = some "reviewer" →
        AdminByGroup Sample.config Sample.idp user) ∧
      ¬ ∀ user, FromToken Sample.config user → user.sub = some "api_key:nightly" →
        AdminByGroup Sample.config Sample.idp user := by
  constructor
  · intro byGroup
    have has := byGroup ⟨"reviewer", none, Sample.reviewer⟩ ⟨"reviewer", none, by decide, rfl⟩ rfl
      ⟨"reviewer", none, Sample.reviewer⟩ rfl
    have same : "administrators-read-only" = "admin" := has
    exact absurd same (by decide)
  · intro byGroup
    have has := byGroup ⟨"impostor", none, Sample.impostor⟩ ⟨"impostor", none, by decide, rfl⟩ rfl
      ⟨"impostor", none, Sample.impostor⟩ rfl
    have member : Json.string "admin" ∈ [Json.string "users"] := has
    simp at member

/-- Both guards let in only administrators by the group, if its name is read as meant. -/
theorem guards_group {cfg : Config} {idp : IdentityProvider} {user : User}
    (meant : GroupsAsMeant cfg idp user) (authenticates : cfg.unsafeDisableAuth = false)
    (passes : adminOnly cfg idp user = .ok () ∨ ensureAdmin cfg idp (some user) = .ok ()) :
    HasGroup cfg.adminGroup (userGroups cfg idp user) := by
  have admin : ∃ after, isAdmin cfg idp user = some (true, after) := by
    simp only [adminOnly, ensureAdmin, authenticates, Bool.false_eq_true, if_false] at passes
    rcases passes with passes | passes
    all_goals
      split at passes
      next => contradiction
      next after admin => exact ⟨after, admin⟩
      next => contradiction
  obtain ⟨after, admin⟩ := admin
  exact (adminByGroup_iff cfg idp user).mpr meant after admin

end StreamingPortal.Auth
