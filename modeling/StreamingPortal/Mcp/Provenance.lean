import StreamingPortal.Mcp.SingleUse

set_option autoImplicit false

/-! # Whose grants they are, and how much they allow -/

namespace StreamingPortal.Mcp

open Tasks

structure Rights where
  clientId : String
  scopes : List String
  user : User

def Rights.Within (r r' : Rights) : Prop :=
  r.clientId = r'.clientId ∧ r.scopes ⊆ r'.scopes ∧ r.user = r'.user

theorem Rights.Within.refl (r : Rights) : r.Within r := ⟨rfl, List.Subset.refl _, rfl⟩

theorem Rights.Within.trans {r r' r'' : Rights} (h : r.Within r') (h' : r'.Within r'') :
    r.Within r'' :=
  ⟨h.1.trans h'.1, List.Subset.trans h.2.1 h'.2.1, h.2.2.trans h'.2.2⟩

def McpUserGrantModel.rights (row : McpUserGrantModel) : Rights :=
  ⟨row.clientId, row.scopes, row.user⟩

def Issue.rights (issue : Issue) : Rights := ⟨issue.clientId, issue.scopes, issue.user⟩

def Row.rights : Row → Option Rights
  | .transaction _ => none
  | .code row => some row.rights
  | .access row | .refresh row => some row.rights

/-! ## Chains of grants -/

/-- A credential was given out for the login transaction, by any number of exchanges. -/
inductive ProducedFrom (events : List Event) (transaction : McpAuthTransactionModel) (user : User) :
    Credential → Prop
  | code (p : Nat) (loaded : McpAuthTransactionModel) (row : McpAuthCodeModel)
      (started : .started transaction ∈ events) (identified : .identified p user ∈ events)
      (same : loaded.id = transaction.id) (coded : .coded p loaded row ∈ events) :
      ProducedFrom events transaction user (.code row.code)
  | access (source : Credential) (row : McpTokenModel)
      (chain : ProducedFrom events transaction user source)
      (issued : .accessIssued source row ∈ events) :
      ProducedFrom events transaction user (.access row.token)
  | refresh (source : Credential) (row : McpTokenModel)
      (chain : ProducedFrom events transaction user source)
      (issued : .refreshIssued source row ∈ events) :
      ProducedFrom events transaction user (.refresh row.token)

structure CodePreserved (transaction : McpAuthTransactionModel) (user : User)
    (row : McpAuthCodeModel) : Prop where
  clientId : row.clientId = transaction.clientId
  scopes : row.scopes ⊆ transaction.scopes
  codeChallenge : row.codeChallenge = transaction.codeChallenge
  redirectUri : row.redirectUri = transaction.redirectUri
  redirectUriProvidedExplicitly :
    row.redirectUriProvidedExplicitly = transaction.redirectUriProvidedExplicitly
  resource : row.resource = transaction.resource
  user : (loadAuthorizationCode row).user = user

structure TokenPreserved (transaction : McpAuthTransactionModel) (user : User)
    (row : McpTokenModel) : Prop where
  clientId : row.clientId = transaction.clientId
  scopes : row.scopes ⊆ transaction.scopes
  user : (loadToken row).user = user

/-- Every stored grant comes from a login, and is that login's. -/
structure GrantsPreserved (events : List Event) (db : Db) : Prop where
  code : ∀ row ∈ db.codes.rows,
    (∃ transaction user, ProducedFrom events transaction user (.code row.code)) ∧
      ∀ transaction user, ProducedFrom events transaction user (.code row.code) →
        CodePreserved transaction user row
  access : ∀ row ∈ db.accessTokens.rows,
    (∃ transaction user, ProducedFrom events transaction user (.access row.token)) ∧
      ∀ transaction user, ProducedFrom events transaction user (.access row.token) →
        TokenPreserved transaction user row
  refresh : ∀ row ∈ db.refreshTokens.rows,
    (∃ transaction user, ProducedFrom events transaction user (.refresh row.token)) ∧
      ∀ transaction user, ProducedFrom events transaction user (.refresh row.token) →
        TokenPreserved transaction user row

/-- The token endpoint of the SDK exchanges a grant for its own client and narrows scopes. -/
structure SdkContract (cfg : Config) : Prop where
  code : ∀ client grant code now, cfg.acceptsCode client grant code now = true →
    client.clientId = code.clientId
  refresh : ∀ client grant token now scopes,
    cfg.acceptsRefresh client grant token now = some scopes →
      client.clientId = token.clientId ∧ scopes ⊆ token.scopes

/-! ## What a task carries from one row to the next -/

def Granted (events : List Event) (k : Credential) (r : Rights) : Prop :=
  -- A row with these rights has been stored under the credential.
  ∃ e ∈ events, ∃ row, e.stores = some row ∧ row.credential = k ∧ row.rights = some r

def Covered (events : List Event) (k : Credential) (r : Rights) : Prop :=
  ∃ r', Granted events k r' ∧ r.Within r'

def Carries (events : List Event) (p : Nat) (t : Task) : Prop :=
  match t.frame, t.answer with
  | .loadingTransaction _ _, some (.transaction (some transaction)) => .started transaction ∈ events
  | .deletingTransaction transaction _, _ => .started transaction ∈ events
  | .exchangingUpstream transaction _, _ => .started transaction ∈ events
  | .creatingCode transaction user row, _ =>
      .started transaction ∈ events ∧ .identified p user ∈ events ∧
        CodePreserved transaction user row
  | .loadingCode _ _, some (.code (some row)) => Covered events (.code row.code) row.rights
  | .deletingCode client code, _ =>
      Covered events (.code code.code) ⟨client.clientId, code.scopes, code.user⟩
  | .loadingRefresh _ _, some (.token (some row)) => Covered events (.refresh row.token) row.rights
  | .deletingRefresh client token scopes, _ =>
      Covered events (.refresh token.token) ⟨client.clientId, token.scopes, token.user⟩ ∧
        scopes ⊆ token.scopes
  | .creatingAccess exchange issue, _ => Covered events exchange.credential issue.rights
  | .creatingRefresh exchange issue, _ => Covered events exchange.credential issue.rights
  | _, _ => True

section More

variable {events more : List Event}

theorem Granted.mono (within : events ⊆ more) {k : Credential} {r : Rights}
    (h : Granted events k r) : Granted more k r := by
  obtain ⟨e, inside, stored⟩ := h
  exact ⟨e, within inside, stored⟩

theorem Covered.mono (within : events ⊆ more) {k : Credential} {r : Rights}
    (h : Covered events k r) : Covered more k r := by
  obtain ⟨r', granted, narrower⟩ := h
  exact ⟨r', granted.mono within, narrower⟩

theorem ProducedFrom.mono (within : events ⊆ more) {transaction : McpAuthTransactionModel}
    {user : User} {k : Credential} (h : ProducedFrom events transaction user k) :
    ProducedFrom more transaction user k := by
  induction h with
  | code p loaded row started identified same coded =>
      exact .code p loaded row (within started) (within identified) same (within coded)
  | access source row _ issued chain => exact .access source row chain (within issued)
  | refresh source row _ issued chain => exact .refresh source row chain (within issued)

theorem Carries.mono (within : events ⊆ more) {p : Nat} {t : Task} (h : Carries events p t) :
    Carries more p t := by
  revert h
  unfold Carries
  split
  · exact fun h => within h
  · exact fun h => within h
  · exact fun h => within h
  · exact fun h => ⟨within h.1, within h.2.1, h.2.2⟩
  · exact Covered.mono within
  · exact Covered.mono within
  · exact Covered.mono within
  · exact fun h => ⟨h.1.mono within, h.2⟩
  · exact Covered.mono within
  · exact Covered.mono within
  · exact id

end More

theorem carries_request (events : List Event) (p : Nat) (w : World) (r : Request) :
    Carries events p ⟨startRequest w r, none⟩ := by
  have starts := startRequest_starts w r
  generalize startRequest w r = f at starts ⊢
  cases starts <;> trivial

theorem carries_raised {events : List Event} {p : Nat} {f : Frame}
    (h : Carries events p ⟨f, none⟩) : Carries events p ⟨f, some .raised⟩ := by
  cases f <;> exact h

theorem carries_resumed {cfg : Config} (sdk : SdkContract cfg) {events : List Event} {w w' : World}
    {p : Nat} {f f' : Frame} {a : Answer} {stored : Option Answer}
    (given : stored = some a ∨ frameOp f = none) (h : resumeFrame cfg w f a = some (w', f'))
    (carries : Carries events p ⟨f, stored⟩) :
    Carries (events ++ (answered p a).toList) p ⟨f', none⟩ := by
  have kept := carries.mono (List.subset_append_left events (answered p a).toList)
  cases resumeFrame_cases h with
  | loadedTransaction | deletedTransaction | createdAccess =>
      obtain rfl := given.resolve_right (by simp [frameOp])
      exact kept
  | identified transaction upstreamCode user =>
      exact ⟨kept, by simp [answered], ⟨rfl, List.Subset.refl _, rfl, rfl, rfl, rfl, rfl⟩⟩
  | loadedCode client grant row accepted =>
      obtain rfl := given.resolve_right (by simp [frameOp])
      obtain ⟨r, granted, narrower⟩ := kept
      exact ⟨r, granted, (sdk.code _ _ _ _ accepted).trans narrower.1, narrower.2⟩
  | deletedCode client code n issue clientId scopes user =>
      obtain ⟨r, granted, narrower⟩ := kept
      refine ⟨r, granted, clientId.trans narrower.1, ?_, user.trans narrower.2.2⟩
      rw [Issue.rights, scopes]
      exact narrower.2.1
  | loadedRefresh client grant row scopes accepted =>
      obtain rfl := given.resolve_right (by simp [frameOp])
      obtain ⟨r, granted, narrower⟩ := kept
      obtain ⟨own, fewer⟩ := sdk.refresh _ _ _ _ _ accepted
      exact ⟨⟨r, granted, own.trans narrower.1, narrower.2⟩, fewer⟩
  | deletedRefresh client token scopes n issue clientId narrowed user =>
      obtain ⟨⟨r, granted, narrower⟩, fewer⟩ := kept
      refine ⟨r, granted, clientId.trans narrower.1, ?_, user.trans narrower.2.2⟩
      rw [Issue.rights, narrowed]
      -- No scopes in the request stand for all of the token's.
      split
      · exact narrower.2.1
      · exact List.Subset.trans fewer narrower.2.1
  | authorizing | loadedExpired | revokedAccess | purged | purgedAll | slept | finished
  | withoutSub => trivial

theorem granted_of_recorded {events : List Event} {row : Row} {r : Rights}
    (recorded : ∃ e ∈ events, e.stores = some row) (rights : row.rights = some r) :
    Granted events row.credential r := by
  obtain ⟨e, inside, stores⟩ := recorded
  exact ⟨e, inside, row, stores, rfl, rights⟩

theorem carries_executed {cfg : Config} {st : State} {events : List Event} {p : Nat} {f : Frame}
    {op : DbOp} (fresh : Fresh cfg st events) (awaits : frameOp f = some op)
    (carries : Carries events p ⟨f, none⟩) :
    Carries events p ⟨f, some (st.store.perform op).2⟩ := by
  -- Three reads: what they find, some event has stored.
  cases f with
  | loadingTransaction id upstreamCode =>
      obtain rfl := Option.some.inj awaits
      change Carries events p ⟨_, some (.transaction (st.store.transactions.get? id))⟩
      cases found : st.store.transactions.get? id with
      | none => trivial
      | some row =>
          obtain ⟨e, inside, stores⟩ :=
            fresh.recorded (.transaction row) (Table.mem_of_get? found).1
          cases e with
          | started row' =>
              obtain rfl := Row.transaction.inj (Option.some.inj stores)
              exact inside
          | identified | redeemed | coded | accessIssued | refreshIssued => cases stores
  | loadingCode client grant =>
      obtain rfl := Option.some.inj awaits
      change Carries events p ⟨_, some (.code (st.store.codes.get? grant.code))⟩
      cases found : st.store.codes.get? grant.code with
      | none => trivial
      | some row =>
          have recorded := fresh.recorded (.code row) (Table.mem_of_get? found).1
          exact ⟨row.rights, granted_of_recorded recorded rfl, .refl _⟩
  | loadingRefresh client grant =>
      obtain rfl := Option.some.inj awaits
      change Carries events p ⟨_, some (.token (st.store.refreshTokens.get? grant.refreshToken))⟩
      cases found : st.store.refreshTokens.get? grant.refreshToken with
      | none => trivial
      | some row =>
          have recorded := fresh.recorded (.refresh row) (Table.mem_of_get? found).1
          exact ⟨row.rights, granted_of_recorded recorded rfl, .refl _⟩
  | _ => exact carries

/-! ## Every task is told of one user -/

def identifiedFrame : Frame → Prop
  -- The task will not be told of a user any more.
  | .creatingCode _ _ _ | .finished _ => True
  | _ => False

structure IdentifiedOnce (st : State) (events : List Event) : Prop where
  once : ∀ p user user', Event.identified p user ∈ events → .identified p user' ∈ events →
    user = user'
  past : ∀ p user, Event.identified p user ∈ events → ∃ f, st.frame? p = some f ∧ identifiedFrame f

theorem executed_unidentified (p q : Nat) (f : Frame) (user : User) :
    executed p f ≠ some (.identified q user) := by
  cases f <;> simp [executed]

theorem identifiedFrame_resumed {cfg : Config} {w w' : World} {f f' : Frame} {a : Answer}
    (h : resumeFrame cfg w f a = some (w', f')) :
    (identifiedFrame f → identifiedFrame f' ∧ ∀ user, a ≠ .upstream user) ∧
      ∀ user, a = .upstream user → identifiedFrame f' := by
  cases resumeFrame_cases h with
  | finished f a o unidentified =>
      exact ⟨fun _ => ⟨trivial, unidentified⟩, fun user same => absurd same (unidentified user)⟩
  | identified => exact ⟨False.elim, fun _ _ => trivial⟩
  | withoutSub => exact ⟨fun _ => ⟨trivial, by simp⟩, fun _ _ => trivial⟩
  | authorizing | loadedTransaction | deletedTransaction | loadedCode | deletedCode
  | loadedRefresh | deletedRefresh | createdAccess | loadedExpired | revokedAccess | purged
  | purgedAll | slept => exact ⟨False.elim, by simp⟩

theorem observe_unidentified {st : State} {act : Action} (still : st.resumed act = none) (p : Nat)
    (user : User) : observe st act ≠ some (.identified p user) := by
  cases act with
  | execute q =>
      intro happens
      obtain ⟨f, -, happens⟩ := Option.bind_eq_some_iff.mp happens
      exact executed_unidentified q p f user happens
  | request | raise | resume | answer | tick => simp [observe, still]

theorem identified_answered {events : List Event} {p q : Nat} {a : Answer} {user : User}
    (h : Event.identified q user ∈ events ++ (answered p a).toList) :
    .identified q user ∈ events ∨ (q = p ∧ a = .upstream user) := by
  rcases List.mem_append.mp h with before | now
  · exact Or.inl before
  · right
    cases a <;> simp_all [answered]

theorem IdentifiedOnce.frames {st st' : State} {events : List Event} {e : Option Event}
    (inv : IdentifiedOnce st events) (unidentified : ∀ p user, e ≠ some (.identified p user))
    (frames : ∀ p f, st.frame? p = some f → st'.frame? p = some f) :
    IdentifiedOnce st' (events ++ e.toList) := by
  have before (p : Nat) (user : User) (h : Event.identified p user ∈ events ++ e.toList) :
      .identified p user ∈ events := by
    rcases List.mem_append.mp h with before | now
    · exact before
    · exact absurd (Option.mem_toList.mp now) (unidentified p user)
  constructor
  · exact fun p user user' first second => inv.once p user user' (before p user first)
      (before p user' second)
  · intro p user h
    obtain ⟨f, frame, past⟩ := inv.past p user (before p user h)
    exact ⟨f, frames p f frame, past⟩

theorem identifiedOnce_step {cfg : Config} {st st' : State} {act : Action} {events : List Event}
    (inv : IdentifiedOnce st events) (taken : step cfg st act = some st') :
    IdentifiedOnce st' (events ++ (observe st act).toList) := by
  cases step_moves taken with
  | started r still world absent first others =>
      refine inv.frames (observe_unidentified still) fun p f frame => ?_
      rw [others p, frame]
      rintro rfl
      rw [absent] at frame
      contradiction
  | waiting still world frames =>
      exact inv.frames (observe_unidentified still) fun p f frame => (frames p).trans frame
  | moved p f f' a resumed store effect before after others =>
      obtain ⟨stays, arrives⟩ := identifiedFrame_resumed effect
      have past (user : User) (told : Event.identified p user ∈ events) : identifiedFrame f := by
        obtain ⟨g, frame, past⟩ := inv.past p user told
        obtain rfl := Option.some.inj (before.symm.trans frame)
        exact past
      rw [observe_resumed resumed]
      constructor
      · intro q user user' first second
        rcases identified_answered first with old | ⟨rfl, told⟩
        · rcases identified_answered second with old' | ⟨rfl, told⟩
          · exact inv.once q user user' old old'
          · exact absurd told ((stays (past user old)).2 user')
        · rcases identified_answered second with old' | ⟨-, told'⟩
          · exact absurd told ((stays (past user' old')).2 user)
          · exact Answer.upstream.inj (told.symm.trans told')
      · intro q user happens
        rcases identified_answered happens with old | ⟨rfl, told⟩
        · by_cases same : q = p
          · subst same
            exact ⟨f', after, (stays (past user old)).1⟩
          · obtain ⟨g, frame, known⟩ := inv.past q user old
            exact ⟨g, (others q same).trans frame, known⟩
        · exact ⟨f', after, arrives user told⟩

/-! ## Chains along a run -/

structure Accounted (cfg : Config) (st : State) (events : List Event) : Prop where
  fresh : Fresh cfg st events
  identified : IdentifiedOnce st events
  carried : ∀ (p : Nat) (t : Task), st.tasks[p]? = some t → Carries events p t
  coded : ∀ p transaction row, Event.coded p transaction row ∈ events →
    .started transaction ∈ events ∧
      ∃ user, .identified p user ∈ events ∧ CodePreserved transaction user row
  issued : ∀ source row,
    Event.accessIssued source row ∈ events ∨ .refreshIssued source row ∈ events →
      Covered events source row.rights
  rooted : ∀ k r, Granted events k r → ∃ transaction user, ProducedFrom events transaction user k

theorem accounted_init (cfg : Config) (now : Int) : Accounted cfg (init now) [] where
  fresh := fresh_init cfg now
  identified := ⟨by simp, by simp⟩
  carried := by simp [init]
  coded := by simp
  issued := by simp
  rooted := by
    rintro k r ⟨e, inside, -⟩
    contradiction

theorem Accounted.next {cfg : Config} {st st' : State} {events : List Event} {e : Option Event}
    (inv : Accounted cfg st events) (fresh : Fresh cfg st' (events ++ e.toList))
    (identified : IdentifiedOnce st' (events ++ e.toList))
    (carried : ∀ (p : Nat) (t : Task), st'.tasks[p]? = some t → Carries (events ++ e.toList) p t)
    (coded : ∀ p transaction row, e = some (.coded p transaction row) →
      .started transaction ∈ events ∧
        ∃ user, .identified p user ∈ events ∧ CodePreserved transaction user row)
    (issued : ∀ source row,
      e = some (.accessIssued source row) ∨ e = some (.refreshIssued source row) →
        Covered events source row.rights) : Accounted cfg st' (events ++ e.toList) := by
  have more : events ⊆ events ++ e.toList := List.subset_append_left _ _
  have split (e' : Event) : e' ∈ events ++ e.toList ↔ e' ∈ events ∨ e = some e' := by simp
  refine ⟨fresh, identified, carried, ?_, ?_, ?_⟩
  · intro p transaction row inside
    have known : .started transaction ∈ events ∧
        ∃ user, .identified p user ∈ events ∧ CodePreserved transaction user row := by
      rcases (split _).mp inside with before | now
      · exact inv.coded p transaction row before
      · exact coded p transaction row now
    obtain ⟨started, user, told, preserved⟩ := known
    exact ⟨more started, user, more told, preserved⟩
  · intro source row inside
    rw [split, split] at inside
    have known : Covered events source row.rights := by
      rcases inside with (before | now) | before | now
      · exact inv.issued source row (Or.inl before)
      · exact issued source row (Or.inl now)
      · exact inv.issued source row (Or.inr before)
      · exact issued source row (Or.inr now)
    exact known.mono more
  · rintro k r ⟨e', inside, row, stores, rfl, rights⟩
    rcases (split e').mp inside with before | rfl
    · obtain ⟨transaction, user, chain⟩ :=
        inv.rooted row.credential r ⟨e', before, row, stores, rfl, rights⟩
      exact ⟨transaction, user, chain.mono more⟩
    · cases e' with
      | identified | redeemed => contradiction
      | started =>
          obtain rfl := Option.some.inj stores
          contradiction
      | coded p transaction code =>
          obtain rfl := Option.some.inj stores
          obtain ⟨started, user, told, -⟩ := coded p transaction code rfl
          exact ⟨transaction, user, .code p transaction code (more started) (more told) rfl inside⟩
      | accessIssued source token =>
          obtain rfl := Option.some.inj stores
          obtain ⟨r', granted, -⟩ := issued source token (Or.inl rfl)
          obtain ⟨transaction, user, chain⟩ := inv.rooted source r' granted
          exact ⟨transaction, user, .access source token (chain.mono more) inside⟩
      | refreshIssued source token =>
          obtain rfl := Option.some.inj stores
          obtain ⟨r', granted, -⟩ := issued source token (Or.inr rfl)
          obtain ⟨transaction, user, chain⟩ := inv.rooted source r' granted
          exact ⟨transaction, user, .refresh source token (chain.mono more) inside⟩

theorem coded_executed {events : List Event} {p q : Nat} {f : Frame} {answer : Option Answer}
    (carries : Carries events p ⟨f, answer⟩) {transaction : McpAuthTransactionModel}
    {row : McpAuthCodeModel} (happens : executed p f = some (.coded q transaction row)) :
    .started transaction ∈ events ∧
      ∃ user, .identified q user ∈ events ∧ CodePreserved transaction user row := by
  cases f with
  | creatingCode transaction user row =>
      cases happens
      exact ⟨carries.1, user, carries.2⟩
  | _ => cases happens

theorem issued_executed {events : List Event} {p : Nat} {f : Frame} {answer : Option Answer}
    (carries : Carries events p ⟨f, answer⟩) {source : Credential} {row : McpTokenModel}
    (happens : executed p f = some (.accessIssued source row) ∨
      executed p f = some (.refreshIssued source row)) : Covered events source row.rights := by
  cases f with
  | creatingAccess exchange issue | creatingRefresh exchange issue =>
      rcases happens with ⟨⟨⟩⟩ | ⟨⟨⟩⟩
      exact carries
  | _ => rcases happens with ⟨⟨⟩⟩ | ⟨⟨⟩⟩

theorem accounted_resumed {cfg : Config} {st : State} {events : List Event} {p : Nat}
    {f f' : Frame} {a : Answer} {stored : Option Answer} {w : World} (sdk : SdkContract cfg)
    (inv : Accounted cfg st events) (task : st.tasks[p]? = some ⟨f, stored⟩)
    (given : stored = some a ∨ frameOp f = none)
    (effect : resumeFrame cfg st.world f a = some (w, f'))
    (fresh : Fresh cfg { st.setTask p ⟨f', none⟩ with world := w }
      (events ++ (answered p a).toList))
    (identified : IdentifiedOnce { st.setTask p ⟨f', none⟩ with world := w }
      (events ++ (answered p a).toList)) :
    Accounted cfg { st.setTask p ⟨f', none⟩ with world := w }
      (events ++ (answered p a).toList) := by
  refine inv.next fresh identified ?_ ?_ ?_
  · refine forall_set (carries_resumed sdk given effect (inv.carried p _ task)) ?_
    exact fun q t _ old => (inv.carried q t old).mono (List.subset_append_left _ _)
  · intro q transaction row happens
    cases a <;> cases happens
  · intro source row happens
    cases a <;> rcases happens with ⟨⟨⟩⟩ | ⟨⟨⟩⟩

theorem accounted_step {cfg : Config} {st st' : State} {act : Action} {events : List Event}
    (injective : Function.Injective cfg.tokenUrlsafe) (sdk : SdkContract cfg)
    (inv : Accounted cfg st events) (taken : step cfg st act = some st') :
    Accounted cfg st' (events ++ (observe st act).toList) := by
  have fresh := fresh_step injective inv.fresh taken
  have identified := identifiedOnce_step inv.identified taken
  cases step_cases taken with
  | request r =>
      rw [observe_waiting rfl (by simp)] at fresh identified ⊢
      refine inv.next fresh identified (forall_spawn ?_ fun q t old => ?_) (by simp) (by simp)
      · exact carries_request _ _ st.world r
      · exact (inv.carried q t old).mono (List.subset_append_left _ _)
  | tick time =>
      rw [observe_waiting rfl (by simp)] at fresh identified ⊢
      exact inv.next fresh identified
        (fun q t task => (inv.carried q t task).mono (List.subset_append_left _ _)) (by simp)
        (by simp)
  | raise p f op a task awaits effect =>
      obtain rfl : Answer.raised = a := Option.some.inj effect
      rw [observe_waiting rfl (by simp)] at fresh identified ⊢
      refine inv.next fresh identified (forall_set ?_ fun q t _ old => ?_) (by simp) (by simp)
      · exact (carries_raised (inv.carried p _ task)).mono (List.subset_append_left _ _)
      · exact (inv.carried q t old).mono (List.subset_append_left _ _)
  | execute p f op db a task awaits effect =>
      obtain ⟨rfl, rfl⟩ := Prod.mk.inj (Option.some.inj effect)
      have carries := inv.carried p _ task
      rw [observe_execute task] at fresh identified ⊢
      refine inv.next fresh identified (forall_set ?_ fun q t _ old => ?_)
        (fun q transaction row => coded_executed carries)
        (fun source row => issued_executed carries)
      · exact (carries_executed inv.fresh awaits carries).mono (List.subset_append_left _ _)
      · exact (inv.carried q t old).mono (List.subset_append_left _ _)
  | resume p f f' a w task effect =>
      rw [observe_resumed (State.resumed_resume task)] at fresh identified ⊢
      exact accounted_resumed sdk inv task (Or.inl rfl) effect fresh identified
  | answer p f f' a w task awaits effect =>
      rw [observe_resumed (State.resumed_answer a task)] at fresh identified ⊢
      exact accounted_resumed sdk inv task (Or.inr awaits) effect fresh identified

section Chains

variable {cfg : Config} {st : State} {events : List Event} {transaction : McpAuthTransactionModel}
  {user : User}

theorem Accounted.code_preserved (inv : Accounted cfg st events) {p : Nat}
    {loaded : McpAuthTransactionModel} {row : McpAuthCodeModel}
    (started : .started transaction ∈ events) (told : .identified p user ∈ events)
    (same : loaded.id = transaction.id) (coded : .coded p loaded row ∈ events) :
    CodePreserved transaction user row := by
  obtain ⟨started', user', told', preserved⟩ := inv.coded p loaded row coded
  have one : Row.transaction loaded = .transaction transaction :=
    inv.fresh.row_unique started' started rfl rfl (by rw [Row.credential, same, Row.credential])
  obtain rfl := Row.transaction.inj one
  obtain rfl := inv.identified.once p user user' told told'
  exact preserved

theorem Accounted.within (inv : Accounted cfg st events) {k : Credential}
    (chain : ProducedFrom events transaction user k) :
    ∀ r, Granted events k r → r.Within ⟨transaction.clientId, transaction.scopes, user⟩ := by
  -- Along the chain rights only narrow; a key is stored once, so its rights are known.
  induction chain with
  | code p loaded row started told same coded =>
      rintro r ⟨e, inside, row', stores, key, rights⟩
      obtain rfl : row' = .code row := inv.fresh.row_unique inside coded stores rfl key
      obtain rfl := Option.some.inj rights
      have preserved := inv.code_preserved started told same coded
      exact ⟨preserved.clientId, preserved.scopes, preserved.user⟩
  | access source row _ issued ih =>
      rintro r ⟨e, inside, row', stores, key, rights⟩
      obtain rfl : row' = .access row := inv.fresh.row_unique inside issued stores rfl key
      obtain rfl := Option.some.inj rights
      obtain ⟨r', granted, narrower⟩ := inv.issued source row (Or.inl issued)
      exact narrower.trans (ih r' granted)
  | refresh source row _ issued ih =>
      rintro r ⟨e, inside, row', stores, key, rights⟩
      obtain rfl : row' = .refresh row := inv.fresh.row_unique inside issued stores rfl key
      obtain rfl := Option.some.inj rights
      obtain ⟨r', granted, narrower⟩ := inv.issued source row (Or.inr issued)
      exact narrower.trans (ih r' granted)

theorem Accounted.preserved (inv : Accounted cfg st events) : GrantsPreserved events st.store where
  code := by
    intro row stored
    have recorded := inv.fresh.recorded (.code row) stored
    refine ⟨inv.rooted _ _ (granted_of_recorded recorded rfl), fun transaction user chain => ?_⟩
    obtain ⟨e, inside, stores⟩ := recorded
    generalize key : Credential.code row.code = k at chain
    cases chain with
    | access | refresh => cases key
    | code p loaded row' started told same coded =>
        have one : Row.code row = .code row' :=
          inv.fresh.row_unique inside coded stores rfl key
        obtain rfl := Row.code.inj one
        exact inv.code_preserved started told same coded
  access := by
    intro row stored
    have granted := granted_of_recorded (inv.fresh.recorded (.access row) stored) rfl
    refine ⟨inv.rooted _ _ granted, fun transaction user chain => ?_⟩
    obtain ⟨clientId, scopes, same⟩ := inv.within chain _ granted
    exact ⟨clientId, scopes, same⟩
  refresh := by
    intro row stored
    have granted := granted_of_recorded (inv.fresh.recorded (.refresh row) stored) rfl
    refine ⟨inv.rooted _ _ granted, fun transaction user chain => ?_⟩
    obtain ⟨clientId, scopes, same⟩ := inv.within chain _ granted
    exact ⟨clientId, scopes, same⟩

end Chains

theorem grantsPreserved {cfg : Config} (injective : Function.Injective cfg.tokenUrlsafe)
    (sdk : SdkContract cfg) {now : Int} {acts : List Action} {st : State}
    (reached : run cfg (init now) acts = some st) :
    GrantsPreserved (eventsOf cfg (init now) acts) st.store := by
  have inv := Runs.invariant_trace (Accounted cfg)
    (fun s seen a t inv _ taken => accounted_step injective sdk inv taken)
    (accounted_init cfg now) (Runs.along_trivial acts) reached
  exact inv.preserved

theorem sdkContract_sample : SdkContract Sample.config where
  code := by
    intro client grant code now accepted
    simp only [Sample.config, Bool.and_eq_true, beq_iff_eq] at accepted
    exact accepted.1
  refresh := by
    intro client grant token now scopes accepted
    simp only [Sample.config] at accepted
    split at accepted
    next same => exact ⟨same, Option.some.inj accepted ▸ List.Subset.refl _⟩
    next => contradiction

def refreshedOnce : List Action :=
  Sample.login ++ [.request Sample.exchange, .execute 2, .resume 2, .execute 2, .resume 2,
    .execute 2, .resume 2, .execute 2, .resume 2,
    .request (.exchangeRefresh Sample.client ⟨Sample.config.tokenUrlsafe 3, none⟩),
    .execute 3, .resume 3, .execute 3, .resume 3, .execute 3, .resume 3, .execute 3, .resume 3]

theorem grantsPreserved_refresh :
    GrantsPreserved (eventsOf Sample.config (init 0) refreshedOnce)
      ((run Sample.config (init 0) refreshedOnce).get (by decide)).store :=
  grantsPreserved Sample.config_injective sdkContract_sample (Option.some_get _).symm

end StreamingPortal.Mcp
