import StreamingPortal.Mcp.Events

set_option autoImplicit false

/-! # How often a credential is redeemed -/

namespace StreamingPortal.Mcp

open Tasks

inductive Yield
  | code | access | refresh
deriving DecidableEq, Repr

def Event.yields : Event → Option (Credential × Yield)
  -- What a stored grant was given out for.
  | .coded _ transaction _ => some (.transaction transaction.id, .code)
  | .accessIssued source _ => some (source, .access)
  | .refreshIssued source _ => some (source, .refresh)
  | .started _ | .identified _ _ | .redeemed _ => none

def yields (events : List Event) : List (Credential × Yield) := events.filterMap Event.yields

/--
A login transaction yields at most one code, and a code or a refresh token at most one
access token and one refresh token.
-/
def SingleUse (events : List Event) : Prop := (yields events).Nodup

def Db.stores (db : Db) : Credential → Prop
  | .transaction id => (db.transactions.get? id).isSome = true
  | .code code => (db.codes.get? code).isSome = true
  | .access token => (db.accessTokens.get? token).isSome = true
  | .refresh token => (db.refreshTokens.get? token).isSome = true

instance (db : Db) (k : Credential) : Decidable (db.stores k) :=
  match k with
  | .transaction _ | .code _ | .access _ | .refresh _ => inferInstanceAs (Decidable (_ = true))

def redeems : Frame → Option Credential
  -- The credential whose row the operation of a frame deletes to redeem it.
  | .deletingTransaction transaction _ => some (.transaction transaction.id)
  | .deletingCode _ code => some (.code code.code)
  | .deletingRefresh _ token _ => some (.refresh token.token)
  | _ => none

def DeletesStored (st : State) : Action → State → Prop
  | .execute p, _ => ∀ f ∈ st.frame? p, ∀ k ∈ redeems f, st.store.stores k
  | _, _ => True

instance (st : State) (act : Action) (st' : State) : Decidable (DeletesStored st act st') :=
  match act with
  | .execute p => inferInstanceAs (Decidable (∀ f ∈ st.frame? p, ∀ k ∈ redeems f, _))
  | .request _ | .raise _ | .resume _ | .answer _ _ | .tick _ => isTrue trivial

def Event.redeems : Event → Option Credential
  | .redeemed k => some k
  | _ => none

def redemptions (events : List Event) : List Credential := events.filterMap Event.redeems

theorem redemptions_append (events : List Event) (e : Option Event) :
    redemptions (events ++ e.toList) = redemptions events ++ (e.bind Event.redeems).toList := by
  cases e with
  | none => simp [redemptions]
  | some e => cases h : e.redeems <;> simp [redemptions, h]

theorem yields_append (events : List Event) (e : Option Event) :
    yields (events ++ e.toList) = yields events ++ (e.bind Event.yields).toList := by
  cases e with
  | none => simp [yields]
  | some e => cases h : e.yields <;> simp [yields, h]

theorem redeems_executed (p : Nat) (f : Frame) : (executed p f).bind Event.redeems = redeems f := by
  cases f <;> rfl

theorem redemptions_answered (events : List Event) (p : Nat) (a : Answer) :
    redemptions (events ++ (answered p a).toList) = redemptions events := by
  rw [redemptions_append]
  cases a <;> simp [answered, Event.redeems]

theorem yields_answered (events : List Event) (p : Nat) (a : Answer) :
    yields (events ++ (answered p a).toList) = yields events := by
  rw [yields_append]
  cases a <;> simp [answered, Event.yields]

/-! ## The rows of credentials -/

theorem get?_isSome_iff {ρ : Type} {key : ρ → String} {t : Table String ρ key} {k : String} :
    (t.get? k).isSome = true ↔ ∃ row ∈ t.rows, key row = k := by
  simp only [Option.isSome_iff_exists, Table.get?_eq_some_iff]

theorem deleted_gone {ρ : Type} {key : ρ → String} (t : Table String ρ key) (k : String) :
    ¬ ((deleteRows t fun r => decide (key r = k)).1.get? k).isSome = true := by
  intro stores
  obtain ⟨row, stored, same⟩ := get?_isSome_iff.mp stores
  exact of_decide_eq_false (mem_deleteRows.mp stored).2 same

theorem stores_iff {db : Db} {k : Credential} :
    db.stores k ↔ ∃ r, db.holds r ∧ r.credential = k := by
  constructor
  · intro stores
    cases k with
    | transaction =>
        obtain ⟨row, stored, rfl⟩ := get?_isSome_iff.mp stores
        exact ⟨.transaction row, stored, rfl⟩
    | code =>
        obtain ⟨row, stored, rfl⟩ := get?_isSome_iff.mp stores
        exact ⟨.code row, stored, rfl⟩
    | access =>
        obtain ⟨row, stored, rfl⟩ := get?_isSome_iff.mp stores
        exact ⟨.access row, stored, rfl⟩
    | refresh =>
        obtain ⟨row, stored, rfl⟩ := get?_isSome_iff.mp stores
        exact ⟨.refresh row, stored, rfl⟩
  · rintro ⟨r, holds, rfl⟩
    cases r <;> exact get?_isSome_iff.mpr ⟨_, holds, rfl⟩

theorem Fresh.created_of_stores {cfg : Config} {st : State} {events : List Event}
    (fresh : Fresh cfg st events) {k : Credential} (stores : st.store.stores k) :
    k ∈ created events := by
  obtain ⟨r, holds, rfl⟩ := stores_iff.mp stores
  obtain ⟨e, inside, recorded⟩ := fresh.recorded r holds
  exact List.mem_filterMap.mpr ⟨e, inside, by simp [Event.creates, recorded]⟩

theorem stores_performed {p : Nat} {f : Frame} {op : DbOp} {db : Db} {k : Credential}
    (awaits : frameOp f = some op) (stores : (db.perform op).1.stores k) :
    db.stores k ∨ (executed p f).bind Event.creates = some k := by
  obtain ⟨r, holds, rfl⟩ := stores_iff.mp stores
  rcases holds_performed holds with before | now
  · exact Or.inl (stores_iff.mpr ⟨r, before, rfl⟩)
  · rw [← inserts_executed p awaits] at now
    obtain ⟨e, happens, stored⟩ := Option.bind_eq_some_iff.mp now
    exact Or.inr (by simp [happens, Event.creates, stored])

theorem redeemed_gone {f : Frame} {op : DbOp} (db : Db) {k : Credential}
    (awaits : frameOp f = some op) (redeemed : redeems f = some k) :
    ¬ (db.perform op).1.stores k := by
  cases f with
  | deletingTransaction | deletingCode | deletingRefresh =>
      obtain rfl := Option.some.inj awaits
      obtain rfl := Option.some.inj redeemed
      exact deleted_gone _ _
  | _ => contradiction

/-! ## What a redemption still owes -/

def pair (k : Credential) : List (Credential × Yield) := [(k, .access), (k, .refresh)]

def owes (t : Task) : List (Credential × Yield) :=
  -- What a task is going to store for a credential it has deleted.
  match t.frame, t.answer with
  | .deletingTransaction transaction _, some (.deleted _) => [(.transaction transaction.id, .code)]
  | .exchangingUpstream transaction _, _ => [(.transaction transaction.id, .code)]
  | .creatingCode transaction _ _, none => [(.transaction transaction.id, .code)]
  | .deletingCode _ code, some (.deleted _) => pair (.code code.code)
  | .deletingRefresh _ token _, some (.deleted _) => pair (.refresh token.token)
  | .creatingAccess exchange _, none => pair exchange.credential
  | .creatingAccess exchange _, some _ => [(exchange.credential, .refresh)]
  | .creatingRefresh exchange _, none => [(exchange.credential, .refresh)]
  | _, _ => []

theorem owes_redeemed (p : Nat) {f : Frame} {k : Credential} (redeemed : redeems f = some k)
    (a : Answer) :
    (executed p f).bind Event.yields = none ∧ (owes ⟨f, some a⟩).Nodup ∧
      ∀ y ∈ owes ⟨f, some a⟩, y.1 = k := by
  cases f with
  | deletingTransaction | deletingCode | deletingRefresh =>
      obtain rfl := Option.some.inj redeemed
      cases a <;> simp [owes, pair, executed, Event.yields]
  | _ => contradiction

theorem owes_executed (p : Nat) {f : Frame} {op : DbOp} (awaits : frameOp f = some op)
    (other : redeems f = none) (a : Answer) :
    owes ⟨f, none⟩ = ((executed p f).bind Event.yields).toList ++ owes ⟨f, some a⟩ := by
  cases f <;> first | contradiction | rfl

theorem owes_raised {f : Frame} {op : DbOp} (awaits : frameOp f = some op) :
    (owes ⟨f, some .raised⟩).Sublist (owes ⟨f, none⟩) := by
  cases f <;> first | contradiction | simp [owes, pair]

theorem owes_resumed {cfg : Config} {w w' : World} {f f' : Frame} {a : Answer}
    {stored : Option Answer} (given : stored = some a ∨ frameOp f = none)
    (h : resumeFrame cfg w f a = some (w', f')) :
    (owes ⟨f', none⟩).Sublist (owes ⟨f, stored⟩) := by
  cases resumeFrame_cases h with
  | deletedTransaction | deletedCode | deletedRefresh | createdAccess =>
      obtain rfl := given.resolve_right (by simp [frameOp])
      exact List.Sublist.refl _
  | identified => exact List.Sublist.refl _
  | authorizing | loadedTransaction | loadedCode | loadedRefresh | loadedExpired | revokedAccess
  | purged | purgedAll | slept | finished | withoutSub => exact List.nil_sublist _

theorem owes_request (w : World) (r : Request) : owes ⟨startRequest w r, none⟩ = [] := by
  have starts := startRequest_starts w r
  generalize startRequest w r = f at starts ⊢
  cases starts <;> rfl

/-! ## Redemptions along a run -/

structure Redeeming (cfg : Config) (st : State) (events : List Event) : Prop where
  fresh : Fresh cfg st events
  gone : ∀ k ∈ redemptions events, ¬ st.store.stores k ∧ k ∈ created events
  owed : Exclusive owes st.tasks (yields events)
  paid : ∀ y ∈ yields events, y.1 ∈ redemptions events
  owing : ∀ (p : Nat) (t : Task) (y : Credential × Yield), st.tasks[p]? = some t → y ∈ owes t →
    y.1 ∈ redemptions events

theorem redeeming_init (cfg : Config) (now : Int) : Redeeming cfg (init now) [] where
  fresh := fresh_init cfg now
  gone := by simp [redemptions]
  owed := exclusive_nil
  paid := by simp [yields]
  owing := by simp [init]

section Step

variable {cfg : Config} {st : State} {events : List Event} {p : Nat} {f : Frame}

theorem redeeming_resumed (injective : Function.Injective cfg.tokenUrlsafe) {f' : Frame}
    {a : Answer} {stored : Option Answer} {w : World} (inv : Redeeming cfg st events)
    (task : st.tasks[p]? = some ⟨f, stored⟩) (given : stored = some a ∨ frameOp f = none)
    (effect : resumeFrame cfg st.world f a = some (w, f')) :
    Redeeming cfg { st.setTask p ⟨f', none⟩ with world := w }
      (events ++ (answered p a).toList) where
  fresh := fresh_resumed injective inv.fresh task given effect
  gone := by
    rw [created_answered, redemptions_answered]
    exact inv.gone
  owed := by
    rw [yields_answered]
    exact inv.owed.keep task (owes_resumed given effect)
  paid := by
    rw [yields_answered, redemptions_answered]
    exact inv.paid
  owing := by
    rw [redemptions_answered]
    intro q t y task' mine
    rcases getElem?_set_cases task' with ⟨rfl, rfl⟩ | ⟨-, old⟩
    · exact inv.owing q _ y task ((owes_resumed given effect).subset mine)
    · exact inv.owing q t y old mine

theorem owed_executed {op : DbOp} {a : Answer} (inv : Redeeming cfg st events)
    (task : st.tasks[p]? = some ⟨f, none⟩) (awaits : frameOp f = some op)
    (alone : ∀ k, redeems f = some k → st.store.stores k) :
    Exclusive owes (st.tasks.set p ⟨f, some a⟩)
      (yields events ++ ((executed p f).bind Event.yields).toList) := by
  cases redeemed : redeems f with
  | none =>
      -- Any other operation pays for what it stores.
      have split := owes_executed p awaits redeemed a
      have nodup := split ▸ inv.owed.nodup p _ task
      obtain ⟨once, rest, apart⟩ := List.nodup_append'.mp nodup
      refine inv.owed.move ⟨f, some a⟩ task _ ?_ once rest ?_
      · intro y mine
        rw [split]
        exact List.mem_append_left _ mine
      · intro y mine
        refine ⟨fun paying => apart paying mine, Or.inl ?_⟩
        rw [split]
        exact List.mem_append_right _ mine
  | some k =>
      -- The first delete of this credential: nobody else owes for it or has been paid.
      obtain ⟨pays, nodup, only⟩ := owes_redeemed p redeemed a
      have first : k ∉ redemptions events := fun before => (inv.gone k before).1 (alone k redeemed)
      rw [pays]
      refine inv.owed.move ⟨f, some a⟩ task [] (by simp) List.nodup_nil nodup ?_
      intro y mine
      refine ⟨by simp, Or.inr ⟨fun paid => first ?_, fun q t other theirs => first ?_⟩⟩
      · exact only y mine ▸ inv.paid y paid
      · exact only y mine ▸ inv.owing q t y other theirs

theorem redeeming_executed {op : DbOp} (inv : Redeeming cfg st events)
    (fresh : Fresh cfg { st.setTask p ⟨f, some (st.store.perform op).2⟩ with
      store := (st.store.perform op).1 } (events ++ (executed p f).toList))
    (task : st.tasks[p]? = some ⟨f, none⟩) (awaits : frameOp f = some op)
    (alone : ∀ k, redeems f = some k → st.store.stores k) :
    Redeeming cfg { st.setTask p ⟨f, some (st.store.perform op).2⟩ with
      store := (st.store.perform op).1 } (events ++ (executed p f).toList) := by
  have grown : ∀ k ∈ redemptions events,
      k ∈ redemptions events ++ (redeems f).toList := fun k => List.mem_append_left _
  have redeemed_of_owes (y : Credential × Yield)
      (mine : y ∈ owes ⟨f, some (st.store.perform op).2⟩) :
      y.1 ∈ redemptions events ++ (redeems f).toList := by
    cases redeemed : redeems f with
    | none =>
        refine List.mem_append_left _ (inv.owing p _ y task ?_)
        rw [owes_executed p awaits redeemed (st.store.perform op).2]
        exact List.mem_append_right _ mine
    | some k => simp [(owes_redeemed p redeemed _).2.2 y mine]
  refine ⟨fresh, ?_, ?_, ?_, ?_⟩
  · intro k redeemed
    rw [redemptions_append, redeems_executed] at redeemed
    rw [created_append]
    rcases List.mem_append.mp redeemed with before | now
    · obtain ⟨gone, known⟩ := inv.gone k before
      refine ⟨fun stored => ?_, List.mem_append_left _ known⟩
      rcases stores_performed (p := p) awaits stored with still | again
      · exact gone still
      · -- A key is drawn once: it is not stored again after its redemption.
        refine inv.fresh.exclusive.unspent p _ k task ?_ known
        rw [pending_executed p awaits (st.store.perform op).2, again]
        simp
    · have here : redeems f = some k := by simpa using now
      exact ⟨redeemed_gone st.store awaits here,
        List.mem_append_left _ (inv.fresh.created_of_stores (alone k here))⟩
  · rw [yields_append]
    exact owed_executed inv task awaits alone
  · intro y paid
    rw [yields_append] at paid
    rw [redemptions_append, redeems_executed]
    rcases List.mem_append.mp paid with before | now
    · exact grown _ (inv.paid y before)
    · cases redeemed : redeems f with
      | none =>
          refine List.mem_append_left _ (inv.owing p _ y task ?_)
          rw [owes_executed p awaits redeemed (st.store.perform op).2]
          exact List.mem_append_left _ now
      | some k => simp [(owes_redeemed p redeemed (st.store.perform op).2).1] at now
  · intro q t y task' mine
    rw [redemptions_append, redeems_executed]
    rcases getElem?_set_cases task' with ⟨rfl, rfl⟩ | ⟨-, old⟩
    · exact redeemed_of_owes y mine
    · exact grown _ (inv.owing q t y old mine)

end Step

theorem redeeming_step {cfg : Config} {st st' : State} {act : Action} {events : List Event}
    (injective : Function.Injective cfg.tokenUrlsafe) (inv : Redeeming cfg st events)
    (alone : DeletesStored st act st') (taken : step cfg st act = some st') :
    Redeeming cfg st' (events ++ (observe st act).toList) := by
  have fresh := fresh_step injective inv.fresh taken
  cases step_cases taken with
  | request r =>
      rw [observe_waiting rfl (by simp), Option.toList_none, List.append_nil] at fresh ⊢
      refine ⟨fresh, inv.gone, inv.owed.spawn (owes_request st.world r), inv.paid, ?_⟩
      intro q t y task mine
      rcases getElem?_spawn_cases task with ⟨-, rfl⟩ | old
      · simp [provider, owes_request] at mine
      · exact inv.owing q t y old mine
  | tick time =>
      rw [observe_waiting rfl (by simp), Option.toList_none, List.append_nil] at fresh ⊢
      exact ⟨fresh, inv.gone, inv.owed, inv.paid, inv.owing⟩
  | raise p f op a task awaits effect =>
      obtain rfl : Answer.raised = a := Option.some.inj effect
      rw [observe_waiting rfl (by simp), Option.toList_none, List.append_nil] at fresh ⊢
      refine ⟨fresh, inv.gone, inv.owed.keep task (owes_raised awaits), inv.paid, ?_⟩
      intro q t y task' mine
      rcases getElem?_set_cases task' with ⟨rfl, rfl⟩ | ⟨-, old⟩
      · exact inv.owing q _ y task ((owes_raised awaits).subset mine)
      · exact inv.owing q t y old mine
  | execute p f op db a task awaits effect =>
      obtain ⟨rfl, rfl⟩ := Prod.mk.inj (Option.some.inj effect)
      rw [observe_execute task] at fresh ⊢
      exact redeeming_executed inv fresh task awaits (alone f (State.frame?_of_task task))
  | resume p f f' a w task effect =>
      rw [observe_resumed (State.resumed_resume task)]
      exact redeeming_resumed injective inv task (Or.inl rfl) effect
  | answer p f f' a w task awaits effect =>
      rw [observe_resumed (State.resumed_answer a task)]
      exact redeeming_resumed injective inv task (Or.inr awaits) effect

/--
The methods ignore how many rows their delete has removed: while every redemption still
finds the row it deletes, each credential is redeemed once.
-/
theorem singleUse_of_deletesStored {cfg : Config}
    (injective : Function.Injective cfg.tokenUrlsafe) {now : Int} {acts : List Action} {st : State}
    (found : Along cfg DeletesStored (init now) acts)
    (reached : run cfg (init now) acts = some st) : SingleUse (eventsOf cfg (init now) acts) := by
  have inv := Runs.invariant_trace (Redeeming cfg)
    (fun s seen a t inv found taken => redeeming_step injective inv found taken)
    (redeeming_init cfg now) found reached
  exact inv.owed.spentOnce

/-! ## A login and its code -/

namespace Sample

def client : Client := ⟨"client"⟩

def user : User := ⟨"id token", some "access token", [("sub", .string "user")]⟩

def config : Config where
  -- The secrets differ in length.
  tokenUrlsafe n := String.ofList (List.replicate (n + 1) 'a')
  acceptsCode client _ code now := client.clientId == code.clientId && decide (now ≤ code.expiresAt)
  acceptsRefresh client _ token _ :=
    if client.clientId = token.clientId then some token.scopes else none
  authorizationEndpoint := "https://idp/authorize"
  mcpUpstreamClientId := "portal"
  mcpUpstreamScopes := ["openid"]
  mcpCallbackUrl := "https://portal/mcp/callback"

theorem config_injective : Function.Injective config.tokenUrlsafe := by
  intro m n same
  simpa [config] using congrArg String.length same

def params : AuthorizationParams where
  state := some "state"
  scopes := some ["portal"]
  codeChallenge := "challenge"
  redirectUri := "https://client/"
  redirectUriProvidedExplicitly := true
  resource := none

def login : List Action :=
  -- Tasks 0 and 1 log the user in and store a code.
  [.request (.authorize client params), .answer 0 .done, .execute 0, .resume 0,
    .request (.oauthCallback none none (some "upstream") (some (config.tokenUrlsafe 0))),
    .execute 1, .resume 1, .execute 1, .resume 1, .answer 1 (.upstream user), .execute 1,
    .resume 1]

def exchange : Request := .exchangeCode client ⟨config.tokenUrlsafe 1, none, "verifier"⟩

end Sample

theorem singleUse_exchange :
    SingleUse (eventsOf Sample.config (init 0)
      (Sample.login ++ [.request Sample.exchange, .execute 2, .resume 2, .execute 2, .resume 2,
        .execute 2, .resume 2, .execute 2, .resume 2])) :=
  singleUse_of_deletesStored Sample.config_injective (by decide) rfl

def exchangedTwice : List Action :=
  -- Two requests load the same code before either deletes it.
  Sample.login ++ [.request Sample.exchange, .request Sample.exchange, .execute 2, .resume 2,
    .execute 3, .resume 3, .execute 2, .execute 3, .resume 2, .resume 3, .execute 2, .execute 3]

theorem singleUse_fails :
    (run Sample.config (init 0) exchangedTwice).isSome = true ∧
      ¬ SingleUse (eventsOf Sample.config (init 0) exchangedTwice) :=
  ⟨by decide, by unfold SingleUse; decide⟩

end StreamingPortal.Mcp
