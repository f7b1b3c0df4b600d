import StreamingPortal.Mcp.Pairs

set_option autoImplicit false

/-! # What is left of a grant after `revoke_token` -/

namespace StreamingPortal.Mcp

open Tasks

/-! ## Tokens that are accepted -/

def acceptedBy (now : Int) : Frame → Answer → Option String
  -- The token that `load_access_token` or `load_refresh_token` returns.
  | .loadingAccess _, .token (some row) => if row.expiresAt < now then none else some row.token
  | .loadingRefresh _ _, .token (some row) => some row.token
  | _, _ => none

def accepted (st : State) (act : Action) : Option String :=
  (st.resumed act).bind fun resumed => acceptedBy st.world.now resumed.2.1 resumed.2.2

def acceptedOf (cfg : Config) (st : State) (acts : List Action) : List String :=
  Runs.trace (step cfg) accepted st acts

/-- One of the two tokens, or issued for one of them by any number of refreshes. -/
inductive Descends (events : List Event) (token other : String) : String → Prop
  | token : Descends events token other token
  | other : Descends events token other other
  | access (source : String) (row : McpTokenModel) (chain : Descends events token other source)
      (issued : .accessIssued (.refresh source) row ∈ events) :
      Descends events token other row.token
  | refresh (source : String) (row : McpTokenModel) (chain : Descends events token other source)
      (issued : .refreshIssued (.refresh source) row ∈ events) :
      Descends events token other row.token

def NotBehind (low : Int) : Action → Prop
  -- The clock of no replica is behind `low`.
  | .tick time => low ≤ time
  | _ => True

/-- No run accepts a token of the pair again, or a token that descends from the pair. -/
def GrantEnded (cfg : Config) (low : Int) (st : State) (token other : String) : Prop :=
  ∀ acts st', run cfg st acts = some st' → (∀ act ∈ acts, NotBehind low act) →
    ∀ k ∈ acceptedOf cfg st acts, ¬ Descends (eventsOf cfg st acts) token other k

def exchanging : Frame → Bool
  | .loadingCode _ _ | .deletingCode _ _ | .loadingRefresh _ _ | .deletingRefresh _ _ _
  | .creatingAccess _ _ | .creatingRefresh _ _ => true
  | _ => false

def NoExchange (st : State) : Prop := ∀ t ∈ st.tasks, exchanging t.frame = false

instance (st : State) : Decidable (NoExchange st) := inferInstanceAs (Decidable (∀ _ ∈ _, _ = _))

def Usable (low : Int) (st : State) (token : String) : Prop :=
  -- The token is stored, as a refresh token or as an access token that has not expired.
  st.store.stores (.refresh token) ∨
    ∃ row ∈ st.store.accessTokens.rows, row.token = token ∧ low ≤ row.expiresAt

instance (low : Int) (st : State) (token : String) : Decidable (Usable low st token) :=
  inferInstanceAs (Decidable (_ ∨ ∃ _ ∈ _, _ ∧ _))

def Loaded (low : Int) (st : State) (token : String) : Prop :=
  -- A call of `load_access_token` has read the token and has not returned.
  ∃ (p : Nat) (key : String) (row : McpTokenModel),
    st.tasks[p]? = some ⟨.loadingAccess key, some (.token (some row))⟩ ∧ row.token = token ∧
      low ≤ row.expiresAt

/-! ## Tokens that cannot be stored again -/

/-- The key has been drawn and nobody is going to store it as a token. -/
structure Settled (cfg : Config) (st : State) (token : String) : Prop where
  drawn : Drawn cfg st.world.drawn (.access token)
  access : ∀ (p : Nat) (t : Task), st.tasks[p]? = some t → .access token ∉ pending t
  refresh : ∀ (p : Nat) (t : Task), st.tasks[p]? = some t → .refresh token ∉ pending t

theorem Settled.of_stored {cfg : Config} {st : State} {pairs : List (String × String)}
    (known : PairsKnown cfg st pairs) {token : String} (stored : st.store.storesToken token) :
    Settled cfg st token := by
  obtain ⟨other, paired⟩ := known.stored token stored
  obtain ⟨events, fresh⟩ := known.fresh
  have unclaimed {k : Credential} (key : k.key = token) (p : Nat) (t : Task)
      (task : st.tasks[p]? = some t) : k ∉ pending t := by
    rcases stored with stores | stores
    · exact fresh.not_pending known.keyed stores key task
    · exact fresh.not_pending known.keyed stores key task
  exact ⟨(known.drawn_of_paired paired).1, unclaimed rfl, unclaimed rfl⟩

theorem not_pending_of_not_exchanging {t : Task} (quiet : exchanging t.frame = false)
    (token : String) : .access token ∉ pending t ∧ .refresh token ∉ pending t := by
  obtain ⟨f, a⟩ := t
  cases f <;> first | contradiction | (cases a <;> simp [pending])

theorem settled_of_noExchange {cfg : Config} {st : State} {token : String} (quiet : NoExchange st)
    (drawn : Drawn cfg st.world.drawn (.access token)) : Settled cfg st token where
  drawn := drawn
  access := fun _ t task =>
    (not_pending_of_not_exchanging (quiet t (List.mem_of_getElem? task)) token).1
  refresh := fun _ t task =>
    (not_pending_of_not_exchanging (quiet t (List.mem_of_getElem? task)) token).2

theorem not_pending_step {cfg : Config} {st st' : State} {act : Action} {k : Credential}
    (injective : Function.Injective cfg.tokenUrlsafe) (drawn : Drawn cfg st.world.drawn k)
    (unclaimed : ∀ (p : Nat) (t : Task), st.tasks[p]? = some t → k ∉ pending t)
    (taken : step cfg st act = some st') :
    Drawn cfg st'.world.drawn k ∧
      ∀ (p : Nat) (t : Task), st'.tasks[p]? = some t → k ∉ pending t := by
  have resumed {p : Nat} {f f' : Frame} {a : Answer} {stored : Option Answer} {w : World}
      (task : st.tasks[p]? = some ⟨f, stored⟩) (given : stored = some a ∨ frameOp f = none)
      (effect : resumeFrame cfg st.world f a = some (w, f')) :
      Drawn cfg w.drawn k ∧
        ∀ (q : Nat) (t : Task), (st.tasks.set p ⟨f', none⟩)[q]? = some t → k ∉ pending t := by
    obtain ⟨more, draws⟩ := pending_resumed injective given effect
    refine ⟨drawn.mono more, forall_set (fun mine => ?_) fun q t _ => unclaimed q t⟩
    rcases draws with kept | ⟨-, new⟩
    · exact unclaimed p _ task (kept.subset mine)
    · obtain ⟨i, after, -, key⟩ := new k mine
      exact not_drawn injective after key drawn
  cases step_cases taken with
  | request r =>
      refine ⟨drawn, forall_spawn ?_ unclaimed⟩
      simp [provider, pending_request]
  | tick time => exact ⟨drawn, unclaimed⟩
  | raise p f op a task awaits effect | execute p f op db a task awaits effect =>
      refine ⟨drawn, forall_set (fun mine => unclaimed p _ task ?_) fun q t _ => unclaimed q t⟩
      rw [pending_executed p awaits a]
      exact List.mem_append_right _ mine
  | resume p f f' a w task effect => exact resumed task (Or.inl rfl) effect
  | answer p f f' a w task awaits effect => exact resumed task (Or.inr awaits) effect

theorem settled_step {cfg : Config} {st st' : State} {act : Action} {token : String}
    (injective : Function.Injective cfg.tokenUrlsafe) (settled : Settled cfg st token)
    (taken : step cfg st act = some st') : Settled cfg st' token := by
  obtain ⟨drawn, access⟩ := not_pending_step injective settled.drawn settled.access taken
  have keyed : Drawn cfg st.world.drawn (.refresh token) := settled.drawn
  exact ⟨drawn, access, (not_pending_step injective keyed settled.refresh taken).2⟩

theorem pending_of_inserts {f : Frame} {op : DbOp} {r : Row} (awaits : frameOp f = some op)
    (inserts : op.inserts = some r) : r.credential ∈ pending ⟨f, none⟩ := by
  -- Which task executes the operation does not matter.
  rw [← inserts_executed 0 awaits] at inserts
  obtain ⟨e, happens, stores⟩ := Option.bind_eq_some_iff.mp inserts
  rw [pending_executed 0 awaits .created]
  simp [happens, Event.creates, stores]

theorem holds_step {cfg : Config} {st st' : State} {act : Action} {r : Row}
    (unclaimed : ∀ (p : Nat) (t : Task), st.tasks[p]? = some t → r.credential ∉ pending t)
    (taken : step cfg st act = some st') (holds : st'.store.holds r) : st.store.holds r := by
  cases step_cases taken with
  | execute p f op db a task awaits effect =>
      obtain ⟨rfl, rfl⟩ := Prod.mk.inj (Option.some.inj effect)
      rcases holds_performed holds with before | now
      · exact before
      · exact absurd (pending_of_inserts awaits now) (unclaimed p _ task)
  | request | tick | raise | resume | answer => exact holds

theorem not_stores_step {cfg : Config} {st st' : State} {act : Action} {k : Credential}
    (unclaimed : ∀ (p : Nat) (t : Task), st.tasks[p]? = some t → k ∉ pending t)
    (taken : step cfg st act = some st') (absent : ¬ st.store.stores k) :
    ¬ st'.store.stores k := by
  intro stores
  obtain ⟨r, holds, rfl⟩ := stores_iff.mp stores
  exact absent (stores_iff.mpr ⟨r, holds_step unclaimed taken holds, rfl⟩)

/-! ## The revocation itself -/

/-- How far a `revoke_token` has come, and which rows are gone by then. -/
inductive Revoking (token : String) (db : Db) : Task → Prop
  | revokingAccess : Revoking token db ⟨.revokingAccess token, none⟩
  | accessFailed : Revoking token db ⟨.revokingAccess token, some .raised⟩
  | deletedAccess (n : Nat) (access : ¬ db.stores (.access token)) :
      Revoking token db ⟨.revokingAccess token, some (.deleted n)⟩
  | revokingRefresh (access : ¬ db.stores (.access token)) :
      Revoking token db ⟨.revokingRefresh token, none⟩
  | refreshFailed : Revoking token db ⟨.revokingRefresh token, some .raised⟩
  | deletedRefresh (n : Nat) (access : ¬ db.stores (.access token))
      (refresh : ¬ db.stores (.refresh token)) :
      Revoking token db ⟨.revokingRefresh token, some (.deleted n)⟩
  | revoked (access : ¬ db.stores (.access token)) (refresh : ¬ db.stores (.refresh token)) :
      Revoking token db ⟨.finished .revoked, none⟩
  | failed : Revoking token db ⟨.finished .raised, none⟩

theorem Revoking.keep {token : String} {db db' : Db} {t : Task} (revoking : Revoking token db t)
    (access : ¬ db.stores (.access token) → ¬ db'.stores (.access token))
    (refresh : ¬ db.stores (.refresh token) → ¬ db'.stores (.refresh token)) :
    Revoking token db' t := by
  cases revoking with
  | revokingAccess => exact .revokingAccess
  | accessFailed => exact .accessFailed
  | deletedAccess n gone => exact .deletedAccess n (access gone)
  | revokingRefresh gone => exact .revokingRefresh (access gone)
  | refreshFailed => exact .refreshFailed
  | deletedRefresh n gone gone' => exact .deletedRefresh n (access gone) (refresh gone')
  | revoked gone gone' => exact .revoked (access gone) (refresh gone')
  | failed => exact .failed

theorem revoking_executed {token : String} {db : Db} {f : Frame} {op : DbOp}
    (revoking : Revoking token db ⟨f, none⟩) (awaits : frameOp f = some op) :
    Revoking token (db.perform op).1 ⟨f, some (db.perform op).2⟩ := by
  cases revoking with
  | revokingAccess =>
      obtain rfl := Option.some.inj awaits
      exact .deletedAccess _ (deleted_gone db.accessTokens token)
  | revokingRefresh access =>
      obtain rfl := Option.some.inj awaits
      exact .deletedRefresh _ access (deleted_gone db.refreshTokens token)
  | revoked | failed => contradiction

theorem revoking_resumed {cfg : Config} {token : String} {db : Db} {w w' : World} {f f' : Frame}
    {a : Answer} (revoking : Revoking token db ⟨f, some a⟩)
    (effect : resumeFrame cfg w f a = some (w', f')) : Revoking token db ⟨f', none⟩ := by
  cases revoking with
  | accessFailed | refreshFailed =>
      obtain ⟨rfl, rfl⟩ := Prod.mk.inj (Option.some.inj effect)
      exact .failed
  | deletedAccess n access =>
      obtain ⟨rfl, rfl⟩ := Prod.mk.inj (Option.some.inj effect)
      exact .revokingRefresh access
  | deletedRefresh n access refresh =>
      obtain ⟨rfl, rfl⟩ := Prod.mk.inj (Option.some.inj effect)
      exact .revoked access refresh

structure RevokingAt (cfg : Config) (r : Nat) (token : String) (st : State) : Prop where
  settled : Settled cfg st token
  revoking : ∃ t, st.tasks[r]? = some t ∧ Revoking token st.store t

theorem revokingAt_step {cfg : Config} {st st' : State} {act : Action} {r : Nat} {token : String}
    (injective : Function.Injective cfg.tokenUrlsafe) (inv : RevokingAt cfg r token st)
    (taken : step cfg st act = some st') : RevokingAt cfg r token st' := by
  have access := not_stores_step inv.settled.access taken
  have refresh := not_stores_step inv.settled.refresh taken
  refine ⟨settled_step injective inv.settled taken, ?_⟩
  obtain ⟨t, mine, revoking⟩ := inv.revoking
  -- Another task moves: the rows that are gone stay gone.
  have other {p : Nat} {t' : Task} (moved : p ≠ r) :
      ∃ u, (st.tasks.set p t')[r]? = some u ∧ Revoking token st'.store u := by
    refine ⟨t, ?_, revoking.keep access refresh⟩
    rw [List.getElem?_set_ne moved]
    exact mine
  cases step_cases taken with
  | request q =>
      refine ⟨t, ?_, revoking⟩
      rw [List.getElem?_append_left (List.getElem?_eq_some_iff.mp mine).1]
      exact mine
  | tick time => exact ⟨t, mine, revoking⟩
  | raise p f op a task awaits effect =>
      obtain rfl : Answer.raised = a := Option.some.inj effect
      by_cases moved : p = r
      · subst moved
        obtain rfl := Option.some.inj (task.symm.trans mine)
        refine ⟨_, getElem?_set_acting task, ?_⟩
        cases revoking with
        | revokingAccess => exact .accessFailed
        | revokingRefresh => exact .refreshFailed
        | revoked | failed => contradiction
      · exact other moved
  | execute p f op db a task awaits effect =>
      obtain ⟨rfl, rfl⟩ := Prod.mk.inj (Option.some.inj effect)
      by_cases moved : p = r
      · subst moved
        obtain rfl := Option.some.inj (task.symm.trans mine)
        exact ⟨_, getElem?_set_acting task, revoking_executed revoking awaits⟩
      · exact other moved
  | resume p f f' a w task effect =>
      by_cases moved : p = r
      · subst moved
        obtain rfl := Option.some.inj (task.symm.trans mine)
        exact ⟨_, getElem?_set_acting task, revoking_resumed revoking effect⟩
      · exact other moved
  | answer p f f' a w task awaits effect =>
      by_cases moved : p = r
      · subst moved
        obtain rfl := Option.some.inj (task.symm.trans mine)
        -- Every frame of the revocation that waits, waits for the database.
        cases revoking with
        | revokingAccess | revokingRefresh => contradiction
        | revoked | failed => cases a <;> contradiction
      · exact other moved

theorem revoked_gone {cfg : Config} {st t : State} {pairs : List (String × String)}
    {token : String} {during : List Action} (injective : Function.Injective cfg.tokenUrlsafe)
    (known : PairsKnown cfg st pairs) (stored : st.store.storesToken token)
    (revoked : run cfg st (.request (.revokeToken token) :: during) = some t)
    (completed : t.frame? st.tasks.length = some (.finished .revoked)) :
    ¬ t.store.stores (.access token) ∧ ¬ t.store.stores (.refresh token) := by
  have settled := Settled.of_stored known stored
  obtain ⟨st', first, rest⟩ := Runs.run_cons.mp revoked
  have start : RevokingAt cfg st.tasks.length token st' := by
    refine ⟨settled_step injective settled first, ?_⟩
    obtain rfl := Option.some.inj first
    exact ⟨_, by simp [provider, startRequest], .revokingAccess⟩
  have inv := Runs.invariant (RevokingAt cfg st.tasks.length token)
    (fun _ _ _ inv _ taken => revokingAt_step injective inv taken) start
    (Runs.along_trivial during) rest
  obtain ⟨task, mine, revoking⟩ := inv.revoking
  rw [State.frame?_of_task mine] at completed
  cases revoking with
  | revoked access refresh => exact ⟨access, refresh⟩
  | _ => cases completed

/-! ## Tokens that are never accepted again -/

def Exchange.refreshToken : Exchange → Option String
  | .code _ => none
  | .refresh token => some token.token

def refreshing (t : Task) : Option String :=
  -- The refresh token that a task has found and is exchanging.
  match t.frame, t.answer with
  | .loadingRefresh _ _, some (.token (some row)) => some row.token
  | .deletingRefresh _ token _, _ => some token.token
  | .creatingAccess exchange _, _ | .creatingRefresh exchange _, _ => exchange.refreshToken
  | _, _ => none

theorem refreshing_eq_none {t : Task} (quiet : exchanging t.frame = false) :
    refreshing t = none := by
  obtain ⟨f, a⟩ := t
  cases f <;> first | contradiction | rfl

theorem refreshing_request (w : World) (r : Request) :
    refreshing ⟨startRequest w r, none⟩ = none := by
  have starts := startRequest_starts w r
  generalize startRequest w r = f at starts ⊢
  cases starts <;> rfl

theorem refreshing_raised (f : Frame) :
    refreshing ⟨f, some .raised⟩ = refreshing ⟨f, none⟩ := by
  cases f <;> rfl

theorem refreshing_executed {db : Db} {f : Frame} {op : DbOp} {token : String}
    (awaits : frameOp f = some op) (found : refreshing ⟨f, some (db.perform op).2⟩ = some token) :
    db.stores (.refresh token) ∨ refreshing ⟨f, none⟩ = some token := by
  cases f with
  | loadingRefresh client grant =>
      left
      obtain rfl := Option.some.inj awaits
      change refreshing ⟨_, some (.token (db.refreshTokens.get? grant.refreshToken))⟩ = _ at found
      cases stored : db.refreshTokens.get? grant.refreshToken with
      | none =>
          rw [stored] at found
          contradiction
      | some row =>
          rw [stored] at found
          obtain rfl := Option.some.inj found
          exact get?_isSome_iff.mpr ⟨row, (Table.mem_of_get? stored).1, rfl⟩
  | _ => exact Or.inr found

theorem refreshing_resumed {cfg : Config} {w w' : World} {f f' : Frame} {a : Answer}
    {stored : Option Answer} {token : String} (given : stored = some a ∨ frameOp f = none)
    (h : resumeFrame cfg w f a = some (w', f')) (found : refreshing ⟨f', none⟩ = some token) :
    refreshing ⟨f, stored⟩ = some token := by
  cases resumeFrame_cases h with
  | loadedRefresh client grant row scopes accepted =>
      obtain rfl := given.resolve_right (by simp [frameOp])
      exact found
  | deletedRefresh | createdAccess => exact found
  | _ => contradiction

theorem now_resumed {cfg : Config} {w w' : World} {f f' : Frame} {a : Answer}
    (h : resumeFrame cfg w f a = some (w', f')) : w'.now = w.now := by
  cases resumeFrame_cases h <;> rfl

/-- Nothing is left of the token that could be accepted or refreshed. -/
structure Ended (cfg : Config) (low : Int) (st : State) (token : String) : Prop where
  settled : Settled cfg st token
  unusable : ¬ Usable low st token
  unloaded : ¬ Loaded low st token
  unrefreshed : ∀ (p : Nat) (t : Task), st.tasks[p]? = some t → refreshing t ≠ some token
  clock : low ≤ st.world.now

section Step

variable {cfg : Config} {low : Int} {st st' : State} {act : Action} {token : String}

theorem Ended.unusable_step (ended : Ended cfg low st token)
    (taken : step cfg st act = some st') : ¬ Usable low st' token := by
  rintro (stores | ⟨row, stored, same, live⟩)
  · exact not_stores_step ended.settled.refresh taken (ended.unusable ∘ Or.inl) stores
  · have unclaimed : ∀ (p : Nat) (t : Task), st.tasks[p]? = some t →
        (Row.access row).credential ∉ pending t := by
      rw [Row.credential, same]
      exact ended.settled.access
    have before : row ∈ st.store.accessTokens.rows :=
      holds_step (r := .access row) unclaimed taken stored
    exact ended.unusable (Or.inr ⟨row, before, same, live⟩)

theorem Ended.tasks_resumed {p : Nat} {f f' : Frame} {a : Answer} {stored : Option Answer}
    {w : World} (ended : Ended cfg low st token) (task : st.tasks[p]? = some ⟨f, stored⟩)
    (given : stored = some a ∨ frameOp f = none)
    (effect : resumeFrame cfg st.world f a = some (w, f')) :
    ¬ Loaded low { st.setTask p ⟨f', none⟩ with world := w } token ∧
      ∀ (q : Nat) (t : Task), (st.tasks.set p ⟨f', none⟩)[q]? = some t →
        refreshing t ≠ some token := by
  constructor
  · rintro ⟨q, key, row, task', found⟩
    rcases getElem?_set_cases task' with ⟨-, ⟨⟩⟩ | ⟨-, old⟩
    exact ended.unloaded ⟨q, key, row, old, found⟩
  · refine forall_set (fun found => ?_) fun q t _ => ended.unrefreshed q t
    exact ended.unrefreshed p _ task (refreshing_resumed given effect found)

theorem Ended.unloaded_executed {p : Nat} {f : Frame} {op : DbOp}
    (ended : Ended cfg low st token) (awaits : frameOp f = some op) :
    ¬ Loaded low { st.setTask p ⟨f, some (st.store.perform op).2⟩ with
      store := (st.store.perform op).1 } token := by
  rintro ⟨q, key, row, task, same, live⟩
  rcases getElem?_set_cases task with ⟨-, now⟩ | ⟨-, old⟩
  · -- What a call reads is in the table.
    obtain ⟨rfl, answer⟩ := Task.mk.inj now
    obtain rfl := Option.some.inj awaits
    have found := Answer.token.inj (Option.some.inj answer)
    exact ended.unusable (Or.inr ⟨row, (Table.mem_of_get? found.symm).1, same, live⟩)
  · exact ended.unloaded ⟨q, key, row, old, same, live⟩

theorem ended_step (injective : Function.Injective cfg.tokenUrlsafe)
    (ended : Ended cfg low st token) (ahead : NotBehind low act)
    (taken : step cfg st act = some st') : Ended cfg low st' token := by
  have settled := settled_step injective ended.settled taken
  have unusable := ended.unusable_step taken
  cases step_cases taken with
  | request r =>
      refine ⟨settled, unusable, ?_, ?_, ended.clock⟩
      · rintro ⟨p, key, row, task, found⟩
        rcases getElem?_spawn_cases task with ⟨-, now⟩ | old
        · cases congrArg Task.answer now
        · exact ended.unloaded ⟨p, key, row, old, found⟩
      · refine forall_spawn ?_ ended.unrefreshed
        simp [provider, refreshing_request]
  | tick time => exact ⟨settled, unusable, ended.unloaded, ended.unrefreshed, ahead⟩
  | raise p f op a task awaits effect =>
      obtain rfl : Answer.raised = a := Option.some.inj effect
      refine ⟨settled, unusable, ?_, ?_, ended.clock⟩
      · rintro ⟨q, key, row, task', found⟩
        rcases getElem?_set_cases task' with ⟨-, ⟨⟩⟩ | ⟨-, old⟩
        exact ended.unloaded ⟨q, key, row, old, found⟩
      · refine forall_set (fun found => ?_) fun q t _ => ended.unrefreshed q t
        exact ended.unrefreshed p _ task ((refreshing_raised f).symm.trans found)
  | execute p f op db a task awaits effect =>
      obtain ⟨rfl, rfl⟩ := Prod.mk.inj (Option.some.inj effect)
      refine ⟨settled, unusable, ended.unloaded_executed awaits, ?_, ended.clock⟩
      refine forall_set (fun found => ?_) fun q t _ => ended.unrefreshed q t
      rcases refreshing_executed awaits found with stores | before
      · exact ended.unusable (Or.inl stores)
      · exact ended.unrefreshed p _ task before
  | resume p f f' a w task effect =>
      obtain ⟨unloaded, unrefreshed⟩ := ended.tasks_resumed task (Or.inl rfl) effect
      exact ⟨settled, unusable, unloaded, unrefreshed, (now_resumed effect).symm ▸ ended.clock⟩
  | answer p f f' a w task awaits effect =>
      obtain ⟨unloaded, unrefreshed⟩ := ended.tasks_resumed task (Or.inr awaits) effect
      exact ⟨settled, unusable, unloaded, unrefreshed, (now_resumed effect).symm ▸ ended.clock⟩

theorem acceptedBy_cases {now : Int} {f : Frame} {a : Answer}
    (accepts : acceptedBy now f a = some token) :
    (∃ key row, f = .loadingAccess key ∧ a = .token (some row) ∧ row.token = token ∧
      ¬ row.expiresAt < now) ∨ refreshing ⟨f, some a⟩ = some token := by
  unfold acceptedBy at accepts
  split at accepts
  next key row =>
    split at accepts
    · contradiction
    next live => exact Or.inl ⟨key, row, rfl, rfl, Option.some.inj accepts, live⟩
  next client grant row => exact Or.inr accepts
  next => contradiction

theorem Ended.not_accepted (ended : Ended cfg low st token)
    (taken : step cfg st act = some st') : accepted st act ≠ some token := by
  cases step_cases taken with
  | request | tick | raise | execute => simp [accepted, State.resumed]
  | resume p f f' a w task effect =>
      rw [accepted, State.resumed_resume task, Option.bind_some]
      intro accepts
      rcases acceptedBy_cases accepts with ⟨key, row, rfl, rfl, same, live⟩ | found
      · have clock := ended.clock
        exact ended.unloaded ⟨p, key, row, task, same, by omega⟩
      · exact ended.unrefreshed p _ task found
  | answer p f f' a w task awaits effect =>
      rw [accepted, State.resumed_answer a task, Option.bind_some]
      intro accepts
      -- The frames that accept a token wait for the database.
      cases f <;> contradiction

def Event.refreshes : Event → Option String
  -- The refresh token that a token is issued for.
  | .accessIssued (.refresh token) _ | .refreshIssued (.refresh token) _ => some token
  | _ => none

theorem refreshes_executed {p : Nat} {f : Frame} {e : Event} (happens : executed p f = some e)
    (refreshes : e.refreshes = some token) (a : Option Answer) :
    refreshing ⟨f, a⟩ = some token := by
  cases f with
  | creatingAccess exchange issue | creatingRefresh exchange issue =>
      obtain rfl := Option.some.inj happens
      cases exchange with
      | code code => contradiction
      | refresh loaded => exact refreshes
  | _ =>
      first
      | contradiction
      | obtain rfl := Option.some.inj happens
        contradiction

theorem Ended.not_refreshed (ended : Ended cfg low st token)
    (taken : step cfg st act = some st') {e : Event} (happens : observe st act = some e) :
    e.refreshes ≠ some token := by
  have told {p : Nat} {a : Answer} (happens : answered p a = some e) :
      e.refreshes ≠ some token := by
    cases a with
    | upstream user =>
        obtain rfl := Option.some.inj happens
        simp [Event.refreshes]
    | _ => contradiction
  cases step_cases taken with
  | request | tick | raise => simp [observe, State.resumed] at happens
  | execute p f op db a task awaits effect =>
      rw [observe_execute task] at happens
      exact fun refreshes => ended.unrefreshed p _ task (refreshes_executed happens refreshes none)
  | resume p f f' a w task effect =>
      rw [observe_resumed (State.resumed_resume task)] at happens
      exact told happens
  | answer p f f' a w task awaits effect =>
      rw [observe_resumed (State.resumed_answer a task)] at happens
      exact told happens

end Step

section Run

variable {cfg : Config} {low : Int} {st st' : State} {acts : List Action} {token other : String}

theorem Ended.never_accepted (injective : Function.Injective cfg.tokenUrlsafe)
    (ended : Ended cfg low st token) (ahead : ∀ act ∈ acts, NotBehind low act)
    (reached : run cfg st acts = some st') : token ∉ acceptedOf cfg st acts := by
  have preserved (s : State) (seen : List String) (act : Action) (t : State)
      (inv : Ended cfg low s token ∧ token ∉ seen) (ahead : NotBehind low act)
      (taken : step cfg s act = some t) :
      Ended cfg low t token ∧ token ∉ seen ++ (accepted s act).toList := by
    refine ⟨ended_step injective inv.1 ahead taken, ?_⟩
    simp [inv.2, inv.1.not_accepted taken]
  have inv := Runs.invariant_trace _ preserved ⟨ended, List.not_mem_nil⟩
    (Runs.along_of_forall_mem ahead) reached
  exact inv.2

theorem Ended.never_refreshed (injective : Function.Injective cfg.tokenUrlsafe)
    (ended : Ended cfg low st token) (ahead : ∀ act ∈ acts, NotBehind low act)
    (reached : run cfg st acts = some st') :
    ∀ e ∈ eventsOf cfg st acts, e.refreshes ≠ some token := by
  have preserved (s : State) (seen : List Event) (act : Action) (t : State)
      (inv : Ended cfg low s token ∧ ∀ e ∈ seen, e.refreshes ≠ some token)
      (ahead : NotBehind low act) (taken : step cfg s act = some t) :
      Ended cfg low t token ∧
        ∀ e ∈ seen ++ (observe s act).toList, e.refreshes ≠ some token := by
    refine ⟨ended_step injective inv.1 ahead taken, fun e inside => ?_⟩
    rcases List.mem_append.mp inside with before | now
    · exact inv.2 e before
    · exact inv.1.not_refreshed taken (Option.mem_toList.mp now)
  have start : Ended cfg low st token ∧ ∀ e ∈ ([] : List Event), e.refreshes ≠ some token :=
    ⟨ended, by simp⟩
  have inv := Runs.invariant_trace _ preserved start (Runs.along_of_forall_mem ahead) reached
  exact inv.2

theorem Descends.eq_or_eq {events : List Event} {k : String}
    (token_ : ∀ e ∈ events, e.refreshes ≠ some token)
    (other_ : ∀ e ∈ events, e.refreshes ≠ some other) (chain : Descends events token other k) :
    k = token ∨ k = other := by
  induction chain with
  | token => exact Or.inl rfl
  | other => exact Or.inr rfl
  | access source row _ issued ih | refresh source row _ issued ih =>
      rcases ih with rfl | rfl
      · exact absurd rfl (token_ _ issued)
      · exact absurd rfl (other_ _ issued)

theorem grantEnded_of_ended (injective : Function.Injective cfg.tokenUrlsafe)
    (ended : Ended cfg low st token) (ended' : Ended cfg low st other) :
    GrantEnded cfg low st token other := by
  intro acts st' reached ahead k accepted chain
  have same := chain.eq_or_eq (ended.never_refreshed injective ahead reached)
    (ended'.never_refreshed injective ahead reached)
  rcases same with rfl | rfl
  · exact ended.never_accepted injective ahead reached accepted
  · exact ended'.never_accepted injective ahead reached accepted

end Run

/-! ## Tokens that some run accepts -/

def Accepts (cfg : Config) (low : Int) (st : State) (token : String) : Prop :=
  ∃ acts st', run cfg st acts = some st' ∧ (∀ act ∈ acts, NotBehind low act) ∧
    token ∈ acceptedOf cfg st acts

section Accepts

variable {cfg : Config} {low : Int} {st t : State} {token other : String}

theorem Accepts.prepend {before : List Action} (reached : run cfg st before = some t)
    (ahead : ∀ act ∈ before, NotBehind low act) (accepts : Accepts cfg low t token) :
    Accepts cfg low st token := by
  obtain ⟨acts, u, rest, ahead', inside⟩ := accepts
  refine ⟨before ++ acts, u, (Runs.run_append reached acts).trans rest, ?_, ?_⟩
  · intro act member
    exact (List.mem_append.mp member).elim (ahead act) (ahead' act)
  · rw [acceptedOf, Runs.trace_append reached]
    exact List.mem_append_right _ inside

theorem accepts_of_resume {p : Nat} {f : Frame} {a : Answer}
    (task : st.tasks[p]? = some ⟨f, some a⟩) (resumes : (resumeFrame cfg st.world f a).isSome)
    (accepts : acceptedBy st.world.now f a = some token) : Accepts cfg low st token := by
  obtain ⟨⟨w, f'⟩, effect⟩ := Option.isSome_iff_exists.mp resumes
  have resumed : step cfg st (.resume p) = some { st.setTask p ⟨f', none⟩ with world := w } := by
    simp [Tasks.step, task, resumeWith, provider, effect]
  refine ⟨[.resume p], _, Runs.run_cons.mpr ⟨_, resumed, rfl⟩, by simp [NotBehind], ?_⟩
  simp [acceptedOf, Runs.trace, accepted, State.resumed_resume task, accepts]

theorem accepts_of_loaded (loaded : Loaded low st token) : Accepts cfg low st token := by
  -- The call returns at a time at which the token has not expired.
  obtain ⟨p, key, row, task, same, live⟩ := loaded
  let later : State := { st with world := { st.world with now := row.expiresAt } }
  have reached : run cfg st [.tick row.expiresAt] = some later := rfl
  refine Accepts.prepend reached (by simpa [NotBehind] using live) ?_
  have task' : later.tasks[p]? = some ⟨.loadingAccess key, some (.token (some row))⟩ := task
  exact accepts_of_resume task' (by simp [resumeFrame, later]) (by simp [acceptedBy, later, same])

theorem accepts_of_usable (usable : Usable low st token) : Accepts cfg low st token := by
  rcases usable with stores | ⟨row, stored, same, live⟩
  · -- A client sends the refresh token to the token endpoint.
    obtain ⟨row, found⟩ := Option.isSome_iff_exists.mp stores
    have same := (Table.mem_of_get? found).2
    let frame : Frame := .loadingRefresh ⟨""⟩ ⟨token, none⟩
    let loaded : State := { st with tasks := st.tasks ++ [⟨frame, some (.token (some row))⟩] }
    have reached : run cfg st [.request (.exchangeRefresh ⟨""⟩ ⟨token, none⟩),
        .execute st.tasks.length] = some loaded := by
      simp [Runs.run, Tasks.step, provider, startRequest, frameOp, Db.perform, found, loaded,
        frame, State.setTask]
    refine Accepts.prepend reached (by simp [NotBehind]) ?_
    have task : loaded.tasks[st.tasks.length]? = some ⟨frame, some (.token (some row))⟩ := by
      simp [loaded]
    refine accepts_of_resume task ?_ (by simp [acceptedBy, frame, same])
    simp only [resumeFrame, frame]
    split <;> rfl
  · have found : st.store.accessTokens.get? token = some row :=
      Table.get?_eq_some_iff.mpr ⟨stored, same⟩
    let loaded : State :=
      { st with tasks := st.tasks ++ [⟨.loadingAccess token, some (.token (some row))⟩] }
    have reached : run cfg st [.request (.loadAccessToken token), .execute st.tasks.length] =
        some loaded := by
      simp [Runs.run, Tasks.step, provider, startRequest, frameOp, Db.perform, found, loaded,
        State.setTask]
    refine Accepts.prepend reached (by simp [NotBehind]) (accepts_of_loaded ?_)
    exact ⟨st.tasks.length, token, row, by simp [loaded], same, live⟩

theorem GrantEnded.not_accepts (ended : GrantEnded cfg low st token other) :
    ¬ Accepts cfg low st token ∧ ¬ Accepts cfg low st other := by
  constructor
  · rintro ⟨acts, u, reached, ahead, accepted⟩
    exact ended acts u reached ahead token accepted .token
  · rintro ⟨acts, u, reached, ahead, accepted⟩
    exact ended acts u reached ahead other accepted .other

end Accepts

/-! ## When a revocation ends the grant -/

/--
`revoke_token` deletes the token that it is given and not its partner, so the grant ends with
it only where nothing is left of the partner by then.
-/
theorem grantEnded_iff {cfg : Config} (injective : Function.Injective cfg.tokenUrlsafe)
    {now low : Int} {before during : List Action} {st t : State} {token : String}
    (reached : run cfg (init now) before = some st) (stored : st.store.storesToken token)
    (revoked : run cfg st (.request (.revokeToken token) :: during) = some t)
    (completed : t.frame? st.tasks.length = some (.finished .revoked)) (quiet : NoExchange t)
    (clock : low ≤ t.world.now) :
    (∃ other, Paired (pairsOf cfg (init now) before) token other) ∧
      ∀ other, Paired (pairsOf cfg (init now) before) token other →
        (GrantEnded cfg low t token other ↔
          ¬ Usable low t other ∧ ¬ Loaded low t token ∧ ¬ Loaded low t other) := by
  have known := pairsKnown_reached injective reached
  refine ⟨known.stored token stored, fun other paired => ?_⟩
  have later := pairsKnown_reached injective ((Runs.run_append reached _).trans revoked)
  have paired' : Paired (pairsOf cfg (init now)
      (before ++ .request (.revokeToken token) :: during)) token other := by
    refine paired.mono ?_
    rw [pairsOf, pairsOf, Runs.trace_append reached]
    exact List.subset_append_left _ _
  obtain ⟨drawn, drawn'⟩ := later.drawn_of_paired paired'
  have unrefreshed (x : String) (p : Nat) (u : Task) (task : t.tasks[p]? = some u) :
      refreshing u ≠ some x := by
    rw [refreshing_eq_none (quiet u (List.mem_of_getElem? task))]
    exact Option.some_ne_none x ∘ Eq.symm
  constructor
  · intro ended
    obtain ⟨never, never'⟩ := ended.not_accepts
    exact ⟨fun usable => never' (accepts_of_usable usable),
      fun loaded => never (accepts_of_loaded loaded),
      fun loaded => never' (accepts_of_loaded loaded)⟩
  · rintro ⟨unusable, unloaded, unloaded'⟩
    obtain ⟨access, refresh⟩ := revoked_gone injective known stored revoked completed
    have gone : ¬ Usable low t token := by
      rintro (stores | ⟨row, stored, same, -⟩)
      · exact refresh stores
      · exact access (get?_isSome_iff.mpr ⟨row, stored, same⟩)
    exact grantEnded_of_ended injective
      ⟨settled_of_noExchange quiet drawn, gone, unloaded, unrefreshed token, clock⟩
      ⟨settled_of_noExchange quiet drawn', unusable, unloaded', unrefreshed other, clock⟩

theorem not_loaded_of_answered {low : Int} {st : State} (answered : ∀ t ∈ st.tasks, t.answer.isNone)
    (token : String) : ¬ Loaded low st token := by
  rintro ⟨p, key, row, task, -⟩
  have waiting := answered _ (List.mem_of_getElem? task)
  contradiction

namespace Sample

def access : String := config.tokenUrlsafe 2

def refresh : String := config.tokenUrlsafe 3

def issued : List Action :=
  -- Task 2 exchanges the code for the two tokens.
  login ++ [.request exchange, .execute 2, .resume 2, .execute 2, .resume 2, .execute 2, .resume 2,
    .execute 2, .resume 2]

def revoke (p : Nat) (token : String) : List Action :=
  [.request (.revokeToken token), .execute p, .resume p, .execute p, .resume p]

end Sample

def Sample.bothRevoked : State :=
  -- The state in which both tokens of the pair have been revoked.
  (run config (init 0) (issued ++ revoke 3 refresh ++ revoke 4 access)).get (by decide)

theorem grantEnded_iff_bothRevoked :
    GrantEnded Sample.config 0 Sample.bothRevoked Sample.access Sample.refresh := by
  have first : run Sample.config (init 0) (Sample.issued ++ Sample.revoke 3 Sample.refresh) =
      some ((run Sample.config (init 0)
        (Sample.issued ++ Sample.revoke 3 Sample.refresh)).get (by decide)) :=
    (Option.some_get _).symm
  have second := (Runs.run_append first (Sample.revoke 4 Sample.access)).symm.trans
    (Option.some_get (by decide)).symm
  have clock : (0 : Int) ≤ Sample.bothRevoked.world.now := by decide
  have ended := (grantEnded_iff Sample.config_injective first (Or.inl (by decide)) second rfl
    (by decide) clock).2 Sample.refresh (Or.inl (by decide))
  exact ended.mpr ⟨by decide, not_loaded_of_answered (by decide) _,
    not_loaded_of_answered (by decide) _⟩

theorem grantEnded_fails : ∃ st t,
    run Sample.config (init 0) Sample.issued = some st ∧ st.store.storesToken Sample.access ∧
      run Sample.config st (Sample.revoke 3 Sample.access) = some t ∧
      t.frame? st.tasks.length = some (.finished .revoked) ∧ NoExchange t ∧
      Paired (pairsOf Sample.config (init 0) Sample.issued) Sample.access Sample.refresh ∧
      ¬ GrantEnded Sample.config 0 t Sample.access Sample.refresh := by
  refine ⟨(run Sample.config (init 0) Sample.issued).get (by decide),
    (run Sample.config (init 0) (Sample.issued ++ Sample.revoke 3 Sample.access)).get (by decide),
    rfl, Or.inl (by decide), rfl, rfl, by decide, Or.inl (by decide), fun ended => ?_⟩
  -- The client redeems the refresh token after its access token has been revoked.
  have accepted := ended [.request (.exchangeRefresh Sample.client ⟨Sample.refresh, none⟩),
    .execute 4, .resume 4] _ rfl (by simp [NotBehind]) Sample.refresh (by decide)
  exact accepted .other

end StreamingPortal.Mcp
