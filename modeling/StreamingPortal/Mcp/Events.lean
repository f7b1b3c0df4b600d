import StreamingPortal.Shared.Claims
import StreamingPortal.Mcp.Provider

set_option autoImplicit false

/-! # What is observed of the provider, and the secrets it draws -/

namespace StreamingPortal.Mcp

open Tasks

inductive Credential
  | transaction (id : String)
  | code (code : String)
  | access (token : String)
  | refresh (token : String)
deriving DecidableEq, Repr

def Credential.key : Credential → String
  | .transaction id => id
  | .code c => c
  | .access token => token
  | .refresh token => token

def Exchange.credential : Exchange → Credential
  | .code c => .code c.code
  | .refresh token => .refresh token.token

inductive Row
  | transaction (row : McpAuthTransactionModel)
  | code (row : McpAuthCodeModel)
  | access (row : McpTokenModel)
  | refresh (row : McpTokenModel)

def Row.credential : Row → Credential
  | .transaction row => .transaction row.id
  | .code row => .code row.code
  | .access row => .access row.token
  | .refresh row => .refresh row.token

inductive Event
  | started (row : McpAuthTransactionModel)
  -- The identity provider has answered task `p`.
  | identified (p : Nat) (user : User)
  -- The `delete` of a redemption has taken effect.
  | redeemed (credential : Credential)
  | coded (p : Nat) (transaction : McpAuthTransactionModel) (row : McpAuthCodeModel)
  | accessIssued (source : Credential) (row : McpTokenModel)
  | refreshIssued (source : Credential) (row : McpTokenModel)

def executed (p : Nat) : Frame → Option Event
  -- What is seen when the operation of a frame takes effect.
  | .creatingTransaction row => some (.started row)
  | .deletingTransaction transaction _ => some (.redeemed (.transaction transaction.id))
  | .creatingCode transaction _ row => some (.coded p transaction row)
  | .deletingCode _ code => some (.redeemed (.code code.code))
  | .deletingRefresh _ token _ => some (.redeemed (.refresh token.token))
  | .creatingAccess exchange issue => some (.accessIssued exchange.credential issue.accessRow)
  | .creatingRefresh exchange issue => some (.refreshIssued exchange.credential issue.refreshRow)
  | _ => none

def answered (p : Nat) : Answer → Option Event
  | .upstream user => some (.identified p user)
  | _ => none

def observe (st : State) : Action → Option Event
  | .execute p => (st.frame? p).bind (executed p)
  | act => (st.resumed act).bind fun resumed => answered resumed.1 resumed.2.2

def eventsOf (cfg : Config) (st : State) (acts : List Action) : List Event :=
  Runs.trace (step cfg) observe st acts

def Event.stores : Event → Option Row
  | .started row => some (.transaction row)
  | .coded _ _ row => some (.code row)
  | .accessIssued _ row => some (.access row)
  | .refreshIssued _ row => some (.refresh row)
  | .identified _ _ | .redeemed _ => none

def Event.creates (e : Event) : Option Credential := e.stores.map Row.credential

def created (events : List Event) : List Credential := events.filterMap Event.creates

theorem created_append (events : List Event) (e : Option Event) :
    created (events ++ e.toList) = created events ++ (e.bind Event.creates).toList := by
  cases e with
  | none => simp [created]
  | some e => cases h : e.creates <;> simp [created, h]

theorem eq_of_creates {events : List Event} (nodup : (created events).Nodup) {e e' : Event}
    {k : Credential} (inside : e ∈ events) (inside' : e' ∈ events) (creates : e.creates = some k)
    (creates' : e'.creates = some k) : e = e' := by
  induction events with
  | nil => contradiction
  | cons first rest ih =>
      have later {d : Event} (inside : d ∈ rest) (creates : d.creates = some k) :
          k ∈ created rest := List.mem_filterMap.mpr ⟨d, inside, creates⟩
      rcases List.mem_cons.mp inside with rfl | tail <;>
        rcases List.mem_cons.mp inside' with rfl | tail'
      · rfl
      · simp only [created, List.filterMap_cons, creates, List.nodup_cons] at nodup
        exact absurd (later tail' creates') nodup.1
      · simp only [created, List.filterMap_cons, creates', List.nodup_cons] at nodup
        exact absurd (later tail creates) nodup.1
      · refine ih (nodup.sublist ?_) tail tail'
        exact (List.sublist_cons_self first rest).filterMap Event.creates

/-! ## The rows of the database -/

def Db.holds (db : Db) : Row → Prop
  | .transaction row => row ∈ db.transactions.rows
  | .code row => row ∈ db.codes.rows
  | .access row => row ∈ db.accessTokens.rows
  | .refresh row => row ∈ db.refreshTokens.rows

def DbOp.inserts : DbOp → Option Row
  | .createTransaction row => some (.transaction row)
  | .createCode row => some (.code row)
  | .createAccessToken row => some (.access row)
  | .createRefreshToken row => some (.refresh row)
  | _ => none

theorem inserts_executed (p : Nat) {f : Frame} {op : DbOp} (awaits : frameOp f = some op) :
    (executed p f).bind Event.stores = op.inserts := by
  cases f <;> first | contradiction | (obtain rfl := Option.some.inj awaits; rfl)

theorem mem_insertRow {ρ : Type} {key : ρ → String} {t : Table String ρ key} {row r : ρ}
    (stored : r ∈ (insertRow t row).1.rows) : r ∈ t.rows ∨ row = r := by
  unfold insertRow at stored
  split at stored
  next t' inserted =>
    rw [(Table.insert?_eq_some inserted).2] at stored
    rcases List.mem_append.mp stored with before | now
    · exact Or.inl before
    · exact Or.inr (List.mem_singleton.mp now).symm
  next => exact Or.inl stored

theorem mem_deleteRows {ρ : Type} {key : ρ → String} {t : Table String ρ key} {p : ρ → Bool}
    {r : ρ} : r ∈ (deleteRows t p).1.rows ↔ r ∈ t.rows ∧ p r = false := by
  simp [deleteRows, Table.deleteWhere]

theorem holds_performed {db : Db} {op : DbOp} {r : Row} (holds : (db.perform op).1.holds r) :
    db.holds r ∨ op.inserts = some r := by
  cases op with
  | getTransaction | getCode | getAccessToken | getRefreshToken => exact Or.inl holds
  | createTransaction row =>
      cases r with
      | transaction r => exact (mem_insertRow holds).imp_right fun same => by rw [same]; rfl
      | code | access | refresh => exact Or.inl holds
  | createCode row =>
      cases r with
      | code r => exact (mem_insertRow holds).imp_right fun same => by rw [same]; rfl
      | transaction | access | refresh => exact Or.inl holds
  | createAccessToken row =>
      cases r with
      | access r => exact (mem_insertRow holds).imp_right fun same => by rw [same]; rfl
      | transaction | code | refresh => exact Or.inl holds
  | createRefreshToken row =>
      cases r with
      | refresh r => exact (mem_insertRow holds).imp_right fun same => by rw [same]; rfl
      | transaction | code | access => exact Or.inl holds
  | deleteTransaction | deleteCode | deleteAccessToken | deleteRefreshToken =>
      left
      cases r <;> first | exact holds | exact (mem_deleteRows.mp holds).1
  | purge model now =>
      left
      cases model <;> cases r <;> first | exact holds | exact (mem_deleteRows.mp holds).1

/-! ## No secret is drawn twice -/

def pending (t : Task) : List Credential :=
  -- The credentials of a task that are drawn and not yet stored.
  match t.frame, t.answer with
  | .creatingTransaction row, none => [.transaction row.id]
  | .creatingCode _ _ row, none => [.code row.code]
  | .creatingAccess _ issue, none => [.access issue.access, .refresh issue.refresh]
  | .creatingAccess _ issue, some _ => [.refresh issue.refresh]
  | .creatingRefresh _ issue, none => [.refresh issue.refresh]
  | _, _ => []

def Drawn (cfg : Config) (drawn : Nat) (k : Credential) : Prop :=
  ∃ n, n < drawn ∧ k.key = cfg.tokenUrlsafe n

structure Fresh (cfg : Config) (st : State) (events : List Event) : Prop where
  recorded : ∀ r, st.store.holds r → ∃ e ∈ events, e.stores = some r
  exclusive : Exclusive pending st.tasks (created events)
  spent : ∀ k ∈ created events, Drawn cfg st.world.drawn k
  held : ∀ (p : Nat) (t : Task) (k : Credential), st.tasks[p]? = some t → k ∈ pending t →
    Drawn cfg st.world.drawn k

theorem Fresh.row_unique {cfg : Config} {st : State} {events : List Event}
    (fresh : Fresh cfg st events) {e e' : Event} {row row' : Row} (inside : e ∈ events)
    (inside' : e' ∈ events) (stores : e.stores = some row) (stores' : e'.stores = some row')
    (same : row.credential = row'.credential) : row = row' := by
  have one : e = e' := eq_of_creates fresh.exclusive.spentOnce inside inside'
    (by rw [Event.creates, stores, Option.map_some]) (by simp [Event.creates, stores', same])
  subst one
  exact Option.some.inj (stores.symm.trans stores')

theorem Drawn.mono {cfg : Config} {m n : Nat} {k : Credential} (drawn : Drawn cfg m k)
    (more : m ≤ n) : Drawn cfg n k := by
  obtain ⟨i, below, same⟩ := drawn
  exact ⟨i, Nat.lt_of_lt_of_le below more, same⟩

theorem not_drawn {cfg : Config} {drawn i : Nat} {k : Credential}
    (injective : Function.Injective cfg.tokenUrlsafe) (new : drawn ≤ i)
    (key : k.key = cfg.tokenUrlsafe i) : ¬ Drawn cfg drawn k := by
  rintro ⟨n, below, same⟩
  have := injective (key.symm.trans same)
  omega

theorem pending_executed (p : Nat) {f : Frame} {op : DbOp} (awaits : frameOp f = some op)
    (a : Answer) :
    pending ⟨f, none⟩ =
      ((executed p f).bind Event.creates).toList ++ pending ⟨f, some a⟩ := by
  cases f <;> first | contradiction | rfl

theorem pending_resumed {cfg : Config} (injective : Function.Injective cfg.tokenUrlsafe)
    {w w' : World} {f f' : Frame} {a : Answer} {stored : Option Answer}
    (given : stored = some a ∨ frameOp f = none) (h : resumeFrame cfg w f a = some (w', f')) :
    w.drawn ≤ w'.drawn ∧
      ((pending ⟨f', none⟩).Sublist (pending ⟨f, stored⟩) ∨
        ((pending ⟨f', none⟩).map Credential.key).Nodup ∧
          ∀ k ∈ pending ⟨f', none⟩, ∃ i, w.drawn ≤ i ∧ i < w'.drawn ∧
            k.key = cfg.tokenUrlsafe i) := by
  -- What the task is about to store it was about to store before, or has just drawn.
  cases resumeFrame_cases h with
  | authorizing client params =>
      refine ⟨Nat.le_succ _, Or.inr ⟨by simp [pending], fun k mine => ?_⟩⟩
      obtain rfl := List.mem_singleton.mp mine
      exact ⟨w.drawn, Nat.le_refl _, Nat.lt_succ_self _, rfl⟩
  | identified transaction upstreamCode user =>
      refine ⟨Nat.le_succ _, Or.inr ⟨by simp [pending], fun k mine => ?_⟩⟩
      obtain rfl := List.mem_singleton.mp mine
      exact ⟨w.drawn, Nat.le_refl _, Nat.lt_succ_self _, rfl⟩
  | deletedCode client code n issue _ _ _ access refresh
  | deletedRefresh client token scopes n issue _ _ _ access refresh =>
      refine ⟨Nat.le_add_right _ _, Or.inr ⟨?_, fun k mine => ?_⟩⟩
      · have apart : cfg.tokenUrlsafe w.drawn ≠ cfg.tokenUrlsafe (w.drawn + 1) :=
          injective.ne (Nat.ne_of_lt (Nat.lt_succ_self _))
        simpa [pending, Credential.key, access, refresh] using apart
      rcases List.mem_cons.mp mine with rfl | mine
      · exact ⟨w.drawn, Nat.le_refl _, by simp, access⟩
      · obtain rfl := List.mem_singleton.mp mine
        exact ⟨w.drawn + 1, Nat.le_succ _, by simp, refresh⟩
  | createdAccess exchange issue =>
      obtain rfl := given.resolve_right (by simp [frameOp])
      exact ⟨Nat.le_refl _, Or.inl (List.Sublist.refl _)⟩
  | withoutSub => exact ⟨Nat.le_add_right _ _, Or.inl (List.nil_sublist _)⟩
  | loadedTransaction | deletedTransaction | loadedCode | loadedRefresh | loadedExpired
  | revokedAccess | purged | purgedAll | slept | finished =>
      exact ⟨Nat.le_refl _, Or.inl (List.nil_sublist _)⟩

theorem pending_request (w : World) (r : Request) : pending ⟨startRequest w r, none⟩ = [] := by
  have starts := startRequest_starts w r
  generalize startRequest w r = f at starts ⊢
  cases starts <;> rfl

theorem fresh_init (cfg : Config) (now : Int) : Fresh cfg (init now) [] where
  recorded := by
    intro r holds
    cases r <;> contradiction
  exclusive := exclusive_nil
  spent := by simp [created]
  held := by simp [init]

theorem observe_waiting {st : State} {act : Action} (still : st.resumed act = none)
    (idle : ∀ p, act ≠ .execute p) : observe st act = none := by
  cases act with
  | execute p => exact absurd rfl (idle p)
  | request | raise | resume | answer | tick => simp [observe, still]

theorem observe_resumed {st : State} {act : Action} {p : Nat} {f : Frame} {a : Answer}
    (resumed : st.resumed act = some (p, f, a)) : observe st act = answered p a := by
  cases act with
  | execute q => contradiction
  | request | raise | resume | answer | tick => simp [observe, resumed]

theorem observe_execute {st : State} {p : Nat} {f : Frame} {a : Option Answer}
    (task : st.tasks[p]? = some ⟨f, a⟩) : observe st (.execute p) = executed p f := by
  simp [observe, State.frame?_of_task task]

theorem created_answered (events : List Event) (p : Nat) (a : Answer) :
    created (events ++ (answered p a).toList) = created events := by
  rw [created_append]
  cases a <;> simp [answered, Event.creates, Event.stores]

theorem recorded_append {events : List Event} {r : Row} (e : Option Event)
    (recorded : ∃ e ∈ events, e.stores = some r) :
    ∃ e' ∈ events ++ e.toList, e'.stores = some r := by
  obtain ⟨e', inside, stores⟩ := recorded
  exact ⟨e', List.mem_append_left _ inside, stores⟩

section Exclusive

variable {cfg : Config} {st : State} {spent : List Credential} {p : Nat} {f : Frame}

theorem exclusive_resumed {f' : Frame} {a : Answer} {stored : Option Answer} {w : World}
    (injective : Function.Injective cfg.tokenUrlsafe) (exclusive : Exclusive pending st.tasks spent)
    -- An index beyond `drawn` is a key that nobody can have.
    (ahead : ∀ (k : Credential) (i : Nat), st.world.drawn ≤ i → k.key = cfg.tokenUrlsafe i →
      Unclaimed pending st.tasks spent k)
    (task : st.tasks[p]? = some ⟨f, stored⟩) (given : stored = some a ∨ frameOp f = none)
    (effect : resumeFrame cfg st.world f a = some (w, f')) :
    Exclusive pending (st.tasks.set p ⟨f', none⟩) spent := by
  obtain ⟨-, kept | ⟨nodup, drawn⟩⟩ := pending_resumed injective given effect
  · -- Nothing is drawn: the task may only have given up credentials.
    exact exclusive.keep task kept
  · have unclaimed (k : Credential) (mine : k ∈ pending ⟨f', none⟩) :
        Unclaimed pending st.tasks spent k := by
      obtain ⟨i, new, -, key⟩ := drawn k mine
      exact ahead k i new key
    have moved := exclusive.move ⟨f', none⟩ task [] (by simp) List.nodup_nil nodup.of_map
      fun k mine => ⟨by simp, Or.inr (unclaimed k mine)⟩
    simpa using moved

theorem kept_executed {op : DbOp} (awaits : frameOp f = some op) (a : Answer) :
    ∀ k ∈ pending ⟨f, some a⟩, k ∈ pending ⟨f, none⟩ := by
  intro k mine
  rw [pending_executed 0 awaits a]
  exact List.mem_append_right _ mine

theorem owned_executed {op : DbOp} (awaits : frameOp f = some op) :
    ∀ k ∈ ((executed p f).bind Event.creates).toList, k ∈ pending ⟨f, none⟩ := by
  intro k mine
  rw [pending_executed p awaits .done]
  exact List.mem_append_left _ mine

theorem exclusive_executed {op : DbOp} (exclusive : Exclusive pending st.tasks spent)
    (task : st.tasks[p]? = some ⟨f, none⟩) (awaits : frameOp f = some op) (a : Answer) :
    Exclusive pending (st.tasks.set p ⟨f, some a⟩)
      (spent ++ ((executed p f).bind Event.creates).toList) := by
  -- The task spends the credential it stores and keeps the others.
  have nodup := pending_executed p awaits a ▸ exclusive.nodup p _ task
  obtain ⟨once, rest, apart⟩ := List.nodup_append'.mp nodup
  exact exclusive.move ⟨f, some a⟩ task _ (owned_executed awaits) once rest
    fun k mine => ⟨fun spending => apart spending mine,
      Or.inl (kept_executed awaits a k mine)⟩

end Exclusive

theorem fresh_resumed {cfg : Config} {st : State} {events : List Event} {p : Nat} {f f' : Frame}
    {a : Answer} {stored : Option Answer} {w : World}
    (injective : Function.Injective cfg.tokenUrlsafe) (fresh : Fresh cfg st events)
    (task : st.tasks[p]? = some ⟨f, stored⟩) (given : stored = some a ∨ frameOp f = none)
    (effect : resumeFrame cfg st.world f a = some (w, f')) :
    Fresh cfg { st.setTask p ⟨f', none⟩ with world := w }
      (events ++ (answered p a).toList) := by
  have ahead (k : Credential) (i : Nat) (new : st.world.drawn ≤ i)
      (key : k.key = cfg.tokenUrlsafe i) : Unclaimed pending st.tasks (created events) k := by
    have never := not_drawn injective new key
    exact ⟨fun spent => never (fresh.spent k spent),
      fun q t other held => never (fresh.held q t k other held)⟩
  obtain ⟨more, moved⟩ := pending_resumed injective given effect
  refine ⟨fun r holds => recorded_append (answered p a) (fresh.recorded r holds), ?_, ?_, ?_⟩
  · rw [created_answered]
    exact exclusive_resumed injective fresh.exclusive ahead task given effect
  · rw [created_answered]
    exact fun k spent => (fresh.spent k spent).mono more
  · intro q t k task' mine
    rcases getElem?_set_cases task' with ⟨rfl, rfl⟩ | ⟨-, old⟩
    · rcases moved with kept | ⟨-, drawn⟩
      · exact (fresh.held q _ k task (kept.subset mine)).mono more
      · obtain ⟨i, -, below, key⟩ := drawn k mine
        exact ⟨i, below, key⟩
    · exact (fresh.held q t k old mine).mono more

theorem fresh_executed {cfg : Config} {st : State} {events : List Event} {p : Nat} {f : Frame}
    {op : DbOp} (fresh : Fresh cfg st events) (task : st.tasks[p]? = some ⟨f, none⟩)
    (awaits : frameOp f = some op) :
    Fresh cfg { st.setTask p ⟨f, some (st.store.perform op).2⟩ with
      store := (st.store.perform op).1 } (events ++ (executed p f).toList) := by
  refine ⟨?_, ?_, ?_, ?_⟩
  · intro r holds
    rcases holds_performed holds with before | now
    · exact recorded_append (executed p f) (fresh.recorded r before)
    · rw [← inserts_executed p awaits] at now
      obtain ⟨e, happens, stores⟩ := Option.bind_eq_some_iff.mp now
      exact ⟨e, by simp [happens], stores⟩
  · rw [created_append]
    exact exclusive_executed fresh.exclusive task awaits _
  · rw [created_append]
    intro k spent
    rcases List.mem_append.mp spent with before | now
    · exact fresh.spent k before
    · exact fresh.held p _ k task (owned_executed awaits k now)
  · intro q t k task' mine
    rcases getElem?_set_cases task' with ⟨rfl, rfl⟩ | ⟨-, old⟩
    · exact fresh.held q _ k task (kept_executed awaits _ k mine)
    · exact fresh.held q t k old mine

theorem fresh_step {cfg : Config} {st st' : State} {act : Action} {events : List Event}
    (injective : Function.Injective cfg.tokenUrlsafe) (fresh : Fresh cfg st events)
    (taken : step cfg st act = some st') : Fresh cfg st' (events ++ (observe st act).toList) := by
  cases step_cases taken with
  | request r =>
      rw [observe_waiting rfl (by simp), Option.toList_none, List.append_nil]
      refine ⟨fresh.recorded, fresh.exclusive.spawn (pending_request st.world r), fresh.spent, ?_⟩
      · intro q t k task mine
        rcases getElem?_spawn_cases task with ⟨-, rfl⟩ | old
        · simp [provider, pending_request] at mine
        · exact fresh.held q t k old mine
  | tick time =>
      rw [observe_waiting rfl (by simp), Option.toList_none, List.append_nil]
      exact ⟨fresh.recorded, fresh.exclusive, fresh.spent, fresh.held⟩
  | raise p f op a task awaits effect =>
      rw [observe_waiting rfl (by simp)]
      have fewer : (pending ⟨f, some a⟩).Sublist (pending ⟨f, none⟩) := by
        rw [pending_executed p awaits a]
        exact List.sublist_append_right _ _
      rw [Option.toList_none, List.append_nil]
      refine ⟨fresh.recorded, fresh.exclusive.keep task fewer, fresh.spent, ?_⟩
      · intro q t k task' mine
        rcases getElem?_set_cases task' with ⟨rfl, rfl⟩ | ⟨-, old⟩
        · exact fresh.held q _ k task (fewer.subset mine)
        · exact fresh.held q t k old mine
  | execute p f op db a task awaits effect =>
      obtain ⟨rfl, rfl⟩ := Prod.mk.inj (Option.some.inj effect)
      rw [observe_execute task]
      exact fresh_executed fresh task awaits
  | resume p f f' a w task effect =>
      rw [observe_resumed (State.resumed_resume task)]
      exact fresh_resumed injective fresh task (Or.inl rfl) effect
  | answer p f f' a w task awaits effect =>
      rw [observe_resumed (State.resumed_answer a task)]
      exact fresh_resumed injective fresh task (Or.inr awaits) effect

end StreamingPortal.Mcp
