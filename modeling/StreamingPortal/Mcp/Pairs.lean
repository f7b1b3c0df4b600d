import StreamingPortal.Mcp.SingleUse

set_option autoImplicit false

/-! # The pairs that tokens are issued in -/

namespace StreamingPortal.Mcp

open Tasks

def issuedPair : Frame → Option (String × String)
  -- An access token is stored before the refresh token of its pair.
  | .creatingAccess _ issue => some (issue.access, issue.refresh)
  | _ => none

def pairIssued (st : State) : Action → Option (String × String)
  | .execute p => (st.frame? p).bind issuedPair
  | _ => none

def pairsOf (cfg : Config) (st : State) (acts : List Action) : List (String × String) :=
  Runs.trace (step cfg) pairIssued st acts

def Paired (pairs : List (String × String)) (token other : String) : Prop :=
  (token, other) ∈ pairs ∨ (other, token) ∈ pairs

def Db.storesToken (db : Db) (token : String) : Prop :=
  db.stores (.access token) ∨ db.stores (.refresh token)

/-! ## One key, one credential -/

def Known (st : State) (k : Credential) : Prop :=
  st.store.stores k ∨ ∃ (p : Nat) (t : Task), st.tasks[p]? = some t ∧ k ∈ pending t

def KeyedOnce (st : State) : Prop :=
  ∀ k k', Known st k → Known st k' → k.key = k'.key → k = k'

theorem Fresh.drawn_of_known {cfg : Config} {st : State} {events : List Event}
    (fresh : Fresh cfg st events) {k : Credential} (known : Known st k) :
    Drawn cfg st.world.drawn k := by
  rcases known with stores | ⟨p, t, task, mine⟩
  · exact fresh.spent k (fresh.created_of_stores stores)
  · exact fresh.held p t k task mine

theorem Fresh.not_pending {cfg : Config} {st : State} {events : List Event}
    (fresh : Fresh cfg st events) (keyed : KeyedOnce st) {k k' : Credential}
    (stores : st.store.stores k) (same : k'.key = k.key) {p : Nat} {t : Task}
    (task : st.tasks[p]? = some t) : k' ∉ pending t := by
  intro mine
  obtain rfl := keyed k' k (Or.inr ⟨p, t, task, mine⟩) (Or.inl stores) same
  exact fresh.exclusive.unspent p t k' task mine (fresh.created_of_stores stores)

theorem known_executed {st : State} {p : Nat} {f : Frame} {op : DbOp}
    (task : st.tasks[p]? = some ⟨f, none⟩) (awaits : frameOp f = some op) {k : Credential}
    (known : Known { st.setTask p ⟨f, some (st.store.perform op).2⟩ with
      store := (st.store.perform op).1 } k) : Known st k := by
  have split := pending_executed p awaits (st.store.perform op).2
  rcases known with stores | ⟨q, t, task', mine⟩
  · rcases stores_performed (p := p) awaits stores with before | now
    · exact Or.inl before
    · refine Or.inr ⟨p, _, task, ?_⟩
      rw [split, now]
      simp
  · rcases getElem?_set_cases task' with ⟨rfl, rfl⟩ | ⟨-, old⟩
    · refine Or.inr ⟨q, _, task, ?_⟩
      rw [split]
      exact List.mem_append_right _ mine
    · exact Or.inr ⟨q, t, old, mine⟩

theorem known_resumed {st : State} {p : Nat} {t t' : Task} {w : World}
    (task : st.tasks[p]? = some t) {k : Credential}
    (known : Known { st.setTask p t' with world := w } k) : Known st k ∨ k ∈ pending t' := by
  rcases known with stores | ⟨q, u, task', mine⟩
  · exact Or.inl (Or.inl stores)
  · rcases getElem?_set_cases task' with ⟨rfl, rfl⟩ | ⟨-, old⟩
    · exact Or.inr mine
    · exact Or.inl (Or.inr ⟨q, u, old, mine⟩)

theorem keyedOnce_resumed {cfg : Config} {st : State} {events : List Event} {p : Nat}
    {f f' : Frame} {a : Answer} {stored : Option Answer} {w : World}
    (injective : Function.Injective cfg.tokenUrlsafe) (fresh : Fresh cfg st events)
    (keyed : KeyedOnce st) (task : st.tasks[p]? = some ⟨f, stored⟩)
    (given : stored = some a ∨ frameOp f = none)
    (effect : resumeFrame cfg st.world f a = some (w, f')) :
    KeyedOnce { st.setTask p ⟨f', none⟩ with world := w } := by
  obtain ⟨-, kept | ⟨nodup, drawn⟩⟩ := pending_resumed injective given effect
  · have before (k : Credential) (known : Known { st.setTask p ⟨f', none⟩ with world := w } k) :
        Known st k :=
      (known_resumed task known).elim id fun mine => Or.inr ⟨p, _, task, kept.subset mine⟩
    exact fun k k' known known' => keyed k k' (before k known) (before k' known')
  · -- What has just been drawn differs from everything known and from each other.
    have apart {k k' : Credential} (known : Known st k) (mine : k' ∈ pending ⟨f', none⟩) :
        k.key ≠ k'.key := by
      intro same
      obtain ⟨i, new, -, key⟩ := drawn k' mine
      exact not_drawn injective new (same.trans key) (fresh.drawn_of_known known)
    intro k k' known known' same
    rcases known_resumed task known with old | mine <;>
      rcases known_resumed task known' with old' | mine'
    · exact keyed k k' old old' same
    · exact absurd same (apart old mine')
    · exact absurd same.symm (apart old' mine)
    · exact List.inj_on_of_nodup_map nodup mine mine' same

theorem keyedOnce_step {cfg : Config} {st st' : State} {act : Action} {events : List Event}
    (injective : Function.Injective cfg.tokenUrlsafe) (fresh : Fresh cfg st events)
    (keyed : KeyedOnce st) (taken : step cfg st act = some st') : KeyedOnce st' := by
  have fewer (kept : ∀ k, Known st' k → Known st k) : KeyedOnce st' :=
    fun k k' known known' => keyed k k' (kept k known) (kept k' known')
  cases step_cases taken with
  | request r =>
      refine fewer fun k known => known.imp_right ?_
      rintro ⟨p, t, task, mine⟩
      rcases getElem?_spawn_cases task with ⟨-, rfl⟩ | old
      · simp [provider, pending_request] at mine
      · exact ⟨p, t, old, mine⟩
  | tick time => exact fewer fun k known => known
  | raise p f op a task awaits effect =>
      refine fewer fun k known => known.imp_right ?_
      rintro ⟨q, t, task', mine⟩
      rcases getElem?_set_cases task' with ⟨rfl, rfl⟩ | ⟨-, old⟩
      · refine ⟨q, _, task, ?_⟩
        rw [pending_executed q awaits a]
        exact List.mem_append_right _ mine
      · exact ⟨q, t, old, mine⟩
  | execute p f op db a task awaits effect =>
      obtain ⟨rfl, rfl⟩ := Prod.mk.inj (Option.some.inj effect)
      exact fewer fun k known => known_executed task awaits known
  | resume p f f' a w task effect =>
      exact keyedOnce_resumed injective fresh keyed task (Or.inl rfl) effect
  | answer p f f' a w task awaits effect =>
      exact keyedOnce_resumed injective fresh keyed task (Or.inr awaits) effect

/-! ## Every stored token has a partner -/

def halfIssued (t : Task) : Option Issue :=
  -- The access token of the pair is stored, the refresh token may not be.
  match t.frame, t.answer with
  | .creatingAccess _ issue, some .created => some issue
  | .creatingRefresh _ issue, _ => some issue
  | _, _ => none

structure PairsKnown (cfg : Config) (st : State) (pairs : List (String × String)) : Prop where
  fresh : ∃ events, Fresh cfg st events
  keyed : KeyedOnce st
  drawn : ∀ access refresh, (access, refresh) ∈ pairs →
    Drawn cfg st.world.drawn (.access access) ∧ Drawn cfg st.world.drawn (.refresh refresh)
  issuing : ∀ (p : Nat) (t : Task) (issue : Issue), st.tasks[p]? = some t →
    halfIssued t = some issue → (issue.access, issue.refresh) ∈ pairs
  stored : ∀ token, st.store.storesToken token → ∃ other, Paired pairs token other

theorem Paired.mono {pairs more : List (String × String)} (within : pairs ⊆ more)
    {token other : String} (paired : Paired pairs token other) : Paired more token other :=
  paired.imp (fun inside => within inside) fun inside => within inside

theorem PairsKnown.drawn_of_paired {cfg : Config} {st : State} {pairs : List (String × String)}
    (known : PairsKnown cfg st pairs) {token other : String} (paired : Paired pairs token other) :
    Drawn cfg st.world.drawn (.access token) ∧ Drawn cfg st.world.drawn (.access other) := by
  rcases paired with inside | inside
  · exact known.drawn _ _ inside
  · exact (known.drawn _ _ inside).symm

theorem pairsKnown_init (cfg : Config) (now : Int) : PairsKnown cfg (init now) [] where
  fresh := ⟨[], fresh_init cfg now⟩
  keyed := by
    rintro k k' (stores | ⟨p, t, task, -⟩)
    · cases k <;> cases stores
    · simp [init] at task
  drawn := by simp
  issuing := by simp [init]
  stored := by rintro token (⟨⟨⟩⟩ | ⟨⟨⟩⟩)

theorem halfIssued_request (w : World) (r : Request) :
    halfIssued ⟨startRequest w r, none⟩ = none := by
  have starts := startRequest_starts w r
  generalize startRequest w r = f at starts ⊢
  cases starts <;> rfl

theorem halfIssued_raised {f : Frame} {issue : Issue}
    (half : halfIssued ⟨f, some .raised⟩ = some issue) : halfIssued ⟨f, none⟩ = some issue := by
  cases f <;> first | contradiction | exact half

theorem halfIssued_resumed {cfg : Config} {w w' : World} {f f' : Frame} {a : Answer}
    {stored : Option Answer} {issue : Issue} (given : stored = some a ∨ frameOp f = none)
    (h : resumeFrame cfg w f a = some (w', f')) (half : halfIssued ⟨f', none⟩ = some issue) :
    halfIssued ⟨f, stored⟩ = some issue := by
  cases resumeFrame_cases h with
  | createdAccess exchange issue' =>
      obtain rfl := given.resolve_right (by simp [frameOp])
      exact half
  | _ => cases half

theorem halfIssued_executed {f : Frame} {op : DbOp} (awaits : frameOp f = some op) {a : Answer}
    {issue : Issue} (half : halfIssued ⟨f, some a⟩ = some issue) :
    issuedPair f = some (issue.access, issue.refresh) ∨ halfIssued ⟨f, none⟩ = some issue := by
  cases f with
  | creatingAccess exchange issue' =>
      left
      simp only [halfIssued] at half
      split at half
      · simp_all [issuedPair]
      · simp_all
      · contradiction
  | creatingRefresh exchange issue' => exact Or.inr half
  | _ => cases a <;> cases half

theorem pairsKnown_executed {cfg : Config} {st : State} {pairs : List (String × String)} {p : Nat}
    {f : Frame} {op : DbOp} (inv : PairsKnown cfg st pairs)
    (fresh : ∃ events, Fresh cfg { st.setTask p ⟨f, some (st.store.perform op).2⟩ with
      store := (st.store.perform op).1 } events)
    (keyed : KeyedOnce { st.setTask p ⟨f, some (st.store.perform op).2⟩ with
      store := (st.store.perform op).1 })
    (task : st.tasks[p]? = some ⟨f, none⟩) (awaits : frameOp f = some op) :
    PairsKnown cfg { st.setTask p ⟨f, some (st.store.perform op).2⟩ with
      store := (st.store.perform op).1 } (pairs ++ (issuedPair f).toList) := by
  have more : pairs ⊆ pairs ++ (issuedPair f).toList := List.subset_append_left _ _
  refine ⟨fresh, keyed, ?_, ?_, ?_⟩
  · intro access refresh inside
    rcases List.mem_append.mp inside with before | now
    · exact inv.drawn access refresh before
    · obtain ⟨events, held⟩ := inv.fresh
      cases f with
      | creatingAccess exchange issue =>
          obtain ⟨rfl, rfl⟩ := Prod.mk.inj (List.mem_singleton.mp now)
          exact ⟨held.held p _ _ task (by simp [pending]), held.held p _ _ task (by simp [pending])⟩
      | _ => cases now
  · intro q t issue task' half
    rcases getElem?_set_cases task' with ⟨rfl, rfl⟩ | ⟨-, old⟩
    · rcases halfIssued_executed awaits half with now | before
      · simp [now]
      · exact more (inv.issuing q _ issue task before)
    · exact more (inv.issuing q t issue old half)
  · -- A stored token was stored before, or is the one of the issue at hand.
    have former (token : String) (stores : st.store.storesToken token) :
        ∃ other, Paired (pairs ++ (issuedPair f).toList) token other := by
      obtain ⟨other, paired⟩ := inv.stored token stores
      exact ⟨other, paired.mono more⟩
    rintro token (stores | stores)
    · rcases stores_performed (p := p) awaits stores with before | now
      · exact former token (Or.inl before)
      · cases f with
        | creatingAccess exchange issue =>
            obtain rfl := Credential.access.inj (Option.some.inj now)
            exact ⟨issue.refresh, Or.inl (by simp [issuedPair, Issue.accessRow, Issue.row])⟩
        | _ => cases now
    · rcases stores_performed (p := p) awaits stores with before | now
      · exact former token (Or.inr before)
      · cases f with
        | creatingRefresh exchange issue =>
            obtain rfl := Credential.refresh.inj (Option.some.inj now)
            exact ⟨issue.access, Or.inr (more (inv.issuing p _ issue task rfl))⟩
        | _ => cases now

theorem pairsKnown_resumed {cfg : Config} {st : State} {pairs : List (String × String)} {p : Nat}
    {f f' : Frame} {a : Answer} {stored : Option Answer} {w : World}
    (injective : Function.Injective cfg.tokenUrlsafe) (inv : PairsKnown cfg st pairs)
    (fresh : ∃ events, Fresh cfg { st.setTask p ⟨f', none⟩ with world := w } events)
    (task : st.tasks[p]? = some ⟨f, stored⟩) (given : stored = some a ∨ frameOp f = none)
    (effect : resumeFrame cfg st.world f a = some (w, f')) :
    PairsKnown cfg { st.setTask p ⟨f', none⟩ with world := w } pairs where
  fresh := fresh
  keyed := by
    obtain ⟨events, before⟩ := inv.fresh
    exact keyedOnce_resumed injective before inv.keyed task given effect
  drawn := by
    have more := (pending_resumed injective given effect).1
    intro access refresh inside
    exact (inv.drawn access refresh inside).imp (Drawn.mono · more) (Drawn.mono · more)
  issuing := by
    intro q t issue task' half
    rcases getElem?_set_cases task' with ⟨rfl, rfl⟩ | ⟨-, old⟩
    · exact inv.issuing q _ issue task (halfIssued_resumed given effect half)
    · exact inv.issuing q t issue old half
  stored := inv.stored

theorem pairsKnown_step {cfg : Config} {st st' : State} {act : Action}
    {pairs : List (String × String)} (injective : Function.Injective cfg.tokenUrlsafe)
    (inv : PairsKnown cfg st pairs) (taken : step cfg st act = some st') :
    PairsKnown cfg st' (pairs ++ (pairIssued st act).toList) := by
  obtain ⟨events, before⟩ := inv.fresh
  have fresh : ∃ events, Fresh cfg st' events := ⟨_, fresh_step injective before taken⟩
  have keyed := keyedOnce_step injective before inv.keyed taken
  cases step_cases taken with
  | request r =>
      simp only [pairIssued, Option.toList_none, List.append_nil]
      refine ⟨fresh, keyed, inv.drawn, ?_, inv.stored⟩
      intro p t issue task half
      rcases getElem?_spawn_cases task with ⟨-, rfl⟩ | old
      · simp [provider, halfIssued_request] at half
      · exact inv.issuing p t issue old half
  | tick time =>
      simp only [pairIssued, Option.toList_none, List.append_nil]
      exact ⟨fresh, keyed, inv.drawn, inv.issuing, inv.stored⟩
  | raise p f op a task awaits effect =>
      obtain rfl : Answer.raised = a := Option.some.inj effect
      simp only [pairIssued, Option.toList_none, List.append_nil]
      refine ⟨fresh, keyed, inv.drawn, ?_, inv.stored⟩
      intro q t issue task' half
      rcases getElem?_set_cases task' with ⟨rfl, rfl⟩ | ⟨-, old⟩
      · exact inv.issuing q _ issue task (halfIssued_raised half)
      · exact inv.issuing q t issue old half
  | execute p f op db a task awaits effect =>
      obtain ⟨rfl, rfl⟩ := Prod.mk.inj (Option.some.inj effect)
      rw [pairIssued, State.frame?_of_task task]
      exact pairsKnown_executed inv fresh keyed task awaits
  | resume p f f' a w task effect =>
      simp only [pairIssued, Option.toList_none, List.append_nil]
      exact pairsKnown_resumed injective inv fresh task (Or.inl rfl) effect
  | answer p f f' a w task awaits effect =>
      simp only [pairIssued, Option.toList_none, List.append_nil]
      exact pairsKnown_resumed injective inv fresh task (Or.inr awaits) effect

theorem pairsKnown_reached {cfg : Config} (injective : Function.Injective cfg.tokenUrlsafe)
    {now : Int} {acts : List Action} {st : State} (reached : run cfg (init now) acts = some st) :
    PairsKnown cfg st (pairsOf cfg (init now) acts) :=
  Runs.invariant_trace (PairsKnown cfg)
    (fun _ _ _ _ inv _ taken => pairsKnown_step injective inv taken)
    (pairsKnown_init cfg now) (Runs.along_trivial acts) reached

end StreamingPortal.Mcp
