import StreamingPortal.Shared.Thin
import StreamingPortal.Shared.Lockstep
import StreamingPortal.Mcp.SingleUse

set_option autoImplicit false

/-!
# A task with and without the purge of expired records

The same task runs over two databases, one of which has lost some of its expired rows.
-/

namespace StreamingPortal.Mcp

open Tasks

def Outcome.accepted : Outcome → Bool
  | .redirect _ _ | .tokens _ | .accessToken (some _) | .revoked => true
  | .error _ _ _ | .accessToken none | .refused | .raised => false

/-- The token endpoint of the SDK refuses what has expired. -/
structure RejectsExpired (cfg : Config) : Prop where
  code : ∀ client grant code now, cfg.acceptsCode client grant code now = true →
    ¬ code.expiresAt < now
  refresh : ∀ client grant token now scopes,
    cfg.acceptsRefresh client grant token now = some scopes → ¬ seconds token.expiresAt < now

theorem seconds_wholeSeconds_lt {t now : Int} (epoch : 0 < now) (expired : t < now) :
    seconds (wholeSeconds t) < now := by
  -- `int` rounds towards zero, which is earlier only for a time after the epoch.
  unfold seconds wholeSeconds
  have bound := Int.tdiv_mul_le t (b := 1000000) (by decide)
  by_cases negative : 0 ≤ t
  · rw [if_pos negative] at bound
    omega
  · have rounded : t.tdiv 1000000 ≤ Int.tdiv 0 1000000 :=
      Int.tdiv_le_tdiv (by decide) (by omega)
    rw [Int.zero_tdiv] at rounded
    omega

/-! ## The databases -/

structure Db.Thin (now : Int) (db db' : Db) : Prop where
  transactions : Table.Thin (fun row => row.expiresAt < now) db.transactions db'.transactions
  codes : Table.Thin (fun row => row.expiresAt < now) db.codes db'.codes
  accessTokens : Table.Thin (fun row => row.expiresAt < now) db.accessTokens db'.accessTokens
  refreshTokens : Table.Thin (fun row => row.expiresAt < now) db.refreshTokens db'.refreshTokens

theorem Db.Thin.refl (now : Int) (db : Db) : Db.Thin now db db :=
  ⟨.refl _, .refl _, .refl _, .refl _⟩

theorem Db.Thin.mono {now later : Int} {db db' : Db} (thin : Db.Thin now db db')
    (forward : now ≤ later) : Db.Thin later db db' where
  transactions := thin.transactions.mono fun _ expired => Int.lt_of_lt_of_le expired forward
  codes := thin.codes.mono fun _ expired => Int.lt_of_lt_of_le expired forward
  accessTokens := thin.accessTokens.mono fun _ expired => Int.lt_of_lt_of_le expired forward
  refreshTokens := thin.refreshTokens.mono fun _ expired => Int.lt_of_lt_of_le expired forward

/-- `purge_expired` with a time that has passed deletes expired rows only. -/
theorem Db.Thin.purged {now cutoff : Int} {db db' : Db} (thin : Db.Thin now db db')
    (past : cutoff ≤ now) (model : Purged) :
    Db.Thin now (db.perform (.purge model cutoff)).1 db' := by
  cases model with
  | transactions =>
      refine ⟨thin.transactions.purge fun row old => ?_, thin.codes, thin.accessTokens,
        thin.refreshTokens⟩
      exact Int.lt_of_lt_of_le (of_decide_eq_true old) past
  | codes =>
      refine ⟨thin.transactions, thin.codes.purge fun row old => ?_, thin.accessTokens,
        thin.refreshTokens⟩
      exact Int.lt_of_lt_of_le (of_decide_eq_true old) past
  | accessTokens =>
      refine ⟨thin.transactions, thin.codes, thin.accessTokens.purge fun row old => ?_,
        thin.refreshTokens⟩
      exact Int.lt_of_lt_of_le (of_decide_eq_true old) past
  | refreshTokens =>
      refine ⟨thin.transactions, thin.codes, thin.accessTokens,
        thin.refreshTokens.purge fun row old => ?_⟩
      exact Int.lt_of_lt_of_le (of_decide_eq_true old) past

def Gone (spent : List Credential) (db : Db) (k : Credential) : Prop :=
  -- A key that has been stored once is not drawn again.
  k ∈ spent ∧ ¬ db.stores k

theorem thin_insertRow {ρ : Type} {key : ρ → String} {expired : ρ → Prop}
    {t t' : Table String ρ key} (row : ρ) (thin : Table.Thin expired t t')
    (fresh : t'.get? (key row) = none) :
    Table.Thin expired (insertRow t row).1 (insertRow t' row).1 ∧
      (insertRow t row).2 = .created ∧ (insertRow t' row).2 = .created := by
  obtain ⟨u, inserted⟩ := Table.insert?_of_fresh (thin.none_of_none fresh)
  obtain ⟨u', inserted'⟩ := Table.insert?_of_fresh fresh
  simp only [insertRow, inserted, inserted']
  exact ⟨thin.insert inserted inserted', trivial, trivial⟩

/-! ## The tasks -/

def purges : Frame → Bool
  -- `watch_mcp_data_purge`
  | .purging _ _ _ | .sleeping => true
  | _ => false

inductive Purging (now : Int) : Task → Prop
  | deleting (model : Purged) (cutoff : Int) (deleted : Nat) (answer : Option Answer)
      (past : cutoff ≤ now) : Purging now ⟨.purging model cutoff deleted, answer⟩
  | sleeping (answer : Option Answer) : Purging now ⟨.sleeping, answer⟩
  | raised : Purging now ⟨.finished .raised, none⟩

inductive Doomed (now : Int) (gone : Credential → Prop) : Task → Prop
  -- A task that can only refuse, and that deletes nothing the other database has.
  | transaction (row : McpAuthTransactionModel) (upstreamCode : String) (answer : Option Answer)
      (expired : row.expiresAt < now) (missing : gone (.transaction row.id)) :
      Doomed now gone ⟨.deletingTransaction row upstreamCode, answer⟩
  | access (token : String) (answer : Option Answer) (missing : gone (.access token)) :
      Doomed now gone ⟨.deletingAccess token, answer⟩
  | finished (o : Outcome) (no : o.accepted = false) : Doomed now gone ⟨.finished o, none⟩

/-- A task where expired rows are purged, and the same task where they are not. -/
inductive Alike (now : Int) (gone : Credential → Prop) : Task → Task → Prop
  | same (t : Task) (working : purges t.frame = false) : Alike now gone t t
  -- How many rows a delete has removed is not looked at.
  | counted (f : Frame) (m n : Nat) (working : purges f = false) :
      Alike now gone ⟨f, some (.deleted m)⟩ ⟨f, some (.deleted n)⟩
  | transaction (id upstreamCode : String) (row : McpAuthTransactionModel)
      (expired : row.expiresAt < now) (missing : gone (.transaction row.id)) :
      Alike now gone ⟨.loadingTransaction id upstreamCode, some (.transaction none)⟩
        ⟨.loadingTransaction id upstreamCode, some (.transaction (some row))⟩
  | code (client : Client) (grant : CodeGrant) (row : McpAuthCodeModel)
      (expired : row.expiresAt < now) :
      Alike now gone ⟨.loadingCode client grant, some (.code none)⟩
        ⟨.loadingCode client grant, some (.code (some row))⟩
  | refresh (client : Client) (grant : RefreshGrant) (row : McpTokenModel)
      (expired : row.expiresAt < now) :
      Alike now gone ⟨.loadingRefresh client grant, some (.token none)⟩
        ⟨.loadingRefresh client grant, some (.token (some row))⟩
  | access (token : String) (row : McpTokenModel) (expired : row.expiresAt < now)
      (missing : gone (.access row.token)) :
      Alike now gone ⟨.loadingAccess token, some (.token none)⟩
        ⟨.loadingAccess token, some (.token (some row))⟩
  | purge (t : Task) (f : Frame) (purging : Purging now t) (waits : purges f = true) :
      Alike now gone t ⟨f, none⟩
  | rejected (o : Outcome) (t : Task) (no : o.accepted = false) (doomed : Doomed now gone t) :
      Alike now gone ⟨.finished o, none⟩ t

theorem Doomed.mono {now later : Int} {gone gone' : Credential → Prop} {t : Task}
    (doomed : Doomed now gone t) (forward : now ≤ later) (more : ∀ k, gone k → gone' k) :
    Doomed later gone' t := by
  cases doomed with
  | transaction row upstreamCode answer expired missing =>
      exact .transaction row upstreamCode answer (Int.lt_of_lt_of_le expired forward)
        (more _ missing)
  | access token answer missing => exact .access token answer (more _ missing)
  | finished o no => exact .finished o no

theorem Purging.mono {now later : Int} {t : Task} (purging : Purging now t)
    (forward : now ≤ later) : Purging later t := by
  cases purging with
  | deleting model cutoff deleted answer past =>
      exact .deleting model cutoff deleted answer (Int.le_trans past forward)
  | sleeping answer => exact .sleeping answer
  | raised => exact .raised

theorem Alike.mono {now later : Int} {gone gone' : Credential → Prop} {t t' : Task}
    (alike : Alike now gone t t') (forward : now ≤ later) (more : ∀ k, gone k → gone' k) :
    Alike later gone' t t' := by
  cases alike with
  | same t working => exact .same t working
  | counted f m n working => exact .counted f m n working
  | transaction id upstreamCode row expired missing =>
      exact .transaction id upstreamCode row (Int.lt_of_lt_of_le expired forward) (more _ missing)
  | code client grant row expired =>
      exact .code client grant row (Int.lt_of_lt_of_le expired forward)
  | refresh client grant row expired =>
      exact .refresh client grant row (Int.lt_of_lt_of_le expired forward)
  | access token row expired missing =>
      exact .access token row (Int.lt_of_lt_of_le expired forward) (more _ missing)
  | purge t f purging waits => exact .purge _ f (purging.mono forward) waits
  | rejected o t no doomed => exact .rejected o _ no (doomed.mono forward more)

/-! ## One action of the task -/

def moved (cfg : Config) (db : Db) (w : World) (p : Nat) (t : Task) (act : Action) :
    Db × World × Task :=
  (moveTask (provider cfg) db w p t act).getD (db, w, t)

/-- What the action leaves of the database, the world and the task, with and without the purge. -/
structure Together (spent : List Credential) (db : Db) (w : World) (m m' : Db × World × Task) :
    Prop where
  world : m'.2.1 = m.2.1
  now : m.2.1.now = w.now
  thin : Db.Thin w.now m.1 m'.1
  gone : ∀ k, Gone spent db k → Gone spent m.1 k
  alike : Alike w.now (Gone spent m.1) m.2.2 m'.2.2

section Moves

variable {cfg : Config} {spent : List Credential} {db db' : Db} {w : World} {p : Nat}

theorem together_tasks (thin : Db.Thin w.now db db') {w' : World} (now : w'.now = w.now)
    {t t' : Task} (alike : Alike w.now (Gone spent db) t t') :
    Together spent db w (db, w', t) (db', w', t') :=
  ⟨rfl, now, thin, fun _ => id, alike⟩

theorem performed_alike {f : Frame} {op : DbOp} (awaits : frameOp f = some op)
    (working : purges f = false) (thin : Db.Thin w.now db db')
    (recorded : ∀ k, db'.stores k → k ∈ spent) (unspent : ∀ k ∈ pending ⟨f, none⟩, k ∉ spent) :
    Db.Thin w.now (db.perform op).1 (db'.perform op).1 ∧
      Alike w.now (Gone spent (db.perform op).1) ⟨f, some (db.perform op).2⟩
        ⟨f, some (db'.perform op).2⟩ := by
  have free {ρ : Type} {key : ρ → String} (t : Table String ρ key) {k : String} {c : Credential}
      (mine : c ∈ pending ⟨f, none⟩) (means : (t.get? k).isSome = true → db'.stores c) :
      t.get? k = none := by
    cases stored : t.get? k with
    | none => rfl
    | some row => exact absurd (recorded c (means (by simp [stored]))) (unspent c mine)
  have created {first second : Db} {a a' : Answer} (thin : Db.Thin w.now first second)
      (one : a = .created) (other : a' = .created) :
      Db.Thin w.now first second ∧ Alike w.now (Gone spent first) ⟨f, some a⟩ ⟨f, some a'⟩ := by
    subst one other
    exact ⟨thin, .same _ working⟩
  cases f with
  | validating | exchangingUpstream | finished => contradiction
  | purging | sleeping => contradiction
  | creatingTransaction row =>
      obtain rfl := Option.some.inj awaits
      obtain ⟨rest, one, other⟩ := thin_insertRow row thin.transactions
        (free db'.transactions (k := row.id) (c := .transaction row.id) (by simp [pending]) id)
      exact created ⟨rest, thin.codes, thin.accessTokens, thin.refreshTokens⟩ one other
  | creatingCode transaction user row =>
      obtain rfl := Option.some.inj awaits
      obtain ⟨rest, one, other⟩ := thin_insertRow row thin.codes
        (free db'.codes (k := row.code) (c := .code row.code) (by simp [pending]) id)
      exact created ⟨thin.transactions, rest, thin.accessTokens, thin.refreshTokens⟩ one other
  | creatingAccess exchange issue =>
      obtain rfl := Option.some.inj awaits
      obtain ⟨rest, one, other⟩ := thin_insertRow issue.accessRow thin.accessTokens
        (free db'.accessTokens (k := issue.access) (c := .access issue.access)
          (by simp [pending]) id)
      exact created ⟨thin.transactions, thin.codes, rest, thin.refreshTokens⟩ one other
  | creatingRefresh exchange issue =>
      obtain rfl := Option.some.inj awaits
      obtain ⟨rest, one, other⟩ := thin_insertRow issue.refreshRow thin.refreshTokens
        (free db'.refreshTokens (k := issue.refresh) (c := .refresh issue.refresh)
          (by simp [pending]) id)
      exact created ⟨thin.transactions, thin.codes, thin.accessTokens, rest⟩ one other
  | deletingTransaction | deletingCode | deletingRefresh | deletingAccess | revokingAccess
  | revokingRefresh =>
      obtain rfl := Option.some.inj awaits
      exact ⟨⟨by first | exact thin.transactions.delete _ | exact thin.transactions,
        by first | exact thin.codes.delete _ | exact thin.codes,
        by first | exact thin.accessTokens.delete _ | exact thin.accessTokens,
        by first | exact thin.refreshTokens.delete _ | exact thin.refreshTokens⟩,
        .counted _ _ _ rfl⟩
  | loadingTransaction id upstreamCode =>
      obtain rfl := Option.some.inj awaits
      refine ⟨thin, ?_⟩
      rcases thin.transactions id with same | ⟨missing, row, stored, expired⟩
      · simp only [Db.perform, same]
        exact .same _ rfl
      · simp only [Db.perform, missing, stored]
        obtain ⟨-, rfl⟩ := Table.mem_of_get? stored
        refine .transaction _ _ row expired ⟨recorded _ ?_, ?_⟩ <;>
          simp [Db.stores, missing, stored]
  | loadingCode client grant =>
      obtain rfl := Option.some.inj awaits
      refine ⟨thin, ?_⟩
      rcases thin.codes grant.code with same | ⟨missing, row, stored, expired⟩
      · simp only [Db.perform, same]
        exact .same _ rfl
      · simp only [Db.perform, missing, stored]
        exact .code client grant row expired
  | loadingRefresh client grant =>
      obtain rfl := Option.some.inj awaits
      refine ⟨thin, ?_⟩
      rcases thin.refreshTokens grant.refreshToken with same | ⟨missing, row, stored, expired⟩
      · simp only [Db.perform, same]
        exact .same _ rfl
      · simp only [Db.perform, missing, stored]
        exact .refresh client grant row expired
  | loadingAccess token =>
      obtain rfl := Option.some.inj awaits
      refine ⟨thin, ?_⟩
      rcases thin.accessTokens token with same | ⟨missing, row, stored, expired⟩
      · simp only [Db.perform, same]
        exact .same _ rfl
      · simp only [Db.perform, missing, stored]
        obtain ⟨-, rfl⟩ := Table.mem_of_get? stored
        refine .access _ row expired ⟨recorded _ ?_, ?_⟩ <;> simp [Db.stores, missing, stored]

theorem gone_performed {f : Frame} {op : DbOp} (awaits : frameOp f = some op)
    (unspent : ∀ k ∈ pending ⟨f, none⟩, k ∉ spent) :
    ∀ k, Gone spent db k → Gone spent (db.perform op).1 k := by
  rintro k ⟨known, missing⟩
  refine ⟨known, fun stores => ?_⟩
  rcases stores_performed (p := 0) awaits stores with before | now
  · exact missing before
  · exact unspent k (owned_executed (p := 0) awaits k (by simp [now])) known

theorem resumeFrame_working {w' : World} {f f' : Frame} {a : Answer}
    (working : purges f = false) (h : resumeFrame cfg w f a = some (w', f')) :
    w'.now = w.now ∧ purges f' = false := by
  cases resumeFrame_cases h with
  | purged | purgedAll | slept => contradiction
  | authorizing | identified | deletedCode | deletedRefresh | withoutSub | loadedTransaction
  | deletedTransaction | loadedCode | loadedRefresh | createdAccess | loadedExpired
  | revokedAccess | finished => exact ⟨rfl, rfl⟩

theorem together_same {t : Task} (act : Action) (working : purges t.frame = false)
    (thin : Db.Thin w.now db db') (recorded : ∀ k, db'.stores k → k ∈ spent)
    (unspent : ∀ k ∈ pending t, k ∉ spent) :
    Together spent db w (moved cfg db w p t act) (moved cfg db' w p t act) := by
  obtain ⟨f, answer⟩ := t
  have idle : Together spent db w (db, w, ⟨f, answer⟩) (db', w, ⟨f, answer⟩) :=
    together_tasks thin rfl (.same _ working)
  have resumes (a : Answer) : Together spent db w
      (((resumeFrame cfg w f a).map fun next => (db, next.1, ⟨next.2, none⟩)).getD
        (db, w, ⟨f, answer⟩))
      (((resumeFrame cfg w f a).map fun next => (db', next.1, ⟨next.2, none⟩)).getD
        (db', w, ⟨f, answer⟩)) := by
    cases effect : resumeFrame cfg w f a with
    | none => exact idle
    | some next =>
        obtain ⟨now, working'⟩ := resumeFrame_working working effect
        exact together_tasks thin now (.same _ working')
  cases act with
  | request | tick => exact idle
  | resume q =>
      cases answer with
      | none => exact idle
      | some a => exact resumes a
  | raise q =>
      cases answer with
      | some a => exact idle
      | none =>
          simp only [moved, moveTask, provider]
          cases frameOp f with
          | none => exact idle
          | some op => exact together_tasks thin rfl (.same _ working)
  | answer q a =>
      cases answer with
      | some b => exact idle
      | none =>
          simp only [moved, moveTask, provider]
          cases frameOp f with
          | none => exact resumes a
          | some op => exact idle
  | execute q =>
      cases answer with
      | some a => exact idle
      | none =>
          simp only [moved, moveTask, provider]
          cases awaits : frameOp f with
          | none => exact idle
          | some op =>
              obtain ⟨rest, alike⟩ := performed_alike awaits working thin recorded unspent
              exact ⟨rfl, rfl, rest, gone_performed awaits unspent, alike⟩

theorem resumeFrame_counted {f : Frame} (working : purges f = false) (m n : Nat) :
    resumeFrame cfg w f (.deleted m) = resumeFrame cfg w f (.deleted n) := by
  cases f <;> first | contradiction | rfl

/-- A task that has the result of its operation goes on only when it is resumed. -/
theorem together_answered {f : Frame} {a a' : Answer} (act : Action)
    (thin : Db.Thin w.now db db')
    (alike : Alike w.now (Gone spent db) ⟨f, some a⟩ ⟨f, some a'⟩)
    (resumed : Together spent db w (moved cfg db w p ⟨f, some a⟩ (.resume p))
      (moved cfg db' w p ⟨f, some a'⟩ (.resume p))) :
    Together spent db w (moved cfg db w p ⟨f, some a⟩ act)
      (moved cfg db' w p ⟨f, some a'⟩ act) := by
  cases act with
  | resume q => exact resumed
  | request | tick | execute | raise | answer => exact together_tasks thin rfl alike

theorem together_counted {f : Frame} (m n : Nat) (act : Action) (working : purges f = false)
    (thin : Db.Thin w.now db db') :
    Together spent db w (moved cfg db w p ⟨f, some (.deleted m)⟩ act)
      (moved cfg db' w p ⟨f, some (.deleted n)⟩ act) := by
  refine together_answered act thin (.counted f m n working) ?_
  simp only [moved, moveTask, provider]
  rw [resumeFrame_counted working m n]
  cases effect : resumeFrame cfg w f (.deleted n) with
  | none => exact together_tasks thin rfl (.counted f m n working)
  | some next =>
      obtain ⟨now, working'⟩ := resumeFrame_working working effect
      exact together_tasks thin now (.same _ working')

theorem together_transaction {id upstreamCode : String} {row : McpAuthTransactionModel}
    (act : Action) (thin : Db.Thin w.now db db') (expired : row.expiresAt < w.now)
    (missing : Gone spent db (.transaction row.id)) :
    Together spent db w
      (moved cfg db w p ⟨.loadingTransaction id upstreamCode, some (.transaction none)⟩ act)
      (moved cfg db' w p ⟨.loadingTransaction id upstreamCode, some (.transaction (some row))⟩
        act) := by
  refine together_answered act thin (.transaction id upstreamCode row expired missing) ?_
  exact together_tasks thin rfl
    (.rejected _ _ rfl (.transaction row upstreamCode none expired missing))

theorem together_access {token : String} {row : McpTokenModel} (act : Action)
    (thin : Db.Thin w.now db db') (expired : row.expiresAt < w.now)
    (missing : Gone spent db (.access row.token)) :
    Together spent db w (moved cfg db w p ⟨.loadingAccess token, some (.token none)⟩ act)
      (moved cfg db' w p ⟨.loadingAccess token, some (.token (some row))⟩ act) := by
  refine together_answered act thin (.access token row expired missing) ?_
  simp only [moved, moveTask, provider, resumeFrame, if_pos expired]
  exact together_tasks thin rfl (.rejected _ _ rfl (.access row.token none missing))

theorem together_code {client : Client} {grant : CodeGrant} {row : McpAuthCodeModel}
    (act : Action) (rejects : RejectsExpired cfg) (thin : Db.Thin w.now db db')
    (expired : row.expiresAt < w.now) :
    Together spent db w (moved cfg db w p ⟨.loadingCode client grant, some (.code none)⟩ act)
      (moved cfg db' w p ⟨.loadingCode client grant, some (.code (some row))⟩ act) := by
  have refused : cfg.acceptsCode client grant (loadAuthorizationCode row) w.now ≠ true :=
    fun accepted => rejects.code _ _ _ _ accepted expired
  refine together_answered act thin (.code client grant row expired) ?_
  simp only [moved, moveTask, provider, resumeFrame, if_neg refused]
  exact together_tasks thin rfl (.same _ rfl)

theorem together_refresh {client : Client} {grant : RefreshGrant} {row : McpTokenModel}
    (act : Action) (rejects : RejectsExpired cfg) (epoch : 0 < w.now)
    (thin : Db.Thin w.now db db') (expired : row.expiresAt < w.now) :
    Together spent db w (moved cfg db w p ⟨.loadingRefresh client grant, some (.token none)⟩ act)
      (moved cfg db' w p ⟨.loadingRefresh client grant, some (.token (some row))⟩ act) := by
  have refused : cfg.acceptsRefresh client grant (loadToken row) w.now = none := by
    cases accepted : cfg.acceptsRefresh client grant (loadToken row) w.now with
    | none => rfl
    | some scopes =>
        have truncated : seconds (loadToken row).expiresAt < w.now :=
          seconds_wholeSeconds_lt epoch expired
        exact absurd truncated (rejects.refresh _ _ _ _ _ accepted)
  refine together_answered act thin (.refresh client grant row expired) ?_
  simp only [moved, moveTask, provider, resumeFrame, refused]
  exact together_tasks thin rfl (.same _ rfl)

theorem moved_finished (o : Outcome) (act : Action) :
    moved cfg db w p ⟨.finished o, none⟩ act = (db, w, ⟨.finished o, none⟩) := by
  cases act <;> rfl

theorem together_doomed {o : Outcome} {f : Frame} {op : DbOp} (answer : Option Answer)
    (act : Action) (no : o.accepted = false) (awaits : frameOp f = some op)
    (doomed : ∀ answer, Doomed w.now (Gone spent db) ⟨f, answer⟩)
    (thin : Db.Thin w.now db db') (performed : Db.Thin w.now db (db'.perform op).1)
    (refuses : ∀ a next, resumeFrame cfg w f a = some next →
      ∃ o', o'.accepted = false ∧ next = (w, .finished o')) :
    Together spent db w (db, w, ⟨.finished o, none⟩) (moved cfg db' w p ⟨f, answer⟩ act) := by
  have stays := together_tasks thin rfl (.rejected o _ no (doomed answer))
  cases act with
  | request | tick => exact stays
  | execute q =>
      cases answer with
      | some a => exact stays
      | none =>
          simp only [moved, moveTask, provider, awaits]
          exact ⟨rfl, rfl, performed, fun _ => id, .rejected o _ no (doomed _)⟩
  | raise q =>
      cases answer with
      | some a => exact stays
      | none =>
          simp only [moved, moveTask, provider, awaits]
          exact together_tasks thin rfl (.rejected o _ no (doomed _))
  | answer q a =>
      cases answer with
      | some b => exact stays
      | none =>
          simp only [moved, moveTask, provider, awaits]
          exact stays
  | resume q =>
      cases answer with
      | none => exact stays
      | some a =>
          simp only [moved, moveTask, provider]
          cases effect : resumeFrame cfg w f a with
          | none => exact stays
          | some next =>
              obtain ⟨o', no', rfl⟩ := refuses a next effect
              exact together_tasks thin rfl (.rejected o _ no (.finished o' no'))

/-- The task that the purge has refused, where it is still on its way. -/
theorem together_rejected {o : Outcome} {t : Task} (act : Action) (no : o.accepted = false)
    (thin : Db.Thin w.now db db') (doomed : Doomed w.now (Gone spent db) t) :
    Together spent db w (moved cfg db w p ⟨.finished o, none⟩ act) (moved cfg db' w p t act) := by
  rw [moved_finished]
  cases doomed with
  | finished o' no' =>
      rw [moved_finished]
      exact together_tasks thin rfl (.rejected o _ no (.finished o' no'))
  | transaction row upstreamCode answer expired missing =>
      have absent : db.transactions.get? row.id = none := by
        simpa [Db.stores] using missing.2
      refine together_doomed answer act no rfl
        (fun answer => .transaction row upstreamCode answer expired missing) thin
        ⟨thin.transactions.catchUp absent, thin.codes, thin.accessTokens, thin.refreshTokens⟩ ?_
      intro a next effect
      cases a with
      | deleted n =>
          simp only [resumeFrame, if_pos expired] at effect
          exact ⟨_, rfl, (Option.some.inj effect).symm⟩
      | raised => exact ⟨_, rfl, (Option.some.inj effect).symm⟩
      | _ => contradiction
  | access token answer missing =>
      have absent : db.accessTokens.get? token = none := by
        simpa [Db.stores] using missing.2
      refine together_doomed answer act no rfl (fun answer => .access token answer missing) thin
        ⟨thin.transactions, thin.codes, thin.accessTokens.catchUp absent, thin.refreshTokens⟩ ?_
      intro a next effect
      cases a with
      | deleted n => exact ⟨_, rfl, (Option.some.inj effect).symm⟩
      | raised => exact ⟨_, rfl, (Option.some.inj effect).symm⟩
      | _ => contradiction

theorem purging_resumed {w' : World} {f f' : Frame} {a : Answer} {stored : Option Answer}
    (purging : Purging w.now ⟨f, stored⟩) (h : resumeFrame cfg w f a = some (w', f')) :
    w' = w ∧ Purging w.now ⟨f', none⟩ := by
  cases purging with
  | raised => contradiction
  | sleeping =>
      cases a with
      | done =>
          obtain ⟨rfl, rfl⟩ := Prod.mk.inj (Option.some.inj h)
          exact ⟨rfl, .deleting _ _ _ _ (Int.le_refl _)⟩
      | raised =>
          obtain ⟨rfl, rfl⟩ := Prod.mk.inj (Option.some.inj h)
          exact ⟨rfl, .raised⟩
      | _ => contradiction
  | deleting model cutoff deleted answer past =>
      cases a with
      | deleted n =>
          simp only [resumeFrame] at h
          split at h
          · obtain ⟨rfl, rfl⟩ := Prod.mk.inj (Option.some.inj h)
            exact ⟨rfl, .deleting _ _ _ _ past⟩
          · obtain ⟨rfl, rfl⟩ := Prod.mk.inj (Option.some.inj h)
            exact ⟨rfl, .sleeping _⟩
      | raised =>
          obtain ⟨rfl, rfl⟩ := Prod.mk.inj (Option.some.inj h)
          exact ⟨rfl, .raised⟩
      | _ => contradiction

theorem purging_awaits {now : Int} {f : Frame} {op : DbOp} {stored : Option Answer}
    (purging : Purging now ⟨f, stored⟩) (awaits : frameOp f = some op) :
    (∃ model cutoff, cutoff ≤ now ∧ op = .purge model cutoff) ∧
      ∀ answer, Purging now ⟨f, answer⟩ := by
  cases purging with
  | raised | sleeping => contradiction
  | deleting model cutoff deleted answer past =>
      obtain rfl := Option.some.inj awaits
      exact ⟨⟨model, cutoff, past, rfl⟩, fun answer => .deleting model cutoff deleted answer past⟩

/-- The purge goes on where it runs, and waits where it does not. -/
theorem together_purging {t : Task} {f : Frame} (act : Action) (purging : Purging w.now t)
    (waits : purges f = true) (thin : Db.Thin w.now db db') :
    Together spent db w (moved cfg db w p t act) (db', w, ⟨f, none⟩) := by
  have goes {u : Task} (purging : Purging w.now u) :
      Together spent db w (db, w, u) (db', w, ⟨f, none⟩) :=
    together_tasks thin rfl (.purge u f purging waits)
  obtain ⟨frame, answer⟩ := t
  have resumes (a : Answer) : Together spent db w
      (((resumeFrame cfg w frame a).map fun next => (db, next.1, ⟨next.2, none⟩)).getD
        (db, w, ⟨frame, answer⟩)) (db', w, ⟨f, none⟩) := by
    cases effect : resumeFrame cfg w frame a with
    | none => exact goes purging
    | some next =>
        obtain ⟨world, purging'⟩ := purging_resumed purging effect
        rw [Option.map_some, Option.getD_some, world]
        exact goes purging'
  cases act with
  | request | tick => exact goes purging
  | resume q =>
      cases answer with
      | none => exact goes purging
      | some a => exact resumes a
  | answer q a =>
      cases answer with
      | some b => exact goes purging
      | none =>
          simp only [moved, moveTask, provider]
          cases frameOp frame with
          | none => exact resumes a
          | some op => exact goes purging
  | raise q =>
      cases answer with
      | some a => exact goes purging
      | none =>
          simp only [moved, moveTask, provider]
          cases awaits : frameOp frame with
          | none => exact goes purging
          | some op => exact goes ((purging_awaits purging awaits).2 _)
  | execute q =>
      cases answer with
      | some a => exact goes purging
      | none =>
          simp only [moved, moveTask, provider]
          cases awaits : frameOp frame with
          | none => exact goes purging
          | some op =>
              obtain ⟨⟨model, cutoff, past, rfl⟩, stays⟩ := purging_awaits purging awaits
              refine ⟨rfl, rfl, thin.purged past model, ?_, .purge _ f (stays _) waits⟩
              exact gone_performed (f := .purging model cutoff 0) rfl (by simp [pending])

end Moves

end StreamingPortal.Mcp
