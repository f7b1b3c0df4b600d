import StreamingPortal.Mcp.Purge
import Mathlib.Data.List.Forall2
import Mathlib.Data.List.Dedup

set_option autoImplicit false

/-! # Schedules with and without `purge_expired` -/

namespace StreamingPortal.Mcp

open Tasks

def schedule (cfg : Config) (st : State) (acts : List Action) : State :=
  acts.foldl (attempt (provider cfg)) st

def ofPurge (st : State) (act : Action) : Bool :=
  -- The action is one of a purge task.
  ((act.actor.bind st.frame?).map purges).getD false

/-- The schedule without the actions of the purge tasks: none of them ever gets to run. -/
def withoutPurge (cfg : Config) : State → List Action → List Action
  | _, [] => []
  | st, act :: acts =>
      if ofPurge st act then withoutPurge cfg st acts
      else act :: withoutPurge cfg (attempt (provider cfg) st act) acts

def attemptUnpurged (cfg : Config) (st : State) (act : Action) : State :=
  if ofPurge st act then st else attempt (provider cfg) st act

theorem schedule_withoutPurge (cfg : Config) (st : State) (acts : List Action) :
    schedule cfg st (withoutPurge cfg st acts) = acts.foldl (attemptUnpurged cfg) st := by
  induction acts generalizing st with
  | nil => rfl
  | cons act acts ih =>
      rw [List.foldl_cons, withoutPurge, attemptUnpurged]
      split
      · exact ih st
      · exact ih (attempt (provider cfg) st act)

def clock (now : Int) : Action → Int
  | .tick time => time
  | _ => now

/-- The clock never goes back. -/
def Forward (now : Int) : List Action → Prop
  | [] => True
  | act :: acts => now ≤ clock now act ∧ Forward (clock now act) acts

instance Forward.decidable : (now : Int) → (acts : List Action) → Decidable (Forward now acts)
  | _, [] => isTrue trivial
  | now, act :: acts =>
      have : Decidable (Forward (clock now act) acts) := Forward.decidable _ acts
      inferInstanceAs (Decidable (_ ∧ _))

/-! ## The keys of one run -/

structure Unrepeated (cfg : Config) (spent : List Credential) (st : State) : Prop where
  recorded : ∀ k, st.store.stores k → k ∈ spent
  exclusive : Exclusive pending st.tasks spent
  ahead : ∀ (k : Credential) (i : Nat), st.world.drawn ≤ i → k.key = cfg.tokenUrlsafe i →
    Unclaimed pending st.tasks spent k

section Unrepeated

variable {cfg : Config} {spent : List Credential} {st st' : State} {p : Nat} {f : Frame}

theorem unrepeated_resumed {f' : Frame} {a : Answer} {stored : Option Answer} {w : World}
    (injective : Function.Injective cfg.tokenUrlsafe) (fresh : Unrepeated cfg spent st)
    (task : st.tasks[p]? = some ⟨f, stored⟩) (given : stored = some a ∨ frameOp f = none)
    (effect : resumeFrame cfg st.world f a = some (w, f')) :
    Unrepeated cfg spent { st.setTask p ⟨f', none⟩ with world := w } := by
  obtain ⟨more, drawn⟩ := pending_resumed injective given effect
  refine ⟨fresh.recorded, exclusive_resumed injective fresh.exclusive fresh.ahead task given effect,
    ?_⟩
  intro k i new key
  obtain ⟨unspent, unheld⟩ := fresh.ahead k i (Nat.le_trans more new) key
  refine ⟨unspent, forall_set ?_ fun q t _ old => unheld q t old⟩
  intro mine
  rcases drawn with kept | ⟨-, drawn⟩
  · exact unheld p _ task (kept.subset mine)
  · obtain ⟨j, -, below, key'⟩ := drawn k mine
    have same : i = j := injective (key.symm.trans key')
    exact absurd (Nat.lt_of_lt_of_le below new) (by omega)

theorem unrepeated_executed {op : DbOp} (fresh : Unrepeated cfg spent st)
    (task : st.tasks[p]? = some ⟨f, none⟩) (awaits : frameOp f = some op) :
    Unrepeated cfg (spent ++ ((executed p f).bind Event.creates).toList)
      { st.setTask p ⟨f, some (st.store.perform op).2⟩ with
        store := (st.store.perform op).1 } := by
  refine ⟨?_, exclusive_executed fresh.exclusive task awaits _, ?_⟩
  · intro k stores
    rcases stores_performed (p := p) awaits stores with before | now
    · exact List.mem_append_left _ (fresh.recorded k before)
    · exact List.mem_append_right _ (by simp [now])
  · intro k i new key
    obtain ⟨unspent, unheld⟩ := fresh.ahead k i new key
    refine ⟨fun spending => ?_, forall_set ?_ fun q t _ old => unheld q t old⟩
    · rcases List.mem_append.mp spending with before | now
      · exact unspent before
      · exact unheld p _ task (owned_executed awaits k now)
    · exact fun mine => unheld p _ task (kept_executed awaits _ k mine)

theorem unrepeated_step {act : Action} (injective : Function.Injective cfg.tokenUrlsafe)
    (fresh : Unrepeated cfg spent st) (taken : step cfg st act = some st') :
    ∃ spent', (∀ k ∈ spent, k ∈ spent') ∧ Unrepeated cfg spent' st' := by
  cases step_cases taken with
  | request r =>
      refine ⟨spent, fun _ => id, fresh.recorded,
        fresh.exclusive.spawn (pending_request st.world r), ?_⟩
      intro k i new key
      obtain ⟨unspent, unheld⟩ := fresh.ahead k i new key
      exact ⟨unspent, forall_spawn (by simp [provider, pending_request]) unheld⟩
  | tick time => exact ⟨spent, fun _ => id, fresh.recorded, fresh.exclusive, fresh.ahead⟩
  | raise p f op a task awaits effect =>
      have fewer : (pending ⟨f, some a⟩).Sublist (pending ⟨f, none⟩) := by
        rw [pending_executed p awaits a]
        exact List.sublist_append_right _ _
      refine ⟨spent, fun _ => id, fresh.recorded, fresh.exclusive.keep task fewer, ?_⟩
      intro k i new key
      obtain ⟨unspent, unheld⟩ := fresh.ahead k i new key
      exact ⟨unspent, forall_set (fun mine => unheld p _ task (fewer.subset mine))
        fun q t _ old => unheld q t old⟩
  | execute p f op db a task awaits effect =>
      obtain ⟨rfl, rfl⟩ := Prod.mk.inj (Option.some.inj effect)
      exact ⟨_, fun k => List.mem_append_left _, unrepeated_executed fresh task awaits⟩
  | resume p f f' a w task effect =>
      exact ⟨spent, fun _ => id, unrepeated_resumed injective fresh task (Or.inl rfl) effect⟩
  | answer p f f' a w task awaits effect =>
      exact ⟨spent, fun _ => id, unrepeated_resumed injective fresh task (Or.inr awaits) effect⟩

theorem unrepeated_unpurged (act : Action) (injective : Function.Injective cfg.tokenUrlsafe)
    (fresh : Unrepeated cfg spent st) :
    ∃ spent', (∀ k ∈ spent, k ∈ spent') ∧ Unrepeated cfg spent' (attemptUnpurged cfg st act) := by
  unfold attemptUnpurged attempt
  split
  · exact ⟨spent, fun _ => id, fresh⟩
  · cases taken : Tasks.step (provider cfg) st act with
    | none => exact ⟨spent, fun _ => id, fresh⟩
    | some next => exact unrepeated_step injective fresh taken

end Unrepeated

def Db.credentials (db : Db) : List Credential :=
  (db.transactions.rows.map (fun row => Credential.transaction row.id) ++
    db.codes.rows.map (fun row => Credential.code row.code) ++
    db.accessTokens.rows.map (fun row => Credential.access row.token) ++
    db.refreshTokens.rows.map (fun row => Credential.refresh row.token)).dedup

theorem mem_credentials {db : Db} {k : Credential} : k ∈ db.credentials ↔ db.stores k := by
  rw [Db.credentials, List.mem_dedup]
  cases k <;> simp [Db.stores, get?_isSome_iff]

/-! ## The two runs -/

structure Lockstep (cfg : Config) (spent : List Credential) (st st' : State) : Prop where
  world : st'.world = st.world
  epoch : 0 < st.world.now
  thin : Db.Thin st.world.now st.store st'.store
  fresh : Unrepeated cfg spent st'
  tasks : List.Forall₂ (Alike st.world.now (Gone spent st.store)) st.tasks st'.tasks

section Steps

variable {cfg : Config} {spent : List Credential} {st st' : State}

theorem alike_together {p : Nat} {t t' : Task} (act : Action) (rejects : RejectsExpired cfg)
    (inv : Lockstep cfg spent st st') (task : st'.tasks[p]? = some t')
    (alike : Alike st.world.now (Gone spent st.store) t t') :
    Together spent st.store st.world (moved cfg st.store st.world p t act)
      (if purges t'.frame then (st'.store, st.world, t')
        else moved cfg st'.store st.world p t' act) := by
  have unspent := fun k mine => inv.fresh.exclusive.unspent p t' k task mine
  cases alike with
  | same t working =>
      rw [working]
      exact together_same act working inv.thin inv.fresh.recorded unspent
  | counted f m n working =>
      rw [working]
      exact together_counted m n act working inv.thin
  | transaction id upstreamCode row expired missing =>
      exact together_transaction act inv.thin expired missing
  | code client grant row expired => exact together_code act rejects inv.thin expired
  | refresh client grant row expired =>
      exact together_refresh act rejects inv.epoch inv.thin expired
  | access token row expired missing => exact together_access act inv.thin expired missing
  | purge t f purging waits =>
      rw [if_pos waits]
      exact together_purging act purging waits inv.thin
  | rejected o t no doomed =>
      have working : purges t'.frame = false := by cases doomed <;> rfl
      rw [working]
      exact together_rejected act no inv.thin doomed

theorem alike_request {gone : Credential → Prop} (w : World) (r : Request) :
    Alike w.now gone ⟨startRequest w r, none⟩ ⟨startRequest w r, none⟩ := by
  cases r with
  | watchDataPurge => exact .purge _ _ (.deleting _ _ _ _ (Int.le_refl _)) rfl
  | oauthCallback error errorDescription code state =>
      refine .same _ ?_
      simp only [startRequest, handleOauthCallback]
      split
      · rfl
      · split <;> rfl
  | authorize | exchangeCode | exchangeRefresh | loadAccessToken | revokeToken =>
      exact .same _ rfl

theorem attemptUnpurged_moved {p : Nat} {t : Task} {act : Action} (actor : act.actor = some p)
    (task : st.tasks[p]? = some t) :
    attemptUnpurged cfg st act =
      let next := if purges t.frame then (st.store, st.world, t)
        else moved cfg st.store st.world p t act
      ⟨next.1, next.2.1, st.tasks.set p next.2.2⟩ := by
  have mine : ofPurge st act = purges t.frame := by
    simp [ofPurge, actor, State.frame?_of_task task]
  rw [attemptUnpurged, mine]
  split
  · obtain ⟨bound, value⟩ := List.getElem?_eq_some_iff.mp task
    simp [← value]
  · exact attempt_moveTask actor task

theorem lockstep_moved {p : Nat} {t t' : Task} {act : Action}
    (injective : Function.Injective cfg.tokenUrlsafe) (rejects : RejectsExpired cfg)
    (inv : Lockstep cfg spent st st') (actor : act.actor = some p)
    (task : st.tasks[p]? = some t) (task' : st'.tasks[p]? = some t') :
    (attempt (provider cfg) st act).world.now = st.world.now ∧
      ∃ spent', Lockstep cfg spent' (attempt (provider cfg) st act)
        (attemptUnpurged cfg st' act) := by
  obtain ⟨spent', grown, fresh⟩ := unrepeated_unpurged act injective inv.fresh
  have together := alike_together act rejects inv task' (forall₂_getElem? inv.tasks task task')
  rw [attemptUnpurged_moved actor task', inv.world] at fresh ⊢
  rw [attempt_moveTask actor task]
  have now := together.now
  have more : ∀ k, Gone spent (moved cfg st.store st.world p t act).1 k →
      Gone spent' (moved cfg st.store st.world p t act).1 k :=
    fun k gone => ⟨grown k gone.1, gone.2⟩
  refine ⟨now, spent', together.world, lt_of_lt_of_eq inv.epoch now.symm, ?_, fresh, ?_⟩
  · exact together.thin.mono (Int.le_of_eq now.symm)
  · refine forall₂_set (inv.tasks.imp fun u u' alike => ?_) ?_
    · exact alike.mono (Int.le_of_eq now.symm) fun k gone => more k (together.gone k gone)
    · exact together.alike.mono (Int.le_of_eq now.symm) more

theorem lockstep_step (injective : Function.Injective cfg.tokenUrlsafe)
    (rejects : RejectsExpired cfg) (inv : Lockstep cfg spent st st') {act : Action}
    (forward : st.world.now ≤ clock st.world.now act) :
    (attempt (provider cfg) st act).world.now = clock st.world.now act ∧
      ∃ spent', Lockstep cfg spent' (attempt (provider cfg) st act)
        (attemptUnpurged cfg st' act) := by
  have acts {p : Nat} (actor : act.actor = some p)
      (still : clock st.world.now act = st.world.now) :
      (attempt (provider cfg) st act).world.now = clock st.world.now act ∧
        ∃ spent', Lockstep cfg spent' (attempt (provider cfg) st act)
          (attemptUnpurged cfg st' act) := by
    have same := inv.tasks.length_eq
    cases task : st.tasks[p]? with
    | none =>
        have task' : st'.tasks[p]? = none := by
          rw [List.getElem?_eq_none_iff] at task ⊢
          omega
        have idle : attemptUnpurged cfg st' act = st' := by
          unfold attemptUnpurged
          rw [attempt_absent actor task', ite_self]
        rw [attempt_absent actor task, idle]
        exact ⟨still.symm, spent, inv⟩
    | some t =>
        obtain ⟨t', task'⟩ : ∃ t', st'.tasks[p]? = some t' := by
          have bound := (List.getElem?_eq_some_iff.mp task).1
          exact ⟨_, List.getElem?_eq_getElem (by omega)⟩
        rw [still]
        exact lockstep_moved injective rejects inv actor task task'
  cases act with
  | execute p | raise p | resume p | answer p => exact acts rfl rfl
  | request r =>
      obtain ⟨spent', grown, fresh⟩ := unrepeated_unpurged (.request r) injective inv.fresh
      refine ⟨rfl, spent', inv.world, inv.epoch, inv.thin, fresh, ?_⟩
      have old := inv.tasks.imp fun t t' alike =>
        alike.mono (Int.le_refl _) fun k gone => (⟨grown k gone.1, gone.2⟩ : Gone spent' st.store k)
      refine List.rel_append old (.cons ?_ .nil)
      rw [inv.world]
      exact alike_request st.world r
  | tick time =>
      obtain ⟨spent', grown, fresh⟩ := unrepeated_unpurged (.tick time) injective inv.fresh
      refine ⟨rfl, spent', ?_, Int.lt_of_lt_of_le inv.epoch forward, inv.thin.mono forward, fresh,
        inv.tasks.imp fun t t' alike => alike.mono forward fun k gone =>
          ⟨grown k gone.1, gone.2⟩⟩
      exact congrArg (fun world : World => { world with now := time }) inv.world

/-- With the purge a task has the same outcome, or refuses what is refused without it as well. -/
theorem alike_finished {now : Int} {gone : Credential → Prop} {t t' : Task}
    (alike : Alike now gone t t') (o : Outcome) :
    (o.accepted = true → (t.frame = .finished o ↔ t'.frame = .finished o)) ∧
      (o.accepted = false → t'.frame = .finished o →
        ∃ o', o'.accepted = false ∧ t.frame = .finished o') := by
  cases alike with
  | same t working => exact ⟨fun _ => Iff.rfl, fun no finished => ⟨o, no, finished⟩⟩
  | counted f m n working => exact ⟨fun _ => Iff.rfl, fun no finished => ⟨o, no, finished⟩⟩
  | transaction | code | refresh | access =>
      exact ⟨fun _ => Iff.rfl, fun _ finished => by contradiction⟩
  | purge t f purging waits =>
      have unfinished : f ≠ .finished o := by
        rintro rfl
        contradiction
      refine ⟨fun yes => iff_of_false ?_ unfinished, fun _ finished => absurd finished unfinished⟩
      intro finished
      cases purging with
      | deleting | sleeping => contradiction
      | raised =>
          obtain rfl := Frame.finished.inj finished
          contradiction
  | rejected o' t no doomed =>
      refine ⟨fun yes => iff_of_false ?_ ?_, fun _ _ => ⟨o', no, rfl⟩⟩
      · intro finished
        obtain rfl := Frame.finished.inj finished
        exact Bool.noConfusion (yes.symm.trans no)
      · intro finished
        cases doomed with
        | transaction | access => contradiction
        | finished o'' no' =>
            obtain rfl := Frame.finished.inj finished
            exact Bool.noConfusion (yes.symm.trans no')

end Steps

theorem lockstep_runs {cfg : Config} (injective : Function.Injective cfg.tokenUrlsafe)
    (rejects : RejectsExpired cfg) {spent : List Credential} {st st' : State} {acts : List Action}
    (forward : Forward st.world.now acts) (start : Lockstep cfg spent st st') :
    ∃ spent', Lockstep cfg spent' (schedule cfg st acts)
      (schedule cfg st' (withoutPurge cfg st' acts)) := by
  rw [schedule_withoutPurge]
  refine (lockstep (R := fun acts st st' => Forward st.world.now acts ∧
    ∃ spent, Lockstep cfg spent st st') ?_ ⟨forward, spent, start⟩).2
  rintro act acts s s' ⟨⟨ahead, rest⟩, spent, inv⟩
  obtain ⟨now, next⟩ := lockstep_step injective rejects inv ahead
  exact ⟨now ▸ rest, next⟩

theorem lockstep_start (cfg : Config) (db : Db) {w : World} (epoch : 0 < w.now)
    (unused : ∀ k, db.stores k → ∀ n, w.drawn ≤ n → k.key ≠ cfg.tokenUrlsafe n) :
    Lockstep cfg db.credentials ⟨db, w, []⟩ ⟨db, w, []⟩ where
  world := rfl
  epoch := epoch
  thin := .refl _ _
  tasks := .nil
  fresh := by
    refine ⟨fun k => mem_credentials.mpr, ?_, ?_⟩
    · exact ⟨by simp, by simp, by simp, List.nodup_dedup _⟩
    · intro k i new key
      exact ⟨fun stored => unused k (mem_credentials.mp stored) i new key, by simp⟩

/--
Whatever the purge tasks do and whenever they run, the operations that are accepted and what
they yield are those of the schedule without them, and what is refused there is refused.
-/
theorem purge_unobservable {cfg : Config} (injective : Function.Injective cfg.tokenUrlsafe)
    (rejects : RejectsExpired cfg) (db : Db) {w : World} (epoch : 0 < w.now)
    (unused : ∀ k, db.stores k → ∀ n, w.drawn ≤ n → k.key ≠ cfg.tokenUrlsafe n)
    {acts : List Action} (forward : Forward w.now acts) (p : Nat) (o : Outcome) :
    let st : State := ⟨db, w, []⟩
    (o.accepted = true →
      ((schedule cfg st acts).frame? p = some (.finished o) ↔
        (schedule cfg st (withoutPurge cfg st acts)).frame? p = some (.finished o))) ∧
    (o.accepted = false →
      (schedule cfg st (withoutPurge cfg st acts)).frame? p = some (.finished o) →
      ∃ o', o'.accepted = false ∧ (schedule cfg st acts).frame? p = some (.finished o')) := by
  intro st
  obtain ⟨spent, inv⟩ := lockstep_runs injective rejects forward
    (lockstep_start cfg db epoch unused)
  have same : (schedule cfg st acts).tasks.length =
      (schedule cfg st (withoutPurge cfg st acts)).tasks.length := inv.tasks.length_eq
  cases task : (schedule cfg st acts).tasks[p]? with
  | none =>
      have task' : (schedule cfg st (withoutPurge cfg st acts)).tasks[p]? = none := by
        rw [List.getElem?_eq_none_iff] at task ⊢
        omega
      simp [State.frame?, task, task']
  | some t =>
      obtain ⟨t', task'⟩ :
          ∃ t', (schedule cfg st (withoutPurge cfg st acts)).tasks[p]? = some t' := by
        have bound := (List.getElem?_eq_some_iff.mp task).1
        exact ⟨_, List.getElem?_eq_getElem (by omega)⟩
      simpa only [State.frame?, task, task', Option.map_some, Option.some.injEq] using
        alike_finished (forall₂_getElem? inv.tasks task task') o

namespace Sample

def strictConfig : Config :=
  { config with
    acceptsRefresh := fun client _ token now =>
      if client.clientId = token.clientId ∧ now ≤ seconds token.expiresAt then some token.scopes
      else none }

theorem strictConfig_rejects : RejectsExpired strictConfig where
  code := by
    intro client grant code now accepted
    have conditions : (client.clientId == code.clientId) = true ∧
        decide (now ≤ code.expiresAt) = true := (Bool.and_eq_true _ _).mp accepted
    exact Int.not_lt.mpr (of_decide_eq_true conditions.2)
  refresh := by
    intro client grant token now scopes accepted
    simp only [strictConfig] at accepted
    split at accepted
    next conditions => exact Int.not_lt.mpr conditions.2
    next => contradiction

/-- A login, a purge after its code has expired and an exchange of the code. -/
def lateExchange : List Action :=
  login ++ [.tick (seconds 2000), .request .watchDataPurge, .execute 2, .resume 2, .execute 2,
    .resume 2, .request exchange, .execute 3, .resume 3]

end Sample

theorem purge_unobservable_late :
    let start : State := ⟨(init 0).store, ⟨1, 0⟩, []⟩
    let st := schedule Sample.strictConfig start Sample.lateExchange
    let st' := schedule Sample.strictConfig start
      (withoutPurge Sample.strictConfig start Sample.lateExchange)
    ¬ st.store.stores (.code "aa") ∧ st'.store.stores (.code "aa") ∧
      (st.frame? 1 = some (.finished (.redirect "https://client/"
          [("code", "aa"), ("state", "state")])) ↔
        st'.frame? 1 = some (.finished (.redirect "https://client/"
          [("code", "aa"), ("state", "state")]))) ∧
      ∃ o, o.accepted = false ∧ st.frame? 3 = some (.finished o) := by
  have unused : ∀ k, (init 0).store.stores k → ∀ n, (⟨1, 0⟩ : World).drawn ≤ n →
      k.key ≠ Sample.strictConfig.tokenUrlsafe n := by
    intro k stores
    cases k <;> contradiction
  have injective : Function.Injective Sample.strictConfig.tokenUrlsafe := Sample.config_injective
  have forward : Forward (⟨1, 0⟩ : World).now Sample.lateExchange := by decide
  refine ⟨by decide, by decide, ?_, ?_⟩
  · exact (purge_unobservable injective Sample.strictConfig_rejects _ (by decide) unused forward
      1 _).1 rfl
  · exact (purge_unobservable injective Sample.strictConfig_rejects _ (by decide) unused forward
      3 .refused).2 rfl rfl

end StreamingPortal.Mcp
