import Mathlib.Data.List.Induction
import StreamingPortal.Mcp.PurgeRuns
import StreamingPortal.Mcp.Revocation

set_option autoImplicit false

/-!
# How long a credential is accepted

The clock is read when a credential is drawn and again when it is presented, in any replica.
-/

namespace StreamingPortal.Mcp

open Tasks

/-- For how many seconds a credential is good. -/
def ttl : Credential → Int
  | .transaction _ => transactionTtl
  | .code _ => authCodeTtl
  | .access _ => accessTokenTtl
  | .refresh _ => refreshTokenTtl

/-- The frames between which an action takes a task. -/
def passed (cfg : Config) (st : State) (act : Action) : Option (Frame × Frame) :=
  (st.resumed act).bind fun resumed =>
    (resumeFrame cfg st.world resumed.2.1 resumed.2.2).map fun next => (resumed.2.1, next.2)

-- The credentials that are drawn on the way.
def draws : Frame → Frame → List Credential
  | .validating _ _, .creatingTransaction row => [.transaction row.id]
  | .exchangingUpstream _ _, .creatingCode _ _ row => [.code row.code]
  | .deletingCode _ _, .creatingAccess _ issue | .deletingRefresh _ _ _, .creatingAccess _ issue =>
      [.access issue.access, .refresh issue.refresh]
  | _, _ => []

-- The credential that is found to be good: a login goes on, an exchange begins, or a request is let
-- in.
def accepts : Frame → Frame → Option Credential
  | .deletingTransaction transaction _, .exchangingUpstream _ _ =>
      some (.transaction transaction.id)
  | .loadingCode _ _, .deletingCode _ code => some (.code code.code)
  | .loadingRefresh _ _, .deletingRefresh _ token _ => some (.refresh token.token)
  | .loadingAccess _, .finished (.accessToken (some token)) => some (.access token.token)
  | _, _ => none

def drawnAt (cfg : Config) (st : State) (act : Action) : List Credential :=
  (passed cfg st act).elim [] fun frames => draws frames.1 frames.2

def acceptedAt (cfg : Config) (st : State) (act : Action) : Option Credential :=
  (passed cfg st act).bind fun frames => accepts frames.1 frames.2

/-- An earlier action of the run has drawn the credential, with the clock not behind this time by
more than the credential is good for. -/
def DrawnBefore (cfg : Config) (start : Int) (acts : List Action) (k : Credential)
    (now time : Int) : Prop :=
  ∃ earlier act later st, acts = earlier ++ act :: later ∧ run cfg (init start) earlier = some st ∧
    k ∈ drawnAt cfg st act ∧ st.world.now ≤ now ∧ time ≤ st.world.now + seconds (ttl k)

def Row.expiresAt : Row → Int
  | .transaction row => row.expiresAt
  | .code row => row.expiresAt
  | .access row | .refresh row => row.expiresAt

/-- The rows that a task is about to store or has loaded. -/
def carried (t : Task) : List Row :=
  match t.frame, t.answer with
  | .creatingTransaction row, _ => [.transaction row]
  | .loadingTransaction _ _, some (.transaction (some row)) => [.transaction row]
  | .deletingTransaction transaction _, _ => [.transaction transaction]
  | .creatingCode _ _ row, _ => [.code row]
  | .loadingCode _ _, some (.code (some row)) => [.code row]
  | .loadingRefresh _ _, some (.token (some row)) => [.refresh row]
  | .loadingAccess _, some (.token (some row)) => [.access row]
  | .creatingAccess _ issue, _ => [.access issue.accessRow, .refresh issue.refreshRow]
  | .creatingRefresh _ issue, _ => [.refresh issue.refreshRow]
  | _, _ => []

/-- Every row has an end that the moment at which it was drawn accounts for. -/
structure Dated (cfg : Config) (start : Int) (acts : List Action) (st : State) : Prop where
  epoch : 0 < st.world.now
  stored : ∀ r, st.store.holds r →
    DrawnBefore cfg start acts r.credential st.world.now r.expiresAt
  carried : ∀ (p : Nat) (t : Task), st.tasks[p]? = some t → ∀ r ∈ carried t,
    DrawnBefore cfg start acts r.credential st.world.now r.expiresAt

theorem DrawnBefore.more {cfg : Config} {start : Int} {acts : List Action} {k : Credential}
    {now later time : Int} (drawn : DrawnBefore cfg start acts k now time) (act : Action)
    (order : now ≤ later) : DrawnBefore cfg start (acts ++ [act]) k later time := by
  obtain ⟨earlier, drawing, rest, st, rfl, reached, listed, past, bound⟩ := drawn
  exact ⟨earlier, drawing, rest ++ [act], st, by simp, reached, listed,
    Int.le_trans past order, bound⟩

theorem drawnBefore_now {cfg : Config} {start : Int} {acts : List Action} {st : State}
    {act : Action} {k : Credential} {time : Int} (reached : run cfg (init start) acts = some st)
    (listed : k ∈ drawnAt cfg st act) (bound : time ≤ st.world.now + seconds (ttl k)) :
    DrawnBefore cfg start (acts ++ [act]) k st.world.now time :=
  ⟨acts, act, [], st, rfl, reached, listed, Int.le_refl _, bound⟩

/-! ## What a task carries -/

theorem carried_request (w : World) (r : Request) : carried ⟨startRequest w r, none⟩ = [] := by
  have starts := startRequest_starts w r
  generalize startRequest w r = f at starts ⊢
  cases starts <;> rfl

theorem carried_raised (f : Frame) (a : Answer) (failure : a = .raised) :
    carried ⟨f, some a⟩ ⊆ carried ⟨f, none⟩ := by
  subst failure
  cases f <;> simp [carried]

/-- What an operation answers it has found in the database. -/
theorem carried_executed {db : Db} {f : Frame} {op : DbOp} (awaits : frameOp f = some op) {r : Row}
    (mine : r ∈ carried ⟨f, some (db.perform op).2⟩) : r ∈ carried ⟨f, none⟩ ∨ db.holds r := by
  cases f with
  | loadingTransaction id upstreamCode =>
      obtain rfl := Option.some.inj awaits
      cases found : db.transactions.get? id with
      | none => simp [carried, Db.perform, found] at mine
      | some row =>
          simp only [carried, Db.perform, found, List.mem_singleton] at mine
          subst mine
          exact Or.inr (Table.mem_of_get? found).1
  | loadingCode client grant =>
      obtain rfl := Option.some.inj awaits
      cases found : db.codes.get? grant.code with
      | none => simp [carried, Db.perform, found] at mine
      | some row =>
          simp only [carried, Db.perform, found, List.mem_singleton] at mine
          subst mine
          exact Or.inr (Table.mem_of_get? found).1
  | loadingRefresh client grant =>
      obtain rfl := Option.some.inj awaits
      cases found : db.refreshTokens.get? grant.refreshToken with
      | none => simp [carried, Db.perform, found] at mine
      | some row =>
          simp only [carried, Db.perform, found, List.mem_singleton] at mine
          subst mine
          exact Or.inr (Table.mem_of_get? found).1
  | loadingAccess token =>
      obtain rfl := Option.some.inj awaits
      cases found : db.accessTokens.get? token with
      | none => simp [carried, Db.perform, found] at mine
      | some row =>
          simp only [carried, Db.perform, found, List.mem_singleton] at mine
          subst mine
          exact Or.inr (Table.mem_of_get? found).1
  | validating | exchangingUpstream | sleeping | finished => contradiction
  | _ => exact Or.inl mine

theorem holds_of_inserts {f : Frame} {op : DbOp} (awaits : frameOp f = some op) {r : Row}
    (inserts : op.inserts = some r) : r ∈ carried ⟨f, none⟩ := by
  cases f with
  | creatingTransaction | creatingCode | creatingAccess | creatingRefresh =>
      obtain rfl := Option.some.inj awaits
      obtain rfl := Option.some.inj inserts
      simp [carried]
  | validating | exchangingUpstream | sleeping | finished => contradiction
  | _ =>
      obtain rfl := Option.some.inj awaits
      contradiction

theorem seconds_wholeSeconds_le {t : Int} (epoch : 0 < t) : seconds (wholeSeconds t) ≤ t := by
  have bound := Int.tdiv_mul_le t (b := 1000000) (by decide)
  rw [if_pos (Int.le_of_lt epoch)] at bound
  unfold seconds wholeSeconds
  omega

theorem issueTokens_now {cfg : Config} {w w' : World} {exchange exchange' : Exchange}
    {clientId : String} {scopes : List String} {user : User} {issue : Issue}
    (h : issueTokens cfg w exchange clientId scopes user = (w', .creatingAccess exchange' issue)) :
    issue.now = wholeSeconds w.now := by
  unfold issueTokens at h
  split at h
  next => exact absurd (congrArg Prod.snd h) (by simp)
  next =>
    have same := congrArg Prod.snd h
    simp only [Frame.creatingAccess.injEq] at same
    rw [← same.2]

theorem issue_rows {w : World} {f : Frame} {exchange : Exchange} {issue : Issue}
    (epoch : 0 < w.now) (now : issue.now = wholeSeconds w.now)
    (drawn : draws f (.creatingAccess exchange issue) =
      [.access issue.access, .refresh issue.refresh]) {r : Row}
    (mine : r ∈ carried ⟨.creatingAccess exchange issue, none⟩) :
    r.credential ∈ draws f (.creatingAccess exchange issue) ∧
      r.expiresAt ≤ w.now + seconds (ttl r.credential) := by
  have whole := seconds_wholeSeconds_le epoch
  have split (n : Int) :
      seconds (wholeSeconds w.now + n) = seconds (wholeSeconds w.now) + seconds n :=
    Int.add_mul ..
  simp only [carried, List.mem_cons, List.not_mem_nil, or_false] at mine
  rcases mine with rfl | rfl
  · refine ⟨by simp [drawn, Row.credential, Issue.accessRow, Issue.row], ?_⟩
    simp only [Row.expiresAt, Issue.accessRow, Issue.row, userGrant, now, split, Row.credential,
      ttl]
    omega
  · refine ⟨by simp [drawn, Row.credential, Issue.refreshRow, Issue.row], ?_⟩
    simp only [Row.expiresAt, Issue.refreshRow, Issue.row, userGrant, now, split, Row.credential,
      ttl]
    omega

/-- What a task carries on it has carried before, or has just drawn. -/
theorem carried_resumed {cfg : Config} {w w' : World} {f f' : Frame} {a : Answer}
    {stored : Option Answer} (epoch : 0 < w.now) (given : stored = some a ∨ frameOp f = none)
    (h : resumeFrame cfg w f a = some (w', f')) {r : Row} (mine : r ∈ carried ⟨f', none⟩) :
    r ∈ carried ⟨f, stored⟩ ∨
      r.credential ∈ draws f f' ∧ r.expiresAt ≤ w.now + seconds (ttl r.credential) := by
  cases resumeFrame_cases h with
  | authorizing client params =>
      obtain rfl := List.mem_singleton.mp mine
      exact Or.inr ⟨by simp [draws, Row.credential], Int.le_refl _⟩
  | identified transaction upstreamCode user =>
      obtain rfl := List.mem_singleton.mp mine
      exact Or.inr ⟨by simp [draws, Row.credential], Int.le_refl _⟩
  | loadedTransaction id upstreamCode transaction =>
      obtain rfl := given.resolve_right (by simp [frameOp])
      exact Or.inl mine
  | deletedCode client code n issue =>
      exact Or.inr (issue_rows epoch (issueTokens_now (Option.some.inj h)) rfl mine)
  | deletedRefresh client token scopes n issue =>
      exact Or.inr (issue_rows epoch (issueTokens_now (Option.some.inj h)) rfl mine)
  | createdAccess exchange issue =>
      obtain rfl := List.mem_singleton.mp mine
      exact Or.inl (by simp [carried])
  | deletedTransaction | loadedCode | loadedRefresh | loadedExpired | revokedAccess | purged
  | purgedAll | slept | finished | withoutSub => contradiction

/-! ## Along a run -/

theorem passed_eq_some {cfg : Config} {st : State} {act : Action} {p : Nat} {f f' : Frame}
    {a : Answer} {w : World} (resumed : st.resumed act = some (p, f, a))
    (effect : resumeFrame cfg st.world f a = some (w, f')) : passed cfg st act = some (f, f') := by
  rw [passed, resumed, Option.bind_some, effect, Option.map_some]

theorem dated_init (cfg : Config) {start : Int} (epoch : 0 < start) :
    Dated cfg start [] (init start) where
  epoch := epoch
  stored := by
    intro r holds
    cases r <;> contradiction
  carried := by simp [init]

theorem Dated.moved {cfg : Config} {start : Int} {acts : List Action} {st : State} {act : Action}
    {p : Nat} {f f' : Frame} {a : Answer} {stored : Option Answer} {w : World}
    (dated : Dated cfg start acts st) (reached : run cfg (init start) acts = some st)
    (task : st.tasks[p]? = some ⟨f, stored⟩) (given : stored = some a ∨ frameOp f = none)
    (resumed : st.resumed act = some (p, f, a))
    (effect : resumeFrame cfg st.world f a = some (w, f')) :
    Dated cfg start (acts ++ [act]) { st.setTask p ⟨f', none⟩ with world := w } := by
  have now : w.now = st.world.now := now_resumed effect
  have kept {r : Row} (drawn : DrawnBefore cfg start acts r.credential st.world.now r.expiresAt) :
      DrawnBefore cfg start (acts ++ [act]) r.credential w.now r.expiresAt :=
    drawn.more act (Int.le_of_eq now.symm)
  refine ⟨now ▸ dated.epoch, fun r holds => kept (dated.stored r holds), ?_⟩
  intro q t task' r mine
  rcases getElem?_set_cases task' with ⟨rfl, rfl⟩ | ⟨-, old⟩
  · rcases carried_resumed dated.epoch given effect mine with before | ⟨drawn, bound⟩
    · exact kept (dated.carried q _ task r before)
    · have listed : r.credential ∈ drawnAt cfg st act := by
        rw [drawnAt, passed_eq_some resumed effect]
        exact drawn
      rw [now]
      exact drawnBefore_now reached listed bound
  · exact kept (dated.carried q t old r mine)

theorem Dated.step {cfg : Config} {start : Int} {acts : List Action} {st st' : State}
    {act : Action} (dated : Dated cfg start acts st) (reached : run cfg (init start) acts = some st)
    (forward : st.world.now ≤ clock st.world.now act) (taken : step cfg st act = some st') :
    Dated cfg start (acts ++ [act]) st' := by
  have kept {r : Row} (drawn : DrawnBefore cfg start acts r.credential st.world.now r.expiresAt) :
      DrawnBefore cfg start (acts ++ [act]) r.credential st.world.now r.expiresAt :=
    drawn.more act (Int.le_refl _)
  cases step_cases taken with
  | request request =>
      refine ⟨dated.epoch, fun r holds => kept (dated.stored r holds), ?_⟩
      intro q t task r mine
      rcases getElem?_spawn_cases task with ⟨-, rfl⟩ | old
      · exact absurd mine (by simp [provider, carried_request])
      · exact kept (dated.carried q t old r mine)
  | tick time =>
      have order : st.world.now ≤ time := forward
      refine ⟨Int.lt_of_lt_of_le dated.epoch order, fun r holds => ?_, fun q t task r mine => ?_⟩
      · exact (dated.stored r holds).more _ order
      · exact (dated.carried q t task r mine).more _ order
  | raise p f op a task awaits effect =>
      refine ⟨dated.epoch, fun r holds => kept (dated.stored r holds), ?_⟩
      intro q t task' r mine
      rcases getElem?_set_cases task' with ⟨rfl, rfl⟩ | ⟨-, old⟩
      · have before := carried_raised f a (Option.some.inj effect).symm mine
        exact kept (dated.carried q _ task r before)
      · exact kept (dated.carried q t old r mine)
  | execute p f op db a task awaits effect =>
      obtain ⟨rfl, rfl⟩ := Prod.mk.inj (Option.some.inj effect)
      refine ⟨dated.epoch, fun r holds => ?_, fun q t task' r mine => ?_⟩
      · rcases holds_performed holds with before | now
        · exact kept (dated.stored r before)
        · exact kept (dated.carried p _ task r (holds_of_inserts awaits now))
      · rcases getElem?_set_cases task' with ⟨rfl, rfl⟩ | ⟨-, old⟩
        · rcases carried_executed awaits mine with before | found
          · exact kept (dated.carried q _ task r before)
          · exact kept (dated.stored r found)
        · exact kept (dated.carried q t old r mine)
  | resume p f f' a w task effect =>
      exact dated.moved reached task (Or.inl rfl) (State.resumed_resume task) effect
  | answer p f f' a w task awaits effect =>
      exact dated.moved reached task (Or.inr awaits) (State.resumed_answer a task) effect

theorem Forward.concat {now : Int} {acts : List Action} {act : Action}
    (forward : Forward now (acts ++ [act])) :
    Forward now acts ∧ acts.foldl clock now ≤ clock (acts.foldl clock now) act := by
  induction acts generalizing now with
  | nil => exact ⟨trivial, forward.1⟩
  | cons first acts ih =>
      obtain ⟨rest, last⟩ := ih forward.2
      exact ⟨⟨forward.1, rest⟩, last⟩

theorem now_step {cfg : Config} {st st' : State} {act : Action}
    (taken : step cfg st act = some st') : st'.world.now = clock st.world.now act := by
  cases step_cases taken with
  | request | tick | raise | execute => rfl
  | resume p f f' a w task effect => exact now_resumed effect
  | answer p f f' a w task awaits effect => exact now_resumed effect

theorem now_run {cfg : Config} {start : Int} {acts : List Action} {st : State}
    (reached : run cfg (init start) acts = some st) : st.world.now = acts.foldl clock start := by
  induction acts using List.reverseRecOn generalizing st with
  | nil =>
      obtain rfl := Option.some.inj reached
      rfl
  | append_singleton acts act ih =>
      obtain ⟨before, first, last⟩ := Runs.run_concat.mp reached
      rw [now_step last, ih first, List.foldl_append, List.foldl_cons, List.foldl_nil]

theorem dated_run {cfg : Config} {start : Int} (epoch : 0 < start) {acts : List Action}
    (forward : Forward start acts) {st : State} (reached : run cfg (init start) acts = some st) :
    Dated cfg start acts st := by
  induction acts using List.reverseRecOn generalizing st with
  | nil =>
      obtain rfl := Option.some.inj reached
      exact dated_init cfg epoch
  | append_singleton acts act ih =>
      obtain ⟨before, first, last⟩ := Runs.run_concat.mp reached
      obtain ⟨earlier, order⟩ := forward.concat
      rw [← now_run first] at order
      exact (ih earlier first).step first order last

/-! ## What is accepted -/

/-- What is accepted is of a row that the task carries, and has not expired. -/
theorem accepted_cases {cfg : Config} (rejects : RejectsExpired cfg) {w w' : World} {f f' : Frame}
    {a : Answer} {stored : Option Answer} (epoch : 0 < w.now)
    (given : stored = some a ∨ frameOp f = none) (h : resumeFrame cfg w f a = some (w', f'))
    {k : Credential} (accepted : accepts f f' = some k) :
    ∃ r ∈ carried ⟨f, stored⟩, r.credential = k ∧ w.now ≤ r.expiresAt := by
  cases resumeFrame_cases h with
  | deletedTransaction transaction upstreamCode n live =>
      obtain rfl := Option.some.inj accepted
      exact ⟨.transaction transaction, by simp [carried], rfl, Int.not_lt.mp live⟩
  | loadedCode client grant row fine =>
      obtain rfl := given.resolve_right (by simp [frameOp])
      obtain rfl := Option.some.inj accepted
      exact ⟨.code row, by simp [carried], rfl, Int.not_lt.mp (rejects.code _ _ _ _ fine)⟩
  | loadedRefresh client grant row scopes fine =>
      obtain rfl := given.resolve_right (by simp [frameOp])
      obtain rfl := Option.some.inj accepted
      refine ⟨.refresh row, by simp [carried], rfl, Int.not_lt.mp fun expired => ?_⟩
      exact rejects.refresh _ _ _ _ _ fine (seconds_wholeSeconds_lt epoch expired)
  | finished f a o =>
      cases f with
      | loadingAccess token =>
          obtain rfl := given.resolve_right (by simp [frameOp])
          cases a with
          | token found =>
              cases found with
              | none =>
                  obtain rfl := Frame.finished.inj (Prod.mk.inj (Option.some.inj h)).2
                  contradiction
              | some row =>
                  simp only [resumeFrame] at h
                  split at h
                  next => exact absurd h (by simp)
                  next live =>
                    obtain rfl := Frame.finished.inj (Prod.mk.inj (Option.some.inj h)).2
                    obtain rfl := Option.some.inj accepted
                    exact ⟨.access row, by simp [carried], rfl, Int.not_lt.mp live⟩
          | raised =>
              obtain rfl := Frame.finished.inj (Prod.mk.inj (Option.some.inj h)).2
              contradiction
          | _ => contradiction
      | _ => contradiction
  | withoutSub f n => cases f <;> contradiction
  | _ => contradiction

theorem drawn_in_time {cfg : Config} (rejects : RejectsExpired cfg) {start : Int}
    (epoch : 0 < start) {acts : List Action} (forward : Forward start acts) {st st' : State}
    (reached : run cfg (init start) acts = some st) {act : Action}
    (taken : step cfg st act = some st') {k : Credential}
    (accepted : acceptedAt cfg st act = some k) :
    DrawnBefore cfg start acts k st.world.now st.world.now := by
  have dated := dated_run epoch forward reached
  have known {p : Nat} {f f' : Frame} {a : Answer} {stored : Option Answer} {w : World}
      (task : st.tasks[p]? = some ⟨f, stored⟩) (given : stored = some a ∨ frameOp f = none)
      (resumed : st.resumed act = some (p, f, a))
      (effect : resumeFrame cfg st.world f a = some (w, f')) :
      DrawnBefore cfg start acts k st.world.now st.world.now := by
    rw [acceptedAt, passed_eq_some resumed effect, Option.bind_some] at accepted
    obtain ⟨r, mine, rfl, live⟩ := accepted_cases rejects dated.epoch given effect accepted
    obtain ⟨earlier, drawing, later, s, cut, before, listed, past, bound⟩ :=
      dated.carried p _ task r mine
    exact ⟨earlier, drawing, later, s, cut, before, listed, past, Int.le_trans live bound⟩
  cases step_cases taken with
  | request | tick | raise | execute => contradiction
  | resume p f f' a w task effect =>
      exact known task (Or.inl rfl) (State.resumed_resume task) effect
  | answer p f f' a w task awaits effect =>
      exact known task (Or.inr awaits) (State.resumed_answer a task) effect

/-! ## What has been presented for it -/

/-- The credential with which a task has come so far that it draws the next ones. -/
def presented : Frame → Option Credential
  | .exchangingUpstream transaction _ => some (.transaction transaction.id)
  | .deletingCode _ code => some (.code code.code)
  | .deletingRefresh _ token _ => some (.refresh token.token)
  | _ => none

/-- The credential for which an action draws others: the one that its task has presented. -/
def presentedAt (cfg : Config) (st : State) (act : Action) : Option Credential :=
  (passed cfg st act).bind fun frames => presented frames.1

/-- An earlier action of this task has accepted the credential. -/
def AcceptedBefore (cfg : Config) (start : Int) (acts : List Action) (p : Nat)
    (k : Credential) : Prop :=
  ∃ earlier act later st st', acts = earlier ++ act :: later ∧
    run cfg (init start) earlier = some st ∧ step cfg st act = some st' ∧
      act.actor = some p ∧ acceptedAt cfg st act = some k

def PresentedBefore (cfg : Config) (start : Int) (acts : List Action) (st : State) : Prop :=
  ∀ (p : Nat) (t : Task), st.tasks[p]? = some t → ∀ k, presented t.frame = some k →
    AcceptedBefore cfg start acts p k

theorem AcceptedBefore.more {cfg : Config} {start : Int} {acts : List Action} {p : Nat}
    {k : Credential} (accepted : AcceptedBefore cfg start acts p k) (act : Action) :
    AcceptedBefore cfg start (acts ++ [act]) p k := by
  obtain ⟨earlier, accepting, later, st, st', rfl, reached, taken, own, good⟩ := accepted
  exact ⟨earlier, accepting, later ++ [act], st, st', by simp, reached, taken, own, good⟩

theorem presented_request (w : World) (r : Request) : presented (startRequest w r) = none := by
  have starts := startRequest_starts w r
  generalize startRequest w r = f at starts ⊢
  cases starts <;> rfl

theorem accepts_of_presented {cfg : Config} {w w' : World} {f f' : Frame} {a : Answer}
    (h : resumeFrame cfg w f a = some (w', f')) {k : Credential} (mine : presented f' = some k) :
    accepts f f' = some k := by
  cases resumeFrame_cases h with
  | deletedTransaction | loadedCode | loadedRefresh => exact mine
  | _ => contradiction

theorem presented_of_draws {cfg : Config} {w w' : World} {f f' : Frame} {a : Answer}
    (h : resumeFrame cfg w f a = some (w', f')) {k : Credential} (drawn : k ∈ draws f f') :
    (∃ id, k = .transaction id) ∨ ∃ source, presented f = some source := by
  cases resumeFrame_cases h with
  | authorizing client params => exact Or.inl ⟨_, List.mem_singleton.mp drawn⟩
  | identified | deletedCode | deletedRefresh => exact Or.inr ⟨_, rfl⟩
  | finished f a o => cases f <;> contradiction
  | withoutSub f n => cases f <;> contradiction
  | _ => contradiction

theorem presentedBefore_step {cfg : Config} {start : Int} {acts : List Action} {st st' : State}
    {act : Action} (before : PresentedBefore cfg start acts st)
    (reached : run cfg (init start) acts = some st) (taken : step cfg st act = some st') :
    PresentedBefore cfg start (acts ++ [act]) st' := by
  have moved {p : Nat} {f f' : Frame} {a : Answer} {w : World}
      (resumed : st.resumed act = some (p, f, a))
      (effect : resumeFrame cfg st.world f a = some (w, f')) {k : Credential}
      (mine : presented f' = some k) : AcceptedBefore cfg start (acts ++ [act]) p k := by
    refine ⟨acts, act, [], st, st', rfl, reached, taken, State.resumed_actor resumed, ?_⟩
    rw [acceptedAt, passed_eq_some resumed effect]
    exact accepts_of_presented effect mine
  intro q t task' k mine
  cases step_cases taken with
  | request request =>
      rcases getElem?_spawn_cases task' with ⟨-, rfl⟩ | old
      · exact absurd mine (by simp [provider, presented_request])
      · exact (before q t old k mine).more _
  | tick time => exact (before q t task' k mine).more _
  | raise p f op a task | execute p f op db a task =>
      rcases getElem?_set_cases task' with ⟨rfl, rfl⟩ | ⟨-, old⟩
      · exact (before q _ task k mine).more _
      · exact (before q t old k mine).more _
  | resume p f f' a w task effect =>
      rcases getElem?_set_cases task' with ⟨rfl, rfl⟩ | ⟨-, old⟩
      · exact moved (State.resumed_resume task) effect mine
      · exact (before q t old k mine).more _
  | answer p f f' a w task awaits effect =>
      rcases getElem?_set_cases task' with ⟨rfl, rfl⟩ | ⟨-, old⟩
      · exact moved (State.resumed_answer a task) effect mine
      · exact (before q t old k mine).more _

theorem presentedBefore_run {cfg : Config} {start : Int} {acts : List Action} {st : State}
    (reached : run cfg (init start) acts = some st) : PresentedBefore cfg start acts st := by
  induction acts using List.reverseRecOn generalizing st with
  | nil =>
      obtain rfl := Option.some.inj reached
      simp [PresentedBefore, init]
  | append_singleton acts act ih =>
      obtain ⟨before, first, last⟩ := Runs.run_concat.mp reached
      exact presentedBefore_step (ih first) first last

/-! ## Back to the login -/

/-- A credential is good at a time, and the task that drew it did so for one that it had accepted
while that was good, and so on from the login. -/
inductive Good (cfg : Config) (start : Int) : List Action → Int → Credential → Prop
  | login {acts : List Action} {now : Int} {id : String}
      (drawn : DrawnBefore cfg start acts (.transaction id) now now) :
      Good cfg start acts now (.transaction id)
  | drawnFor {earlier later first between : List Action} {drawing accepting : Action}
      {st s : State} {now : Int} {k source : Credential}
      (reached : run cfg (init start) earlier = some st) (drawn : k ∈ drawnAt cfg st drawing)
      (past : st.world.now ≤ now) (bound : now ≤ st.world.now + seconds (ttl k))
      (drawnFor : presentedAt cfg st drawing = some source)
      (cut : earlier = first ++ accepting :: between)
      (before : run cfg (init start) first = some s)
      (accepted : acceptedAt cfg s accepting = some source)
      (sameTask : accepting.actor = drawing.actor)
      (good : Good cfg start first s.world.now source) :
      Good cfg start (earlier ++ drawing :: later) now k

theorem drawnAt_cases {cfg : Config} {start : Int} {acts : List Action} {st : State} {act : Action}
    {k : Credential} (reached : run cfg (init start) acts = some st)
    (drawn : k ∈ drawnAt cfg st act) :
    (∃ id, k = .transaction id) ∨ ∃ source p, presentedAt cfg st act = some source ∧
      act.actor = some p ∧ AcceptedBefore cfg start acts p source := by
  cases resumed : st.resumed act with
  | none => simp [drawnAt, passed, resumed] at drawn
  | some moved =>
      obtain ⟨p, f, a⟩ := moved
      cases effect : resumeFrame cfg st.world f a with
      | none => simp [drawnAt, passed, resumed, effect] at drawn
      | some next =>
          rw [drawnAt, passed_eq_some resumed effect] at drawn
          rcases presented_of_draws effect drawn with login | ⟨source, mine⟩
          · exact Or.inl login
          · obtain ⟨t, task, rfl⟩ := Option.map_eq_some_iff.mp (State.resumed_frame? resumed)
            refine Or.inr ⟨source, p, ?_, State.resumed_actor resumed,
              presentedBefore_run reached p t task source mine⟩
            rw [presentedAt, passed_eq_some resumed effect]
            exact mine

theorem forward_append {now : Int} {acts later : List Action}
    (forward : Forward now (acts ++ later)) : Forward now acts := by
  induction acts generalizing now with
  | nil => trivial
  | cons act acts ih => exact ⟨forward.1, ih forward.2⟩

/-- A credential is accepted only as long as it is good, counted from when it was drawn, and so
was each that it goes back to. -/
theorem accepted_good {cfg : Config} (rejects : RejectsExpired cfg) {start : Int}
    (epoch : 0 < start) {acts : List Action} (forward : Forward start acts) {st st' : State}
    (reached : run cfg (init start) acts = some st) {act : Action}
    (taken : step cfg st act = some st') {k : Credential}
    (accepted : acceptedAt cfg st act = some k) :
    Good cfg start acts st.world.now k := by
  induction length : acts.length using Nat.strongRecOn generalizing acts st st' act k with
  | ind n ih =>
      have drawn := drawn_in_time rejects epoch forward reached taken accepted
      obtain ⟨earlier, drawing, later, s, rfl, before, listed, past, bound⟩ := drawn
      rcases drawnAt_cases before listed with ⟨id, rfl⟩ | ⟨source, p, mine, own, accepting⟩
      · exact .login ⟨earlier, drawing, later, s, rfl, before, listed, past, bound⟩
      · obtain ⟨first, other, between, u, u', rfl, reached', taken', own', accepted'⟩ := accepting
        refine .drawnFor before listed past bound mine rfl reached' accepted'
          (own'.trans own.symm) ?_
        have shorter : first.length < n := by
          rw [← length]
          simp
        exact ih _ shorter (forward_append (forward_append forward)) reached' taken' accepted' rfl

namespace Sample

/-- A login, and an exchange of its code after four minutes that is about to be accepted. -/
def exchangedInTime : List Action :=
  login ++ [.tick (seconds 240), .request exchange, .execute 2]

end Sample

theorem accepted_good_exchange :
    ∃ st, run Sample.strictConfig (init 1) Sample.exchangedInTime = some st ∧
      acceptedAt Sample.strictConfig st (.resume 2) = some (.code "aa") ∧
        Good Sample.strictConfig 1 Sample.exchangedInTime st.world.now (.code "aa") := by
  have accepting : (run Sample.strictConfig (init 1) Sample.exchangedInTime).bind
      (fun st => acceptedAt Sample.strictConfig st (.resume 2)) = some (.code "aa") := by decide
  have goes : ((run Sample.strictConfig (init 1) Sample.exchangedInTime).bind
      fun st => step Sample.strictConfig st (.resume 2)).isSome = true := by decide
  obtain ⟨st, reached, accepted⟩ := Option.bind_eq_some_iff.mp accepting
  rw [reached, Option.bind_some] at goes
  obtain ⟨st', taken⟩ := Option.isSome_iff_exists.mp goes
  have forward : Forward 1 Sample.exchangedInTime := by decide
  exact ⟨st, reached, accepted,
    accepted_good Sample.strictConfig_rejects (by decide) forward reached taken accepted⟩

end StreamingPortal.Mcp
