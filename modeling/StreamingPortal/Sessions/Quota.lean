import StreamingPortal.Sessions.Terminal

set_option autoImplicit false

/-! # The instance quota -/

namespace StreamingPortal.Sessions

open Tasks

def runningQuery (user app : String) : SessionQuery := ⟨some aliveStatuses, some app, some user⟩

def Db.running (db : Db) (user app : String) : Nat :=
  -- The sessions of a user on an application that are CONNECTING, ACTIVE or IDLE.
  db.sessions.count (runningQuery user app).matches

def WithinQuota (cfg : Config) (db : Db) : Prop :=
  ∀ user app, (db.running user app : Int) ≤ cfg.maxAppInstancesCount

theorem runningQuery_matches {user app : String} {row : SessionModel} :
    (runningQuery user app).matches row = true ↔
      row.status ∈ aliveStatuses ∧ row.appId = some app ∧ row.userId = user := by
  simp [runningQuery, SessionQuery.matches, and_assoc]

/-! ## What an operation does to a count -/

theorem running_save {db : Db} {s : SessionInstance} {row : SessionModel}
    (stored : db.sessions.get? s.row.id = some row) (fields : List Column) (user app : String) :
    (db.save s fields).running user app +
        (if (runningQuery user app).matches row then 1 else 0) =
      db.running user app +
        (if (runningQuery user app).matches (s.row.assign fields row) then 1 else 0) :=
  Table.count_update (f := s.row.assign fields) (fun _ => rfl) _ stored

theorem running_save_of_none {db : Db} {s : SessionInstance} {fields : List Column}
    (missing : db.sessions.get? s.row.id = none) (user app : String) :
    (db.save s fields).running user app = db.running user app :=
  Table.count_update_of_none (f := s.row.assign fields) (fun _ => rfl) _ missing

theorem running_createSession (db : Db) (row : SessionModel) (user app : String) :
    (db.createSession row).1.running user app ≤ db.running user app +
      (if (runningQuery user app).matches row then 1 else 0) := by
  unfold Db.createSession
  split
  next sessions inserted => exact Nat.le_of_eq (Table.count_insert _ inserted)
  next => simp

theorem running_setErrorIfNull (db : Db) (id error user app : String) :
    (db.setErrorIfNull id error).1.running user app = db.running user app := by
  unfold Db.setErrorIfNull
  split
  next row stored =>
    split
    · have moved := Table.count_update (f := fun r => { r with error := some error })
        (fun _ => rfl) (runningQuery user app).matches stored
      have same : (runningQuery user app).matches { row with error := some error } =
          (runningQuery user app).matches row := rfl
      rw [same] at moved
      simp only [Db.running]
      omega
    · rfl
  next => rfl

theorem running_save_le {db : Db} {s : SessionInstance} {fields : List Column}
    {row : SessionModel} (stored : db.sessions.get? s.row.id = some row)
    (keeps : row.status ∈ terminalStatuses → .status ∈ fields → s.row.status ∉ aliveStatuses)
    (user app : String) : (db.save s fields).running user app ≤ db.running user app := by
  have moved := running_save stored fields user app
  -- The save leaves owner and application alone, so a row that is counted after it was before.
  have fewer : (runningQuery user app).matches (s.row.assign fields row) = true →
      (runningQuery user app).matches row = true := by
    rw [runningQuery_matches, runningQuery_matches]
    rintro ⟨running, same⟩
    refine ⟨?_, same⟩
    by_contra ended
    rw [SessionModel.assign_status] at running
    split at running
    next saves => exact keeps (by simpa using mem_aliveStatuses.not.mp ended) saves running
    next => exact ended running
  by_cases after : (runningQuery user app).matches (s.row.assign fields row) = true
  · simp only [after, fewer after, if_true] at moved
    omega
  · simp only [after] at moved
    simp only [Bool.false_eq_true, if_false] at moved
    omega

theorem running_save_revived {db : Db} {s : SessionInstance} {fields : List Column}
    {row : SessionModel} {app : String} (stored : db.sessions.get? s.row.id = some row)
    (ended : row.status ∈ terminalStatuses) (saves : .status ∈ fields)
    (revives : s.row.status ∈ aliveStatuses) (appId : row.appId = some app) :
    (db.save s fields).running row.userId app = db.running row.userId app + 1 := by
  have moved := running_save stored fields row.userId app
  have before : (runningQuery row.userId app).matches row = false := by
    rw [Bool.eq_false_iff, ne_eq, runningQuery_matches]
    exact fun h => mem_aliveStatuses.mp h.1 ended
  have after : (runningQuery row.userId app).matches (s.row.assign fields row) = true := by
    rw [runningQuery_matches, SessionModel.assign_status, if_pos saves]
    exact ⟨revives, appId, rfl⟩
  simpa [before, after] using moved

/-! ## What `start_stream` knows inside its transaction -/

def Reserved (cfg : Config) (db : Db) (p : Nat) (s : StartRequest) (running : Nat) : Prop :=
  -- The transaction of `p` has counted `running` sessions, which leave room for one more.
  db.transaction = some p ∧ running = db.running s.user.sub s.appId ∧
    (running : Int) + 1 ≤ cfg.maxAppInstancesCount

def StartSound (cfg : Config) (db : Db) (p : Nat) (t : Task) : Prop :=
  match t.frame, t.answer with
  | .start (.entering _), some .done => db.transaction = some p
  | .start (.counting _), none => db.transaction = some p
  | .start (.counting s), some (.count n) =>
      db.transaction = some p ∧ n = db.running s.user.sub s.appId
  | .start (.gettingApp s running), some (.app (some app)) =>
      Reserved cfg db p s running ∧ app.id = s.appId
  | .start (.gettingApp s running), _ => Reserved cfg db p s running
  | .start (.posting s running app), _ => Reserved cfg db p s running ∧ app.id = s.appId
  | .start (.creating s running _ row _), none =>
      Reserved cfg db p s running ∧ row.userId = s.user.sub ∧ row.appId = some s.appId
  | _, _ => True

theorem startSound_of_kind {cfg : Config} {db : Db} {p : Nat} {t : Task}
    (other : t.frame.kind ≠ .start) : StartSound cfg db p t := by
  unfold StartSound
  split <;> first | trivial | simp_all [Frame.kind]

theorem StartSound.of_unblocked {cfg : Config} {db db' : Db} {p q : Nat} {t : Task}
    (exclusive : cfg.exclusiveTransactions = true) (sound : StartSound cfg db p t) (other : p ≠ q)
    (free : db.blocked cfg q = false) : StartSound cfg db' p t := by
  -- If `p` were inside its transaction, the operation of `q` would be blocked.
  have mine : db.transaction ≠ some p := by
    intro inside
    simp [Db.blocked, exclusive, inside, other] at free
  unfold StartSound at sound ⊢
  split at sound
  all_goals first
    | exact absurd sound mine
    | exact absurd sound.1 mine
    | exact absurd sound.1.1 mine
    | trivial

theorem startSound_execute {cfg : Config} {db : Db} {p : Nat} {f : Frame} {op : DbOp}
    (sound : StartSound cfg db p ⟨f, none⟩) (awaits : frameOp f = some op) :
    StartSound cfg (db.perform cfg p op).1 p ⟨f, some (db.perform cfg p op).2⟩ := by
  cases f with
  | start f =>
      cases f with
      | entering s =>
          obtain rfl := Option.some.inj awaits
          rfl
      | counting s =>
          obtain rfl := Option.some.inj awaits
          exact ⟨sound, rfl⟩
      | gettingApp s running =>
          obtain rfl := Option.some.inj awaits
          simp only [Db.perform]
          cases found : db.apps.get? s.appId with
          | none => exact sound
          | some app => exact ⟨sound, (Table.mem_of_get? found).2⟩
      | posting => contradiction
      | creating | leaving =>
          unfold StartSound
          split <;> first | trivial | simp_all
  | connect | ending | request | watch | finished =>
      exact startSound_of_kind (by simp [Frame.kind])

theorem startSound_raise {cfg : Config} {db : Db} {p : Nat} {f : Frame}
    (sound : StartSound cfg db p ⟨f, none⟩) : StartSound cfg db p ⟨f, some .raised⟩ := by
  unfold StartSound at sound ⊢
  split <;> first | trivial | simp_all

theorem startSound_startResume {cfg : Config} {db : Db} {w w' : World} {p : Nat} {f : StartFrame}
    {f' : Frame} {a : Answer} {stored : Option Answer}
    (sound : StartSound cfg db p ⟨.start f, stored⟩) (given : stored = some a ∨ startOp f = none)
    (h : startResume cfg w f a = some (w', f')) : StartSound cfg db p ⟨f', none⟩ := by
  cases startResume_cases h with
  | entered s =>
      obtain rfl := given.resolve_right (by simp [startOp])
      exact sound
  | counted s running room =>
      obtain rfl := given.resolve_right (by simp [startOp])
      exact ⟨sound.1, sound.2, by omega⟩
  | gotApp s running app =>
      obtain rfl := given.resolve_right (by simp [startOp])
      exact sound
  | started s running app r uuid nvcfRequestId =>
      obtain ⟨reserved, same⟩ := sound
      exact ⟨reserved, rfl, congrArg some same⟩
  | notEntered | full | noApp | notStarted | timedOut | created | left | raised => trivial

theorem startSound_resume {cfg : Config} {db : Db} {w w' : World} {p : Nat} {f f' : Frame}
    {a : Answer} {stored : Option Answer} (sound : StartSound cfg db p ⟨f, stored⟩)
    (given : stored = some a ∨ frameOp f = none)
    (h : resumeFrame cfg w p f a = some (w', f')) : StartSound cfg db p ⟨f', none⟩ := by
  cases f with
  | start f => exact startSound_startResume sound given h
  | connect | ending | request | watch | finished =>
      have kinds := resumeFrame_kind h
      refine startSound_of_kind fun isStart => ?_
      rw [isStart] at kinds
      simp [Frame.kind, Kind.next] at kinds

theorem FirstFrame.startSound {f : Frame} (first : FirstFrame f) (cfg : Config) (db : Db)
    (p : Nat) : StartSound cfg db p ⟨f, none⟩ := by
  cases first <;> trivial

/-! ## The quota along a run -/

structure QuotaInvariant (cfg : Config) (st : State) : Prop where
  copies : CopiesCurrent st
  starts : ∀ (p : Nat) (t : Task), st.tasks[p]? = some t → StartSound cfg st.store p t
  quota : WithinQuota cfg st.store

/--
A handler saves a running status over an end it has missed only while the user has
room for one more session on the application.
-/
def RevivesWithinQuota (cfg : Config) (st : State) : Action → State → Prop
  | .execute p, _ => ∀ f s fields row app, st.tasks[p]? = some ⟨f, none⟩ →
      frameOp f = some (.save s fields) → .status ∈ fields → s.row.status ∈ aliveStatuses →
        st.session? s.row.id = some row → row.appId = some app →
          ∀ last, savedSince st.store s = some last → last ∈ terminalStatuses →
            (st.store.running row.userId app : Int) + 1 ≤ cfg.maxAppInstancesCount
  | _, _ => True

theorem startsSound_step {cfg : Config} {st st' : State} {act : Action}
    (exclusive : cfg.exclusiveTransactions = true)
    (starts : ∀ (p : Nat) (t : Task), st.tasks[p]? = some t → StartSound cfg st.store p t)
    (taken : step cfg st act = some st') :
    ∀ (p : Nat) (t : Task), st'.tasks[p]? = some t → StartSound cfg st'.store p t := by
  cases step_cases taken with
  | request r =>
      exact forall_spawn ((startRequest_first cfg st.world r).startSound cfg st.store _) starts
  | execute p frame op db a task awaits effect =>
      obtain ⟨free, rfl, rfl⟩ := perform_of_effect effect
      refine forall_set (startSound_execute (starts p _ task) awaits) fun q t other old => ?_
      -- What another task has counted stays true because it holds the transaction.
      exact (starts q t old).of_unblocked exclusive other free
  | raise p frame op a task awaits effect =>
      obtain rfl := failure_raised effect
      exact forall_set (startSound_raise (starts p _ task)) fun q t _ => starts q t
  | resume p frame next a world task effect =>
      have moved := startSound_resume (starts p _ task) (Or.inl rfl) effect
      exact forall_set moved fun q t _ => starts q t
  | answer p frame next a world task awaits effect =>
      have moved := startSound_resume (starts p _ task) (Or.inr awaits) effect
      exact forall_set moved fun q t _ => starts q t
  | tick => exact starts

theorem withinQuota_perform {cfg : Config} {st : State} {p : Nat} {f : Frame} {op : DbOp}
    (inv : QuotaInvariant cfg st) (task : st.tasks[p]? = some ⟨f, none⟩)
    (awaits : frameOp f = some op)
    (within : ∀ s fields row app, op = .save s fields → .status ∈ fields →
      s.row.status ∈ aliveStatuses → st.session? s.row.id = some row → row.appId = some app →
        ∀ last, savedSince st.store s = some last → last ∈ terminalStatuses →
          (st.store.running row.userId app : Int) + 1 ≤ cfg.maxAppInstancesCount) :
    WithinQuota cfg (st.store.perform cfg p op).1 := by
  intro user app
  have before := inv.quota user app
  cases op with
  | save s fields =>
      simp only [Db.perform]
      cases stored : st.store.sessions.get? s.row.id with
      | none => rwa [running_save_of_none stored]
      | some row =>
          by_cases revives : row.status ∈ terminalStatuses ∧ .status ∈ fields ∧
              s.row.status ∈ aliveStatuses
          · -- A revived session counts again, and `within` has room for it.
            obtain ⟨ended, saves, running⟩ := revives
            have since := ended_after_read inv.copies task awaits saves stored ended
            have moved := running_save stored fields user app
            by_cases counted : (runningQuery user app).matches (s.row.assign fields row) = true
            · obtain ⟨-, appId, rfl⟩ := runningQuery_matches.mp counted
              have room := within s fields row app rfl saves running stored appId _ since ended
              rw [counted] at moved
              simp only [if_true, SessionModel.assign_userId] at moved room ⊢
              omega
            · simp only [counted, Bool.false_eq_true, if_false] at moved
              omega
          · have fewer := running_save_le stored
              (fun ended saves running => revives ⟨ended, saves, running⟩) user app
            omega
  | createSession row =>
      -- Only `start_stream` creates rows, and it has counted inside its transaction.
      have more := running_createSession st.store row user app
      obtain ⟨s, running, found, cookie, rfl⟩ :
          ∃ s running found cookie, f = .start (.creating s running found row cookie) := by
        cases f with
        | start f => cases f <;> simp_all [frameOp, startOp]
        | connect f => cases f <;> simp [frameOp, connectOp] at awaits
        | ending f => cases f <;> simp [frameOp, endOp] at awaits
        | request f => cases f <;> simp [frameOp, requestOp] at awaits
        | watch f => cases f <;> simp [frameOp, watchOp] at awaits
        | finished => simp [frameOp] at awaits
      obtain ⟨⟨-, counted, room⟩, sub, appId⟩ := inv.starts p _ task
      simp only [Db.perform]
      by_cases mine : (runningQuery user app).matches row = true
      · obtain ⟨-, sameApp, sameUser⟩ := runningQuery_matches.mp mine
        obtain rfl : s.appId = app := Option.some.inj (appId.symm.trans sameApp)
        obtain rfl : s.user.sub = user := sub.symm.trans sameUser
        simp only [mine, if_true] at more
        omega
      · simp only [mine, Bool.false_eq_true, if_false] at more
        omega
  | setErrorIfNull id error =>
      simp only [Db.perform]
      rwa [running_setErrorIfNull]
  | beginTransaction | endTransaction | getSession | timedOutSessions | expiredSessions
  | orphanedSessions | countSessions | fetchSessions | getApp => exact before

theorem withinQuota_step_iff {cfg : Config} {st st' : State} {act : Action}
    (inv : QuotaInvariant cfg st) (taken : step cfg st act = some st') :
    WithinQuota cfg st'.store ↔ RevivesWithinQuota cfg st act st' := by
  cases step_cases taken with
  | request | raise | resume | answer | tick => exact ⟨fun _ => trivial, fun _ => inv.quota⟩
  | execute p frame op db a task awaits effect =>
      obtain ⟨-, rfl, rfl⟩ := perform_of_effect effect
      constructor
      · -- The revived row makes the count one more than before the save.
        intro quota f s fields row app task' saving saves revives stored appId last since ended
        obtain rfl : frame = f := congrArg Task.frame (Option.some.inj (task.symm.trans task'))
        obtain rfl : op = .save s fields := Option.some.inj (awaits.symm.trans saving)
        obtain ⟨readAs, member, -⟩ := statusSave_held saving saves
        obtain ⟨-, row', read, stored', -, status⟩ :=
          inv.copies p _ task _ (List.mem_append_left _ member)
        obtain rfl : row = row' := Option.some.inj (stored.symm.trans stored')
        have rowLast : row.status = last := by simp [status, since]
        have after := quota row.userId app
        simp only [Db.perform] at after
        rw [running_save_revived stored (rowLast ▸ ended) saves revives appId] at after
        exact_mod_cast after
      · intro within
        refine withinQuota_perform inv task awaits ?_
        rintro s fields row app rfl saves revives stored appId last since ended
        exact within frame s fields row app task awaits saves revives stored appId last since ended

/-- In every state of the run, no user has more sessions of an application running than allowed. -/
def QuotaRespected (cfg : Config) (st : State) (acts : List Action) : Prop :=
  ∀ pre post t, acts = pre ++ post → run cfg st pre = some t → WithinQuota cfg t.store

theorem quotaInvariant_init {cfg : Config} {sessions : SessionTable} {apps : AppTable} {now : Int}
    (quota : WithinQuota cfg (init sessions apps now).store) :
    QuotaInvariant cfg (init sessions apps now) where
  copies := copiesCurrent_init sessions apps now
  starts := by
    intro p t task
    simp [init] at task
  quota := quota

/--
With exclusive transactions, a process that starts within the quota stays within it
along a run exactly when handlers that have missed the end of a session revive it
only while there is room.
-/
theorem quotaRespected_iff (cfg : Config) (sessions : SessionTable) (apps : AppTable) (now : Int)
    (acts : List Action) (exclusive : cfg.exclusiveTransactions = true)
    (quota : WithinQuota cfg (init sessions apps now).store) :
    QuotaRespected cfg (init sessions apps now) acts ↔
      Along cfg (RevivesWithinQuota cfg) (init sessions apps now) acts := by
  refine (Runs.along_iff_reached (fun st : State => WithinQuota cfg st.store) quota).symm.trans ?_
  refine Runs.along_iff (QuotaInvariant cfg) ?_ ?_ (quotaInvariant_init quota)
  · intro s act t inv revives taken
    exact ⟨copiesCurrent_step inv.copies taken, startsSound_step exclusive inv.starts taken,
      (withinQuota_step_iff inv taken).mpr revives⟩
  · intro s act t inv taken
    exact withinQuota_step_iff inv taken

theorem withinQuota_sample (endDate : Option Int) (now : Int) :
    WithinQuota (Sample.config 1) (Sample.start endDate now).store := by
  intro user app
  have bound : (Sample.start endDate now).store.running user app ≤ 1 :=
    List.countP_le_length
  simp only [Sample.config]
  omega

theorem quotaRespected_connect :
    QuotaRespected (Sample.config 1) (Sample.start none 0)
      (Sample.accepted 0 ++ [.execute 0, .resume 0, .execute 0]) := by
  refine (quotaRespected_iff (Sample.config 1) _ _ 0 _ rfl (withinQuota_sample none 0)).mpr ?_
  have noneMissed (st t : State) (p : Nat) (unsaved : st.store.journal = []) :
      RevivesWithinQuota (Sample.config 1) st (.execute p) t := by
    intro f s fields row app _ _ _ _ _ _ last since
    simp [savedSince, unsaved, lastSaved] at since
  intro t first
  obtain rfl := Option.some.inj first
  refine ⟨trivial, fun t second => ?_⟩
  obtain rfl := Option.some.inj second
  refine ⟨trivial, fun t third => ⟨noneMissed _ _ _ rfl, ?_⟩⟩
  obtain rfl := Option.some.inj third
  intro t fourth
  obtain rfl := Option.some.inj fourth
  exact ⟨trivial, fun t _ => ⟨noneMissed _ _ _ rfl, trivial⟩⟩

/--
A client connects; before CONNECTING is saved, the session is terminated and the
user starts another one on the application, which the quota of one allows.
-/
def startedWhileConnecting : List Action :=
  Sample.accepted 0 ++ [.execute 0,
    .request (.terminateSession Sample.user "session"), .execute 1, .resume 1,
    .answer 1 (.nvcf Sample.ok), .execute 1,
    .request (.startStream ⟨Sample.user, "app", "/sessions"⟩), .execute 2, .resume 2,
    .execute 2, .resume 2, .execute 2, .resume 2,
    .answer 2 (.nvcfStarted { Sample.ok with nvcfRequestId := some "next" } "session 2"),
    .execute 2, .resume 2, .execute 2, .resume 2]

theorem quotaRespected_fails :
    ¬ QuotaRespected (Sample.config 1) (Sample.start none 0)
      (startedWhileConnecting ++ [.resume 0, .execute 0]) := by
  intro respected
  have here := respected _ [] _ (List.append_nil _).symm rfl Sample.user.sub Sample.app.id
  exact absurd here (by decide)

end StreamingPortal.Sessions
