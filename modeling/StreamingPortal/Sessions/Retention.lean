import StreamingPortal.Sessions.Purge

set_option autoImplicit false

/-! # What the purge of ended sessions leaves unnoticed -/

namespace StreamingPortal.Sessions

open Tasks

/-! ## Two processes -/

structure Thinned (asked : List Request) (st : PurgeState) (full : State) : Prop where
  world : st.base.world = full.world
  thin : DbThin st.ids st.base.store full.store
  lengths : st.base.tasks.length = asked.length ∧ full.tasks.length = asked.length
  tasks : ∀ (p : Nat) (r : Request) (t t' : Task), asked[p]? = some r →
    st.base.tasks[p]? = some t → full.tasks[p]? = some t' → Alike st.ids r t t'

section Steps

variable {cfg : Config} {asked : List Request} {st : PurgeState} {full : State}

theorem purgeAttempt_base (act : Action) :
    purgeAttempt cfg st (.base act) = { st with base := attempt (backend cfg) st.base act } := by
  cases taken : Tasks.step (backend cfg) st.base act <;>
    simp [purgeAttempt, purgeStep, attempt, step, taken]

theorem alike_started (gone : List String) (w : World) (r : Request) :
    Alike gone r ⟨startRequest cfg w r, none⟩ ⟨startRequest cfg w r, none⟩ := by
  have first := startRequest_first cfg w r
  refine .same _ (fun id mine => ?_) (fun _ => frameSought_start) fun stored => absurd rfl stored
  have none_ : creates (startRequest cfg w r) = [] := by
    generalize startRequest cfg w r = f at first
    cases first <;> rfl
  simp [mem_heldIds, first.copies, none_] at mine

theorem Thinned.acted (inv : Thinned asked st full) {act : Action} {p : Nat}
    (actor : act.actor = some p)
    (drawn : ∀ uuid ∈ drawnId act, uuid ∉ st.ids) :
    Thinned asked (purgeAttempt cfg st (.base act)) (attempt (backend cfg) full act) := by
  obtain ⟨length, length'⟩ := inv.lengths
  rw [purgeAttempt_base]
  cases task : st.base.tasks[p]? with
  | none =>
      have task' : full.tasks[p]? = none := by
        rw [List.getElem?_eq_none_iff] at task ⊢
        omega
      rw [attempt_absent actor task, attempt_absent actor task']
      exact inv
  | some t =>
      have bound := (List.getElem?_eq_some_iff.mp task).1
      obtain ⟨t', task'⟩ : ∃ t', full.tasks[p]? = some t' :=
        ⟨_, List.getElem?_eq_getElem (by omega)⟩
      obtain ⟨r, request⟩ : ∃ r, asked[p]? = some r := ⟨_, List.getElem?_eq_getElem (by omega)⟩
      have next := alike_advance cfg p inv.thin st.base.world
        (inv.tasks p r t t' request task task') drawn
      rw [attempt_moveTask actor task, attempt_moveTask actor task', ← inv.world]
      refine ⟨next.world, next.thin, ⟨by simpa using length, by simpa using length'⟩, ?_⟩
      intro q r' u u' asked' here here'
      rcases getElem?_set_cases here with ⟨rfl, rfl⟩ | ⟨other, old⟩
      · obtain rfl := Option.some.inj (request.symm.trans asked')
        rcases getElem?_set_cases here' with ⟨-, rfl⟩ | ⟨other, -⟩
        · exact next.alike
        · exact absurd rfl other
      · rcases getElem?_set_cases here' with ⟨same, -⟩ | ⟨-, old'⟩
        · exact absurd same other
        · exact inv.tasks q r' u u' asked' old old'

theorem Thinned.base (inv : Thinned asked st full) (act : Action)
    (drawn : ∀ uuid ∈ drawnId act, uuid ∉ st.ids) :
    Thinned (asked ++ act.request?.toList) (purgeAttempt cfg st (.base act))
      (attempt (backend cfg) full act) := by
  cases act with
  | execute p | raise p | resume p | answer p a =>
      simpa [Tasks.Action.request?] using inv.acted rfl drawn
  | tick time =>
      rw [purgeAttempt_base]
      have world : { st.base.world with now := time } = { full.world with now := time } := by
        rw [inv.world]
      have same : asked ++ (Tasks.Action.tick time : Action).request?.toList = asked :=
        List.append_nil asked
      rw [same]
      exact ⟨world, inv.thin, inv.lengths, inv.tasks⟩
  | request r =>
      rw [purgeAttempt_base]
      obtain ⟨length, length'⟩ := inv.lengths
      refine ⟨inv.world, inv.thin, ⟨?_, ?_⟩, ?_⟩
      · change (st.base.tasks ++ [_]).length = (asked ++ [r]).length
        simp [length]
      · change (full.tasks ++ [_]).length = (asked ++ [r]).length
        simp [length']
      · intro p r' t t' asked' here here'
        rcases getElem?_spawn_cases here with ⟨rfl, rfl⟩ | old
        · rw [length] at asked' here'
          rcases getElem?_spawn_cases here' with ⟨-, rfl⟩ | old'
          · obtain rfl : r = r' := by simpa [Tasks.Action.request?] using asked'
            change Alike _ r ⟨startRequest cfg st.base.world r, none⟩
              ⟨startRequest cfg full.world r, none⟩
            rw [← inv.world]
            exact alike_started _ _ r
          · have bound := (List.getElem?_eq_some_iff.mp old').1
            omega
        · have bound := (List.getElem?_eq_some_iff.mp old).1
          rcases getElem?_spawn_cases here' with ⟨rfl, -⟩ | old'
          · omega
          · rw [List.getElem?_append_left (by omega)] at asked'
            exact inv.tasks p r' t t' asked' old old'

theorem alike_mono {gone gone' : List String} {r : Request} {t t' : Task}
    (alike : Alike gone r t t') (more : ∀ id, id ∈ gone → id ∈ gone')
    (spared : ∀ id ∈ heldIds t, id ∈ gone' → id ∈ gone) : Alike gone' r t t' := by
  have past {s : SessionInstance} (past : Past gone s) : Past gone' s := ⟨more _ past.1, past.2⟩
  have wider {u : Task} (loose : Loose gone u) : Loose gone' u := by
    cases loose with
    | querying user id caller found all =>
        exact .querying user id caller found fun s is => past (all s is)
    | askingAdmin user id s caller here => exact .askingAdmin user id s caller (past here)
    | savingError s answer here => exact .savingError s answer (more _ here)
    | counting => exact .counting _ _ _ _
    | fetching => exact .fetching _ _ _ _ _
    | finished o => exact .finished o
  cases alike with
  | same _ held known stored =>
      exact .same t (fun id mine lost => held id mine (spared id mine lost)) known stored
  | refused f s waits ended => exact .refused f s waits ended
  | loose _ _ notices loose loose' =>
      exact .loose t t' (notices_mono notices more) (wider loose) (wider loose')

theorem Thinned.purged (inv : Thinned asked st full) {cutoff : Int} {purge : PurgeFrame}
    (careful : ∀ t ∈ st.base.tasks, ∀ row ∈ st.deleted cutoff, row.id ∉ heldIds t) :
    Thinned asked ⟨{ st.base with store := st.base.store.purge cutoff }, purge,
      st.gone ++ st.deleted cutoff⟩ full := by
  have ids : (⟨{ st.base with store := st.base.store.purge cutoff }, purge,
      st.gone ++ st.deleted cutoff⟩ : PurgeState).ids =
        st.ids ++ (st.base.store.sessions.select (purgeable cutoff)).map SessionModel.id :=
    List.map_append
  refine ⟨inv.world, ?_, inv.lengths, ?_⟩
  · rw [ids]
    refine ⟨inv.thin.apps, inv.thin.transaction, inv.thin.journal, inv.thin.rows.purge _, ?_⟩
    intro row stored lost
    rcases List.mem_append.mp lost with before | now
    · exact inv.thin.ended row stored before
    · obtain ⟨row', selected, same⟩ := List.mem_map.mp now
      obtain ⟨stored', ended⟩ := List.mem_filter.mp selected
      obtain rfl := Table.eq_of_key_eq (inv.thin.rows.mem.mp stored').1 stored same
      exact of_decide_eq_true (Bool.and_eq_true_iff.mp ended).1
  · intro p r t t' asked' here here'
    rw [ids]
    refine alike_mono (inv.tasks p r t t' asked' here here')
      (fun id lost => List.mem_append_left _ lost) fun id mine lost => ?_
    rcases List.mem_append.mp lost with before | now
    · exact before
    · obtain ⟨row, selected, rfl⟩ := List.mem_map.mp now
      exact absurd mine (careful t (List.mem_of_getElem? here) row selected)

theorem Thinned.purge_frame (inv : Thinned asked st full) (purge : PurgeFrame) :
    Thinned asked { st with purge := purge } full :=
  ⟨inv.world, inv.thin, inv.lengths, inv.tasks⟩

def PurgeAction.request? (act : PurgeAction) : Option Request :=
  act.base?.bind Tasks.Action.request?

theorem Thinned.step (inv : Thinned asked st full) (act : PurgeAction) (careful : Careful st act) :
    Thinned (asked ++ act.request?.toList) (purgeAttempt cfg st act)
      (fullAttempt cfg full act) := by
  cases act with
  | base act => exact inv.base act careful
  | wake retentionDays =>
      rw [show asked ++ (PurgeAction.wake retentionDays).request?.toList = asked
        from List.append_nil asked]
      cases purge : st.purge with
      | sleeping =>
          simp only [purgeAttempt, purgeStep, purge, Option.getD_some]
          exact inv.purge_frame _
      | deleting | finished =>
          simp only [purgeAttempt, purgeStep, purge, Option.getD_none]
          exact inv
  | raise =>
      rw [show asked ++ PurgeAction.raise.request?.toList = asked from List.append_nil asked]
      cases purge : st.purge with
      | deleting =>
          simp only [purgeAttempt, purgeStep, purge, Option.getD_some]
          exact inv.purge_frame _
      | sleeping | finished =>
          simp only [purgeAttempt, purgeStep, purge, Option.getD_none]
          exact inv
  | delete =>
      rw [show asked ++ PurgeAction.delete.request?.toList = asked from List.append_nil asked]
      cases purge : st.purge with
      | deleting cutoff =>
          simp only [purgeAttempt, purgeStep, purge]
          split
          · exact inv
          · exact inv.purged (careful cutoff (by rw [purge]; rfl))
      | sleeping | finished =>
          simp only [purgeAttempt, purgeStep, purge, Option.getD_none]
          exact inv

end Steps

/-! ## What is deleted -/

section Deleted

variable (cfg : Config) (start : PurgeState) (acts : List PurgeAction)

/-- The loop has started over at a moment that the retention set by then puts past this time. -/
def PastRetention (time : Int) : Prop :=
  ∃ earlier retentionDays later, acts = earlier ++ .wake retentionDays :: later ∧
    0 < retentionDays ∧
      time + days retentionDays ≤ (withPurge cfg start earlier).base.world.now

/-- The cutoff that is in use, and all rows that have been deleted, are past the retention. -/
structure Expired (st : PurgeState) : Prop where
  cutoff : ∀ cutoff, st.purge = .deleting cutoff → PastRetention cfg start acts cutoff
  gone : ∀ row ∈ st.gone, row.status ∈ terminalStatuses ∧
    PastRetention cfg start acts row.startDate

variable {cfg start acts} {st : PurgeState}

theorem PastRetention.more {time : Int} (past : PastRetention cfg start acts time)
    (act : PurgeAction) : PastRetention cfg start (acts ++ [act]) time := by
  obtain ⟨earlier, retentionDays, later, rfl, positive, passed⟩ := past
  exact ⟨earlier, retentionDays, later ++ [act], by simp, positive, passed⟩

theorem PastRetention.mono {time cutoff : Int} (past : PastRetention cfg start acts cutoff)
    (order : time ≤ cutoff) : PastRetention cfg start acts time := by
  obtain ⟨earlier, retentionDays, later, split, positive, passed⟩ := past
  exact ⟨earlier, retentionDays, later, split, positive, by omega⟩

theorem Expired.more (expired : Expired cfg start acts st) (act : PurgeAction) :
    Expired cfg start (acts ++ [act]) st where
  cutoff := fun cutoff deleting => (expired.cutoff cutoff deleting).more act
  gone := fun row inside => (expired.gone row inside).imp_right fun past => past.more act

theorem Expired.step (expired : Expired cfg start acts st) (reached : withPurge cfg start acts = st)
    (act : PurgeAction) : Expired cfg start (acts ++ [act]) (purgeAttempt cfg st act) := by
  have more := expired.more act
  unfold purgeAttempt
  cases taken : purgeStep cfg st act with
  | none => exact more
  | some st' =>
      rw [Option.getD_some]
      cases act with
      | base act =>
          obtain ⟨base, moved, rfl⟩ := Option.map_eq_some_iff.mp taken
          exact ⟨more.cutoff, more.gone⟩
      | wake retentionDays =>
          simp only [purgeStep] at taken
          split at taken
          next =>
            obtain rfl := Option.some.inj taken
            refine ⟨fun cutoff deleting => ?_, more.gone⟩
            simp only [watchSessionDataPurge] at deleting
            split at deleting
            next positive =>
              obtain rfl := PurgeFrame.deleting.inj deleting
              refine ⟨acts, retentionDays, [], rfl, positive, ?_⟩
              rw [reached]
              omega
            next => contradiction
          next => contradiction
      | delete =>
          simp only [purgeStep] at taken
          split at taken
          next cutoff deleting =>
            split at taken
            next => contradiction
            next =>
              obtain rfl := Option.some.inj taken
              refine ⟨fun cutoff sleeping => by contradiction, fun row inside => ?_⟩
              rcases List.mem_append.mp inside with before | now
              · exact more.gone row before
              · obtain ⟨-, purged⟩ := List.mem_filter.mp now
                obtain ⟨ended, old⟩ := Bool.and_eq_true_iff.mp purged
                exact ⟨of_decide_eq_true ended,
                  (more.cutoff cutoff deleting).mono (of_decide_eq_true old)⟩
          next => contradiction
      | raise =>
          simp only [purgeStep] at taken
          split at taken
          next =>
            obtain rfl := Option.some.inj taken
            exact ⟨fun cutoff finished => by contradiction, more.gone⟩
          next => contradiction

theorem withPurge_concat (act : PurgeAction) :
    withPurge cfg start (acts ++ [act]) = purgeAttempt cfg (withPurge cfg start acts) act := by
  rw [withPurge, List.foldl_append]
  rfl

theorem expired_run (sleeping : start.purge = .sleeping) (nothing : start.gone = []) :
    Expired cfg start acts (withPurge cfg start acts) := by
  induction acts using List.reverseRecOn with
  | nil =>
      refine ⟨fun cutoff deleting => ?_, fun row inside => ?_⟩
      · exact absurd (sleeping.symm.trans deleting) (by simp)
      · exact absurd (nothing ▸ inside) List.not_mem_nil
  | append_singleton acts act ih =>
      rw [withPurge_concat]
      exact ih.step rfl act

end Deleted

/-! ## Whole schedules -/

section Schedules

variable {cfg : Config} {sessions : SessionTable} {apps : AppTable} {now : Int}
variable {acts : List PurgeAction}

theorem thinned_run (careful : CarefulAlong cfg (purgeInit sessions apps now) acts) :
    Thinned (acts.filterMap PurgeAction.request?)
      (withPurge cfg (purgeInit sessions apps now) acts)
      (schedule cfg (init sessions apps now) (withoutPurge acts)) := by
  have start : Thinned [] (purgeInit sessions apps now) (init sessions apps now) := by
    refine ⟨rfl, ⟨rfl, rfl, rfl, ?_, by simp [PurgeState.ids, purgeInit]⟩, ⟨rfl, rfl⟩, by simp⟩
    simp [Table.Without, PurgeState.ids, purgeInit]
  rw [schedule_withoutPurge]
  have both := lockstep
    (R := fun rest st full => CarefulAlong cfg st rest ∧ ∃ asked,
      asked ++ rest.filterMap PurgeAction.request? = acts.filterMap PurgeAction.request? ∧
        Thinned asked st full)
    (f := purgeAttempt cfg) (g := fullAttempt cfg) ?_ ⟨careful, [], rfl, start⟩
  · obtain ⟨-, asked, all, inv⟩ := both
    rw [← all]
    simpa [withPurge] using inv
  · rintro act rest st full ⟨⟨here, later⟩, asked, all, inv⟩
    refine ⟨later, asked ++ act.request?.toList, ?_, inv.step act here⟩
    rw [← all, List.append_assoc]
    congr 1
    cases request : act.request? <;> simp [request]

/-- What all tasks see, but for those that list sessions or ask for one that has been purged. -/
structure Unnoticed (cfg : Config) (acts : List PurgeAction) (st : PurgeState) (full : State) :
    Prop where
  world : st.base.world = full.world
  rows : ∀ id, id ∉ st.ids → st.base.session? id = full.session? id
  ended : ∀ row ∈ st.gone, ∀ row', full.session? row.id = some row' →
    row'.status ∈ terminalStatuses
  frames : ∀ (p : Nat) (r : Request), (Tasks.requests (withoutPurge acts))[p]? = some r →
    r.notices st.ids = false → st.base.frame? p = full.frame? p

theorem unnoticed_run (careful : CarefulAlong cfg (purgeInit sessions apps now) acts) :
    Unnoticed cfg acts (withPurge cfg (purgeInit sessions apps now) acts)
      (schedule cfg (init sessions apps now) (withoutPurge acts)) := by
  have inv := thinned_run careful
  refine ⟨inv.world, fun id kept => inv.thin.rows.get?_kept kept, ?_, ?_⟩
  · intro row gone row' stored
    obtain ⟨member, named⟩ := Table.mem_of_get? stored
    exact inv.thin.ended row' member (named ▸ List.mem_map_of_mem gone)
  · intro p r request unaware
    have asked : (acts.filterMap PurgeAction.request?)[p]? = some r := by
      rw [← request, Tasks.requests, withoutPurge, List.filterMap_filterMap]
      rfl
    obtain ⟨bound, -⟩ := List.getElem?_eq_some_iff.mp asked
    obtain ⟨length, length'⟩ := inv.lengths
    obtain ⟨t, task⟩ : ∃ t, (withPurge cfg (purgeInit sessions apps now) acts).base.tasks[p]? =
        some t := ⟨_, List.getElem?_eq_getElem (by rw [length]; exact bound)⟩
    obtain ⟨t', task'⟩ :
        ∃ t', (schedule cfg (init sessions apps now) (withoutPurge acts)).tasks[p]? = some t' :=
      ⟨_, List.getElem?_eq_getElem (by rw [length']; exact bound)⟩
    rw [State.frame?_of_task task, State.frame?_of_task task']
    cases inv.tasks p r t t' asked task task' with
    | same => rfl
    | refused => rfl
    | loose _ _ notices => simp [unaware] at notices

/--
Only ended sessions past the retention are purged; and as long as no task holds a copy of a row
that goes, nobody notices who neither lists the sessions nor asks for one that is gone.
-/
theorem purge_unnoticed (cfg : Config) (sessions : SessionTable) (apps : AppTable) (now : Int)
    (acts : List PurgeAction) :
    let st := withPurge cfg (purgeInit sessions apps now) acts
    (∀ row ∈ st.gone, row.status ∈ terminalStatuses ∧
      PastRetention cfg (purgeInit sessions apps now) acts row.startDate) ∧
      (CarefulAlong cfg (purgeInit sessions apps now) acts →
        Unnoticed cfg acts st (schedule cfg (init sessions apps now) (withoutPurge acts))) :=
  ⟨(expired_run rfl rfl).gone, unnoticed_run⟩

end Schedules

def endedLongAgo : List PurgeAction :=
  -- A session is stopped and purged a month later; its owner connects again, and asks for it and
  -- for one that was never there.
  [.base (.request (.stopStream Sample.user "session" (some "nvcf"))), .base (.execute 0),
    .base (.resume 0), .base (.answer 0 (.nvcf Sample.ok)), .base (.execute 0), .base (.resume 0),
    .base (.tick (days 31)), .wake 30, .delete, .base (.request Sample.connect),
    .base (.answer 1 .done), .base (.execute 1), .base (.resume 1),
    .base (.request (.getSession Sample.user "other")), .base (.execute 2), .base (.resume 2)]

theorem purge_unnoticed_endedLongAgo :
    let st := withPurge (Sample.config 1) ⟨Sample.start none 0, .sleeping, []⟩ endedLongAgo
    let full := schedule (Sample.config 1) (Sample.start none 0) (withoutPurge endedLongAgo)
    st.base.session? "session" = none ∧ (full.session? "session").isSome = true ∧
      (∀ row ∈ st.gone, row.status ∈ terminalStatuses ∧
        PastRetention (Sample.config 1) ⟨Sample.start none 0, .sleeping, []⟩ endedLongAgo
          row.startDate) ∧
      Unnoticed (Sample.config 1) endedLongAgo st full := by
  refine ⟨by decide, by decide, ?_⟩
  have both := purge_unnoticed (Sample.config 1) (Sample.start none 0).store.sessions
    (Sample.start none 0).store.apps 0 endedLongAgo
  exact ⟨both.1, both.2 (by decide)⟩

end StreamingPortal.Sessions
