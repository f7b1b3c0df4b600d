import Mathlib.Data.List.Induction
import StreamingPortal.Apps.Catalogue
import StreamingPortal.Shared.Receipts
import StreamingPortal.Shared.Thin

set_option autoImplicit false

/-!
# Who is told that an application has been created or removed

Any number of callers may publish and delete one application at once, by request or by tool.
-/

namespace StreamingPortal.Apps.Catalogue

open Tasks

variable {υ : Type} [DecidableEq υ]

def present (id : String) (apps : PublishedApps υ) : Bool := (apps.get? id).isSome

def creates (b : Backend υ) (id : String) (apps : PublishedApps υ) (op : DbOp υ) : Bool :=
  !present id apps && present id (perform b apps op).1

def removes (b : Backend υ) (id : String) (apps : PublishedApps υ) (op : DbOp υ) : Bool :=
  present id apps && !present id (perform b apps op).1

def tellsCreated (id : String) : Task υ → Bool
  | ⟨.writing _, some (.written (.ok (row, created)))⟩ => row.id = id ∧ created
  | ⟨.gettingFunctions (.written _ row created), _⟩ => row.id = id ∧ created
  | ⟨.finished (.put response), _⟩ => response.content.app.id = id ∧ response.statusCode = 201
  | ⟨.finished (.published payload), _⟩ => payload.app.app.id = id ∧ payload.created
  | _ => false

def tellsRemoved (id : String) : Task υ → Bool
  | ⟨.deleting i _, some (.deletedCount n)⟩ => i = id ∧ n ≠ 0
  | ⟨.finished (.noContent i), _⟩ | ⟨.finished (.deleted i), _⟩ => i = id
  | _ => false

/-! ## What an operation makes of the presence of an application -/

section Effects

variable {b : Backend υ} {id : String} {apps apps' : PublishedApps υ}

omit [DecidableEq υ] in
variable (id apps) in
theorem present_count : apps.count (fun app => app.id = id) ≠ 0 ↔ present id apps = true := by
  rw [present, Option.isSome_iff_exists]
  constructor
  · intro some'
    obtain ⟨app, stored, named⟩ := List.countP_pos_iff.mp (Nat.pos_of_ne_zero some')
    exact ⟨app, Table.get?_eq_some_iff.mpr ⟨stored, by simpa using named⟩⟩
  · rintro ⟨app, found⟩
    obtain ⟨stored, named⟩ := Table.get?_eq_some_iff.mp found
    exact Nat.pos_iff_ne_zero.mp (List.countP_pos_iff.mpr ⟨app, stored, by simpa using named⟩)

omit [DecidableEq υ] in
theorem present_delete (i : String) :
    present id (apps.deleteWhere fun app => app.id = i) =
      (present id apps && decide (i ≠ id)) := by
  rw [present, present, Table.get?_deleteWhere]
  cases found : apps.get? id with
  | none => rfl
  | some app =>
      have named : app.id = id := (Table.mem_of_get? found).2
      by_cases same : i = id
      · simp [Option.filter, named, same]
      · have other : ¬ id = i := fun h => same h.symm
        simp [Option.filter, named, same, other]

omit [DecidableEq υ] in
theorem present_update (i : String) (f : PublishedApp υ → PublishedApp υ)
    (keeps : ∀ app, (f app).id = app.id) :
    present id (apps.update i f keeps) = present id apps := by
  rw [present, present, Table.get?_update]
  split
  next same => simp [same]
  next => rfl

omit [DecidableEq υ] in
theorem present_insert {app : PublishedApp υ} (inserted : apps.insert? app = some apps') :
    present id apps' = (present id apps || decide (app.id = id)) := by
  rw [present, present, Table.get?_insert inserted]
  by_cases same : app.id = id
  · simp [same]
  · have other : ¬ id = app.id := fun h => same h.symm
    simp [same, other]

theorem tells_performed {f : Frame υ} {op : DbOp υ} {a : Answer υ} (awaits : Awaits f op)
    (performs : Performs b apps op apps' a) :
    tellsCreated id ⟨f, some a⟩ = (!present id apps && present id apps') ∧
      tellsRemoved id ⟨f, some a⟩ = (present id apps && !present id apps') := by
  cases awaits with
  | selecting | fetching =>
      obtain ⟨⟩ := performs
      simp [tellsCreated, tellsRemoved]
  | writing w =>
      cases performs with
      | refused => simp [tellsCreated, tellsRemoved]
      | updated _ _ _ row fits free found =>
          rw [present_update]
          simp [tellsCreated, tellsRemoved]
      | created _ _ _ _ fits free inserted =>
          have missing : present w.id apps = false := by
            have fresh := (Table.insert?_eq_some inserted).1
            exact Option.isSome_eq_false_iff.mpr (Option.isNone_iff_eq_none.mpr fresh)
          have named : (stamped w.now (w.fields.create w.id)).id = w.id := rfl
          rw [present_insert inserted, named]
          by_cases same : w.id = id
          · subst same
            simp [tellsCreated, tellsRemoved, missing, named]
          · simp [tellsCreated, tellsRemoved, same, named]
  | deleting i deleter =>
      obtain ⟨⟩ := performs
      rw [present_delete]
      by_cases same : i = id
      · subst same
        have counted := present_count i apps
        simp only [tellsCreated, tellsRemoved]
        cases here : present i apps <;> simp_all
      · simp [tellsCreated, tellsRemoved, same]

end Effects

/-! ## What becomes of what a handler has been told -/

section Handlers

variable {b : Backend υ} {id : String}

omit [DecidableEq υ] in
theorem tells_resolveAppId (appId functionId functionVersionId : Option String)
    (purpose : Purpose) :
    tellsCreated id ⟨(resolveAppId appId functionId functionVersionId purpose : Frame υ), none⟩ =
        false ∧
      tellsRemoved id ⟨(resolveAppId appId functionId functionVersionId purpose : Frame υ), none⟩ =
        false := by
  unfold resolveAppId
  repeat' split
  all_goals exact ⟨rfl, rfl⟩

omit [DecidableEq υ] in
variable (b id) in
theorem tells_handler (now : Int) (r : Request) :
    tellsCreated id ⟨handler b now r, none⟩ = false ∧
      tellsRemoved id ⟨handler b now r, none⟩ = false := by
  cases r with
  | getApps | getAppInfo => exact ⟨rfl, rfl⟩
  | putApp | deleteApp | listApps | publishApp =>
      simp only [handler]
      repeat' split
      all_goals exact ⟨rfl, rfl⟩
  | getApp | removeApp => exact tells_resolveAppId _ _ _ _

omit [DecidableEq υ] in
theorem tells_start (now : Int) (r : Request) :
    tellsCreated id ⟨startRequest b now r, none⟩ = false ∧
      tellsRemoved id ⟨startRequest b now r, none⟩ = false := by
  unfold startRequest
  split
  all_goals first | exact ⟨rfl, rfl⟩ | exact tells_handler b id now _

omit [DecidableEq υ] in
variable (id) in
theorem tells_responded (response : PublishedAppResponse υ) (created : Bool) (writer : Writer) :
    tellsCreated id ⟨.finished (responded response created writer), none⟩ =
        decide (response.app.id = id ∧ created = true) ∧
      tellsRemoved id ⟨.finished (responded response created writer), none⟩ = false := by
  cases writer with
  | putApp => cases created <;> simp [responded, tellsCreated, tellsRemoved]
  | publishApp => exact ⟨rfl, rfl⟩

omit [DecidableEq υ] in
variable (b id) in
theorem tells_populated (functions : NvcfFunctions) (pending : Statusless υ)
    (a : Option (Answer υ)) :
    (tellsCreated id ⟨populated b functions pending, none⟩ = true →
        tellsCreated id ⟨.gettingFunctions pending, a⟩ = true) ∧
      tellsRemoved id ⟨populated b functions pending, none⟩ = false := by
  cases pending with
  | apps apps filteredStatus =>
      simp only [populated]
      split <;> exact ⟨by simp [tellsCreated], rfl⟩
  | app id app purpose =>
      simp only [populated]
      split
      next =>
        unfold described
        repeat' split
        all_goals exact ⟨by simp [tellsCreated], rfl⟩
      next => exact ⟨by simp [tellsCreated], rfl⟩
  | written w row created =>
      simp only [populated]
      split
      next status _ =>
        obtain ⟨told, untold⟩ := tells_responded id ⟨row, status⟩ created w.writer
        exact ⟨fun tells => told.symm.trans tells, untold⟩
      next => exact ⟨by simp [tellsCreated], rfl⟩

omit [DecidableEq υ] in
theorem tells_resumes {now : Int} {f f' : Frame υ} {a : Answer υ}
    (resumes : Resumes b now f a f') :
    (tellsCreated id ⟨f', none⟩ = true → tellsCreated id ⟨f, some a⟩ = true) ∧
      tellsRemoved id ⟨f', none⟩ = tellsRemoved id ⟨f, some a⟩ := by
  cases resumes with
  | raised _ live =>
      refine ⟨by simp [tellsCreated], ?_⟩
      cases f with
      | finished reply => exact absurd rfl (live reply)
      | _ => rfl
  | authorized r idp =>
      unfold authorized
      split
      next =>
        obtain ⟨created, removed⟩ := tells_handler b id now r
        exact ⟨by simp [created], removed⟩
      next => exact ⟨by simp [tellsCreated], rfl⟩
  | selected filter selection found =>
      unfold selected
      repeat' split
      all_goals
        first
        | exact ⟨by simp [tellsCreated], rfl⟩
        | (unfold resolved
           split <;> exact ⟨by simp [tellsCreated], rfl⟩)
  | fetched i purpose found =>
      unfold fetched
      repeat' split
      all_goals exact ⟨by simp [tellsCreated], rfl⟩
  | saved w result =>
      cases result with
      | ok written => exact ⟨fun told => told, rfl⟩
      | error => exact ⟨by simp [saved, tellsCreated], rfl⟩
  | deleted i deleter n =>
      cases deleter with
      | deleteApp | removeApp =>
          simp only [deleted]
          split
          next none' => exact ⟨by simp [tellsCreated], by simp [tellsRemoved, none']⟩
          next some' => exact ⟨by simp [tellsCreated], by simp [tellsRemoved, some']⟩
  | populated pending functions =>
      obtain ⟨created, removed⟩ := tells_populated b id functions pending
        (some (.functions functions))
      exact ⟨created, removed⟩
  | described => exact ⟨by simp [tellsCreated], rfl⟩

-- Where no operation is awaited, an answer that is there already would change nothing.
omit [DecidableEq υ] in
theorem tells_external {f : Frame υ} (external : frameOp f = none) (a a' : Option (Answer υ)) :
    tellsCreated id ⟨f, a⟩ = tellsCreated id ⟨f, a'⟩ ∧
      tellsRemoved id ⟨f, a⟩ = tellsRemoved id ⟨f, a'⟩ := by
  cases f with
  | selecting | fetching | writing | deleting => contradiction
  | authorizing | gettingDeployment => exact ⟨rfl, rfl⟩
  | gettingFunctions pending => cases pending <;> exact ⟨rfl, rfl⟩
  | finished reply => cases reply <;> exact ⟨rfl, rfl⟩

omit [DecidableEq υ] in
theorem tells_waiting {f : Frame υ} {op : DbOp υ} (awaits : Awaits f op) :
    (tellsCreated id ⟨f, none⟩ = false ∧ tellsRemoved id ⟨f, none⟩ = false) ∧
      tellsCreated id ⟨f, some .raised⟩ = false ∧ tellsRemoved id ⟨f, some .raised⟩ = false := by
  cases awaits <;> exact ⟨⟨rfl, rfl⟩, rfl, rfl⟩

end Handlers

/-! ## Along a run -/

section Runs

variable {b : Backend υ} {id : String}

theorem created_receipt (b : Backend υ) (id : String) :
    Receipt (backend b) (creates b id) (tellsCreated id) where
  started w r := (tells_start w r).1
  waiting awaits := (tells_waiting (awaits_of_op awaits)).1.1
  executed awaits effect := by
    obtain ⟨rfl, rfl⟩ := perform_of_effect effect
    exact (tells_performed (awaits_of_op awaits) (perform_cases b _ _)).1
  raised awaits effect := by
    obtain rfl := Option.some.inj effect
    exact (tells_waiting (awaits_of_op awaits)).2.1
  resumed effect := (tells_resumes (resume_of_effect effect).2).1
  answered external effect told :=
    (tells_external external _ _).1.trans ((tells_resumes (resume_of_effect effect).2).1 told)

theorem removed_receipt (b : Backend υ) (id : String) :
    Receipt (backend b) (removes b id) (tellsRemoved id) where
  started w r := (tells_start w r).2
  waiting awaits := (tells_waiting (awaits_of_op awaits)).1.2
  executed awaits effect := by
    obtain ⟨rfl, rfl⟩ := perform_of_effect effect
    exact (tells_performed (awaits_of_op awaits) (perform_cases b _ _)).2
  raised awaits effect := by
    obtain rfl := Option.some.inj effect
    exact (tells_waiting (awaits_of_op awaits)).2.2
  resumed effect told := (tells_resumes (resume_of_effect effect).2).2.symm.trans told
  answered external effect told :=
    (tells_external external _ _).2.trans
      ((tells_resumes (resume_of_effect effect).2).2.symm.trans told)

theorem removed_kept (b : Backend υ) (id : String) :
    Receipt.Kept (backend b) (tellsRemoved id) where
  resumed effect told := (tells_resumes (resume_of_effect effect).2).2.trans told
  answered external effect told :=
    (tells_resumes (resume_of_effect effect).2).2.trans
      ((tells_external external _ _).2.trans told)

variable (id) in
theorem balance_step {st st' : State υ} {act : Action υ}
    (taken : step (backend b) st act = some st') :
    (present id st.store).toNat +
        (occurrence (backend b) (creates b id) st act).toList.length =
      (present id st'.store).toNat +
        (occurrence (backend b) (removes b id) st act).toList.length := by
  cases step_cases taken with
  | request | raise | resume | answer | tick => rfl
  | execute p f op apps a task awaits effect =>
      obtain ⟨rfl, -⟩ := perform_of_effect effect
      have seen (happens : PublishedApps υ → DbOp υ → Bool) :
          occurrence (backend b) happens st (.execute p : Action υ) =
            (some op).filter (happens st.store) := by
        simp [occurrence, State.frame?_of_task task, awaits]
      rw [seen, seen]
      cases before : present id st.store <;>
        cases after : present id (perform b st.store op).1 <;>
          simp [Option.filter, creates, removes, before, after]

theorem balance_run {start st : State υ} {acts : List (Action υ)}
    (reached : run b start acts = some st) :
    (present id start.store).toNat +
        (occurrences (backend b) (creates b id) start acts).length =
      (present id st.store).toNat +
        (occurrences (backend b) (removes b id) start acts).length := by
  induction acts using List.reverseRecOn generalizing st with
  | nil =>
      obtain rfl : start = st := by simpa [Runs.run] using reached
      rfl
  | append_singleton acts act ih =>
      obtain ⟨before, first, last⟩ := Runs.run_concat.mp reached
      have earlier := ih first
      have here := balance_step id last
      unfold occurrences at earlier ⊢
      rw [Runs.trace_concat act first, Runs.trace_concat act first, List.length_append,
        List.length_append]
      omega

/-- How often an application has been created and removed, and how many callers know. -/
structure Tallied (b : Backend υ) (id : String) (start : State υ) (acts : List (Action υ))
    (st : State υ) : Prop where
  removals : st.tasks.countP (tellsRemoved id) =
    (occurrences (backend b) (removes b id) start acts).length
  -- Where the status cannot be had, the caller does not learn of the creation.
  creations : st.tasks.countP (tellsCreated id) ≤
    (occurrences (backend b) (creates b id) start acts).length
  balance : (present id start.store).toNat +
      (occurrences (backend b) (creates b id) start acts).length =
    (present id st.store).toNat + (occurrences (backend b) (removes b id) start acts).length

/-- Whoever races to remove an application, one caller is told for each time that it is removed. -/
theorem removals_told (id : String) {apps : PublishedApps υ} {now : Int} {acts : List (Action υ)}
    {st : State υ} (reached : run b (init apps now) acts = some st) :
    Tallied b id (init apps now) acts st where
  removals := (removed_receipt b id).run_kept (removed_kept b id) rfl reached
  creations := (created_receipt b id).run rfl reached
  balance := balance_run reached

end Runs

namespace Sample

open Apps.Sample (admin)

/-- A request and a tool both find the application, and only one of them has it removed. -/
def racingRemovals : List (Action String) :=
  [.request (.deleteApp admin "viewer"), .answer 0 (.user Auth.Sample.idp),
    .request (.removeApp (some admin) none (some "f1") (some "1") true),
    .answer 1 (.user Auth.Sample.idp), .execute 1, .resume 1, .execute 1, .resume 1,
    .execute 0, .resume 0, .answer 1 (.functions .empty), .execute 1, .resume 1]

end Sample

theorem removals_told_racing :
    Tallied Apps.Sample.backend "viewer" (init Apps.Sample.apps 0) Sample.racingRemovals
      ((run Apps.Sample.backend (init Apps.Sample.apps 0) Sample.racingRemovals).get
        (by decide)) :=
  removals_told "viewer" (Option.some_get _).symm

end StreamingPortal.Apps.Catalogue
