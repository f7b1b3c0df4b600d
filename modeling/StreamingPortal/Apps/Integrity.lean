import StreamingPortal.Apps.Catalogue

set_option autoImplicit false

/-!
# What the table of applications never holds

Every row keeps to the fields of the model, and no two rows have one function. The tools that
look an application up by its function rely on the latter.
-/

namespace StreamingPortal.Apps.Catalogue

open Tasks

variable {υ : Type}

-- The fields that `PublishedApp` and the model both limit.
structure AppFields.Fit (fields : AppFields υ) : Prop where
  slug : fields.slug.length ≤ 100
  title : fields.title.length ≤ 100
  version : fields.version.length ≤ 50
  page : fields.page.length ≤ 150
  category : fields.category.length ≤ 150
  productArea : fields.productArea.length ≤ 150
  authenticationType : ∀ text, fields.authenticationType.join = some text → text.length ≤ 100

structure Valid (b : Backend υ) (app : PublishedApp υ) : Prop where
  id : app.id.length ≤ 200
  slug : app.slug.length ≤ 100
  title : app.title.length ≤ 100
  version : app.version.length ≤ 50
  page : app.page.length ≤ 150
  category : app.category.length ≤ 150
  productArea : app.productArea.length ≤ 150
  authenticationType : ∀ text, app.authenticationType = some text → text.length ≤ 100
  mediaServer : ∀ text, app.mediaServer = some text → text.length ≤ 255
  mediaPort : ∀ port, app.mediaPort = some port → b.fits port = true

/-- `unique_together`. -/
def OneForEach (apps : PublishedApps υ) : Prop :=
  ∀ app ∈ apps.rows, ∀ other ∈ apps.rows, app.functionId = other.functionId →
    app.functionVersionId = other.functionVersionId → app = other

structure Sound (b : Backend υ) (apps : PublishedApps υ) : Prop where
  valid : ∀ app ∈ apps.rows, Valid b app
  oneForEach : OneForEach apps

/-! ## The fields of a row -/

section Fields

variable {b : Backend υ} {id : String} {fields : AppFields υ} {now : Int}

theorem fit_of_validate {body : AppBody} (valid : validate b body = some fields) :
    AppFields.Fit fields := by
  unfold validate at valid
  split at valid
  next =>
    split at valid
    next fits =>
      obtain rfl := Option.some.inj valid
      simp only [AppBody.lengthsFit, decide_eq_true_eq, Option.all_eq_true] at fits
      obtain ⟨slug, title, version, page, category, productArea, authenticationType⟩ := fits
      exact ⟨slug, title, version, page, category, productArea, authenticationType⟩
    next => contradiction
  next => contradiction

structure Storable (b : Backend υ) (id : String) (fields : AppFields υ) : Prop where
  id : id.length ≤ 200
  mediaServer : ∀ text, fields.mediaServer.join = some text → text.length ≤ 255
  mediaPort : ∀ port, fields.mediaPort.join = some port → b.fits port = true

theorem storable_iff : storable b id fields = true ↔ Storable b id fields := by
  simp only [storable, decide_eq_true_eq, Option.all_eq_true]
  exact ⟨fun ⟨id, server, port⟩ => ⟨id, server, port⟩,
    fun fits => ⟨fits.id, fits.mediaServer, fits.mediaPort⟩⟩

-- What is in a column after a write: what the fields set, or what was there.
theorem written_column {α : Type} {P : α → Prop} {set : Option (Option α)} {old : Option α}
    (fits : ∀ a, set.join = some a → P a) (kept : ∀ a, old = some a → P a) (a : α)
    (now : set.getD old = some a) : P a := by
  cases set with
  | none => exact kept a now
  | some value => exact fits a now

theorem valid_applyTo {row : PublishedApp υ} (fit : AppFields.Fit fields)
    (fits : Storable b id fields) (valid : Valid b row) :
    Valid b (stamped now (fields.applyTo row)) where
  id := valid.id
  slug := fit.slug
  title := fit.title
  version := fit.version
  page := fit.page
  category := fit.category
  productArea := fit.productArea
  authenticationType := written_column fit.authenticationType valid.authenticationType
  mediaServer := written_column fits.mediaServer valid.mediaServer
  mediaPort := written_column fits.mediaPort valid.mediaPort

theorem valid_create (fit : AppFields.Fit fields) (fits : Storable b id fields) :
    Valid b (stamped now (fields.create id)) where
  id := fits.id
  slug := fit.slug
  title := fit.title
  version := fit.version
  page := fit.page
  category := fit.category
  productArea := fit.productArea
  authenticationType := by
    refine written_column fit.authenticationType fun text default => ?_
    obtain rfl := Option.some.inj default
    decide
  mediaServer := written_column fits.mediaServer (by simp)
  mediaPort := written_column fits.mediaPort (by simp)

end Fields

/-! ## The table -/

section Table

variable [DecidableEq υ] {b : Backend υ} {apps : PublishedApps υ}

theorem not_taken {id : String} {fields : AppFields υ} (free : taken apps id fields = false)
    {row : PublishedApp υ} (stored : row ∈ apps.rows)
    (function : row.functionId = fields.functionId)
    (version : row.functionVersionId = fields.functionVersionId) : row.id = id := by
  by_contra other
  have some' : taken apps id fields = true := by
    refine List.any_eq_true.mpr ⟨row, stored, ?_⟩
    simp [other, function, version]
  rw [free] at some'
  contradiction

theorem oneForEach_update {id : String} {fields : AppFields υ} (now : Int)
    (unique : OneForEach apps) (free : taken apps id fields = false) :
    OneForEach (apps.update id (fun row => stamped now (fields.applyTo row))
      (stamped_applyTo_id now fields)) := by
  intro app stored other stored' function version
  obtain ⟨row, inside, rfl⟩ := List.mem_map.mp stored
  obtain ⟨row', inside', rfl⟩ := List.mem_map.mp stored'
  by_cases here : row.id = id <;> by_cases here' : row'.id = id
  · rw [Table.eq_of_key_eq inside inside' (here.trans here'.symm)]
  · simp only [here, here', if_true, if_false] at function version
    exact absurd (not_taken free inside' function.symm version.symm) here'
  · simp only [here, here', if_true, if_false] at function version
    exact absurd (not_taken free inside function version) here
  · simp only [here, here', if_false] at function version ⊢
    exact unique row inside row' inside' function version

theorem oneForEach_insert {id : String} {fields : AppFields υ} {now : Int}
    {apps' : PublishedApps υ} (unique : OneForEach apps) (free : taken apps id fields = false)
    (inserted : apps.insert? (stamped now (fields.create id)) = some apps') :
    OneForEach apps' := by
  obtain ⟨fresh, rows⟩ := Table.insert?_eq_some inserted
  have missing := Table.get?_eq_none_iff.mp fresh
  intro app stored other stored' function version
  rw [rows, List.mem_append, List.mem_singleton] at stored stored'
  rcases stored with stored | rfl <;> rcases stored' with stored' | rfl
  · exact unique app stored other stored' function version
  · exact absurd (not_taken free stored function version) (missing app stored)
  · exact absurd (not_taken free stored' function.symm version.symm) (missing other stored')
  · rfl

theorem sound_performs {op : DbOp υ} {apps' : PublishedApps υ} {a : Answer υ}
    (sound : Sound b apps)
    (fit : ∀ id fields now, op = .updateOrCreate id fields now → AppFields.Fit fields)
    (performs : Performs b apps op apps' a) : Sound b apps' := by
  cases performs with
  | select | get | refused => exact sound
  | updated id fields now row fits free found =>
      refine ⟨fun app stored => ?_, oneForEach_update now sound.oneForEach free⟩
      obtain ⟨row', inside, rfl⟩ := List.mem_map.mp stored
      split
      · exact valid_applyTo (fit id fields now rfl) (storable_iff.mp fits)
          (sound.valid row' inside)
      · exact sound.valid row' inside
  | created id fields now apps' fits free inserted =>
      refine ⟨fun app stored => ?_, oneForEach_insert sound.oneForEach free inserted⟩
      rw [(Table.insert?_eq_some inserted).2, List.mem_append, List.mem_singleton] at stored
      rcases stored with stored | rfl
      · exact sound.valid app stored
      · exact valid_create (fit id fields now rfl) (storable_iff.mp fits)
  | deleted id =>
      have kept {app : PublishedApp υ}
          (stored : app ∈ (apps.deleteWhere fun app => app.id = id).rows) : app ∈ apps.rows :=
        (List.mem_filter.mp stored).1
      exact ⟨fun app stored => sound.valid app (kept stored),
        fun app stored other stored' => sound.oneForEach app (kept stored) other (kept stored')⟩

/-- Both identifiers are given. -/
def AppFilter.Full (filter : AppFilter) : Prop :=
  filter.functionId.getD "" ≠ "" ∧ filter.functionVersionId.getD "" ≠ ""

theorem fromQueryset_length {uuids : Uuids υ} {filter : AppFilter} (unique : OneForEach apps)
    (full : AppFilter.Full filter) {found : List (PublishedApp υ)}
    (selected : fromQueryset uuids filter apps = .ok found) : found.length ≤ 1 := by
  have wellFormed : filter.WellFormed uuids := by
    by_contra malformed
    rw [fromQueryset_error malformed] at selected
    contradiction
  rw [fromQueryset_ok wellFormed] at selected
  obtain rfl := Except.ok.inj selected
  have nodup : (matching uuids filter apps).Nodup :=
    (List.Nodup.of_map _ apps.keys_nodup).filter _
  have same {app other : PublishedApp υ} (inside : app ∈ matching uuids filter apps)
      (inside' : other ∈ matching uuids filter apps) : app = other := by
    simp only [matching, Table.select, Matches, List.mem_filter, decide_eq_true_eq, full.1, full.2,
      false_or] at inside inside'
    obtain ⟨stored, function, version⟩ := inside
    obtain ⟨stored', function', version'⟩ := inside'
    exact unique app stored other stored' (Option.some.inj (function.symm.trans function'))
      (Option.some.inj (version.symm.trans version'))
  cases listed : matching uuids filter apps with
  | nil => simp
  | cons app rest =>
      cases rest with
      | nil => simp
      | cons other rest =>
          rw [listed] at nodup same
          have twice : app = other := same List.mem_cons_self (by simp)
          simp [twice] at nodup

end Table

/-! ## The handlers -/

section Handlers

variable {b : Backend υ}

theorem head?_append {start : String} {c : Char} (head : start.toList.head? = some c)
    (rest : String) : (start ++ rest).toList.head? = some c := by
  rw [String.toList_append, List.head?_append, head]
  rfl

-- The texts of the other errors start otherwise.
theorem multipleMatched_head (matching : List (PublishedApp υ)) :
    (multipleMatched matching).toList.head? = some 'M' := by
  have start : "Multiple apps matched: ".toList.head? = some 'M' := by decide
  unfold multipleMatched
  exact head?_append (head?_append start _) _

theorem ne_multipleMatched {text : String} {c : Char} (head : text.toList.head? = some c)
    (other : c ≠ 'M') (matching : List (PublishedApp υ)) : text ≠ multipleMatched matching := by
  rintro rfl
  exact other (Option.some.inj (head.symm.trans (multipleMatched_head matching)))

/-- What a frame relies on, or is spared. -/
def Careful : Frame υ → Prop
  | .writing w => AppFields.Fit w.fields
  | .selecting filter (.resolve _) => AppFilter.Full filter
  | .finished (.error (.tool message)) =>
      ∀ matching : List (PublishedApp υ), message ≠ multipleMatched matching
  | _ => True

-- No more than one application is found for a function.
def Expected : Frame υ → Answer υ → Prop
  | .selecting _ (.resolve _), .apps (.ok found) => found.length ≤ 1
  | _, .apps (.error e) | _, .written (.error e) => ∀ message, e ≠ .tool message
  | _, _ => True

theorem careful_resolveAppId (appId functionId functionVersionId : Option String)
    (purpose : Purpose) :
    Careful (resolveAppId appId functionId functionVersionId purpose : Frame υ) := by
  unfold resolveAppId
  split
  next => trivial
  next =>
    split
    next full => exact full
    next => exact ne_multipleMatched (c := 'P') (by decide) (by decide)

theorem careful_handler (now : Int) (r : Request) : Careful (handler b now r) := by
  cases r with
  | getApps | getAppInfo => trivial
  | putApp user appId body =>
      simp only [handler]
      split
      next => trivial
      next fields valid =>
        split
        next => trivial
        next => exact fit_of_validate valid
  | deleteApp user appId =>
      simp only [handler]
      split <;> trivial
  | listApps filter status =>
      simp only [handler]
      split
      next => trivial
      next =>
        have start : "Invalid status: ".toList.head? = some 'I' := by decide
        exact ne_multipleMatched (head?_append start _) (by decide)
  | getApp => exact careful_resolveAppId _ _ _ _
  | publishApp user call =>
      simp only [handler]
      split
      next => trivial
      next fields valid => exact fit_of_validate valid
  | removeApp => exact careful_resolveAppId _ _ _ _

theorem careful_start (now : Int) (r : Request) : Careful (startRequest b now r) := by
  unfold startRequest
  split
  all_goals first | trivial | exact careful_handler now _

theorem careful_error {e : AppError} (notTool : ∀ message, e ≠ .tool message) :
    Careful (.finished (.error e) : Frame υ) := by
  cases e with
  | tool message => exact absurd rfl (notTool message)
  | _ => trivial

theorem getNvcfFunctionStatus_error {uuids : Uuids υ} {functions : NvcfFunctions}
    {functionId functionVersionId : υ} {e : AppError}
    (failed : getNvcfFunctionStatus uuids functions functionId functionVersionId = .error e)
    (message : String) : e ≠ .tool message := by
  unfold getNvcfFunctionStatus at failed
  repeat' split at failed
  all_goals first | contradiction | obtain rfl := Except.error.inj failed
  simp

theorem careful_notFound (id : String) :
    Careful (.finished (.error (.tool (notFound id))) : Frame υ) := by
  have start : "App ".toList.head? = some 'A' := by decide
  exact ne_multipleMatched (head?_append (head?_append start _) _) (by decide)

theorem careful_resolved {purpose : Purpose} {found : List (PublishedApp υ)}
    (few : found.length ≤ 1) : Careful (resolved purpose found) := by
  match found with
  | [] => exact ne_multipleMatched (c := 'N') (by decide) (by decide)
  | [app] => trivial
  | app :: other :: rest => simp at few

theorem careful_populated (functions : NvcfFunctions) (pending : Statusless υ) :
    Careful (populated b functions pending) := by
  cases pending with
  | apps apps filteredStatus =>
      simp only [populated]
      split
      next => trivial
      next e failed =>
        by_cases known : ∀ app ∈ apps, KnownStatus b.uuids functions app
        next =>
          rw [populate_ok filteredStatus known] at failed
          contradiction
        next =>
          rw [populate_error filteredStatus known] at failed
          obtain rfl := Except.error.inj failed
          trivial
  | app id app purpose =>
      simp only [populated]
      split
      next =>
        unfold described
        repeat' split
        all_goals trivial
      next e failed => exact careful_error (getNvcfFunctionStatus_error failed)
  | written w row created =>
      simp only [populated]
      split
      next => cases w.writer <;> trivial
      next e failed => exact careful_error (getNvcfFunctionStatus_error failed)

theorem careful_resumes {now : Int} {f f' : Frame υ} {a : Answer υ} (careful : Careful f)
    (expected : Expected f a) (resumes : Resumes b now f a f') : Careful f' := by
  cases resumes with
  | raised => trivial
  | authorized r idp =>
      unfold authorized
      split
      next => exact careful_handler now r
      next => trivial
  | selected filter selection found =>
      cases selection with
      | list filteredStatus =>
          cases found with
          | ok apps => trivial
          | error e => exact careful_error expected
      | resolve purpose =>
          cases found with
          | ok apps => exact careful_resolved expected
          | error e => exact careful_error expected
  | fetched id purpose found =>
      cases found with
      | some app => trivial
      | none =>
          cases purpose with
          | getAppInfo => trivial
          | getApp | removeApp => exact careful_notFound id
  | saved w result =>
      cases result with
      | ok written => trivial
      | error e => exact careful_error expected
  | deleted id deleter n =>
      cases deleter with
      | deleteApp =>
          simp only [deleted]
          split <;> trivial
      | removeApp =>
          simp only [deleted]
          split
          next => exact careful_notFound id
          next => trivial
  | populated pending functions => exact careful_populated functions pending
  | described => trivial

end Handlers

/-! ## Along a run -/

section Runs

variable [DecidableEq υ] {b : Backend υ}

omit [DecidableEq υ] in
theorem expected_raised (f : Frame υ) : Expected f .raised := by
  cases f with
  | selecting filter selection => cases selection <;> trivial
  | _ => trivial

omit [DecidableEq υ] in
theorem expected_of_external {now : Int} {f f' : Frame υ} {a : Answer υ}
    (external : frameOp f = none) (resumes : Resumes b now f a f') : Expected f a := by
  cases resumes with
  | raised => exact expected_raised f
  | selected | fetched | saved | deleted => contradiction
  | authorized | populated | described => trivial

theorem expected_of_performs {apps apps' : PublishedApps υ} {f : Frame υ} {op : DbOp υ}
    {a : Answer υ} (unique : OneForEach apps) (careful : Careful f) (awaits : Awaits f op)
    (performs : Performs b apps op apps' a) : Expected f a := by
  cases awaits with
  | selecting filter selection =>
      obtain ⟨⟩ := performs
      cases found : fromQueryset b.uuids filter apps with
      | ok matching =>
          cases selection with
          | list => trivial
          | resolve => exact fromQueryset_length unique careful found
      | error e =>
          have plain : e = .valueError := by
            by_cases wellFormed : filter.WellFormed b.uuids
            next =>
              rw [fromQueryset_ok wellFormed] at found
              contradiction
            next =>
              rw [fromQueryset_error wellFormed] at found
              exact (Except.error.inj found).symm
          cases selection <;> simp [Expected, plain]
  | writing w =>
      cases performs with
      | refused _ _ _ e reason => rcases reason with rfl | rfl <;> simp [Expected]
      | updated | created => trivial
  | fetching | deleting =>
      obtain ⟨⟩ := performs
      trivial

structure CarefulTask (t : Task υ) : Prop where
  frame : Careful t.frame
  answer : ∀ a, t.answer = some a → Expected t.frame a

structure Kept (b : Backend υ) (st : State υ) : Prop where
  sound : Sound b st.store
  tasks : ∀ (p : Nat) t, st.tasks[p]? = some t → CarefulTask t

theorem kept_step {st st' : State υ} {act : Action υ} (kept : Kept b st)
    (taken : Tasks.step (backend b) st act = some st') : Kept b st' := by
  cases step_cases taken with
  | request r =>
      exact ⟨kept.sound, forall_spawn ⟨careful_start _ r, by simp⟩ kept.tasks⟩
  | execute p f op apps a task awaits effect =>
      have performs := performs_of_effect effect
      have careful := (kept.tasks p _ task).frame
      refine ⟨sound_performs kept.sound ?_ performs, forall_set ⟨careful, ?_⟩
        fun q t _ old => kept.tasks q t old⟩
      · rintro id fields now rfl
        cases awaits_of_op awaits with
        | writing w => exact careful
      · rintro _ ⟨⟩
        exact expected_of_performs kept.sound.oneForEach careful (awaits_of_op awaits) performs
  | raise p f op a task awaits effect =>
      have careful := (kept.tasks p _ task).frame
      obtain rfl : a = .raised := (Option.some.inj effect).symm
      refine ⟨kept.sound, forall_set ⟨careful, ?_⟩ fun q t _ old => kept.tasks q t old⟩
      rintro _ ⟨⟩
      exact expected_raised f
  | resume p f next a now task effect =>
      obtain ⟨-, resumes⟩ := resume_of_effect effect
      have known := kept.tasks p _ task
      exact ⟨kept.sound, forall_set
        ⟨careful_resumes known.frame (known.answer a rfl) resumes, by simp⟩
        fun q t _ old => kept.tasks q t old⟩
  | answer p f next a now task awaits effect =>
      obtain ⟨-, resumes⟩ := resume_of_effect effect
      have known := kept.tasks p _ task
      exact ⟨kept.sound, forall_set
        ⟨careful_resumes known.frame (expected_of_external awaits resumes) resumes, by simp⟩
        fun q t _ old => kept.tasks q t old⟩
  | tick time => exact ⟨kept.sound, kept.tasks⟩

theorem kept_run {apps : PublishedApps υ} {now : Int} {acts : List (Action υ)} {st : State υ}
    (sound : Sound b apps) (reached : run b (init apps now) acts = some st) : Kept b st :=
  Runs.invariant (Kept b) (fun _ _ _ kept _ taken => kept_step kept taken)
    ⟨sound, by simp [init]⟩ (Runs.along_trivial acts) reached

/--
However requests and tools interleave, the table stays sound, and no tool is ever told that several
applications have the function it names.
-/
theorem catalogue_sound {apps : PublishedApps υ} {now : Int} {acts : List (Action υ)}
    {st : State υ} (sound : Sound b apps) (reached : run b (init apps now) acts = some st) :
    Sound b st.store ∧ ∀ (p : Nat) (matching : List (PublishedApp υ)),
      st.frame? p ≠ some (.finished (.error (.tool (multipleMatched matching)))) := by
  have kept := kept_run sound reached
  refine ⟨kept.sound, fun p matching told => ?_⟩
  obtain ⟨t, task, same⟩ := Option.map_eq_some_iff.mp told
  have careful := (kept.tasks p t task).frame
  rw [same] at careful
  exact careful matching rfl

end Runs

namespace Sample

open Apps.Sample (admin call)

/-- Of two publishers of one function the second is refused, and the function names one app. -/
def twoPublishers : List (Action String) :=
  [.request (.publishApp (some admin) call), .answer 0 (.user Auth.Sample.idp),
    .request (.putApp admin "other" (call.body fun text => text)),
    .answer 1 (.user Auth.Sample.idp), .execute 0, .execute 1, .resume 1, .resume 0,
    .request (.getApp none (some "f1") (some "2")), .execute 2, .resume 2, .execute 2, .resume 2]

end Sample

theorem catalogue_sound_twoPublishers :
    Sound Apps.Sample.backend ((run Apps.Sample.backend (init .empty 0) Sample.twoPublishers).get
        (by decide)).store ∧
      ∀ (p : Nat) (matching : List (PublishedApp String)),
        ((run Apps.Sample.backend (init .empty 0) Sample.twoPublishers).get
            (by decide)).frame? p ≠
          some (.finished (.error (.tool (multipleMatched matching)))) :=
  catalogue_sound ⟨by simp [Table.empty], by simp [OneForEach, Table.empty]⟩
    (Option.some_get _).symm

end StreamingPortal.Apps.Catalogue
