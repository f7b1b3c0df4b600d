import StreamingPortal.Apps.Model

set_option autoImplicit false

/-!
# Listing the published applications

`GET /apps/` and the tool `list_apps`. Each application gets the status of its NVCF function.
-/

namespace StreamingPortal.Apps

variable {υ : Type} [DecidableEq υ]

structure AppFilter where
  functionId : Option String
  functionVersionId : Option String

-- One `filter` of the query set; an empty text filters nothing. The text is read as the column
-- reads it, and the call raises where the column refuses it.
def filterBy (uuids : Uuids υ) (column : PublishedApp υ → υ) (text : Option String)
    (apps : List (PublishedApp υ)) : Except AppError (List (PublishedApp υ)) :=
  if text.getD "" = "" then .ok apps
  else
    match uuids.parse (text.getD "") with
    | some uuid => .ok (apps.filter fun app => column app = uuid)
    | none => .error .valueError

def fromQueryset (uuids : Uuids υ) (filter : AppFilter) (apps : PublishedApps υ) :
    Except AppError (List (PublishedApp υ)) := do
  let found ← filterBy uuids PublishedApp.functionId filter.functionId apps.rows
  filterBy uuids PublishedApp.functionVersionId filter.functionVersionId found

-- The loop of both interfaces, over the applications that are left.
def populate (uuids : Uuids υ) (functions : NvcfFunctions) (filteredStatus : NvcfFunctionStatus) :
    List (PublishedApp υ) → Except AppError (List (PublishedAppResponse υ))
  | [] => .ok []
  | app :: apps => do
      let status ← getNvcfFunctionStatus uuids functions app.functionId app.functionVersionId
      let result ← populate uuids functions filteredStatus apps
      if filteredStatus = .all ∨ filteredStatus = status then return ⟨app, status⟩ :: result
      else return result

def getApps (uuids : Uuids υ) (apps : PublishedApps υ) (functions : NvcfFunctions)
    (filter : AppFilter) (filteredStatus : NvcfFunctionStatus) :
    Except AppError (List (PublishedAppResponse υ)) := do
  let found ← fromQueryset uuids filter apps
  populate uuids functions filteredStatus found

-- The tool answers with the JSON of these entries.
def listApps (uuids : Uuids υ) (apps : PublishedApps υ) (functions : NvcfFunctions)
    (filter : AppFilter) (status : String) : Except AppError (List (PublishedAppResponse υ)) :=
  match NvcfFunctionStatus.ofValue? status with
  | some filteredStatus => do
      let found ← fromQueryset uuids filter apps
      populate uuids functions filteredStatus found
  | none => .error (.tool ("Invalid status: " ++ status))

/-! ## What a listing should be -/

-- A text that is no UUID matches nothing.
def Matches (uuids : Uuids υ) (column : PublishedApp υ → υ) (text : Option String)
    (app : PublishedApp υ) : Prop :=
  text.getD "" = "" ∨ uuids.parse (text.getD "") = some (column app)

instance (uuids : Uuids υ) (column : PublishedApp υ → υ) (text : Option String)
    (app : PublishedApp υ) : Decidable (Matches uuids column text app) :=
  inferInstanceAs (Decidable (_ ∨ _))

def matching (uuids : Uuids υ) (filter : AppFilter) (apps : PublishedApps υ) :
    List (PublishedApp υ) :=
  apps.select fun app =>
    Matches uuids PublishedApp.functionId filter.functionId app ∧
      Matches uuids PublishedApp.functionVersionId filter.functionVersionId app

-- The status of its function in the list, `UNKNOWN` where there is none that is known.
def nvcfStatus (uuids : Uuids υ) (functions : NvcfFunctions) (app : PublishedApp υ) :
    NvcfFunctionStatus :=
  ((functions.get? (uuids.str app.functionId, uuids.str app.functionVersionId)).bind
    fun function => NvcfFunctionStatus.ofValue? function.status).getD .unknown

def entriesOf (uuids : Uuids υ) (functions : NvcfFunctions) (apps : List (PublishedApp υ)) :
    List (PublishedAppResponse υ) :=
  apps.map fun app => ⟨app, nvcfStatus uuids functions app⟩

/-- One entry for each application, and of these the ones with the status that is asked for. -/
structure Lists (entries : List (PublishedAppResponse υ))
    (listing : NvcfFunctionStatus → Except AppError (List (PublishedAppResponse υ))) : Prop where
  all : listing .all = .ok entries
  specific : ∀ status, status ≠ .all →
    listing status = .ok (entries.filter fun entry => entry.status = status)

-- Where its function is in the list, its status is a known one.
def KnownStatus (uuids : Uuids υ) (functions : NvcfFunctions) (app : PublishedApp υ) : Prop :=
  ∀ function,
    functions.get? (uuids.str app.functionId, uuids.str app.functionVersionId) = some function →
      ∃ status : NvcfFunctionStatus, status.value = function.status

def AppFilter.WellFormed (uuids : Uuids υ) (filter : AppFilter) : Prop :=
  ∀ text, filter.functionId = some text ∨ filter.functionVersionId = some text →
    text = "" ∨ ∃ uuid, uuids.parse text = some uuid

structure Listable (uuids : Uuids υ) (functions : NvcfFunctions) (filter : AppFilter)
    (apps : PublishedApps υ) : Prop where
  wellFormed : filter.WellFormed uuids
  known : ∀ app ∈ matching uuids filter apps, KnownStatus uuids functions app

/-! ## The loop -/

section Loop

variable {uuids : Uuids υ} {functions : NvcfFunctions}

omit [DecidableEq υ] in
theorem status_of_known {app : PublishedApp υ} (known : KnownStatus uuids functions app) :
    getNvcfFunctionStatus uuids functions app.functionId app.functionVersionId =
      .ok (nvcfStatus uuids functions app) := by
  unfold getNvcfFunctionStatus nvcfStatus
  cases found : functions.get? (uuids.str app.functionId, uuids.str app.functionVersionId) with
  | none => rfl
  | some function =>
      obtain ⟨status, same⟩ := known function found
      have read : NvcfFunctionStatus.ofValue? function.status = some status := by
        rw [← same, NvcfFunctionStatus.ofValue?_value]
      simp [read]

omit [DecidableEq υ] in
theorem status_of_unknown {app : PublishedApp υ} (unknown : ¬ KnownStatus uuids functions app) :
    getNvcfFunctionStatus uuids functions app.functionId app.functionVersionId =
      .error .valueError := by
  unfold getNvcfFunctionStatus
  cases found : functions.get? (uuids.str app.functionId, uuids.str app.functionVersionId) with
  | none =>
      refine absurd (fun function stored => ?_) unknown
      rw [found] at stored
      contradiction
  | some function =>
      cases read : NvcfFunctionStatus.ofValue? function.status with
      | none => simp [read]
      | some status =>
          refine absurd (fun other stored => ?_) unknown
          obtain rfl := Option.some.inj (found.symm.trans stored)
          exact ⟨status, NvcfFunctionStatus.value_of_ofValue? read⟩

omit [DecidableEq υ] in
theorem populate_ok (filteredStatus : NvcfFunctionStatus) {apps : List (PublishedApp υ)}
    (known : ∀ app ∈ apps, KnownStatus uuids functions app) :
    populate uuids functions filteredStatus apps =
      .ok ((entriesOf uuids functions apps).filter fun entry =>
        filteredStatus = .all ∨ filteredStatus = entry.status) := by
  induction apps with
  | nil => rfl
  | cons app apps ih =>
      have rest := ih fun other later => known other (List.mem_cons_of_mem app later)
      have status := status_of_known (known app List.mem_cons_self)
      have entries : entriesOf uuids functions (app :: apps) =
          ⟨app, nvcfStatus uuids functions app⟩ :: entriesOf uuids functions apps := rfl
      rw [populate, status, rest, entries, List.filter_cons]
      by_cases shown : filteredStatus = .all ∨ filteredStatus = nvcfStatus uuids functions app
      next => simp [bind, Except.bind, pure, Except.pure, shown]
      next => simp [bind, Except.bind, pure, Except.pure, shown]

omit [DecidableEq υ] in
theorem populate_error (filteredStatus : NvcfFunctionStatus) {apps : List (PublishedApp υ)}
    (unknown : ¬ ∀ app ∈ apps, KnownStatus uuids functions app) :
    populate uuids functions filteredStatus apps = .error .valueError := by
  induction apps with
  | nil => simp at unknown
  | cons app apps ih =>
      rw [populate]
      by_cases first : KnownStatus uuids functions app
      next =>
        have later : ¬ ∀ app ∈ apps, KnownStatus uuids functions app :=
          fun all => unknown (List.forall_mem_cons.mpr ⟨first, all⟩)
        rw [status_of_known first, ih later]
        rfl
      next =>
        rw [status_of_unknown first]
        rfl

omit [DecidableEq υ] in
theorem populate_lists (apps : List (PublishedApp υ)) :
    Lists (entriesOf uuids functions apps)
        (fun filteredStatus => populate uuids functions filteredStatus apps) ↔
      ∀ app ∈ apps, KnownStatus uuids functions app := by
  constructor
  next =>
    intro lists
    by_contra unknown
    have failed := populate_error .all unknown
    rw [lists.all] at failed
    contradiction
  next =>
    intro known
    constructor
    next => simp [populate_ok .all known]
    next =>
      intro status other
      rw [populate_ok status known]
      simp [other, eq_comm]

end Loop

/-! ## The filters -/

section Filters

variable {uuids : Uuids υ}

theorem filterBy_ok (column : PublishedApp υ → υ) {text : Option String}
    (wellFormed : text.getD "" = "" ∨ ∃ uuid, uuids.parse (text.getD "") = some uuid)
    (apps : List (PublishedApp υ)) :
    filterBy uuids column text apps =
      .ok (apps.filter fun app => Matches uuids column text app) := by
  unfold filterBy Matches
  by_cases blank : text.getD "" = ""
  next => simp [blank]
  next =>
    obtain ⟨uuid, read⟩ := wellFormed.resolve_left blank
    simp [blank, read, eq_comm]

theorem filterBy_error (column : PublishedApp υ → υ) {text : Option String}
    (malformed : ¬ (text.getD "" = "" ∨ ∃ uuid, uuids.parse (text.getD "") = some uuid))
    (apps : List (PublishedApp υ)) : filterBy uuids column text apps = .error .valueError := by
  obtain ⟨given, unread⟩ := not_or.mp malformed
  unfold filterBy
  cases read : uuids.parse (text.getD "") with
  | none => simp [given]
  | some uuid => exact absurd ⟨uuid, read⟩ unread

omit [DecidableEq υ] in
theorem wellFormed_iff (filter : AppFilter) : filter.WellFormed uuids ↔
    (filter.functionId.getD "" = "" ∨
        ∃ uuid, uuids.parse (filter.functionId.getD "") = some uuid) ∧
      (filter.functionVersionId.getD "" = "" ∨
        ∃ uuid, uuids.parse (filter.functionVersionId.getD "") = some uuid) := by
  obtain ⟨functionId, functionVersionId⟩ := filter
  cases functionId <;> cases functionVersionId <;> simp [AppFilter.WellFormed, or_imp, forall_and]

theorem fromQueryset_ok {filter : AppFilter} (wellFormed : filter.WellFormed uuids)
    (apps : PublishedApps υ) :
    fromQueryset uuids filter apps = .ok (matching uuids filter apps) := by
  obtain ⟨byFunction, byVersion⟩ := (wellFormed_iff filter).mp wellFormed
  rw [fromQueryset, filterBy_ok _ byFunction]
  refine (filterBy_ok _ byVersion _).trans ?_
  rw [matching, Table.select, List.filter_filter]
  simp only [Bool.decide_and, Bool.and_comm]

theorem fromQueryset_error {filter : AppFilter} (malformed : ¬ filter.WellFormed uuids)
    (apps : PublishedApps υ) : fromQueryset uuids filter apps = .error .valueError := by
  rw [wellFormed_iff, not_and_or] at malformed
  by_cases byFunction : filter.functionId.getD "" = "" ∨
      ∃ uuid, uuids.parse (filter.functionId.getD "") = some uuid
  next =>
    rw [fromQueryset, filterBy_ok _ byFunction]
    exact filterBy_error _ (malformed.resolve_left fun not => not byFunction) _
  next =>
    rw [fromQueryset, filterBy_error _ byFunction]
    rfl

end Filters

/-! ## Both interfaces -/

theorem listApps_value (uuids : Uuids υ) (apps : PublishedApps υ) (functions : NvcfFunctions)
    (filter : AppFilter) (status : NvcfFunctionStatus) :
    listApps uuids apps functions filter status.value =
      getApps uuids apps functions filter status := by
  rw [listApps, NvcfFunctionStatus.ofValue?_value, getApps]

theorem getApps_lists (uuids : Uuids υ) (apps : PublishedApps υ) (functions : NvcfFunctions)
    (filter : AppFilter) :
    Lists (entriesOf uuids functions (matching uuids filter apps))
        (getApps uuids apps functions filter) ↔ Listable uuids functions filter apps := by
  by_cases wellFormed : filter.WellFormed uuids
  next =>
    have route : getApps uuids apps functions filter = fun filteredStatus =>
        populate uuids functions filteredStatus (matching uuids filter apps) := by
      funext filteredStatus
      rw [getApps, fromQueryset_ok wellFormed]
      rfl
    rw [route, populate_lists]
    exact ⟨fun known => ⟨wellFormed, known⟩, fun listable => listable.known⟩
  next =>
    refine iff_of_false (fun lists => ?_) fun listable => wellFormed listable.wellFormed
    have listed := lists.all
    rw [getApps, fromQueryset_error wellFormed] at listed
    contradiction

/--
Each interface lists every matching application exactly when none of them has a function whose
status is none of the known ones.
-/
theorem listing_complete_iff (uuids : Uuids υ) (apps : PublishedApps υ)
    (results : List NvcfFunction) (filter : AppFilter) :
    (Lists (entriesOf uuids (getNvcfFunctions (.success results)) (matching uuids filter apps))
        (getApps uuids apps (getNvcfFunctions (.success results)) filter) ↔
      Listable uuids (getNvcfFunctions (.success results)) filter apps) ∧
      (Lists (entriesOf uuids (getNvcfFunctions (.success results)) (matching uuids filter apps))
        (fun status =>
          listApps uuids apps (getNvcfFunctions (.success results)) filter status.value) ↔
      Listable uuids (getNvcfFunctions (.success results)) filter apps) := by
  have route : (fun status : NvcfFunctionStatus =>
      listApps uuids apps (getNvcfFunctions (.success results)) filter status.value) =
        getApps uuids apps (getNvcfFunctions (.success results)) filter :=
    funext (listApps_value uuids apps _ filter)
  rw [route]
  exact ⟨getApps_lists uuids apps _ filter, getApps_lists uuids apps _ filter⟩

namespace Sample

def uuids : Uuids String := ⟨some, fun uuid => uuid⟩

def app (id functionId : String) : PublishedApp String where
  id := id
  slug := id
  functionId := functionId
  functionVersionId := "1"
  title := id
  description := id
  version := "1.0"
  icon := "https://placehold.co/256x256"
  page := "Apps"
  category := "Samples"
  productArea := "Samples"
  publishedAt := none
  authenticationType := some "NONE"
  mediaServer := none
  mediaPort := none

def apps : PublishedApps String := ⟨[app "viewer" "f1", app "editor" "f2"], by decide⟩

def everything : AppFilter := ⟨none, none⟩

end Sample

/-- The viewer's function is active, and the editor's has a status of its own. -/
theorem listing_fails :
    ¬ Lists (entriesOf Sample.uuids
          (getNvcfFunctions (.success [⟨"f1", "1", "", "ACTIVE"⟩, ⟨"f2", "1", "", "PAUSED"⟩]))
          (matching Sample.uuids Sample.everything Sample.apps))
        (getApps Sample.uuids Sample.apps
          (getNvcfFunctions (.success [⟨"f1", "1", "", "ACTIVE"⟩, ⟨"f2", "1", "", "PAUSED"⟩]))
          Sample.everything) ∧
      listApps Sample.uuids Sample.apps
        (getNvcfFunctions (.success [⟨"f1", "1", "", "ACTIVE"⟩, ⟨"f2", "1", "", "PAUSED"⟩]))
        Sample.everything "ACTIVE" = .error .valueError := by
  constructor
  next =>
    intro lists
    have failed : getApps Sample.uuids Sample.apps
        (getNvcfFunctions (.success [⟨"f1", "1", "", "ACTIVE"⟩, ⟨"f2", "1", "", "PAUSED"⟩]))
        Sample.everything .all = .error .valueError := rfl
    rw [lists.all] at failed
    contradiction
  next => rfl

end StreamingPortal.Apps
