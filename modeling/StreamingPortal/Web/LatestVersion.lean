import Mathlib.Data.List.Sort
import StreamingPortal.Web.AppsKept

set_option autoImplicit false

/-!
# The latest version of an application

The loop of `getStreamingApps` keeps the first of the newest versions with a semantic name, and the
last version while it has seen no such name.
-/

namespace StreamingPortal.Web.Apps

variable {semver : Semver}

/-- `semver.compare` orders the names that `semver.valid` accepts. -/
structure Semver.Ordered (semver : Semver) : Prop where
  sign : ∀ a b, semver.valid a = true → semver.valid b = true →
    semver.compare a b = -1 ∨ semver.compare a b = 0 ∨ semver.compare a b = 1
  swap : ∀ a b, semver.valid a = true → semver.valid b = true →
    semver.compare b a = -semver.compare a b
  trans : ∀ a b c, semver.valid a = true → semver.valid b = true → semver.valid c = true →
    semver.compare a b ≤ 0 → semver.compare b c ≤ 0 → semver.compare a c ≤ 0

/-- Which of the versions, in the order of the response, is the latest. -/
structure Latest (semver : Semver) (versions : List StreamingAppVersion)
    (latest : StreamingAppVersion) : Prop where
  listed : latest ∈ versions
  newest : (∃ version ∈ versions, semver.valid version.name = true) →
    semver.valid latest.name = true ∧ ∃ before after, versions = before ++ latest :: after ∧
      (∀ version ∈ before, semver.valid version.name = true →
        semver.compare version.name latest.name < 0) ∧
      ∀ version ∈ after, semver.valid version.name = true →
        semver.compare version.name latest.name ≤ 0
  last : (∀ version ∈ versions, semver.valid version.name = false) →
    versions.getLast? = some latest

/-! ## One more version -/

theorem latest_singleton (version : StreamingAppVersion) : Latest semver [version] version where
  listed := List.mem_singleton_self version
  newest := by
    intro found
    obtain ⟨other, member, valid⟩ := found
    rw [List.mem_singleton.mp member] at valid
    exact ⟨valid, [], [], rfl, by simp, by simp⟩
  last := fun _ => rfl

section Next

variable {versions : List StreamingAppVersion} {latest : StreamingAppVersion}

theorem Latest.all_invalid (current : Latest semver versions latest)
    (invalid : semver.valid latest.name = false) :
    ∀ version ∈ versions, semver.valid version.name = false := by
  intro version member
  rw [Bool.eq_false_iff]
  intro valid
  have newest := (current.newest ⟨version, member, valid⟩).1
  rw [invalid] at newest
  contradiction

-- Anything replaces a name that is not valid.
theorem Latest.replace (current : Latest semver versions latest)
    (invalid : semver.valid latest.name = false) (version : StreamingAppVersion) :
    Latest semver (versions ++ [version]) version where
  listed := List.mem_append_right _ (List.mem_singleton_self version)
  newest := by
    intro found
    obtain ⟨other, member, valid⟩ := found
    have none := current.all_invalid invalid
    cases List.mem_append.mp member with
    | inl earlier =>
        rw [none other earlier] at valid
        contradiction
    | inr here =>
        rw [List.mem_singleton.mp here] at valid
        refine ⟨valid, versions, [], rfl, ?_, by simp⟩
        intro other earlier valid
        rw [none other earlier] at valid
        contradiction
  last := fun _ => List.getLast?_concat

theorem Latest.not_newer (ordered : semver.Ordered) (current : Latest semver versions latest)
    (valid : semver.valid latest.name = true) :
    ∀ version ∈ versions, semver.valid version.name = true →
      semver.compare version.name latest.name ≤ 0 := by
  intro version member named
  obtain ⟨_, before, after, split, older, others⟩ := current.newest ⟨version, member, named⟩
  rw [split] at member
  cases List.mem_append.mp member with
  | inl early => exact Int.le_of_lt (older version early named)
  | inr rest =>
      cases List.mem_cons.mp rest with
      | inr late => exact others version late named
      | inl same =>
          have swap := ordered.swap latest.name latest.name valid valid
          rw [same]
          omega

-- A newer one replaces a valid name.
theorem Latest.supersede (ordered : semver.Ordered) (current : Latest semver versions latest)
    (valid : semver.valid latest.name = true) {version : StreamingAppVersion}
    (named : semver.valid version.name = true)
    (newer : semver.compare version.name latest.name = 1) :
    Latest semver (versions ++ [version]) version where
  listed := List.mem_append_right _ (List.mem_singleton_self version)
  newest := by
    intro _
    refine ⟨named, versions, [], rfl, ?_, by simp⟩
    intro other member valid'
    have bound := current.not_newer ordered valid other member valid'
    have swap := ordered.swap version.name other.name named valid'
    -- Were it as new as the version, the latest would be, too.
    by_contra as_new
    have below := ordered.trans version.name other.name latest.name named valid' valid
      (by omega) bound
    omega
  last := by
    intro invalid
    have here := invalid version (List.mem_append_right _ (List.mem_singleton_self version))
    rw [named] at here
    contradiction

-- Anything else leaves it.
theorem Latest.keep (ordered : semver.Ordered) (current : Latest semver versions latest)
    (valid : semver.valid latest.name = true) {version : StreamingAppVersion}
    (other : semver.valid version.name = true → semver.compare version.name latest.name ≠ 1) :
    Latest semver (versions ++ [version]) latest where
  listed := List.mem_append_left _ current.listed
  newest := by
    intro _
    obtain ⟨_, before, after, split, older, others⟩ :=
      current.newest ⟨latest, current.listed, valid⟩
    refine ⟨valid, before, after ++ [version], by simp [split], older, ?_⟩
    intro next member named
    cases List.mem_append.mp member with
    | inl earlier => exact others next earlier named
    | inr here =>
        rw [List.mem_singleton.mp here] at named ⊢
        have sign := ordered.sign version.name latest.name named valid
        have not_newer := other named
        omega
  last := by
    intro invalid
    have here := invalid latest (List.mem_append_left _ current.listed)
    rw [valid] at here
    contradiction

theorem Latest.next (ordered : semver.Ordered) {app : StreamingApp} {item : Item}
    (current : Latest semver versions app.latestVersion) :
    Latest semver (versions ++ [item.toVersion]) (withVersion semver item app).latestVersion := by
  cases valid : semver.valid app.latestVersion.name with
  | false =>
      have taken : isLatest semver item.version app = true := by simp [isLatest, valid]
      simp only [withVersion, taken, if_true]
      exact current.replace valid item.toVersion
  | true =>
      by_cases newer : semver.valid item.version = true ∧
          semver.compare item.version app.latestVersion.name = 1
      next =>
        have taken : isLatest semver item.version app = true := by
          simp [isLatest, newer.1, newer.2]
        simp only [withVersion, taken, if_true]
        exact current.supersede ordered valid newer.1 newer.2
      next =>
        have left : isLatest semver item.version app = false := by
          simpa [isLatest, valid] using newer
        simp only [withVersion, left, Bool.false_eq_true, if_false]
        exact current.keep ordered valid fun named one => newer ⟨named, one⟩

end Next

/-! ## The loop -/

-- The latest version of each application is the one of its versions.
def LatestKept (semver : Semver) (items : List Item) : Prop :=
  ∀ title app, (group semver items).apps.get? title = some app →
    Latest semver (versionsOf items title) app.latestVersion

theorem latestKept_concat (ordered : semver.Ordered) {before : List Item}
    (kept : LatestKept semver before) (item : Item) : LatestKept semver (before ++ [item]) := by
  intro title app stored
  rw [versionsOf_concat]
  cases visible : item.visible with
  | false =>
      rw [group_hidden visible] at stored
      simpa [visible] using kept title app stored
  | true =>
      have old : Placed before (group semver before) := placed before
      rw [group_visible visible, addItem_apps old.sound] at stored
      split at stored
      next same =>
        subst same
        cases stored
        have mine : (if (true && decide (item.title = item.title)) = true then [item.toVersion]
            else []) = [item.toVersion] := by simp
        rw [mine]
        cases known : (group semver before).apps.get? item.title with
        | some app => exact (kept item.title app known).next ordered
        | none =>
            have none : versionsOf before item.title = [] := by
              rw [← old.versions item.title, known]
              rfl
            have latest : (withVersion semver item item.toApp).latestVersion =
                item.toVersion := ite_self item.toVersion
            rw [none, List.nil_append, Option.getD_none, latest]
            exact latest_singleton item.toVersion
      next other =>
        have theirs : ¬ item.title = title := fun h => other h.symm
        simpa [theirs] using kept title app stored

theorem latestKept (ordered : semver.Ordered) (items : List Item) : LatestKept semver items := by
  induction items using List.reverseRecOn with
  | nil =>
      intro title app stored
      cases stored
  | append_singleton items item ih => exact latestKept_concat ordered ih item

/-- The latest version of each application shown is one of its versions, and the latest of them in
the order of the response. -/
theorem latestVersion_latest (ordered : semver.Ordered) (array : ArraySort) (response : Response)
    (grouping : Grouping) (loaded : getStreamingApps semver array response = .ok grouping)
    (page : String) (app : StreamingApp) (shown : grouping.Has page app) :
    app.latestVersion ∈ app.versions ∧
      Latest semver (versionsOf response.body.items app.title) app.latestVersion := by
  unfold getStreamingApps at loaded
  split at loaded
  next =>
    cases loaded
    obtain ⟨_, _, _, stored⟩ := shown
    obtain ⟨before, found, same⟩ := (sameApps_sortVersions _).known _ _ stored
    have latest := latestKept ordered response.body.items _ before found
    have whole : Placed response.body.items (group semver response.body.items) := placed _
    have versions := whole.versions_of_stored found
    rw [same.latest]
    refine ⟨?_, latest⟩
    rw [same.versions.mem_iff, versions]
    exact latest.listed
  next => contradiction

def inserting : ArraySort where
  sort comparator versions := versions.insertionSort fun a b => comparator a b ≤ 0
  perm _ versions := List.perm_insertionSort _ versions

-- A name that the package does not accept stands between two that it does.
def viewers : Response where
  status := 200
  statusText := "OK"
  body :=
    { items := [release "Viewer" "1.0.0" "Design", release "Viewer" "nightly" "Design",
        release "Viewer" "2.0.0" "Design"]
      ids_nodup := by decide }

theorem releases_ordered : releases.Ordered := by
  have names : ∀ a, releases.valid a = true → a = "1.0.0" ∨ a = "2.0.0" := by
    simp [releases]
  constructor
  next =>
    intro a b first second
    rcases names a first with rfl | rfl <;> rcases names b second with rfl | rfl <;> decide
  next =>
    intro a b first second
    rcases names a first with rfl | rfl <;> rcases names b second with rfl | rfl <;> decide
  next =>
    intro a b c first second third
    rcases names a first with rfl | rfl <;> rcases names b second with rfl | rfl <;>
      rcases names c third with rfl | rfl <;> decide

def viewer : StreamingApp :=
  { (release "Viewer" "1.0.0" "Design").toApp with
    latestVersion := (release "Viewer" "2.0.0" "Design").toVersion
    versions := ["2.0.0", "1.0.0", "nightly"].map fun name =>
      (release "Viewer" name "Design").toVersion }

theorem latestVersion_latest_viewers :
    viewer.latestVersion ∈ viewer.versions ∧
      Latest releases (versionsOf viewers.body.items viewer.title) viewer.latestVersion :=
  latestVersion_latest releases_ordered inserting viewers _ rfl "Design" viewer
    ⟨["Viewer"], by decide, by decide, by decide⟩

end StreamingPortal.Web.Apps
