import StreamingPortal.Shared.Comparators
import StreamingPortal.Web.LatestVersion

set_option autoImplicit false

/-!
# The order of the versions

The versions of an application are sorted again for every page that shows it. What that makes of
them is specified where the comparator of `getStreamingApps` is consistent for them.
-/

namespace StreamingPortal.Web.Apps

/-- What ECMAScript specifies of the sort. -/
def ArraySort.Conforms (array : ArraySort) : Prop :=
  ∀ comparator versions, Consistent comparator versions →
    StablySorted comparator versions (array.sort comparator versions)

theorem stable_conforms : stable.Conforms := fun _ _ consistent => stablySorted_sortWith consistent

variable (semver : Semver)

def newer (a b : StreamingAppVersion) : Int := -semver.compare a.name b.name

-- The valid names, the newest first, and after them the other ones as they are in the response.
def newestFirst (versions : List StreamingAppVersion) : List StreamingAppVersion :=
  sortWith (newer semver) (versions.filter (semver.valid ·.name)) ++
    versions.filter (!semver.valid ·.name)

/-- The comparator is consistent for the versions of the application, and whatever the engine does,
they are in this order on every page. -/
structure OrderSpecified (response : Response) (title : String) : Prop where
  consistent : Consistent (compareVersions semver) (versionsOf response.body.items title)
  specified : ∀ array : ArraySort, array.Conforms → ∀ grouping,
    getStreamingApps semver array response = .ok grouping → ∀ page app, grouping.Has page app →
      app.title = title → app.versions = newestFirst semver (versionsOf response.body.items title)

variable {semver} {versions : List StreamingAppVersion}

/-! ## The comparator -/

theorem compareVersions_of_valid
    (valid : ∀ version ∈ versions, semver.valid version.name = true) :
    ∀ a ∈ versions, ∀ b ∈ versions, newer semver a b = compareVersions semver a b := by
  intro a first b second
  simp [compareVersions, newer, valid a first, valid b second]

theorem newer_consistent (ordered : semver.Ordered)
    (valid : ∀ version ∈ versions, semver.valid version.name = true) :
    Consistent (newer semver) versions where
  same a first := by
    have swap := ordered.swap a.name a.name (valid a first) (valid a first)
    unfold newer
    omega
  swap a first b second := by
    have swap := ordered.swap a.name b.name (valid a first) (valid b second)
    unfold newer
    omega
  trans a first b second c third := by
    have swap := ordered.swap a.name b.name (valid a first) (valid b second)
    have swap' := ordered.swap b.name c.name (valid b second) (valid c third)
    have swap'' := ordered.swap a.name c.name (valid a first) (valid c third)
    have below := ordered.trans c.name b.name a.name (valid c third) (valid b second)
      (valid a first)
    unfold newer
    omega

/-- It is consistent exactly for names that are valid. -/
theorem compareVersions_consistent_iff (ordered : semver.Ordered) :
    Consistent (compareVersions semver) versions ↔
      ∀ version ∈ versions, semver.valid version.name = true := by
  constructor
  next =>
    intro consistent version listed
    have same := consistent.same version listed
    -- An invalid name comes after anything, itself included.
    by_contra invalid
    rw [Bool.not_eq_true] at invalid
    simp [compareVersions, invalid] at same
  next =>
    intro valid
    exact (newer_consistent ordered valid).congr (compareVersions_of_valid valid)

theorem newestFirst_stablySorted (ordered : semver.Ordered)
    (valid : ∀ version ∈ versions, semver.valid version.name = true) :
    StablySorted (compareVersions semver) versions (newestFirst semver versions) := by
  have front : versions.filter (semver.valid ·.name) = versions := List.filter_eq_self.mpr valid
  have back : versions.filter (!semver.valid ·.name) = [] := by
    simpa [List.filter_eq_nil_iff] using valid
  rw [newestFirst, front, back, List.append_nil]
  exact (stablySorted_sortWith (newer_consistent ordered valid)).congr
    (compareVersions_of_valid valid)

/-! ## The loop over the pages -/

section Loop

variable {array : ArraySort}

theorem get?_sortSet {title : String} {app : StreamingApp}
    (settled : sortApp semver array (sortApp semver array app) = sortApp semver array app)
    (set : List String) (apps : OrderedMap String StreamingApp)
    (stored : apps.get? title = some app) :
    (sortSet semver array apps set).get? title =
      some (if title ∈ set then sortApp semver array app else app) := by
  induction set generalizing apps app with
  | nil => simpa [sortSet] using stored
  | cons first rest ih =>
      have next := OrderedMap.get?_modify apps first title (sortApp semver array)
      by_cases here : title = first
      next =>
        subst here
        rw [if_pos rfl, stored, Option.map_some] at next
        have again := ih (by rw [settled, settled]) _ next
        rw [sortSet, List.foldl_cons, ← sortSet, again, settled]
        simp
      next =>
        rw [if_neg here, stored] at next
        rw [sortSet, List.foldl_cons, ← sortSet, ih settled _ next]
        simp [here]

-- The two loops go through the titles of one list.
theorem sortVersions_apps (g : Grouping) :
    (sortVersions semver array g).apps = sortSet semver array g.apps
      (g.pages.values.flatMap fun ref => (g.sets[ref]?).getD []) := by
  rw [sortSet, List.foldl_flatMap]
  rfl

theorem titles_of_has {g : Grouping} {page : String} {app : StreamingApp}
    (shown : (sortVersions semver array g).Has page app) :
    app.title ∈ g.pages.values.flatMap fun ref => (g.sets[ref]?).getD [] := by
  obtain ⟨set, found, listed, -⟩ := shown
  obtain ⟨ref, known, object⟩ := Option.bind_eq_some_iff.mp found
  have value : ref ∈ g.pages.values :=
    List.mem_map_of_mem (f := Prod.snd) (OrderedMap.mem_of_get? known)
  have object' : g.sets[ref]? = some set := object
  exact List.mem_flatMap.mpr ⟨ref, value, by simpa [object'] using listed⟩

end Loop

/-- The order is specified exactly if every name is one that `semver.valid` accepts. -/
theorem order_specified_iff (ordered : semver.Ordered) (response : Response) (title : String) :
    OrderSpecified semver response title ↔
      ∀ version ∈ versionsOf response.body.items title, semver.valid version.name = true := by
  constructor
  next => exact fun order => (compareVersions_consistent_iff ordered).mp order.consistent
  next =>
    intro valid
    have consistent := (compareVersions_consistent_iff ordered).mpr valid
    refine ⟨consistent, ?_⟩
    intro array conforms grouping loaded page app shown titled
    unfold getStreamingApps at loaded
    split at loaded
    next =>
      cases loaded
      subst titled
      obtain ⟨_, _, _, stored⟩ := id shown
      obtain ⟨before, found, -⟩ := (sameApps_sortVersions _).known _ _ stored
      have whole : Placed response.body.items (group semver response.body.items) := placed _
      have versions := whole.versions_of_stored found
      have once := conforms _ _ consistent
      have twice := conforms _ _ (consistent.subset fun _ member => once.perm.mem_iff.mp member)
      have settled : sortApp semver array (sortApp semver array before) =
          sortApp semver array before := by
        simp only [sortApp, versions, once.again consistent twice]
      rw [sortVersions_apps, get?_sortSet settled _ _ found, if_pos (titles_of_has shown),
        Option.some.injEq] at stored
      have sorted := congrArg StreamingApp.versions stored
      simp only [sortApp, versions] at sorted
      rw [← sorted]
      exact once.unique consistent (newestFirst_stablySorted ordered valid)
    next => contradiction

def shipped : Response where
  status := 200
  statusText := "OK"
  body :=
    { items := [release "Viewer" "1.0.0" "Design", release "Viewer" "2.0.0" "Preview"]
      ids_nodup := by decide }

theorem order_specified_shipped : OrderSpecified releases shipped "Viewer" :=
  (order_specified_iff releases_ordered shipped "Viewer").mpr (by decide)

-- Each of two names that are not valid comes after the other one.
def nightlies : Response where
  status := 200
  statusText := "OK"
  body :=
    { items := [release "Viewer" "nightly" "Design", release "Viewer" "preview" "Design"]
      ids_nodup := by decide }

theorem nightlies_not_specified :
    releases.Ordered ∧ ¬ OrderSpecified releases nightlies "Viewer" := by
  refine ⟨releases_ordered, fun order => ?_⟩
  have swap := order.consistent.swap (release "Viewer" "nightly" "Design").toVersion (by decide)
    (release "Viewer" "preview" "Design").toVersion (by decide)
  exact absurd swap (by decide)

end StreamingPortal.Web.Apps
