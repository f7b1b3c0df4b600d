import Mathlib.Logic.Relation
import StreamingPortal.Shared.OrderedMap
import StreamingPortal.Shared.Prefixes

set_option autoImplicit false

/-!
# Applications by page

The loop of `getStreamingApps`, with the identity of the objects that it shares: a `Set` is known by
its place among those created, and an application object by the title that it was created for.
-/

namespace StreamingPortal.Web.Apps

open StreamingPortal.Prefixes

/-- `other` is a status that the enumeration does not name. -/
inductive AppStatus
  | active
  | degrading
  | degraded
  | inactive
  | error
  | unknown
  | other (status : String)
deriving DecidableEq

/-- The fields of `StreamingAppResponseItem` that the loop reads. -/
structure Item where
  id : String
  functionId : String
  functionVersionId : String
  title : String
  version : String
  icon : String
  page : String
  category : String
  status : AppStatus
  productArea : String
  mediaServer : Option String
  mediaPort : Option Int
deriving DecidableEq

structure StreamingAppVersion where
  id : String
  name : String
  functionId : String
  functionVersionId : String
  status : AppStatus
deriving DecidableEq

structure StreamingApp where
  id : String
  title : String
  productArea : String
  icon : String
  category : String
  page : String
  latestVersion : StreamingAppVersion
  versions : List StreamingAppVersion
  mediaServer : Option String
  mediaPort : Option Int
deriving DecidableEq

/-- The `semver` package; both arguments of `compare` are valid wherever it is called. -/
structure Semver where
  valid : String → Bool
  compare : String → String → Int

/-- `Array.prototype.sort`: the order that a comparator without one leaves is up to the engine. -/
structure ArraySort where
  sort : (StreamingAppVersion → StreamingAppVersion → Int) → List StreamingAppVersion →
    List StreamingAppVersion
  perm : ∀ comparator versions, (sort comparator versions).Perm versions

structure HttpError where
  message : String
  status : Nat
deriving DecidableEq

/-- `GET /apps/`; the id is the primary key of the applications. -/
structure Body where
  items : List Item
  ids_nodup : (items.map Item.id).Nodup

structure Response where
  status : Nat
  statusText : String
  body : Body

def Response.ok (response : Response) : Bool := 200 ≤ response.status && response.status ≤ 299

/-- The `Set` objects with the titles of their applications, and the two maps of the loop. -/
structure Grouping where
  sets : List (List String)
  pages : OrderedMap String Nat
  apps : OrderedMap String StreamingApp

namespace Grouping

def empty : Grouping := ⟨[], OrderedMap.empty, OrderedMap.empty⟩

-- The `Set` stored under a page.
def set? (g : Grouping) (page : String) : Option (List String) :=
  (g.pages.get? page).bind fun ref => g.sets[ref]?

-- The application is in the `Set` stored under the page.
def Has (g : Grouping) (page : String) (app : StreamingApp) : Prop :=
  ∃ set, g.set? page = some set ∧ app.title ∈ set ∧ g.apps.get? app.title = some app

end Grouping

/-! ## The loop -/

def visibleStatuses : List AppStatus := [.active, .degraded, .degrading]

def Item.visible (item : Item) : Bool := item.status ∈ visibleStatuses

def Item.toVersion (item : Item) : StreamingAppVersion where
  id := item.id
  name := item.version
  functionId := item.functionId
  functionVersionId := item.functionVersionId
  status := item.status

def Item.toApp (item : Item) : StreamingApp where
  id := item.id
  title := item.title
  productArea := item.productArea
  icon := item.icon
  category := item.category
  page := item.page
  latestVersion := item.toVersion
  versions := []
  mediaServer := item.mediaServer
  mediaPort := item.mediaPort

-- `Set.prototype.add`.
def addTo (title : String) (set : List String) : List String :=
  if title ∈ set then set else set ++ [title]

variable (semver : Semver)

def isLatest (version : String) (app : StreamingApp) : Bool :=
  !semver.valid app.latestVersion.name ||
    (semver.valid version && semver.compare version app.latestVersion.name == 1)

-- The application object after the item has been put into it.
def withVersion (item : Item) (app : StreamingApp) : StreamingApp :=
  { app with
    latestVersion := if isLatest semver item.version app then item.toVersion else app.latestVersion
    versions := app.versions ++ [item.toVersion] }

-- `pages.get(item.page) ?? new Set()`.
def pageSet (g : Grouping) (page : String) : Nat × List (List String) :=
  match g.pages.get? page with
  | some ref => (ref, g.sets)
  | none => (g.sets.length, g.sets ++ [[]])

def addItem (g : Grouping) (item : Item) : Grouping :=
  let (ref, sets) := pageSet g item.page
  let app := withVersion semver item ((g.apps.get? item.title).getD item.toApp)
  { sets := sets.modify ref (addTo app.title)
    pages := g.pages.set app.page ref
    apps := g.apps.set app.title app }

def step (g : Grouping) (item : Item) : Grouping :=
  if item.visible then addItem semver g item else g

def group (items : List Item) : Grouping := items.foldl (step semver) Grouping.empty

/-! ## The order of the versions -/

def compareVersions (a b : StreamingAppVersion) : Int :=
  if !semver.valid a.name then 1
  else if !semver.valid b.name then -1
  else -semver.compare a.name b.name

variable (array : ArraySort)

def sortApp (app : StreamingApp) : StreamingApp :=
  { app with versions := array.sort (compareVersions semver) app.versions }

def sortSet (apps : OrderedMap String StreamingApp) (set : List String) :
    OrderedMap String StreamingApp :=
  set.foldl (fun apps title => apps.modify title (sortApp semver array)) apps

-- The loop over `pages.values()`.
def sortVersions (g : Grouping) : Grouping :=
  { g with
    apps := g.pages.values.foldl
      (fun apps ref => sortSet semver array apps ((g.sets[ref]?).getD [])) g.apps }

def getStreamingApps (response : Response) : Except HttpError Grouping :=
  if response.ok then .ok (sortVersions semver array (group semver response.body.items))
  else .error
    ⟨"Failed to load streaming applications -- HTTP" ++ toString response.status ++ ".\n" ++
      response.statusText, response.status⟩

/-! ## What is not to be lost -/

-- The item is a version of one application, once, and that one is in the `Set` under its page.
def Appears (g : Grouping) (item : Item) : Prop :=
  ∃ app, g.Has app.page app ∧ app.versions.count item.toVersion = 1 ∧
    ∀ page other, g.Has page other → item.toVersion ∈ other.versions → other = app

-- No page's `Set` is without an application that it had.
def Retains (g g' : Grouping) : Prop :=
  ∀ page set, g.set? page = some set → ∀ title ∈ set,
    ∃ set', g'.set? page = some set' ∧ title ∈ set'

structure NoneLost (body : Body) : Prop where
  retained : Throughout
    (fun before item => Retains (group semver before) (group semver (before ++ [item]))) body.items
  appears : ∀ response grouping, response.body = body →
    getStreamingApps semver array response = .ok grouping →
    ∀ item ∈ body.items, item.visible = true → Appears grouping item

/-! ## Pages that items share -/

-- The page of the first visible item with the title.
def pageOf (items : List Item) (title : String) : Option String :=
  (items.find? fun item => item.visible && item.title = title).map Item.page

-- A title of the first page came back on the second, which another title had been put on.
def Joins (items : List Item) (page other : String) : Prop :=
  ∃ before item after, items = before ++ item :: after ∧ item.visible = true ∧
    pageOf before item.title = some page ∧ item.page = other ∧
    ∃ title, pageOf before title = some other

-- Two pages that such items have joined, directly or through others.
def Joined (items : List Item) : String → String → Prop := Relation.EqvGen (Joins items)

/-- The item does not bring a title back on another page, or that page has been joined with the
title's own, or the title is the only one there. -/
def Harmless (before : List Item) (item : Item) : Prop :=
  item.visible = true → ∀ page, pageOf before item.title = some page → page ≠ item.page →
    Joined before page item.page ∨
      ∀ title other, pageOf before title = some other → Joined before page other →
        title = item.title

end StreamingPortal.Web.Apps
