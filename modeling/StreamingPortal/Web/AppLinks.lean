import StreamingPortal.Web.Router
import StreamingPortal.Shared.Table

set_option autoImplicit false

/-!
# Links to applications

The link of `ActiveApplicationCard`, the route it opens, and the way of `getStreamingApp`'s request
to a row of the published applications.
-/

namespace StreamingPortal.Web.AppLinks

open Utf8 Percent Url Router

universe u

/-! ## The portal -/

-- The `href` of `ActiveApplicationCard`.
def cardHref (appId resolution : List Char) : List Char :=
  "/app/".toList ++ appId ++ "/sessions?resolution=".toList ++ resolution

/-- The path of `config.endpoints.backend`, which is the backend's `root_path`. -/
structure Endpoint where
  root : List (List Char)
  plain : Plain root

-- The path that `fetch` asks for in `getStreamingApp`.
def getStreamingAppPath (backend : Endpoint) (appId : List Char) : List Char :=
  (parse (joinPath backend.root ++ "/apps/".toList ++ appId)).pathname

/-! ## The backend -/

-- What the server makes of the path of a request.
def unquote (path : List Char) : List Char := decode (percentDecode path)

-- starlette's `get_route_path`.
def getRoutePath (root path : List Char) : List Char :=
  let rest := path.drop root.length
  if root.isPrefixOf path ∧ (rest = [] ∨ rest.head? = some '/') then rest else path

-- `$` also matches in front of a final line break.
def withoutFinalBreak (text : List Char) : List Char :=
  if text.getLast? = some '\n' then text.dropLast else text

-- The group `.*` of `{app_id:path}`, which no line break matches.
def pathParam (text : List Char) : Option (List Char) :=
  if '\n' ∈ withoutFinalBreak text then none else some (withoutFinalBreak text)

-- `/apps/{app_id:path}`.
def matchApp (path : List Char) : Option (List Char) :=
  if "/apps/".toList.isPrefixOf path then pathParam (path.drop "/apps/".length) else none

/-- The columns that no route looks at are left open. -/
structure PublishedApp (σ : Type u) where
  id : List Char
  columns : σ

abbrev PublishedApps (σ : Type u) := Table (List Char) (PublishedApp σ) PublishedApp.id

-- `publish_app`; `none` is the 400 of an empty id.
def publishApp {σ : Type u} (apps : PublishedApps σ) (appId : List Char) (columns : σ) :
    Option (PublishedApps σ) :=
  if appId = [] then none
  else
    match apps.get? appId with
    | some _ => some (apps.update appId (fun app => { app with columns }) fun _ => rfl)
    | none => apps.insert? ⟨appId, columns⟩

-- `get_app_info`; a request without an id goes to `get_apps`.
def getAppInfo {σ : Type u} (apps : PublishedApps σ) (backend : Endpoint) (path : List Char) :
    Option (PublishedApp σ) :=
  match matchApp (getRoutePath (joinPath backend.root) (unquote path)) with
  | none | some [] => none
  | some appId => apps.get? appId

/-- The card's link leads to the list of the application's sessions, and the request made there to
the application's row. -/
structure Opens {σ : Type u} (apps : PublishedApps σ) (backend : Endpoint)
    (appId resolution : List Char) : Prop where
  matched : matchRoutes (parse (cardHref appId resolution)).pathname =
    some (.appStreamList, [appId])
  found : ∃ app, getAppInfo apps backend (getStreamingAppPath backend appId) = some app ∧
    app.id = appId

/-! ## The ids that can be opened -/

/-- An id that stands in both URLs as it is. -/
structure Openable (appId : List Char) : Prop where
  separators : ∀ c ∈ "/\\?#\t\n\r".toList, c ∉ appId
  dots : isDots appId = false
  escape : hasEscape appId = false
  last : ∀ c ∈ appId.getLast?, isControlOrSpace c = false
  percent : '%' ∈ appId → ∀ c ∈ appId, pathSet c = false

theorem getRoutePath_root (root rest : List Char) :
    getRoutePath root (root ++ '/' :: rest) = '/' :: rest := by
  simp [getRoutePath]

theorem matchApp_apps (rest : List Char) : matchApp ("/apps/".toList ++ rest) = pathParam rest := by
  rfl

theorem pathParam_length {text param : List Char} (found : pathParam text = some param) :
    param.length ≤ text.length := by
  unfold pathParam at found
  split at found
  next => contradiction
  next =>
    rw [Option.some.injEq] at found
    subst found
    unfold withoutFinalBreak
    split
    next => simp
    next => exact Nat.le_refl _

theorem pathParam_plain {text : List Char} (plain : '\n' ∉ text) : pathParam text = some text := by
  have last : text.getLast? ≠ some '\n' := fun last => plain (List.mem_of_getLast? last)
  simp [pathParam, withoutFinalBreak, last, plain]

/-! ## The card's link -/

-- The part of an id that the URL parser keeps in the path.
def keptInPath (appId : List Char) : List Char :=
  ((appId.filter (!isTabOrNewline ·)).takeWhile (· != '#')).takeWhile (· != '?')

theorem preprocess_cardHref (appId resolution : List Char) :
    ∃ rest, preprocess (cardHref appId resolution) =
      "/app/".toList ++ appId.filter (!isTabOrNewline ·) ++ "/sessions?".toList ++ rest := by
  have shape : cardHref appId resolution =
      '/' :: (("app/".toList ++ appId ++ "/sessions?resolution".toList) ++ '=' :: resolution) := by
    have equals : ∀ front : List Char, front ++ "/sessions?resolution=".toList ++ resolution =
        front ++ "/sessions?resolution".toList ++ '=' :: resolution := by
      intro front
      simp
    exact equals ("/app/".toList ++ appId)
  rw [shape, preprocess_slash, rdropWhile_append_cons (by decide), List.filter_append,
    List.filter_append, List.filter_append]
  refine ⟨"resolution".toList ++ ('=' :: resolution.rdropWhile isControlOrSpace).filter
    (!isTabOrNewline ·), ?_⟩
  have front : "app/".toList.filter (!isTabOrNewline ·) = "app/".toList := by decide
  have back : "/sessions?resolution".toList.filter (!isTabOrNewline ·) =
      "/sessions?".toList ++ "resolution".toList := by decide
  have slash : ∀ text : List Char, '/' :: ("app/".toList ++ text) = "/app/".toList ++ text :=
    fun _ => rfl
  simp only [front, back, List.append_assoc, slash]

theorem mem_filter_lines {s : List Char} {c : Char} (visible : isTabOrNewline c = false) :
    c ∈ s.filter (!isTabOrNewline ·) ↔ c ∈ s := by
  simp [visible]

-- A hash or a question mark in the id cuts the rest of the path off.
theorem pathPart_cardHref (appId resolution : List Char) :
    pathPart (preprocess (cardHref appId resolution)) =
      joinPath (["app".toList, keptInPath appId] ++
        if '#' ∈ appId ∨ '?' ∈ appId then [] else ["sessions".toList]) := by
  obtain ⟨rest, stripped⟩ := preprocess_cardHref appId resolution
  have front : ∀ c ∈ "/app/".toList, (c != '#') = true ∧ (c != '?') = true := by decide
  have back : '#' ∉ "/sessions".toList ∧ '?' ∉ "/sessions".toList := by decide
  have join : ∀ segment, joinPath ["app".toList, segment] = "/app/".toList ++ segment := by
    intro segment
    simp [joinPath]
  have join_sessions : ∀ segment, joinPath ["app".toList, segment, "sessions".toList] =
      "/app/".toList ++ (segment ++ "/sessions".toList) := by
    intro segment
    simp [joinPath]
  have whole : "/app/".toList ++ appId.filter (!isTabOrNewline ·) ++ "/sessions?".toList ++ rest =
      "/app/".toList ++
        (appId.filter (!isTabOrNewline ·) ++ ("/sessions".toList ++ '?' :: rest)) := by
    simp
  rw [stripped, whole, pathPart, beforeFragment,
    takeWhile_all_append fun c inside => (front c inside).1,
    takeWhile_all_append fun c inside => (front c inside).2]
  by_cases hash : '#' ∈ appId.filter (!isTabOrNewline ·)
  next =>
    obtain ⟨before, after, shape, absent⟩ := List.eq_append_cons_of_mem hash
    have kept : keptInPath appId = before.takeWhile (· != '?') := by
      rw [keptInPath, shape, takeWhile_all_append (bne_of_not_mem absent),
        List.takeWhile_cons_of_neg (by simp), List.append_nil]
    rw [if_pos (Or.inl ((mem_filter_lines (by decide)).1 hash)), List.append_nil, join, kept, shape,
      List.append_assoc, takeWhile_all_append (bne_of_not_mem absent), List.cons_append,
      List.takeWhile_cons_of_neg (by simp), List.append_nil]
  next =>
    have cut : keptInPath appId = (appId.filter (!isTabOrNewline ·)).takeWhile (· != '?') := by
      rw [keptInPath, takeWhile_of_not_mem hash]
    rw [takeWhile_all_append (bne_of_not_mem hash), takeWhile_all_append (bne_of_not_mem back.1),
      List.takeWhile_cons_of_pos (by decide)]
    by_cases mark : '?' ∈ appId.filter (!isTabOrNewline ·)
    next =>
      obtain ⟨before, after, shape, absent⟩ := List.eq_append_cons_of_mem mark
      rw [if_pos (Or.inr ((mem_filter_lines (by decide)).1 mark)), List.append_nil, join, cut,
        shape,
        List.append_assoc, takeWhile_all_append (bne_of_not_mem absent),
        takeWhile_all_append (bne_of_not_mem absent), List.cons_append,
        List.takeWhile_cons_of_neg (by simp), List.takeWhile_cons_of_neg (by simp)]
    next =>
      have neither : ¬('#' ∈ appId ∨ '?' ∈ appId) := by
        rw [← mem_filter_lines (c := '#') (by decide), ← mem_filter_lines (c := '?') (by decide)]
        exact not_or.2 ⟨hash, mark⟩
      rw [if_neg neither, cut, takeWhile_of_not_mem mark, List.cons_append, List.cons_append,
        List.nil_append, join_sessions, takeWhile_all_append (bne_of_not_mem mark),
        takeWhile_all_append (bne_of_not_mem back.2), List.takeWhile_cons_of_neg (by simp),
        List.append_nil]

theorem segments_cardHref {appId resolution segment : List Char}
    (member : segment ∈ segments (pathPart (preprocess (cardHref appId resolution)))) :
    segment = "app".toList ∨ segment = "sessions".toList ∨
      segment ∈ (keptInPath appId).splitOnP isSlash := by
  have app : "app".toList.splitOnP isSlash = ["app".toList] :=
    List.splitOnP_eq_singleton (by decide)
  have sessions : "sessions".toList.splitOnP isSlash = ["sessions".toList] :=
    List.splitOnP_eq_singleton (by decide)
  rw [pathPart_cardHref, segments, splitOnP_joinPath (by decide), List.flatMap_append,
    List.flatMap_cons, List.flatMap_cons, List.flatMap_nil, List.append_nil, app] at member
  rcases List.mem_append.1 member with front | back
  · rcases List.mem_append.1 front with first | second
    · exact Or.inl (List.mem_singleton.1 first)
    · exact Or.inr (Or.inr second)
  · split at back
    next => simp at back
    next =>
      rw [List.flatMap_cons, List.flatMap_nil, List.append_nil, sessions] at back
      exact Or.inr (Or.inl (List.mem_singleton.1 back))

-- A lone `%` stays in the path, and the router cannot decode it.
theorem decodeURIComponent_encoded {appId : List Char} (escape : hasEscape appId = false) :
    decodeURIComponent (percentEncode pathSet appId) =
      if '%' ∈ appId then none else some appId := by
  have bytes : percentDecode (percentEncode pathSet appId) = encode appId := by
    rw [percentDecode_percentEncode_keeps keeps_pathSet, percentDecode, pieces_of_no_escape escape,
      flat_chars]
  have lone : Piece.char '%' ∈ pieces (percentEncode pathSet appId) ↔ '%' ∈ appId := by
    rw [pieces_percentEncode keeps_pathSet, pieces_of_no_escape escape, List.mem_flatMap]
    constructor
    next =>
      intro spelled
      obtain ⟨piece, member, inside⟩ := spelled
      obtain ⟨c, origin, rfl⟩ := List.mem_map.1 member
      simp only [encodePiece] at inside
      split at inside
      next => simp at inside
      next =>
        rw [List.mem_singleton, Piece.char.injEq] at inside
        rwa [inside]
    next =>
      intro member
      refine ⟨.char '%', List.mem_map_of_mem member, ?_⟩
      simp [encodePiece, keeps_pathSet.percent]
  rw [decodeURIComponent, bytes, decode?_encode]
  by_cases percent : '%' ∈ appId
  next => rw [if_pos (lone.2 percent), if_pos percent]
  next => rw [if_neg fun member => percent (lone.1 member), if_neg percent]

theorem keptInPath_of_openable {appId : List Char} (openable : Openable appId) :
    keptInPath appId = appId ∧ ¬('#' ∈ appId ∨ '?' ∈ appId) := by
  have absent := openable.separators
  have lines : appId.filter (!isTabOrNewline ·) = appId := by
    apply List.filter_eq_self.2
    intro c member
    rw [Bool.not_eq_true', Bool.eq_false_iff]
    intro listed
    rcases isTabOrNewline_cases listed with rfl | rfl | rfl
    · exact absent _ (by decide) member
    · exact absent _ (by decide) member
    · exact absent _ (by decide) member
  rw [keptInPath, lines, takeWhile_of_not_mem (absent '#' (by decide)),
    takeWhile_of_not_mem (absent '?' (by decide))]
  exact ⟨rfl, not_or.2 ⟨absent '#' (by decide), absent '?' (by decide)⟩⟩

theorem isSlash_of_openable {appId : List Char} (openable : Openable appId) :
    ∀ c ∈ appId, isSlash c = false := by
  intro c member
  rw [Bool.eq_false_iff]
  intro slash
  simp only [isSlash, Bool.or_eq_true, beq_iff_eq] at slash
  rcases slash with rfl | rfl
  · exact openable.separators _ (by decide) member
  · exact openable.separators _ (by decide) member

theorem pushSegment_of_openable {appId : List Char} (openable : Openable appId) (last : Bool)
    (path : List (List Char)) :
    pushSegment last path appId = path ++ [percentEncode pathSet appId] := by
  have dots := openable.dots
  simp only [isDots, Bool.or_eq_false_iff] at dots
  simp [pushSegment, dots.1, dots.2]

theorem no_slash_percentEncode {segment : List Char} (plain : '/' ∉ segment) :
    '/' ∉ percentEncode pathSet segment := by
  intro member
  rcases mem_percentEncode member with ⟨inside, -⟩ | mark | hex
  · exact plain inside
  · exact absurd mark (by decide)
  · exact absurd hex (by decide)

theorem matched_of_openable {appId : List Char} (nonempty : appId ≠ [])
    (openable : Openable appId) (resolution : List Char) :
    matchRoutes (parse (cardHref appId resolution)).pathname =
      some (.appStreamList, [appId]) := by
  obtain ⟨kept, neither⟩ := keptInPath_of_openable openable
  have slash := isSlash_of_openable openable
  have app : "app".toList.splitOnP isSlash = ["app".toList] :=
    List.splitOnP_eq_singleton (by decide)
  have sessions : "sessions".toList.splitOnP isSlash = ["sessions".toList] :=
    List.splitOnP_eq_singleton (by decide)
  have pushed : pushSegments [] ["app".toList, appId, "sessions".toList] =
      ["app".toList, percentEncode pathSet appId, "sessions".toList] := by
    have front : pushSegment false [] "app".toList = ["app".toList] := by decide
    have back : ∀ path, pushSegment true path "sessions".toList = path ++ ["sessions".toList] := by
      intro path
      have plain : isDots "sessions".toList = false := by decide
      exact pushSegment_plain (by decide) plain true path
    rw [pushSegments_cons_cons, pushSegments_cons_cons, pushSegments_singleton, front,
      pushSegment_of_openable openable, back]
    rfl
  have pathname : (parse (cardHref appId resolution)).pathname =
      joinPath ["app".toList, percentEncode pathSet appId, "sessions".toList] := by
    have split : segments (joinPath ["app".toList, appId, "sessions".toList]) =
        ["app".toList, appId, "sessions".toList] := by
      rw [segments, splitOnP_joinPath (by decide), List.flatMap_cons, List.flatMap_cons,
        List.flatMap_cons, app, sessions, List.splitOnP_eq_singleton slash]
      rfl
    rw [parse, pathPart_cardHref, if_neg neither, kept, List.cons_append, List.cons_append,
      List.nil_append, split, pushed]
  have slashes : ∀ segment ∈ ["app".toList, percentEncode pathSet appId, "sessions".toList],
      '/' ∉ segment := by
    intro segment member
    rcases List.mem_cons.1 member with rfl | later
    · decide
    · rcases List.mem_cons.1 later with rfl | last
      · exact no_slash_percentEncode (openable.separators '/' (by decide))
      · rw [List.mem_singleton.1 last]
        decide
  have decoded : decodePath ["app".toList, percentEncode pathSet appId, "sessions".toList] =
      ["app".toList, appId, "sessions".toList] := by
    have first : decodeURIComponent "app".toList = some "app".toList :=
      decodeURIComponent_unreserved (by decide)
    have third : decodeURIComponent "sessions".toList = some "sessions".toList :=
      decodeURIComponent_unreserved (by decide)
    have second := decodeURIComponent_encoded openable.escape
    by_cases percent : '%' ∈ appId
    next =>
      rw [if_pos percent] at second
      have same : percentEncode pathSet appId = appId :=
        percentEncode_of_not_set (openable.percent percent)
      rw [same] at second ⊢
      simp only [decodePath, List.mapM_cons, first, second, Option.bind_eq_bind, Option.bind_some,
        Option.bind_none, Option.getD_none]
    next =>
      rw [if_neg percent] at second
      simp only [decodePath, List.mapM_cons, List.mapM_nil, first, second, third,
        Option.bind_eq_bind, Option.bind_some, Option.pure_def, Option.getD_some]
  rw [matchRoutes, pathname, pathSegments_joinPath slashes (by simp), decoded]
  simp [router, List.findSome?_cons, nonempty]

/-! ## What a matched link says about the id -/

theorem mem_splitOnP {p : Char → Bool} {s part : List Char} (member : part ∈ s.splitOnP p) :
    part.Sublist s ∧ ∀ c ∈ part, p c = false := by
  induction s generalizing part with
  | nil =>
    rw [List.splitOnP_nil, List.mem_singleton] at member
    simp [member]
  | cons c s ih =>
    rw [List.splitOnP_cons_eq_if_modifyHead] at member
    split at member
    next =>
      rcases List.mem_cons.1 member with rfl | later
      · simp
      · obtain ⟨inside, plain⟩ := ih later
        exact ⟨inside.trans (List.sublist_cons_self c s), plain⟩
    next other =>
      obtain ⟨first, rest, shape⟩ := List.exists_cons_of_ne_nil (List.splitOnP_ne_nil p s)
      rw [shape] at ih
      rw [shape, List.modifyHead_cons] at member
      rcases List.mem_cons.1 member with rfl | later
      · obtain ⟨inside, plain⟩ := ih List.mem_cons_self
        refine ⟨inside.cons_cons c, ?_⟩
        intro d within
        rcases List.mem_cons.1 within with rfl | deeper
        · simpa using other
        · exact plain d deeper
      · obtain ⟨inside, plain⟩ := ih (List.mem_cons_of_mem _ later)
        exact ⟨inside.trans (List.sublist_cons_self c s), plain⟩

-- What is pushed: nothing but the segments that are no dots, escaped.
theorem mem_pushSegments {path segments : List (List Char)} {segment : List Char}
    (member : segment ∈ pushSegments path segments) :
    segment ∈ path ∨ segment = [] ∨
      ∃ origin ∈ segments, isDots origin = false ∧ segment = percentEncode pathSet origin := by
  have step : ∀ {last : Bool} {path : List (List Char)} {next segment : List Char},
      segment ∈ pushSegment last path next → segment ∈ path ∨ segment = [] ∨
        isDots next = false ∧ segment = percentEncode pathSet next := by
    intro last path next segment pushed
    unfold pushSegment at pushed
    split at pushed
    next =>
      rcases List.mem_append.1 pushed with kept | added
      · exact Or.inl (List.dropLast_subset _ kept)
      · cases last with
        | false => simp at added
        | true => exact Or.inr (Or.inl (by simpa using added))
    next not_double =>
      split at pushed
      next =>
        rcases List.mem_append.1 pushed with kept | added
        · exact Or.inl kept
        · cases last with
          | false => simp at added
          | true => exact Or.inr (Or.inl (by simpa using added))
      next not_single =>
        rcases List.mem_append.1 pushed with kept | added
        · exact Or.inl kept
        · exact Or.inr (Or.inr ⟨by simp [isDots, not_double, not_single],
            List.mem_singleton.1 added⟩)
  induction segments generalizing path with
  | nil => exact Or.inl member
  | cons next rest ih =>
    cases rest with
    | nil =>
      rcases step member with kept | empty | pushed
      · exact Or.inl kept
      · exact Or.inr (Or.inl empty)
      · exact Or.inr (Or.inr ⟨next, List.mem_cons_self, pushed⟩)
    | cons second rest =>
      rcases ih member with earlier | empty | later
      · rcases step earlier with kept | empty | pushed
        · exact Or.inl kept
        · exact Or.inr (Or.inl empty)
        · exact Or.inr (Or.inr ⟨next, List.mem_cons_self, pushed⟩)
      · exact Or.inr (Or.inl empty)
      · obtain ⟨origin, inside, spelled⟩ := later
        exact Or.inr (Or.inr ⟨origin, List.mem_cons_of_mem _ inside, spelled⟩)

theorem matchRoutes_appStreamList_inv {pathname appId : List Char}
    (matched : matchRoutes pathname = some (.appStreamList, [appId])) :
    appId ≠ [] ∧ ∃ first last, decodePath (pathSegments pathname) = [first, appId, last] := by
  obtain ⟨route, listed, found⟩ := List.exists_of_findSome?_eq_some matched
  obtain ⟨params, params_found, same⟩ := Option.map_eq_some_iff.1 found
  rw [Prod.mk.injEq] at same
  obtain ⟨page, rfl⟩ := same
  have only : ∀ route ∈ router, route.1 = Page.appStreamList →
      route.2 = [.literal "app", .param, .literal "sessions"] := by
    intro route listed page
    simp only [router, List.mem_cons, List.not_mem_nil, or_false] at listed
    rcases listed with rfl | rfl | rfl | rfl | rfl | rfl | rfl | rfl | rfl | rfl | rfl | rfl <;>
      first | rfl | exact absurd page (by decide)
  rw [only route listed page] at params_found
  generalize decodePath (pathSegments pathname) = path at params_found
  match path with
  | [] => simp at params_found
  | [_] =>
    rw [matchPattern_literal] at params_found
    split at params_found <;> simp at params_found
  | [first, second] =>
    rw [matchPattern_literal, matchPattern_param] at params_found
    split at params_found
    next => split at params_found <;> simp at params_found
    next => contradiction
  | first :: second :: third :: rest =>
    rw [matchPattern_literal, matchPattern_param, matchPattern_literal] at params_found
    split at params_found
    next =>
      split at params_found
      next => contradiction
      next nonempty =>
        split at params_found
        next =>
          cases rest with
          | nil =>
            rw [matchPattern_nil, Option.map_some, Option.some.injEq, List.cons.injEq]
              at params_found
            rw [← params_found.1]
            exact ⟨nonempty, first, third, rfl⟩
          | cons _ _ => simp at params_found
        next => simp at params_found
    next => contradiction

theorem exists_of_mem_mapM {f : List Char → Option (List Char)} {xs ys : List (List Char)}
    (all : xs.mapM f = some ys) {y : List Char} (member : y ∈ ys) : ∃ x ∈ xs, f x = some y := by
  induction xs generalizing ys with
  | nil =>
    rw [List.mapM_nil, Option.pure_def, Option.some.injEq] at all
    simp [← all] at member
  | cons x xs ih =>
    rw [List.mapM_cons, Option.bind_eq_bind, Option.bind_eq_some_iff] at all
    obtain ⟨z, head, rest⟩ := all
    rw [Option.bind_eq_bind, Option.bind_eq_some_iff] at rest
    obtain ⟨zs, tail, whole⟩ := rest
    rw [Option.pure_def, Option.some.injEq] at whole
    subst whole
    rcases List.mem_cons.1 member with rfl | later
    · exact ⟨x, List.mem_cons_self, head⟩
    · obtain ⟨origin, inside, found⟩ := ih tail later
      exact ⟨origin, List.mem_cons_of_mem _ inside, found⟩

-- The segment that the param was read from.
theorem exists_segment_of_matched {appId resolution : List Char}
    (matched : matchRoutes (parse (cardHref appId resolution)).pathname =
      some (.appStreamList, [appId])) :
    ∃ segment ∈ segments (pathPart (preprocess (cardHref appId resolution))),
      isDots segment = false ∧
        (decodeURIComponent (percentEncode pathSet segment) = some appId ∨
          percentEncode pathSet segment = appId) := by
  obtain ⟨nonempty, first, last, decoded⟩ := matchRoutes_appStreamList_inv matched
  have pushed : ∀ segment ∈ pathSegments (parse (cardHref appId resolution)).pathname,
      segment ≠ [] → ∃ origin ∈ segments (pathPart (preprocess (cardHref appId resolution))),
        isDots origin = false ∧ segment = percentEncode pathSet origin := by
    intro segment member some_char
    have slashes : ∀ segment ∈ pushSegments []
        (segments (pathPart (preprocess (cardHref appId resolution)))),
        ∀ c ∈ segment, (c == '/') = false := by
      intro segment inside c within
      rw [beq_eq_false_iff_ne]
      intro same
      subst same
      rcases mem_pushSegments inside with none | rfl | ⟨origin, listed, -, rfl⟩
      · simp at none
      · simp at within
      · refine no_slash_percentEncode ?_ within
        intro slash
        exact absurd ((mem_splitOnP (List.mem_of_mem_tail listed)).2 '/' slash) (by decide)
    have split := splitOnP_joinPath_of_none (p := (· == '/')) rfl slashes
    rw [pathSegments, List.splitOn_eq_splitOnP, parse, split] at member
    rcases mem_pushSegments ((List.rdropWhile_prefix _ _).subset member) with none | empty | found
    · simp at none
    · exact absurd empty some_char
    · exact found
  unfold decodePath at decoded
  cases all : (pathSegments (parse (cardHref appId resolution)).pathname).mapM
      decodeURIComponent with
  | none =>
    rw [all, Option.getD_none] at decoded
    obtain ⟨origin, inside, plain, spelled⟩ := pushed appId (by rw [decoded]; simp) nonempty
    exact ⟨origin, inside, plain, Or.inr spelled.symm⟩
  | some path =>
    rw [all, Option.getD_some] at decoded
    subst decoded
    obtain ⟨segment, member, found⟩ := exists_of_mem_mapM all (y := appId) (by simp)
    have some_char : segment ≠ [] := by
      intro empty
      subst empty
      exact nonempty (Option.some.inj found).symm
    obtain ⟨origin, inside, plain, rfl⟩ := pushed segment member some_char
    exact ⟨origin, inside, plain, Or.inl found⟩

/-- What a link that leads to its own application says about the id. -/
structure Matched (appId : List Char) : Prop where
  separators : ∀ c ∈ "/\\?#\t\n\r".toList, c ∉ appId
  dots : isDots appId = false
  percent : '%' ∈ appId → ∀ c ∈ appId, pathSet c = false

theorem decodeURIComponent_length {s t : List Char} (decoded : decodeURIComponent s = some t) :
    decode (percentDecode s) = t ∧ .char '%' ∉ pieces s := by
  unfold decodeURIComponent at decoded
  split at decoded
  next => contradiction
  next plain =>
    rw [decode?_eq_some decoded, decode_encode]
    exact ⟨rfl, plain⟩

-- The segment is no shorter than the id, so it is the whole of it.
theorem eq_of_segment {appId segment : List Char} (inside : segment.Sublist appId)
    (found : decodeURIComponent (percentEncode pathSet segment) = some appId ∨
      percentEncode pathSet segment = appId) :
    segment = appId ∧ ('%' ∈ appId → ∀ c ∈ appId, pathSet c = false) := by
  cases found with
  | inl decoded =>
    obtain ⟨same, lone⟩ := decodeURIComponent_length decoded
    rw [percentDecode_percentEncode_keeps keeps_pathSet] at same
    have bound := decode_percentDecode_length_le segment
    rw [same] at bound
    have whole : segment = appId := inside.eq_of_length_le bound
    subst whole
    have escape : hasEscape segment = false := by
      rw [Bool.eq_false_iff]
      intro escapes
      have shorter := decode_percentDecode_length_lt escapes
      rw [same] at shorter
      omega
    refine ⟨rfl, ?_⟩
    intro percent
    have undecoded := decodeURIComponent_encoded escape
    rw [if_pos percent, decoded] at undecoded
    contradiction
  | inr spelled =>
    have plain : ∀ c ∈ appId, pathSet c = false := by
      intro c member
      rw [← spelled] at member
      exact not_set_of_mem_percentEncode keeps_pathSet member
    have same : percentEncode pathSet segment = segment :=
      percentEncode_of_not_set fun c member => plain c (inside.subset member)
    exact ⟨same.symm.trans spelled, fun _ => plain⟩

theorem matched_inv {appId resolution : List Char}
    (matched : matchRoutes (parse (cardHref appId resolution)).pathname =
      some (.appStreamList, [appId])) : Matched appId := by
  obtain ⟨segment, member, dots, found⟩ := exists_segment_of_matched matched
  have static : ∀ name : List Char, percentEncode pathSet name = name →
      decodeURIComponent name = some name → segment = name → appId = name := by
    intro name plain decoded same
    rw [same, plain, decoded, Option.some.injEq, or_self] at found
    exact found.symm
  rcases segments_cardHref member with app | sessions | kept
  · rw [static "app".toList (by decide) (decodeURIComponent_unreserved (by decide)) app]
    constructor <;> decide
  · rw [static "sessions".toList (by decide) (decodeURIComponent_unreserved (by decide)) sessions]
    constructor <;> decide
  · obtain ⟨inside, slashes⟩ := mem_splitOnP kept
    have hashed := List.takeWhile_sublist (· != '?')
      (l := (appId.filter (!isTabOrNewline ·)).takeWhile (· != '#'))
    have filtered := List.takeWhile_sublist (· != '#') (l := appId.filter (!isTabOrNewline ·))
    have lines := List.filter_sublist (p := (!isTabOrNewline ·)) (l := appId)
    obtain ⟨whole, percent⟩ :=
      eq_of_segment (inside.trans (hashed.trans (filtered.trans lines))) found
    subst whole
    have mark_length := hashed.length_le
    have hash_length := filtered.length_le
    have line_length := lines.length_le
    have inside_length := inside.length_le
    rw [keptInPath] at inside_length
    have no_lines : segment.filter (!isTabOrNewline ·) = segment :=
      lines.eq_of_length_le (by omega)
    rw [no_lines] at hashed filtered mark_length hash_length inside_length
    have no_hash : segment.takeWhile (· != '#') = segment := filtered.eq_of_length_le (by omega)
    rw [no_hash] at hashed mark_length inside_length
    have absent : ∀ d, (segment.takeWhile (· != d)).length = segment.length → d ∉ segment := by
      intro d same inside
      have shorter := takeWhile_length_lt inside
      omega
    have visible : ∀ c ∈ segment, isTabOrNewline c = false := by
      intro c inside
      rw [← no_lines, List.mem_filter] at inside
      simpa using inside.2
    refine ⟨?_, dots, percent⟩
    intro c listed inside
    change c ∈ ['/', '\\', '?', '#', '\t', '\n', '\r'] at listed
    simp only [List.mem_cons, List.not_mem_nil, or_false] at listed
    rcases listed with rfl | rfl | rfl | rfl | rfl | rfl | rfl
    · exact absurd (slashes _ inside) (by decide)
    · exact absurd (slashes _ inside) (by decide)
    · exact absent '?' (by omega) inside
    · exact absent '#' (by rw [no_hash]) inside
    · exact absurd (visible _ inside) (by decide)
    · exact absurd (visible _ inside) (by decide)
    · exact absurd (visible _ inside) (by decide)

/-! ## The request -/

section Request

variable (backend : Endpoint) {appId : List Char}
  (separators : ∀ c ∈ "/\\?#\t\n\r".toList, c ∉ appId)

theorem plain_apps : Plain (backend.root ++ ["apps".toList]) := by
  have apps : ∀ c ∈ "apps".toList, isUnreserved c = true := by decide
  constructor
  next =>
    intro segment member
    rcases List.mem_append.1 member with root | last
    · exact backend.plain.unreserved segment root
    · rw [List.mem_singleton.1 last]
      exact apps
  next =>
    intro segment member
    rcases List.mem_append.1 member with root | last
    · exact backend.plain.not_dots segment root
    · rw [List.mem_singleton.1 last]
      decide

theorem joinPath_concat (path : List (List Char)) (segment : List Char) :
    joinPath (path ++ [segment]) = joinPath path ++ '/' :: segment := by
  simp [joinPath]

include separators

-- Spaces and controls at the end do not reach the request.
theorem segments_request :
    segments (pathPart (preprocess (joinPath backend.root ++ "/apps/".toList ++ appId))) =
      backend.root ++ ["apps".toList] ++ [appId.rdropWhile isControlOrSpace] := by
  have plain := plain_apps backend
  have text : joinPath backend.root ++ "/apps/".toList ++ appId =
      joinPath (backend.root ++ ["apps".toList]) ++ '/' :: appId := by
    rw [joinPath_concat, List.append_assoc, List.append_assoc]
    rfl
  generalize backend.root ++ ["apps".toList] = front at text plain ⊢
  have stripped := (List.rdropWhile_prefix isControlOrSpace appId).subset
  generalize kept : appId.rdropWhile isControlOrSpace = rest at stripped
  have absent : ∀ c ∈ "/\\?#\t\n\r".toList, c ∉ rest := fun c listed inside =>
    separators c listed (stripped inside)
  have first : (joinPath front ++ '/' :: appId).dropWhile isControlOrSpace =
      joinPath front ++ '/' :: appId := by
    cases front with
    | nil => exact List.dropWhile_cons_of_neg (by decide)
    | cons segment more => exact List.dropWhile_cons_of_neg (by decide)
  have lines : rest.filter (!isTabOrNewline ·) = rest := by
    apply List.filter_eq_self.2
    intro c member
    rw [Bool.not_eq_true', Bool.eq_false_iff]
    intro listed
    rcases isTabOrNewline_cases listed with rfl | rfl | rfl
    · exact absent _ (by decide) member
    · exact absent _ (by decide) member
    · exact absent _ (by decide) member
  have hash : '#' ∉ joinPath front ++ '/' :: rest := by
    have prefix_plain := not_mem_joinPath plain.unreserved (d := '#') (by decide) (by decide)
    simp [prefix_plain, absent '#' (by decide)]
  have mark : '?' ∉ joinPath front ++ '/' :: rest := by
    have prefix_plain := not_mem_joinPath plain.unreserved (d := '?') (by decide) (by decide)
    simp [prefix_plain, absent '?' (by decide)]
  have slash : ∀ segment ∈ front ++ [rest], ∀ c ∈ segment, isSlash c = false := by
    intro segment member c inside
    rcases List.mem_append.1 member with root | last
    · exact isSlash_of_unreserved (plain.unreserved segment root c inside)
    · rw [List.mem_singleton.1 last] at inside
      rw [Bool.eq_false_iff]
      intro listed
      simp only [isSlash, Bool.or_eq_true, beq_iff_eq] at listed
      rcases listed with rfl | rfl
      · exact absent _ (by decide) inside
      · exact absent _ (by decide) inside
  rw [text, preprocess, first, rdropWhile_append_cons (by decide), kept, List.filter_append,
    filter_joinPath plain.unreserved, List.filter_cons_of_pos (by decide), lines, pathPart,
    beforeFragment, takeWhile_of_not_mem hash, takeWhile_of_not_mem mark, ← joinPath_concat,
    segments, splitOnP_joinPath_of_none (by decide) slash]

omit separators in
-- What the backend makes of a path below its root.
theorem getAppInfo_joinPath {σ : Type u} (apps : PublishedApps σ) {text : List Char} :
    getAppInfo apps backend (joinPath (backend.root ++ ["apps".toList]) ++ '/' :: text) =
      match pathParam (decode (percentDecode text)) with
      | none | some [] => none
      | some id => apps.get? id := by
  have percent : '%' ∉ joinPath (backend.root ++ ["apps".toList]) ++ ['/'] := by
    have absent := not_mem_joinPath (plain_apps backend).unreserved (d := '%') (by decide)
      (by decide)
    simp only [List.mem_append, List.mem_singleton, not_or]
    exact ⟨absent, by decide⟩
  have split : joinPath (backend.root ++ ["apps".toList]) ++ '/' :: text =
      (joinPath (backend.root ++ ["apps".toList]) ++ ['/']) ++ text := by simp
  have unquoted : unquote (joinPath (backend.root ++ ["apps".toList]) ++ '/' :: text) =
      joinPath backend.root ++ '/' :: ("apps/".toList ++ decode (percentDecode text)) := by
    rw [unquote, split, percentDecode_append percent, decode_encode_append, joinPath_concat]
    simp
  have route : matchApp ('/' :: ("apps/".toList ++ decode (percentDecode text))) =
      pathParam (decode (percentDecode text)) := matchApp_apps _
  rw [getAppInfo, unquoted, getRoutePath_root, route]

-- The id that the backend reads, from a path without dots.
theorem getAppInfo_request {σ : Type u} (apps : PublishedApps σ)
    (not_dots : isDots (appId.rdropWhile isControlOrSpace) = false) :
    getAppInfo apps backend (getStreamingAppPath backend appId) =
      match pathParam (decode (percentDecode (appId.rdropWhile isControlOrSpace))) with
      | none | some [] => none
      | some id => apps.get? id := by
  have dots := not_dots
  simp only [isDots, Bool.or_eq_false_iff] at dots
  rw [getStreamingAppPath, parse, segments_request backend separators,
    pushSegments_concat (plain_apps backend), List.nil_append, pushSegment]
  simp only [dots.1, dots.2, Bool.false_eq_true, if_false]
  rw [joinPath_concat, getAppInfo_joinPath, percentDecode_percentEncode_keeps keeps_pathSet]

-- Trailing dots lead away from the application.
theorem getAppInfo_dots {σ : Type u} (apps : PublishedApps σ)
    (dots : isDots (appId.rdropWhile isControlOrSpace) = true) :
    getAppInfo apps backend (getStreamingAppPath backend appId) = none := by
  rw [getStreamingAppPath, parse, segments_request backend separators,
    pushSegments_concat (plain_apps backend), List.nil_append, pushSegment]
  cases double : isDoubleDot (appId.rdropWhile isControlOrSpace) with
  | true =>
    have percent : '%' ∉ joinPath backend.root ++ ['/'] := by
      have absent := not_mem_joinPath backend.plain.unreserved (d := '%') (by decide) (by decide)
      simp only [List.mem_append, List.mem_singleton, not_or]
      exact ⟨absent, by decide⟩
    have plain := percentDecode_append percent []
    rw [List.append_nil] at plain
    have unquoted :
        unquote (joinPath backend.root ++ ['/']) = joinPath backend.root ++ '/' :: [] := by
      rw [unquote, plain, decode_encode_append]
      simp [percentDecode]
    have elsewhere : matchApp ['/'] = none := by decide
    simp only [if_true, List.dropLast_concat]
    rw [joinPath_concat, getAppInfo, unquoted, getRoutePath_root, elsewhere]
  | false =>
    have single : isSingleDot (appId.rdropWhile isControlOrSpace) = true := by
      simpa [isDots, double] using dots
    have empty : pathParam (decode (percentDecode [])) = some [] := by decide
    simp only [single, Bool.false_eq_true, if_false, if_true]
    rw [joinPath_concat, getAppInfo_joinPath, empty]

end Request

/-! ## Which ids can be opened -/

variable {σ : Type u} {apps : PublishedApps σ} {backend : Endpoint} {appId resolution : List Char}

theorem openable_of_opens (opens : Opens apps backend appId resolution) : Openable appId := by
  have inv := matched_inv opens.matched
  obtain ⟨app, found, same⟩ := opens.found
  have stripped := List.rdropWhile_prefix isControlOrSpace appId
  cases dots : isDots (appId.rdropWhile isControlOrSpace) with
  | true => simp [getAppInfo_dots backend inv.separators apps dots] at found
  | false =>
    rw [getAppInfo_request backend inv.separators apps dots] at found
    have read : pathParam (decode (percentDecode (appId.rdropWhile isControlOrSpace))) =
        some appId := by
      split at found
      next => contradiction
      next => contradiction
      next id _ param =>
        have key := (Table.get?_eq_some_iff.1 found).2
        rw [param, ← same, ← key]
    have bound := pathParam_length read
    have decoded := decode_percentDecode_length_le (appId.rdropWhile isControlOrSpace)
    have length := stripped.length_le
    have whole : appId.rdropWhile isControlOrSpace = appId :=
      stripped.sublist.eq_of_length_le (by omega)
    rw [whole] at bound
    have escape : hasEscape appId = false := by
      rw [Bool.eq_false_iff]
      intro escapes
      have shorter := decode_percentDecode_length_lt escapes
      omega
    exact
      { separators := inv.separators
        dots := inv.dots
        escape := escape
        last := by
          intro c last
          obtain ⟨front, shape⟩ := List.getLast?_eq_some_iff.1 last
          have nonempty : appId ≠ [] := by simp [shape]
          have visible := List.rdropWhile_eq_self_iff.1 whole nonempty
          rw [Option.mem_def, List.getLast?_eq_getLast_of_ne_nil nonempty,
            Option.some.injEq] at last
          rw [last] at visible
          simpa using visible
        percent := inv.percent }

theorem opens_of_openable (nonempty : appId ≠ []) {app : PublishedApp σ}
    (published : apps.get? appId = some app) (openable : Openable appId) :
    Opens apps backend appId resolution := by
  refine ⟨matched_of_openable nonempty openable resolution, app, ?_,
    (Table.get?_eq_some_iff.1 published).2⟩
  have whole : appId.rdropWhile isControlOrSpace = appId := by
    rw [List.rdropWhile_eq_self_iff]
    intro some_char
    simp [openable.last _ (List.getLast?_eq_getLast_of_ne_nil some_char)]
  have read : pathParam (decode (percentDecode appId)) = some appId := by
    rw [decode_percentDecode_of_no_escape openable.escape,
      pathParam_plain (openable.separators '\n' (by decide))]
  rw [getAppInfo_request backend openable.separators apps (by rw [whole]; exact openable.dots),
    whole, read]
  split
  next missing => contradiction
  next empty => exact absurd (Option.some.inj empty) nonempty
  next id _ same =>
    rw [← Option.some.inj same]
    exact published

theorem get?_publishApp {apps apps' : PublishedApps σ} {columns : σ}
    (published : publishApp apps appId columns = some apps') :
    appId ≠ [] ∧ ∃ app, apps'.get? appId = some app := by
  unfold publishApp at published
  split at published
  next => contradiction
  next nonempty =>
    refine ⟨nonempty, ?_⟩
    split at published
    next app stored =>
      rw [Option.some.injEq] at published
      subst published
      exact ⟨{ app with columns }, by rw [Table.get?_update_self, stored]; rfl⟩
    next =>
      refine ⟨⟨appId, columns⟩, ?_⟩
      rw [Table.get?_insert published, if_pos rfl]

/-- A published application opens from its card exactly when its id stands in both URLs as it
is. -/
theorem published_app_opens_iff {apps apps' : PublishedApps σ} {columns : σ}
    (published : publishApp apps appId columns = some apps') (backend : Endpoint)
    (resolution : List Char) : Opens apps' backend appId resolution ↔ Openable appId := by
  obtain ⟨nonempty, app, stored⟩ := get?_publishApp published
  exact ⟨openable_of_opens, opens_of_openable nonempty stored⟩

def sampleBackend : Endpoint := ⟨["api".toList], ⟨by unfold Unreserved; decide, by decide⟩⟩

theorem openable_usd_viewer : Openable "usd viewer".toList where
  separators := by decide
  dots := by decide
  escape := by decide
  last := by
    have last : "usd viewer".toList.getLast? = some 'r' := rfl
    intro c found
    rw [last, Option.mem_some_iff] at found
    subst found
    decide
  percent := by decide

theorem usd_viewer_opens :
    Opens ((publishApp Table.empty "usd viewer".toList ()).get (by decide)) sampleBackend
      "usd viewer".toList "1080p".toList :=
  (published_app_opens_iff (Option.some_get _).symm sampleBackend "1080p".toList).2
    openable_usd_viewer

/-- An id with a slash is two segments of the path, and no route takes them. -/
theorem slashed_app_does_not_open :
    ¬∀ (apps apps' : PublishedApps Unit) (appId : List Char),
      publishApp apps appId () = some apps' →
      ∀ (backend : Endpoint) (resolution : List Char), Opens apps' backend appId resolution := by
  intro opens
  have slashed := opens Table.empty
    ((publishApp Table.empty "test/python:3.12".toList ()).get (by decide))
    "test/python:3.12".toList (Option.some_get _).symm sampleBackend "1080p".toList
  have unmatched :
      matchRoutes (parse (cardHref "test/python:3.12".toList "1080p".toList)).pathname = none := by
    decide +kernel
  rw [slashed.matched] at unmatched
  contradiction

end StreamingPortal.Web.AppLinks
