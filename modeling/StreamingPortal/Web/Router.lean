import StreamingPortal.Shared.Url

set_option autoImplicit false

/-!
# The client router

`router.tsx`, with what react-router does to a target of `Navigate` and to the path of a location.
-/

namespace StreamingPortal.Web.Router

open Utf8 Percent Url

/-! ## Navigation -/

structure Path where
  pathname : List Char
  search : List Char
  hash : List Char

-- react-router's `parsePath`.
def parsePath (path : List Char) : Path where
  pathname := (path.takeWhile (· != '#')).takeWhile (· != '?')
  search := (path.takeWhile (· != '#')).dropWhile (· != '?')
  hash := path.dropWhile (· != '#')

-- A lone question mark or hash is dropped.
def createPath (path : Path) : List Char :=
  path.pathname ++ (if path.search = ['?'] then [] else path.search) ++
    (if path.hash = ['#'] then [] else path.hash)

-- `href.replace(/ $/, "%20")`, without which the URL parser would strip the space.
def keepTrailingSpace (href : List Char) : List Char :=
  if href.getLast? = some ' ' then href.dropLast ++ "%20".toList else href

def encodeLocation (href : List Char) : Location := parse (keepTrailingSpace href)

def navigate (target : List Char) : Location :=
  encodeLocation (createPath (parsePath target))

/-! ## Routes -/

inductive Page where
  | home
  | openId
  | nucleusAuthenticate
  | nucleusSSO
  | storageApiAuthenticate
  | appStream
  | appStreamList
  | appInfo
  | deepLink
  | userSessionList
  | about
  | login
deriving DecidableEq

inductive Pattern where
  | literal (text : String)
  | param

open Pattern in
def router : List (Page × List Pattern) :=
  [(.home, []),
    (.openId, [literal "openid"]),
    (.nucleusAuthenticate, [literal "nucleus", literal "authenticate"]),
    (.nucleusSSO, [literal "nucleus", literal "sso", param]),
    (.storageApiAuthenticate, [literal "storage-api", literal "openid"]),
    (.appStream, [literal "app", param, literal "sessions", param]),
    (.appStreamList, [literal "app", param, literal "sessions"]),
    (.appInfo, [literal "app", param]),
    (.deepLink, [literal "deeplink"]),
    (.userSessionList, [literal "sessions"]),
    (.about, [literal "about"]),
    (.login, [literal "login"])]

/-- The params of a match; a param takes one nonempty segment, and case does not matter
elsewhere. -/
def matchPattern : List Pattern → List (List Char) → Option (List (List Char))
  | [], [] => some []
  | .literal text :: patterns, segment :: rest =>
    if segment.map Char.toLower = text.toList then matchPattern patterns rest else none
  | .param :: patterns, segment :: rest =>
    if segment = [] then none else (matchPattern patterns rest).map (segment :: ·)
  | _, _ => none

@[simp] theorem matchPattern_nil : matchPattern [] [] = some [] := rfl

@[simp] theorem matchPattern_longer (segment : List Char) (rest : List (List Char)) :
    matchPattern [] (segment :: rest) = none := rfl

@[simp] theorem matchPattern_shorter (pattern : Pattern) (patterns : List Pattern) :
    matchPattern (pattern :: patterns) [] = none := by
  cases pattern <;> rfl

@[simp] theorem matchPattern_literal (text : String) (patterns : List Pattern)
    (segment : List Char) (rest : List (List Char)) :
    matchPattern (.literal text :: patterns) (segment :: rest) =
      if segment.map Char.toLower = text.toList then matchPattern patterns rest else none := rfl

@[simp] theorem matchPattern_param (patterns : List Pattern) (segment : List Char)
    (rest : List (List Char)) :
    matchPattern (.param :: patterns) (segment :: rest) =
      if segment = [] then none else (matchPattern patterns rest).map (segment :: ·) := rfl

-- Trailing slashes do not count.
def pathSegments (pathname : List Char) : List (List Char) :=
  (pathname.splitOn '/').tail.rdropWhile (· = [])

-- A path with a segment that cannot be decoded is matched as it stands.
def decodePath (path : List (List Char)) : List (List Char) :=
  (path.mapM decodeURIComponent).getD path

-- A slash of a decoded segment does not part it here. The router keeps it as `%2F` while it
-- matches and writes a slash for every `%2F` of a parameter afterwards; what that does to a
-- segment that spells `%2F` once it is decoded is left out.
def matchRoutes (pathname : List Char) : Option (Page × List (List Char)) :=
  router.findSome? fun route =>
    (matchPattern route.2 (decodePath (pathSegments pathname))).map (route.1, ·)

/-! ## Targets with a plain path -/

theorem keepTrailingSpace_append (front : List Char) {back : List Char} (nonempty : back ≠ []) :
    keepTrailingSpace (front ++ back) = front ++ keepTrailingSpace back := by
  simp only [keepTrailingSpace, List.getLast?_append_of_ne_nil _ nonempty,
    List.dropLast_append_of_ne_nil nonempty]
  by_cases space : back.getLast? = some ' ' <;> simp [space]

section Plain

variable {path : List (List Char)} (nonempty : path ≠ []) (unreserved : Unreserved path)

include unreserved

theorem parsePath_joinPath (raw : List Char) :
    parsePath (joinPath path ++ '?' :: raw) =
      ⟨joinPath path, '?' :: raw.takeWhile (· != '#'), raw.dropWhile (· != '#')⟩ := by
  have hash := bne_of_not_mem (not_mem_joinPath unreserved (d := '#') (by decide) (by decide))
  have mark := bne_of_not_mem (not_mem_joinPath unreserved (d := '?') (by decide) (by decide))
  simp [parsePath, takeWhile_all_append hash, dropWhile_all_append hash,
    takeWhile_all_append mark, dropWhile_all_append mark]

theorem navigate_joinPath : navigate (joinPath path) = ⟨joinPath (pushSegments [] path), []⟩ := by
  have hash := bne_of_not_mem (not_mem_joinPath unreserved (d := '#') (by decide) (by decide))
  have mark := bne_of_not_mem (not_mem_joinPath unreserved (d := '?') (by decide) (by decide))
  have taken := takeWhile_all_append hash []
  have left := dropWhile_all_append hash []
  have taken' := takeWhile_all_append mark []
  have left' := dropWhile_all_append mark []
  simp only [List.append_nil, List.takeWhile_nil, List.dropWhile_nil] at taken left taken' left'
  have no_space : (joinPath path).getLast? ≠ some ' ' := by
    intro last
    exact not_mem_joinPath unreserved (by decide) (by decide) (List.mem_of_getLast? last)
  simp [navigate, parsePath, createPath, encodeLocation, keepTrailingSpace, taken, left, taken',
    left', no_space, parse_unreserved_path unreserved]

include nonempty

theorem navigate_query {raw : List Char} (some_raw : raw ≠ []) (plain : '#' ∉ raw) :
    navigate (joinPath path ++ '?' :: raw) =
      ⟨joinPath (pushSegments [] path),
        searchOf ('?' :: percentEncode querySet (cleanQuery (keepTrailingSpace raw)))⟩ := by
  have taken := takeWhile_all_append (bne_of_not_mem plain) []
  have left := dropWhile_all_append (bne_of_not_mem plain) []
  simp only [List.append_nil, List.takeWhile_nil, List.dropWhile_nil] at taken left
  have text :
      createPath (parsePath (joinPath path ++ '?' :: raw)) = joinPath path ++ '?' :: raw := by
    rw [parsePath_joinPath unreserved, taken, left]
    simp [createPath, some_raw]
  have moved : keepTrailingSpace (joinPath path ++ '?' :: raw) =
      joinPath path ++ '?' :: keepTrailingSpace raw := by
    have shape : joinPath path ++ '?' :: raw = (joinPath path ++ ['?']) ++ raw := by simp
    rw [shape, keepTrailingSpace_append _ some_raw]
    simp
  rw [navigate, text, encodeLocation, moved, parse_unreserved nonempty unreserved]

-- A hash ends the query; a lone one goes before the space in front of it is looked at.
theorem navigate_hash {before : List Char} (some_before : before ≠ []) (plain : '#' ∉ before)
    (after : List Char) :
    navigate (joinPath path ++ '?' :: (before ++ '#' :: after)) =
      ⟨joinPath (pushSegments [] path),
        searchOf ('?' :: percentEncode querySet (if after = [] then
          cleanQuery (keepTrailingSpace before)
          else before.filter (!isTabOrNewline ·)))⟩ := by
  have hash : ∀ s : List Char, (before ++ '#' :: s).takeWhile (· != '#') = before ∧
      (before ++ '#' :: s).dropWhile (· != '#') = '#' :: s := by
    intro s
    simp [takeWhile_all_append (bne_of_not_mem plain), dropWhile_all_append (bne_of_not_mem plain)]
  have text : createPath (parsePath (joinPath path ++ '?' :: (before ++ '#' :: after))) =
      joinPath path ++ '?' :: (before ++ if after = [] then [] else '#' :: after) := by
    rw [parsePath_joinPath unreserved, (hash after).1, (hash after).2]
    by_cases lone : after = [] <;> simp [createPath, some_before, lone]
  by_cases lone : after = []
  next =>
    have query := navigate_query nonempty unreserved some_before plain
    rw [navigate, parsePath_joinPath unreserved] at query
    subst lone
    rw [navigate, text, if_pos rfl, if_pos rfl, List.append_nil, ← query]
    have taken := takeWhile_all_append (bne_of_not_mem plain) []
    have left := dropWhile_all_append (bne_of_not_mem plain) []
    simp only [List.append_nil, List.takeWhile_nil, List.dropWhile_nil] at taken left
    simp [createPath, some_before, taken, left]
  next =>
    have moved : keepTrailingSpace (joinPath path ++ '?' :: (before ++ '#' :: after)) =
        joinPath path ++ '?' :: (before ++ '#' :: keepTrailingSpace after) := by
      have shape : joinPath path ++ '?' :: (before ++ '#' :: after) =
          (joinPath path ++ '?' :: (before ++ ['#'])) ++ after := by simp
      rw [shape, keepTrailingSpace_append _ lone]
      simp
    have filtered : '#' ∉ before.filter (!isTabOrNewline ·) := fun member =>
      plain (List.mem_of_mem_filter member)
    have cleaned : cleanQuery (before ++ '#' :: keepTrailingSpace after) =
        before.filter (!isTabOrNewline ·) := by
      rw [cleanQuery, rdropWhile_append_cons (by decide), List.filter_append,
        List.filter_cons_of_pos (by decide), beforeFragment,
        takeWhile_all_append (bne_of_not_mem filtered), List.takeWhile_cons_of_neg (by decide),
        List.append_nil]
    rw [navigate, text, if_neg lone, encodeLocation, moved, parse_unreserved nonempty unreserved,
      cleaned, if_neg lone]

end Plain

-- A location the router or the browser has made already stays as it is.
theorem navigate_location {path : List (List Char)} (nonempty : path ≠ []) (plain : Plain path)
    {query : List Char} (some_query : query ≠ []) (parsed : ∀ c ∈ query, querySet c = false) :
    navigate (joinPath path ++ '?' :: query) = ⟨joinPath path, '?' :: query⟩ := by
  have absent : ∀ d, querySet d = true → d ∉ query := by
    intro d inSet member
    simp [parsed d member] at inSet
  have no_space : query.getLast? ≠ some ' ' := by
    intro last
    exact absent ' ' (by decide) (List.mem_of_getLast? last)
  have kept : keepTrailingSpace query = query := by simp [keepTrailingSpace, no_space]
  have long : ¬('?' :: query).length ≤ 1 := by
    have positive := List.length_pos_iff.2 some_query
    simp only [List.length_cons]
    omega
  rw [navigate_query nonempty plain.unreserved some_query (absent '#' (by decide)), kept,
    cleanQuery_of_not_querySet parsed, percentEncode_of_not_set parsed, searchOf, if_neg long,
    pushSegments_plain plain, List.nil_append]

/-! ## Matching plain paths -/

theorem decodeURIComponent_unreserved {segment : List Char}
    (unreserved : ∀ c ∈ segment, isUnreserved c = true) :
    decodeURIComponent segment = some segment := by
  have same : encodeURIComponent segment = segment := by
    apply percentEncode_of_not_set
    intro c member
    have marks : ∀ d ∈ "-._~".toList, "-_.!~*'()".toList.contains d = true := by decide
    have kept := unreserved c member
    simp only [isUnreserved, Bool.or_eq_true, List.contains_iff_mem] at kept
    cases kept with
    | inl letter => simp [letter]
    | inr mark => simp only [marks c mark, Bool.or_true, Bool.not_true]
  have decoded := decodeURIComponent_encodeURIComponent segment
  rwa [same] at decoded

theorem decodePath_unreserved {path : List (List Char)} (unreserved : Unreserved path) :
    decodePath path = path := by
  have decoded : path.mapM decodeURIComponent = some path := by
    induction path with
    | nil => rfl
    | cons segment rest ih =>
      have tail := ih fun other member => unreserved other (List.mem_cons_of_mem _ member)
      simp [List.mapM_cons, decodeURIComponent_unreserved (unreserved segment List.mem_cons_self),
        tail]
  rw [decodePath, decoded, Option.getD_some]

theorem pathSegments_joinPath {path : List (List Char)}
    (none : ∀ segment ∈ path, '/' ∉ segment) (last : path.getLast? ≠ some []) :
    pathSegments (joinPath path) = path := by
  have plain : ∀ segment ∈ path, ∀ c ∈ segment, (c == '/') = false := by
    intro segment member c inside
    rw [beq_eq_false_iff_ne]
    intro same
    subst same
    exact none segment member inside
  have split := splitOnP_joinPath_of_none (p := (· == '/')) rfl plain
  rw [pathSegments, List.splitOn_eq_splitOnP, split, List.rdropWhile_eq_self_iff]
  intro nonempty
  rw [List.getLast?_eq_getLast_of_ne_nil nonempty] at last
  simpa using last

theorem no_slash_of_unreserved {path : List (List Char)} (unreserved : Unreserved path) :
    ∀ segment ∈ path, '/' ∉ segment := fun segment member =>
  not_mem_of_unreserved (unreserved segment member) (by decide)

end StreamingPortal.Web.Router
