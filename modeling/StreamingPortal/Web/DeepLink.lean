import StreamingPortal.Web.Router

set_option autoImplicit false

/-!
# Deep links

`DeepLink`, the way through `AppStreamList`, the Nucleus login and `useStreamStart`, and the message
that `AppStream` sends to the stream.
-/

namespace StreamingPortal.Web

open Utf8 Percent Url Router

-- `searchParams.get(name) ?? ""`.
def searchParam (search : List Char) (name : String) : List Char :=
  (Params.get (parseParams search) name.toList).getD []

-- What `DeepLink` navigates to.
def deepLink (search : List Char) : List Char :=
  let appId := searchParam search "application"
  let payload := searchParam search "link_data"
  if appId = [] then "/".toList
  else if payload = [] then "/".toList
  else "/app/".toList ++ appId ++ "/sessions?payload=".toList ++ payload

inductive NucleusLogin where
  | form
  | sso

-- What `NucleusSSO` makes of the extra that the SSO hands back.
def ssoRedirect (redirect : List Char) : Option (List Char) :=
  if redirect = [] then some "/".toList else decodeURIComponent redirect

-- Away to `NucleusAuthenticate` and back with a session.
def logIn (location : Location) (login : NucleusLogin) : Option Location :=
  let href := location.pathname ++ location.search
  let authenticate :=
    navigate ("/nucleus/authenticate?redirectAfter=".toList ++ encodeURIComponent href)
  let redirectAfter :=
    (Params.get (parseParams authenticate.search) "redirectAfter".toList).getD "/".toList
  match login with
  | .form => some (navigate redirectAfter)
  | .sso => (ssoRedirect (encodeURIComponent redirectAfter)).map navigate

/-- The request id that NVCF gives a session, a UUID. -/
structure SessionId where
  text : List Char
  nonempty : text ≠ []
  plain : Plain [text]

-- `onSuccess` of `useStreamStart`.
def streamStart (appId payload resolution : List Char) (session : SessionId) : Location :=
  let params : Params := []
  let params := if payload = [] then params else Params.set params "payload".toList payload
  let params := if resolution = [] then params else Params.set params "resolution".toList resolution
  let query := Params.toString params
  parse ("/app/".toList ++ appId ++ "/sessions/".toList ++ session.text ++
    if query = [] then [] else '?' :: query)

-- `AppStreamList` without a Nucleus session.
def appStreamListLogIn (location : Location) (login : NucleusLogin) : Option Location :=
  match matchRoutes location.pathname with
  | some (.appStreamList, _) => logIn location login
  | _ => none

-- `AppStreamList` once a new session has started.
def appStreamList (location : Location) (session : SessionId) : Option Location :=
  match matchRoutes location.pathname with
  | some (.appStreamList, [appId]) =>
    some (streamStart appId (searchParam location.search "payload")
      (searchParam location.search "resolution") session)
  | _ => none

/-- What can happen in `AppStream` before the stream starts: the Nucleus session is missing, or
the streaming session is gone and another one takes its place. -/
inductive Visit where
  | logIn (login : NucleusLogin)
  | restart (session : SessionId)

def appStream (location : Location) (visit : Visit) : Option Location :=
  match matchRoutes location.pathname with
  | some (.appStream, [appId, _]) =>
    match visit with
    | .logIn login => logIn location login
    | .restart session =>
      some (streamStart appId (searchParam location.search "payload") [] session)
  | _ => none

-- The data of the `apply_deeplink_request` that `onStart` sends.
def applyDeeplinkRequest (location : Location) : Option (List Char) :=
  match matchRoutes location.pathname with
  | some (.appStream, _) =>
    let payload := searchParam location.search "payload"
    if payload = [] then none else some payload
  | _ => none

-- From `/deeplink` with this query to the message.
def openDeepLink (search : List Char) (logins : List NucleusLogin) (session : SessionId)
    (visits : List Visit) : Option (List Char) := do
  let list ← logins.foldlM appStreamListLogIn (navigate (deepLink search))
  let stream ← appStreamList list session
  let started ← visits.foldlM appStream stream
  applyDeeplinkRequest started

/-! ## What the link leaves of a payload -/

def isControl (c : Char) : Bool := decide (c.toNat < ' '.toNat)

/-- A payload that may stand in a query as it is. -/
structure Survives (payload : List Char) : Prop where
  ampersand : '&' ∉ payload
  hash : '#' ∉ payload
  plus : '+' ∉ payload
  lines : ∀ c ∈ payload, isTabOrNewline c = false
  escape : hasEscape payload = false
  last : ∀ c ∈ payload.getLast?, isControl c = false

-- What the router and the URL parser leave of a payload without a hash, up to the next pair.
def cut (payload : List Char) : List Char :=
  (cleanQuery (keepTrailingSpace payload)).takeWhile (· != '&')

theorem cleanQuery_payload (raw : List Char) :
    cleanQuery ("payload=".toList ++ raw) = "payload=".toList ++ cleanQuery raw := by
  have kept := rdropWhile_append_cons (p := isControlOrSpace) (c := '=') (by decide)
    "payload".toList raw
  have shape : "payload=".toList ++ raw = "payload".toList ++ '=' :: raw := rfl
  rw [cleanQuery, shape, kept, List.filter_append, List.filter_cons_of_pos (by decide)]
  rfl

theorem plain_payload : PlainName "payload".toList := by
  constructor <;> decide

-- `searchParams.get("payload")` in `AppStreamList`.
theorem searchParam_payload (query : List Char) :
    searchParam (searchOf ('?' :: percentEncode querySet ("payload=".toList ++ query))) "payload" =
      decodeComponent (query.takeWhile (· != '&')) := by
  have found := get_parsed plain_payload query
  rw [searchParam]
  exact congrArg (Option.getD · []) found

theorem navigate_payload {path : List (List Char)} (nonempty : path ≠ [])
    (unreserved : Unreserved path) {payload : List Char} (hash : '#' ∉ payload) :
    searchParam (navigate (joinPath path ++ "?payload=".toList ++ payload)).search "payload" =
      decodeComponent (cut payload) := by
  have shape : joinPath path ++ "?payload=".toList ++ payload =
      joinPath path ++ '?' :: ("payload=".toList ++ payload) := by simp
  rw [shape, navigate_query nonempty unreserved (by simp) (by simp [hash])]
  by_cases empty : payload = []
  next =>
    have nothing : searchParam (searchOf ('?' :: percentEncode querySet
        (cleanQuery (keepTrailingSpace ("payload=".toList ++ []))))) "payload" =
        decodeComponent (cut []) := by decide +kernel
    subst empty
    exact nothing
  next =>
    rw [keepTrailingSpace_append _ empty, cleanQuery_payload, searchParam_payload, cut]

theorem startsEscape_append_left {s t : List Char} (plain : startsEscape (s ++ t) = false) :
    startsEscape s = false := by
  rw [Bool.eq_false_iff]
  intro starts
  obtain ⟨high, low, byte, rest, rfl, found⟩ := startsEscape_eq_true starts
  simp [startsEscape, found] at plain

theorem hasEscape_append_left {s t : List Char} (plain : hasEscape (s ++ t) = false) :
    hasEscape s = false := by
  induction s with
  | nil => rfl
  | cons c s ih =>
    simp only [List.cons_append, hasEscape, Bool.or_eq_false_iff] at plain ⊢
    exact ⟨startsEscape_append_left plain.1, ih plain.2⟩

-- A trailing space travels as an escape of its own.
theorem pieces_trailing (s : List Char) :
    pieces ((s ++ "%20".toList).map plusToSpace) =
      pieces (s.map plusToSpace) ++ [.raw 0x20] := by
  rw [List.map_append]
  exact pieces_append_percent _ ['2', '0']

theorem decodeComponent_trailing_length (s : List Char) :
    (decodeComponent (s ++ "%20".toList)).length ≤ (pieces s).length + 1 := by
  have bound := decode_flat_length (pieces ((s ++ "%20".toList).map plusToSpace))
  rw [pieces_trailing, List.length_append, pieces_plusToSpace, List.length_map] at bound
  rw [decodeComponent, percentDecode, pieces_trailing, pieces_plusToSpace]
  exact bound

theorem decodeComponent_trailing {s : List Char} (plain : hasEscape s = false) :
    decodeComponent (s ++ "%20".toList) = s.map plusToSpace ++ [' '] := by
  have bytes : flat (pieces (s.map plusToSpace) ++ [.raw 0x20]) =
      encode (s.map plusToSpace ++ [' ']) := by
    rw [← hasEscape_plusToSpace] at plain
    rw [pieces_of_no_escape plain, flat_append, flat_chars, encode_append]
    congr 1
  rw [decodeComponent, percentDecode, pieces_trailing, bytes, decode_encode]

theorem filter_lines {s : List Char} :
    s.filter (!isTabOrNewline ·) = s ↔ ∀ c ∈ s, isTabOrNewline c = false := by
  rw [List.filter_eq_self]
  simp

theorem keepTrailingSpace_space (s : List Char) :
    keepTrailingSpace (s ++ [' ']) = s ++ "%20".toList := by
  simp [keepTrailingSpace]

theorem cleanQuery_of_no_hash {s : List Char} (hash : '#' ∉ s) :
    cleanQuery s = (s.rdropWhile isControlOrSpace).filter (!isTabOrNewline ·) := by
  have absent : '#' ∉ (s.rdropWhile isControlOrSpace).filter (!isTabOrNewline ·) := fun member =>
    hash ((List.rdropWhile_prefix _ _).subset (List.mem_of_mem_filter member))
  have kept := takeWhile_all_append (bne_of_not_mem absent) []
  rw [cleanQuery, beforeFragment]
  simpa using kept

theorem cut_trailing {s : List Char} (hash : '#' ∉ s) :
    cut (s ++ [' ']) =
      (s.filter (!isTabOrNewline ·) ++ "%20".toList).takeWhile (· != '&') := by
  have last : (s ++ "%20".toList).rdropWhile isControlOrSpace = s ++ "%20".toList := by
    have shape : s ++ "%20".toList = (s ++ "%2".toList) ++ ['0'] := by simp
    rw [shape, List.rdropWhile_concat_neg _ _ _ (by decide)]
  rw [cut, keepTrailingSpace_space, cleanQuery_of_no_hash (by simp [hash]), last,
    List.filter_append]
  rfl

theorem cut_plain {s : List Char} (hash : '#' ∉ s) (last : s.getLast? ≠ some ' ') :
    cut s = ((s.rdropWhile isControlOrSpace).filter (!isTabOrNewline ·)).takeWhile (· != '&') := by
  rw [cut, keepTrailingSpace, if_neg last, cleanQuery_of_no_hash hash]

theorem map_plusToSpace_iff {s : List Char} : s.map plusToSpace = s ↔ '+' ∉ s := by
  constructor
  next =>
    intro same plus
    rw [← same] at plus
    obtain ⟨c, -, image⟩ := List.mem_map.1 plus
    unfold plusToSpace at image
    split at image
    next => contradiction
    next other => exact other image
  next => exact map_plusToSpace

theorem startsEscape_append_space {s : List Char} (plain : startsEscape s = false) :
    startsEscape (s ++ [' ']) = false := by
  rw [Bool.eq_false_iff]
  intro starts
  obtain ⟨high, low, byte, rest, shape, found⟩ := startsEscape_eq_true starts
  obtain ⟨high_hex, low_hex⟩ := hex_of_escaped? found
  have last := congrArg List.getLast? shape
  cases rest using List.reverseRecOn with
  | nil =>
    -- The space would be the second digit.
    simp only [List.getLast?_append, List.getLast?_singleton, Option.some_or,
      List.getLast?_cons_cons, Option.some.injEq] at last
    rw [← last] at low_hex
    exact absurd low_hex (by decide)
  | append_singleton rest final =>
    have front : s = '%' :: high :: low :: rest := by
      have dropped := congrArg List.dropLast shape
      have regroup : '%' :: high :: low :: (rest ++ [final]) =
          ('%' :: high :: low :: rest) ++ [final] := rfl
      rwa [regroup, List.dropLast_concat, List.dropLast_concat] at dropped
    rw [front] at plain
    simp [startsEscape, found] at plain

theorem hasEscape_append_space {s : List Char} (plain : hasEscape s = false) :
    hasEscape (s ++ [' ']) = false := by
  induction s with
  | nil => decide
  | cons c s ih =>
    simp only [hasEscape, Bool.or_eq_false_iff] at plain
    have starts := startsEscape_append_space plain.1
    rw [List.cons_append] at starts ⊢
    rw [hasEscape, starts, ih plain.2, Bool.or_self]

-- An ampersand cuts the rest off, whatever follows it.
theorem decodeComponent_ampersand_length {t : List Char} (amp : '&' ∈ t) (rest : List Char) :
    (decodeComponent ((t ++ rest).takeWhile (· != '&'))).length < t.length := by
  obtain ⟨before, after, shape, absent⟩ := List.eq_append_cons_of_mem amp
  have lengths := congrArg List.length shape
  simp only [List.length_append, List.length_cons] at lengths
  have bound := decodeComponent_length_le before
  rw [shape, List.append_assoc, takeWhile_all_append (bne_of_not_mem absent), List.cons_append,
    List.takeWhile_cons_of_neg (by simp), List.append_nil, ← shape]
  omega

section Hop

variable {s : List Char} (hash : '#' ∉ s)

include hash

theorem cut_trailing_length : (decodeComponent (cut (s ++ [' ']))).length ≤ s.length + 1 := by
  rw [cut_trailing hash]
  have filtered := List.length_filter_le (!isTabOrNewline ·) s
  by_cases amp : '&' ∈ s.filter (!isTabOrNewline ·)
  next =>
    have bound := decodeComponent_ampersand_length amp "%20".toList
    omega
  next =>
    have bound := decodeComponent_trailing_length (s.filter (!isTabOrNewline ·))
    have count := pieces_length_le (s.filter (!isTabOrNewline ·))
    rw [takeWhile_of_not_mem (by simp only [List.mem_append, not_or]; exact ⟨amp, by decide⟩)]
    omega

theorem cut_trailing_survives : decodeComponent (cut (s ++ [' '])) = s ++ [' '] ↔
    Survives (s ++ [' ']) := by
  rw [cut_trailing hash]
  constructor
  next =>
    intro same
    have lengths := congrArg List.length same
    simp only [List.length_append, List.length_singleton] at lengths
    have filtered := List.length_filter_le (!isTabOrNewline ·) s
    have amp : '&' ∉ s.filter (!isTabOrNewline ·) := by
      intro amp
      have bound := decodeComponent_ampersand_length amp "%20".toList
      omega
    rw [takeWhile_of_not_mem (by simp only [List.mem_append, not_or]; exact ⟨amp, by decide⟩)]
      at same lengths
    have bound := decodeComponent_trailing_length (s.filter (!isTabOrNewline ·))
    have count := pieces_length_le (s.filter (!isTabOrNewline ·))
    have lines : s.filter (!isTabOrNewline ·) = s :=
      List.filter_sublist.eq_of_length_le (by omega)
    rw [lines] at same lengths amp bound
    have escape : hasEscape s = false := by
      rw [Bool.eq_false_iff]
      intro escapes
      have fewer := pieces_length_lt escapes
      omega
    rw [decodeComponent_trailing escape, List.append_cancel_right_eq, map_plusToSpace_iff] at same
    have no_lines := filter_lines.1 lines
    exact
      { ampersand := by simp [amp]
        hash := by simp [hash]
        plus := by simp [same]
        lines := by
          intro c member
          rcases List.mem_append.1 member with inside | blank
          · exact no_lines c inside
          · rw [List.mem_singleton.1 blank]
            decide
        escape := hasEscape_append_space escape
        last := by simp [isControl] }
  next =>
    intro survives
    have lines : s.filter (!isTabOrNewline ·) = s := filter_lines.2 fun c member =>
      survives.lines c (List.mem_append_left _ member)
    have amp : '&' ∉ s ++ "%20".toList := by
      have absent := survives.ampersand
      simp only [List.mem_append, not_or] at absent ⊢
      exact ⟨absent.1, by decide⟩
    have plus : '+' ∉ s := fun member => survives.plus (List.mem_append_left _ member)
    rw [lines, takeWhile_of_not_mem amp,
      decodeComponent_trailing (hasEscape_append_left survives.escape), map_plusToSpace plus]

variable (no_space : s.getLast? ≠ some ' ')

include no_space

theorem cut_plain_length : (decodeComponent (cut s)).length ≤ s.length := by
  have bound := decodeComponent_length_le (cut s)
  have shorter : (cut s).Sublist s := by
    rw [cut_plain hash no_space]
    exact (List.takeWhile_sublist _).trans
      (List.filter_sublist.trans (List.rdropWhile_prefix _ _).sublist)
  exact Nat.le_trans bound shorter.length_le

theorem cut_plain_survives : decodeComponent (cut s) = s ↔ Survives s := by
  constructor
  next =>
    intro same
    have dropped := (List.rdropWhile_prefix isControlOrSpace s).sublist
    have filtered := List.filter_sublist (p := (!isTabOrNewline ·))
      (l := s.rdropWhile isControlOrSpace)
    have taken := List.takeWhile_sublist (· != '&')
      (l := (s.rdropWhile isControlOrSpace).filter (!isTabOrNewline ·))
    rw [← cut_plain hash no_space] at taken
    have bound := decodeComponent_length_le (cut s)
    rw [same] at bound
    have cut_length := taken.length_le
    have filter_length := filtered.length_le
    have drop_length := dropped.length_le
    -- Nothing was lost at any of the three stages.
    have kept : s.rdropWhile isControlOrSpace = s := dropped.eq_of_length_le (by omega)
    rw [kept] at filtered taken cut_length filter_length
    have lines : s.filter (!isTabOrNewline ·) = s := filtered.eq_of_length_le (by omega)
    rw [lines] at taken
    have whole : cut s = s := taken.eq_of_length_le (by omega)
    have amp : '&' ∉ s := by
      intro member
      have shorter := takeWhile_length_lt member
      rw [cut_plain hash no_space, kept, lines] at whole
      rw [whole] at shorter
      omega
    rw [whole] at same
    have escape : hasEscape s = false := by
      rw [Bool.eq_false_iff]
      intro escapes
      have shorter := decodeComponent_length_lt escapes
      rw [same] at shorter
      omega
    rw [decodeComponent_of_no_escape escape, map_plusToSpace_iff] at same
    exact
      { ampersand := amp
        hash := hash
        plus := same
        lines := filter_lines.1 lines
        escape := escape
        last := by
          intro c last
          have nonempty : s ≠ [] := by
            intro empty
            simp [empty] at last
          have visible := List.rdropWhile_eq_self_iff.1 kept nonempty
          rw [Option.mem_def, List.getLast?_eq_getLast_of_ne_nil nonempty,
            Option.some.injEq] at last
          rw [last] at visible
          simp only [isControlOrSpace, decide_eq_true_eq] at visible
          simp only [isControl, decide_eq_false_iff_not]
          omega }
  next =>
    intro survives
    have kept : s.rdropWhile isControlOrSpace = s := by
      rw [List.rdropWhile_eq_self_iff]
      intro nonempty
      rw [List.getLast?_eq_getLast_of_ne_nil nonempty, ne_eq, Option.some.injEq] at no_space
      have visible := survives.last _ (List.getLast?_eq_getLast_of_ne_nil nonempty)
      simp only [isControl, decide_eq_false_iff_not] at visible
      simp only [isControlOrSpace, decide_eq_true_eq]
      intro low
      exact no_space (Char.toNat_inj.1 (by omega))
    rw [cut_plain hash no_space, kept, filter_lines.2 survives.lines,
      takeWhile_of_not_mem survives.ampersand, decodeComponent_of_no_escape survives.escape,
      map_plusToSpace survives.plus]

end Hop

theorem eq_concat_of_getLast? {s : List Char} {c : Char} (last : s.getLast? = some c) :
    ∃ front, s = front ++ [c] := by
  obtain ⟨front, shape⟩ := List.getLast?_eq_some_iff.1 last
  exact ⟨front, shape⟩

theorem cut_length {s : List Char} (hash : '#' ∉ s) :
    (decodeComponent (cut s)).length ≤ s.length := by
  by_cases space : s.getLast? = some ' '
  next =>
    obtain ⟨front, rfl⟩ := eq_concat_of_getLast? space
    have bound := cut_trailing_length (s := front) fun member =>
      hash (List.mem_append_left _ member)
    simpa using bound
  next => exact cut_plain_length hash space

theorem cut_survives {s : List Char} (hash : '#' ∉ s) :
    decodeComponent (cut s) = s ↔ Survives s := by
  by_cases space : s.getLast? = some ' '
  next =>
    obtain ⟨front, rfl⟩ := eq_concat_of_getLast? space
    exact cut_trailing_survives fun member => hash (List.mem_append_left _ member)
  next => exact cut_plain_survives hash space

section Link

variable {path : List (List Char)} (nonempty : path ≠ []) (unreserved : Unreserved path)

include nonempty unreserved

theorem navigate_payload_hash {before : List Char} (hash : '#' ∉ before) (after : List Char) :
    (searchParam (navigate (joinPath path ++ "?payload=".toList ++
      (before ++ '#' :: after))).search "payload").length ≤ before.length := by
  have shape : joinPath path ++ "?payload=".toList ++ (before ++ '#' :: after) =
      joinPath path ++ '?' :: (("payload=".toList ++ before) ++ '#' :: after) := by simp
  by_cases lone : after = []
  next =>
    -- The lone hash is dropped, and the payload is the one of the link without it.
    have without := navigate_payload nonempty unreserved hash
    have shape' : joinPath path ++ "?payload=".toList ++ before =
        joinPath path ++ '?' :: ("payload=".toList ++ before) := by simp
    rw [shape', navigate_query nonempty unreserved (by simp) (by simp [hash])] at without
    rw [shape, navigate_hash nonempty unreserved (by simp) (by simp [hash]), if_pos lone, without]
    exact cut_length hash
  next =>
    have filtered : ("payload=".toList ++ before).filter (!isTabOrNewline ·) =
        "payload=".toList ++ before.filter (!isTabOrNewline ·) := by
      rw [List.filter_append]
      rfl
    rw [shape, navigate_hash nonempty unreserved (by simp) (by simp [hash]), if_neg lone, filtered,
      searchParam_payload]
    calc (decodeComponent ((before.filter (!isTabOrNewline ·)).takeWhile (· != '&'))).length
        ≤ ((before.filter (!isTabOrNewline ·)).takeWhile (· != '&')).length :=
          decodeComponent_length_le _
      _ ≤ (before.filter (!isTabOrNewline ·)).length := (List.takeWhile_sublist _).length_le
      _ ≤ before.length := List.length_filter_le _ _

-- What `AppStreamList` reads is the payload exactly when the payload survives.
theorem navigate_payload_iff (payload : List Char) :
    searchParam (navigate (joinPath path ++ "?payload=".toList ++ payload)).search "payload" =
      payload ↔ Survives payload := by
  by_cases hash : '#' ∈ payload
  next =>
    obtain ⟨before, after, rfl, absent⟩ := List.eq_append_cons_of_mem hash
    have bound := navigate_payload_hash nonempty unreserved absent after
    constructor
    next =>
      intro same
      rw [same] at bound
      simp only [List.length_append, List.length_cons] at bound
      omega
    next =>
      intro survives
      exact absurd hash survives.hash
  next => rw [navigate_payload nonempty unreserved hash, cut_survives hash]

end Link

/-! ## Logins and restarts -/

/-- A location that the URL parser has made. -/
inductive Settled : Location → Prop where
  | path {path : List (List Char)} (nonempty : path ≠ []) (plain : Plain path) :
    Settled ⟨joinPath path, []⟩
  | query {path : List (List Char)} (nonempty : path ≠ []) (plain : Plain path)
    {query : List Char} (some_query : query ≠ []) (parsed : ∀ c ∈ query, querySet c = false) :
    Settled ⟨joinPath path, '?' :: query⟩

theorem Settled.navigate {location : Location} (settled : Settled location) :
    navigate (location.pathname ++ location.search) = location := by
  cases settled with
  | path nonempty plain =>
    rw [List.append_nil, navigate_joinPath plain.unreserved, pushSegments_plain plain,
      List.nil_append]
  | query nonempty plain some_query parsed =>
    exact navigate_location nonempty plain some_query parsed

theorem Settled.nonempty {location : Location} (settled : Settled location) :
    location.pathname ++ location.search ≠ [] := by
  cases settled with
  | path nonempty plain =>
    obtain ⟨first, rest, rfl⟩ := List.exists_cons_of_ne_nil nonempty
    simp [joinPath]
  | query nonempty plain some_query parsed => simp

theorem encodeURIComponent_visible {s : List Char} {c : Char}
    (member : c ∈ encodeURIComponent s) : isControlOrSpace c = false := by
  have digits : ∀ d ∈ "0123456789ABCDEFabcdef".toList, isControlOrSpace d = false := by decide
  have marks : ∀ d ∈ "-_.!~*'()".toList, isControlOrSpace d = false := by decide
  rcases mem_percentEncode member with ⟨-, plain⟩ | rfl | hex
  · rw [Bool.not_eq_false', Bool.or_eq_true, List.contains_iff_mem] at plain
    cases plain with
    | inl letter => exact isControlOrSpace_of_unreserved (by simp [isUnreserved, letter])
    | inr mark => exact marks c mark
  · decide
  · exact digits c (mem_of_hexValue? hex)

theorem not_mem_encodeURIComponent {d : Char} (letter : isAlphanumeric d = false)
    (mark : d ∉ "-_.!~*'()".toList) (percent : d ≠ '%') (s : List Char) :
    d ∉ encodeURIComponent s := by
  apply not_mem_percentEncode
  next => simpa [letter] using mark
  next => exact percent
  next =>
    rw [← Option.not_isSome_iff_eq_none]
    intro hex
    have every : ∀ c ∈ "0123456789ABCDEFabcdef".toList, isAlphanumeric c = true := by decide
    simp [every d (mem_of_hexValue? hex)] at letter

-- `searchParams.get("redirectAfter")` in `NucleusAuthenticate`.
theorem get_redirectAfter (href : List Char) :
    Params.get (parseParams (navigate
      ("/nucleus/authenticate?redirectAfter=".toList ++ encodeURIComponent href)).search)
      "redirectAfter".toList = some href := by
  have shape : "/nucleus/authenticate?redirectAfter=".toList ++ encodeURIComponent href =
      joinPath ["nucleus".toList, "authenticate".toList] ++
        '?' :: ("redirectAfter".toList ++ '=' :: encodeURIComponent href) := rfl
  have hash : '#' ∉ "redirectAfter".toList ++ '=' :: encodeURIComponent href := by
    have absent := not_mem_encodeURIComponent (d := '#') (by decide) (by decide) (by decide) href
    simp [absent]
  have visible : ∀ c ∈ "redirectAfter".toList ++ '=' :: encodeURIComponent href,
      isControlOrSpace c = false := by
    have front : ∀ c ∈ "redirectAfter=".toList, isControlOrSpace c = false := by decide
    intro c member
    have split : c ∈ "redirectAfter=".toList ++ encodeURIComponent href := member
    rcases List.mem_append.1 split with name | value
    · exact front c name
    · exact encodeURIComponent_visible value
  have no_space : ("redirectAfter".toList ++ '=' :: encodeURIComponent href).getLast? ≠
      some ' ' := by
    intro last
    exact absurd (visible ' ' (List.mem_of_getLast? last)) (by decide)
  have amp := not_mem_encodeURIComponent (d := '&') (by decide) (by decide) (by decide) href
  rw [shape, navigate_query (by simp) (by unfold Unreserved; decide) (by simp) hash,
    keepTrailingSpace, if_neg no_space, cleanQuery_of_visible hash visible,
    get_parsed (by constructor <;> decide), takeWhile_of_not_mem amp,
    decodeComponent_encodeURIComponent]

-- A login gives the visitor's location back.
theorem logIn_settled {location : Location} (settled : Settled location) (login : NucleusLogin) :
    logIn location login = some location := by
  have back := settled.navigate
  cases login with
  | form => simp only [logIn, get_redirectAfter, Option.getD_some, back]
  | sso =>
    have some_extra : encodeURIComponent (location.pathname ++ location.search) ≠ [] := by
      intro empty
      have decoded := decodeURIComponent_encodeURIComponent (location.pathname ++ location.search)
      rw [empty] at decoded
      exact settled.nonempty (Option.some.inj decoded).symm
    simp only [logIn, get_redirectAfter, Option.getD_some, ssoRedirect, some_extra, if_false,
      decodeURIComponent_encodeURIComponent, Option.map_some, back]

/-! ## The stream's location -/

def streamParams (payload resolution : List Char) : Params :=
  (if payload = [] then [] else [("payload".toList, payload)]) ++
    if resolution = [] then [] else [("resolution".toList, resolution)]

def streamPath (appId : List Char) (session : SessionId) : List (List Char) :=
  ["app".toList, appId, "sessions".toList, session.text]

theorem plain_cons {segment : List Char} {path : List (List Char)} (first : Plain [segment])
    (rest : Plain path) : Plain (segment :: path) := by
  constructor
  next =>
    intro other member
    rcases List.mem_cons.1 member with rfl | later
    · exact first.unreserved _ List.mem_cons_self
    · exact rest.unreserved _ later
  next =>
    intro other member
    rcases List.mem_cons.1 member with rfl | later
    · exact first.not_dots _ List.mem_cons_self
    · exact rest.not_dots _ later

theorem plain_app : Plain ["app".toList] := ⟨by unfold Unreserved; decide, by decide⟩

theorem plain_sessions : Plain ["sessions".toList] := ⟨by unfold Unreserved; decide, by decide⟩

theorem plain_streamPath {appId : List Char} (plain : Plain [appId]) (session : SessionId) :
    Plain (streamPath appId session) :=
  plain_cons plain_app (plain_cons plain (plain_cons plain_sessions session.plain))

theorem streamStart_eq {appId : List Char} (plain : Plain [appId]) (payload resolution : List Char)
    (session : SessionId) :
    streamStart appId payload resolution session =
      ⟨joinPath (streamPath appId session),
        if streamParams payload resolution = [] then []
        else '?' :: Params.toString (streamParams payload resolution)⟩ := by
  have params : (if resolution = [] then
        if payload = [] then [] else Params.set [] "payload".toList payload
      else Params.set (if payload = [] then [] else Params.set [] "payload".toList payload)
        "resolution".toList resolution) = streamParams payload resolution := by
    by_cases no_payload : payload = [] <;> by_cases no_resolution : resolution = [] <;>
      simp [streamParams, Params.set, no_payload, no_resolution]
  have text : ∀ query : List Char,
      "/app/".toList ++ appId ++ "/sessions/".toList ++ session.text ++ query =
        joinPath (streamPath appId session) ++ query := by
    intro query
    simp [joinPath, streamPath]
  have unreserved := (plain_streamPath plain session).unreserved
  have pushed := pushSegments_plain (plain_streamPath plain session) []
  rw [List.nil_append] at pushed
  simp only [streamStart, params, text]
  by_cases no_params : streamParams payload resolution = []
  next =>
    rw [if_pos no_params, no_params, if_pos (by rfl), List.append_nil,
      parse_unreserved_path unreserved,
      pushed]
  next =>
    have written := toString_ne_nil no_params
    have long : ¬('?' :: Params.toString (streamParams payload resolution)).length ≤ 1 := by
      have positive := List.length_pos_iff.2 written
      simp only [List.length_cons]
      omega
    have parsed : ∀ c ∈ Params.toString (streamParams payload resolution), querySet c = false :=
      fun _ member => querySet_of_mem_toString member
    rw [if_neg no_params, if_neg written, parse_unreserved (by simp [streamPath]) unreserved,
      pushed,
      cleanQuery_of_not_querySet parsed, percentEncode_of_not_set parsed, searchOf, if_neg long]

theorem streamStart_settled {appId : List Char} (plain : Plain [appId])
    (payload resolution : List Char) (session : SessionId) :
    Settled (streamStart appId payload resolution session) := by
  rw [streamStart_eq plain]
  by_cases no_params : streamParams payload resolution = []
  next =>
    rw [if_pos no_params]
    exact Settled.path (by simp [streamPath]) (plain_streamPath plain session)
  next =>
    rw [if_neg no_params]
    exact Settled.query (by simp [streamPath]) (plain_streamPath plain session)
      (toString_ne_nil no_params) fun _ member => querySet_of_mem_toString member

-- `AppStream` reads the payload that `useStreamStart` wrote.
theorem streamStart_payload {appId : List Char} (plain : Plain [appId])
    (payload resolution : List Char) (session : SessionId) :
    searchParam (streamStart appId payload resolution session).search "payload" = payload := by
  rw [streamStart_eq plain]
  by_cases no_params : streamParams payload resolution = []
  next =>
    have empty : payload = [] := by
      by_contra some_payload
      rw [streamParams, if_neg some_payload, List.singleton_append] at no_params
      contradiction
    rw [if_pos no_params, empty]
    rfl
  next =>
    rw [if_neg no_params, searchParam, parseParams_toString]
    by_cases no_payload : payload = []
    next =>
      have absent : ∀ text : List Char,
          Params.get [("resolution".toList, text)] "payload".toList = Option.none := fun _ => rfl
      by_cases no_resolution : resolution = []
      next => simp [streamParams, no_payload, no_resolution] at no_params
      next =>
        rw [streamParams, if_pos no_payload, if_neg no_resolution, List.nil_append, absent,
          no_payload]
        rfl
    next =>
      rw [streamParams, if_neg no_payload, List.singleton_append, get_first, Option.getD_some]

theorem matchRoutes_appStream {appId : List Char} (nonempty : appId ≠ []) (plain : Plain [appId])
    (session : SessionId) :
    matchRoutes (joinPath (streamPath appId session)) =
      some (.appStream, [appId, session.text]) := by
  have unreserved := (plain_streamPath plain session).unreserved
  rw [matchRoutes, pathSegments_joinPath (no_slash_of_unreserved unreserved)
    (by simp [streamPath, session.nonempty]), decodePath_unreserved unreserved]
  simp [router, streamPath, List.findSome?_cons, nonempty, session.nonempty]


/-! ## The whole way -/

/-- An application id made of URL-safe characters. -/
structure AppId where
  text : List Char
  nonempty : text ≠ []
  unreserved : ∀ c ∈ text, isUnreserved c = true

def listPath (appId : AppId) : List (List Char) :=
  ["app".toList, appId.text, "sessions".toList]

theorem unreserved_listPath (appId : AppId) : Unreserved (listPath appId) := by
  intro segment member
  rcases List.mem_cons.1 member with rfl | later
  · exact plain_app.unreserved _ List.mem_cons_self
  · rcases List.mem_cons.1 later with rfl | last
    · exact appId.unreserved
    · exact plain_sessions.unreserved _ last

theorem plain_listPath {appId : AppId} (not_dots : isDots appId.text = false) :
    Plain (listPath appId) := by
  refine ⟨unreserved_listPath appId, ?_⟩
  intro segment member
  rcases List.mem_cons.1 member with rfl | later
  · decide
  · rcases List.mem_cons.1 later with rfl | last
    · exact not_dots
    · exact plain_sessions.not_dots _ last

theorem deepLink_eq {search payload : List Char} (appId : AppId) (nonempty : payload ≠ [])
    (application : Params.get (parseParams search) "application".toList = some appId.text)
    (link_data : Params.get (parseParams search) "link_data".toList = some payload) :
    deepLink search = joinPath (listPath appId) ++ "?payload=".toList ++ payload := by
  simp only [deepLink, searchParam, application, link_data, Option.getD_some, appId.nonempty,
    nonempty, if_false]
  simp [joinPath, listPath]

theorem navigate_encoded {path : List (List Char)} (nonempty : path ≠ [])
    (unreserved : Unreserved path) (payload : List Char) :
    ∃ query, navigate (joinPath path ++ "?payload=".toList ++ payload) =
      ⟨joinPath (pushSegments [] path), searchOf ('?' :: percentEncode querySet query)⟩ := by
  have shape : ∀ text : List Char, joinPath path ++ "?payload=".toList ++ text =
      joinPath path ++ '?' :: ("payload=".toList ++ text) := by simp
  by_cases hash : '#' ∈ payload
  next =>
    obtain ⟨before, after, rfl, absent⟩ := List.eq_append_cons_of_mem hash
    rw [shape, ← List.append_assoc]
    exact ⟨_, navigate_hash nonempty unreserved (by simp) (by simp [absent]) after⟩
  next =>
    rw [shape]
    exact ⟨_, navigate_query nonempty unreserved (by simp) (by simp [hash])⟩

theorem settled_encoded {path : List (List Char)} (nonempty : path ≠ []) (plain : Plain path)
    (query : List Char) :
    Settled ⟨joinPath path, searchOf ('?' :: percentEncode querySet query)⟩ := by
  by_cases empty : percentEncode querySet query = []
  next =>
    rw [empty]
    exact Settled.path nonempty plain
  next =>
    have long : ¬('?' :: percentEncode querySet query).length ≤ 1 := by
      have positive := List.length_pos_iff.2 empty
      simp only [List.length_cons]
      omega
    rw [searchOf, if_neg long]
    exact Settled.query nonempty plain empty fun _ member =>
      not_set_of_mem_percentEncode keeps_querySet member

theorem matchRoutes_appStreamList (appId : AppId) :
    matchRoutes (joinPath (listPath appId)) = some (.appStreamList, [appId.text]) := by
  have unreserved := unreserved_listPath appId
  rw [matchRoutes, pathSegments_joinPath (no_slash_of_unreserved unreserved)
    (by simp [listPath]), decodePath_unreserved unreserved]
  simp [router, listPath, List.findSome?_cons, appId.nonempty]

theorem foldlM_appStream {appId : List Char} (nonempty : appId ≠ []) (plain : Plain [appId])
    (payload resolution : List Char) (session : SessionId) (visits : List Visit) :
    ∃ resolution' session', visits.foldlM appStream (streamStart appId payload resolution session) =
      some (streamStart appId payload resolution' session') := by
  induction visits generalizing resolution session with
  | nil => exact ⟨resolution, session, rfl⟩
  | cons visit visits ih =>
    have pathname : (streamStart appId payload resolution session).pathname =
        joinPath (streamPath appId session) := by rw [streamStart_eq plain]
    have page := matchRoutes_appStream nonempty plain session
    rw [← pathname] at page
    rw [List.foldlM_cons]
    cases visit with
    | logIn login =>
      have back := logIn_settled (streamStart_settled plain payload resolution session) login
      have visited : appStream (streamStart appId payload resolution session) (.logIn login) =
          some (streamStart appId payload resolution session) := by
        simp only [appStream, page, back]
      rw [visited]
      exact ih resolution session
    | restart other =>
      have visited : appStream (streamStart appId payload resolution session) (.restart other) =
          some (streamStart appId payload [] other) := by
        simp only [appStream, page, streamStart_payload plain]
      rw [visited]
      exact ih [] other

theorem foldlM_appStreamListLogIn {appId : AppId} {search : List Char}
    (settled : Settled ⟨joinPath (listPath appId), search⟩) (logins : List NucleusLogin) :
    logins.foldlM appStreamListLogIn ⟨joinPath (listPath appId), search⟩ =
      some ⟨joinPath (listPath appId), search⟩ := by
  induction logins with
  | nil => rfl
  | cons login logins ih =>
    have back := logIn_settled settled login
    have visited : appStreamListLogIn ⟨joinPath (listPath appId), search⟩ login =
        some ⟨joinPath (listPath appId), search⟩ := by
      simp only [appStreamListLogIn, matchRoutes_appStreamList appId, back]
    rw [List.foldlM_cons, visited]
    exact ih

-- The message carries what `AppStreamList` read; an empty payload is not sent.
theorem openDeepLink_eq {search payload : List Char} {appId : AppId} (nonempty : payload ≠ [])
    (application : Params.get (parseParams search) "application".toList = some appId.text)
    (link_data : Params.get (parseParams search) "link_data".toList = some payload)
    (not_dots : isDots appId.text = false) (logins : List NucleusLogin) (session : SessionId)
    (visits : List Visit) :
    openDeepLink search logins session visits =
      let read := searchParam (navigate (joinPath (listPath appId) ++ "?payload=".toList ++
        payload)).search "payload"
      if read = [] then none else some read := by
  have plain : Plain [appId.text] := by
    constructor
    next =>
      intro segment member
      rw [List.mem_singleton.1 member]
      exact appId.unreserved
    next => simpa using not_dots
  obtain ⟨query, target⟩ :=
    navigate_encoded (by simp [listPath]) (unreserved_listPath appId) payload
  rw [pushSegments_plain (plain_listPath not_dots), List.nil_append] at target
  have list := foldlM_appStreamListLogIn
    (settled_encoded (by simp [listPath]) (plain_listPath not_dots) query) logins
  rw [openDeepLink, deepLink_eq appId nonempty application link_data, target, list]
  obtain ⟨resolution, last, visited⟩ := foldlM_appStream appId.nonempty plain
    (searchParam (searchOf ('?' :: percentEncode querySet query)) "payload")
    (searchParam (searchOf ('?' :: percentEncode querySet query)) "resolution") session visits
  have pathname : ∀ payload, (streamStart appId.text payload resolution last).pathname =
      joinPath (streamPath appId.text last) := fun _ => by rw [streamStart_eq plain]
  simp only [Option.bind_eq_bind, Option.bind_some, appStreamList,
    matchRoutes_appStreamList appId, visited, applyDeeplinkRequest, pathname,
    matchRoutes_appStream appId.nonempty plain, streamStart_payload plain]

theorem map_lower {s : List Char} (plain : 'e' ∉ s.map lower) : s.map lower = s := by
  have same : s.map lower = s.map id := by
    apply List.map_congr_left
    intro c member
    unfold lower
    split
    next upper =>
      subst upper
      exact absurd (List.mem_map_of_mem member) plain
    next => rfl
  rw [same, List.map_id]

-- Without escapes only the two plain spellings are left.
theorem dots_of_unreserved {segment : List Char} (unreserved : ∀ c ∈ segment, isUnreserved c = true)
    (dots : isDots segment = true) : segment = ".".toList ∨ segment = "..".toList := by
  have percent : '%' ∉ segment.map lower := by
    intro member
    obtain ⟨c, inside, same⟩ := List.mem_map.1 member
    unfold lower at same
    split at same
    next => exact absurd same (by decide)
    next =>
      subst same
      exact absurd (unreserved _ inside) (by decide)
  simp only [isDots, isSingleDot, isDoubleDot, Bool.or_eq_true, decide_eq_true_eq, List.mem_cons,
    List.not_mem_nil, or_false] at dots
  rcases dots with (same | same) | same | same | same | same
  · left
    rw [← same, map_lower (by rw [same]; decide)]
  · exact absurd percent (by rw [same]; decide)
  · right
    rw [← same, map_lower (by rw [same]; decide)]
  · exact absurd percent (by rw [same]; decide)
  · exact absurd percent (by rw [same]; decide)
  · exact absurd percent (by rw [same]; decide)

-- A dot segment leads to another page, where the payload is lost.
theorem openDeepLink_dots {search payload : List Char} {appId : AppId} (nonempty : payload ≠ [])
    (application : Params.get (parseParams search) "application".toList = some appId.text)
    (link_data : Params.get (parseParams search) "link_data".toList = some payload)
    (dots : isDots appId.text = true) (logins : List NucleusLogin) (session : SessionId)
    (visits : List Visit) : openDeepLink search logins session visits = none := by
  have elsewhere :
      matchRoutes (joinPath (pushSegments [] (listPath appId))) =
          some (.appInfo, ["sessions".toList]) ∨
        matchRoutes (joinPath (pushSegments [] (listPath appId))) =
          some (.userSessionList, []) := by
    rcases dots_of_unreserved appId.unreserved dots with dot | dot
    · left
      rw [listPath, dot]
      decide +kernel
    · right
      rw [listPath, dot]
      decide +kernel
  obtain ⟨query, target⟩ :=
    navigate_encoded (by simp [listPath]) (unreserved_listPath appId) payload
  rw [openDeepLink, deepLink_eq appId nonempty application link_data, target]
  cases logins with
  | nil => rcases elsewhere with page | page <;> simp [appStreamList, page]
  | cons login logins =>
    rcases elsewhere with page | page <;>
      simp [List.foldlM_cons, appStreamListLogIn, page]

/-- A deep link delivers its payload, on every way through the logins, exactly when the id is no
dot segment and the payload may stand in a query as it is. -/
theorem deep_link_delivers_iff {search payload : List Char} {appId : AppId}
    (nonempty : payload ≠ [])
    (application : Params.get (parseParams search) "application".toList = some appId.text)
    (link_data : Params.get (parseParams search) "link_data".toList = some payload)
    (logins : List NucleusLogin) (session : SessionId) (visits : List Visit) :
    openDeepLink search logins session visits = some payload ↔
      isDots appId.text = false ∧ Survives payload := by
  cases dots : isDots appId.text with
  | true => simp [openDeepLink_dots nonempty application link_data dots]
  | false =>
    have read := navigate_payload_iff (by simp [listPath]) (unreserved_listPath appId) payload
    rw [openDeepLink_eq nonempty application link_data dots, ← read]
    generalize searchParam (navigate (joinPath (listPath appId) ++ "?payload=".toList ++
      payload)).search "payload" = value
    by_cases empty : value = []
    next => simp [empty, nonempty.symm]
    next => simp [empty]

-- The query of a link whose author escapes both values.
def deepLinkSearch (appId payload : List Char) : List Char :=
  "?application=".toList ++ encodeURIComponent appId ++ "&link_data=".toList ++
    encodeURIComponent payload

def usdViewer : AppId := ⟨"usd-viewer".toList, by decide, by decide⟩

def sampleSession : SessionId :=
  ⟨"6a1f".toList, by decide, ⟨by unfold Unreserved; decide, by decide⟩⟩

theorem survives_plain_text : Survives "stage 1 at 100%".toList where
  ampersand := by decide
  hash := by decide
  plus := by decide
  lines := by decide
  escape := by decide
  last := by
    have last : "stage 1 at 100%".toList.getLast? = some '%' := rfl
    intro c found
    rw [last, Option.mem_some_iff] at found
    subst found
    decide

theorem deep_link_delivers_plain_text :
    openDeepLink (deepLinkSearch usdViewer.text "stage 1 at 100%".toList) [.sso, .form]
        sampleSession [.logIn .sso, .restart sampleSession] = some "stage 1 at 100%".toList :=
  have application : Params.get (parseParams (deepLinkSearch usdViewer.text
      "stage 1 at 100%".toList)) "application".toList = some usdViewer.text := by decide +kernel
  (deep_link_delivers_iff (by decide) application (by decide +kernel) [.sso, .form] sampleSession
    [.logIn .sso, .restart sampleSession]).2 ⟨by decide, survives_plain_text⟩

/-- Of `a=1&b=2` only `a=1` arrives. -/
theorem deep_link_loses_second_pair :
    ¬∀ (search payload : List Char) (appId : AppId) (logins : List NucleusLogin)
      (session : SessionId) (visits : List Visit), payload ≠ [] →
      Params.get (parseParams search) "application".toList = some appId.text →
      Params.get (parseParams search) "link_data".toList = some payload →
      openDeepLink search logins session visits = some payload := by
  intro delivers
  have whole := delivers (deepLinkSearch usdViewer.text "a=1&b=2".toList) "a=1&b=2".toList usdViewer
    [] sampleSession [] (by decide) (by decide +kernel) (by decide +kernel)
  have first : openDeepLink (deepLinkSearch usdViewer.text "a=1&b=2".toList) [] sampleSession [] =
      some "a=1".toList := by decide +kernel
  rw [first] at whole
  exact absurd whole (by decide)

end StreamingPortal.Web
