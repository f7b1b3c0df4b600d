import StreamingPortal.Shared.Percent
import Mathlib.Data.List.DropRight

set_option autoImplicit false

/-!
# URLs of one origin

The URL standard's parser for input that starts with one `/` and is resolved against an http
origin: what it strips, the path with its dot segments, the query. `URLSearchParams` reads and
writes the query, and so do other writers of forms, with sets of their own.
-/

namespace StreamingPortal.Url

open Utf8 Percent

structure Location where
  pathname : List Char
  search : List Char
deriving DecidableEq

def isControlOrSpace (c : Char) : Bool := decide (c.toNat ≤ ' '.toNat)

def isTabOrNewline (c : Char) : Bool := c == '\t' || c == '\n' || c == '\r'

def isSlash (c : Char) : Bool := c == '/' || c == '\\'

-- The special-query percent-encode set.
def querySet (c : Char) : Bool := !between '!' '~' c || "\"#<>'".toList.contains c

-- The path percent-encode set.
def pathSet (c : Char) : Bool := !between '!' '~' c || "\"#<>?^`{}".toList.contains c

-- Leading and trailing controls and spaces go, tabs and newlines everywhere.
def preprocess (input : List Char) : List Char :=
  ((input.dropWhile isControlOrSpace).rdropWhile isControlOrSpace).filter (!isTabOrNewline ·)

def beforeFragment (s : List Char) : List Char := s.takeWhile (· != '#')

def pathPart (s : List Char) : List Char := (beforeFragment s).takeWhile (· != '?')

-- With its question mark.
def queryPart (s : List Char) : List Char := (beforeFragment s).dropWhile (· != '?')

def lower (c : Char) : Char := if c = 'E' then 'e' else c

def isSingleDot (segment : List Char) : Bool :=
  decide (segment.map lower ∈ [".".toList, "%2e".toList])

def isDoubleDot (segment : List Char) : Bool :=
  decide (segment.map lower ∈ ["..".toList, ".%2e".toList, "%2e.".toList, "%2e%2e".toList])

def isDots (segment : List Char) : Bool := isSingleDot segment || isDoubleDot segment

def pushSegment (last : Bool) (path : List (List Char)) (segment : List Char) :
    List (List Char) :=
  if isDoubleDot segment then path.dropLast ++ (if last then [[]] else [])
  else if isSingleDot segment then path ++ (if last then [[]] else [])
  else path ++ [percentEncode pathSet segment]

def pushSegments (path : List (List Char)) : List (List Char) → List (List Char)
  | [] => path
  | [segment] => pushSegment true path segment
  | segment :: rest => pushSegments (pushSegment false path segment) rest

theorem pushSegments_singleton (path : List (List Char)) (segment : List Char) :
    pushSegments path [segment] = pushSegment true path segment := rfl

theorem pushSegments_cons_cons (path : List (List Char)) (segment next : List Char)
    (rest : List (List Char)) :
    pushSegments path (segment :: next :: rest) =
      pushSegments (pushSegment false path segment) (next :: rest) := rfl

def joinPath (path : List (List Char)) : List Char := path.flatMap ('/' :: ·)

-- The segments after the first slash.
def segments (path : List Char) : List (List Char) := (path.splitOnP isSlash).tail

-- An empty query loses its question mark.
def searchOf (query : List Char) : List Char := if query.length ≤ 1 then [] else query

-- `new URL(input, origin)`.
def parse (input : List Char) : Location where
  pathname := joinPath (pushSegments [] (segments (pathPart (preprocess input))))
  search := searchOf (percentEncode querySet (queryPart (preprocess input)))

/-! ## `URLSearchParams` -/

abbrev Params := List (List Char × List Char)

def plusToSpace (c : Char) : Char := if c = '+' then ' ' else c

def decodeComponent (s : List Char) : List Char := decode (percentDecode (s.map plusToSpace))

def splitPair (s : List Char) : List Char × List Char :=
  (s.takeWhile (· != '='), (s.dropWhile (· != '=')).drop 1)

def parsePair (s : List Char) : List Char × List Char :=
  ((decodeComponent (splitPair s).1), decodeComponent (splitPair s).2)

def withoutQuestionMark : List Char → List Char
  | '?' :: query => query
  | query => query

-- The pairs of a query, also those whose value is blank.
def readPairs (query : List Char) : Params :=
  ((query.splitOnP (· == '&')).filter (· ≠ [])).map parsePair

def parseParams (search : List Char) : Params := readPairs (withoutQuestionMark search)

def Params.get (params : Params) (name : List Char) : Option (List Char) :=
  (params.find? (·.1 = name)).map (·.2)

-- The first pair of that name gets the value, the other ones go.
def Params.set (params : Params) (name value : List Char) : Params :=
  match params with
  | [] => [(name, value)]
  | pair :: rest =>
    if pair.1 = name then (name, value) :: rest.filter (·.1 ≠ name)
    else pair :: Params.set rest name value

/-! ## Queries as forms write them

A space becomes a plus and the code points of `set` become escapes; writers differ in the set. -/

def formEncode (set : Char → Bool) (s : List Char) : List Char :=
  s.flatMap fun c => if c = ' ' then ['+'] else encodeChar set c

def formPair (set : Char → Bool) (pair : List Char × List Char) : List Char :=
  formEncode set pair.1 ++ '=' :: formEncode set pair.2

def formQuery (set : Char → Bool) (params : Params) : List Char :=
  ['&'].intercalate (params.map (formPair set))

def formSet (c : Char) : Bool := !(isAlphanumeric c || "*-._".toList.contains c)

def Params.toString (params : Params) : List Char := formQuery formSet params

/-- What a reader takes for a mark of its own is escaped. -/
structure EscapesMarks (set : Char → Bool) : Prop where
  percent : set '%' = true
  plus : set '+' = true
  ampersand : set '&' = true
  equals : set '=' = true

theorem formSet_escapes : EscapesMarks formSet := ⟨rfl, rfl, rfl, rfl⟩

-- The query of a URL, without its question mark.
def queryOf (url : List Char) : List Char := (queryPart url).drop 1

/-! ## Components of a query -/

theorem keepsEscapes_of_digits {set : Char → Bool} (percent : set '%' = false)
    (digits : ∀ c ∈ "0123456789ABCDEFabcdef".toList, set c = false) : KeepsEscapes set :=
  ⟨percent, fun c hex => digits c (mem_of_hexValue? hex)⟩

theorem keeps_querySet : KeepsEscapes querySet := keepsEscapes_of_digits rfl (by decide)

theorem keeps_pathSet : KeepsEscapes pathSet := keepsEscapes_of_digits rfl (by decide)

def plusPiece : Piece → Piece
  | .char c => .char (plusToSpace c)
  | .raw byte => .raw byte

theorem plusToSpace_of_hex {c : Char} (hex : (hexValue? c).isSome) : plusToSpace c = c := by
  have every : ∀ c ∈ "0123456789ABCDEFabcdef".toList, plusToSpace c = c := by decide
  exact every c (mem_of_hexValue? hex)

theorem plusToSpace_eq_percent {c : Char} : plusToSpace c = '%' ↔ c = '%' := by
  unfold plusToSpace
  split
  next plus =>
    subst plus
    decide
  next => rfl

theorem hexValue?_plusToSpace (c : Char) : hexValue? (plusToSpace c) = hexValue? c := by
  unfold plusToSpace
  split
  next plus =>
    subst plus
    decide
  next => rfl

theorem startsEscape_plusToSpace (s : List Char) :
    startsEscape (s.map plusToSpace) = startsEscape s := by
  match s with
  | [] => rfl
  | [_] => simp [startsEscape]
  | [_, _] => simp [startsEscape]
  | c :: high :: low :: rest =>
    simp only [List.map_cons, startsEscape_cons_cons, plusToSpace_eq_percent, escaped?,
      hexValue?_plusToSpace]

theorem hasEscape_plusToSpace (s : List Char) : hasEscape (s.map plusToSpace) = hasEscape s := by
  induction s with
  | nil => rfl
  | cons c rest ih =>
    have same := startsEscape_plusToSpace (c :: rest)
    rw [List.map_cons] at same
    rw [List.map_cons, hasEscape, hasEscape, same, ih]

theorem pieces_plusToSpace (s : List Char) :
    pieces (s.map plusToSpace) = (pieces s).map plusPiece := by
  induction s using pieces_induction with
  | nil => rfl
  | escape high low byte rest found ih =>
    obtain ⟨high_hex, low_hex⟩ := hex_of_escaped? found
    simp only [List.map_cons, plusToSpace_of_hex high_hex, plusToSpace_of_hex low_hex]
    have percent : plusToSpace '%' = '%' := rfl
    rw [percent, pieces_escape found, pieces_escape found, ih]
    rfl
  | char c rest plain ih =>
    rw [← startsEscape_plusToSpace, List.map_cons] at plain
    have plain' := plain
    rw [← List.map_cons, startsEscape_plusToSpace] at plain'
    rw [List.map_cons, pieces_plain plain, pieces_plain plain', ih]
    rfl

-- The URL parser escapes code points of a query that are read back unchanged.
theorem decodeComponent_percentEncode {set : Char → Bool} (keeps : KeepsEscapes set)
    (plus : set '+' = false) (s : List Char) :
    decodeComponent (percentEncode set s) = decodeComponent s := by
  simp only [decodeComponent, percentDecode, pieces_plusToSpace, pieces_percentEncode keeps]
  congr 1
  induction pieces s with
  | nil => rfl
  | cons piece pieces ih =>
    rw [List.flatMap_cons, List.map_append, flat_append, ih, List.map_cons]
    cases piece with
    | raw byte => rfl
    | char c =>
      by_cases inSet : set c
      next =>
        have other : plusToSpace c = c := by
          unfold plusToSpace
          split
          next same =>
            subst same
            simp [plus] at inSet
          next => rfl
        have raws : (String.utf8EncodeChar c).map (plusPiece ∘ Piece.raw) =
            (String.utf8EncodeChar c).map .raw := rfl
        simp [encodePiece, inSet, plusPiece, other, raws, flat_raws]
      next => simp [encodePiece, inSet, plusPiece]

theorem decodeComponent_length_le (s : List Char) : (decodeComponent s).length ≤ s.length := by
  simpa [decodeComponent] using decode_percentDecode_length_le (s.map plusToSpace)

theorem decodeComponent_length_lt {s : List Char} (escapes : hasEscape s = true) :
    (decodeComponent s).length < s.length := by
  rw [← hasEscape_plusToSpace] at escapes
  simpa [decodeComponent] using decode_percentDecode_length_lt escapes

theorem decodeComponent_of_no_escape {s : List Char} (plain : hasEscape s = false) :
    decodeComponent s = s.map plusToSpace := by
  rw [← hasEscape_plusToSpace] at plain
  exact decode_percentDecode_of_no_escape plain

theorem map_plusToSpace {s : List Char} (none : '+' ∉ s) : s.map plusToSpace = s := by
  have same : s.map plusToSpace = s.map id := by
    apply List.map_congr_left
    intro c member
    unfold plusToSpace
    split
    next plus =>
      subst plus
      contradiction
    next => rfl
  rw [same, List.map_id]

@[simp] theorem decodeComponent_encodeURIComponent (s : List Char) :
    decodeComponent (encodeURIComponent s) = s := by
  have none : '+' ∉ encodeURIComponent s :=
    not_mem_percentEncode (by decide) (by decide) (by decide) s
  rw [decodeComponent, map_plusToSpace none, encodeURIComponent,
    percentDecode_percentEncode (by decide), decode_encode]

theorem decodeComponent_formEncode {set : Char → Bool} (escapes : EscapesMarks set)
    (s : List Char) : decodeComponent (formEncode set s) = s := by
  -- Read back, the pluses are spaces that stand for themselves.
  have spaces : (formEncode set s).map plusToSpace =
      percentEncode (fun c => c != ' ' && set c) s := by
    rw [formEncode, List.map_flatMap, percentEncode]
    congr 1
    funext c
    by_cases space : c = ' '
    next => simp [space, encodeChar, plusToSpace]
    next =>
      have plain : '+' ∉ encodeChar set c := by
        have none : '+' ∉ percentEncode set [c] :=
          not_mem_percentEncode escapes.plus (by decide) (by decide) [c]
        simpa [percentEncode] using none
      simp only [space, if_false, map_plusToSpace plain]
      simp [encodeChar, space]
  rw [decodeComponent, spaces, percentDecode_percentEncode (by simp [escapes.percent]),
    decode_encode]

/-! ## Reading a query -/

theorem takeWhile_all_append {p : Char → Bool} {s : List Char} (all : ∀ c ∈ s, p c = true)
    (rest : List Char) : (s ++ rest).takeWhile p = s ++ rest.takeWhile p := by
  induction s with
  | nil => rfl
  | cons c s ih =>
    have tail := ih fun c member => all c (List.mem_cons_of_mem _ member)
    simp [all c List.mem_cons_self, tail]

theorem dropWhile_all_append {p : Char → Bool} {s : List Char} (all : ∀ c ∈ s, p c = true)
    (rest : List Char) : (s ++ rest).dropWhile p = rest.dropWhile p := by
  induction s with
  | nil => rfl
  | cons c s ih =>
    have tail := ih fun c member => all c (List.mem_cons_of_mem _ member)
    simp [all c List.mem_cons_self, tail]

theorem bne_of_not_mem {s : List Char} {d : Char} (absent : d ∉ s) :
    ∀ c ∈ s, (c != d) = true := by
  intro c member
  simp only [bne_iff_ne, ne_eq]
  intro same
  subst same
  contradiction

theorem takeWhile_of_not_mem {s : List Char} {d : Char} (absent : d ∉ s) :
    s.takeWhile (· != d) = s := by
  simpa using takeWhile_all_append (bne_of_not_mem absent) []

theorem takeWhile_length_lt {s : List Char} {d : Char} (member : d ∈ s) :
    (s.takeWhile (· != d)).length < s.length := by
  obtain ⟨before, after, rfl, absent⟩ := List.eq_append_cons_of_mem member
  rw [takeWhile_all_append (bne_of_not_mem absent), List.takeWhile_cons_of_neg (by simp)]
  simp

-- What stands behind a question mark is the query, unless a fragment begins before.
theorem queryOf_append {base query : List Char} (mark : '?' ∉ base) (hash : '#' ∉ base)
    (fragment : '#' ∉ query) : queryOf (base ++ '?' :: query) = query := by
  have whole : '#' ∉ base ++ '?' :: query := by simp [hash, fragment]
  rw [queryOf, queryPart, beforeFragment, takeWhile_of_not_mem whole,
    dropWhile_all_append (bne_of_not_mem mark), List.dropWhile_cons_of_neg (by simp),
    List.drop_one, List.tail_cons]

theorem splitPair_name {name : List Char} (plain : '=' ∉ name) (value : List Char) :
    splitPair (name ++ '=' :: value) = (name, value) := by
  have all := bne_of_not_mem plain
  simp [splitPair, takeWhile_all_append all, dropWhile_all_append all]

theorem splitOn_first (first rest : List Char) (plain : '&' ∉ first) :
    ∃ tail, (first ++ rest).splitOnP (· == '&') = (first ++ rest.takeWhile (· != '&')) :: tail := by
  have separate : ∀ s : List Char, '&' ∉ s → s.splitOnP (· == '&') = [s] := by
    intro s absent
    apply List.splitOnP_eq_singleton
    intro c member
    simpa using bne_of_not_mem absent c member
  by_cases more : '&' ∈ rest
  next =>
    obtain ⟨before, after, shape, absent⟩ := List.eq_append_cons_of_mem more
    subst shape
    refine ⟨after.splitOnP (· == '&'), ?_⟩
    have whole : '&' ∉ first ++ before := by simp [plain, absent]
    rw [takeWhile_all_append (bne_of_not_mem absent), ← List.append_assoc,
      List.splitOnP_append_cons _ _ (by simp), separate _ whole]
    simp
  next =>
    have all : rest.takeWhile (· != '&') = rest := by
      have kept := takeWhile_all_append (bne_of_not_mem more) []
      simpa using kept
    exact ⟨[], by rw [all, separate _ (by simp [plain, more])]⟩

-- The first pair of a query ends at the next ampersand.
theorem parseParams_first {name : List Char} (amp : '&' ∉ name) (equals : '=' ∉ name)
    (value : List Char) :
    ∃ others, parseParams ('?' :: (name ++ '=' :: value)) =
      (decodeComponent name, decodeComponent (value.takeWhile (· != '&'))) :: others := by
  have first : '&' ∉ name ++ ['='] := by simp [amp]
  obtain ⟨tail, split⟩ := splitOn_first (name ++ ['=']) value first
  rw [List.append_assoc, List.singleton_append] at split
  refine ⟨(tail.filter (· ≠ [])).map parsePair, ?_⟩
  simp only [parseParams, readPairs, withoutQuestionMark, split]
  simp [parsePair, splitPair_name equals]

theorem takeWhile_percentEncode {set : Char → Bool} {d : Char} (outside : set d = false)
    (percent : d ≠ '%') (digit : hexValue? d = none) (s : List Char) :
    (percentEncode set s).takeWhile (· != d) = percentEncode set (s.takeWhile (· != d)) := by
  induction s with
  | nil => rfl
  | cons c s ih =>
    have shape : ∀ t, percentEncode set (c :: t) = encodeChar set c ++ percentEncode set t :=
      fun _ => rfl
    by_cases same : c = d
    next =>
      subst same
      have plain : encodeChar set c = [c] := by simp [encodeChar, outside]
      rw [shape, plain, List.singleton_append, List.takeWhile_cons_of_neg (by simp),
        List.takeWhile_cons_of_neg (by simp)]
      rfl
    next =>
      have absent : d ∉ encodeChar set c := by
        intro member
        have single : d ∈ percentEncode set [c] := by simpa [percentEncode] using member
        rcases mem_percentEncode single with ⟨inside, -⟩ | mark | hex
        · exact same (List.mem_singleton.1 inside).symm
        · exact percent mark
        · simp [digit] at hex
      rw [shape, takeWhile_all_append (bne_of_not_mem absent), ih,
        List.takeWhile_cons_of_pos (by simpa using same), shape]

theorem get_first {name value : List Char} (others : Params) :
    Params.get ((name, value) :: others) name = some value := by
  simp [Params.get]

/-- The names that no hop changes. -/
structure PlainName (name : List Char) : Prop where
  ampersand : '&' ∉ name
  equals : '=' ∉ name
  plus : '+' ∉ name
  escape : hasEscape name = false
  parsed : ∀ c ∈ name, querySet c = false

-- The first value of a query that went through the URL parser.
theorem get_parsed {name : List Char} (plain : PlainName name) (value : List Char) :
    Params.get (parseParams (searchOf ('?' :: percentEncode querySet (name ++ '=' :: value))))
      name =
      some (decodeComponent (value.takeWhile (· != '&'))) := by
  have shape : percentEncode querySet (name ++ '=' :: value) =
      name ++ '=' :: percentEncode querySet value := by
    have front := percentEncode_of_not_set plain.parsed
    rw [percentEncode] at front
    rw [percentEncode, List.flatMap_append, front]
    rfl
  obtain ⟨others, first⟩ := parseParams_first plain.ampersand plain.equals
    (percentEncode querySet value)
  have same : decodeComponent name = name := by
    rw [decodeComponent_of_no_escape plain.escape, map_plusToSpace plain.plus]
  rw [shape, searchOf, if_neg (by simp), first, same, get_first,
    takeWhile_percentEncode (by decide) (by decide) (by decide),
    decodeComponent_percentEncode keeps_querySet (by decide)]

/-! ## Writing a query -/

theorem mem_formEncode {set : Char → Bool} {s : List Char} {c : Char}
    (member : c ∈ formEncode set s) :
    set c = false ∨ c ∈ "+%0123456789ABCDEFabcdef".toList := by
  obtain ⟨origin, -, spelled⟩ := List.mem_flatMap.1 member
  by_cases space : origin = ' '
  next =>
    rw [if_pos space, List.mem_singleton] at spelled
    subst spelled
    exact Or.inr (by decide)
  next =>
    rw [if_neg space] at spelled
    have single : c ∈ percentEncode set [origin] := by simpa [percentEncode] using spelled
    rcases mem_percentEncode single with ⟨-, plain⟩ | rfl | hex
    · exact Or.inl plain
    · exact Or.inr (by decide)
    · exact Or.inr (List.mem_cons_of_mem _ (List.mem_cons_of_mem _ (mem_of_hexValue? hex)))

theorem not_mem_formEncode {set : Char → Bool} {c : Char} (inSet : set c = true)
    (other : c ∉ "+%0123456789ABCDEFabcdef".toList) (s : List Char) : c ∉ formEncode set s := by
  intro member
  rcases mem_formEncode member with plain | listed
  · simp [plain] at inSet
  · contradiction

theorem querySet_of_not_formSet {c : Char} (plain : formSet c = false) : querySet c = false := by
  rw [Bool.eq_false_iff]
  intro inSet
  simp only [querySet, Bool.or_eq_true, List.contains_iff_mem] at inSet
  cases inSet with
  | inl outside =>
    have listed : ∀ d ∈ "*-._".toList, between '!' '~' d = true := by decide
    have ranges : ∀ {low high : Char}, between low high c = true → '!'.toNat ≤ low.toNat →
        high.toNat ≤ '~'.toNat → between '!' '~' c = true := by
      intro low high inside first last
      simp only [between, decide_eq_true_eq] at inside ⊢
      omega
    simp only [Bool.not_eq_true'] at outside
    simp only [formSet, isAlphanumeric, Bool.not_eq_false', Bool.or_eq_true,
      List.contains_iff_mem] at plain
    rcases plain with ((digit | upper) | small) | mark
    · simp [ranges digit (by decide) (by decide)] at outside
    · simp [ranges upper (by decide) (by decide)] at outside
    · simp [ranges small (by decide) (by decide)] at outside
    · simp [listed c mark] at outside
  | inr listed =>
    have every : ∀ d ∈ "\"#<>'".toList, formSet d = true := by decide
    simp [every c listed] at plain

section Written

variable {set : Char → Bool} (escapes : EscapesMarks set)

include escapes

theorem parsePair_formPair (pair : List Char × List Char) :
    parsePair (formPair set pair) = pair := by
  have equals : '=' ∉ formEncode set pair.1 := not_mem_formEncode escapes.equals (by decide) _
  simp [parsePair, formPair, splitPair_name equals, decodeComponent_formEncode escapes]

omit escapes in
theorem not_mem_formPair {c : Char} (inSet : set c = true)
    (other : c ∉ "+%0123456789ABCDEFabcdef".toList) (equals : c ≠ '=')
    (pair : List Char × List Char) : c ∉ formPair set pair := by
  simp [formPair, not_mem_formEncode inSet other, equals]

/-- A query is read back as it was written. -/
theorem readPairs_formQuery (params : Params) : readPairs (formQuery set params) = params := by
  cases empty : params with
  | nil => simp [readPairs, formQuery, List.intercalate_nil]
  | cons first rest =>
    rw [← empty]
    have split : (formQuery set params).splitOn '&' = params.map (formPair set) := by
      apply List.splitOn_intercalate
      next =>
        intro text member
        obtain ⟨pair, -, rfl⟩ := List.mem_map.1 member
        exact not_mem_formPair escapes.ampersand (by decide) (by decide) pair
      next => simp [empty]
    have nonempty : (params.map (formPair set)).filter (· ≠ []) = params.map (formPair set) := by
      apply List.filter_eq_self.2
      intro text member
      obtain ⟨pair, -, rfl⟩ := List.mem_map.1 member
      simp [formPair]
    rw [List.splitOn_eq_splitOnP] at split
    rw [readPairs, split, nonempty, List.map_map]
    have same : params.map (parsePair ∘ formPair set) = params.map id := by
      apply List.map_congr_left
      intro pair _
      exact parsePair_formPair escapes pair
    rw [same, List.map_id]

end Written

theorem mem_intercalate {separator : List Char} {texts : List (List Char)} {c : Char}
    (member : c ∈ separator.intercalate texts) : c ∈ separator ∨ ∃ text ∈ texts, c ∈ text := by
  induction texts with
  | nil => simp [List.intercalate_nil] at member
  | cons text rest ih =>
    cases rest with
    | nil =>
      rw [List.intercalate_singleton] at member
      exact Or.inr ⟨text, List.mem_singleton_self text, member⟩
    | cons next rest =>
      rw [List.intercalate_cons_cons, List.append_assoc, List.mem_append, List.mem_append] at member
      rcases member with here | between | later
      · exact Or.inr ⟨text, List.mem_cons_self, here⟩
      · exact Or.inl between
      · refine (ih later).imp_right ?_
        rintro ⟨other, listed, inside⟩
        exact ⟨other, List.mem_cons_of_mem _ listed, inside⟩

theorem not_mem_formQuery {set : Char → Bool} {c : Char} (inSet : set c = true)
    (other : c ∉ "+%0123456789ABCDEFabcdef".toList) (equals : c ≠ '=') (ampersand : c ≠ '&')
    (params : Params) : c ∉ formQuery set params := by
  intro member
  rcases mem_intercalate member with separator | ⟨text, listed, inside⟩
  · exact ampersand (List.mem_singleton.1 separator)
  · obtain ⟨pair, -, rfl⟩ := List.mem_map.1 listed
    exact not_mem_formPair inSet other equals pair inside

-- What `toString` writes is read back as it was.
theorem parseParams_toString (params : Params) : parseParams ('?' :: params.toString) = params :=
  readPairs_formQuery formSet_escapes params

theorem toString_ne_nil {params : Params} (some_pair : params ≠ []) : params.toString ≠ [] := by
  intro empty
  have read := parseParams_toString params
  rw [empty] at read
  exact some_pair read.symm

theorem querySet_of_mem_formEncode {s : List Char} {c : Char}
    (member : c ∈ formEncode formSet s) : querySet c = false := by
  have marks : ∀ d ∈ "+%0123456789ABCDEFabcdef".toList, querySet d = false := by decide
  rcases mem_formEncode member with plain | listed
  · exact querySet_of_not_formSet plain
  · exact marks c listed

-- The URL parser has nothing left to escape in it.
theorem querySet_of_mem_toString {params : Params} {c : Char} (member : c ∈ params.toString) :
    querySet c = false := by
  have single : ∀ pair : List Char × List Char, c ∈ formPair formSet pair → querySet c = false := by
    intro pair inside
    rcases List.mem_append.1 inside with name | value
    · exact querySet_of_mem_formEncode name
    · rcases List.mem_cons.1 value with rfl | value
      · decide
      · exact querySet_of_mem_formEncode value
  rcases mem_intercalate member with separator | ⟨text, listed, inside⟩
  · rw [List.mem_singleton.1 separator]
    decide
  · obtain ⟨pair, -, rfl⟩ := List.mem_map.1 listed
    exact single pair inside

/-! ## Plain paths

Segments that neither the parser nor the router changes. -/

def isUnreserved (c : Char) : Bool := isAlphanumeric c || "-._~".toList.contains c

def Unreserved (path : List (List Char)) : Prop :=
  ∀ segment ∈ path, ∀ c ∈ segment, isUnreserved c = true

structure Plain (path : List (List Char)) : Prop where
  unreserved : Unreserved path
  not_dots : ∀ segment ∈ path, isDots segment = false

theorem of_isUnreserved {p : Char → Bool} (marks : ∀ c ∈ "-._~".toList, p c = true)
    (alphanumeric : ∀ c, isAlphanumeric c = true → p c = true) {c : Char}
    (unreserved : isUnreserved c = true) : p c = true := by
  simp only [isUnreserved, Bool.or_eq_true, List.contains_iff_mem] at unreserved
  cases unreserved with
  | inl letter => exact alphanumeric c letter
  | inr mark => exact marks c mark

theorem isAlphanumeric_range {c : Char} (letter : isAlphanumeric c = true) :
    '0'.toNat ≤ c.toNat ∧ c.toNat ≤ 'z'.toNat := by
  have small : '0'.toNat ≤ 'A'.toNat ∧ 'A'.toNat ≤ 'a'.toNat ∧ '9'.toNat ≤ 'z'.toNat ∧
      'Z'.toNat ≤ 'z'.toNat := by decide
  simp only [isAlphanumeric, between, Bool.or_eq_true, decide_eq_true_eq] at letter
  omega

theorem isControlOrSpace_of_unreserved {c : Char} (unreserved : isUnreserved c = true) :
    isControlOrSpace c = false := by
  have found := of_isUnreserved (p := fun c => !isControlOrSpace c) (by decide)
    (fun c letter => by
      have range := isAlphanumeric_range letter
      have space : ' '.toNat < '0'.toNat := by decide
      simp only [isControlOrSpace, Bool.not_eq_true', decide_eq_false_iff_not]
      omega) unreserved
  simpa using found

theorem pathSet_of_unreserved {c : Char} (unreserved : isUnreserved c = true) :
    pathSet c = false := by
  have found := of_isUnreserved (p := fun c => !pathSet c) (by decide)
    (fun c letter => by
      have range := isAlphanumeric_range letter
      have ends : '!'.toNat ≤ '0'.toNat ∧ 'z'.toNat ≤ '~'.toNat := by decide
      have inside : between '!' '~' c = true := by
        simp only [between, decide_eq_true_eq]
        omega
      have others : ∀ d ∈ "\"#<>?^`{}".toList, isAlphanumeric d = false := by decide
      have unlisted : "\"#<>?^`{}".toList.contains c = false := by
        rw [Bool.eq_false_iff, ne_eq, List.contains_iff_mem]
        intro listed
        simp [others c listed] at letter
      simp only [pathSet, inside, unlisted, Bool.not_true, Bool.or_self, Bool.not_false])
    unreserved
  simpa using found

theorem not_mem_of_unreserved {s : List Char} (unreserved : ∀ c ∈ s, isUnreserved c = true)
    {d : Char} (other : isUnreserved d = false) : d ∉ s := by
  intro member
  simp [unreserved d member] at other

-- Splitting a path gives back its segments, each split further at slashes of its own.
theorem splitOnP_joinPath {p : Char → Bool} (slash : p '/' = true) (path : List (List Char)) :
    ((joinPath path).splitOnP p).tail = path.flatMap (List.splitOnP p) := by
  have cut : ∀ path : List (List Char), path ≠ [] →
      (joinPath path).splitOnP p = [] :: path.flatMap (List.splitOnP p) := by
    intro path
    induction path with
    | nil => simp
    | cons segment rest ih =>
      intro _
      have front := List.splitOnP_append_cons [] (segment ++ joinPath rest) slash
      simp only [List.nil_append, List.splitOnP_nil, List.cons_append] at front
      rw [joinPath, List.flatMap_cons, List.cons_append, ← joinPath, front, List.flatMap_cons]
      congr 1
      cases rest with
      | nil => simp [joinPath]
      | cons next rest =>
        have tail := ih (by simp)
        have shape : joinPath (next :: rest) = '/' :: (next ++ joinPath rest) := rfl
        have before := List.splitOnP_append_cons segment (next ++ joinPath rest) slash
        have after := List.splitOnP_append_cons [] (next ++ joinPath rest) slash
        simp only [List.nil_append, List.splitOnP_nil, List.cons_append] at after
        rw [shape, after, List.cons.injEq] at tail
        rw [shape, before, tail.2]
  cases path with
  | nil => rfl
  | cons segment rest => rw [cut _ (by simp), List.tail_cons]

theorem splitOnP_joinPath_of_none {p : Char → Bool} (slash : p '/' = true)
    {path : List (List Char)} (none : ∀ segment ∈ path, ∀ c ∈ segment, p c = false) :
    ((joinPath path).splitOnP p).tail = path := by
  rw [splitOnP_joinPath slash]
  induction path with
  | nil => rfl
  | cons segment rest ih =>
    have tail := ih fun other member => none other (List.mem_cons_of_mem _ member)
    rw [List.flatMap_cons, List.splitOnP_eq_singleton (none segment List.mem_cons_self), tail,
      List.singleton_append]

theorem isSlash_of_unreserved {c : Char} (unreserved : isUnreserved c = true) :
    isSlash c = false := by
  rw [Bool.eq_false_iff]
  intro slash
  simp only [isSlash, Bool.or_eq_true, beq_iff_eq] at slash
  rcases slash with rfl | rfl
  · exact absurd unreserved (by decide)
  · exact absurd unreserved (by decide)

theorem segments_unreserved {path : List (List Char)} (unreserved : Unreserved path) :
    segments (joinPath path) = path :=
  splitOnP_joinPath_of_none rfl fun segment member c inside =>
    isSlash_of_unreserved (unreserved segment member c inside)

theorem pushSegment_plain {segment : List Char} (unreserved : ∀ c ∈ segment, isUnreserved c = true)
    (not_dots : isDots segment = false) (last : Bool) (path : List (List Char)) :
    pushSegment last path segment = path ++ [segment] := by
  simp only [isDots, Bool.or_eq_false_iff] at not_dots
  have same : percentEncode pathSet segment = segment :=
    percentEncode_of_not_set fun c member => pathSet_of_unreserved (unreserved c member)
  simp [pushSegment, not_dots.1, not_dots.2, same]

theorem pushSegments_plain {segments : List (List Char)} (plain : Plain segments)
    (path : List (List Char)) : pushSegments path segments = path ++ segments := by
  induction segments generalizing path with
  | nil => simp [pushSegments]
  | cons segment rest ih =>
    have first := pushSegment_plain (plain.unreserved segment List.mem_cons_self)
      (plain.not_dots segment List.mem_cons_self)
    have others : Plain rest :=
      ⟨fun other member => plain.unreserved other (List.mem_cons_of_mem _ member),
        fun other member => plain.not_dots other (List.mem_cons_of_mem _ member)⟩
    cases rest with
    | nil => rw [pushSegments, first]
    | cons next rest =>
      rw [pushSegments, first, ih others, List.append_assoc, List.singleton_append]
      simp

theorem pushSegments_concat {segments : List (List Char)} (plain : Plain segments)
    (path : List (List Char)) (last : List Char) :
    pushSegments path (segments ++ [last]) = pushSegment true (path ++ segments) last := by
  induction segments generalizing path with
  | nil => rw [List.nil_append, pushSegments_singleton, List.append_nil]
  | cons segment rest ih =>
    have first := pushSegment_plain (plain.unreserved segment List.mem_cons_self)
      (plain.not_dots segment List.mem_cons_self) false path
    have others : Plain rest :=
      ⟨fun other member => plain.unreserved other (List.mem_cons_of_mem _ member),
        fun other member => plain.not_dots other (List.mem_cons_of_mem _ member)⟩
    have tail := ih others (path ++ [segment])
    obtain ⟨next, more, shape⟩ := List.exists_cons_of_ne_nil
      (List.append_ne_nil_of_right_ne_nil rest (List.cons_ne_nil last []))
    rw [shape] at tail
    rw [List.cons_append, shape, pushSegments_cons_cons, first, tail]
    simp

theorem mem_joinPath {path : List (List Char)} (unreserved : Unreserved path)
    {c : Char} (member : c ∈ joinPath path) : c = '/' ∨ isUnreserved c = true := by
  obtain ⟨segment, inside, spelled⟩ := List.mem_flatMap.1 member
  rcases List.mem_cons.1 spelled with slash | letter
  · exact Or.inl slash
  · exact Or.inr (unreserved segment inside c letter)

theorem not_mem_joinPath {path : List (List Char)} (unreserved : Unreserved path)
    {d : Char} (slash : d ≠ '/') (other : isUnreserved d = false) : d ∉ joinPath path := by
  intro member
  rcases mem_joinPath unreserved member with same | letter
  · contradiction
  · simp [letter] at other

theorem rdropWhile_append_cons {p : Char → Bool} {c : Char} (kept : p c = false)
    (front back : List Char) :
    (front ++ c :: back).rdropWhile p = front ++ c :: back.rdropWhile p := by
  induction back using List.reverseRecOn with
  | nil =>
    rw [List.rdropWhile_concat_neg _ _ _ (by simp [kept]), List.rdropWhile_nil]
  | append_singleton back last ih =>
    rw [← List.cons_append, ← List.append_assoc, List.rdropWhile_concat, List.rdropWhile_concat]
    by_cases dropped : p last
    next => simp [dropped, ih]
    next => simp [dropped]

-- What the parser strips from a query that ends the input.
def cleanQuery (raw : List Char) : List Char :=
  beforeFragment ((raw.rdropWhile isControlOrSpace).filter (!isTabOrNewline ·))

theorem preprocess_slash (rest : List Char) :
    preprocess ('/' :: rest) =
      '/' :: (rest.rdropWhile isControlOrSpace).filter (!isTabOrNewline ·) := by
  have kept := rdropWhile_append_cons (p := isControlOrSpace) (c := '/') (by decide) [] rest
  rw [List.nil_append, List.nil_append] at kept
  rw [preprocess, List.dropWhile_cons_of_neg (by decide), kept, List.filter_cons_of_pos (by decide)]

theorem isTabOrNewline_cases {c : Char} (listed : isTabOrNewline c = true) :
    c = '\t' ∨ c = '\n' ∨ c = '\r' := by
  simpa [isTabOrNewline, or_assoc] using listed

theorem filter_joinPath {path : List (List Char)} (unreserved : Unreserved path) :
    (joinPath path).filter (!isTabOrNewline ·) = joinPath path := by
  apply List.filter_eq_self.2
  intro c member
  rw [Bool.not_eq_true', Bool.eq_false_iff]
  intro listed
  rcases isTabOrNewline_cases listed with rfl | rfl | rfl
  · exact not_mem_joinPath unreserved (by decide) (by decide) member
  · exact not_mem_joinPath unreserved (by decide) (by decide) member
  · exact not_mem_joinPath unreserved (by decide) (by decide) member

theorem parse_unreserved {path : List (List Char)} (nonempty : path ≠ [])
    (unreserved : Unreserved path) (raw : List Char) :
    parse (joinPath path ++ '?' :: raw) =
      ⟨joinPath (pushSegments [] path),
        searchOf ('?' :: percentEncode querySet (cleanQuery raw))⟩ := by
  have hash := bne_of_not_mem (not_mem_joinPath unreserved (d := '#') (by decide) (by decide))
  have mark := bne_of_not_mem (not_mem_joinPath unreserved (d := '?') (by decide) (by decide))
  have stripped : preprocess (joinPath path ++ '?' :: raw) =
      joinPath path ++ '?' :: (raw.rdropWhile isControlOrSpace).filter (!isTabOrNewline ·) := by
    obtain ⟨first, rest, rfl⟩ := List.exists_cons_of_ne_nil nonempty
    have kept := filter_joinPath unreserved
    rw [joinPath, List.flatMap_cons, List.cons_append, List.filter_cons_of_pos (by decide),
      List.cons.injEq] at kept
    rw [joinPath, List.flatMap_cons, List.cons_append, List.cons_append, preprocess_slash,
      rdropWhile_append_cons (by decide), List.filter_append, List.filter_cons_of_pos (by decide),
      kept.2, List.cons_append]
  have cut : beforeFragment (joinPath path ++
        '?' :: (raw.rdropWhile isControlOrSpace).filter (!isTabOrNewline ·)) =
      joinPath path ++ '?' :: cleanQuery raw := by
    rw [beforeFragment, takeWhile_all_append hash, List.takeWhile_cons_of_pos (by decide)]
    rfl
  have path_part : pathPart (preprocess (joinPath path ++ '?' :: raw)) = joinPath path := by
    rw [pathPart, stripped, cut, takeWhile_all_append mark, List.takeWhile_cons_of_neg (by decide),
      List.append_nil]
  have query_part : queryPart (preprocess (joinPath path ++ '?' :: raw)) =
      '?' :: cleanQuery raw := by
    rw [queryPart, stripped, cut, dropWhile_all_append mark, List.dropWhile_cons_of_neg (by decide)]
  have encoded : percentEncode querySet ('?' :: cleanQuery raw) =
      '?' :: percentEncode querySet (cleanQuery raw) := rfl
  rw [parse, path_part, query_part, segments_unreserved unreserved, encoded]

theorem parse_unreserved_path {path : List (List Char)} (unreserved : Unreserved path) :
    parse (joinPath path) = ⟨joinPath (pushSegments [] path), []⟩ := by
  have hash := bne_of_not_mem (not_mem_joinPath unreserved (d := '#') (by decide) (by decide))
  have mark := bne_of_not_mem (not_mem_joinPath unreserved (d := '?') (by decide) (by decide))
  have visible : ∀ c ∈ joinPath path, isControlOrSpace c = false := by
    intro c member
    rcases mem_joinPath unreserved member with rfl | letter
    · decide
    · exact isControlOrSpace_of_unreserved letter
  have front : (joinPath path).dropWhile isControlOrSpace = joinPath path := by
    rw [List.dropWhile_eq_self_iff]
    intro nonempty
    simp [visible _ (List.getElem_mem nonempty)]
  have back : (joinPath path).rdropWhile isControlOrSpace = joinPath path := by
    rw [List.rdropWhile_eq_self_iff]
    intro nonempty
    simp [visible _ (List.getLast_mem nonempty)]
  have stripped : preprocess (joinPath path) = joinPath path := by
    rw [preprocess, front, back, filter_joinPath unreserved]
  have no_hash := takeWhile_all_append hash []
  have no_mark := takeWhile_all_append mark []
  have no_query := dropWhile_all_append mark []
  simp only [List.append_nil, List.takeWhile_nil, List.dropWhile_nil] at no_hash no_mark no_query
  rw [parse, stripped, pathPart, queryPart, beforeFragment, no_hash, no_mark, no_query,
    segments_unreserved unreserved]
  rfl

theorem cleanQuery_of_visible {query : List Char} (hash : '#' ∉ query)
    (visible : ∀ c ∈ query, isControlOrSpace c = false) : cleanQuery query = query := by
  have kept : query.rdropWhile isControlOrSpace = query := by
    rw [List.rdropWhile_eq_self_iff]
    intro nonempty
    simp [visible _ (List.getLast_mem nonempty)]
  have lines : query.filter (!isTabOrNewline ·) = query := by
    apply List.filter_eq_self.2
    intro c member
    rw [Bool.not_eq_true', Bool.eq_false_iff]
    intro listed
    have shown := visible c member
    rcases isTabOrNewline_cases listed with rfl | rfl | rfl
    · exact absurd shown (by decide)
    · exact absurd shown (by decide)
    · exact absurd shown (by decide)
  have whole := takeWhile_all_append (bne_of_not_mem hash) []
  rw [cleanQuery, kept, lines, beforeFragment]
  simpa using whole

theorem isControlOrSpace_of_not_querySet {c : Char} (plain : querySet c = false) :
    isControlOrSpace c = false := by
  simp only [querySet, Bool.or_eq_false_iff, Bool.not_eq_false', between,
    decide_eq_true_eq] at plain
  have space : ' '.toNat < '!'.toNat := by decide
  simp only [isControlOrSpace, decide_eq_false_iff_not]
  omega

-- A query that is a parser's output already stays as it is.
theorem cleanQuery_of_not_querySet {query : List Char} (plain : ∀ c ∈ query, querySet c = false) :
    cleanQuery query = query := by
  apply cleanQuery_of_visible
  next =>
    intro member
    exact absurd (plain '#' member) (by decide)
  next =>
    intro c member
    exact isControlOrSpace_of_not_querySet (plain c member)

end StreamingPortal.Url
