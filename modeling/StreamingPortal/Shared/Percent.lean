import StreamingPortal.Shared.Utf8

set_option autoImplicit false

/-!
# Percent encoding

Strings are lists of code points. Percent decoding leaves every `%` that two hexadecimal digits do
not follow as it is.
-/

namespace StreamingPortal.Percent

open Utf8

-- Statements about the characters of a list are settled by going through the list.
instance (priority := 2000) decidableForallMem (s : List Char) (p : Char → Prop)
    [DecidablePred p] : Decidable (∀ c ∈ s, p c) := List.decidableBAll p s

def hexDigit (n : Nat) : Char := "0123456789ABCDEF".toList.getD n '0'

def hexValue? (c : Char) : Option Nat :=
  ("0123456789ABCDEF".toList.idxOf? c).or (("abcdef".toList.idxOf? c).map (10 + ·))

def escaped? (high low : Char) : Option UInt8 :=
  match hexValue? high, hexValue? low with
  | some h, some l => some (UInt8.ofNat (16 * h + l))
  | _, _ => none

def escape (byte : UInt8) : List Char :=
  ['%', hexDigit (byte.toNat / 16), hexDigit (byte.toNat % 16)]

def encodeChar (set : Char → Bool) (c : Char) : List Char :=
  if set c then (String.utf8EncodeChar c).flatMap escape else [c]

-- UTF-8 percent-encode: the code points of `set` become escapes.
def percentEncode (set : Char → Bool) (s : List Char) : List Char := s.flatMap (encodeChar set)

-- The escaped bytes of a string, between the code points it spells out.
def pieces : List Char → List Piece
  | [] => []
  | '%' :: high :: low :: rest =>
    match escaped? high low with
    | some byte => .raw byte :: pieces rest
    | none => .char '%' :: pieces (high :: low :: rest)
  | c :: rest => .char c :: pieces rest

def percentDecode (s : List Char) : List UInt8 := flat (pieces s)

-- A `%` and two hexadecimal digits stand at the start.
def startsEscape : List Char → Bool
  | '%' :: high :: low :: _ => (escaped? high low).isSome
  | _ => false

def hasEscape : List Char → Bool
  | [] => false
  | c :: rest => startsEscape (c :: rest) || hasEscape rest

def between (low high c : Char) : Bool := decide (low.toNat ≤ c.toNat ∧ c.toNat ≤ high.toNat)

def isAlphanumeric (c : Char) : Bool := between '0' '9' c || between 'A' 'Z' c || between 'a' 'z' c

def encodeURIComponent (s : List Char) : List Char :=
  percentEncode (fun c => !(isAlphanumeric c || "-_.!~*'()".toList.contains c)) s

-- `none` is the URIError of a `%` without its digits or of bytes that are not UTF-8.
def decodeURIComponent (s : List Char) : Option (List Char) :=
  if .char '%' ∈ pieces s then none else decode? (percentDecode s)

/-! ## Pieces -/

@[simp] theorem pieces_nil : pieces [] = [] := rfl

theorem pieces_escape {high low : Char} {byte : UInt8} (found : escaped? high low = some byte)
    (rest : List Char) : pieces ('%' :: high :: low :: rest) = .raw byte :: pieces rest := by
  simp [pieces, found]

theorem pieces_plain {c : Char} {rest : List Char} (plain : startsEscape (c :: rest) = false) :
    pieces (c :: rest) = .char c :: pieces rest := by
  by_cases percent : c = '%'
  next =>
    subst percent
    match rest with
    | [] => rfl
    | [_] => rfl
    | high :: low :: tail =>
      cases found : escaped? high low with
      | none => simp [pieces, found]
      | some byte => simp [startsEscape, found] at plain
  next =>
    rw [pieces]
    intro high low tail same
    exact absurd same percent

theorem startsEscape_cons_ne {c : Char} (other : c ≠ '%') (rest : List Char) :
    startsEscape (c :: rest) = false := by
  match rest with
  | [] => simp [startsEscape]
  | [_] => simp [startsEscape]
  | _ :: _ :: _ => simp [startsEscape, other]

theorem pieces_cons_ne {c : Char} (other : c ≠ '%') (rest : List Char) :
    pieces (c :: rest) = .char c :: pieces rest :=
  pieces_plain (startsEscape_cons_ne other rest)

theorem startsEscape_cons_cons (c high low : Char) (rest : List Char) :
    startsEscape (c :: high :: low :: rest) =
      (decide (c = '%') && (escaped? high low).isSome) := by
  by_cases percent : c = '%' <;> simp [startsEscape, percent]

theorem startsEscape_eq_true {s : List Char} (starts : startsEscape s = true) :
    ∃ high low byte rest, s = '%' :: high :: low :: rest ∧ escaped? high low = some byte := by
  unfold startsEscape at starts
  split at starts
  next high low rest =>
    obtain ⟨byte, found⟩ := Option.isSome_iff_exists.1 starts
    exact ⟨high, low, byte, rest, rfl, found⟩
  next => contradiction

theorem hex_of_escaped? {high low : Char} {byte : UInt8} (found : escaped? high low = some byte) :
    (hexValue? high).isSome ∧ (hexValue? low).isSome := by
  unfold escaped? at found
  split at found
  next h l high_hex low_hex => simp [high_hex, low_hex]
  next => contradiction

-- What a string starts with: an escape, or one code point.
theorem pieces_induction {motive : List Char → Prop} (nil : motive [])
    (escape : ∀ high low byte rest, escaped? high low = some byte → motive rest →
      motive ('%' :: high :: low :: rest))
    (char : ∀ c rest, startsEscape (c :: rest) = false → motive rest → motive (c :: rest))
    (s : List Char) : motive s := by
  induction n : s.length using Nat.strongRecOn generalizing s with
  | ind n ih =>
    cases s with
    | nil => exact nil
    | cons c rest =>
      simp only [List.length_cons] at n
      cases starts : startsEscape (c :: rest) with
      | false => exact char c rest starts (ih rest.length (by omega) rest rfl)
      | true =>
        obtain ⟨high, low, byte, tail, shape, found⟩ := startsEscape_eq_true starts
        rw [shape]
        apply escape high low byte tail found
        have shorter := congrArg List.length shape
        simp only [List.length_cons] at shorter
        exact ih tail.length (by omega) tail rfl

theorem pieces_of_no_escape {s : List Char} (plain : hasEscape s = false) :
    pieces s = s.map .char := by
  induction s with
  | nil => rfl
  | cons c rest ih =>
    simp only [hasEscape, Bool.or_eq_false_iff] at plain
    rw [pieces_plain plain.1, ih plain.2, List.map_cons]

theorem pieces_length_le (s : List Char) : (pieces s).length ≤ s.length := by
  induction s using pieces_induction with
  | nil => simp
  | escape high low byte rest found ih =>
    simp only [pieces_escape found, List.length_cons]
    omega
  | char c rest plain ih =>
    simp only [pieces_plain plain, List.length_cons]
    omega

theorem pieces_length_lt {s : List Char} (escapes : hasEscape s = true) :
    (pieces s).length < s.length := by
  induction s using pieces_induction with
  | nil => simp [hasEscape] at escapes
  | escape high low byte rest found ih =>
    have rest_le := pieces_length_le rest
    simp only [pieces_escape found, List.length_cons]
    omega
  | char c rest plain ih =>
    simp only [hasEscape, plain, Bool.false_or] at escapes
    have rest_lt := ih escapes
    simp only [pieces_plain plain, List.length_cons]
    omega

theorem decode_percentDecode_of_no_escape {s : List Char} (plain : hasEscape s = false) :
    decode (percentDecode s) = s := by
  rw [percentDecode, pieces_of_no_escape plain, flat_chars, decode_encode]

theorem decode_percentDecode_length_le (s : List Char) :
    (decode (percentDecode s)).length ≤ s.length :=
  Nat.le_trans (decode_flat_length _) (pieces_length_le s)

-- An escape is three characters that decode to at most one.
theorem decode_percentDecode_length_lt {s : List Char} (escapes : hasEscape s = true) :
    (decode (percentDecode s)).length < s.length :=
  Nat.lt_of_le_of_lt (decode_flat_length _) (pieces_length_lt escapes)

theorem percentDecode_append {s : List Char} (plain : '%' ∉ s) (rest : List Char) :
    percentDecode (s ++ rest) = encode s ++ percentDecode rest := by
  induction s with
  | nil => rfl
  | cons c s ih =>
    have other : c ≠ '%' := fun same => plain (by simp [same])
    have tail := ih fun member => plain (List.mem_cons_of_mem _ member)
    rw [percentDecode] at tail ⊢
    rw [List.cons_append, pieces_cons_ne other, flat_char, tail, encode_cons, List.append_assoc]

/-! ## Encoding and decoding -/

theorem escaped?_hexDigit (byte : UInt8) :
    escaped? (hexDigit (byte.toNat / 16)) (hexDigit (byte.toNat % 16)) = some byte := by
  have every : ∀ n : Fin 256,
      escaped? (hexDigit (n.val / 16)) (hexDigit (n.val % 16)) = some (UInt8.ofNat n.val) := by
    decide +kernel
  simpa [UInt8.ofNat_toNat] using every ⟨byte.toNat, byte.toNat_lt⟩

theorem pieces_escapes (bytes : List UInt8) (rest : List Char) :
    pieces (bytes.flatMap escape ++ rest) = bytes.map .raw ++ pieces rest := by
  induction bytes with
  | nil => simp
  | cons byte bytes ih =>
    simp only [List.flatMap_cons, escape, List.cons_append, List.nil_append, List.map_cons]
    rw [pieces_escape (escaped?_hexDigit byte), ih]

theorem flat_raws (bytes : List UInt8) : flat (bytes.map .raw) = bytes := by
  induction bytes with
  | nil => rfl
  | cons byte bytes ih => simp [ih]

-- Where `%` itself is escaped, decoding gives the string back.
theorem percentDecode_percentEncode_append {set : Char → Bool} (percent : set '%' = true)
    (s rest : List Char) :
    percentDecode (percentEncode set s ++ rest) = encode s ++ percentDecode rest := by
  induction s with
  | nil => simp [percentEncode]
  | cons c s ih =>
    simp only [percentEncode, percentDecode, List.flatMap_cons, List.append_assoc] at ih ⊢
    by_cases inSet : set c
    next => simp [encodeChar, inSet, pieces_escapes, flat_raws, ih]
    next =>
      have other : c ≠ '%' := by
        intro same
        subst same
        contradiction
      simp [encodeChar, inSet, pieces_cons_ne other, ih]

theorem percentDecode_percentEncode {set : Char → Bool} (percent : set '%' = true)
    (s : List Char) : percentDecode (percentEncode set s) = encode s := by
  simpa [percentDecode] using percentDecode_percentEncode_append percent s []

theorem percent_not_mem_pieces {set : Char → Bool} (percent : set '%' = true) (s : List Char) :
    .char '%' ∉ pieces (percentEncode set s) := by
  induction s with
  | nil => simp [percentEncode]
  | cons c s ih =>
    simp only [percentEncode, List.flatMap_cons] at ih ⊢
    by_cases inSet : set c
    next => simp [encodeChar, inSet, pieces_escapes, ih]
    next =>
      have other : c ≠ '%' := by
        intro same
        subst same
        contradiction
      simp [encodeChar, inSet, pieces_cons_ne other, ih, other.symm]

@[simp] theorem decodeURIComponent_encodeURIComponent (s : List Char) :
    decodeURIComponent (encodeURIComponent s) = some s := by
  rw [decodeURIComponent, encodeURIComponent, if_neg (percent_not_mem_pieces (by decide) s),
    percentDecode_percentEncode (by decide), decode?_encode]

theorem mem_of_hexValue? {c : Char} (digit : (hexValue? c).isSome) :
    c ∈ "0123456789ABCDEFabcdef".toList := by
  rw [hexValue?, Option.isSome_or, Option.isSome_map, Bool.or_eq_true, List.isSome_idxOf?,
    List.isSome_idxOf?] at digit
  exact List.mem_append.2 digit

theorem hexDigit_hex (n : Nat) : (hexValue? (hexDigit n)).isSome := by
  by_cases small : n < 16
  next =>
    have every : ∀ n : Fin 16, (hexValue? (hexDigit n.val)).isSome := by decide
    exact every ⟨n, small⟩
  next =>
    have beyond : hexDigit n = '0' := by
      have short : "0123456789ABCDEF".toList.length ≤ n := Nat.not_lt.1 small
      rw [hexDigit, List.getD_eq_getElem?_getD, List.getElem?_eq_none short, Option.getD_none]
    rw [beyond]
    decide

theorem mem_percentEncode {set : Char → Bool} {s : List Char} {c : Char}
    (member : c ∈ percentEncode set s) :
    c ∈ s ∧ set c = false ∨ c = '%' ∨ (hexValue? c).isSome := by
  obtain ⟨origin, inside, spelled⟩ := List.mem_flatMap.1 member
  unfold encodeChar at spelled
  split at spelled
  next =>
    obtain ⟨byte, -, digit⟩ := List.mem_flatMap.1 spelled
    simp only [escape, List.mem_cons, List.not_mem_nil, or_false] at digit
    right
    rcases digit with rfl | rfl | rfl
    · exact Or.inl rfl
    · exact Or.inr (hexDigit_hex _)
    · exact Or.inr (hexDigit_hex _)
  next plain =>
    rw [List.mem_singleton] at spelled
    subst spelled
    exact Or.inl ⟨inside, by simpa using plain⟩

theorem not_mem_percentEncode {set : Char → Bool} {c : Char} (inSet : set c = true)
    (percent : c ≠ '%') (digit : hexValue? c = none) (s : List Char) :
    c ∉ percentEncode set s := by
  intro member
  rcases mem_percentEncode member with ⟨-, plain⟩ | same | hex
  · simp [plain] at inSet
  · contradiction
  · simp [digit] at hex

/-! ## Sets that leave escapes alone

The sets of the URL parser: `%` stays, so that what is escaped already is not escaped again. -/

structure KeepsEscapes (set : Char → Bool) : Prop where
  percent : set '%' = false
  digits : ∀ c, (hexValue? c).isSome → set c = false

-- A hexadecimal digit at the start was there before escaping.
theorem percentEncode_eq_cons {set : Char → Bool} {rest encoded : List Char} {c : Char}
    (digit : (hexValue? c).isSome) (same : percentEncode set rest = c :: encoded) :
    ∃ rest', rest = c :: rest' ∧ encoded = percentEncode set rest' := by
  cases rest with
  | nil => simp [percentEncode] at same
  | cons first rest =>
    simp only [percentEncode, List.flatMap_cons] at same
    by_cases inSet : set first
    next =>
      obtain ⟨byte, bytes, shape, -⟩ := encodeChar_cons first
      simp only [encodeChar, inSet, if_true, shape, List.flatMap_cons, escape, List.cons_append,
        List.cons.injEq] at same
      rw [← same.1] at digit
      contradiction
    next =>
      simp only [encodeChar, inSet, Bool.false_eq_true, if_false, List.cons_append,
        List.nil_append, List.cons.injEq] at same
      exact ⟨rest, by rw [same.1], same.2.symm⟩

-- Escaping never completes a `%` that was not followed by its digits.
theorem startsEscape_percentEncode {set : Char → Bool} {rest : List Char}
    (plain : startsEscape ('%' :: rest) = false) :
    startsEscape ('%' :: percentEncode set rest) = false := by
  rw [Bool.eq_false_iff]
  intro starts
  obtain ⟨high, low, byte, encoded, shape, found⟩ := startsEscape_eq_true starts
  obtain ⟨high_hex, low_hex⟩ := hex_of_escaped? found
  rw [List.cons.injEq] at shape
  obtain ⟨rest', rfl, shape'⟩ := percentEncode_eq_cons high_hex shape.2
  obtain ⟨rest'', rfl, -⟩ := percentEncode_eq_cons low_hex shape'.symm
  simp [startsEscape, found] at plain

def encodePiece (set : Char → Bool) : Piece → List Piece
  | .char c => if set c then (String.utf8EncodeChar c).map .raw else [.char c]
  | .raw byte => [.raw byte]

section KeepsEscapes

variable {set : Char → Bool} (keeps : KeepsEscapes set)

include keeps

theorem not_set_of_mem_percentEncode {s : List Char} {c : Char}
    (member : c ∈ percentEncode set s) : set c = false := by
  rcases mem_percentEncode member with ⟨-, plain⟩ | rfl | hex
  · exact plain
  · exact keeps.percent
  · exact keeps.digits c hex

-- Escapes stay, and a code point of the set becomes the bytes of its own.
theorem pieces_percentEncode (s : List Char) :
    pieces (percentEncode set s) = (pieces s).flatMap (encodePiece set) := by
  induction s using pieces_induction with
  | nil => rfl
  | escape high low byte rest found ih =>
    obtain ⟨high_hex, low_hex⟩ := hex_of_escaped? found
    simp only [percentEncode, List.flatMap_cons] at ih ⊢
    simp only [encodeChar, keeps.percent, keeps.digits high high_hex, keeps.digits low low_hex,
      Bool.false_eq_true, if_false, List.cons_append, List.nil_append]
    rw [pieces_escape found, pieces_escape found, ih]
    rfl
  | char c rest plain ih =>
    rw [pieces_plain plain, List.flatMap_cons, ← ih]
    by_cases inSet : set c
    next =>
      simp only [percentEncode, List.flatMap_cons, encodeChar, inSet, if_true, pieces_escapes,
        encodePiece]
    next =>
      have still : startsEscape (c :: percentEncode set rest) = false := by
        by_cases percent : c = '%'
        next =>
          subst percent
          exact startsEscape_percentEncode plain
        next => exact startsEscape_cons_ne percent _
      have shape : percentEncode set (c :: rest) = c :: percentEncode set rest := by
        simp [percentEncode, encodeChar, inSet]
      rw [shape, pieces_plain still]
      simp [encodePiece, inSet]

theorem percentDecode_percentEncode_keeps (s : List Char) :
    percentDecode (percentEncode set s) = percentDecode s := by
  rw [percentDecode, pieces_percentEncode keeps, percentDecode]
  induction pieces s with
  | nil => rfl
  | cons piece pieces ih =>
    rw [List.flatMap_cons, flat_append, ih]
    cases piece with
    | raw byte => simp [encodePiece]
    | char c => by_cases inSet : set c <;> simp [encodePiece, inSet, flat_raws]

end KeepsEscapes

theorem percentEncode_of_not_set {set : Char → Bool} {s : List Char}
    (plain : ∀ c ∈ s, set c = false) : percentEncode set s = s := by
  induction s with
  | nil => rfl
  | cons c s ih =>
    have rest := ih fun c member => plain c (List.mem_cons_of_mem _ member)
    simp only [percentEncode, List.flatMap_cons] at rest ⊢
    simp [encodeChar, plain c, rest]

-- A `%` ends whatever stood before it.
theorem pieces_append_percent (s rest : List Char) :
    pieces (s ++ '%' :: rest) = pieces s ++ pieces ('%' :: rest) := by
  induction s using pieces_induction with
  | nil => rfl
  | escape high low byte tail found ih =>
    simp only [List.cons_append, pieces_escape found, ih]
  | char c tail plain ih =>
    have still : startsEscape (c :: (tail ++ '%' :: rest)) = false := by
      match tail with
      | [] =>
        rw [Bool.eq_false_iff]
        intro starts
        obtain ⟨high, low, byte, after, shape, found⟩ := startsEscape_eq_true starts
        simp only [List.nil_append, List.cons.injEq] at shape
        have hex := (hex_of_escaped? found).1
        rw [← shape.2.1] at hex
        contradiction
      | [first] =>
        rw [Bool.eq_false_iff]
        intro starts
        obtain ⟨high, low, byte, after, shape, found⟩ := startsEscape_eq_true starts
        simp only [List.cons_append, List.nil_append, List.cons.injEq] at shape
        have hex := (hex_of_escaped? found).2
        rw [← shape.2.2.1] at hex
        contradiction
      | first :: second :: tail =>
        rw [startsEscape_cons_cons] at plain
        rw [List.cons_append, List.cons_append, startsEscape_cons_cons, plain]
    simp only [List.cons_append, pieces_plain still, pieces_plain plain, ih]

end StreamingPortal.Percent
