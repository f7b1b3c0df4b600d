import Mathlib.Data.List.Basic

set_option autoImplicit false

/-!
# UTF-8

A string is the list of its code points, its encoding a list of bytes. Decoding replaces each
maximal ill-formed stretch of bytes by one U+FFFD, as browsers and Python's `replace` do;
`decode?` refuses instead.
-/

namespace StreamingPortal.Utf8

def encode (s : List Char) : List UInt8 := s.flatMap String.utf8EncodeChar

-- The code point whose encoding the bytes start with.
def head? (bytes : List UInt8) : Option Char := bytes.toByteArray.utf8DecodeChar? 0

def isContinuation (byte : UInt8) : Bool := decide (0x80 ≤ byte ∧ byte ≤ 0xBF)

-- Second bytes that no overlong form, surrogate or number above U+10FFFF starts with.
def isSecond (lead second : UInt8) : Bool :=
  isContinuation second &&
    !(lead == 0xE0 && second < 0xA0 || lead == 0xED && 0x9F < second ||
      lead == 0xF0 && second < 0x90 || lead == 0xF4 && 0x8F < second)

-- How many bytes one replacement character stands for.
def badLength : List UInt8 → Nat
  | lead :: second :: rest =>
    if 0xE0 ≤ lead ∧ lead ≤ 0xEF ∧ isSecond lead second then 2
    else if 0xF0 ≤ lead ∧ lead ≤ 0xF4 ∧ isSecond lead second then
      match rest with
      | third :: _ => if isContinuation third then 3 else 2
      | [] => 2
    else 1
  | _ => 1

def replacement : Char := '\uFFFD'

-- `skip` bytes belong to the code point or the replacement written last.
def decodeFrom : Nat → List UInt8 → List Char
  | _, [] => []
  | skip + 1, _ :: rest => decodeFrom skip rest
  | 0, byte :: rest =>
    match head? (byte :: rest) with
    | some c => c :: decodeFrom (c.utf8Size - 1) rest
    | none => replacement :: decodeFrom (badLength (byte :: rest) - 1) rest

def decode (bytes : List UInt8) : List Char := decodeFrom 0 bytes

def decodeFrom? : Nat → List UInt8 → Option (List Char)
  | _, [] => some []
  | skip + 1, _ :: rest => decodeFrom? skip rest
  | 0, byte :: rest =>
    match head? (byte :: rest) with
    | some c => (decodeFrom? (c.utf8Size - 1) rest).map (c :: ·)
    | none => none

def decode? (bytes : List UInt8) : Option (List Char) := decodeFrom? 0 bytes

@[simp] theorem encode_nil : encode [] = [] := rfl

@[simp] theorem encode_cons (c : Char) (s : List Char) :
    encode (c :: s) = String.utf8EncodeChar c ++ encode s := rfl

@[simp] theorem encode_append (s t : List Char) : encode (s ++ t) = encode s ++ encode t := by
  simp [encode]

@[simp] theorem decode_nil : decode [] = [] := rfl

@[simp] theorem decode?_nil : decode? [] = some [] := rfl

theorem decodeFrom_drop (skip : Nat) (bytes : List UInt8) :
    decodeFrom skip bytes = decode (bytes.drop skip) := by
  induction bytes generalizing skip with
  | nil => cases skip <;> simp [decode, decodeFrom]
  | cons byte rest ih =>
    cases skip with
    | zero => simp [decode]
    | succ skip => simp [decodeFrom, ih]

theorem decodeFrom?_drop (skip : Nat) (bytes : List UInt8) :
    decodeFrom? skip bytes = decode? (bytes.drop skip) := by
  induction bytes generalizing skip with
  | nil => cases skip <;> simp [decode?, decodeFrom?]
  | cons byte rest ih =>
    cases skip with
    | zero => simp [decode?]
    | succ skip => simp [decodeFrom?, ih]

/-! ## Code points -/

@[simp] theorem head?_char (c : Char) (bytes : List UInt8) :
    head? (String.utf8EncodeChar c ++ bytes) = some c := by
  simp only [head?, List.toByteArray_append]
  exact ByteArray.utf8DecodeChar?_utf8EncodeChar_append

theorem head?_eq_some {bytes : List UInt8} {c : Char} (found : head? bytes = some c) :
    ∃ rest, bytes = String.utf8EncodeChar c ++ rest := by
  obtain ⟨rest, same⟩ := ByteArray.exists_of_utf8DecodeChar?_eq_some found
  refine ⟨rest.data.toList, ?_⟩
  have lists := congrArg (fun b => b.data.toList) same
  simpa using lists

theorem encodeChar_cons (c : Char) :
    ∃ byte rest, String.utf8EncodeChar c = byte :: rest ∧ byte.IsUTF8FirstByte ∧
      rest.length = c.utf8Size - 1 ∧ ∀ b ∈ rest, ¬b.IsUTF8FirstByte := by
  have size := String.length_utf8EncodeChar c
  have some_byte := c.utf8Size_pos
  cases bytes : String.utf8EncodeChar c with
  | nil => simp [bytes] at size; omega
  | cons byte rest =>
    have marks : ∀ (i : Nat) (hi : i < (byte :: rest).length),
        ((byte :: rest)[i]).IsUTF8FirstByte ↔ i = 0 := by
      intro i hi
      simp only [← bytes]
      exact UInt8.isUTF8FirstByte_getElem_utf8EncodeChar
    refine ⟨byte, rest, rfl, (marks 0 (by simp)).2 rfl, by simp [bytes] at size; omega, ?_⟩
    intro b member first
    obtain ⟨i, hi, rfl⟩ := List.getElem_of_mem member
    have zero := (marks (i + 1) (by simpa using hi)).1 (by simpa using first)
    omega

theorem decode_char (c : Char) (bytes : List UInt8) :
    decode (String.utf8EncodeChar c ++ bytes) = c :: decode bytes := by
  obtain ⟨byte, rest, shape, -, size, -⟩ := encodeChar_cons c
  have found := head?_char c bytes
  rw [shape] at found ⊢
  simp only [List.cons_append] at found ⊢
  rw [decode, decodeFrom, found]
  simp only [decodeFrom_drop, ← size, List.drop_left]

theorem decode?_char (c : Char) (bytes : List UInt8) :
    decode? (String.utf8EncodeChar c ++ bytes) = (decode? bytes).map (c :: ·) := by
  obtain ⟨byte, rest, shape, -, size, -⟩ := encodeChar_cons c
  have found := head?_char c bytes
  rw [shape] at found ⊢
  simp only [List.cons_append] at found ⊢
  rw [decode?, decodeFrom?, found]
  simp only [decodeFrom?_drop, ← size, List.drop_left]

@[simp] theorem decode_encode_append (s : List Char) (bytes : List UInt8) :
    decode (encode s ++ bytes) = s ++ decode bytes := by
  induction s with
  | nil => simp
  | cons c s ih => simp [decode_char, ih]

@[simp] theorem decode_encode (s : List Char) : decode (encode s) = s := by
  simpa using decode_encode_append s []

@[simp] theorem decode?_encode (s : List Char) : decode? (encode s) = some s := by
  induction s with
  | nil => simp
  | cons c s ih => simp [decode?_char, ih]

-- What is accepted is well formed.
theorem decode?_eq_some {bytes : List UInt8} {s : List Char} (accepted : decode? bytes = some s) :
    bytes = encode s := by
  induction n : bytes.length using Nat.strongRecOn generalizing bytes s with
  | ind n ih =>
    cases bytes with
    | nil => simp at accepted; simp [accepted]
    | cons byte rest =>
      cases found : head? (byte :: rest) with
      | none => simp [decode?, decodeFrom?, found] at accepted
      | some c =>
        obtain ⟨left, shape⟩ := head?_eq_some found
        rw [shape, decode?_char] at accepted
        obtain ⟨t, decoded, rfl⟩ := Option.map_eq_some_iff.1 accepted
        have shorter := congrArg List.length shape
        simp only [List.length_append, String.length_utf8EncodeChar] at shorter
        have positive := c.utf8Size_pos
        rw [shape, encode_cons, ← ih left.length (by omega) decoded rfl]

/-! ## Stretches that need not be well formed

Literal code points between single bytes, as percent decoding leaves them. -/

inductive Piece where
  | char (c : Char)
  | raw (byte : UInt8)
deriving DecidableEq

def Piece.bytes : Piece → List UInt8
  | .char c => String.utf8EncodeChar c
  | .raw byte => [byte]

def flat (pieces : List Piece) : List UInt8 := pieces.flatMap Piece.bytes

@[simp] theorem flat_nil : flat [] = [] := rfl

@[simp] theorem flat_char (c : Char) (pieces : List Piece) :
    flat (.char c :: pieces) = String.utf8EncodeChar c ++ flat pieces := rfl

@[simp] theorem flat_raw (byte : UInt8) (pieces : List Piece) :
    flat (.raw byte :: pieces) = byte :: flat pieces := rfl

@[simp] theorem flat_append (left right : List Piece) :
    flat (left ++ right) = flat left ++ flat right := by
  simp [flat]

theorem flat_chars (s : List Char) : flat (s.map .char) = encode s := by
  induction s with
  | nil => rfl
  | cons c s ih => simp [ih]

-- A literal code point never continues what a byte before it began.
theorem drop_flat (pieces : List Piece) (count : Nat)
    (continues : ∀ b ∈ (flat pieces).take count, ¬b.IsUTF8FirstByte) :
    (flat pieces).drop count = flat (pieces.drop count) := by
  induction pieces generalizing count with
  | nil => simp
  | cons piece pieces ih =>
    cases count with
    | zero => simp
    | succ count =>
      cases piece with
      | char c =>
        obtain ⟨byte, rest, shape, first, -, -⟩ := encodeChar_cons c
        have stray := continues byte (by simp [shape])
        contradiction
      | raw byte =>
        apply ih
        intro b member
        apply continues
        simp [member]

theorem not_first_of_continuation {byte : UInt8} (continuation : isContinuation byte) :
    ¬byte.IsUTF8FirstByte := by
  have every : ∀ n : Fin 256, isContinuation (UInt8.ofNat n.val) →
      ¬(UInt8.ofNat n.val).IsUTF8FirstByte := by decide +kernel
  have this_byte := every ⟨byte.toNat, byte.toNat_lt⟩
  simpa [UInt8.ofNat_toNat] using this_byte (by simpa using continuation)

theorem badLength_take (byte : UInt8) (rest : List UInt8) :
    ∀ b ∈ rest.take (badLength (byte :: rest) - 1), ¬b.IsUTF8FirstByte := by
  intro b member
  apply not_first_of_continuation
  have continues : ∀ second, isSecond byte second → isContinuation second := by
    intro second ok
    simp only [isSecond, Bool.and_eq_true] at ok
    exact ok.1
  cases rest with
  | nil => simp at member
  | cons second rest =>
    simp only [badLength] at member
    split at member
    next three => simp at member; subst member; exact continues _ three.2.2
    next =>
      split at member
      next four =>
        cases rest with
        | nil => simp at member; subst member; exact continues _ four.2.2
        | cons third rest =>
          simp only at member
          split at member
          next more =>
            simp at member
            cases member with
            | inl same => subst same; exact continues _ four.2.2
            | inr same => subst same; exact more
          next => simp at member; subst member; exact continues _ four.2.2
      next => simp at member

-- Decoding never yields more characters than there are pieces.
theorem decode_flat_length (pieces : List Piece) :
    (decode (flat pieces)).length ≤ pieces.length := by
  induction n : pieces.length using Nat.strongRecOn generalizing pieces with
  | ind n ih =>
    cases pieces with
    | nil => simp
    | cons piece pieces =>
      simp only [List.length_cons] at n
      cases piece with
      | char c =>
        have shorter := ih pieces.length (by omega) pieces rfl
        simp only [flat_char, decode_char, List.length_cons]
        omega
      | raw byte =>
        -- The bytes taken along with this one are raw as well.
        have step : ∀ skip, (∀ b ∈ (flat pieces).take skip, ¬b.IsUTF8FirstByte) →
            (decodeFrom skip (flat pieces)).length ≤ pieces.length := by
          intro skip continues
          rw [decodeFrom_drop, drop_flat pieces skip continues]
          have shorter := ih (pieces.drop skip).length (by simp; omega) (pieces.drop skip) rfl
          simp only [List.length_drop] at shorter
          omega
        rw [flat_raw, decode, decodeFrom]
        cases found : head? (byte :: flat pieces) with
        | none =>
          have rest := step _ (badLength_take byte (flat pieces))
          simp only [List.length_cons]
          omega
        | some c =>
          obtain ⟨left, shape⟩ := head?_eq_some found
          obtain ⟨first, tail, bytes, -, size, continues⟩ := encodeChar_cons c
          rw [bytes] at shape
          simp only [List.cons_append, List.cons.injEq] at shape
          have rest := step (c.utf8Size - 1) (by
            rw [shape.2, ← size, List.take_left]
            exact continues)
          simp only [List.length_cons]
          omega

end StreamingPortal.Utf8
