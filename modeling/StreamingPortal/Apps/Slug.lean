import Mathlib
import StreamingPortal.Apps.Publish

set_option autoImplicit false

/-!
# The slugs of applications

`build_slug` of the tools joins the words of a title with hyphens, and cuts what it has joined.
-/

namespace StreamingPortal.Apps

open StreamingPortal.Words

/-! ## `str.lower` -/

/-- The lower case of the characters outside ASCII as the Unicode data of Python have it; of a final
sigma what stands before and after it decides. None of them has a capital of ASCII in it. -/
structure UnicodeData where
  lower : List Char → Char → List Char → List Char
  no_capital : ∀ before c after, 128 ≤ c.toNat → ∀ d ∈ lower before c after, d.isUpper = false

def lowerFrom (data : UnicodeData) (before : List Char) : List Char → List Char
  | [] => []
  | c :: rest =>
      (if c.toNat < 128 then [c.toLower] else data.lower before c rest) ++
        lowerFrom data (before ++ [c]) rest

def lower (data : UnicodeData) (text : String) : String :=
  String.ofList (lowerFrom data [] text.toList)

/-! ## Normal forms -/

def isSlugChar (c : Char) : Bool := c.isLower || c.isDigit || c == '_' || c == '-'

structure NormalForm (slug : String) : Prop where
  characters : ∀ c ∈ slug.toList, isSlugChar c = true
  short : slug.length ≤ 100
  apart : ¬ ['-', '-'] <:+: slug.toList
  first : slug.toList.head? ≠ some '-'
  last : slug.toList.getLast? ≠ some '-'

def isWordChar (c : Char) : Bool := c.isAlphanum || c == '_'

-- The letters, digits and underscores of a title, as they stand together.
def titleWords (data : UnicodeData) (title : String) : List (List Char) :=
  words isWordChar (lower data title).toList

/-! ## Lower case -/

section Lower

variable {data : UnicodeData}

theorem lower_toList (text : String) : (lower data text).toList = lowerFrom data [] text.toList :=
  String.toList_ofList

theorem not_isUpper_of_slug {c : Char} (listed : isSlugChar c = true) : ¬ c.isUpper := by
  simp only [isSlugChar, Bool.or_eq_true, beq_iff_eq] at listed
  rcases listed with ((small | digit) | rfl) | rfl
  · exact Char.not_isUpper_of_isLower small
  · intro capital
    simp only [Char.isDigit, Char.isUpper, Bool.and_eq_true, decide_eq_true_eq, ge_iff_le,
      UInt32.le_iff_toNat_le] at digit capital
    exact absurd (Nat.le_trans capital.1 digit.2) (by decide)
  · decide
  · decide

theorem isSlugChar_ascii {c : Char} (listed : isSlugChar c = true) : c.toNat < 128 := by
  simp only [isSlugChar, Char.isLower, Char.isDigit, Bool.or_eq_true, Bool.and_eq_true,
    decide_eq_true_eq, beq_iff_eq, ge_iff_le, UInt32.le_iff_toNat_le] at listed
  rcases listed with ((⟨-, small⟩ | ⟨-, digit⟩) | rfl) | rfl
  · exact Nat.lt_of_le_of_lt small (by decide)
  · exact Nat.lt_of_le_of_lt digit (by decide)
  · decide
  · decide

theorem lowerFrom_no_capital (before text : List Char) :
    ∀ c ∈ lowerFrom data before text, c.isUpper = false := by
  induction text generalizing before with
  | nil => simp [lowerFrom]
  | cons c rest ih =>
      intro d member
      cases List.mem_append.mp member with
      | inl here =>
          split at here
          next =>
            rw [List.mem_singleton.mp here]
            exact Char.isUpper_toLower_eq_false c
          next outside => exact data.no_capital before c rest (Nat.not_lt.mp outside) d here
      | inr later => exact ih _ d later

theorem lowerFrom_of_slug {text : List Char} (listed : ∀ c ∈ text, isSlugChar c = true)
    (before : List Char) : lowerFrom data before text = text := by
  induction text generalizing before with
  | nil => rfl
  | cons c rest ih =>
      have here := listed c List.mem_cons_self
      rw [lowerFrom, if_pos (isSlugChar_ascii here),
        Char.toLower_eq_of_not_isUpper (not_isUpper_of_slug here),
        ih fun d member => listed d (List.mem_cons_of_mem c member)]
      rfl

end Lower

/-! ## The passes of `build_slug` -/

theorem buildSlug_toList (lower : String → String) (title : String) :
    (buildSlug lower title).toList =
      (trim '-' (squeeze '-' ((lower title).toList.map slugChar))).take 100 := by
  rw [buildSlug, String.toList_ofList]

theorem slugChar_of_word {c : Char} (inside : isWordChar c = true) : slugChar c = c := by
  simp only [isWordChar, Bool.or_eq_true, beq_iff_eq] at inside
  exact if_pos (inside.imp_right Or.inl)

theorem slugChar_of_not_word {c : Char} (outside : isWordChar c = false) : slugChar c = '-' := by
  simp only [isWordChar, Bool.or_eq_false_iff, beq_eq_false_iff_ne] at outside
  unfold slugChar
  split
  next kept => simpa [outside] using kept
  next => rfl

theorem slugChar_of_slug {c : Char} (listed : isSlugChar c = true) : slugChar c = c := by
  simp only [isSlugChar, Bool.or_eq_true, beq_iff_eq] at listed
  rcases listed with ((small | digit) | mark) | hyphen
  · simp [slugChar, Char.isAlphanum, Char.isAlpha, small]
  · simp [slugChar, Char.isAlphanum, digit]
  · simp [slugChar, mark]
  · simp [slugChar, hyphen]

theorem isSlugChar_slugChar {c : Char} (small : c.isUpper = false) :
    isSlugChar (slugChar c) = true := by
  cases inside : isWordChar c with
  | false =>
      rw [slugChar_of_not_word inside]
      decide
  | true =>
      rw [slugChar_of_word inside]
      simp only [isWordChar, Char.isAlphanum, Char.isAlpha, small, Bool.false_or] at inside
      simp [isSlugChar, inside]

theorem words_slugChar (text : List Char) :
    words (· ≠ '-') (text.map slugChar) = words isWordChar text := by
  apply wordsFrom_map
  next =>
    intro c _
    cases inside : isWordChar c with
    | false => simp [slugChar_of_not_word inside]
    | true =>
        have other : c ≠ '-' := by
          intro same
          subst same
          contradiction
        simp [slugChar_of_word inside, other]
  next => exact fun c _ inside => slugChar_of_word inside

section Slug

variable (data : UnicodeData) (title : String)

theorem buildSlug_characters :
    ∀ c ∈ (buildSlug (lower data) title).toList, isSlugChar c = true := by
  intro c member
  rw [buildSlug_toList] at member
  have mapped := (squeeze_sublist _).subset ((trim_within _).subset (List.mem_of_mem_take member))
  obtain ⟨d, lowered, rfl⟩ := List.mem_map.mp mapped
  rw [lower_toList] at lowered
  exact isSlugChar_slugChar (lowerFrom_no_capital [] _ d lowered)

theorem buildSlug_short : (buildSlug (lower data) title).length ≤ 100 := by
  rw [← String.length_toList, buildSlug_toList]
  exact List.length_take_le 100 _

/-- A slug is the words of the title with a hyphen between two, cut after a hundred characters. -/
theorem buildSlug_eq_join :
    (buildSlug (lower data) title).toList = (join '-' (titleWords data title)).take 100 := by
  rw [buildSlug_toList, trim_squeeze_eq_join, words_slugChar, titleWords]

-- The cut is what can leave a hyphen at the end.
theorem buildSlug_separated_iff :
    Separated '-' (buildSlug (lower data) title).toList ↔
      ¬ EndsAt '-' (titleWords data title) 99 := by
  have plain : ∀ word ∈ titleWords data title, '-' ∉ word := by
    intro word listed member
    exact absurd (inWord_of_mem_words word listed '-' member) (by decide)
  have whole : Separated '-' (join '-' (titleWords data title)) := by
    rw [titleWords, ← words_slugChar, ← trim_squeeze_eq_join]
    exact trim_squeeze_separated _
  rw [buildSlug_eq_join, whole.take_iff, ne_eq, getElem?_join plain]

variable {data title}

theorem NormalForm.separated {slug : String} (normal : NormalForm slug) :
    Separated '-' slug.toList := ⟨normal.apart, normal.first, normal.last⟩

theorem NormalForm.buildSlug {slug : String} (normal : NormalForm slug) :
    buildSlug (lower data) slug = slug := by
  have lowered : (lower data slug).toList = slug.toList := by
    rw [lower_toList, lowerFrom_of_slug normal.characters]
  have mapped : slug.toList.map slugChar = slug.toList := by
    apply (List.map_congr_left fun c member => slugChar_of_slug (normal.characters c member)).trans
    exact List.map_id slug.toList
  have short : slug.toList.length ≤ 100 := by
    rw [String.length_toList]
    exact normal.short
  rw [← String.toList_inj, buildSlug_toList, lowered, mapped, normal.separated.trim_squeeze,
    List.take_of_length_le short]

end Slug

/-- Slugs are in normal form exactly if the first words of the title, joined, do not come to 99
characters before another word. -/
theorem build_slug_normal_iff (data : UnicodeData) (title : String) :
    NormalForm (buildSlug (lower data) title) ∧
        buildSlug (lower data) (buildSlug (lower data) title) = buildSlug (lower data) title ↔
      ¬ EndsAt '-' (titleWords data title) 99 := by
  rw [← buildSlug_separated_iff]
  constructor
  next => exact fun both => both.1.separated
  next =>
    intro separated
    have normal : NormalForm (buildSlug (lower data) title) :=
      ⟨buildSlug_characters data title, buildSlug_short data title, separated.apart,
        separated.first, separated.last⟩
    exact ⟨normal, normal.buildSlug⟩

namespace Sample

-- The two characters outside ASCII whose lower case has a letter of ASCII.
def unicodeData : UnicodeData where
  lower _ c _ := if c = '\u212A' then ['k'] else if c = '\u0130' then ['i', '\u0307'] else [c]
  no_capital := by
    intro _ c _ outside d member
    split at member
    next =>
      rw [List.mem_singleton.mp member]
      decide
    next =>
      split at member
      next =>
        rcases List.mem_pair.mp member with rfl | rfl
        · decide
        · decide
      next =>
        rw [List.mem_singleton.mp member, Bool.eq_false_iff]
        intro capital
        simp only [Char.isUpper, decide_eq_true_eq, UInt32.le_iff_toNat_le] at capital
        have ascii : c.toNat < 128 := Nat.lt_of_le_of_lt capital.2 (by decide)
        exact Nat.not_lt.mpr outside ascii

def longTitle : String := String.ofList (List.replicate 99 'a' ++ " app".toList)

end Sample

theorem cut_at_hyphen :
    ¬ (NormalForm (buildSlug (lower Sample.unicodeData) Sample.longTitle) ∧
      buildSlug (lower Sample.unicodeData)
          (buildSlug (lower Sample.unicodeData) Sample.longTitle) =
        buildSlug (lower Sample.unicodeData) Sample.longTitle) := by
  intro both
  have last := both.1.last
  have text : Sample.longTitle.toList = List.replicate 99 'a' ++ " app".toList :=
    String.toList_ofList
  rw [buildSlug_toList, lower_toList, text] at last
  exact absurd last (by decide +kernel)

end StreamingPortal.Apps
