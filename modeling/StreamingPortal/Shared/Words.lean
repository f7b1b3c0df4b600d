import Mathlib.Data.List.DropRight
import Mathlib.Data.List.Induction

set_option autoImplicit false

/-!
# Words and separators

The words of a text, and the text that has them with one separator between two.
-/

namespace StreamingPortal.Words

universe u

variable {α : Type u}

/-! ## Words -/

def ended (word : List α) : List (List α) := if word.isEmpty then [] else [word]

-- `word` is what has been read of a word that may go on.
def wordsFrom (inWord : α → Bool) (word : List α) : List α → List (List α)
  | [] => ended word
  | c :: rest =>
      if inWord c then wordsFrom inWord (word ++ [c]) rest
      else ended word ++ wordsFrom inWord [] rest

/-- The longest runs of characters that stand in words. -/
def words (inWord : α → Bool) (text : List α) : List (List α) := wordsFrom inWord [] text

@[simp] theorem ended_nil : ended ([] : List α) = [] := rfl

theorem ended_of_ne_nil {word : List α} (some_character : word ≠ []) : ended word = [word] := by
  simp [ended, some_character]

theorem mem_wordsFrom {inWord : α → Bool} {text word : List α}
    (begun : ∀ c ∈ word, inWord c = true) :
    ∀ found ∈ wordsFrom inWord word text, ∀ c ∈ found, inWord c = true := by
  have whole : ∀ word : List α, (∀ c ∈ word, inWord c = true) → ∀ found ∈ ended word, ∀ c ∈ found,
      inWord c = true := by
    intro word begun found member
    unfold ended at member
    split at member
    next => contradiction
    next =>
      rw [List.mem_singleton.mp member]
      exact begun
  induction text generalizing word with
  | nil => exact whole word begun
  | cons c rest ih =>
      by_cases inside : inWord c
      next =>
        rw [wordsFrom, if_pos inside]
        apply ih
        intro d member
        cases List.mem_append.mp member with
        | inl before => exact begun d before
        | inr here => rwa [List.mem_singleton.mp here]
      next =>
        rw [wordsFrom, if_neg inside]
        intro found member
        cases List.mem_append.mp member with
        | inl here => exact whole word begun found here
        | inr later => exact ih (by simp) found later

theorem inWord_of_mem_words {inWord : α → Bool} {text : List α} :
    ∀ word ∈ words inWord text, ∀ c ∈ word, inWord c = true := mem_wordsFrom (by simp)

theorem wordsFrom_append {inWord : α → Bool} {c : α} (outside : inWord c = false)
    (word front back : List α) :
    wordsFrom inWord word (front ++ c :: back) =
      wordsFrom inWord word front ++ wordsFrom inWord [] back := by
  induction front generalizing word with
  | nil => simp [wordsFrom, outside]
  | cons d front ih =>
      by_cases inside : inWord d
      next => simp [wordsFrom, inside, ih]
      next => simp [wordsFrom, inside, ih]

-- Characters between words may be exchanged for others.
theorem wordsFrom_map {inWord inWord' : α → Bool} {f : α → α} {text : List α}
    (same : ∀ c ∈ text, inWord' (f c) = inWord c) (kept : ∀ c ∈ text, inWord c = true → f c = c)
    (word : List α) : wordsFrom inWord' word (text.map f) = wordsFrom inWord word text := by
  induction text generalizing word with
  | nil => rfl
  | cons c rest ih =>
      have tail := ih (fun d member => same d (List.mem_cons_of_mem c member))
        (fun d member => kept d (List.mem_cons_of_mem c member))
      have here := same c List.mem_cons_self
      by_cases inside : inWord c
      next =>
        have fixed := kept c List.mem_cons_self inside
        rw [fixed] at here
        simp [wordsFrom, fixed, here, inside, tail]
      next => simp [wordsFrom, here, inside, tail]

theorem words_dropWhile {inWord outside : α → Bool}
    (apart : ∀ c, outside c = true → inWord c = false) (text : List α) :
    words inWord (text.dropWhile outside) = words inWord text := by
  induction text with
  | nil => rfl
  | cons c rest ih =>
      by_cases dropped : outside c
      next =>
        rw [List.dropWhile_cons_of_pos dropped, ih]
        simp [words, wordsFrom, apart c dropped]
      next => rw [List.dropWhile_cons_of_neg dropped]

theorem words_rdropWhile {inWord outside : α → Bool}
    (apart : ∀ c, outside c = true → inWord c = false) (text : List α) :
    words inWord (text.rdropWhile outside) = words inWord text := by
  induction text using List.reverseRecOn with
  | nil => rfl
  | append_singleton text c ih =>
      by_cases dropped : outside c
      next =>
        have whole := wordsFrom_append (apart c dropped) [] text []
        rw [List.rdropWhile_concat_pos _ _ _ dropped, ih]
        simpa [words, wordsFrom] using whole.symm
      next => rw [List.rdropWhile_concat_neg _ _ _ dropped]

/-! ## One separator between two words -/

section Separators

variable [DecidableEq α] {sep : α}

/-- No two separators in a row, and none at either end. -/
structure Separated (sep : α) (text : List α) : Prop where
  apart : ¬ [sep, sep] <:+: text
  first : text.head? ≠ some sep
  last : text.getLast? ≠ some sep

-- Of several separators in a row the last one stays.
def squeeze (sep : α) : List α → List α
  | [] => []
  | c :: rest => if c = sep ∧ rest.head? = some sep then squeeze sep rest else c :: squeeze sep rest

def trim (sep : α) (text : List α) : List α :=
  (text.dropWhile (· = sep)).rdropWhile (· = sep)

def join (sep : α) (words : List (List α)) : List α := [sep].intercalate words

omit [DecidableEq α] in
theorem join_cons {word : List α} {words : List (List α)} (more : words ≠ []) :
    join sep (word :: words) = word ++ sep :: join sep words := by
  rw [join, List.intercalate_cons_of_ne_nil more, List.append_assoc, List.singleton_append, join]

theorem head?_squeeze (text : List α) : (squeeze sep text).head? = text.head? := by
  induction text with
  | nil => rfl
  | cons c rest ih =>
      by_cases twice : c = sep ∧ rest.head? = some sep
      next => rw [squeeze, if_pos twice, ih, twice.1, twice.2, List.head?_cons]
      next => rw [squeeze, if_neg twice, List.head?_cons, List.head?_cons]

theorem squeeze_sublist (text : List α) : (squeeze sep text).Sublist text := by
  induction text with
  | nil => exact List.Sublist.refl []
  | cons c rest ih =>
      by_cases twice : c = sep ∧ rest.head? = some sep
      next =>
        rw [squeeze, if_pos twice]
        exact ih.cons c
      next =>
        rw [squeeze, if_neg twice]
        exact ih.cons_cons c

omit [DecidableEq α] in
theorem adjacent_cons {c : α} {text : List α} :
    [sep, sep] <:+: c :: text ↔ c = sep ∧ text.head? = some sep ∨ [sep, sep] <:+: text := by
  rw [List.infix_cons_iff]
  cases text with
  | nil => simp
  | cons d rest => simp [List.cons_prefix_cons, eq_comm]

theorem squeeze_apart (text : List α) : ¬ [sep, sep] <:+: squeeze sep text := by
  induction text with
  | nil => simp [squeeze]
  | cons c rest ih =>
      by_cases twice : c = sep ∧ rest.head? = some sep
      next => rwa [squeeze, if_pos twice]
      next =>
        rw [squeeze, if_neg twice, adjacent_cons, head?_squeeze]
        exact fun either => either.elim twice ih

theorem squeeze_of_apart {text : List α} (apart : ¬ [sep, sep] <:+: text) :
    squeeze sep text = text := by
  induction text with
  | nil => rfl
  | cons c rest ih =>
      rw [adjacent_cons, not_or] at apart
      rw [squeeze, if_neg apart.1, ih apart.2]

theorem head?_trim (text : List α) : (trim sep text).head? ≠ some sep := by
  intro found
  -- What is stripped at the end leaves the head, or nothing.
  obtain ⟨back, whole⟩ := List.rdropWhile_prefix (fun c => decide (c = sep))
    (l := text.dropWhile (· = sep))
  have head : (text.dropWhile (· = sep)).head? = some sep := by
    rw [← whole, List.head?_append, ← trim, found]
    rfl
  have kept := List.head?_dropWhile_not (fun c => decide (c = sep)) text
  rw [head] at kept
  simp at kept

theorem getLast?_trim (text : List α) : (trim sep text).getLast? ≠ some sep := by
  intro found
  have nonempty : trim sep text ≠ [] := by
    intro empty
    rw [empty] at found
    contradiction
  have kept := List.rdropWhile_last_not (fun c => decide (c = sep)) _ nonempty
  rw [List.getLast?_eq_getLast_of_ne_nil nonempty, Option.some.injEq] at found
  exact kept (decide_eq_true found)

theorem trim_within (text : List α) : trim sep text <:+: text :=
  (List.rdropWhile_prefix _ _).isInfix.trans (List.dropWhile_suffix _).isInfix

/-- What is squeezed and trimmed is separated. -/
theorem trim_squeeze_separated (text : List α) : Separated sep (trim sep (squeeze sep text)) where
  apart found := squeeze_apart text (found.trans (trim_within _))
  first := head?_trim _
  last := getLast?_trim _

/-- And what is separated stays as it is. -/
theorem Separated.trim_squeeze {text : List α} (separated : Separated sep text) :
    trim sep (squeeze sep text) = text := by
  rw [squeeze_of_apart separated.apart, trim]
  have front : text.dropWhile (· = sep) = text := by
    cases text with
    | nil => rfl
    | cons c rest =>
        have other : c ≠ sep := fun same => separated.first (by rw [same, List.head?_cons])
        exact List.dropWhile_cons_of_neg (by simpa using other)
  rw [front, List.rdropWhile_eq_self_iff]
  intro nonempty last
  apply separated.last
  rw [List.getLast?_eq_getLast_of_ne_nil nonempty, of_decide_eq_true last]

theorem wordsFrom_squeeze (word text : List α) :
    wordsFrom (· ≠ sep) word (squeeze sep text) = wordsFrom (· ≠ sep) word text := by
  induction text generalizing word with
  | nil => rfl
  | cons c rest ih =>
      by_cases twice : c = sep ∧ rest.head? = some sep
      next =>
        obtain ⟨rfl, second⟩ := twice
        obtain ⟨tail, rfl⟩ := List.head?_eq_some_iff.mp second
        rw [squeeze, if_pos ⟨rfl, second⟩, ih]
        simp [wordsFrom]
      next =>
        rw [squeeze, if_neg twice]
        simp only [wordsFrom, ih]

theorem words_trim_squeeze (text : List α) :
    words (· ≠ sep) (trim sep (squeeze sep text)) = words (· ≠ sep) text := by
  have apart : ∀ c, decide (c = sep) = true → decide (c ≠ sep) = false := by simp
  rw [trim, words_rdropWhile apart, words_dropWhile apart, words, wordsFrom_squeeze, words]

theorem join_wordsFrom {text word : List α} (apart : ¬ [sep, sep] <:+: text)
    (first : word = [] → text.head? ≠ some sep) (last : text.getLast? ≠ some sep) :
    join sep (wordsFrom (· ≠ sep) word text) = word ++ text := by
  induction text generalizing word with
  | nil =>
      by_cases empty : word = []
      next => simp [empty, wordsFrom, join]
      next => simp [wordsFrom, ended_of_ne_nil empty, join]
  | cons c rest ih =>
      rw [adjacent_cons, not_or] at apart
      have last' : rest.getLast? ≠ some sep := by
        intro found
        apply last
        rw [List.getLast?_cons, found]
        rfl
      by_cases here : c = sep
      next =>
        subst here
        have some_character : word ≠ [] := fun empty => first empty rfl
        have follows : rest.head? ≠ some c := fun found => apart.1 ⟨rfl, found⟩
        have tail : join c (wordsFrom (· ≠ c) [] rest) = rest :=
          ih apart.2 (fun _ => follows) last'
        have more : wordsFrom (· ≠ c) [] rest ≠ [] := by
          intro none
          rw [none] at tail
          exact last (by simp [← tail, join])
        simp only [wordsFrom, ne_eq, not_true, decide_false, Bool.false_eq_true, if_false,
          ended_of_ne_nil some_character, List.singleton_append]
        rw [join_cons more, tail]
      next =>
        have tail : join sep (wordsFrom (· ≠ sep) (word ++ [c]) rest) = word ++ [c] ++ rest :=
          ih apart.2 (fun empty => absurd empty (by simp)) last'
        simpa [wordsFrom, here] using tail

/-- A separated text is its words, joined. -/
theorem Separated.join_words {text : List α} (separated : Separated sep text) :
    join sep (words (· ≠ sep) text) = text :=
  join_wordsFrom separated.apart (fun _ => separated.first) separated.last

theorem trim_squeeze_eq_join (text : List α) :
    trim sep (squeeze sep text) = join sep (words (· ≠ sep) text) := by
  rw [← words_trim_squeeze, (trim_squeeze_separated text).join_words]

/-! ## Where the separators stand -/

/-- Between two words, where the first ones and what joins them end. -/
def EndsAt (sep : α) (words : List (List α)) (n : Nat) : Prop :=
  ∃ front back, words = front ++ back ∧ front ≠ [] ∧ back ≠ [] ∧ (join sep front).length = n

omit [DecidableEq α] in
theorem endsAt_cons {word : List α} {words : List (List α)} (more : words ≠ []) {n : Nat} :
    EndsAt sep (word :: words) n ↔
      n = word.length ∨ ∃ k, n = word.length + 1 + k ∧ EndsAt sep words k := by
  constructor
  next =>
    rintro ⟨front, back, split, begun, follows, length⟩
    cases front with
    | nil => contradiction
    | cons first front =>
        obtain ⟨rfl, rfl⟩ := List.cons.inj split
        by_cases alone : front = []
        next =>
          subst alone
          exact Or.inl (by simpa [join] using length.symm)
        next =>
          refine Or.inr ⟨(join sep front).length, ?_, front, back, rfl, alone, follows, rfl⟩
          rw [join_cons alone, List.length_append, List.length_cons] at length
          omega
  next =>
    intro either
    cases either with
    | inl first => exact ⟨[word], words, rfl, by simp, more, by simp [join, first]⟩
    | inr later =>
        obtain ⟨k, rfl, front, back, rfl, begun, follows, rfl⟩ := later
        refine ⟨word :: front, back, rfl, by simp, follows, ?_⟩
        rw [join_cons begun, List.length_append, List.length_cons]
        omega

omit [DecidableEq α] in
theorem getElem?_join {words : List (List α)} (plain : ∀ word ∈ words, sep ∉ word) (n : Nat) :
    (join sep words)[n]? = some sep ↔ EndsAt sep words n := by
  induction words generalizing n with
  | nil =>
      refine iff_of_false (by simp [join]) ?_
      rintro ⟨front, back, split, begun, -⟩
      exact begun (List.append_eq_nil_iff.mp split.symm).1
  | cons word words ih =>
      have here := plain word List.mem_cons_self
      by_cases more : words = []
      next =>
        subst more
        refine iff_of_false ?_ ?_
        next =>
          rw [join, List.intercalate_singleton]
          exact fun found => here (List.mem_of_getElem? found)
        next =>
          rintro ⟨front, back, split, begun, follows, -⟩
          have lengths := congrArg List.length split
          have front_pos := List.length_pos_of_ne_nil begun
          have back_pos := List.length_pos_of_ne_nil follows
          rw [List.length_singleton, List.length_append] at lengths
          omega
      next =>
        have tail := ih fun other member => plain other (List.mem_cons_of_mem word member)
        rw [endsAt_cons more, join_cons more]
        rcases Nat.lt_trichotomy n word.length with inside | rfl | beyond
        next =>
          refine iff_of_false ?_ (by omega)
          rw [List.getElem?_append_left inside]
          exact fun found => here (List.mem_of_getElem? found)
        next => simp
        next =>
          obtain ⟨k, rfl⟩ : ∃ k, n = word.length + 1 + k := ⟨n - (word.length + 1), by omega⟩
          have shift : word.length + 1 + k - word.length = k + 1 := by omega
          rw [List.getElem?_append_right (by omega), shift, List.getElem?_cons_succ, tail]
          constructor
          next => exact fun ends => Or.inr ⟨k, rfl, ends⟩
          next =>
            rintro (first | ⟨k', same, ends⟩)
            next => omega
            next =>
              obtain rfl : k = k' := by omega
              exact ends

omit [DecidableEq α] in
/-- A separated text that is cut is separated unless a separator is the last that is left. -/
theorem Separated.take_iff {text : List α} (separated : Separated sep text) (n : Nat) :
    Separated sep (text.take (n + 1)) ↔ text[n]? ≠ some sep := by
  have last : (text.take (n + 1)).getLast? = some sep ↔ text[n]? = some sep := by
    rw [List.getLast?_take, if_neg (Nat.succ_ne_zero n), Nat.add_sub_cancel]
    cases found : text[n]? with
    | none => simpa using separated.last
    | some c => simp
  constructor
  next => exact fun cut => mt last.mpr cut.last
  next =>
    intro other
    constructor
    next => exact fun found => separated.apart (found.trans (List.take_prefix _ text).isInfix)
    next =>
      rw [List.head?_take, if_neg (Nat.succ_ne_zero n)]
      exact separated.first
    next => exact mt last.mp other

end Separators

end StreamingPortal.Words
