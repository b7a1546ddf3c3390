import Mathlib.Data.List.Basic
import Mathlib.Data.List.Induction
import Mathlib.Data.List.TakeWhile
import SymbolCache.Text.Cut

/-!
# Trimming

What trimming does to a text with white space around it, and to one that continues another.
-/

set_option autoImplicit false

namespace SymbolCache.Text

def Blank (text : List Char) : Prop :=
  ∀ character ∈ text, isWhiteSpace character = true

def Trimmed (text : List Char) : Prop :=
  (∀ character ∈ text.head?, isWhiteSpace character = false) ∧
    ∀ character ∈ text.getLast?, isWhiteSpace character = false

-- The instances go through the elements of a text: to decide a statement about all characters of a
-- text, the libraries may go through all characters there are.
instance (text : List Char) : Decidable (Blank text) :=
  decidable_of_iff (text.all isWhiteSpace = true) List.all_eq_true

private theorem forall_mem_iff_all {text : Option Char} :
    (text.all fun character => !isWhiteSpace character) = true ↔
      ∀ character ∈ text, isWhiteSpace character = false := by
  cases text <;> simp

instance (text : List Char) : Decidable (Trimmed text) :=
  decidable_of_iff _ (and_congr forall_mem_iff_all forall_mem_iff_all)

variable {text gap : List Char} {character : Char}

theorem Blank.not_mem (blank : Blank gap) (solid : isWhiteSpace character = false) :
    character ∉ gap :=
  fun member => Bool.false_ne_true (solid.symm.trans (blank character member))

/-! ## White space and words -/

/-- What holds of each code point of some ranges holds of each one that is found in them. -/
theorem forall_of_inRanges {ranges : List (Nat × Nat)} (holds : Nat → Bool)
    (all : (ranges.all fun range =>
      (List.range' range.1 (range.2 + 1 - range.1)).all holds) = true) {codePoint : Nat}
    (inside : inRanges ranges codePoint = true) : holds codePoint = true := by
  obtain ⟨range, member, between⟩ := List.any_eq_true.mp inside
  simp only [Bool.and_eq_true, decide_eq_true_eq] at between
  refine List.all_eq_true.mp (List.all_eq_true.mp all range member) codePoint ?_
  rw [List.mem_range'_1]
  omega

/-- A code point of some ranges is in no table whose ranges overlap none of them. -/
theorem inRanges_eq_false_of_apart {ranges table : List (Nat × Nat)}
    {tables : List (List (Nat × Nat))} {codePoint : Nat}
    (apart : (tables.all fun table => table.all fun other => ranges.all fun range =>
      range.2.blt other.1 || other.2.blt range.1) = true)
    (inside : inRanges ranges codePoint = true) (listed : table ∈ tables) :
    inRanges table codePoint = false := by
  obtain ⟨range, member, between⟩ := List.any_eq_true.mp inside
  refine List.any_eq_false.mpr fun other otherMember within => ?_
  have disjoint := List.all_eq_true.mp
    (List.all_eq_true.mp (List.all_eq_true.mp apart table listed) other otherMember) range member
  simp only [Bool.and_eq_true, Bool.or_eq_true, decide_eq_true_eq, Nat.blt_eq]
    at between within disjoint
  omega

theorem isAsciiWord_of_isWhiteSpace (white : isWhiteSpace character = true) :
    isAsciiWord character = false := by
  have other : (!isAsciiWord (Char.ofNat character.toNat)) = true :=
    forall_of_inRanges (fun codePoint => !isAsciiWord (Char.ofNat codePoint)) (by decide) white
  rwa [Char.ofNat_toNat, Bool.not_eq_true'] at other

theorem isAsciiDigit_of_isWhiteSpace (white : isWhiteSpace character = true) :
    isAsciiDigit character = false := by
  have plain := isAsciiWord_of_isWhiteSpace white
  rw [isAsciiWord, isAsciiAlphanumeric, Bool.or_eq_false_iff, Bool.or_eq_false_iff] at plain
  exact plain.1.2

theorem inRanges_of_isWhiteSpace (white : isWhiteSpace character = true) {table : List (Nat × Nat)}
    (listed : table ∈ [alphabeticRanges, numericRanges, wordRanges]) :
    inRanges table character.toNat = false :=
  inRanges_eq_false_of_apart (by decide +kernel) white listed

theorem isWord_of_isWhiteSpace (white : isWhiteSpace character = true) :
    isWord character = false := by
  rw [isWord, isAsciiWord_of_isWhiteSpace white]
  split
  · rfl
  · exact inRanges_of_isWhiteSpace white (by simp)

theorem isAlphanumeric_of_isWhiteSpace (white : isWhiteSpace character = true) :
    isAlphanumeric character = false := by
  have plain := isAsciiWord_of_isWhiteSpace white
  rw [isAsciiWord, isAsciiAlphanumeric, Bool.or_eq_false_iff, Bool.or_eq_false_iff] at plain
  rw [isAlphanumeric, isAlphabetic, isNumeric, plain.1.1, plain.1.2, Bool.or_eq_false_iff]
  constructor
  · split
    · rfl
    · exact inRanges_of_isWhiteSpace white (by simp)
  · split
    · rfl
    · exact inRanges_of_isWhiteSpace white (by simp)

/-! ## The start -/

theorem trimStart_cons (solid : isWhiteSpace character = false) (rest : List Char) :
    trimStart (character :: rest) = character :: rest :=
  List.dropWhile_cons_of_neg (by simp [solid])

theorem trimStart_of_head (solid : ∀ character ∈ text.head?, isWhiteSpace character = false) :
    trimStart text = text := by
  cases text with
  | nil => rfl
  | cons first rest => exact trimStart_cons (solid first rfl) rest

theorem trimStart_append (blank : Blank gap) (text : List Char) :
    trimStart (gap ++ text) = trimStart text :=
  List.dropWhile_append_of_pos blank

theorem trimStart_eq_nil_iff : trimStart text = [] ↔ Blank text :=
  List.dropWhile_eq_nil_iff

private theorem solid_of_head_trimStart (text : List Char)
    (starts : (trimStart text).head? = some character) :
    isWhiteSpace character = false := by
  have solid := List.head?_dropWhile_not isWhiteSpace text
  rwa [← trimStart, starts] at solid

/-! ## The end -/

theorem trimEnd_append (text : List Char) (blank : Blank gap) :
    trimEnd (text ++ gap) = trimEnd text := by
  have reversed : ∀ character ∈ gap.reverse, isWhiteSpace character = true :=
    fun character member => blank character (List.mem_reverse.mp member)
  rw [trimEnd, trimEndWhere, List.reverse_append, List.dropWhile_append_of_pos reversed]
  rfl

theorem trimEndWhere_of_last {drops : Char → Bool}
    (kept : ∀ character ∈ text.getLast?, drops character = false) :
    trimEndWhere drops text = text := by
  rw [← List.head?_reverse] at kept
  rw [trimEndWhere]
  cases reversed : text.reverse with
  | nil => exact (List.reverse_eq_nil_iff.mp reversed).symm
  | cons last others =>
      rw [reversed] at kept
      rw [List.dropWhile_cons_of_neg (by simp [kept last rfl]), ← reversed, List.reverse_reverse]

theorem trimEndWhere_isPrefix (drops : Char → Bool) (text : List Char) :
    trimEndWhere drops text <+: text := by
  rw [trimEndWhere, ← List.reverse_suffix, List.reverse_reverse]
  exact List.dropWhile_suffix drops

theorem trimEnd_of_last (solid : ∀ character ∈ text.getLast?, isWhiteSpace character = false) :
    trimEnd text = text :=
  trimEndWhere_of_last solid

theorem trimEnd_append_of_last (before : List Char) (filled : text ≠ [])
    (solid : ∀ character ∈ text.getLast?, isWhiteSpace character = false) :
    trimEnd (before ++ text) = before ++ text := by
  apply trimEnd_of_last
  rwa [List.getLast?_append_of_ne_nil _ filled]

theorem trimEnd_append_cons (before : List Char) (solid : isWhiteSpace character = false)
    (after : List Char) :
    trimEnd (before ++ character :: after) = before ++ character :: trimEnd after := by
  have reversed : (before ++ character :: after).reverse =
      after.reverse ++ character :: before.reverse := by simp
  rw [trimEnd, trimEndWhere, reversed, List.dropWhile_append, trimEnd, trimEndWhere]
  cases after.reverse.dropWhile isWhiteSpace with
  | nil => simp [solid]
  | cons last others => simp

theorem trimEnd_append_right {before : List Char}
    (solid : ∀ character ∈ before.getLast?, isWhiteSpace character = false) (after : List Char) :
    trimEnd (before ++ after) = before ++ trimEnd after := by
  cases before using List.reverseRecOn with
  | nil => rfl
  | append_singleton front last =>
      rw [← List.append_cons, trimEnd_append_cons front (solid last List.getLast?_concat),
        ← List.append_cons]

theorem exists_trimEnd_append (text : List Char) :
    ∃ gap, Blank gap ∧ text = trimEnd text ++ gap := by
  refine ⟨(text.reverse.takeWhile isWhiteSpace).reverse, fun character member =>
    List.mem_takeWhile_imp (List.mem_reverse.mp member), ?_⟩
  rw [trimEnd, trimEndWhere, ← List.reverse_append, List.takeWhile_append_dropWhile,
    List.reverse_reverse]

private theorem solid_of_last_trimEnd (text : List Char)
    (ends : (trimEnd text).getLast? = some character) :
    isWhiteSpace character = false := by
  rw [trimEnd, trimEndWhere, List.getLast?_reverse] at ends
  exact solid_of_head_trimStart _ ends

theorem dropSuffix?_eq_some_iff {trailing before : List Char} :
    dropSuffix? trailing text = some before ↔ text = before ++ trailing := by
  rw [dropSuffix?, Option.map_eq_some_iff]
  constructor
  · rintro ⟨reversed, cut, rfl⟩
    have parts := congrArg List.reverse (dropPrefix?_eq_some_iff.mp cut)
    simpa using parts
  · rintro rfl
    exact ⟨before.reverse, dropPrefix?_eq_some_iff.mpr (List.reverse_append ..),
      List.reverse_reverse before⟩

/-! ## Both ends -/

theorem trim_of_ends (trimmed : Trimmed text) : trim text = text := by
  rw [trim, trimStart_of_head trimmed.1, trimEnd_of_last trimmed.2]

theorem trim_isInfix (text : List Char) : trim text <:+: text :=
  (trimEndWhere_isPrefix _ _).isInfix.trans (List.dropWhile_suffix _).isInfix

theorem trimmed_trim (text : List Char) : Trimmed (trim text) := by
  refine ⟨fun character starts => ?_, fun character ends => solid_of_last_trimEnd _ ends⟩
  obtain ⟨gap, -, parts⟩ := exists_trimEnd_append (trimStart text)
  refine solid_of_head_trimStart text ?_
  rw [parts, List.head?_append, ← trim, Option.mem_def.mp starts]
  rfl

theorem trim_append_cons (before : List Char) (solid : isWhiteSpace character = false)
    (after : List Char) :
    trim (before ++ character :: after) = trimStart before ++ character :: trimEnd after := by
  rw [trim, trimStart, List.dropWhile_append]
  cases left : before.dropWhile isWhiteSpace with
  | nil =>
      change trimEnd (trimStart (character :: after)) = _
      rw [trimStart_cons solid, trimStart, left]
      exact trimEnd_append_cons [] solid after
  | cons first others =>
      rw [if_neg (by simp), trimStart, left]
      exact trimEnd_append_cons _ solid after

/-- A text that is not white space has a character that is not. -/
theorem blank_or_split (text : List Char) :
    Blank text ∨ ∃ before character after, isWhiteSpace character = false ∧
      text = before ++ character :: after := by
  by_cases blank : Blank text
  · exact .inl blank
  · simp only [Blank, not_forall, Bool.not_eq_true] at blank
    obtain ⟨character, member, solid⟩ := blank
    obtain ⟨before, after, parts⟩ := List.append_of_mem member
    exact .inr ⟨before, character, after, solid, parts⟩

theorem trim_append (text : List Char) (blank : Blank gap) : trim (text ++ gap) = trim text := by
  rcases blank_or_split text with white | ⟨before, character, after, solid, rfl⟩
  · have whole : Blank (text ++ gap) := fun character member =>
      (List.mem_append.mp member).elim (white character) (blank character)
    rw [trim, trim, trimStart_eq_nil_iff.mpr white, trimStart_eq_nil_iff.mpr whole]
  · rw [List.append_assoc, List.cons_append, trim_append_cons before solid,
      trim_append_cons before solid, trimEnd_append after blank]

theorem trimStart_trimEnd (text : List Char) : trimStart (trimEnd text) = trim text := by
  obtain ⟨gap, blank, parts⟩ := exists_trimEnd_append text
  have whole : trim text = trim (trimEnd text) := by
    conv => lhs; rw [parts, trim_append _ blank]
  rw [whole, trim]
  refine (trimEnd_of_last fun character ends => ?_).symm
  obtain ⟨leading, rest⟩ : trimStart (trimEnd text) <:+ trimEnd text := List.dropWhile_suffix _
  refine solid_of_last_trimEnd text ?_
  rw [← rest, List.getLast?_append, Option.mem_def.mp ends]
  rfl

/-- White space on both sides of a text is what trimming takes off. -/
theorem trim_between {before after : List Char} (blank : Blank before) (trimmed : Trimmed text)
    (blank' : Blank after) : trim (before ++ text ++ after) = text := by
  rw [trim_append _ blank', trim, trimStart_append blank, ← trim, trim_of_ends trimmed]

theorem exists_between_trim (text : List Char) :
    ∃ before after, Blank before ∧ Blank after ∧ text = before ++ trim text ++ after := by
  obtain ⟨after, blank, parts⟩ := exists_trimEnd_append (trimStart text)
  refine ⟨text.takeWhile isWhiteSpace, after, fun _ member => List.mem_takeWhile_imp member, blank,
    ?_⟩
  rw [trim, List.append_assoc, ← parts, trimStart, List.takeWhile_append_dropWhile]

theorem trim_eq_nil_iff : trim text = [] ↔ Blank text := by
  constructor
  · intro empty
    rcases blank_or_split text with blank | ⟨before, character, after, solid, rfl⟩
    · exact blank
    · rw [trim_append_cons before solid] at empty
      exact absurd empty (by simp)
  · intro blank
    rw [trim, trimStart_eq_nil_iff.mpr blank]
    rfl

end SymbolCache.Text
