import Mathlib.Data.List.TakeWhile
import SymbolCache.Text.LowerCase

/-!
# Lower-casing the start of a text

What a character becomes depends on its neighbours only if it is a capital sigma. So the lower-case
form of the start of a text is the start of the lower-case form, unless the start ends in a sigma
that is final there and not in the whole text.
-/

set_option autoImplicit false

namespace SymbolCache.Text

/-! ## A text between others -/

/-- What a character becomes between two texts, the first of which is given nearest first. -/
def lowerAt (before : List Char) (character : Char) (after : List Char) : List Char :=
  if character == 'Σ' then
    [if startsCased before && !startsCased after then 'ς' else 'σ']
  else lowerCharacter character

def lowerAmid (before : List Char) : List Char → List Char → List Char
  | [], _ => []
  | character :: text, after =>
    lowerAt before character (text ++ after) ++ lowerAmid (character :: before) text after

private theorem lowerFrom_append (before text after : List Char) :
    lowerFrom before (text ++ after) =
      lowerAmid before text after ++ lowerFrom (text.reverse ++ before) after := by
  induction text generalizing before with
  | nil => rfl
  | cons character text ih =>
      rw [List.cons_append, lowerFrom, ih, lowerAmid, List.append_assoc, List.reverse_cons,
        List.append_assoc, List.singleton_append]
      rfl

private theorem lowerFrom_eq_lowerAmid (before text : List Char) :
    lowerFrom before text = lowerAmid before text [] := by
  have whole := lowerFrom_append before text []
  rwa [List.append_nil, lowerFrom, List.append_nil] at whole

theorem length_lowerAt (before : List Char) (character : Char) (first second : List Char) :
    (lowerAt before character first).length = (lowerAt before character second).length := by
  rw [lowerAt, lowerAt]
  split <;> rfl

private theorem length_lowerAmid (before text first second : List Char) :
    (lowerAmid before text first).length = (lowerAmid before text second).length := by
  induction text generalizing before with
  | nil => rfl
  | cons character text ih =>
      rw [lowerAmid, lowerAmid, List.length_append, List.length_append, ih,
        length_lowerAt before character (text ++ first) (text ++ second)]

/-! ## Final sigmas -/

def Ignorable (text : List Char) : Prop :=
  ∀ character ∈ text, isCaseIgnorable character = true

private theorem startsCased_append_of_ignorable {ignored : List Char}
    (ignorable : Ignorable ignored)
    (rest : List Char) : startsCased (ignored ++ rest) = startsCased rest := by
  rw [startsCased, List.dropWhile_append_of_pos ignorable]
  rfl

private theorem startsCased_of_ignorable {ignored : List Char} (ignorable : Ignorable ignored) :
    startsCased ignored = false := by
  rw [← List.append_nil ignored, startsCased_append_of_ignorable ignorable]
  rfl

private theorem startsCased_append_of_not_ignorable {text : List Char} (other : ¬ Ignorable text)
    (rest : List Char) : startsCased (text ++ rest) = startsCased text := by
  have kept : text.dropWhile isCaseIgnorable ≠ [] := by
    rwa [Ne, List.dropWhile_eq_nil_iff]
  rw [startsCased, startsCased, List.dropWhile_append]
  cases left : text.dropWhile isCaseIgnorable with
  | nil => exact absurd left kept
  | cons first others => rfl

/-- A text behind another one, given nearest first, ends in a capital sigma that is the last letter
of a word, case-ignorable characters aside. -/
def EndsInSigma (before text : List Char) : Prop :=
  ∃ word ignored, text = word ++ 'Σ' :: ignored ∧ startsCased (word.reverse ++ before) = true ∧
    Ignorable ignored

private theorem not_endsInSigma_nil (before : List Char) : ¬ EndsInSigma before [] := by
  rintro ⟨word, ignored, parts, -⟩
  exact absurd parts.symm (by simp)

private theorem endsInSigma_cons_iff {before text : List Char} {character : Char} :
    EndsInSigma before (character :: text) ↔
      (character = 'Σ' ∧ startsCased before = true ∧ Ignorable text) ∨
        EndsInSigma (character :: before) text := by
  constructor
  · rintro ⟨word, ignored, parts, cased, ignorable⟩
    cases word with
    | nil =>
        obtain ⟨rfl, rfl⟩ := List.cons.inj parts
        exact .inl ⟨rfl, cased, ignorable⟩
    | cons first word =>
        obtain ⟨rfl, rfl⟩ := List.cons.inj parts
        refine .inr ⟨word, ignored, rfl, ?_, ignorable⟩
        rwa [List.reverse_cons, List.append_assoc] at cased
  · rintro (⟨rfl, cased, ignorable⟩ | ⟨word, ignored, rfl, cased, ignorable⟩)
    · exact ⟨[], text, rfl, cased, ignorable⟩
    · refine ⟨character :: word, ignored, rfl, ?_, ignorable⟩
      rwa [List.reverse_cons, List.append_assoc]

private theorem lowerAt_eq_iff (before : List Char) (character : Char) (text after : List Char) :
    lowerAt before character text = lowerAt before character (text ++ after) ↔
      ¬ (character = 'Σ' ∧ startsCased before = true ∧ Ignorable text ∧
        startsCased after = true) := by
  rw [lowerAt, lowerAt]
  by_cases sigma : character = 'Σ'
  · by_cases ignorable : Ignorable text
    · rw [startsCased_append_of_ignorable ignorable, startsCased_of_ignorable ignorable]
      cases startsCased before <;> cases startsCased after <;> simp [sigma, ignorable]
    · rw [startsCased_append_of_not_ignorable ignorable]
      simp [ignorable]
  · simp [sigma]

/-- What follows a text changes what it becomes exactly if the text ends in a final sigma and what
follows goes on with the word. -/
theorem lowerAmid_eq_iff (before text after : List Char) :
    lowerAmid before text [] = lowerAmid before text after ↔
      ¬ (EndsInSigma before text ∧ startsCased after = true) := by
  induction text generalizing before with
  | nil => exact iff_of_true rfl fun ends => not_endsInSigma_nil before ends.1
  | cons character text ih =>
      rw [lowerAmid, lowerAmid, List.append_nil, endsInSigma_cons_iff]
      have here := lowerAt_eq_iff before character text after
      have later := ih (character :: before)
      constructor
      · rintro same ⟨⟨sigma, cased, ignorable⟩ | ends, goesOn⟩
        · exact here.mp (List.append_inj same (length_lowerAt ..)).1
            ⟨sigma, cased, ignorable, goesOn⟩
        · exact later.mp (List.append_inj same (length_lowerAt ..)).2 ⟨ends, goesOn⟩
      · intro kept
        rw [here.mpr fun ⟨sigma, cased, ignorable, goesOn⟩ =>
            kept ⟨.inl ⟨sigma, cased, ignorable⟩, goesOn⟩,
          later.mpr fun ⟨ends, goesOn⟩ => kept ⟨.inr ends, goesOn⟩]

/-! ## Prefixes -/

private theorem prefix_append_iff {first second : List Char} (same : first.length = second.length)
    (rest : List Char) : first <+: second ++ rest ↔ first = second := by
  constructor
  · intro starts
    have within := List.prefix_of_prefix_length_le starts (List.prefix_append second rest) same.le
    exact within.eq_of_length same
  · rintro rfl
    exact List.prefix_append first rest

/-- A name starts with a text that ends in a final sigma, but goes on with the word, so that the
sigma is not final in the name. -/
def BreaksSigma (leading name : List Char) : Prop :=
  ∃ rest, name = leading ++ rest ∧ EndsInSigma [] leading ∧ startsCased rest = true

/-- The lower-case form of a name starts with that of each text that the name starts with, unless a
sigma tells them apart. -/
theorem breaksSigma_iff {leading name : List Char} :
    BreaksSigma leading name ↔
      leading <+: name ∧ ¬ lowerFrom [] leading <+: lowerFrom [] name := by
  have starts : ∀ rest, lowerFrom [] leading <+: lowerFrom [] (leading ++ rest) ↔
      ¬ (EndsInSigma [] leading ∧ startsCased rest = true) := by
    intro rest
    rw [lowerFrom_append, lowerFrom_eq_lowerAmid,
      prefix_append_iff (length_lowerAmid [] leading [] rest), lowerAmid_eq_iff]
  constructor
  · rintro ⟨rest, rfl, broken⟩
    exact ⟨List.prefix_append leading rest, fun same => (starts rest).mp same broken⟩
  · rintro ⟨⟨rest, rfl⟩, differs⟩
    exact ⟨rest, rfl, not_not.mp fun whole => differs ((starts rest).mpr whole)⟩

theorem sigma_mem_of_breaksSigma {leading name : List Char} (broken : BreaksSigma leading name) :
    'Σ' ∈ leading := by
  obtain ⟨-, -, ⟨word, ignored, rfl, -⟩, -⟩ := broken
  exact List.mem_append_right word List.mem_cons_self

instance (leading name : List Char) : Decidable (BreaksSigma leading name) :=
  decidable_of_iff' _ breaksSigma_iff

end SymbolCache.Text
