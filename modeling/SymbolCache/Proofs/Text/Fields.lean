import Mathlib.Data.List.Basic
import SymbolCache.Proofs.Text.Parts
import SymbolCache.Proofs.Text.Trimming

/-!
# Fields

The words of a text, by what the text looks like: fields without white space, with white space
between any two of them and maybe around them all.
-/

set_option autoImplicit false

namespace SymbolCache.Text

/-- A text consists of fields. White space may stand in front of a field, and it ends one if the
text does not. -/
inductive HasFields : List Char → List (List Char) → Prop where
  | nil {gap : List Char} (blank : Blank gap) : HasFields gap []
  | cons {gap field rest : List Char} {fields : List (List Char)} (blank : Blank gap)
      (filled : field ≠ []) (solid : ∀ character ∈ field, isWhiteSpace character = false)
      (apart : ∀ character ∈ rest.head?, isWhiteSpace character = true)
      (others : HasFields rest fields) : HasFields (gap ++ (field ++ rest)) (field :: fields)

section

variable {gap field text : List Char} {fields : List (List Char)}

private theorem words_append {separator : Char} (blank : isWhiteSpace separator = true)
    (before after : List Char) :
    words (before ++ separator :: after) = words before ++ words after := by
  rw [words, splitWhere_append blank, List.filter_append]
  rfl

private theorem words_of_solid (filled : field ≠ [])
    (solid : ∀ character ∈ field, isWhiteSpace character = false) : words field = [field] := by
  rw [words, splitWhere_of_none solid]
  simp [filled]

theorem words_append_of_blank (blank : Blank gap) (text : List Char) :
    words (gap ++ text) = words text := by
  induction gap with
  | nil => rfl
  | cons character gap ih =>
      obtain ⟨first, others⟩ := List.forall_mem_cons.mp blank
      rw [List.cons_append, ← List.nil_append (character :: (gap ++ text)), words_append first,
        ih others]
      rfl

/-- A field that white space ends, or nothing, is the first word. -/
theorem words_append_of_solid (filled : field ≠ [])
    (solid : ∀ character ∈ field, isWhiteSpace character = false) {rest : List Char}
    (apart : ∀ character ∈ rest.head?, isWhiteSpace character = true) :
    words (field ++ rest) = field :: words rest := by
  cases rest with
  | nil =>
      rw [List.append_nil, words_of_solid filled solid]
      rfl
  | cons separator rest =>
      have blank := apart separator rfl
      have gap : Blank [separator] := List.forall_mem_singleton.mpr blank
      have behind : words (separator :: rest) = words rest := words_append_of_blank gap rest
      rw [words_append blank, words_of_solid filled solid, behind]
      rfl

private theorem HasFields.words_eq (split : HasFields text fields) : words text = fields := by
  induction split with
  | @nil gap blank =>
      have all := words_append_of_blank blank []
      rwa [List.append_nil] at all
  | cons blank filled solid apart _ ih =>
      rw [words_append_of_blank blank, words_append_of_solid filled solid apart, ih]

private theorem exists_span (holds : Char → Bool) (text : List Char) :
    ∃ front back, text = front ++ back ∧ (∀ character ∈ front, holds character = true) ∧
      ∀ character ∈ back.head?, holds character = false := by
  refine ⟨text.takeWhile holds, text.dropWhile holds, List.takeWhile_append_dropWhile.symm,
    fun character => List.mem_takeWhile_imp, fun character first => ?_⟩
  have stops := List.head?_dropWhile_not holds text
  rwa [Option.mem_def.mp first] at stops

private theorem exists_hasFields (text : List Char) : ∃ fields, HasFields text fields := by
  induction size : text.length using Nat.strong_induction_on generalizing text with
  | h bound ih =>
      obtain ⟨gap, body, rfl, blank, starts⟩ := exists_span isWhiteSpace text
      obtain ⟨field, rest, rfl, solid, apart⟩ :=
        exists_span (fun character => !isWhiteSpace character) body
      simp only [Bool.not_eq_true', Bool.not_eq_false'] at solid apart
      cases field with
      | nil =>
          -- White space would have to follow the white space in front.
          cases rest with
          | nil => exact ⟨[], .nil ((List.append_nil gap).symm ▸ blank)⟩
          | cons first rest => exact absurd (apart first rfl) (by simpa using starts first rfl)
      | cons first field =>
          have shorter : rest.length < bound := by
            rw [← size, List.length_append, List.length_append, List.length_cons]
            omega
          obtain ⟨fields, others⟩ := ih rest.length shorter rest rfl
          exact ⟨_, .cons blank (List.cons_ne_nil _ _) solid apart others⟩

theorem words_eq_iff : words text = fields ↔ HasFields text fields := by
  constructor
  · rintro rfl
    obtain ⟨fields, split⟩ := exists_hasFields text
    rwa [split.words_eq]
  · exact HasFields.words_eq

end

end SymbolCache.Text
