import Mathlib.Data.List.Basic
import Mathlib.Data.List.TakeWhile
import SymbolCache.Package

/-!
# Parts of texts

What a text starts with, what comes before and after its first separator, and the last element of
an import path. Texts in ascending order that start alike follow one another, so that a cut at
either end picks all of them out.
-/

set_option autoImplicit false

namespace SymbolCache

namespace Text

theorem startsWith_iff {leading text : String} :
    startsWith leading text = true ↔ leading.toList <+: text.toList :=
  List.isPrefixOf_iff_prefix

/-! ## The first separator -/

theorem splitOnce_of_not_mem {separator : Char} {text : List Char} (absent : separator ∉ text) :
    splitOnce separator text = none := by
  have others : text.dropWhile (· != separator) = [] := by
    rw [List.dropWhile_eq_nil_iff]
    intro character member
    rw [bne_iff_ne]
    exact ne_of_mem_of_not_mem member absent
  rw [splitOnce, others]

theorem splitOnce_append {separator : Char} {before : List Char} (absent : separator ∉ before)
    (after : List Char) :
    splitOnce separator (before ++ separator :: after) = some (before, after) := by
  have others : ∀ character ∈ before, (character != separator) = true := by
    intro character member
    rw [bne_iff_ne]
    exact ne_of_mem_of_not_mem member absent
  rw [splitOnce, List.dropWhile_append_of_pos others, List.takeWhile_append_of_pos others]
  simp

/-! ## The last piece -/

theorem splitWhere_of_none {separates : Char → Bool} {text : List Char}
    (none : ∀ character ∈ text, separates character = false) :
    splitWhere separates text = [text] := by
  induction text with
  | nil => rfl
  | cons character text ih =>
      obtain ⟨first, others⟩ := List.forall_mem_cons.mp none
      simp [splitWhere, ih others, first]

theorem splitWhere_append {separates : Char → Bool} {separator : Char}
    (isSeparator : separates separator = true) (before after : List Char) :
    splitWhere separates (before ++ separator :: after) =
      splitWhere separates before ++ splitWhere separates after := by
  induction before with
  | nil =>
      obtain ⟨piece, pieces, split⟩ :=
        List.exists_cons_of_ne_nil (splitWhere_ne_nil separates after)
      simp [splitWhere, split, isSeparator]
  | cons character before ih =>
      obtain ⟨piece, pieces, split⟩ :=
        List.exists_cons_of_ne_nil (splitWhere_ne_nil separates before)
      rw [List.cons_append, splitWhere, ih, splitWhere, split, List.cons_append]
      dsimp only
      split <;> rfl

private theorem getLast?_splitWhere_append {separates : Char → Bool} {separator : Char}
    (isSeparator : separates separator = true) (before : List Char) {piece : List Char}
    (none : ∀ character ∈ piece, separates character = false) :
    (splitWhere separates (before ++ separator :: piece)).getLast? = some piece := by
  rw [splitWhere_append isSeparator, splitWhere_of_none none, List.getLast?_concat]

/-- Every text ends in a piece without separators, which is all of it or follows a separator. -/
theorem exists_lastPiece (separates : Char → Bool) (text : List Char) :
    ∃ piece, (∀ character ∈ piece, separates character = false) ∧
      (text = piece ∨ ∃ before separator, separates separator = true ∧
        text = before ++ separator :: piece) := by
  induction text with
  | nil => exact ⟨[], by simp, .inl rfl⟩
  | cons first text ih =>
      obtain ⟨piece, none, whole | ⟨before, separator, isSeparator, parts⟩⟩ := ih
      · cases kind : separates first with
        | true => exact ⟨piece, none, .inr ⟨[], first, kind, by rw [whole, List.nil_append]⟩⟩
        | false =>
            exact ⟨first :: piece, List.forall_mem_cons.mpr ⟨kind, none⟩, .inl (by rw [whole])⟩
      · exact ⟨piece, none, .inr ⟨first :: before, separator, isSeparator, by
          rw [parts, List.cons_append]⟩⟩

private theorem getLast?_splitWhere_eq_some_iff {separates : Char → Bool} {text piece : List Char} :
    (splitWhere separates text).getLast? = some piece ↔
      (∀ character ∈ piece, separates character = false) ∧
        (text = piece ∨ ∃ before separator, separates separator = true ∧
          text = before ++ separator :: piece) := by
  have forward : ∀ {piece : List Char}, (∀ character ∈ piece, separates character = false) →
      (text = piece ∨ ∃ before separator, separates separator = true ∧
        text = before ++ separator :: piece) →
      (splitWhere separates text).getLast? = some piece := by
    rintro piece none (rfl | ⟨before, separator, isSeparator, rfl⟩)
    · rw [splitWhere_of_none none, List.getLast?_singleton]
    · exact getLast?_splitWhere_append isSeparator before none
  constructor
  · intro last
    obtain ⟨other, none, parts⟩ := exists_lastPiece separates text
    obtain rfl : other = piece := Option.some.inj ((forward none parts).symm.trans last)
    exact ⟨none, parts⟩
  · exact fun both => forward both.1 both.2

theorem split_of_not_mem {separator : Char} {text : List Char} (absent : separator ∉ text) :
    split separator text = [text] :=
  splitWhere_of_none fun _ member => beq_eq_false_iff_ne.mpr (ne_of_mem_of_not_mem member absent)

theorem split_ne_nil (separator : Char) (text : List Char) : split separator text ≠ [] :=
  splitWhere_ne_nil _ text

theorem getLast?_split_eq_some_iff {separator : Char} {text piece : List Char} :
    (split separator text).getLast? = some piece ↔
      separator ∉ piece ∧ (text = piece ∨ ∃ before, text = before ++ separator :: piece) := by
  rw [split, getLast?_splitWhere_eq_some_iff]
  refine and_congr ?_ (or_congr_right (exists_congr fun before => ?_))
  · constructor
    · intro none member
      simpa using none separator member
    · intro absent character member
      exact beq_eq_false_iff_ne.mpr (ne_of_mem_of_not_mem member absent)
  · constructor
    · rintro ⟨found, isSeparator, parts⟩
      obtain rfl := eq_of_beq isSeparator
      exact parts
    · intro parts
      exact ⟨separator, beq_self_eq_true separator, parts⟩

theorem split_append (separator : Char) (before after : List Char) :
    split separator (before ++ separator :: after) =
      split separator before ++ split separator after := by
  unfold split
  apply splitWhere_append
  exact beq_self_eq_true separator

theorem dropLast_split_append (separator : Char) (before after : List Char) :
    (split separator (before ++ separator :: after)).dropLast =
      split separator before ++ (split separator after).dropLast := by
  rw [split_append, List.dropLast_append_of_ne_nil (split_ne_nil separator after)]

/-- The pieces but the last one are those that a separator follows. -/
theorem mem_dropLast_split_iff {separator : Char} {text piece : List Char} :
    piece ∈ (split separator text).dropLast ↔ separator ∉ piece ∧
      ((∃ after, text = piece ++ separator :: after) ∨
        ∃ before after, text = before ++ separator :: (piece ++ separator :: after)) := by
  constructor
  · intro member
    induction size : text.length using Nat.strong_induction_on generalizing text with
    | h bound ih =>
        by_cases more : separator ∈ text
        case neg =>
          rw [split_of_not_mem more] at member
          exact nomatch member
        case pos =>
          obtain ⟨first, rest, rfl, absent⟩ := List.eq_append_cons_of_mem more
          rw [dropLast_split_append, split_of_not_mem absent, List.singleton_append,
            List.mem_cons] at member
          rcases member with rfl | member
          · exact ⟨absent, .inl ⟨rest, rfl⟩⟩
          · have shorter : rest.length < bound := by
              rw [← size, List.length_append, List.length_cons]
              omega
            obtain ⟨solid, ⟨after, rfl⟩ | ⟨before, after, rfl⟩⟩ := ih rest.length shorter member rfl
            · exact ⟨solid, .inr ⟨first, after, rfl⟩⟩
            · exact ⟨solid, .inr ⟨first ++ separator :: before, after, by simp⟩⟩
  · rintro ⟨solid, ⟨after, rfl⟩ | ⟨before, after, rfl⟩⟩
    · rw [dropLast_split_append, split_of_not_mem solid]
      exact List.mem_cons_self
    · rw [dropLast_split_append, dropLast_split_append, split_of_not_mem solid]
      exact List.mem_append_right _ List.mem_cons_self

theorem mem_split_iff {separator : Char} {text piece : List Char} :
    piece ∈ split separator text ↔ piece ∈ (split separator text).dropLast ∨
      separator ∉ piece ∧ (text = piece ∨ ∃ before, text = before ++ separator :: piece) := by
  have pieces := List.dropLast_append_getLast (split_ne_nil separator text)
  rw [← getLast?_split_eq_some_iff, List.getLast?_eq_some_getLast (split_ne_nil separator text),
    Option.some_inj, eq_comm]
  nth_rewrite 1 [← pieces]
  rw [List.mem_append, List.mem_singleton]

/-- What is written behind a text, without separators, comes to its last piece. -/
theorem exists_split_append (separator : Char) (text : List Char) :
    ∃ leading last, ∀ suffix, separator ∉ suffix →
      split separator (text ++ suffix) = leading ++ [last ++ suffix] := by
  obtain ⟨last, none, parts⟩ := exists_lastPiece (· == separator) text
  have absent : separator ∉ last := fun member => absurd (none separator member) (by simp)
  have longer : ∀ suffix, separator ∉ suffix → separator ∉ last ++ suffix :=
    fun suffix other member => (List.mem_append.mp member).elim absent other
  rcases parts with rfl | ⟨before, found, isSeparator, rfl⟩
  · exact ⟨[], text, fun suffix other => split_of_not_mem (longer suffix other)⟩
  · obtain rfl := eq_of_beq isSeparator
    refine ⟨split found before, last, fun suffix other => ?_⟩
    rw [List.append_assoc, List.cons_append, split_append, split_of_not_mem (longer suffix other)]

/-- A line feed ends a line, whatever stands before it, and the lines after it follow. -/
theorem lines_append (before after : List Char) :
    lines (before ++ '\n' :: after) =
      (split '\n' before).map dropCarriageReturn ++ lines after := by
  have more : split '\n' after ≠ [] := split_ne_nil '\n' after
  rw [lines, lines, split_append, List.dropLast_append_of_ne_nil more,
    List.getLast?_append_of_ne_nil _ more, List.map_append, List.append_assoc]

/-! ## Texts in ascending order -/

/-- What comes between a text and a text that starts with it starts with it, too. -/
theorem isPrefix_of_between {leading first second : List Char} (atLeast : ¬ first < leading)
    (before : first < second) (starts : leading <+: second) : leading <+: first := by
  induction leading generalizing first second with
  | nil => exact List.nil_prefix
  | cons expected leading ih =>
      obtain ⟨rest, rfl⟩ := starts
      cases first with
      | nil => exact absurd (List.nil_lt_cons _ _) atLeast
      | cons character first =>
          rw [List.cons_append, List.cons_lt_cons_iff] at before
          rw [List.cons_lt_cons_iff, not_or, not_and] at atLeast
          obtain below | ⟨rfl, before⟩ := before
          · exact absurd below atLeast.1
          · exact (List.prefix_cons_inj _).mpr
              (ih (atLeast.2 rfl) before (List.prefix_append leading rest))

theorem startsWith_of_between {leading first second : String} (atLeast : ¬ first < leading)
    (before : first < second) (starts : startsWith leading second = true) :
    startsWith leading first = true :=
  startsWith_iff.mpr (isPrefix_of_between atLeast before (startsWith_iff.mp starts))

theorem not_lt_of_startsWith {leading text : String} (starts : startsWith leading text = true) :
    ¬ text < leading :=
  (startsWith_iff.mp starts).le

end Text

namespace ImportPath

def IsLastElement (name importPath : String) : Prop :=
  '/' ∉ name.toList ∧ (importPath = name ∨ '/' :: name.toList <:+ importPath.toList)

instance (name importPath : String) : Decidable (IsLastElement name importPath) := by
  unfold IsLastElement
  infer_instance

theorem endsIn_iff {name importPath : String} :
    endsIn name importPath = true ↔ IsLastElement name importPath := by
  have element : endsIn name importPath = true ↔
      (Text.split '/' importPath.toList).getLast? = some name.toList := by
    rw [endsIn, lastElement, elements, beq_iff_eq]
    cases pieces : Text.split '/' importPath.toList with
    | nil => exact absurd pieces (Text.split_ne_nil _ _)
    | cons piece pieces => simp [List.getLast?_cons]
  rw [element, Text.getLast?_split_eq_some_iff, String.toList_inj, IsLastElement]
  refine and_congr_right fun _ => or_congr_right (exists_congr fun before => ?_)
  exact eq_comm

end ImportPath

end SymbolCache
