import Mathlib.Data.List.Basic
import Mathlib.Data.List.TakeWhile
import SymbolCache.Proofs.Text.Parts
import SymbolCache.Query

/-!
# The identifier at the end of a line

What is being typed is the longest end of the line that has the form of an identifier: a selector,
and a qualifier with a dot in front of it if there is one. So what is looked up has one dot at most,
and something stands before it.
-/

set_option autoImplicit false

namespace SymbolCache.Cursor

open Text (isAsciiWord)

/-! ## The form of an identifier -/

def IsAsciiWord (text : List Char) : Prop :=
  ∀ character ∈ text, isAsciiWord character = true

inductive IsIdentifier : List Char → Prop where
  | plain {selector : List Char} : IsAsciiWord selector → IsIdentifier selector
  | qualified {qualifier selector : List Char} :
      IsAsciiWord qualifier → qualifier ≠ [] → IsAsciiWord selector →
      IsIdentifier (qualifier ++ '.' :: selector)

theorem IsAsciiWord.reverse {text : List Char} (word : IsAsciiWord text) :
    IsAsciiWord text.reverse :=
  fun character member => word character (List.mem_reverse.mp member)

private theorem isAsciiWord_takeWhile (text : List Char) :
    IsAsciiWord (text.takeWhile isAsciiWord) :=
  fun _ member => List.mem_takeWhile_imp member

theorem IsAsciiWord.undotted {text : List Char} (word : IsAsciiWord text) : '.' ∉ text :=
  fun member => absurd (word '.' member) (by decide)

/-! ## Reading backwards -/

/-- What is read backwards starts with all of the word at the end. -/
theorem takeWhile_isPrefix_identifierBackwards (reversed : List Char) :
    reversed.takeWhile isAsciiWord <+: identifierBackwards reversed := by
  unfold identifierBackwards
  split
  · split
    · exact List.prefix_rfl
    · exact List.prefix_append _ _
  · exact List.prefix_rfl

private theorem identifierBackwards_isPrefix (reversed : List Char) :
    identifierBackwards reversed <+: reversed := by
  unfold identifierBackwards
  split
  case h_1 before rest =>
    split
    · exact List.takeWhile_prefix _
    · have parts := List.takeWhile_append_dropWhile (p := isAsciiWord) (l := reversed)
      rw [rest] at parts
      have within : '.' :: before.takeWhile isAsciiWord <+: '.' :: before :=
        (List.prefix_cons_inj '.').mpr (List.takeWhile_prefix _)
      conv => rhs; rw [← parts]
      exact (List.prefix_append_right_inj _).mpr within
  case h_2 => exact List.takeWhile_prefix _

private theorem isIdentifier_identifierBackwards (reversed : List Char) :
    IsIdentifier (identifierBackwards reversed).reverse := by
  have selector := (isAsciiWord_takeWhile reversed).reverse
  unfold identifierBackwards
  split
  case h_1 before rest =>
    split
    case h_1 => exact .plain selector
    case h_2 qualifier filled =>
      rw [List.reverse_append, List.reverse_cons, List.append_assoc, List.singleton_append]
      exact .qualified (isAsciiWord_takeWhile before).reverse (mt List.reverse_eq_nil_iff.mp filled)
        selector
  case h_2 => exact .plain selector

/-- Before a dot, a word is read as well. -/
theorem identifierBackwards_append_dot {selector : List Char} (word : IsAsciiWord selector)
    (before : List Char) :
    identifierBackwards (selector ++ '.' :: before) =
      if before.takeWhile isAsciiWord = [] then selector
      else selector ++ '.' :: before.takeWhile isAsciiWord := by
  have dot : ¬ isAsciiWord '.' = true := by decide
  simp only [identifierBackwards, List.takeWhile_append_of_pos word,
    List.dropWhile_append_of_pos word, List.takeWhile_cons_of_neg dot,
    List.dropWhile_cons_of_neg dot, List.append_nil]
  split
  case h_1 empty => rw [if_pos empty]
  case h_2 filled => rw [if_neg filled]

/-- Whatever has the form of an identifier at the end of a line is a part of what is read. -/
theorem IsIdentifier.isPrefix {identifier : List Char} (form : IsIdentifier identifier)
    (rest : List Char) :
    identifier.reverse <+: identifierBackwards (identifier.reverse ++ rest) := by
  cases form with
  | plain word =>
      have longer := takeWhile_isPrefix_identifierBackwards (identifier.reverse ++ rest)
      rw [List.takeWhile_append_of_pos word.reverse] at longer
      exact (List.prefix_append _ _).trans longer
  | @qualified qualifier selector word filled word' =>
      have parts : (qualifier ++ '.' :: selector).reverse =
          selector.reverse ++ '.' :: qualifier.reverse := by simp
      have more : (qualifier.reverse ++ rest).takeWhile isAsciiWord =
          qualifier.reverse ++ rest.takeWhile isAsciiWord :=
        List.takeWhile_append_of_pos word.reverse
      rw [parts, List.append_assoc, List.cons_append, identifierBackwards_append_dot word'.reverse,
        more, if_neg (by simp [filled])]
      exact ⟨rest.takeWhile isAsciiWord, by rw [List.append_assoc, List.cons_append]⟩

/-! ## The longest end -/

/-- The longest end of a line that has the form of an identifier. -/
structure IsLongestEnd (line identifier : String) : Prop where
  ends : identifier.toList <:+ line.toList
  form : IsIdentifier identifier.toList
  longest : ∀ other, other <:+ line.toList → IsIdentifier other →
    other.length ≤ identifier.toList.length

theorem IsLongestEnd.unique {line left right : String} (isEnd : IsLongestEnd line left)
    (isEnd' : IsLongestEnd line right) : left = right := by
  apply String.toList_injective
  refine (List.suffix_of_suffix_length_le isEnd.ends isEnd'.ends ?_).eq_of_length_le ?_
  · exact isEnd'.longest _ isEnd.ends isEnd.form
  · exact isEnd.longest _ isEnd'.ends isEnd'.form

/-- What is read at the end of a line, also if that is nothing. -/
def lineEnd (line : String) : String :=
  String.ofList (identifierBackwards line.toList.reverse).reverse

theorem isLongestEnd_lineEnd (line : String) : IsLongestEnd line (lineEnd line) := by
  have whole : (lineEnd line).toList = (identifierBackwards line.toList.reverse).reverse :=
    String.toList_ofList
  refine ⟨?_, ?_, ?_⟩
  · rw [whole, ← List.reverse_prefix, List.reverse_reverse]
    exact identifierBackwards_isPrefix _
  · rw [whole]
    exact isIdentifier_identifierBackwards _
  · rintro other ⟨before, parts⟩ form
    have within := form.isPrefix before.reverse
    rw [← List.reverse_append, parts] at within
    rw [whole, List.length_reverse, ← List.length_reverse]
    exact within.length_le

private theorem identifier?_eq (line : String) :
    identifier? line = if lineEnd line = "" then none else some (lineEnd line) := by
  unfold identifier? lineEnd
  split
  case h_1 nothing => simp [nothing]
  case h_2 filled =>
    rw [if_neg]
    simpa using filled

theorem identifier?_eq_some_iff {line identifier : String} :
    identifier? line = some identifier ↔ identifier ≠ "" ∧ IsLongestEnd line identifier := by
  rw [identifier?_eq]
  constructor
  · intro typed
    split at typed
    case isTrue => exact nomatch typed
    case isFalse filled =>
      obtain rfl := Option.some.inj typed
      exact ⟨filled, isLongestEnd_lineEnd line⟩
  · rintro ⟨filled, isEnd⟩
    obtain rfl := isEnd.unique (isLongestEnd_lineEnd line)
    rw [if_neg filled]

private theorem identifier?_eq_none_iff {line : String} :
    identifier? line = none ↔ IsLongestEnd line "" := by
  rw [identifier?_eq]
  constructor
  · intro nothing
    split at nothing
    case isTrue empty => exact empty ▸ isLongestEnd_lineEnd line
    case isFalse => exact nomatch nothing
  · intro isEnd
    rw [if_pos ((isLongestEnd_lineEnd line).unique isEnd)]

/-- A character of a word that is typed behind an identifier is a part of it. -/
theorem identifier?_push {line identifier : String} (typed : identifier? line = some identifier)
    {character : Char} (word : Text.isAsciiWord character = true) :
    identifier? (line.push character) = some (identifier.push character) := by
  have longer : identifierBackwards (line.push character).toList.reverse =
      character :: identifierBackwards line.toList.reverse := by
    simp only [identifierBackwards, String.toList_push, List.reverse_append, List.reverse_singleton,
      List.singleton_append, List.takeWhile_cons_of_pos word, List.dropWhile_cons_of_pos word]
    split
    · split <;> rfl
    · rfl
  unfold identifier? at typed ⊢
  rw [longer]
  split at typed
  · exact nomatch typed
  · cases typed
    simp

/-! ## What is looked up -/

/-- A query with one dot at most, which it is cut at if it has one, behind a qualifier that is not
empty. -/
structure WellQualified (query : String) : Prop where
  count_le : query.toList.count '.' ≤ 1
  qualified : '.' ∈ query.toList → ∃ qualifier selector, qualifier ≠ "" ∧
    splitQualified? query = some (qualifier, selector) ∧
      Index.Query.ofText query = ⟨some qualifier, selector⟩

private theorem IsIdentifier.wellQualified {query : String} (form : IsIdentifier query.toList) :
    WellQualified query := by
  generalize whole : query.toList = text at form
  cases form with
  | plain word =>
      refine ⟨?_, fun dotted => ?_⟩
      · rw [whole, List.count_eq_zero_of_not_mem word.undotted]
        exact Nat.zero_le 1
      · exact absurd (whole ▸ dotted) word.undotted
  | @qualified qualifier selector word filled word' =>
      have cut : Text.splitOnce '.' query.toList = some (qualifier, selector) := by
        rw [whole, Text.splitOnce_append word.undotted]
      refine ⟨?_, fun _ => ⟨String.ofList qualifier, String.ofList selector, ?_, ?_, ?_⟩⟩
      · rw [whole, List.count_append, List.count_cons_self,
          List.count_eq_zero_of_not_mem word.undotted, List.count_eq_zero_of_not_mem word'.undotted]
      · simpa using filled
      · rw [splitQualified?, cut]
        rfl
      · rw [Index.Query.ofText, cut]

private theorem exists_query_complete (store : Store) (limit : Nat) (document line : String) :
    ∃ query, (query = "" ∨ identifier? line = some query) ∧
      (store.complete limit document line = store.search limit query ∨
        store.complete limit document line = store.emptyAnswer query) := by
  unfold Store.complete
  split
  case isTrue => exact ⟨"", .inl rfl, .inr rfl⟩
  case isFalse =>
    cases typed : identifier? line with
    | none => exact ⟨"", .inl rfl, .inr rfl⟩
    | some identifier =>
        refine ⟨identifier, .inr rfl, ?_⟩
        dsimp only
        split
        · exact .inl rfl
        · split
          · exact .inl rfl
          · exact .inr rfl

/-- The identifier that is being typed is the longest end of the line that has the form of one, and
there is none exactly if that end is empty. A completion looks up nothing but such identifiers: they
have one dot at most and are cut there behind a qualifier that is not empty. -/
theorem identifier?_longest :
    (∀ line identifier : String,
        identifier? line = some identifier ↔ identifier ≠ "" ∧ IsLongestEnd line identifier) ∧
      (∀ line : String, identifier? line = none ↔ IsLongestEnd line "") ∧
      ∀ (store : Store) (limit : Nat) (document line : String), ∃ query, WellQualified query ∧
        (store.complete limit document line = store.search limit query ∨
          store.complete limit document line = store.emptyAnswer query) := by
  refine ⟨fun _ _ => identifier?_eq_some_iff, fun _ => identifier?_eq_none_iff, ?_⟩
  intro store limit document line
  obtain ⟨query, typed, answers⟩ := exists_query_complete store limit document line
  have form : IsIdentifier query.toList := by
    rcases typed with rfl | typed
    · exact .plain (List.forall_mem_nil _)
    · exact (identifier?_eq_some_iff.mp typed).2.form
  exact ⟨query, form.wellQualified, answers⟩

end SymbolCache.Cursor
