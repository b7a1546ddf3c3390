import Mathlib.Data.List.Infix
import Mathlib.Tactic.Common
import SymbolCache.Disk.Volume
import SymbolCache.Proofs.Text.Parts

/-!
# Paths and those above them

A path is made up again from its elements, and the path above it has all of them but the last one.
-/

set_option autoImplicit false

namespace SymbolCache.Path

def solid (pieces : List (List Char)) : List String :=
  (pieces.filter fun piece => !isVoid piece).map String.ofList

theorem elements_eq (path : String) : elements path = solid (Text.split '/' path.toList) := by
  have same : ∀ piece : List Char, (!piece.isEmpty && piece != ['.']) = !isVoid piece := by
    intro piece
    rw [isVoid, Bool.not_or, bne]
  simp only [elements, solid, same]

theorem solid_append (pieces others : List (List Char)) :
    solid (pieces ++ others) = solid pieces ++ solid others := by
  rw [solid, List.filter_append, List.map_append]
  rfl

private theorem solid_of_void {pieces : List (List Char)}
    (void : ∀ piece ∈ pieces, isVoid piece = true) :
    solid pieces = [] := by
  rw [solid, List.map_eq_nil_iff, List.filter_eq_nil_iff]
  intro piece member
  rw [void piece member]
  decide

private theorem solid_reverse_dropWhile (pieces : List (List Char)) :
    solid (pieces.dropWhile isVoid).reverse = solid pieces.reverse := by
  have parts := List.takeWhile_append_dropWhile (p := isVoid) (l := pieces)
  nth_rewrite 2 [← parts]
  rw [List.reverse_append, solid_append]
  have void : solid (pieces.takeWhile isVoid).reverse = [] :=
    solid_of_void fun piece member => List.mem_takeWhile_imp (List.mem_reverse.mp member)
  rw [void, List.append_nil]

/-- The names in a path are those before the last piece, and something for that one. -/
theorem exists_names (path : String) :
    ∃ leading last, Text.split '/' path.toList = leading ++ [last] ∧
      names path = solid leading ++ [if isVoid last then "." else String.ofList last] := by
  obtain ⟨leading, last, pieces⟩ :=
    (List.eq_nil_or_concat (Text.split '/' path.toList)).resolve_left (Text.split_ne_nil _ _)
  rw [List.concat_eq_append] at pieces
  refine ⟨leading, last, pieces, ?_⟩
  rw [names, elements_eq, endsOpen, pieces, List.getLast?_concat, Option.any_some, solid_append,
    List.append_assoc]
  cases void : isVoid last <;> simp [solid, void]

theorem names_ne_nil (path : String) : names path ≠ [] := by
  obtain ⟨leading, last, -, same⟩ := exists_names path
  rw [same]
  exact List.append_ne_nil_of_right_ne_nil _ (List.cons_ne_nil _ _)

/-! ## Paths from their elements -/

theorem intercalate_split (text : List Char) :
    List.intercalate ['/'] (Text.split '/' text) = text := by
  induction text with
  | nil => rfl
  | cons character text ih =>
      obtain ⟨piece, pieces, split⟩ := List.exists_cons_of_ne_nil
        (Text.splitWhere_ne_nil (· == '/') text)
      rw [Text.split, split] at ih
      rw [Text.split, Text.splitWhere, split]
      dsimp only
      split
      case isTrue slash =>
        obtain rfl := eq_of_beq slash
        rw [List.intercalate_cons_cons, ih]
        rfl
      case isFalse =>
        cases pieces with
        | nil =>
            rw [List.intercalate_singleton] at ih ⊢
            rw [ih]
        | cons next pieces =>
            rw [List.intercalate_cons_cons] at ih ⊢
            rw [List.cons_append, List.cons_append, ih]

private theorem split_intercalate {pieces : List (List Char)} (filled : pieces ≠ [])
    (whole : ∀ piece ∈ pieces, '/' ∉ piece) :
    Text.split '/' (List.intercalate ['/'] pieces) = pieces := by
  induction pieces with
  | nil => exact absurd rfl filled
  | cons piece pieces ih =>
      obtain ⟨first, others⟩ := List.forall_mem_cons.mp whole
      cases pieces with
      | nil => rw [List.intercalate_singleton, Text.split_of_not_mem first]
      | cons next pieces =>
          rw [List.intercalate_cons_cons, List.append_assoc, List.singleton_append,
            Text.split_append, Text.split_of_not_mem first, ih (List.cons_ne_nil _ _) others]
          rfl

private theorem not_mem_of_mem_split {text piece : List Char}
    (member : piece ∈ Text.split '/' text) :
    '/' ∉ piece := by
  rcases Text.mem_split_iff.mp member with before | last
  · exact (Text.mem_dropLast_split_iff.mp before).1
  · exact last.1

/-- A path is made up again from its elements. -/
theorem ofReversed_split {path : String} {first : List Char} {rest : List (List Char)}
    (split : Text.split '/' path.toList = first :: rest) (filled : path ≠ "") :
    ofReversed first rest.reverse = path := by
  have whole := intercalate_split path.toList
  rw [split] at whole
  unfold ofReversed
  split
  case h_1 empty =>
    rw [List.reverse_eq_nil_iff] at empty
    rw [empty, List.intercalate_singleton] at whole
    exact absurd (String.toList_eq_nil_iff.mp whole.symm) filled
  case h_2 =>
    rw [List.reverse_reverse, whole, String.ofList_toList]

section

variable {first : List Char} {reversed : List (List Char)}

private theorem elements_ofReversed (whole : ∀ piece ∈ first :: reversed, '/' ∉ piece) :
    elements (ofReversed first reversed) = solid (first :: reversed.reverse) := by
  rw [elements_eq]
  unfold ofReversed
  split
  case h_1 => rfl
  case h_2 =>
    have pieces : ∀ piece ∈ first :: reversed.reverse, '/' ∉ piece := by
      simpa using whole
    rw [String.toList_ofList, split_intercalate (List.cons_ne_nil _ _) pieces]

private theorem isAbsolute_ofReversed (whole : '/' ∉ first) :
    isAbsolute (ofReversed first reversed) = first.isEmpty := by
  unfold ofReversed
  split
  case h_1 => rfl
  case h_2 other =>
    rw [isAbsolute, String.toList_ofList]
    cases first with
    | cons character rest =>
        have other : character ≠ '/' := fun same => whole (by simp [same])
        cases pieces : reversed.reverse with
        | nil => simp [other]
        | cons next pieces => simp [List.intercalate_cons_cons, other]
    | nil =>
        obtain ⟨next, pieces, parts⟩ : ∃ next pieces, reversed.reverse = next :: pieces :=
          List.exists_cons_of_ne_nil (by simpa using fun empty => other rfl empty)
        rw [parts, List.intercalate_cons_cons]
        rfl

end

/-! ## The path above -/

theorem elements_parent? {path parent : String} (above : parent? path = some parent) :
    isAbsolute parent = isAbsolute path ∧ elements parent = (elements path).dropLast := by
  obtain ⟨first, rest, pieces⟩ := List.exists_cons_of_ne_nil (Text.split_ne_nil '/' path.toList)
  have whole : ∀ piece ∈ first :: rest, '/' ∉ piece := fun piece member =>
    not_mem_of_mem_split (pieces ▸ member)
  obtain ⟨first_whole, rest_whole⟩ := List.forall_mem_cons.mp whole
  have filled : path ≠ "" := by
    rintro rfl
    cases above
  have absolute : isAbsolute path = first.isEmpty := by
    rw [← ofReversed_split pieces filled, isAbsolute_ofReversed first_whole]
  have same := solid_reverse_dropWhile rest.reverse
  rw [List.reverse_reverse] at same
  rw [absolute, elements_eq path, pieces, ← List.singleton_append, solid_append, ← same]
  rw [parent?, pieces] at above
  cases ends : rest.reverse.dropWhile isVoid with
  | nil =>
      cases first with
      | nil => simp [ends] at above
      | cons character characters =>
          simp only [ends, Option.some.injEq] at above
          subst above
          refine ⟨rfl, ?_⟩
          cases void : isVoid (character :: characters) with
          | true => simp [solid, void, elements_eq]; decide
          | false => simp [solid, void, elements_eq]; decide
  | cons last leading =>
      have named : isVoid last = false := by
        have head := List.head?_dropWhile_not isVoid rest.reverse
        rwa [ends] at head
      have parent : parent = ofReversed first (leading.dropWhile isVoid) := by
        cases first <;> simpa [ends, eq_comm] using above
      have below : ∀ piece ∈ leading.dropWhile isVoid, piece ∈ rest := by
        intro piece member
        have later : piece ∈ rest.reverse.dropWhile isVoid :=
          ends ▸ List.mem_cons_of_mem last ((List.dropWhile_sublist isVoid).mem member)
        exact List.mem_reverse.mp ((List.dropWhile_sublist isVoid).mem later)
      subst parent
      refine ⟨isAbsolute_ofReversed first_whole, ?_⟩
      rw [elements_ofReversed (List.forall_mem_cons.mpr
          ⟨first_whole, fun piece member => rest_whole piece (below piece member)⟩),
        ← List.singleton_append, solid_append, solid_reverse_dropWhile, List.reverse_cons,
        solid_append, ← List.append_assoc]
      simp [solid, named]

/-- Above a path lies one that has its first elements, if any. -/
theorem above_eq_or (levels : Nat) (path : String) :
    above levels path = "" ∨
      isAbsolute (above levels path) = isAbsolute path ∧
        elements (above levels path) <+: elements path := by
  induction levels generalizing path with
  | zero => exact .inr ⟨rfl, List.prefix_rfl⟩
  | succ levels ih =>
      rw [above]
      cases parent : parent? path with
      | none => exact .inl rfl
      | some parent' =>
          obtain ⟨absolute, elements⟩ := elements_parent? parent
          refine (ih parent').imp_right fun ⟨absolute', within⟩ => ⟨absolute'.trans absolute, ?_⟩
          rw [elements] at within
          exact within.trans (List.dropLast_prefix _)

/-- Behind the first elements of a path there is at least one name. -/
theorem exists_names_append {path : String} {leading : List String}
    (within : leading <+: (elements path).dropLast) :
    ∃ rest, rest ≠ [] ∧ names path = leading ++ rest ∧
      (".." ∉ elements path → ".." ∉ rest) := by
  have open' : ".." ∉ if endsOpen path then ["."] else [] := by split <;> decide
  rcases List.eq_nil_or_concat (elements path) with none | ⟨above, last, parts⟩
  · rw [none, List.dropLast_nil, List.prefix_nil] at within
    refine ⟨names path, names_ne_nil path, by rw [within, List.nil_append], fun _ => ?_⟩
    rwa [names, none, List.nil_append]
  · rw [List.concat_eq_append] at parts
    rw [parts, List.dropLast_concat] at within
    obtain ⟨between, rfl⟩ := within
    refine ⟨between ++ [last] ++ if endsOpen path then ["."] else [], ?_, ?_, fun down => ?_⟩
    · exact List.append_ne_nil_of_left_ne_nil (List.append_ne_nil_of_right_ne_nil _ (by simp)) _
    · rw [names, parts, List.append_assoc, List.append_assoc, List.append_assoc]
    · rw [parts, List.append_assoc, List.mem_append, not_or] at down
      rw [List.mem_append, not_or]
      exact ⟨down.2, open'⟩

end SymbolCache.Path
