import SymbolCache.Proofs.Documentation.Declarations

/-!
# Types by their texts

What is read of a line that declares a type, whatever stands behind its name. The reader does not
see whether white space stands before a bracket: it takes the bracket of a slice or of an array for
type parameters, and reads the type as its elements. Nor does it see where a word ends: a type that
is defined by a name with the letters of a keyword at its start is taken for a structure or an
interface.
-/

set_option autoImplicit false

namespace SymbolCache.Documentation

/-! ## Brackets -/

section Brackets

variable {opening closing : Char}

/-- Before the place where some brackets are closed there is a balanced text for each of them. -/
theorem exists_pieces_of_afterClosing? {depth : Nat} {text rest : List Char}
    (closes : afterClosing? opening closing (depth + 1) text = some rest) :
    ∃ (first : List Char) (others : List (List Char)), others.length = depth ∧
      Balanced opening closing first ∧ (∀ piece ∈ others, Balanced opening closing piece) ∧
      text = first ++ closing :: (others.flatMap (· ++ [closing]) ++ rest) := by
  induction text generalizing depth with
  | nil => exact absurd closes.symm (Option.some_ne_none rest)
  | cons character text ih =>
      by_cases opens : character = opening
      · -- What is inside of this bracket and what follows it make up one piece.
        subst opens
        rw [afterClosing?_opening] at closes
        obtain ⟨first, others, length, balanced, areBalanced, rfl⟩ := ih closes
        obtain ⟨next, others, rfl⟩ := List.exists_cons_of_length_eq_add_one length
        obtain ⟨nextBalanced, areBalanced⟩ := List.forall_mem_cons.mp areBalanced
        exact ⟨character :: (first ++ closing :: next), others, Nat.succ.inj length,
          .nested balanced nextBalanced, areBalanced, by simp⟩
      · by_cases ends : character = closing
        · subst ends
          cases depth with
          | zero =>
              obtain rfl : text = rest := by simpa [afterClosing?, opens] using closes
              exact ⟨[], [], rfl, .nil, List.forall_mem_nil _, rfl⟩
          | succ depth =>
              have fewer : afterClosing? opening character (depth + 1) text = some rest := by
                simpa [afterClosing?, opens] using closes
              obtain ⟨first, others, length, balanced, areBalanced, rfl⟩ := ih fewer
              exact ⟨[], first :: others, congrArg Nat.succ length, .nil,
                List.forall_mem_cons.mpr ⟨balanced, areBalanced⟩, by simp⟩
        · have same : afterClosing? opening closing (depth + 1) text = some rest := by
            simpa [afterClosing?, opens, ends] using closes
          obtain ⟨first, others, length, balanced, areBalanced, rfl⟩ := ih same
          exact ⟨character :: first, others, length, .other opens ends balanced, areBalanced, rfl⟩

private theorem afterClosing?_eq_some_iff (distinct : opening ≠ closing) {text rest : List Char} :
    afterClosing? opening closing 0 (opening :: text) = some rest ↔
      ∃ inside, Balanced opening closing inside ∧ text = inside ++ closing :: rest := by
  constructor
  · intro closes
    rw [afterClosing?_opening] at closes
    obtain ⟨inside, others, length, balanced, -, parts⟩ := exists_pieces_of_afterClosing? closes
    obtain rfl := List.length_eq_zero_iff.mp length
    exact ⟨inside, balanced, parts⟩
  · rintro ⟨inside, balanced, rfl⟩
    exact balanced.afterClosing?_eq distinct rest

end Brackets

/-! ## Parts of a type -/

variable {name text : List Char}

def typeKeywords : List (String × SymbolKind) :=
  [("struct", .struct), ("interface", .interface)]

private theorem not_both_keywords (text : List Char) :
    ¬ ("struct".toList.isPrefixOf text = true ∧ "interface".toList.isPrefixOf text = true) := by
  rintro ⟨struct, interface⟩
  obtain ⟨rest, rfl⟩ := List.isPrefixOf_iff_prefix.mp struct
  have starts := List.isPrefixOf_iff_prefix.mp interface
  exact absurd (List.cons_prefix_cons.mp starts).1 (by decide)

private theorem typeKind_eq_iff {keyword : String} {kind : SymbolKind}
    (isKeyword : (keyword, kind) ∈ typeKeywords) :
    typeKind text = kind ↔ keyword.toList <+: text := by
  have apart := not_both_keywords text
  have cases : keyword = "struct" ∧ kind = .struct ∨ keyword = "interface" ∧ kind = .interface := by
    simpa [typeKeywords] using isKeyword
  rw [typeKind, ← List.isPrefixOf_iff_prefix]
  rcases cases with ⟨rfl, rfl⟩ | ⟨rfl, rfl⟩
  all_goals
    revert apart
    cases "struct".toList.isPrefixOf text <;> cases "interface".toList.isPrefixOf text <;> decide

private theorem typeKind_eq_type_iff :
    typeKind text = .type ↔ ∀ entry ∈ typeKeywords, ¬ entry.1.toList <+: text := by
  simp only [typeKeywords, List.forall_mem_cons, ← List.isPrefixOf_iff_prefix]
  rw [typeKind]
  cases "struct".toList.isPrefixOf text <;> cases "interface".toList.isPrefixOf text <;> simp

private theorem dropElision_isPrefix (text : List Char) : dropElision text <+: text := by
  rw [dropElision]
  cases cut : Text.dropSuffix? ['.', '.', '.'] text with
  | none => exact List.prefix_rfl
  | some before =>
      obtain rfl := Text.dropSuffix?_eq_some_iff.mp cut
      exact (Text.trimEndWhere_isPrefix _ before).trans (List.prefix_append ..)

/-- What is shown of a type is a part of its text. -/
theorem signature_isInfix {shown : String}
    (shows : (typeDeclaration name text).signature = some shown) : shown.toList <:+: text := by
  have some_eq : ∀ part, signature? part = some shown → part = shown.toList := by
    intro part shows
    rw [signature?] at shows
    split at shows
    · exact absurd shows (Option.some_ne_none _).symm
    · rw [← Option.some.inj shows, String.toList_ofList]
  simp only [typeDeclaration] at shows
  split at shows
  case isFalse => exact absurd shows (Option.some_ne_none _).symm
  case isTrue =>
    rw [← some_eq _ shows]
    exact (dropElision_isPrefix _).isInfix.trans
      ((Text.trim_isInfix _).trans (Text.trimEndWhere_isPrefix _ text).isInfix)

/-! ## Lines -/

section Lines

variable {parameters : Option (List Char)}

private theorem readLine_typeText (isName : IsName name)
    (balanced : ∀ text ∈ parameters, Balanced '[' ']' text) (text : List Char) :
    readLine ("type ".toList ++ (name ++ (parameterText parameters ++ ' ' :: text))) =
      .declares
        ((definingText? parameters (Text.trim text)).map (typeDeclaration name)).toList := by
  rw [← readType_eq isName balanced text]
  rfl

/-- Behind a name without type parameters, brackets are read in their place. -/
theorem definingText?_bracket (rest : List Char) :
    definingText? none (Text.trim ('[' :: rest)) = none ∧
        (∀ inside element, Balanced '[' ']' inside → rest ≠ inside ++ ']' :: element) ∨
      ∃ inside element, Balanced '[' ']' inside ∧ rest = inside ++ ']' :: element ∧
        definingText? none (Text.trim ('[' :: rest)) = some (Text.trim element) := by
  have bracket : Text.trim ('[' :: rest) = '[' :: Text.trimEnd rest :=
    Text.trim_append_cons [] (by decide) rest
  have trimmed : ∀ inside element : List Char,
      Text.trimEnd (inside ++ ']' :: element) = inside ++ ']' :: Text.trimEnd element :=
    fun inside element => Text.trimEnd_append_cons inside (by decide) element
  rw [bracket, definingText?, if_pos ⟨rfl, List.head?_cons⟩]
  cases closes : afterClosing? '[' ']' 0 ('[' :: Text.trimEnd rest) with
  | none =>
      refine .inl ⟨rfl, ?_⟩
      rintro inside element balanced rfl
      rw [trimmed, balanced.afterClosing?_eq (by decide)] at closes
      exact Option.some_ne_none _ closes
  | some after =>
      obtain ⟨inside, balanced, parts⟩ := (afterClosing?_eq_some_iff (by decide)).mp closes
      obtain ⟨gap, blank, whole⟩ := Text.exists_trimEnd_append rest
      have after_eq : Text.trimEnd (after ++ gap) = after := by
        have ends := trimmed inside (after ++ gap)
        rw [← List.cons_append, ← List.append_assoc, ← parts, ← whole, parts] at ends
        exact (List.cons.inj (List.append_cancel_left ends)).2.symm
      refine .inr ⟨inside, after ++ gap, balanced, ?_, ?_⟩
      · rw [whole, parts, List.append_assoc, List.cons_append]
      · rw [← Text.trimStart_trimEnd, after_eq]
        rfl

/-- A slice or an array is read as its elements are: it is a type only if they are, and its
signature lacks the brackets. If the bracket behind the name is not closed, nothing is declared. -/
theorem readLine_bracket (isName : IsName name) (starts : text.head? = some '[') :
    readLine ("type ".toList ++ (name ++ ' ' :: text)) = .declares [] ∧
        (∀ inside element, Balanced '[' ']' inside → text ≠ '[' :: (inside ++ ']' :: element)) ∨
      ∃ inside element, Balanced '[' ']' inside ∧ text = '[' :: (inside ++ ']' :: element) ∧
        readLine ("type ".toList ++ (name ++ ' ' :: text)) =
          .declares [typeDeclaration name (Text.trim element)] ∧
        ((typeDeclaration name (Text.trim element)).kind = .type ↔
          ∀ entry ∈ typeKeywords, ¬ entry.1.toList <+: Text.trim element) ∧
        (typeDeclaration name (Text.trim element)).signature ≠ some (String.ofList text) := by
  obtain ⟨rest, rfl⟩ := List.head?_eq_some_iff.mp starts
  have bare : ∀ text ∈ (none : Option (List Char)), Balanced '[' ']' text := by simp
  have reads := readLine_typeText isName bare ('[' :: rest)
  rw [parameterText, List.nil_append] at reads
  rcases definingText?_bracket rest with ⟨none, unclosed⟩ | ⟨inside, element, balanced, rfl, told⟩
  · rw [none] at reads
    exact .inl ⟨reads, fun inside element balanced same =>
      unclosed inside element balanced (List.cons.inj same).2⟩
  · rw [told] at reads
    refine .inr ⟨inside, element, balanced, rfl, reads, typeKind_eq_type_iff, fun shows => ?_⟩
    have part := (signature_isInfix shows).trans (Text.trim_isInfix element)
    have shorter := part.length_le
    simp only [String.toList_ofList, List.length_cons, List.length_append] at shorter
    omega

theorem readLine_bracket_example :
    ∃ inside element, Balanced '[' ']' inside ∧
      "[]struct \x7b".toList = '[' :: (inside ++ ']' :: element) ∧
      readLine "type Items []struct \x7b".toList =
        .declares [typeDeclaration "Items".toList (Text.trim element)] := by
  have isName : IsName "Items".toList := by decide +kernel
  have starts : "[]struct \x7b".toList.head? = some '[' := rfl
  rcases readLine_bracket isName starts with
    ⟨-, unclosed⟩ | ⟨inside, element, balanced, parts, reads, -⟩
  · exact absurd rfl (unclosed [] "struct \x7b".toList .nil)
  · exact ⟨inside, element, balanced, parts, reads⟩

theorem declarations_of_slices :
    declarations "type Flags []string\ntype Items []struct\x7b X int \x7d\n" =
      [⟨"Flags", .type, some "string"⟩, ⟨"Items", .struct, none⟩] := by
  decide +kernel

/-! ## Words -/

def StartsWithWord (keyword text : List Char) : Prop :=
  keyword <+: text ∧ (text.drop keyword.length).head?.all
    (fun character => character == '\x7b' || Text.isWhiteSpace character) = true

instance (keyword text : List Char) : Decidable (StartsWithWord keyword text) :=
  inferInstanceAs (Decidable (_ ∧ _))

def StartsLikeWord (keyword text : List Char) : Prop :=
  keyword <+: text ∧ ¬ StartsWithWord keyword text

instance (keyword text : List Char) : Decidable (StartsLikeWord keyword text) :=
  inferInstanceAs (Decidable (_ ∧ _))

private theorem definingText?_cases {defining : List Char}
    (defines : definingText? parameters text = some defining) :
    defining = text ∨ parameters = none ∧ text.head? = some '[' := by
  rw [definingText?] at defines
  split at defines
  case isTrue bracket => exact .inr bracket
  case isFalse => exact .inl (Option.some.inj defines).symm

private theorem head?_ne_bracket_of_keyword {keyword : String} {kind : SymbolKind}
    (isKeyword : (keyword, kind) ∈ typeKeywords) (starts : keyword.toList <+: text) :
    text.head? ≠ some '[' := by
  have noBracket : ∀ entry ∈ typeKeywords, ∀ rest, (entry.1.toList ++ rest).head? ≠ some '[' := by
    simp only [typeKeywords, List.forall_mem_cons]
    exact ⟨fun rest => by simp, fun rest => by simp, List.forall_mem_nil _⟩
  obtain ⟨rest, rfl⟩ := starts
  exact noBracket _ isKeyword rest

private theorem definingText?_of_keyword {keyword : String} {kind : SymbolKind}
    (isKeyword : (keyword, kind) ∈ typeKeywords) (starts : keyword.toList <+: text) :
    definingText? parameters text = some text :=
  if_neg fun both => head?_ne_bracket_of_keyword isKeyword starts both.2

private theorem ne_type_of_keyword {keyword : String} {kind : SymbolKind}
    (isKeyword : (keyword, kind) ∈ typeKeywords) : kind ≠ .type := by
  have notTypes : ∀ entry ∈ typeKeywords, entry.2 ≠ .type := by decide
  exact notTypes _ isKeyword

/-- A type is taken for a structure or an interface if the letters of that keyword start the text
that defines it. This is right exactly if no word that goes on after these letters starts what
stands behind the name, and neither do the letters start the elements of a slice or of an array. A
type whose text starts with such a word has no signature. -/
theorem readLine_keyword (isName : IsName name)
    (balanced : ∀ text ∈ parameters, Balanced '[' ']' text) (text : List Char) :
    readLine ("type ".toList ++ (name ++ (parameterText parameters ++ ' ' :: text))) =
        .declares
          ((definingText? parameters (Text.trim text)).map (typeDeclaration name)).toList ∧
      ∀ keyword kind, (keyword, kind) ∈ typeKeywords →
        (∀ defining, definingText? parameters (Text.trim text) = some defining →
          ((typeDeclaration name defining).kind = kind ↔ keyword.toList <+: defining) ∧
          (((typeDeclaration name defining).kind = kind ↔
              StartsWithWord keyword.toList (Text.trim text)) ↔
            ¬ StartsLikeWord keyword.toList (Text.trim text) ∧
              (parameters = none → (Text.trim text).head? = some '[' →
                ¬ keyword.toList <+: defining))) ∧
        (StartsLikeWord keyword.toList (Text.trim text) →
          readLine ("type ".toList ++ (name ++ (parameterText parameters ++ ' ' :: text))) =
            .declares [⟨String.ofList name, kind, none⟩]) := by
  have reads := readLine_typeText isName balanced text
  refine ⟨reads, fun keyword kind isKeyword => ⟨fun defining defines => ?_, fun like => ?_⟩⟩
  · have starts : (typeDeclaration name defining).kind = kind ↔ keyword.toList <+: defining :=
      typeKind_eq_iff isKeyword
    have whole : keyword.toList <+: Text.trim text → keyword.toList <+: defining := by
      intro letters
      have told : definingText? parameters (Text.trim text) = some (Text.trim text) :=
        definingText?_of_keyword isKeyword letters
      obtain rfl : Text.trim text = defining := Option.some.inj (told.symm.trans defines)
      exact letters
    refine ⟨starts, ?_⟩
    rw [starts]
    constructor
    · intro same
      refine ⟨fun like => like.2 (same.mp (whole like.1)), fun _ bracket element => ?_⟩
      exact head?_ne_bracket_of_keyword isKeyword (same.mp element).1 bracket
    · rintro ⟨notLike, noElement⟩
      refine ⟨fun letters => ?_, fun word => whole word.1⟩
      rcases definingText?_cases defines with rfl | ⟨bare, bracket⟩
      · exact not_not.mp fun notWord => notLike ⟨letters, notWord⟩
      · exact absurd letters (noElement bare bracket)
  · rw [reads, definingText?_of_keyword isKeyword like.1, Option.map_some, Option.toList_some]
    have isKind : typeKind (Text.trim text) = kind := (typeKind_eq_iff isKeyword).mpr like.1
    have noSignature : (typeDeclaration name (Text.trim text)).signature = none :=
      if_neg fun isType => ne_type_of_keyword isKeyword (isKind.symm.trans isType)
    rw [← isKind, ← noSignature]
    rfl

theorem readLine_keyword_example :
    StartsLikeWord "struct".toList "structpb.Value".toList ∧
      readLine "type Value structpb.Value".toList = .declares [⟨"Value", .struct, none⟩] := by
  have like : StartsLikeWord "struct".toList "structpb.Value".toList := by decide +kernel
  have isName : IsName "Value".toList := by decide +kernel
  have bare : ∀ text ∈ (none : Option (List Char)), Balanced '[' ']' text := by simp
  obtain ⟨-, declares⟩ :=
    (readLine_keyword isName bare "structpb.Value".toList).2 "struct" .struct (by decide)
  exact ⟨like, declares (by decide +kernel)⟩

theorem declarations_of_names_like_keywords :
    declarations "type Value structpb.Value\ntype Set interfaceSet\n" =
      [⟨"Value", .struct, none⟩, ⟨"Set", .interface, none⟩] := by
  decide +kernel

end Lines

end SymbolCache.Documentation
