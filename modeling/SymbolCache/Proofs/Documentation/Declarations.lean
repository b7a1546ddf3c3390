import Mathlib.Data.List.TakeDrop
import SymbolCache.Proofs.Documentation.Rendering

/-!
# Functions and types

A function, a method or a type is read as it was written, up to white space at the end of its line.
-/

set_option autoImplicit false

namespace SymbolCache.Documentation

/-! ## Identifiers -/

theorem isIdentifierCharacter_of_white {character : Char}
    (white : Text.isWhiteSpace character = true) : isIdentifierCharacter character = false := by
  rw [isIdentifierCharacter, Text.isAlphanumeric_of_isWhiteSpace white, Bool.false_or,
    beq_eq_false_iff_ne]
  rintro rfl
  exact absurd white (by decide)

theorem isWhiteSpace_of_identifier {character : Char}
    (identifier : isIdentifierCharacter character = true) :
    Text.isWhiteSpace character = false := by
  cases white : Text.isWhiteSpace character with
  | false => rfl
  | true => exact absurd (isIdentifierCharacter_of_white white) (by simp [identifier])

variable {name : List Char}

theorem IsName.solid (isName : IsName name) {character : Char} (member : character ∈ name) :
    Text.isWhiteSpace character = false :=
  isWhiteSpace_of_identifier (isName.2 character member)

theorem IsName.not_mem (isName : IsName name) {character : Char}
    (other : isIdentifierCharacter character = false) : character ∉ name :=
  fun member => Bool.false_ne_true (other.symm.trans (isName.2 character member))

theorem IsName.exists_cons (isName : IsName name) :
    ∃ first rest, name = first :: rest ∧ isIdentifierCharacter first = true := by
  obtain ⟨first, rest, rfl⟩ := List.exists_cons_of_ne_nil isName.1
  exact ⟨first, rest, rfl, isName.2 first List.mem_cons_self⟩

theorem IsName.trimStart_append (isName : IsName name) (rest : List Char) :
    Text.trimStart (name ++ rest) = name ++ rest := by
  obtain ⟨first, others, rfl, identifier⟩ := isName.exists_cons
  exact Text.trimStart_cons (isWhiteSpace_of_identifier identifier) _

theorem IsName.spanIdentifier_append (isName : IsName name) {rest : List Char}
    (ends : ∀ character ∈ rest.head?, isIdentifierCharacter character = false) :
    spanIdentifier (name ++ rest) = (name, rest) := by
  have untouched : rest.takeWhile isIdentifierCharacter = [] ∧
      rest.dropWhile isIdentifierCharacter = rest := by
    cases rest with
    | nil => exact ⟨rfl, rfl⟩
    | cons next rest =>
        have other : ¬ isIdentifierCharacter next = true := by simp [ends next rfl]
        exact ⟨List.takeWhile_cons_of_neg other, List.dropWhile_cons_of_neg other⟩
  rw [spanIdentifier, List.span_eq_takeWhile_dropWhile, List.takeWhile_append_of_pos isName.2,
    List.dropWhile_append_of_pos isName.2, untouched.1, untouched.2, List.append_nil]

/-! ## Brackets -/

variable {opening closing : Char}

theorem afterClosing?_opening (depth : Nat) (rest : List Char) :
    afterClosing? opening closing depth (opening :: rest) =
      afterClosing? opening closing (depth + 1) rest := by
  simp [afterClosing?]

private theorem Balanced.afterClosing?_append (distinct : opening ≠ closing) {text : List Char}
    (balanced : Balanced opening closing text) (depth : Nat) (rest : List Char) :
    afterClosing? opening closing (depth + 1) (text ++ rest) =
      afterClosing? opening closing (depth + 1) rest := by
  induction balanced generalizing depth rest with
  | nil => rfl
  | other notOpening notClosing _ ih =>
      rw [← ih depth rest]
      simp [afterClosing?, notOpening, notClosing]
  | nested _ _ insideIH restIH =>
      rw [List.cons_append, afterClosing?_opening, List.append_assoc, insideIH (depth + 1),
        ← restIH depth rest]
      simp [afterClosing?, distinct.symm]

theorem Balanced.afterClosing?_eq (distinct : opening ≠ closing) {text : List Char}
    (balanced : Balanced opening closing text) (rest : List Char) :
    afterClosing? opening closing 0 (opening :: (text ++ closing :: rest)) = some rest := by
  rw [afterClosing?_opening, balanced.afterClosing?_append distinct]
  simp [afterClosing?, distinct.symm]

/-! ## Functions -/

variable {signature : List Char}

theorem IsSignature.exists_cons (isSignature : IsSignature signature) :
    ∃ first rest, signature = first :: rest ∧ (first = '(' ∨ first = '[') := by
  obtain ⟨head | head, _⟩ := isSignature
  all_goals
    obtain ⟨rest, rfl⟩ := List.head?_eq_some_iff.mp head
    exact ⟨_, rest, rfl, by simp⟩

theorem IsSignature.trimEnd_append (isSignature : IsSignature signature) (before : List Char) :
    Text.trimEnd (before ++ signature) = before ++ signature := by
  obtain ⟨first, rest, rfl, _⟩ := isSignature.exists_cons
  exact Text.trimEnd_append_of_last before (List.cons_ne_nil _ _) isSignature.2.2

private theorem IsName.spanIdentifier_signature (isName : IsName name)
    (isSignature : IsSignature signature) :
    spanIdentifier (name ++ signature) = (name, signature) := by
  obtain ⟨first, rest, rfl, bracket⟩ := isSignature.exists_cons
  apply isName.spanIdentifier_append
  rintro character ⟨⟩
  rcases bracket with rfl | rfl <;> decide

private theorem IsName.head?_append_ne (isName : IsName name) {character : Char}
    (other : isIdentifierCharacter character = false) (rest : List Char) :
    (name ++ rest).head? ≠ some character := by
  obtain ⟨first, others, rfl, identifier⟩ := isName.exists_cons
  rintro ⟨⟩
  exact Bool.false_ne_true (other.symm.trans identifier)

theorem readFunction_function (isName : IsName name) (isSignature : IsSignature signature) :
    readFunction (name ++ signature) =
      some ⟨String.ofList name, .func, some (String.ofList ("func".toList ++ signature))⟩ := by
  have trimmed : Text.trim (name ++ signature) = name ++ signature := by
    rw [Text.trim, isName.trimStart_append, isSignature.trimEnd_append]
  have kept : Text.trimEnd signature = signature := isSignature.trimEnd_append []
  rw [readFunction, trimmed, if_neg (isName.head?_append_ne (by decide) signature)]
  rcases isSignature.1 with head | head <;>
    simp [isName.spanIdentifier_signature isSignature, kept, isName.1, head]

theorem readFunction_method {receiver : List Char} (balanced : Balanced '(' ')' receiver)
    (isName : IsName name) (isSignature : IsSignature signature) :
    readFunction ('(' :: (receiver ++ ')' :: ' ' :: (name ++ signature))) =
      some ⟨String.ofList name, .method, some (String.ofList ("func".toList ++ signature))⟩ := by
  have trimmed : Text.trim ('(' :: (receiver ++ ')' :: ' ' :: (name ++ signature))) =
      '(' :: (receiver ++ ')' :: ' ' :: (name ++ signature)) := by
    have ends := isSignature.trimEnd_append ('(' :: (receiver ++ ')' :: ' ' :: name))
    rw [Text.trim, Text.trimStart_cons (by decide)]
    simpa using ends
  have after : Text.trimStart (' ' :: (name ++ signature)) = name ++ signature :=
    isName.trimStart_append signature
  have kept : Text.trimEnd signature = signature := isSignature.trimEnd_append []
  rw [readFunction, trimmed, if_pos List.head?_cons, balanced.afterClosing?_eq (by decide)]
  rcases isSignature.1 with head | head <;>
    simp [after, isName.spanIdentifier_signature isSignature, kept, isName.1, head]

/-! ## Types -/

theorem dropElision_eq {text : List Char} (complete : ¬ ['.', '.', '.'] <:+ text) :
    dropElision text = text := by
  rw [dropElision]
  cases cut : Text.dropSuffix? ['.', '.', '.'] text with
  | none => rfl
  | some before => exact absurd ⟨before, (Text.dropSuffix?_eq_some_iff.mp cut).symm⟩ complete

private theorem Body.Fits.head?_ne_bracket {body : Body} (fits : body.Fits) :
    body.line.head? ≠ some '[' := by
  cases body with
  | struct rest => exact fun starts => absurd (Option.some.inj starts) (by decide)
  | interface rest => exact fun starts => absurd (Option.some.inj starts) (by decide)
  | other underlying => exact IsUnderlying.no_parameters fits

private theorem Body.Fits.typeKind_line {body : Body} (fits : body.Fits) :
    typeKind body.line = body.kind := by
  cases body with
  | struct rest => rfl
  | interface rest => rfl
  | other underlying =>
      have fits : IsUnderlying underlying := fits
      rw [typeKind, if_neg, if_neg]
      · rfl
      · exact fun starts => fits.no_interface (List.isPrefixOf_iff_prefix.mp starts)
      · exact fun starts => fits.no_struct (List.isPrefixOf_iff_prefix.mp starts)

private theorem Body.Fits.signature_line {body : Body} (fits : body.Fits) :
    (if body.kind = .type then
      signature? (dropElision (Text.trim (Text.trimEndWhere (· == '\x7b') body.line)))
    else none) = body.signature := by
  cases body with
  | struct rest =>
      have isStruct : (Body.struct rest).kind ≠ .type := SymbolKind.noConfusion
      rw [if_neg isStruct]
      rfl
  | interface rest =>
      have isInterface : (Body.interface rest).kind ≠ .type := SymbolKind.noConfusion
      rw [if_neg isInterface]
      rfl
  | other underlying =>
      have fits : IsUnderlying underlying := fits
      have whole : Text.trimEndWhere (· == '\x7b') underlying = underlying := by
        apply Text.trimEndWhere_of_last
        intro character last
        rw [beq_eq_false_iff_ne]
        rintro rfl
        exact fits.no_brace last
      have isType : (Body.other underlying).kind = .type := rfl
      have shown : (Body.other underlying).line = underlying := rfl
      rw [if_pos isType, shown, whole, Text.trim_of_ends fits.trimmed,
        dropElision_eq fits.no_elision, signature?, if_neg (by simpa using fits.filled)]
      rfl

/-- White space at the end of a line does not change what type is on it. -/
theorem Body.Fits.exists_trim {body : Body} (fits : body.Fits) :
    ∃ trimmed : Body, trimmed.Fits ∧ trimmed.kind = body.kind ∧
      trimmed.signature = body.signature ∧ Text.trim body.line = trimmed.line := by
  cases body with
  | struct rest =>
      refine ⟨.struct (Text.trimEnd rest), trivial, rfl, rfl, ?_⟩
      exact Text.trim_append_cons "struc".toList (by decide) rest
  | interface rest =>
      refine ⟨.interface (Text.trimEnd rest), trivial, rfl, rfl, ?_⟩
      exact Text.trim_append_cons "interfac".toList (by decide) rest
  | other underlying =>
      have fits : IsUnderlying underlying := fits
      exact ⟨.other underlying, fits, rfl, rfl, Text.trim_of_ends fits.trimmed⟩

def typeDeclaration (name text : List Char) : Declaration where
  name := String.ofList name
  kind := typeKind text
  signature :=
    if typeKind text = .type then
      signature? (dropElision (Text.trim (Text.trimEndWhere (· == '\x7b') text)))
    else none

/-- The text that tells what a type is. Without type parameters, a bracket is taken for them. -/
def definingText? (parameters : Option (List Char)) (text : List Char) : Option (List Char) :=
  if parameters = none ∧ text.head? = some '[' then
    (afterClosing? '[' ']' 0 text).map Text.trimStart
  else some text

section TypeTexts

variable {parameters : Option (List Char)}

private theorem IsName.trim_type (isName : IsName name) (text : List Char) :
    Text.trim (name ++ (parameterText parameters ++ ' ' :: text)) =
      name ++ (parameterText parameters ++ Text.trimEnd (' ' :: text)) := by
  have solid : ∀ character ∈ (name ++ parameterText parameters).getLast?,
      Text.isWhiteSpace character = false := by
    cases parameters with
    | none =>
        rw [parameterText, List.append_nil]
        exact fun character last => isName.solid (List.mem_of_getLast? last)
    | some parameters =>
        rw [parameterText, ← List.cons_append, ← List.append_assoc, List.getLast?_concat]
        rintro character ⟨⟩
        decide
  rw [Text.trim, isName.trimStart_append, ← List.append_assoc, Text.trimEnd_append_right solid,
    List.append_assoc]

private theorem IsName.spanIdentifier_type (isName : IsName name) (text : List Char) :
    spanIdentifier (name ++ (parameterText parameters ++ Text.trimEnd (' ' :: text))) =
      (name, parameterText parameters ++ Text.trimEnd (' ' :: text)) := by
  apply isName.spanIdentifier_append
  cases parameters with
  | some parameters => rintro character ⟨⟩; decide
  | none =>
      obtain ⟨gap, -, parts⟩ := Text.exists_trimEnd_append (' ' :: text)
      intro character head
      rw [parameterText, List.nil_append, Option.mem_def] at head
      have first := congrArg List.head? parts
      rw [List.head?_append, head] at first
      obtain rfl : ' ' = character := Option.some.inj first
      decide

private theorem trimStart_blank (text : List Char) :
    Text.trimStart (Text.trimEnd (' ' :: text)) = Text.trim text := by
  rw [Text.trimStart_trimEnd, Text.trim, ← List.singleton_append,
    Text.trimStart_append (by decide)]
  rfl

/-- White space around what stands behind the name and the type parameters does not matter. -/
theorem readType_eq (isName : IsName name) (balanced : ∀ text ∈ parameters, Balanced '[' ']' text)
    (text : List Char) :
    readType (name ++ (parameterText parameters ++ ' ' :: text)) =
      (definingText? parameters (Text.trim text)).map (typeDeclaration name) := by
  have after := trimStart_blank text
  rw [readType, isName.trim_type, isName.spanIdentifier_type, definingText?]
  cases parameters with
  | none =>
      by_cases bracket : (Text.trim text).head? = some '['
      · simp only [parameterText, List.nil_append, after, bracket]
        cases afterClosing? '[' ']' 0 (Text.trim text) <;> simp [isName.1, typeDeclaration]
      · simp [parameterText, after, isName.1, bracket, typeDeclaration]
  | some parameters =>
      have closes := (balanced parameters rfl).afterClosing?_eq (by decide)
        (Text.trimEnd (' ' :: text))
      have starts : Text.trimStart ('[' :: (parameters ++ ']' :: Text.trimEnd (' ' :: text))) =
          '[' :: (parameters ++ ']' :: Text.trimEnd (' ' :: text)) :=
        Text.trimStart_cons (by decide) _
      simp [parameterText, starts, closes, after, isName.1, typeDeclaration]

end TypeTexts

theorem readType_type (isName : IsName name) {parameters : Option (List Char)}
    (balanced : ∀ text ∈ parameters, Balanced '[' ']' text) {body : Body} (fits : body.Fits) :
    readType (name ++ (parameterText parameters ++ ' ' :: body.line)) =
      some ⟨String.ofList name, body.kind, body.signature⟩ := by
  obtain ⟨trimmed, trimmedFits, kind, signature, whole⟩ := fits.exists_trim
  have told : definingText? parameters trimmed.line = some trimmed.line :=
    if_neg fun both => trimmedFits.head?_ne_bracket both.2
  rw [readType_eq isName balanced, whole, told, ← kind, ← signature, ← trimmedFits.signature_line,
    ← trimmedFits.typeKind_line]
  rfl

end SymbolCache.Documentation
