import Mathlib.Tactic.Common
import SymbolCache.Json.Value

/-!
# Reading back literals

A number or a string that was printed is read as the value that it was printed from, whatever text
follows, as long as that text does not go on with the number.
-/

set_option autoImplicit false

namespace SymbolCache.Json

/-! ## Digits -/

theorem isAsciiDigit_of_mem_toDigits {number : Nat} {character : Char}
    (member : character ∈ Nat.toDigits 10 number) : Text.isAsciiDigit character = true := by
  have digit : character.isDigit = true :=
    Nat.isDigit_of_mem_toDigits (by decide) (by decide) member
  simpa [Text.isAsciiDigit, Char.isDigit, Char.le_def, UInt32.le_iff_toNat_le] using digit

private theorem digitsValue_eq (value : Nat) (digits : List Char) :
    Text.digitsValue value digits = Nat.ofDigitChars 10 digits value := by
  induction digits generalizing value with
  | nil => exact Nat.ofDigitChars_nil.symm
  | cons digit digits ih => exact (ih _).trans Nat.ofDigitChars_cons.symm

private theorem digitsValue_toDigits (number : Nat) :
    Text.digitsValue 0 (Nat.toDigits 10 number) = number := by
  rw [digitsValue_eq, Nat.ofDigitChars_ten_toDigits]

private theorem eq_nil_of_toDigits_eq_zero_cons {number : Nat} {digits : List Char}
    (leading : Nat.toDigits 10 number = '0' :: digits) : digits = [] := by
  induction number using Nat.strongRecOn generalizing digits with
  | ind number ih =>
      rw [Nat.toDigits_eq_if (by decide)] at leading
      split at leading
      case isTrue => exact (List.cons.inj leading).2.symm
      case isFalse large =>
        cases upper : Nat.toDigits 10 (number / 10) with
        | nil => exact absurd upper Nat.toDigits_ne_nil
        | cons first others =>
            rw [upper, List.cons_append] at leading
            obtain ⟨rfl, _⟩ := List.cons.inj leading
            have single := ih (number / 10) (Nat.div_lt_self (by omega) (by decide)) upper
            have value : Nat.ofDigitChars 10 ['0'] 0 = number / 10 := by
              rw [← single, ← upper, Nat.ofDigitChars_ten_toDigits]
            rw [Nat.ofDigitChars_cons, Nat.ofDigitChars_nil] at value
            omega

def EndsNumber (text : List Char) : Prop :=
  ∀ character ∈ text.head?, Text.isAsciiDigit character = false ∧
    character ≠ '.' ∧ character ≠ 'e' ∧ character ≠ 'E'

private theorem readDigits_append {digits rest : List Char}
    (all : ∀ digit ∈ digits, Text.isAsciiDigit digit = true) (ends : EndsNumber rest) :
    readDigits (digits ++ rest) = (digits, rest) := by
  have stops : ∀ character ∈ rest.head?, Text.isAsciiDigit character ≠ true := by
    intro character first
    rw [(ends character first).1]
    exact Bool.false_ne_true
  induction digits with
  | nil =>
      cases rest with
      | nil => rfl
      | cons character rest => simp [readDigits, stops character rfl]
  | cons digit digits ih =>
      have later := ih fun other member => all other (List.mem_cons_of_mem digit member)
      simp only [readDigits, Prod.mk.injEq] at later ⊢
      simp [all digit List.mem_cons_self, later.1, later.2]

private theorem readWhole_toDigits (number : Nat) {rest : List Char} (ends : EndsNumber rest) :
    readWhole (Nat.toDigits 10 number ++ rest) = some (Nat.toDigits 10 number, rest) := by
  have all : ∀ digit ∈ Nat.toDigits 10 number, Text.isAsciiDigit digit = true :=
    fun _ => isAsciiDigit_of_mem_toDigits
  have read := readDigits_append all ends
  cases digits : Nat.toDigits 10 number with
  | nil => exact absurd digits Nat.toDigits_ne_nil
  | cons first others =>
      rw [digits] at read
      by_cases zero : first = '0'
      · subst zero
        rw [eq_nil_of_toDigits_eq_zero_cons digits]
        rfl
      · rw [List.cons_append, readWhole, readSomeDigits, ← List.cons_append, read]
        intro other same
        exact zero (List.cons.inj same).1

def integerLiteral (value : Int) : NumberLiteral where
  negative := decide (value < 0)
  whole := Nat.toDigits 10 value.natAbs
  fraction := []
  exponent := none

private theorem readUnsigned_toDigits (negative : Bool) (number : Nat) {rest : List Char}
    (ends : EndsNumber rest) :
    readUnsigned negative (Nat.toDigits 10 number ++ rest) =
      some ({ negative, whole := Nat.toDigits 10 number, fraction := [], exponent := none },
        rest) := by
  have noFraction : readFraction rest = some ([], rest) := by
    cases rest with
    | nil => rfl
    | cons character rest =>
        rw [readFraction]
        intro other same
        exact (ends character rfl).2.1 (List.cons.inj same).1
  have noExponent : readExponent rest = some (none, rest) := by
    cases rest with
    | nil => rfl
    | cons character rest =>
        obtain ⟨_, _, small, large⟩ := ends character rfl
        simp [readExponent, small, large]
  rw [readUnsigned, readWhole_toDigits number ends]
  simp [noFraction, noExponent]

theorem readNumber_renderInteger (value : Int) {rest : List Char} (ends : EndsNumber rest) :
    readNumber (renderInteger value ++ rest) = some (integerLiteral value, rest) := by
  unfold renderInteger integerLiteral
  split
  case isTrue negative =>
    rw [List.cons_append, readNumber, readUnsigned_toDigits true _ ends]
    simp [negative]
  case isFalse positive =>
    rw [readNumber, readUnsigned_toDigits false _ ends]
    · simp [positive]
    · intro other same
      have minus : '-' ∈ Nat.toDigits 10 value.natAbs := by
        cases digits : Nat.toDigits 10 value.natAbs with
        | nil => exact absurd digits Nat.toDigits_ne_nil
        | cons first others =>
            rw [digits] at same
            simp [(List.cons.inj same).1]
      exact absurd (isAsciiDigit_of_mem_toDigits minus) (by decide)

theorem renderInteger_eq_cons (value : Int) :
    ∃ first rest, renderInteger value = first :: rest ∧
      (first = '-' ∨ Text.isAsciiDigit first = true) := by
  unfold renderInteger
  split
  case isTrue => exact ⟨_, _, rfl, .inl rfl⟩
  case isFalse =>
    cases digits : Nat.toDigits 10 value.natAbs with
    | nil => exact absurd digits Nat.toDigits_ne_nil
    | cons first rest =>
        have member : first ∈ Nat.toDigits 10 value.natAbs := digits ▸ List.mem_cons_self
        exact ⟨first, rest, rfl, .inr (isAsciiDigit_of_mem_toDigits member)⟩

def InRange (value : Int) : Prop :=
  -(Nat.pow 2 63 : Int) ≤ value ∧ value < Nat.pow 2 64

theorem toJson?_integerLiteral {value : Int} (inRange : InRange value) :
    (integerLiteral value).toJson? = some (.integer value) := by
  have magnitude : Text.digitsValue 0 (Nat.toDigits 10 value.natAbs) = value.natAbs :=
    digitsValue_toDigits _
  have signed : (if decide (value < 0) = true then -(value.natAbs : Int) else value.natAbs) =
      value := by
    split
    case isTrue negative =>
      rw [decide_eq_true_eq] at negative
      omega
    case isFalse positive =>
      rw [decide_eq_true_eq] at positive
      omega
  have nonzero : (decide (value < 0) && value.natAbs == 0) = false := by
    by_cases negative : value < 0
    · simp only [negative, decide_true, Bool.true_and, beq_eq_false_iff_ne]
      omega
    · simp [negative]
  obtain ⟨lower, upper⟩ := inRange
  simp only [NumberLiteral.toJson?, integerLiteral, magnitude, signed, nonzero, lower, upper,
    NumberLiteral.isIntegral, List.isEmpty_nil, Option.isNone_none, Bool.and_self,
    Bool.not_false, decide_true, if_true]

/-! ## Strings -/

def lettered : List Char :=
  ['"', '\\', '\x08', '\x0c', '\n', '\r', '\t']

/-- How a character of a printed string is read: as itself, or by its number. -/
def pieceOf (character : Char) : StringPiece :=
  if character ∈ lettered then .plain character
  else if character.toNat < 0x20 then .unit character.toNat
  else .plain character

private theorem hexValue?_hexDigit (value : Nat) (small : value < 16) :
    hexValue? (hexDigit value) = some value := by
  have all : ∀ value : Fin 16, hexValue? (hexDigit value) = some value.val := by decide
  exact all ⟨value, small⟩

private theorem readPieces_letter {letter meaning : Char}
    (escapes : escapeMeaning? letter = some meaning)
    (other : letter ≠ 'u') (rest : List Char) :
    readPieces ('\\' :: letter :: rest) =
      (readPieces rest).map fun (pieces, rest) => (.plain meaning :: pieces, rest) := by
  rw [readPieces, escapes]
  · cases readPieces rest <;> rfl
  · intro first second third fourth tail same
    exact fun _ => other same

private theorem readPieces_plain {character : Char} (quote : character ≠ '"')
    (backslash : character ≠ '\\') (printable : ¬ character.toNat < 0x20) (rest : List Char) :
    readPieces (character :: rest) =
      (readPieces rest).map fun (pieces, rest) => (.plain character :: pieces, rest) := by
  rw [readPieces, if_neg printable]
  · cases readPieces rest <;> rfl
  · exact quote
  · exact fun _ _ _ _ _ same _ => backslash same
  · exact fun _ _ same _ => backslash same
  · exact fun same _ => backslash same

private theorem readPieces_escapeCharacter (character : Char) (rest : List Char) :
    readPieces (escapeCharacter character ++ rest) =
      (readPieces rest).map fun (pieces, rest) => (pieceOf character :: pieces, rest) := by
  by_cases special : character ∈ lettered
  case pos =>
    rw [pieceOf, if_pos special]
    simp only [lettered, List.mem_cons, List.not_mem_nil, or_false] at special
    rcases special with rfl | rfl | rfl | rfl | rfl | rfl | rfl
    all_goals exact readPieces_letter rfl (by decide) rest
  case neg =>
    rw [pieceOf, if_neg special]
    simp only [lettered, List.mem_cons, List.not_mem_nil, or_false, not_or] at special
    simp only [escapeCharacter, beq_iff_eq, special, if_false]
    split
    case isTrue control =>
      have high := hexValue?_hexDigit (character.toNat / 16) (by omega)
      have low := hexValue?_hexDigit (character.toNat % 16) (by omega)
      have value : character.toNat / 16 * 16 + character.toNat % 16 = character.toNat := by omega
      have zero : hexValue? '0' = some 0 := rfl
      have unit : hexUnit? '0' '0' (hexDigit (character.toNat / 16))
          (hexDigit (character.toNat % 16)) = some character.toNat := by
        simp [hexUnit?, high, low, zero, value]
      simp only [List.cons_append, List.nil_append, readPieces, unit]
      cases readPieces rest <;> rfl
    case isFalse printable =>
      exact readPieces_plain special.1 special.2.1 printable rest

private theorem joinPieces?_unit {value : Nat} (small : value < 0xD800)
    (pieces : List StringPiece) :
    joinPieces? (.unit value :: pieces) =
      (joinPieces? pieces).map (Char.ofNat value :: ·) := by
  have high : isHighSurrogate value = false := by
    simp only [isHighSurrogate, Bool.and_eq_false_imp, decide_eq_true_eq]
    omega
  have low : isLowSurrogate value = false := by
    simp only [isLowSurrogate, Bool.and_eq_false_imp, decide_eq_true_eq]
    omega
  match pieces with
  | [] => simp [joinPieces?, high, low]
  | .plain character :: pieces => simp [joinPieces?, high, low]
  | .unit next :: pieces => simp [joinPieces?, high, low]

private theorem joinPieces?_pieceOf (text : List Char) :
    joinPieces? (text.map pieceOf) = some text := by
  induction text with
  | nil => rfl
  | cons character text ih =>
      rw [List.map_cons, pieceOf]
      split
      case isTrue => simp [joinPieces?, ih]
      case isFalse =>
        split
        case isTrue control =>
          rw [joinPieces?_unit (by omega), ih, Option.map_some, Char.ofNat_toNat]
        case isFalse => simp [joinPieces?, ih]

private theorem readPieces_flatMap (text rest : List Char) :
    readPieces (text.flatMap escapeCharacter ++ '"' :: rest) =
      some (text.map pieceOf, rest) := by
  induction text with
  | nil => simp [readPieces]
  | cons character text ih =>
      rw [List.flatMap_cons, List.append_assoc, readPieces_escapeCharacter, ih]
      rfl

theorem readString_renderString (text : String) (rest : List Char) :
    readString (text.toList.flatMap escapeCharacter ++ '"' :: rest) =
      some (some text, rest) := by
  simp only [readString, readPieces_flatMap, Option.map_some, joinPieces?_pieceOf,
    String.ofList_toList]

end SymbolCache.Json
