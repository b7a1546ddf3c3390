import SymbolCache.Program.Utility.Line
import SymbolCache.Text.Decimal

/-!
# Numbers with fractions

Reading numbers with fractions and powers, bringing them to some number of significant bits, and
showing them with some number of digits. Both round to the nearest number, and half way to the even
one.
-/

set_option autoImplicit false

namespace SymbolCache.Program.Utility

open Decimal (nearest)

structure Quotient where
  numerator : Nat
  denominator : Nat := 1
  deriving Repr, DecidableEq

inductive Fraction where
  | finite (negative : Bool) (size : Quotient)
  | infinite (negative : Bool)
  | undefined (negative : Bool)
  deriving Repr, DecidableEq

namespace Quotient

def scale (quotient : Quotient) (base : Nat) (exponent : Int) : Quotient :=
  if exponent < 0 then
    { quotient with denominator := quotient.denominator * Nat.pow base exponent.natAbs }
  else { quotient with numerator := quotient.numerator * Nat.pow base exponent.toNat }

def round (quotient : Quotient) : Nat :=
  nearest quotient.numerator quotient.denominator

/-- The largest power of a base that is not above a quotient. `estimate` is that power or the next
one. -/
def power (quotient : Quotient) (base : Nat) (estimate : Int) : Int :=
  let scaled := quotient.scale base (-estimate)
  if scaled.numerator < scaled.denominator then estimate - 1 else estimate

def powerOfTwo (quotient : Quotient) : Int :=
  quotient.power 2 (quotient.numerator.log2 - quotient.denominator.log2 : Int)

def powerOfTen (quotient : Quotient) : Int :=
  let length (value : Nat) : Nat := (Text.decimal value).length
  let estimate : Int := length quotient.numerator - length quotient.denominator
  quotient.power 10 estimate

end Quotient

/-! ## Significant bits -/

structure Exactness where
  bits : Nat
  highest : Int
  lowest : Int
  deriving Repr, DecidableEq

def Exactness.double : Exactness := ⟨53, 1024, -1074⟩

def Exactness.extended : Exactness := ⟨64, 16384, -16445⟩

def Exactness.bring? (exactness : Exactness) (quotient : Quotient) : Option Quotient :=
  if quotient.numerator = 0 then some quotient
  else
    let lowest := quotient.powerOfTwo - exactness.bits + 1
    let unit := if lowest < exactness.lowest then exactness.lowest else lowest
    let significant := (quotient.scale 2 (-unit)).round
    if exactness.highest ≤ significant.log2 + unit then none
    else some (({ numerator := significant } : Quotient).scale 2 unit)

/-- Brings a number to some exactness, and tells whether it is too large or too small for that. -/
def Exactness.bring (exactness : Exactness) : Fraction → Fraction × Bool
  | .finite negative size =>
    match exactness.bring? size with
    | some brought => (.finite negative brought, brought.numerator = 0 && size.numerator ≠ 0)
    | none => (.infinite negative, true)
  | fraction => (fraction, false)

/-! ## Reading -/

/-- The bound for powers of ten that are read. Beyond it all numbers are too large or too small. -/
def exponentBound : Nat := 20000

def readExponent (letter : Char) (text : List Char) : Int × List Char :=
  match text with
  | first :: rest =>
    if first.toLower != letter then (0, text)
    else
      let (negative, digits) := match rest with
        | '-' :: digits => (true, digits)
        | '+' :: digits => (false, digits)
        | digits => (false, digits)
      match digits.takeWhile Text.isAsciiDigit with
      | [] => (0, text)
      | exponent =>
        let size := min exponentBound (Text.digitsValue 0 exponent)
        (if negative then -size else size, digits.dropWhile Text.isAsciiDigit)
  | [] => (0, [])

def readNumeral (base : Nat) (isDigit : Char → Bool) (value : List Char → Nat) (letter : Char)
    (unit : Nat) (text : List Char) : Option (Quotient × List Char) :=
  let whole := text.takeWhile isDigit
  let (fraction, rest) := match text.drop whole.length with
    | '.' :: rest => (rest.takeWhile isDigit, rest.dropWhile isDigit)
    | rest => ([], rest)
  if whole.isEmpty && fraction.isEmpty then none
  else
    let (exponent, rest) := readExponent letter rest
    let digits : Quotient := { numerator := value (whole ++ fraction) }
    some ((digits.scale base (-fraction.length)).scale unit exponent, rest)

def hexadecimalDigit? (character : Char) : Option Nat :=
  if Text.isAsciiDigit character then some (character.toNat - '0'.toNat)
  else
    let letter := character.toLower
    if 'a' ≤ letter && letter ≤ 'f' then some (letter.toNat - 'a'.toNat + 10) else none

def readUnsigned (negative : Bool) (text : List Char) : Option (Fraction × List Char) :=
  let starts (word : String) : Bool :=
    (text.take word.length).map Char.toLower == word.toList
  let ofNumeral := Option.map fun (found : Quotient × List Char) =>
    (Fraction.finite negative found.1, found.2)
  if starts "infinity" then some (.infinite negative, text.drop 8)
  else if starts "inf" then some (.infinite negative, text.drop 3)
  else if starts "nan" then some (.undefined negative, text.drop 3)
  else
    let hexadecimal := if starts "0x" then
      readNumeral 16 (fun digit => (hexadecimalDigit? digit).isSome)
        (List.foldl (fun value digit => value * 16 + (hexadecimalDigit? digit).getD 0) 0) 'p' 2
        (text.drop 2) else none
    match hexadecimal with
    | some found => ofNumeral (some found)
    | none => ofNumeral (readNumeral 10 Text.isAsciiDigit (Text.digitsValue 0) 'e' 10 text)

def readFraction (text : List Char) : Option (Fraction × List Char) :=
  match text.dropWhile isSpace with
  | '-' :: rest => readUnsigned true rest
  | '+' :: rest => readUnsigned false rest
  | rest => readUnsigned false rest

/-! ## Showing -/

/-- Digits with a point in front of the last ones of them, if there are to be some. -/
def withPoint (places : Nat) (always : Bool) (value : Nat) : List Char :=
  let digits := Text.decimal value
  let digits := List.replicate (places + 1 - digits.length) '0' ++ digits
  let whole := digits.take (digits.length - places)
  if places = 0 then if always then whole ++ ['.'] else whole
  else whole ++ '.' :: digits.drop whole.length

def Quotient.showFixed (places : Nat) (always : Bool) (quotient : Quotient) : List Char :=
  withPoint places always (quotient.scale 10 places).round

/-- The digits of a quotient, one more than some places, and the power of ten of the first one. -/
def Quotient.digits (places : Nat) (quotient : Quotient) : Nat × Int :=
  if quotient.numerator = 0 then (0, 0)
  else
    let power := quotient.powerOfTen
    let rounded := (quotient.scale 10 (places - power)).round
    if rounded < Nat.pow 10 (places + 1) then (rounded, power)
    else ((quotient.scale 10 (places - power - 1)).round, power + 1)

def showExponent (letter : Char) (exponent : Int) : List Char :=
  let digits := Text.decimal exponent.natAbs
  letter :: (if exponent < 0 then '-' else '+') ::
    (List.replicate (2 - digits.length) '0' ++ digits)

/-- A quotient with one digit in front of the point and some places after it, and a power of ten. -/
def Quotient.showScientific (letter : Char) (places : Nat) (always : Bool) (quotient : Quotient) :
    List Char :=
  let (digits, exponent) := quotient.digits places
  withPoint places always digits ++ showExponent letter exponent

def withoutEndZeros (text : List Char) : List Char :=
  if text.contains '.' then
    Text.trimEndWhere (· == '.') (Text.trimEndWhere (· == '0') text)
  else text

/-- A quotient with some significant digits, with a power of ten only if it is large or small. Zeros
at the end are dropped unless they are kept. -/
def Quotient.showGeneral (letter : Char) (precision : Nat) (keepsZeros : Bool)
    (quotient : Quotient) : List Char :=
  let count := max 1 precision
  let (digits, exponent) := quotient.digits (count - 1)
  let trim (text : List Char) : List Char := if keepsZeros then text else withoutEndZeros text
  if exponent < -4 || (count : Int) ≤ exponent then
    trim (withPoint (count - 1) keepsZeros digits) ++ showExponent letter exponent
  else trim (quotient.showFixed ((count : Int) - 1 - exponent).toNat keepsZeros)

/-- A number by a letter that tells the way it is shown: its sign, whether zeros may be put in front
of it, and what is shown of its size. -/
def Fraction.show (letter : Char) (precision : Option Nat) (alternative : Bool) :
    Fraction → Bool × Bool × List Char
  | .infinite negative => (negative, false, (if letter.isUpper then "INF" else "inf").toList)
  | .undefined negative => (negative, false, (if letter.isUpper then "NAN" else "nan").toList)
  | .finite negative size =>
    let precision := precision.getD 6
    let exponentLetter := if letter.isUpper then 'E' else 'e'
    (negative, true,
      match letter.toLower with
      | 'e' => size.showScientific exponentLetter precision alternative
      | 'g' => size.showGeneral exponentLetter precision alternative
      | _ => size.showFixed precision alternative)

end SymbolCache.Program.Utility
