import SymbolCache.Program.Utility.Format
import SymbolCache.Program.Utility.Fraction

/-!
# Values of records

A value is a number or a text. What comes from the input is a text that counts as a number if it
looks like one. Numbers have 64 bits; their exact values are quotients, by which they are read and
shown.
-/

set_option autoImplicit false

namespace SymbolCache.Program.Record

open Utility (Conversion Exactness Fraction Quotient charactersOf fractionLetters isSpace
  readConversion readFraction)

/-! ## Numbers -/

def numberOf (fraction : Fraction) : Float :=
  let signed (negative : Bool) (size : Float) : Float := if negative then -size else size
  match (Exactness.double.bring fraction).1 with
  | .infinite negative => signed negative (1.0 / 0.0)
  | .undefined _ => 0.0 / 0.0
  | .finite negative size =>
    let shift := size.denominator.log2
    signed negative ((Float.ofNat size.numerator).scaleB (-shift))

def fractionOf (number : Float) : Fraction :=
  let bits := number.toBits.toNat
  let negative := bits.testBit 63
  let exponent := bits / Nat.pow 2 52 % 2048
  let digits := bits % Nat.pow 2 52
  if exponent = 2047 then if digits = 0 then .infinite negative else .undefined true
  else
    let size : Quotient :=
      if exponent = 0 then { numerator := digits } else { numerator := digits + Nat.pow 2 52 }
    .finite negative (size.scale 2 ((max 1 exponent : Nat) - 1075 : Int))

def plainInteger? (number : Float) : Option Int :=
  match fractionOf number with
  | .finite negative size =>
    let whole : Int := size.numerator / size.denominator
    let value := if negative then -whole else whole
    if size.numerator % size.denominator ≠ 0 || value < -Nat.pow 2 63 || Nat.pow 2 64 < value then
      none
    else some (min value (Text.word64 - 1))
  | _ => none

/-- What remains of a number after another one has been taken from it as often as possible. -/
def remainder (number divisor : Float) : Float :=
  match fractionOf number, fractionOf divisor with
  | .finite negative first, .finite _ second =>
    if second.numerator = 0 then 0.0 / 0.0
    else
      let rest := first.numerator * second.denominator %
        (second.numerator * first.denominator)
      numberOf (.finite negative ⟨rest, first.denominator * second.denominator⟩)
  | .finite _ _, .infinite _ => number
  | _, _ => 0.0 / 0.0

def numberIn (text : List Char) : Float :=
  match readFraction text with
  | some (fraction, _) => numberOf fraction
  | none => 0.0

def looksNumeric (text : List Char) : Bool :=
  match readFraction text with
  | some (_, rest) => rest.all isSpace
  | none => false

/-! ## Values -/

inductive Value where
  | number (number : Float)
  | text (content : List Char)
  | input (content : List Char)
  /-- The value of a name that has been given none. -/
  | missing
  deriving Repr

namespace Value

def toNumber : Value → Float
  | .number value => value
  | .text content | .input content => numberIn content
  | .missing => 0.0

def isNumeric : Value → Bool
  | .number _ | .missing => true
  | .text _ => false
  | .input content => looksNumeric content

def holds : Value → Bool
  | .number value => value != 0.0
  | .text content => !content.isEmpty
  | .input content =>
    if looksNumeric content then numberIn content != 0.0 else !content.isEmpty
  | .missing => false

def ofBool (holds : Bool) : Value :=
  .number (if holds then 1.0 else 0.0)

def ofInt (value : Int) : Value :=
  .number (Float.ofInt value)

/-- How values are ordered: as numbers if both are, and otherwise as the texts that `shown` gives
for them. Numbers may have no order. -/
def order? (shown : Value → List Char) (first second : Value) : Option Ordering :=
  if first.isNumeric && second.isNumeric then
    let first := first.toNumber
    let second := second.toNumber
    if first < second then some .lt
    else if second < first then some .gt
    else if first == second then some .eq
    else none
  else some (compareOfLessAndEq (shown first) (shown second))

end Value

/-!
## Showing values

Values are shown by formats. A format for numbers is a text with a conversion in it.
-/

def integerOf (number : Float) : Int :=
  match fractionOf number with
  | .finite negative size =>
    let whole : Int := size.numerator / size.denominator
    max (-Nat.pow 2 63) (min (Text.word64 - 1) (if negative then -whole else whole))
  | .infinite negative => if negative then -Nat.pow 2 63 else Text.word64 - 1
  | .undefined _ => -Nat.pow 2 63

def showNumber (conversion : Conversion) (width : Int) (precision : Option Nat) (number : Float) :
    List Char :=
  charactersOf <|
    if fractionLetters.contains conversion.letter then
      conversion.showFraction width precision (fractionOf number)
    else
      let value := integerOf number
      let (front, digits) := conversion.showInteger precision value
      conversion.padNumber width precision.isNone front digits

def showText (conversion : Conversion) (width : Int) (precision : Option Nat) (text : List Char) :
    List Char :=
  let text := match precision with
    | some most => text.take most
    | none => text
  charactersOf (conversion.pad width (Utility.bytesOf text))

def showByFormat (number : Float) : Nat → List Char → List Char
  | 0, _ => []
  | _ + 1, [] => []
  | fuel + 1, '%' :: '%' :: rest => '%' :: showByFormat number fuel rest
  | fuel + 1, '%' :: rest =>
    match readConversion .program rest with
    | (.conversion conversion, rest) =>
      let size : Utility.Size → Option Nat
        | .fixed count => some count
        | _ => none
      showNumber conversion ((size conversion.width).getD 0) (size conversion.precision) number ++
        rest
    | (_, rest) => '%' :: showByFormat number fuel rest
  | fuel + 1, character :: rest => character :: showByFormat number fuel rest

/-- The text of a value. Whole numbers that fit into 64 bits are shown by their digits, and others
by a format. -/
def Value.shown (format : List Char) : Value → List Char
  | .number value =>
    match plainInteger? value with
    | some whole => (toString whole).toList
    | none => showByFormat value (format.length + 1) format
  | .text content | .input content => content
  | .missing => []

/-- What has been printed by a format, and what is wrong if something is. -/
structure Filled where
  text : List Char := []
  mistake : Option String := none

/-- Prints values by a format. `numbers` is the format for numbers that are shown as texts, and
`count` how many conversions were in front. It is fuelled by the length of the format. -/
def fillFormat (numbers : List Char) : Nat → Nat → List Char → List Value → Filled
  | 0, _, _, _ => {}
  | _ + 1, _, [], _ => {}
  | fuel + 1, count, '%' :: '%' :: rest, values =>
    let filled := fillFormat numbers fuel count rest values
    { filled with text := '%' :: filled.text }
  | fuel + 1, count, '%' :: rest, values =>
    match readConversion .program rest with
    | (.conversion conversion, rest) =>
      if conversion.letter == 'b' then improper (count + 1)
      else
        let (width, values) := takeSize conversion.width values
        let (precision, values) := takeSize conversion.precision values
        match width, precision, values with
        | some width, some precision, value :: values =>
          let width := width.getD 0
          let most := (precision.filter (0 ≤ ·)).map Int.toNat
          let shown := match conversion.letter with
            | 's' => showText conversion width most (value.shown numbers)
            | 'c' => showText conversion width none (characterOf value)
            | _ => showNumber conversion width most value.toNumber
          let filled := fillFormat numbers fuel (count + 1) rest values
          { filled with text := shown ++ filled.text }
        | _, _, _ => { mistake := some "not enough arguments passed to" }
    | _ => improper (count + 1)
  | fuel + 1, count, character :: rest, values =>
    let filled := fillFormat numbers fuel count rest values
    { filled with text := character :: filled.text }
where
  /-- The end of printing at a conversion that there is not. -/
  improper (number : Nat) : Filled :=
    { mistake := some ("improper conversion(number " ++ toString number ++ ") in") }
  /-- Takes the value for a width or precision, if it asks for one. Gives nothing if there is
  none. -/
  takeSize (size : Utility.Size) (values : List Value) : Option (Option Int) × List Value :=
    match size, values with
    | .absent, values => (some none, values)
    | .fixed count, values => (some (some count), values)
    | .word, value :: values => (some (some (integerOf value.toNumber)), values)
    | .word, [] => (none, [])
  /-- The character that a value stands for: a number by its code, and else the first one. -/
  characterOf (value : Value) : List Char :=
    match value with
    | .text content => [content.headD '\x00']
    | value =>
      if value.isNumeric then [Char.ofNat ((integerOf value.toNumber) % 256).toNat]
      else [(value.shown numbers).headD '\x00']

end SymbolCache.Program.Record
