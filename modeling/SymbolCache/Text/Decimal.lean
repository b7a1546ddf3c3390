import SymbolCache.Text.Natural

/-!
# Decimal numbers in binary64

Which decimal numbers are read as a finite binary64 number. There are two ways of reading. One takes
the number nearest to the exact value. The other takes as many digits as fit into 64 bits, and
multiplies the nearest number with the one nearest to the power of ten; the product may be infinite
where the exact value is just below the largest number.
-/

set_option autoImplicit false

namespace SymbolCache.Decimal

/-- Half way from the largest finite binary64 number to the next power of two. From here on a number
rounds to infinity. -/
def realLimit : Nat := Nat.pow 2 1024 - Nat.pow 2 970

/-! ## The nearest number -/

/-- Whether `digits × 10 ^ exponent` rounds to a finite binary64 number. The number of digits and
the exponent are bounded before a power of ten is taken, so that none is larger than the numeral
needs. -/
def isFinite (digits : Nat) (exponent : Int) : Bool :=
  if digits = 0 then true
  else if exponent < 0 then
    let scale := exponent.natAbs
    if (Nat.toDigits 10 digits).length ≤ scale + 308 then true
    else digits < realLimit * Nat.pow 10 scale
  else
    let scale := exponent.toNat
    if 309 < scale then false else digits * Nat.pow 10 scale < realLimit

/-! ## The product of rounded factors -/

def nearest (numerator denominator : Nat) : Nat :=
  let quotient := numerator / denominator
  let twice := 2 * (numerator % denominator)
  if twice < denominator then quotient
  else if denominator < twice then quotient + 1
  else quotient + quotient % 2

def significant (value : Nat) : Nat :=
  let unit := Nat.pow 2 (value.log2 - 52)
  nearest value unit * unit

/-- Takes digits on top of a value as long as it stays below `2 ^ 64`. Gives the value and the
digits that are left. -/
def takeWord (value : Nat) : List Char → Nat × List Char
  | [] => (value, [])
  | digit :: digits =>
    let next := Text.digitsValue value [digit]
    if next < Text.word64 then takeWord next digits else (value, digit :: digits)

/-- The leading digits of a decimal number, and the power of ten that goes with them. Digits that
are left before the point raise the power; those that are taken after it lower the power. -/
def leading (whole fraction : List Char) (exponent : Int) : Nat × Int :=
  let (value, wholeLeft) := takeWord 0 whole
  let (digits, fractionLeft) := takeWord value fraction
  (digits, exponent + wholeLeft.length - (fraction.length - fractionLeft.length : Nat))

/-- Whether the product of the numbers nearest to `digits` and to `10 ^ exponent` rounds to a finite
number. Division by a power of ten always does. -/
def isFiniteProduct (digits : Nat) (exponent : Int) : Bool :=
  digits = 0 || exponent < 0 ||
    exponent ≤ 308 &&
      significant digits * significant (Nat.pow 10 exponent.toNat) < realLimit

end SymbolCache.Decimal

/-!
## Sizes in megabytes

A size is shown in millions of bytes with one decimal. It is first brought to 53 significant bits
and then to the decimal, each time to the nearest value and half way to the even one.
-/

namespace SymbolCache.Megabytes

open Decimal (nearest)

def unit : Nat := 1000000

/-- The power of two by which a size has to be multiplied so that the quotient by the unit has 53
bits. Sizes have at most 64 bits. -/
def shift (size : Nat) : Nat :=
  let shift := 72 - size.log2
  if size * Nat.pow 2 shift / unit < Nat.pow 2 53 then shift else shift - 1

def tenths (size : Nat) : Nat :=
  nearest (10 * nearest (size * Nat.pow 2 (shift size)) unit) (Nat.pow 2 (shift size))

def describe (size : Nat) : String :=
  String.ofList (Text.decimal (tenths size / 10) ++ '.' :: Text.decimal (tenths size % 10))

example : describe 250000 = "0.2" := by decide +kernel

example : describe 350000 = "0.3" := by decide +kernel

end SymbolCache.Megabytes
