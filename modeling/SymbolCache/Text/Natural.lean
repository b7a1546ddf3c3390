import SymbolCache.Text.Character

/-!
# Reading natural numbers

Decimal numerals of ASCII digits with an optional plus sign in front, any number of leading zeros
and no separators, as long as they stay below a bound.
-/

set_option autoImplicit false

namespace SymbolCache.Text

def digitsValue (value : Nat) : List Char → Nat
  | [] => value
  | digit :: digits => digitsValue (10 * value + (digit.toNat - '0'.toNat)) digits

def dropPlus : List Char → List Char
  | '+' :: digits => digits
  | digits => digits

def natural? (bound : Nat) (text : List Char) : Option Nat :=
  let digits := dropPlus text
  if digits.isEmpty || !digits.all isAsciiDigit then none
  else
    let value := digitsValue 0 digits
    if value < bound then some value else none

def decimal (value : Nat) : List Char :=
  Nat.toDigits 10 value

def total (values : List Nat) : Nat :=
  values.foldl (· + ·) 0

def word64 : Nat := Nat.pow 2 64

end SymbolCache.Text
