import SymbolCache.Text.Cut
import SymbolCache.Text.Natural

/-!
# Durations

Time limits as they stand in a configuration (`30s`, `2m`, `1h`, `1d`) and as they are shown in a
message (`1.5s`, `75ms`).
-/

set_option autoImplicit false

namespace SymbolCache

structure Duration where
  nanoseconds : Nat
  deriving Repr, DecidableEq

namespace Duration

def ofSeconds (seconds : Nat) : Duration := ⟨seconds * 1000000000⟩

def ofMilliseconds (milliseconds : Nat) : Duration := ⟨milliseconds * 1000000⟩

def seconds (duration : Duration) : Nat := duration.nanoseconds / 1000000000

def unitSeconds? : Char → Option Nat
  | 's' => some 1
  | 'm' => some 60
  | 'h' => some 3600
  | 'd' => some 86400
  | _ => none

/-- The duration that a text stands for: a numeral and a unit, with white space only around them.
The numeral and the number of seconds must both be below `2 ^ 64`. -/
def parse? (text : String) : Option Duration := do
  let text := Text.trim text.toList
  let unit ← text.getLast?
  let count ← Text.natural? Text.word64 text.dropLast
  let factor ← unitSeconds? unit
  if count * factor < Text.word64 then some (ofSeconds (count * factor)) else none

/-- The digits of a fraction that has `places` decimal places, without trailing zeros. -/
def fractionDigits (places fraction : Nat) : List Char :=
  let digits := Text.decimal fraction
  Text.trimEndWhere (· == '0') (List.replicate (places - digits.length) '0' ++ digits)

/-- A number with a fraction of `places` decimal places, and its unit. -/
def showAmount (whole fraction places : Nat) (unit : String) : String :=
  let digits := fractionDigits places fraction
  String.ofList (Text.decimal whole ++ if digits.isEmpty then [] else '.' :: digits) ++ unit

/-- A duration in the largest unit up to seconds that gives at least one, with all its decimal
places. -/
def describe (duration : Duration) : String :=
  let nanoseconds := duration.nanoseconds
  if 1000000000 ≤ nanoseconds then
    showAmount (nanoseconds / 1000000000) (nanoseconds % 1000000000) 9 "s"
  else if 1000000 ≤ nanoseconds then
    showAmount (nanoseconds / 1000000) (nanoseconds % 1000000) 6 "ms"
  else if 1000 ≤ nanoseconds then showAmount (nanoseconds / 1000) (nanoseconds % 1000) 3 "µs"
  else showAmount nanoseconds 0 0 "ns"

example : (parse? " +90s ").map describe = some "90s" := by decide +kernel

example : describe ⟨90050000000⟩ = "90.05s" := by decide +kernel

end Duration

end SymbolCache
