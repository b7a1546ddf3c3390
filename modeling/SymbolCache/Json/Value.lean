import Std.Data.ExtTreeMap.Lemmas
import SymbolCache.Json.Syntax
import SymbolCache.Text.Decimal

/-!
# JSON values

The values that JSON texts stand for. An integer keeps its value from `-2^63` up to `2^64 - 1`;
every other number is real. A text stands for no value if it nests deeper than 127 levels, has a
number that comes out beyond the largest binary64 number, or has a string with a lone surrogate.
Fields are in ascending order of their names, each once; the last of a repeated field counts.
-/

set_option autoImplicit false

namespace SymbolCache

inductive Json where
  | null
  | boolean (value : Bool)
  | integer (value : Int)
  | real (literal : Json.NumberLiteral)
  | string (text : String)
  | array (elements : List Json)
  | object (fields : List (String × Json))
  deriving Repr

namespace Json

/-- The deepest nesting of a text that stands for a value. -/
def maxDepth : Nat := 127

/-- The value of a number, if it has one. Minus zero is not an integer. -/
def NumberLiteral.toJson? (literal : NumberLiteral) : Option Json :=
  let value := Text.digitsValue 0 literal.whole
  let signed : Int := if literal.negative then -(value : Int) else value
  if literal.isIntegral && !(literal.negative && value == 0) &&
      decide (-(Nat.pow 2 63 : Int) ≤ signed) && decide (signed < Nat.pow 2 64) then
    some (.integer signed)
  else
    let (digits, exponent) :=
      Decimal.leading literal.whole literal.fraction (literal.exponent.getD 0)
    if Decimal.isFiniteProduct digits exponent then some (.real literal) else none

/-- Fields in ascending order of their names, the last of a repeated name. -/
def sortFields (fields : List (String × Json)) : List (String × Json) :=
  (Std.ExtTreeMap.ofList fields compare).toList

mutual

/-- The value that a syntax tree stands for, when it may nest `depth` levels deeper. -/
def ofSyntax? (depth : Nat) : Syntax → Option Json
  | .null => some .null
  | .boolean value => some (.boolean value)
  | .number literal => literal.toJson?
  | .string text => text.map .string
  | .array elements =>
    match depth with
    | 0 => none
    | depth + 1 => (ofElements? depth elements).map .array
  | .object fields =>
    match depth with
    | 0 => none
    | depth + 1 => (ofFields? depth fields).map fun fields => .object (sortFields fields)

def ofElements? (depth : Nat) : List Syntax → Option (List Json)
  | [] => some []
  | element :: elements => do
    let value ← ofSyntax? depth element
    let values ← ofElements? depth elements
    return value :: values

/-- The values of the fields of an object, in the order written. -/
def ofFields? (depth : Nat) : List (Option String × Syntax) → Option (List (String × Json))
  | [] => some []
  | (name, field) :: fields => do
    let name ← name
    let value ← ofSyntax? depth field
    let values ← ofFields? depth fields
    return (name, value) :: values

end

def read? (text : String) : Option Json :=
  (Syntax.read? text).bind (ofSyntax? maxDepth)

def field? (name : String) : Json → Option Json
  | .object fields => (fields.find? fun field => field.1 == name).map Prod.snd
  | _ => none

def asString? : Json → Option String
  | .string text => some text
  | _ => none

def asBool? : Json → Option Bool
  | .boolean value => some value
  | _ => none

def asNat? (bits : Nat) : Json → Option Nat
  | .integer value => if 0 ≤ value ∧ value < Nat.pow 2 bits then some value.toNat else none
  | _ => none

end Json

end SymbolCache

/-!
## Printing JSON

Two layouts of one value: compact, without any white space, and indented by two spaces a level.
Strings escape the quote, the backslash and control characters only; fields keep their order.
-/

namespace SymbolCache.Json

def hexDigit (value : Nat) : Char :=
  Char.ofNat (if value < 10 then '0'.toNat + value else 'a'.toNat + (value - 10))

/-- A character as it stands between the quotes of a string. -/
def escapeCharacter (character : Char) : List Char :=
  if character == '"' then ['\\', '"']
  else if character == '\\' then ['\\', '\\']
  else if character == '\x08' then ['\\', 'b']
  else if character == '\x0c' then ['\\', 'f']
  else if character == '\n' then ['\\', 'n']
  else if character == '\r' then ['\\', 'r']
  else if character == '\t' then ['\\', 't']
  else if character.toNat < 0x20 then
    ['\\', 'u', '0', '0', hexDigit (character.toNat / 16), hexDigit (character.toNat % 16)]
  else [character]

def renderString (text : String) : List Char :=
  '"' :: text.toList.flatMap escapeCharacter ++ ['"']

def renderInteger (value : Int) : List Char :=
  if value < 0 then '-' :: Nat.toDigits 10 value.natAbs else Nat.toDigits 10 value.natAbs

def renderReal (literal : NumberLiteral) : List Char :=
  (if literal.negative then ['-'] else []) ++ literal.whole ++
    (if literal.fraction.isEmpty then [] else '.' :: literal.fraction) ++
    match literal.exponent with
    | some exponent => 'e' :: renderInteger exponent
    | none => []

mutual

def render : Json → List Char
  | .null => ['n', 'u', 'l', 'l']
  | .boolean true => ['t', 'r', 'u', 'e']
  | .boolean false => ['f', 'a', 'l', 's', 'e']
  | .integer value => renderInteger value
  | .real literal => renderReal literal
  | .string text => renderString text
  | .array elements => '[' :: renderElements elements ++ [']']
  | .object fields => '{' :: renderFields fields ++ ['}']

def renderElements : List Json → List Char
  | [] => []
  | [element] => render element
  | element :: next :: elements => render element ++ ',' :: renderElements (next :: elements)

def renderFields : List (String × Json) → List Char
  | [] => []
  | [(name, value)] => renderString name ++ ':' :: render value
  | (name, value) :: next :: fields =>
    renderString name ++ ':' :: render value ++ ',' :: renderFields (next :: fields)

end

def newLine (level : Nat) : List Char :=
  '\n' :: List.replicate (2 * level) ' '

mutual

/-- The indented layout at a level. An empty array or object stays on its line. -/
def renderIndented (level : Nat) : Json → List Char
  | .array [] => ['[', ']']
  | .array (element :: elements) =>
    '[' :: renderIndentedElements (level + 1) (element :: elements) ++ newLine level ++ [']']
  | .object [] => ['{', '}']
  | .object (field :: fields) =>
    '{' :: renderIndentedFields (level + 1) (field :: fields) ++ newLine level ++ ['}']
  | .null => render .null
  | .boolean value => render (.boolean value)
  | .integer value => render (.integer value)
  | .real literal => render (.real literal)
  | .string text => render (.string text)

def renderIndentedElements (level : Nat) : List Json → List Char
  | [] => []
  | [element] => newLine level ++ renderIndented level element
  | element :: next :: elements =>
    newLine level ++ renderIndented level element ++ ',' ::
      renderIndentedElements level (next :: elements)

def renderIndentedFields (level : Nat) : List (String × Json) → List Char
  | [] => []
  | [(name, value)] =>
    newLine level ++ renderString name ++ ':' :: ' ' :: renderIndented level value
  | (name, value) :: next :: fields =>
    newLine level ++ renderString name ++ ':' :: ' ' :: renderIndented level value ++ ',' ::
      renderIndentedFields level (next :: fields)

end

def indented (value : Json) : String :=
  String.ofList (renderIndented 0 value)

end SymbolCache.Json
