import SymbolCache.Program.Regular.Match
import SymbolCache.Program.Regular.Syntax
import SymbolCache.Program.Utility.Line

/-!
# Calculations

A utility that calculates with its words. Each operator, number and text is a word of its own.
-/

set_option autoImplicit false

namespace SymbolCache.Program.Utility

/-! ## Quantities -/

inductive Quantity where
  | number (value : Int)
  | plain (text : List Char)
  deriving Repr, DecidableEq

namespace Quantity

def characters : Quantity → List Char
  | .number value => (toString value).toList
  | .plain text => text

def number? : Quantity → Option Int
  | .number value => some value
  | .plain text =>
    let digits := if text.head? = some '-' then text.tail else text
    if digits.isEmpty || !digits.all Text.isAsciiDigit then none
    else
      let size : Int := Text.digitsValue 0 digits
      some (if text.head? = some '-' then -size else size)

def isNull : Quantity → Bool
  | .number value => value = 0
  | .plain text =>
    let digits := if text.head? = some '-' then text.tail else text
    text.isEmpty || !digits.isEmpty && digits.all (· == '0')

def ofBool (holds : Bool) : Quantity :=
  .number (if holds then 1 else 0)

def order (first second : Quantity) : Ordering :=
  match first.number?, second.number? with
  | some first, some second => compare first second
  | _, _ => compareOfLessAndEq first.characters second.characters

/-- What an expression matches at the start of a text: the text of its first group if it has groups,
and otherwise the length. -/
def matched (text pattern : Quantity) : Except String Quantity :=
  match Regular.read { isExtended := false, isLenient := true } pattern.characters with
  | .error mistake => .error mistake.message
  | .ok (expression, groups) =>
    let ends := expression.ends false { rest := text.characters }
    match Regular.furthest? ends with
    | some place =>
      if groups = 0 then .ok (.number place.position)
      else .ok (.plain ((place.groupText? 1).getD []))
    | none => .ok (if groups = 0 then .number 0 else .plain [])

/-- The place of the first character of a text that is one of some, counted from one, or zero. -/
def place (text characters : Quantity) : Quantity :=
  let before := text.characters.takeWhile fun character => !characters.characters.contains character
  .number (if before.length = text.characters.length then 0 else before.length + 1)

def part (text start length : Quantity) : Quantity :=
  match start.number?, length.number? with
  | some start, some length =>
    if start ≤ 0 || length ≤ 0 then .plain []
    else .plain ((text.characters.drop (start.toNat - 1)).take length.toNat)
  | _, _ => .plain []

def arithmetic (operator : String) (first second : Quantity) : Except String Quantity :=
  match first.number?, second.number? with
  | some first, some second =>
    match operator with
    | "+" => .ok (.number (first + second))
    | "-" => .ok (.number (first - second))
    | "*" => .ok (.number (first * second))
    | operator =>
      if second = 0 then .error "division by zero"
      else .ok (.number (if operator = "/" then first.tdiv second else first.tmod second))
  | _, _ => .error "non-integer argument"

def operate (operator : String) (first second : Quantity) : Except String Quantity :=
  match operator with
  | "|" =>
    .ok (if !first.isNull then first else if second.isNull then .number 0 else second)
  | "&" => .ok (if first.isNull || second.isNull then .number 0 else first)
  | "<" => .ok (.ofBool (first.order second = .lt))
  | "<=" => .ok (.ofBool (first.order second ≠ .gt))
  | "=" | "==" => .ok (.ofBool (first.order second = .eq))
  | "!=" => .ok (.ofBool (first.order second ≠ .eq))
  | ">=" => .ok (.ofBool (first.order second ≠ .lt))
  | ">" => .ok (.ofBool (first.order second = .gt))
  | ":" => first.matched second
  | operator => first.arithmetic operator second

end Quantity

/-! ## Reading -/

namespace Calculation

/-- The words that are left, and the one before them. -/
structure Rest where
  words : List String
  before : String := ""

/-- Reads a part of a calculation, or tells what is wrong. -/
abbrev Reader (α : Type) := StateT Rest (Except String) α

def operators : List (List String) :=
  [["|"], ["&"], ["<", "<=", "=", "==", "!=", ">=", ">"], ["+", "-"], ["*", "/", "%"], [":"]]

def word : Reader String := do
  let rest ← get
  match rest.words with
  | [] => throw ("syntax error: missing argument after " ++ escaped rest.before)
  | word :: words =>
    set { rest with words, before := word }
    return word

def skip? (accepted : List String) : Reader (Option String) := do
  match (← get).words with
  | [] => return none
  | next :: _ => if accepted.contains next then return some (← word) else return none

def mattersAfter (operator : String) (first : Quantity) : Bool :=
  match operator with
  | "|" => first.isNull
  | "&" => !first.isNull
  | _ => true

mutual

/-- Reads operands and the operators between them that bind at least as tightly as the first of
some. What does not matter is not calculated. All readers are fuelled by the number of words. -/
def operation (fuel : Nat) (matters : Bool) (levels : List (List String)) : Reader Quantity :=
  match fuel, levels with
  | 0, _ => return .plain []
  | fuel + 1, [] => operand fuel matters
  | fuel + 1, level :: levels => do
    operationAfter fuel matters level levels (← operation fuel matters levels)

def operationAfter (fuel : Nat) (matters : Bool) (level : List String) (levels : List (List String))
    (first : Quantity) : Reader Quantity :=
  match fuel with
  | 0 => return first
  | fuel + 1 => do
    match ← skip? level with
    | none => return first
    | some operator =>
      let second ← operation fuel (matters && mattersAfter operator first) levels
      let result ← if matters then first.operate operator second else pure first
      operationAfter fuel matters level levels result

def operand (fuel : Nat) (matters : Bool) : Reader Quantity :=
  match fuel with
  | 0 => return .plain []
  | fuel + 1 => do
    match ← word with
    | "+" => return .plain (← word).toList
    | "length" => return .number (← operand fuel matters).characters.length
    | "match" =>
      let text ← operand fuel matters
      let pattern ← operand fuel matters
      if matters then text.matched pattern else return text
    | "index" =>
      let text ← operand fuel matters
      return text.place (← operand fuel matters)
    | "substr" =>
      let text ← operand fuel matters
      let start ← operand fuel matters
      return text.part start (← operand fuel matters)
    | "(" =>
      let result ← operation fuel matters operators
      let rest ← get
      match rest.words with
      | [] => throw ("syntax error: expecting ')' after " ++ escaped rest.before)
      | next :: words =>
        if next ≠ ")" then throw ("syntax error: expecting ')' instead of " ++ escaped next)
        set { rest with words, before := next }
        return result
    | ")" => throw "syntax error: unexpected ')'"
    | text => return .plain text.toList

end

def result (words : List String) : Except String Quantity := do
  let (result, rest) ← (operation (16 * words.length + 16) true operators).run { words }
  match rest.words with
  | [] => return result
  | word :: _ => throw ("syntax error: unexpected argument " ++ escaped word)

end Calculation

def expr : Utility := fun words => do
  let words := if words.head? = some "--" then words.tail else words
  if words.isEmpty then return misuse 2 "expr" "missing operand"
  else
    match Calculation.result words with
    | .error text => return complaint 2 "expr" text
    | .ok result =>
      return (printingLetters (result.characters ++ ['\n']) ⟨0⟩).andThen (.ofBool (!result.isNull))

end SymbolCache.Program.Utility
