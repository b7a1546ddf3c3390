import SymbolCache.Text.Cut
import SymbolCache.Text.Natural

/-!
# Arithmetic of the shell

Integer expressions with the usual operators, in which names stand for the numbers that they hold.
An expression may give values to names. What is not needed for the result is read but does nothing.
-/

set_option autoImplicit false

namespace SymbolCache.Program.Shell.Arithmetic

inductive Token where
  | number (value : Int)
  | name (text : String)
  | operator (text : String)
  /-- A character that is no part of an expression. -/
  | other
  deriving Repr, DecidableEq

inductive Mistake where
  | divisionByZero
  | expecting (what : String)
  | illegalNumber (text : String)
  deriving Repr, DecidableEq

def Mistake.message (expression : String) : Mistake → String
  | .divisionByZero => "arithmetic expression: division by zero: \"" ++ expression ++ "\""
  | .expecting what => "arithmetic expression: expecting " ++ what ++ ": \"" ++ expression ++ "\""
  | .illegalNumber text => "Illegal number: " ++ text

/-! ## Numbers -/

def bits (value : Int) : BitVec 64 :=
  BitVec.ofInt 64 value

def clamp (value : Int) : Int :=
  max (-Int.pow 2 63) (min (Int.pow 2 63 - 1) value)

def digitValue (digit : Char) : Nat :=
  if Text.isAsciiDigit digit then digit.toNat - '0'.toNat
  else digit.toLower.toNat - 'a'.toNat + 10

def isDigit (base : Nat) (character : Char) : Bool :=
  character.isAlphanum && digitValue character < base

def valueIn (base : Nat) (digits : List Char) : Nat :=
  digits.foldl (fun value digit => value * base + digitValue digit) 0

/-- Reads a numeral: octal after a zero, hexadecimal after a zero and an x, else decimal. -/
def readNumeral (text : List Char) : Nat × List Char :=
  let read (base : Nat) (text : List Char) : Nat × List Char :=
    (valueIn base (text.takeWhile (isDigit base)), text.dropWhile (isDigit base))
  match text with
  | '0' :: letter :: digit :: rest =>
    if (letter == 'x' || letter == 'X') && isDigit 16 digit then read 16 (digit :: rest)
    else read 8 text
  | '0' :: rest => read 8 ('0' :: rest)
  | text => read 10 text

def numberOf (text : String) : Except Mistake Int :=
  let isBlank (character : Char) : Bool := character == ' ' || '\t' ≤ character && character ≤ '\r'
  let trimmed := text.toList.dropWhile isBlank
  let (sign, digits) : Int × List Char := match trimmed with
    | '-' :: digits => (-1, digits)
    | '+' :: digits => (1, digits)
    | digits => (1, digits)
  let (value, rest) := readNumeral digits
  let isWhole := rest.all isBlank &&
    (digits.head?.any Text.isAsciiDigit || trimmed.isEmpty)
  if isWhole && clamp (sign * value) = sign * value then .ok (sign * value)
  else .error (.illegalNumber text)

/-! ## Tokens -/

def operatorTexts : List String :=
  ["<<=", ">>=", "<<", ">>", "<=", ">=", "==", "!=", "&&", "||", "+=", "-=", "*=", "/=", "%=", "&=",
    "|=", "^=", "+", "-", "*", "/", "%", "<", ">", "!", "~", "&", "|", "^", "(", ")", "?", ":", "="]

def tokens : Nat → List Char → List Token
  | 0, _ => []
  | _ + 1, [] => []
  | fuel + 1, character :: rest =>
    let text := character :: rest
    if [' ', '\t', '\n'].contains character then tokens fuel rest
    else if Text.isAsciiDigit character then
      let (value, rest) := readNumeral text
      .number (clamp value) :: tokens fuel rest
    else if Text.isAsciiWord character then
      let word := text.takeWhile Text.isAsciiWord
      .name (String.ofList word) :: tokens fuel (text.drop word.length)
    else
      match operatorTexts.findSome? fun operator =>
          (Text.dropPrefix? operator.toList text).map fun rest => (operator, rest) with
      | some (operator, rest) => .operator operator :: tokens fuel rest
      | none => .other :: tokens fuel rest

/-! ## Operators -/

/-- The operators between two values that are applied at once, those that bind least first. -/
def levels : List (List String) :=
  [["|"], ["^"], ["&"], ["==", "!="], ["<", ">", "<=", ">="], ["<<", ">>"], ["+", "-"],
    ["*", "/", "%"]]

def truth (holds : Bool) : Int :=
  if holds then 1 else 0

def apply (operator : String) (left right : Int) : Except Mistake Int :=
  let wrap (value : Int) : Except Mistake Int := .ok (bits value).toInt
  match operator with
  | "|" => .ok ((bits left ||| bits right).toInt)
  | "^" => .ok ((bits left ^^^ bits right).toInt)
  | "&" => .ok ((bits left &&& bits right).toInt)
  | "==" => .ok (truth (left == right))
  | "!=" => .ok (truth (left != right))
  | "<" => .ok (truth (left < right))
  | ">" => .ok (truth (right < left))
  | "<=" => .ok (truth (left ≤ right))
  | ">=" => .ok (truth (right ≤ left))
  | "<<" => .ok ((bits left <<< ((bits right).toNat % 64)).toInt)
  | ">>" => .ok (((bits left).sshiftRight ((bits right).toNat % 64)).toInt)
  | "+" => wrap (left + right)
  | "-" => wrap (left - right)
  | "*" => wrap (left * right)
  | "/" => if right = 0 then .error .divisionByZero else wrap (left.tdiv right)
  | "%" => if right = 0 then .error .divisionByZero else wrap (left.tmod right)
  | _ => .ok right

/-! ## Reading values -/

/-- What is left of an expression, and the values that it has given to names so far. -/
structure Rest where
  tokens : List Token
  given : List (String × Int) := []

abbrev Reader (α : Type) := StateT Rest (Except Mistake) α

def skip? (operator : String) : Reader Bool := do
  let rest ← get
  match rest.tokens with
  | .operator text :: tokens =>
    if text = operator then
      set { rest with tokens }
      return true
    else return false
  | _ => return false

def anyOf? (operators : List String) : Reader (Option String) := do
  let rest ← get
  match rest.tokens with
  | .operator text :: tokens =>
    if operators.contains text then
      set { rest with tokens }
      return some text
    else return none
  | _ => return none

/-- The value of a name: one that the expression has given to it, or the one that it has. -/
def valueOf (lookup : String → String) (name : String) : Reader Int := do
  match (← get).given.find? fun entry => entry.1 == name with
  | some (_, value) => return value
  | none => numberOf (lookup name)

def assigningOperators : List String :=
  ["=", "+=", "-=", "*=", "/=", "%=", "<<=", ">>=", "&=", "|=", "^="]

mutual

/-- Reads a value that may be given to a name. With `isIdle` it does nothing. All readers of values
are fuelled. -/
def readAssignment (lookup : String → String) (isIdle : Bool) (fuel : Nat) : Reader Int :=
  match fuel with
  | 0 => throw (.expecting "primary")
  | fuel + 1 => do
    let rest ← get
    match rest.tokens with
    | .name name :: .operator operator :: tokens =>
      if assigningOperators.contains operator then
        set { rest with tokens }
        let value ← readAssignment lookup isIdle fuel
        if isIdle then return value
        else
          let value ← if operator = "=" then pure value
            else do apply (operator.dropEnd 1).toString (← valueOf lookup name) value
          modify fun rest =>
            { rest with
              given := (name, value) :: rest.given.filter fun entry => entry.1 != name }
          return value
      else readChoice lookup isIdle fuel
    | _ => readChoice lookup isIdle fuel

def readChoice (lookup : String → String) (isIdle : Bool) (fuel : Nat) : Reader Int :=
  match fuel with
  | 0 => throw (.expecting "primary")
  | fuel + 1 => do
    let condition ← readEither lookup isIdle fuel
    if ← skip? "?" then
      let first ← readAssignment lookup (isIdle || condition == 0) fuel
      if !(← skip? ":") then throw (.expecting "':'")
      let second ← readChoice lookup (isIdle || condition != 0) fuel
      return if condition != 0 then first else second
    else return condition

def readEither (lookup : String → String) (isIdle : Bool) (fuel : Nat) : Reader Int :=
  match fuel with
  | 0 => throw (.expecting "primary")
  | fuel + 1 => do
    let first ← readBoth lookup isIdle fuel
    if ← skip? "||" then
      let second ← readEither lookup (isIdle || first != 0) fuel
      return truth (first != 0 || second != 0)
    else return first

def readBoth (lookup : String → String) (isIdle : Bool) (fuel : Nat) : Reader Int :=
  match fuel with
  | 0 => throw (.expecting "primary")
  | fuel + 1 => do
    let first ← readLevels lookup isIdle levels fuel
    if ← skip? "&&" then
      let second ← readBoth lookup (isIdle || first == 0) fuel
      return truth (first != 0 && second != 0)
    else return first

def readLevels (lookup : String → String) (isIdle : Bool) (levels : List (List String))
    (fuel : Nat) : Reader Int :=
  match fuel, levels with
  | 0, _ => throw (.expecting "primary")
  | fuel + 1, [] => readSigned lookup isIdle fuel
  | fuel + 1, operators :: levels => do
    readLevelRest lookup isIdle operators levels (← readLevels lookup isIdle levels fuel) fuel

def readLevelRest (lookup : String → String) (isIdle : Bool) (operators : List String)
    (levels : List (List String)) (first : Int) (fuel : Nat) : Reader Int :=
  match fuel with
  | 0 => throw (.expecting "primary")
  | fuel + 1 => do
    match ← anyOf? operators with
    | some operator =>
      let second ← readLevels lookup isIdle levels fuel
      let value ← if isIdle then pure second else apply operator first second
      readLevelRest lookup isIdle operators levels value fuel
    | none => return first

def readSigned (lookup : String → String) (isIdle : Bool) (fuel : Nat) : Reader Int :=
  match fuel with
  | 0 => throw (.expecting "primary")
  | fuel + 1 => do
    let rest ← get
    match rest.tokens with
    | .number value :: tokens =>
      set { rest with tokens }
      return value
    | .name name :: tokens =>
      set { rest with tokens }
      if isIdle then return 0 else valueOf lookup name
    | .operator operator :: tokens =>
      set { rest with tokens }
      match operator with
      | "(" =>
        let value ← readAssignment lookup isIdle fuel
        if !(← skip? ")") then throw (.expecting "')'")
        return value
      | "-" => return (bits (-(← readSigned lookup isIdle fuel))).toInt
      | "+" => readSigned lookup isIdle fuel
      | "!" => return truth ((← readSigned lookup isIdle fuel) == 0)
      | "~" => return -(← readSigned lookup isIdle fuel) - 1
      | _ => throw (.expecting "primary")
    | _ => throw (.expecting "primary")

end

def evaluate (lookup : String → String) (expression : List Char) :
    Except Mistake (Int × List (String × Int)) := do
  let text := tokens (expression.length + 1) expression
  let (value, rest) ← (readAssignment lookup false (16 * text.length + 16)).run { tokens := text }
  if rest.tokens.isEmpty then return (value, rest.given.reverse)
  else throw (.expecting "EOF")

end SymbolCache.Program.Shell.Arithmetic
