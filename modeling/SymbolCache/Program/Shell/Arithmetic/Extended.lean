import SymbolCache.Program.Shell.Arithmetic
import SymbolCache.Program.Shell.Word

/-!
# Arithmetic of the extended language

Expressions have more operators than those of the plain language: powers, steps, and one that drops
a value. Names may be elements of lists. The value of a name is an expression of its own.
-/

set_option autoImplicit false

namespace SymbolCache.Program.Shell.Arithmetic.Extended

/-- A name, or an element of a list by its key. -/
structure Target where
  name : String
  key : Option String := none
  deriving Repr, DecidableEq

inductive Mistake where
  /-- A reason, the text of the expression, and what is left of it from the last token on. -/
  | syntactic (reason text rest : String)
  | unbound (name : String)
  deriving Repr, DecidableEq

def Mistake.message : Mistake → String
  | .syntactic reason text rest =>
    let isBlank (character : Char) : Bool := character == ' ' || character == '\t'
    String.ofList (text.toList.dropWhile isBlank) ++ ": " ++ reason ++ " (error token is \"" ++
      rest ++ "\")"
  | .unbound name => name ++ ": unbound variable"

structure Names where
  value? : Target → Option String
  isKeyed : String → Bool
  isStrict : Bool

/-! ## Tokens -/

inductive TokenKind where
  | number (value : Int)
  | name (name : String) (subscript : Option (List Char))
  | operator (text : String)
  /-- A step up or down that stands before a name or after one. -/
  | step (isBefore : Bool) (change : Int)
  /-- Something that is no token, for a reason. The text of the expression may be cut off there. -/
  | mistaken (reason : String) (isCut : Bool)
  deriving Repr, DecidableEq

/-- A token with the text from its start on and the text after it. -/
structure Token where
  kind : TokenKind
  text : List Char
  after : List Char
  deriving Repr, DecidableEq

def digitIn (base : Nat) (digit : Char) : Nat :=
  if Text.isAsciiDigit digit then digit.toNat - '0'.toNat
  else if 'a' ≤ digit && digit ≤ 'z' then digit.toNat - 'a'.toNat + 10
  else if 'A' ≤ digit && digit ≤ 'Z' then
    digit.toNat - 'A'.toNat + if base ≤ 36 then 10 else 36
  else if digit == '@' then 62
  else 63

def numberIn (base : Nat) (digits : List Char) : TokenKind :=
  if digits.contains '#' then .mistaken "invalid number" true
  else if digits.any fun digit => base ≤ digitIn base digit then
    .mistaken "value too great for base" true
  else .number (bits (digits.foldl (fun value digit => value * base + digitIn base digit) 0)).toInt

/-- The number that a numeral stands for. It may start with its base and a number sign. -/
def numeral (text : List Char) : TokenKind :=
  match text with
  | '0' :: 'x' :: digits | '0' :: 'X' :: digits => numberIn 16 digits
  | '0' :: digits => numberIn 8 digits
  | text =>
    match Text.splitOnce '#' text with
    | none => numberIn 10 text
    | some (base, digits) =>
      match numberIn 10 base with
      | .number base =>
        if base < 2 || 64 < base then .mistaken "invalid arithmetic base" true
        else if digits.isEmpty then .mistaken "invalid integer constant" true
        else numberIn base.toNat digits
      | mistaken => mistaken

def operatorTexts : List String :=
  ["<<=", ">>=", "<<", ">>", "<=", ">=", "==", "!=", "&&", "||", "**", "+=", "-=", "*=", "/=", "%=",
    "&=", "|=", "^=", "+", "-", "*", "/", "%", "<", ">", "!", "~", "&", "|", "^", "(", ")", "?",
    ":", "=", ","]

def startsName (character : Char) : Bool :=
  Text.isAsciiWord character && !Text.isAsciiDigit character

def step? (before : Option TokenKind) (text : List Char) : Option (TokenKind × List Char) :=
  let step (change : Int) (rest : List Char) : Option (TokenKind × List Char) :=
    match before with
    | some (.name _ _) => some (.step false change, rest)
    | _ =>
      let next := rest.dropWhile fun character => [' ', '\t', '\n'].contains character
      if next.head?.any startsName then some (.step true change, rest) else none
  match text with
  | '+' :: '+' :: rest => step 1 rest
  | '-' :: '-' :: rest => step (-1) rest
  | _ => none

/-- The next token of a text that does not start with a blank, and the text after it. -/
def nextToken (before : Option TokenKind) (text : List Char) : TokenKind × List Char :=
  let first := text.headD ' '
  if Text.isAsciiDigit first then
    let digits := text.takeWhile fun character =>
      Text.isAsciiWord character || character == '#' || character == '@'
    (numeral digits, text.drop digits.length)
  else if startsName first then
    let name := text.takeWhile Text.isAsciiWord
    match text.drop name.length with
    | '[' :: rest =>
      match readSubscript? (rest.length + 1) 0 rest with
      | some (subscript, rest) => (.name (String.ofList name) (some subscript), rest)
      | none => (.name (String.ofList name) none, '[' :: rest)
    | rest => (.name (String.ofList name) none, rest)
  else
    match step? before text with
    | some found => found
    | none =>
      match operatorTexts.findSome? fun operator =>
          (Text.dropPrefix? operator.toList text).map fun rest => (operator, rest) with
      | some (operator, rest) => (.operator operator, rest)
      | none =>
        let isAfterValue := match before with
          | some (.number _) | some (.name _ _) | some (.step _ _) => true
          | _ => false
        let reason := if isAfterValue then "syntax error: invalid arithmetic operator"
          else "syntax error: operand expected"
        (.mistaken reason false, [])

def tokens : Nat → Option TokenKind → List Char → List Token
  | 0, _, _ => []
  | fuel + 1, before, text =>
    let text := text.dropWhile fun character => [' ', '\t', '\n'].contains character
    if text.isEmpty then []
    else
      let (kind, after) := nextToken before text
      ⟨kind, text, after⟩ :: tokens fuel (some kind) after

/-! ## Reading values -/

structure Progress where
  text : List Char
  tokens : List Token
  /-- How deep the values of names may still stand in each other. -/
  depth : Nat
  last : List Char := []
  given : List (Target × Int) := []

abbrev Reader (α : Type) := StateT Progress (Except Mistake) α

def refuseAt {α : Type} (rest : List Char) (reason : String) : Reader α := do
  throw (.syntactic reason (String.ofList (← get).text) (String.ofList rest))

def refuse {α : Type} (reason : String) : Reader α := do
  let progress ← get
  refuseAt ((progress.tokens.head?.map Token.text).getD progress.last) reason

def check : Reader Unit := do
  let progress ← get
  match progress.tokens with
  | ⟨.mistaken reason isCut, text, after⟩ :: _ =>
    if isCut then
      let ahead := progress.text.take (progress.text.length - after.length)
      let own := text.take (text.length - after.length)
      throw (.syntactic reason (String.ofList ahead) (String.ofList own))
    else refuseAt text reason
  | _ => return ()

def advance : Reader Unit := do
  modify fun progress =>
    { progress with
      tokens := progress.tokens.tail
      last := (progress.tokens.head?.map Token.text).getD progress.last }
  check

def skip? (operator : String) : Reader Bool := do
  match (← get).tokens with
  | ⟨.operator text, _, _⟩ :: _ =>
    if text = operator then
      advance
      return true
    else return false
  | _ => return false

def anyOf? (operators : List String) : Reader (Option (String × List Char)) := do
  match (← get).tokens with
  | ⟨.operator text, _, after⟩ :: _ =>
    return if operators.contains text then some (text, after) else none
  | _ => return none

def give (target : Target) (value : Int) : Reader Unit :=
  modify fun progress =>
    { progress with
      given := progress.given.filter (fun entry => entry.1 != target) ++ [(target, value)] }

def depthLimit : Nat := 64

/-- The result of an operator between two values. `after` is the text after the operator. -/
def applied (isIdle : Bool) (operator : String) (after : List Char) (left right : Int) :
    Reader Int := do
  match apply operator left right with
  | .ok value => return value
  | .error _ =>
    if isIdle then return left
    else
      refuseAt (after.dropWhile fun character => [' ', '\t'].contains character) "division by 0"

def power (base exponent : Int) : Int :=
  (BitVec.ofInt 64 base ^ exponent.toNat).toInt

mutual

/-- Reads values of which the last one counts. With `isIdle` nothing is done. All readers of values
are fuelled. -/
def readAll (names : Names) (isIdle : Bool) (fuel : Nat) : Reader Int :=
  match fuel with
  | 0 => refuse "expression recursion level exceeded"
  | fuel + 1 => do
    let value ← readAssignment names isIdle fuel
    if ← skip? "," then readAll names isIdle fuel else return value

def readAssignment (names : Names) (isIdle : Bool) (fuel : Nat) : Reader Int :=
  match fuel with
  | 0 => refuse "expression recursion level exceeded"
  | fuel + 1 => do
    match (← get).tokens with
    | ⟨.name name subscript, _, _⟩ :: ⟨.operator operator, _, after⟩ :: _ =>
      if assigningOperators.contains operator then
        advance
        advance
        let target ← targetOf names isIdle name subscript fuel
        if operator = "=" then
          let value ← readAssignment names isIdle fuel
          if !isIdle then give target value
          return value
        else
          let before ← if isIdle then pure 0 else valueOf names target fuel
          let value ← readAssignment names isIdle fuel
          let value ← applied isIdle (operator.dropEnd 1).toString after before value
          if !isIdle then give target value
          return value
      else readChoice names isIdle fuel
    | _ => readChoice names isIdle fuel

def readChoice (names : Names) (isIdle : Bool) (fuel : Nat) : Reader Int :=
  match fuel with
  | 0 => refuse "expression recursion level exceeded"
  | fuel + 1 => do
    let value ← readPlainChoice names isIdle fuel
    if (← anyOf? assigningOperators).isSome then refuse "attempted assignment to non-variable"
    return value

def readPlainChoice (names : Names) (isIdle : Bool) (fuel : Nat) : Reader Int :=
  match fuel with
  | 0 => refuse "expression recursion level exceeded"
  | fuel + 1 => do
    let condition ← readEither names isIdle fuel
    if ← skip? "?" then
      let progress ← get
      if progress.tokens.isEmpty || (← anyOf? [":"]).isSome then refuse "expression expected"
      let first ← readAll names (isIdle || condition == 0) fuel
      if !(← skip? ":") then refuse "\x60:' expected for conditional expression"
      if (← get).tokens.isEmpty then refuse "expression expected"
      let second ← readPlainChoice names (isIdle || condition != 0) fuel
      return if condition != 0 then first else second
    else return condition

def readEither (names : Names) (isIdle : Bool) (fuel : Nat) : Reader Int :=
  match fuel with
  | 0 => refuse "expression recursion level exceeded"
  | fuel + 1 => do
    let first ← readBoth names isIdle fuel
    if ← skip? "||" then
      let second ← readEither names (isIdle || first != 0) fuel
      return truth (first != 0 || second != 0)
    else return first

def readBoth (names : Names) (isIdle : Bool) (fuel : Nat) : Reader Int :=
  match fuel with
  | 0 => refuse "expression recursion level exceeded"
  | fuel + 1 => do
    let first ← readLevels names isIdle levels fuel
    if ← skip? "&&" then
      let second ← readBoth names (isIdle || first == 0) fuel
      return truth (first != 0 && second != 0)
    else return first

def readLevels (names : Names) (isIdle : Bool) (levels : List (List String))
    (fuel : Nat) : Reader Int :=
  match fuel, levels with
  | 0, _ => refuse "expression recursion level exceeded"
  | fuel + 1, [] => readPower names isIdle fuel
  | fuel + 1, operators :: levels => do
    let first ← readLevels names isIdle levels fuel
    readLevelRest names isIdle operators levels first fuel

def readLevelRest (names : Names) (isIdle : Bool) (operators : List String)
    (levels : List (List String)) (first : Int) (fuel : Nat) : Reader Int :=
  match fuel with
  | 0 => refuse "expression recursion level exceeded"
  | fuel + 1 => do
    match ← anyOf? operators with
    | some (operator, after) =>
      advance
      let second ← readLevels names isIdle levels fuel
      let value ← applied isIdle operator after first second
      readLevelRest names isIdle operators levels value fuel
    | none => return first

def readPower (names : Names) (isIdle : Bool) (fuel : Nat) : Reader Int :=
  match fuel with
  | 0 => refuse "expression recursion level exceeded"
  | fuel + 1 => do
    let base ← readSigned names isIdle fuel
    if ← skip? "**" then
      let exponent ← readPower names isIdle fuel
      if exponent < 0 then refuse "exponent less than 0"
      return power base exponent
    else return base

def readSigned (names : Names) (isIdle : Bool) (fuel : Nat) : Reader Int :=
  match fuel with
  | 0 => refuse "expression recursion level exceeded"
  | fuel + 1 => do
    match (← get).tokens with
    | ⟨.number value, _, _⟩ :: _ =>
      advance
      return value
    | ⟨.name name subscript, _, _⟩ :: _ =>
      advance
      let target ← targetOf names isIdle name subscript fuel
      let value ← if isIdle then pure 0 else valueOf names target fuel
      match (← get).tokens with
      | ⟨.step false change, _, _⟩ :: _ =>
        advance
        if !isIdle then give target (bits (value + change)).toInt
        return value
      | _ => return value
    | ⟨.step _ change, _, _⟩ :: ⟨.name name subscript, _, _⟩ :: _ =>
      advance
      advance
      let target ← targetOf names isIdle name subscript fuel
      if isIdle then return 0
      else
        let value := (bits ((← valueOf names target fuel) + change)).toInt
        give target value
        return value
    | ⟨.operator operator, _, _⟩ :: _ =>
      match operator with
      | "(" =>
        advance
        let value ← readAll names isIdle fuel
        if !(← skip? ")") then refuse "missing \x60)'"
        return value
      | "-" =>
        advance
        return (bits (-(← readSigned names isIdle fuel))).toInt
      | "+" =>
        advance
        readSigned names isIdle fuel
      | "!" =>
        advance
        return truth ((← readSigned names isIdle fuel) == 0)
      | "~" =>
        advance
        return -(← readSigned names isIdle fuel) - 1
      | _ => refuse "syntax error: operand expected"
    | _ => refuse "syntax error: operand expected"

def targetOf (names : Names) (isIdle : Bool) (name : String)
    (subscript : Option (List Char)) (fuel : Nat) : Reader Target :=
  match fuel with
  | 0 => refuse "expression recursion level exceeded"
  | fuel + 1 => do
    match subscript with
    | none => return { name }
    | some text =>
      if names.isKeyed name then return { name, key := some (String.ofList text) }
      else if isIdle then return { name }
      else
        let index ← readText names text fuel
        return { name, key := if index = 0 then none else some (toString index) }

def valueOf (names : Names) (target : Target) (fuel : Nat) : Reader Int :=
  match fuel with
  | 0 => refuse "expression recursion level exceeded"
  | fuel + 1 => do
    match (← get).given.find? fun entry => entry.1 == target with
    | some (_, value) => return value
    | none =>
      match names.value? target with
      | some text => readText names text.toList fuel
      | none => if names.isStrict then throw (.unbound target.name) else return 0

def readText (names : Names) (text : List Char) (fuel : Nat) : Reader Int :=
  match fuel with
  | 0 => refuse "expression recursion level exceeded"
  | fuel + 1 => do
    let before ← get
    if before.depth = 0 then
      throw (.syntactic "expression recursion level exceeded" (String.ofList text)
        (String.ofList text))
    let own := tokens (text.length + 1) none text
    set { before with text, tokens := own, last := [], depth := before.depth - 1 }
    if own.isEmpty then
      set before
      return 0
    else
      check
      let value ← readAll names false fuel
      if !(← get).tokens.isEmpty then refuse "syntax error in expression"
      modify fun progress => { before with given := progress.given }
      return value

end

def evaluate (names : Names) (expression : List Char) :
    Except Mistake (Int × List (Target × Int)) := do
  let fuel := 24 * expression.length + 24 * 24 * depthLimit
  let (value, progress) ←
    (readText names expression fuel).run
      { text := expression, tokens := [], depth := depthLimit }
  return (value, progress.given)

end SymbolCache.Program.Shell.Arithmetic.Extended
