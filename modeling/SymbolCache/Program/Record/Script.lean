import SymbolCache.Program.Record.Token

/-!
# Scripts for records

A script for records is made of rules, each of which has a pattern and an action, and of functions.
Actions are statements, and statements have expressions in them.
-/

set_option autoImplicit false

namespace SymbolCache.Program.Record

inductive Operator where
  | add
  | subtract
  | multiply
  | divide
  | remainder
  | power
  | join
  | less
  | lessOrEqual
  | equal
  | notEqual
  | greater
  | greaterOrEqual
  deriving Repr, DecidableEq

inductive Expression where
  | number (value : Float)
  | text (content : List Char)
  | regular (content : List Char)
  | name (name : String)
  | element (table : String) (key : List Expression)
  | field (number : Expression)
  | group (inside : List Expression)
  /-- Gives a value to something, perhaps the result of an operator on its value so far. -/
  | assign (operator : Option Operator) (target value : Expression)
  | choice (condition first second : Expression)
  | both (first second : Expression)
  | either (first second : Expression)
  | not (operand : Expression)
  | negative (operand : Expression)
  | positive (operand : Expression)
  | binary (operator : Operator) (first second : Expression)
  | matched (text pattern : Expression)
  | contains (key : List Expression) (table : String)
  /-- Adds one to something or takes one from it. The value is that before it unless it comes
  first. -/
  | step (isAddition comesFirst : Bool) (target : Expression)
  | call (name : String) (arguments : List Expression)
  | known (name : String) (arguments : List Expression)
  | readLine (target : Option Expression) (path : Option Expression)
  | readCommand (target : Option Expression) (command : Expression)
  deriving Repr, Inhabited

inductive Destination where
  | output
  | file (path : Expression) (isExtended : Bool)
  | command (command : Expression)
  deriving Repr

inductive Statement where
  | expression (expression : Expression)
  | print (arguments : List Expression) (destination : Destination)
  | printFormat (arguments : List Expression) (destination : Destination)
  | sequence (statements : List Statement)
  | choice (condition : Expression) (body : Statement) (otherwise : Option Statement)
  /-- The body runs as long as the condition holds and, with `comesFirst`, before it is looked at.
  -/
  | loop (comesFirst : Bool) (condition : Option Expression) (body : Statement)
    (step : Option Statement)
  | forEach (name table : String) (body : Statement)
  | goOn
  | leave
  | nextRecord
  | nextFile
  | exit (status : Option Expression)
  | giveBack (value : Option Expression)
  | delete (table : String) (key : Option (List Expression))
  deriving Repr

inductive Pattern where
  | start
  | finish
  | always
  | holds (condition : Expression)
  /-- From a record for which one condition holds up to one for which the other does. -/
  | between (first last : Expression)
  deriving Repr

/-- A rule. Without an action it prints the record. -/
structure Rule where
  pattern : Pattern
  action : Option Statement
  deriving Repr

structure Function where
  name : String
  parameters : List String
  body : Statement
  deriving Repr

structure Script where
  rules : List Rule := []
  functions : List Function := []
  deriving Repr

/-! ## Reading tokens -/

inductive Surrounding where
  | record
  | border
  | function
  deriving Repr, DecidableEq

/-- What is left of a script, and what is around it. -/
structure Source where
  tokens : List Token
  line : Nat := 1
  parentheses : Nat := 0
  braces : Nat := 0
  loops : Nat := 0
  surrounding : Surrounding := .record
  /-- The functions that are called, with the number of their arguments. -/
  calls : List (String × Nat × Nat) := []

/-- A reader of a part of a script. A mistake is a message. -/
abbrev Reader (α : Type) := StateT Source (Except String) α

namespace Reader

def refuseAt {α : Type} (line : Nat) (text : String) : Reader α :=
  throw ("line " ++ toString line ++ ": " ++ text)

def peek? : Reader (Option TokenKind) := do
  let source ← get
  match source.tokens.head? with
  | some ⟨.mistaken text, line, _⟩ =>
    if text.startsWith "unexpected" then throw (toString line ++ ": " ++ text)
    else refuseAt line text
  | some token => return some token.kind
  | none => return none

def skip : Reader Unit :=
  modify fun source =>
    match source.tokens with
    | [] => source
    | token :: tokens =>
      let line := if token.kind == .lineEnd then token.line + 1 else token.line
      { source with tokens, line }

def unexpected {α : Type} : Reader α := do
  let kind ← peek?
  let source ← get
  match source.tokens.head? with
  | none =>
    if 0 < source.braces then refuseAt source.line "missing \x7d near end of file"
    else refuseAt source.line "syntax error at or near end of line"
  | some token =>
    if 0 < source.parentheses && kind != some (.sign ")") then
      refuseAt token.line ("missing ) near " ++ token.shown)
    else if source.parentheses = 0 && kind == some (.sign ")") then
      refuseAt token.line "extra ')'"
    else refuseAt token.line ("syntax error at or near " ++ token.shown)

def atSign (sign : String) : Reader Bool := do
  return (← peek?) == some (.sign sign)

def atWord (word : String) : Reader Bool := do
  return (← peek?) == some (.word word)

def skipSign (sign : String) : Reader Bool := do
  if ← atSign sign then
    skip
    return true
  else return false

def expectSign (sign : String) : Reader Unit := do
  if !(← skipSign sign) then unexpected

def expectWord (word : String) : Reader Unit := do
  if ← atWord word then skip else unexpected

def skipLines : Nat → Reader Unit
  | 0 => return ()
  | fuel + 1 => do
    if (← peek?) == some .lineEnd then
      skip
      skipLines fuel

def skipAllLines : Reader Unit := do
  skipLines (← get).tokens.length

def name : Reader String := do
  match ← peek? with
  | some (.name name) =>
    skip
    return name
  | _ => unexpected

def enclosed {α : Type} (inside : Reader α) : Reader α := do
  expectSign "("
  modify fun source => { source with parentheses := source.parentheses + 1 }
  let result ← inside
  if !(← atSign ")") then unexpected
  modify fun source => { source with parentheses := source.parentheses - 1 }
  skip
  return result

/-- The operators between values that a sign stands for, by how tightly they bind. -/
def additions : List (String × Operator) :=
  [("+", .add), ("-", .subtract)]

def products : List (String × Operator) :=
  [("*", .multiply), ("/", .divide), ("%", .remainder)]

def comparisons : List (String × Operator) :=
  [("<", .less), ("<=", .lessOrEqual), ("==", .equal), ("!=", .notEqual), (">", .greater),
    (">=", .greaterOrEqual)]

/-- The signs that give a value to something, with the operator that they have in them. -/
def assignments : List (String × Option Operator) :=
  [("=", none), ("+=", some .add), ("-=", some .subtract), ("*=", some .multiply),
    ("/=", some .divide), ("%=", some .remainder), ("^=", some .power)]

def bySign? {α : Type} (table : List (String × α)) : Reader (Option α) := do
  match ← peek? with
  | some (.sign sign) => return (table.find? fun entry => entry.1 == sign).map Prod.snd
  | _ => return none

def isTarget : Expression → Bool
  | .name _ | .element _ _ | .field _ => true
  | _ => false

/-- Whether an operand starts with a token that follows another one without a sign between them. -/
def startsOperand : Option TokenKind → Bool
  | some (.number _) | some (.text _) | some (.regular _) | some (.name _) | some (.called _) =>
    true
  | some (.word word) => isKnownFunction word
  | some (.sign sign) => ["(", "$", "!", "++", "--"].contains sign
  | _ => false

/-! ## Expressions -/

mutual

/-- Reads an expression. With `isPrinted` a greater sign is not a part of it. All readers of
expressions are fuelled by the number of tokens. -/
def expression (fuel : Nat) (isPrinted : Bool) : Reader Expression :=
  match fuel with
  | 0 => unexpected
  | fuel + 1 => do
    let condition ← disjunction fuel isPrinted
    if ← skipSign "?" then
      skipAllLines
      let first ← expression fuel isPrinted
      skipAllLines
      expectSign ":"
      skipAllLines
      return .choice condition first (← expression fuel isPrinted)
    else return condition

def disjunction (fuel : Nat) (isPrinted : Bool) : Reader Expression :=
  match fuel with
  | 0 => unexpected
  | fuel + 1 => do
    let first ← conjunction fuel isPrinted
    if ← skipSign "||" then
      skipAllLines
      return .either first (← disjunction fuel isPrinted)
    else return first

def conjunction (fuel : Nat) (isPrinted : Bool) : Reader Expression :=
  match fuel with
  | 0 => unexpected
  | fuel + 1 => do
    let first ← membership fuel isPrinted
    if ← skipSign "&&" then
      skipAllLines
      return .both first (← conjunction fuel isPrinted)
    else return first

def membership (fuel : Nat) (isPrinted : Bool) : Reader Expression :=
  match fuel with
  | 0 => unexpected
  | fuel + 1 => do membershipAfter fuel (← search fuel isPrinted)

def membershipAfter (fuel : Nat) (first : Expression) : Reader Expression :=
  match fuel with
  | 0 => return first
  | fuel + 1 => do
    if ← atWord "in" then
      skip
      membershipAfter fuel (.contains [first] (← name))
    else return first

def search (fuel : Nat) (isPrinted : Bool) : Reader Expression :=
  match fuel with
  | 0 => unexpected
  | fuel + 1 => do searchAfter fuel isPrinted (← comparison fuel isPrinted)

def searchAfter (fuel : Nat) (isPrinted : Bool) (first : Expression) : Reader Expression :=
  match fuel with
  | 0 => return first
  | fuel + 1 => do
    if ← skipSign "~" then
      searchAfter fuel isPrinted (.matched first (← comparison fuel isPrinted))
    else if ← skipSign "!~" then
      searchAfter fuel isPrinted (.not (.matched first (← comparison fuel isPrinted)))
    else return first

def comparison (fuel : Nat) (isPrinted : Bool) : Reader Expression :=
  match fuel with
  | 0 => unexpected
  | fuel + 1 => do comparisonAfter fuel isPrinted (← assignment fuel isPrinted)

def comparisonAfter (fuel : Nat) (isPrinted : Bool) (first : Expression) : Reader Expression :=
  match fuel with
  | 0 => return first
  | fuel + 1 => do
    match ← bySign? comparisons with
    | none => return first
    | some operator =>
      if isPrinted && operator = .greater then return first
      else
        skip
        comparisonAfter fuel isPrinted (.binary operator first (← assignment fuel isPrinted))

def assignment (fuel : Nat) (isPrinted : Bool) : Reader Expression :=
  match fuel with
  | 0 => unexpected
  | fuel + 1 => do
    let target ← joined fuel
    match ← bySign? assignments with
    | some operator =>
      if isTarget target then
        skip
        return .assign operator target (← expression fuel isPrinted)
      else return target
    | none => return target

def joined (fuel : Nat) : Reader Expression :=
  match fuel with
  | 0 => unexpected
  | fuel + 1 => do joinedAfter fuel (← operation fuel additions)

def joinedAfter (fuel : Nat) (first : Expression) : Reader Expression :=
  match fuel with
  | 0 => return first
  | fuel + 1 => do
    if startsOperand (← peek?) then
      joinedAfter fuel (.binary .join first (← operation fuel additions))
    else return first

def operation (fuel : Nat) (operators : List (String × Operator)) : Reader Expression :=
  match fuel with
  | 0 => unexpected
  | fuel + 1 => do
    let first ← if operators = products then signed fuel else operation fuel products
    operationAfter fuel operators first

def operationAfter (fuel : Nat) (operators : List (String × Operator)) (first : Expression) :
    Reader Expression :=
  match fuel with
  | 0 => return first
  | fuel + 1 => do
    match ← bySign? operators with
    | none => return first
    | some operator =>
      skip
      let second ← if operators = products then signed fuel else operation fuel products
      operationAfter fuel operators (.binary operator first second)

def signed (fuel : Nat) : Reader Expression :=
  match fuel with
  | 0 => unexpected
  | fuel + 1 => do
    if ← skipSign "!" then return .not (← signed fuel)
    else if ← skipSign "-" then return .negative (← signed fuel)
    else if ← skipSign "+" then return .positive (← signed fuel)
    else pipedAfter fuel (← power fuel)

def pipedAfter (fuel : Nat) (first : Expression) : Reader Expression :=
  match fuel with
  | 0 => return first
  | fuel + 1 => do
    match (← get).tokens with
    | ⟨.sign "|", _, _⟩ :: ⟨.word "getline", _, _⟩ :: _ =>
      skip
      skip
      pipedAfter fuel (.readCommand (← target? fuel) first)
    | _ => return first

def power (fuel : Nat) : Reader Expression :=
  match fuel with
  | 0 => unexpected
  | fuel + 1 => do
    let base ← stepped fuel
    if ← skipSign "^" then
      match ← bySign? additions with
      | some _ => return .binary .power base (← signed fuel)
      | none => return .binary .power base (← power fuel)
    else return base

def stepped (fuel : Nat) : Reader Expression :=
  match fuel with
  | 0 => unexpected
  | fuel + 1 => do
    if ← skipSign "++" then return .step true true (← stepTarget fuel)
    else if ← skipSign "--" then return .step false true (← stepTarget fuel)
    else
      let operand ← operand fuel
      if !isTarget operand then return operand
      else if ← skipSign "++" then return .step true false operand
      else if ← skipSign "--" then return .step false false operand
      else return operand

def stepTarget (fuel : Nat) : Reader Expression :=
  match fuel with
  | 0 => unexpected
  | fuel + 1 => do
    let target ← operand fuel
    if isTarget target then return target else unexpected

def target? (fuel : Nat) : Reader (Option Expression) :=
  match fuel with
  | 0 => return none
  | fuel + 1 => do
    match ← peek? with
    | some (.name _) | some (.sign "$") => return some (← operand fuel)
    | _ => return none

/-- Reads expressions with commas between them, up to a sign that is not read. There may be none. -/
def list (fuel : Nat) (last : String) (isPrinted : Bool) : Reader (List Expression) :=
  match fuel with
  | 0 => return []
  | fuel + 1 => do
    if ← atSign last then return []
    else
      let first ← expression fuel isPrinted
      return first :: (← listAfter fuel isPrinted)

def listAfter (fuel : Nat) (isPrinted : Bool) : Reader (List Expression) :=
  match fuel with
  | 0 => return []
  | fuel + 1 => do
    if ← skipSign "," then
      skipAllLines
      let next ← expression fuel isPrinted
      return next :: (← listAfter fuel isPrinted)
    else return []

def operand (fuel : Nat) : Reader Expression :=
  match fuel with
  | 0 => unexpected
  | fuel + 1 => do
    match ← peek? with
    | some (.number value) =>
      skip
      return .number value
    | some (.text content) =>
      skip
      return .text content
    | some (.regular content) =>
      skip
      return .regular content
    | some (.name name) =>
      skip
      if ← skipSign "[" then
        let key ← list fuel "]" false
        if key.isEmpty then unexpected
        expectSign "]"
        return .element name key
      else return .name name
    | some (.called name) =>
      let line := ((← get).tokens.head?.map Token.line).getD 1
      skip
      let arguments ← enclosed (list fuel ")" false)
      modify fun source =>
        { source with calls := source.calls ++ [(name, arguments.length, line)] }
      return .call name arguments
    | some (.sign "$") =>
      skip
      match ← peek? with
      | some (.sign "-") | some (.sign "+") | some (.sign "!") =>
        return .field (← signed fuel)
      | some (.sign "++") | some (.sign "--") => return .field (← stepped fuel)
      | _ => return .field (← operand fuel)
    | some (.sign "(") =>
      let inside ← enclosed (list fuel ")" false)
      if inside.isEmpty then unexpected
      else if 1 < inside.length then
        if ← atWord "in" then
          skip
          return .contains inside (← name)
        else return .group inside
      else return .group inside
    | some (.word "getline") =>
      skip
      let target ← target? fuel
      if ← skipSign "<" then
        return .readLine target (some (← power fuel))
      else return .readLine target none
    | some (.word word) =>
      match knownFunctions.find? fun entry => entry.1 == word with
      | none => unexpected
      | some (_, least, most) =>
        let line := ((← get).tokens.head?.map Token.line).getD 1
        skip
        if !(← atSign "(") then
          if word == "length" then return .known word [] else unexpected
        else
          let arguments ← enclosed (list fuel ")" false)
          if arguments.length < least || most < arguments.length then
            refuseAt line ("wrong number of arguments in call to " ++ word)
          return .known word arguments
    | _ => unexpected

end

/-! ## Statements -/

def whole : Reader Expression := do
  expression (16 * (← get).tokens.length + 16) false

def atStatementEnd : Reader Bool := do
  match ← peek? with
  | none | some .lineEnd | some (.sign ";") | some (.sign "\x7d") => return true
  | _ => return false

def endStatement : Reader Unit := do
  match ← peek? with
  | some .lineEnd | some (.sign ";") =>
    skip
    skipAllLines
  | some (.sign "\x7d") => return ()
  | _ => unexpected

def destination : Reader Destination := do
  if ← skipSign ">" then return .file (← whole) false
  else if ← skipSign ">>" then return .file (← whole) true
  else if ← skipSign "|" then return .command (← whole)
  else return .output

def printed : Reader (List Expression) := do
  if (← atStatementEnd) || (← atSign ">") || (← atSign ">>") || (← atSign "|") then return []
  else
    let fuel := 16 * (← get).tokens.length + 16
    match ← list fuel ";" true with
    | [.group inside] => return inside
    | arguments => return arguments

def simple : Reader Statement := do
  let line := ((← get).tokens.head?.map Token.line).getD 1
  match ← peek? with
  | some (.word "print") =>
    skip
    let arguments ← printed
    return .print arguments (← destination)
  | some (.word "printf") =>
    skip
    let arguments ← printed
    if arguments.isEmpty then refuseAt line "no arguments in call to printf"
    return .printFormat arguments (← destination)
  | some (.word "delete") =>
    skip
    let table ← name
    if ← skipSign "[" then
      let key ← list (16 * (← get).tokens.length + 16) "]" false
      expectSign "]"
      return .delete table (some key)
    else return .delete table none
  | some (.word "break") =>
    skip
    if (← get).loops = 0 then refuseAt line "break statement outside of loop"
    return .leave
  | some (.word "continue") =>
    skip
    if (← get).loops = 0 then refuseAt line "continue statement outside of loop"
    return .goOn
  | some (.word "next") =>
    skip
    if (← get).surrounding ≠ .record then refuseAt line "improper use of next"
    return .nextRecord
  | some (.word "nextfile") =>
    skip
    if (← get).surrounding ≠ .record then refuseAt line "improper use of nextfile"
    return .nextFile
  | some (.word "exit") =>
    skip
    if ← atStatementEnd then return .exit none else return .exit (some (← whole))
  | some (.word "return") =>
    skip
    if (← get).surrounding ≠ .function then refuseAt line "return outside function body"
    if ← atStatementEnd then return .giveBack none else return .giveBack (some (← whole))
  | _ => return .expression (← whole)

def inLoop {α : Type} (inside : Reader α) : Reader α := do
  modify fun source => { source with loops := source.loops + 1 }
  let result ← inside
  modify fun source => { source with loops := source.loops - 1 }
  return result

mutual

/-- Reads a statement. All readers of statements are fuelled by the number of tokens. -/
def statement (fuel : Nat) : Reader Statement :=
  match fuel with
  | 0 => unexpected
  | fuel + 1 => do
    match ← peek? with
    | some (.sign "\x7b") =>
      let inside ← block fuel
      if ← skipSign ";" then skipAllLines
      skipAllLines
      return inside
    | some (.sign ";") =>
      skip
      skipAllLines
      return .sequence []
    | some (.word "if") =>
      skip
      let condition ← enclosed whole
      skipAllLines
      let body ← statement fuel
      if ← atWord "else" then
        skip
        skipAllLines
        return .choice condition body (some (← statement fuel))
      else return .choice condition body none
    | some (.word "while") =>
      skip
      let condition ← enclosed whole
      if ← skipSign ";" then
        skipAllLines
        return .loop false (some condition) (.sequence []) none
      else
        skipAllLines
        return .loop false (some condition) (← inLoop (statement fuel)) none
    | some (.word "do") =>
      skip
      skipAllLines
      let body ← inLoop (statement fuel)
      expectWord "while"
      let condition ← enclosed whole
      endStatement
      return .loop true (some condition) body none
    | some (.word "for") =>
      skip
      forLoop fuel
    | _ =>
      let inside ← simple
      endStatement
      return inside

def forLoop (fuel : Nat) : Reader Statement :=
  match fuel with
  | 0 => unexpected
  | fuel + 1 => do
    match ((← get).tokens.take 5).map Token.kind with
    | .sign "(" :: .name key :: .word "in" :: .name table :: .sign ")" :: _ =>
      skip
      skip
      skip
      skip
      skip
      skipAllLines
      return .forEach key table (← inLoop (statement fuel))
    | .sign "(" :: .name _ :: .word "in" :: _ =>
      skip
      skip
      skip
      let _ ← name
      unexpected
    | _ =>
      let (first, condition, step) ← enclosed do
        let first ← if ← atSign ";" then pure none else some <$> simple
        expectSign ";"
        skipAllLines
        let condition ← if ← atSign ";" then pure none else some <$> whole
        expectSign ";"
        skipAllLines
        let step ← if ← atSign ")" then pure none else some <$> simple
        return (first, condition, step)
      skipAllLines
      let body ← inLoop (statement fuel)
      return .sequence (first.toList ++ [.loop false condition body step])

def block (fuel : Nat) : Reader Statement :=
  match fuel with
  | 0 => unexpected
  | fuel + 1 => do
    expectSign "\x7b"
    modify fun source => { source with braces := source.braces + 1 }
    skipAllLines
    let inside ← statements fuel
    modify fun source => { source with braces := source.braces - 1 }
    skip
    return .sequence inside

def statements (fuel : Nat) : Reader (List Statement) :=
  match fuel with
  | 0 => unexpected
  | fuel + 1 => do
    if ← atSign "\x7d" then return []
    else
      let first ← statement fuel
      return first :: (← statements fuel)

end

/-! ## Scripts -/

def action (surrounding : Surrounding) : Reader Statement := do
  modify fun source => { source with surrounding, loops := 0 }
  block (4 * (← get).tokens.length + 4)

def action? : Reader (Option Statement) := do
  if ← atSign "\x7b" then return some (← action .record)
  else
    match ← peek? with
    | none | some .lineEnd | some (.sign ";") => return none
    | _ => unexpected

/-- Reads names with commas between them, up to a closing parenthesis. It is fuelled by the number
of tokens. -/
def parameters : Nat → Reader (List String)
  | 0 => return []
  | fuel + 1 => do
    if ← skipSign ")" then return []
    else
      let first ← name
      if ← skipSign "," then
        skipAllLines
        return first :: (← parameters fuel)
      else
        expectSign ")"
        return [first]

def function (known : List Function) : Reader Function := do
  let line := ((← get).tokens.head?.map Token.line).getD 1
  let name ← match ← peek? with
    | some (.name name) | some (.called name) =>
      skip
      pure name
    | _ => unexpected
  if known.any fun other => other.name == name then refuseAt line ("redefinition of " ++ name)
  expectSign "("
  let parameters ← parameters (← get).tokens.length
  match parameters.find? fun parameter => 1 < parameters.count parameter with
  | some parameter => refuseAt line (parameter ++ " is duplicated in argument list")
  | none => skipAllLines
  let body ← action .function
  return { name, parameters, body }

def rule : Reader Rule := do
  match ← peek? with
  | some (.word "BEGIN") =>
    skip
    return { pattern := .start, action := some (← action .border) }
  | some (.word "END") =>
    skip
    return { pattern := .finish, action := some (← action .border) }
  | some (.sign "\x7b") => return { pattern := .always, action := some (← action .record) }
  | some (.sign "\x7d") =>
    let line := ((← get).tokens.head?.map Token.line).getD 1
    skip
    let next := ((← get).tokens.head?.map Token.shown).getD "end of line"
    let front := "line " ++ toString line ++ ": "
    throw (front ++ "extra '\x7d'\n" ++ front ++ "syntax error at or near " ++ next)
  | _ =>
    let first ← whole
    if ← skipSign "," then
      skipAllLines
      let last ← whole
      return { pattern := .between first last, action := ← action? }
    else return { pattern := .holds first, action := ← action? }

def script : Nat → Script → Reader Script
  | 0, found => return found
  | fuel + 1, found => do
    skipAllLines
    if (← peek?).isNone then return found
    else
      let found ← do
        if ← atWord "function" then
          skip
          pure { found with functions := found.functions ++ [← function found.functions] }
        else pure { found with rules := found.rules ++ [← rule] }
      if ← skipSign ";" then skipAllLines
      script fuel found

def wholeScript : Reader Script := do
  let found ← script ((← get).tokens.length + 1) {}
  if found.rules.isEmpty && found.functions.isEmpty then return found
  else
    let source ← get
    for (name, count, line) in source.calls do
      match found.functions.find? fun function => function.name == name with
      | none => refuseAt source.line ("function " ++ name ++ " never defined")
      | some function =>
        if function.parameters.length < count then
          refuseAt line ("too many arguments in call to " ++ name)
    return found

end Reader

def Script.ofText (text : List Char) : Except String Script :=
  (Reader.wholeScript.run { tokens := tokensOf text }).map Prod.fst

end SymbolCache.Program.Record
