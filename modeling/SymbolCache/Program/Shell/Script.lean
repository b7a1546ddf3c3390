import SymbolCache.Program.Shell.Token

/-!
# Scripts of the shell

The commands that a script is made of, and how they are read from its tokens. A script is read line
by line, so that what stands before a mistake is run.
-/

set_option autoImplicit false

namespace SymbolCache.Program.Shell

abbrev Word := List Piece

/-- How a file is opened that a stream goes to. -/
inductive Opening where
  /-- A new file takes the place of one that is there, unless an option forbids it. -/
  | replace
  | replaceAlways
  /-- What is written goes to the end of one that is there. -/
  | extend
  deriving Repr, DecidableEq

inductive Target where
  /-- To where another stream of some number leads at that point, or nowhere. -/
  | stream (number : Word)
  | input (path : Word)
  | file (path : Word) (opening : Opening)
  | document (text : Word)
  | line (text : Word)
  deriving Repr, DecidableEq

/-- The number of a stream and where it comes from or goes to. -/
structure Redirection where
  source : Nat
  target : Target
  deriving Repr, DecidableEq

inductive Condition where
  | holds (word : Word)
  | unary (operator : String) (word : Word)
  /-- Two words are to each other as an operator tells. -/
  | binary (operator : String) (left right : Word)
  | negation (condition : Condition)
  | both (first second : Condition)
  | either (first second : Condition)
  deriving Repr

/-- What follows a branch that was selected. -/
inductive BranchEnd where
  | leaves
  | falls
  /-- The next branch with a pattern for the subject is run as well. -/
  | searches
  deriving Repr, DecidableEq

inductive Command where
  /-- Values for names, and the words of a command or none, on a line. -/
  | simple (line : Nat) (assignments : List Assignment) (words : List Word)
    (redirections : List Redirection)
  /-- An arithmetic expression, which succeeds if its value is not zero. -/
  | expression (line : Nat) (text : List Char)
  | condition (line : Nat) (condition : Condition)
  | redirected (line : Nat) (command : Command) (redirections : List Redirection)
  | pipeline (commands : List Command)
  | negation (command : Command)
  /-- The second one runs if the first one succeeds. -/
  | both (first second : Command)
  | either (first second : Command)
  | sequence (commands : List Command)
  | background (command : Command)
  | subshell (command : Command)
  | choice (condition body : Command) (otherwise : Option Command)
  /-- The body runs as long as the condition succeeds or, with `isUntil`, as long as it fails. -/
  | loop (isUntil : Bool) (condition body : Command)
  /-- The body runs for each word, or for each argument of the script. -/
  | forEach (name : String) (words : Option (List Word)) (body : Command)
  /-- The body runs as long as the value of an expression is not zero. Before that, and after each
  run, there are other expressions. -/
  | countedLoop (line : Nat) (first condition step : List Char) (body : Command)
  /-- The first branch runs that has a pattern for the subject. -/
  | select (subject : Word) (branches : List (List Word × Command × BranchEnd))
  | function (name : String) (body : Command)
  deriving Repr

/-! ## Words with a meaning -/

/-- The commands of the shell whose failure ends the script, and whose assignments last. -/
def specialNames : List String :=
  [".", ":", "break", "continue", "eval", "exec", "exit", "export", "readonly", "return", "set",
    "shift", "times", "trap", "unset"]

def reservedWords : List String :=
  ["!", "case", "do", "done", "elif", "else", "esac", "fi", "for", "if", "in", "then", "until",
    "while", "\x7b", "\x7d"]

/-! ## Reading tokens -/

/-- What is left of a script: its tokens, its documents, and the number of its last line. -/
structure Source where
  language : Language
  tokens : List Token
  documents : List (List Piece)
  line : Nat
  aliases : List (String × String) := []
  /-- How many tokens are left after a text in place of a name, if the word after it may be such a
  name as well. -/
  aliasEnd : Option Nat := none

def TokenKind.plainText? : TokenKind → Option String
  | .word pieces => Shell.plainText? pieces
  | _ => none

abbrev Reader (α : Type) := StateT Source (Except Mistake) α

namespace Reader

def peek? : Reader (Option TokenKind) := do
  match (← get).tokens.head? with
  | some ⟨.mistaken mistake, _, _⟩ => throw mistake
  | some token => return some token.kind
  | none => return none

def skip : Reader Unit :=
  modify fun source =>
    match source.tokens with
    | [] => source
    | token :: tokens => { source with tokens, line := token.line }

def closingWords : List String :=
  ["do", "done", "elif", "else", "esac", "fi", "then", "\x7d"]

/-- Puts the text in place of the next word that stands in place of it, if one does. `used` are the
names that were replaced at this place before. It is fuelled by the number of names. -/
def replaceAlias : Nat → List String → Reader Unit
  | 0, _ => return ()
  | fuel + 1, used => do
    let source ← get
    match source.tokens with
    | token :: rest =>
      let entry? := (token.kind.plainText?).bind fun name =>
        if used.contains name then none
        else source.aliases.find? fun entry => entry.1 == name
      match entry? with
      | some (name, text) =>
        let tokens := (tokensOf source.language token.line text.toList).tokens
        let goesOn := text.endsWith " " || text.endsWith "\t"
        set { source with
          tokens := tokens ++ rest
          aliasEnd := if goesOn then some rest.length else none }
        replaceAlias fuel (name :: used)
      | none => return ()
    | [] => return ()

def replaceAliases : Reader Unit := do
  replaceAlias ((← get).aliases.length + 1) []

/-- The name of a token in a message. `reserves` tells whether words with a meaning of their own can
stand there. -/
def describe (reserves : Bool) : Option TokenKind → String
  | none => "end of file"
  | some (.operator "\n") => "newline"
  | some (.operator text) =>
    if ["<<-", "<<", ">>", "<&", ">&", "<>", ">|", "<", ">"].contains text then "redirection"
    else "\"" ++ text ++ "\""
  | some (.stream _) | some (.mistaken _) | some (.expression _) => "redirection"
  | some (.word pieces) =>
    match (Shell.plainText? pieces).filter fun text => reserves && reservedWords.contains text with
    | some text => "\"" ++ text ++ "\""
    | none => "word"

def strayToken (source : Source) : Mistake :=
  match source.tokens with
  | token :: _ =>
    { line := token.line
      texts := ["syntax error near unexpected token \x60" ++ token.shown ++ "'"]
      showsLine := true }
  | [] => { line := source.line + 1, texts := ["syntax error: unexpected end of file"] }

def refuse {α : Type} (text : String) : Reader α := do
  let source ← get
  match source.language with
  | .plain =>
    let line := match source.tokens.head? with
      | some ⟨.operator "\n", line, _⟩ => line + 1
      | some token => token.line
      | none => source.line
    throw { line, texts := [text] }
  | .extended => throw (strayToken source)

def unexpected {α : Type} : Reader α := do
  refuse (describe true (← peek?) ++ " unexpected")

def unexpectedFor {α : Type} (reserves : Bool) (expected : String) : Reader α := do
  refuse (describe reserves (← peek?) ++ " unexpected (expecting " ++ expected ++ ")")

def atOperator (text : String) : Reader Bool := do
  return (← peek?) = some (.operator text)

def atWord (text : String) : Reader Bool := do
  return ((← peek?).bind TokenKind.plainText?) = some text

def expectWord (text : String) : Reader Unit := do
  if ← atWord text then skip else unexpectedFor true ("\"" ++ text ++ "\"")

/-- Passes over an operator that has to be there. `reserves` tells whether words with a meaning of
their own can stand there. -/
def expectOperator (reserves : Bool) (text : String) : Reader Unit := do
  if ← atOperator text then skip else unexpectedFor reserves ("\"" ++ text ++ "\"")

def skipLines : Nat → Reader Unit
  | 0 => return ()
  | fuel + 1 => do
    if ← atOperator "\n" then
      skip
      skipLines fuel

def skipAllLines : Reader Unit := do
  skipLines (← get).tokens.length

def word? : Reader (Option Word) := do
  match ← peek? with
  | some (.word pieces) =>
    skip
    return some pieces
  | _ => return none

def word : Reader Word := do
  match ← word? with
  | some pieces => return pieces
  | none => unexpected

def redirectingOperators (language : Language) : List String :=
  let shared := ["<<-", "<<", "<&", "<>", "<", ">>", ">&", ">|", ">"]
  match language with
  | .plain => shared
  | .extended => ["<<<", "&>>", "&>"] ++ shared

/-- Whether a word names a stream, as far as that can be told before it is used. -/
def namesStream (pieces : List Piece) : Bool :=
  match Shell.plainText? pieces with
  | some text => text == "-" || text.toList.all Text.isAsciiDigit
  | none => true

/-- The redirections of an operator and the word after it. `number?` is that of the stream, if it is
given. -/
def redirectionsOf (number? : Option Nat) (operator : String) (pieces : List Piece) :
    Reader (List Redirection) := do
  let source ← get
  let one (usual : Nat) (target : Target) : List Redirection := [⟨number?.getD usual, target⟩]
  let both (opening : Opening) : List Redirection :=
    [⟨1, .file pieces opening⟩, ⟨2, .stream [.character '1' false]⟩]
  match operator with
  | "<<" | "<<-" =>
    set { source with documents := source.documents.tail }
    return one 0 (.document (source.documents.headD []))
  | "<<<" => return one 0 (.line pieces)
  | "<" => return one 0 (.input pieces)
  | "<>" => return one 0 (.file pieces .extend)
  | ">>" => return one 1 (.file pieces .extend)
  | ">" => return one 1 (.file pieces .replace)
  | ">|" => return one 1 (.file pieces .replaceAlways)
  | "&>" => return both .replace
  | "&>>" => return both .extend
  | ">&" =>
    if source.language = .extended && number?.isNone && !namesStream pieces then
      return both .replace
    else return one 1 (.stream pieces)
  | _ => return one 0 (.stream pieces)

/-- Reads what an operator makes of the word after it, if there is one that redirects streams. -/
def redirection? : Reader (Option (List Redirection)) := do
  let number? ← match ← peek? with
    | some (.stream number) =>
      skip
      pure (some number)
    | _ => pure none
  match ← peek? with
  | some (.operator text) =>
    if (redirectingOperators (← get).language).contains text then
      skip
      let pieces ← word
      return some (← redirectionsOf number? text pieces)
    else return none
  | _ => return none

def redirections : Nat → Reader (List Redirection)
  | 0 => return []
  | fuel + 1 => do
    match ← redirection? with
    | some given => return given ++ (← redirections fuel)
    | none => return []

/-- Reads the words and redirections of a simple command. Assignments count as such only in front.
It is fuelled by the number of tokens. -/
def simpleParts : Nat → List Assignment → List Word → List Redirection →
    Reader (List Assignment × List Word × List Redirection)
  | 0, assignments, words, redirections => return (assignments, words, redirections)
  | fuel + 1, assignments, words, redirections => do
    let source ← get
    if words.isEmpty || source.aliasEnd = some source.tokens.length then replaceAliases
    match ← redirection?, ← peek? with
    | some given, _ => simpleParts fuel assignments words (redirections ++ given)
    | none, some (.word pieces) =>
      skip
      match words, assignment? pieces with
      | [], some assignment => simpleParts fuel (assignments ++ [assignment]) [] redirections
      | words, _ => simpleParts fuel assignments (words ++ [pieces]) redirections
    | none, _ => return (assignments, words, redirections)

/-- Reads words up to the end of a line or list. It is fuelled by the number of tokens. -/
def words : Nat → Reader (List Word)
  | 0 => return []
  | fuel + 1 => do
    match ← peek? with
    | some (.word pieces) =>
      skip
      return pieces :: (← words fuel)
    | _ => return []

/-- Reads the patterns of a branch, with bars between them. It is fuelled by the number of
tokens. -/
def patterns : Nat → Reader (List Word)
  | 0 => return []
  | fuel + 1 => do
    let pattern ← word?
    if pattern.isNone then
      if (← get).language = .extended then unexpected else skip
    let pattern := pattern.getD []
    if ← atOperator "|" then
      skip
      return pattern :: (← patterns fuel)
    else return [pattern]

def branchEnd : Reader BranchEnd := do
  if ← atOperator ";&" then
    skip
    return .falls
  else if ← atOperator ";;&" then
    skip
    return .searches
  else
    expectOperator true ";;"
    return .leaves

def atListEnd : Reader Bool := do
  match ← peek? with
  | none => return true
  | some (.operator text) => return [")", ";;", ";&", ";;&"].contains text
  | some kind => return (TokenKind.plainText? kind).any closingWords.contains

/-! ## Conditions -/

def refuseCondition {α : Type} (before : String) (details : List String) : Reader α := do
  let source ← get
  let (line, near) := match source.tokens with
    | [] => (source.line, before)
    | ⟨.operator "\n", line, _⟩ :: _ => (line, before)
    | token :: _ => (token.line, token.shown)
  let mistake : Mistake :=
    { line, texts := details ++ ["syntax error near \x60" ++ near ++ "'"], showsLine := true }
  throw mistake

/-- The token that a condition cannot go on with, as its message names it, unless it is a word. -/
def conditionToken? : Reader (Option String) := do
  match (← get).tokens with
  | [] => return some "newline"
  | token :: _ =>
    match token.kind with
    | .word _ => return if token.text = [']', ']'] then some "]]" else none
    | _ => return some token.shown

def unaryOperators : List Char :=
  "abcdefghknoprstuvwxzGLNORS".toList

def isUnaryOperator (text : String) : Bool :=
  match text.toList with
  | ['-', letter] => unaryOperators.contains letter
  | _ => false

def binaryOperators : List String :=
  ["=", "==", "!=", "=~", "-eq", "-ne", "-lt", "-le", "-gt", "-ge", "-nt", "-ot", "-ef"]

def binaryOperator? : Reader (Option String) := do
  match ← peek? with
  | some (.operator text) => return if text == "<" || text == ">" then some text else none
  | some kind => return kind.plainText?.filter binaryOperators.contains
  | none => return none

mutual

/-- Reads conditions of which one has to hold. All readers of conditions are fuelled by the number
of tokens. -/
def eitherCondition (fuel : Nat) : Reader Condition :=
  match fuel with
  | 0 => unexpected
  | fuel + 1 => do
    let first ← bothCondition fuel
    if ← atOperator "||" then
      skip
      return .either first (← eitherCondition fuel)
    else return first

def bothCondition (fuel : Nat) : Reader Condition :=
  match fuel with
  | 0 => unexpected
  | fuel + 1 => do
    let first ← oneCondition fuel
    if ← atOperator "&&" then
      skip
      return .both first (← bothCondition fuel)
    else return first

def oneCondition (fuel : Nat) : Reader Condition :=
  match fuel with
  | 0 => unexpected
  | fuel + 1 => do
    skipAllLines
    if ← atOperator "(" then
      skip
      let inside ← eitherCondition fuel
      if !(← atOperator ")") then
        let found := match ← conditionToken? with
          | some found => "unexpected token \x60" ++ found ++ "', expected \x60)'"
          | none => "expected \x60)'"
        refuseCondition "(" [found]
      skip
      skipAllLines
      return inside
    else if ← atWord "!" then
      skip
      return .negation (← oneCondition fuel)
    else if ← atWord "]]" then refuseCondition "]]" []
    else
      let text := (((← get).tokens.head?).map Token.shown).getD ""
      match ← word? with
      | none =>
        let found ← conditionToken?
        refuseCondition text
          (found.toList.map fun found =>
            "unexpected token \x60" ++ found ++ "' in conditional command")
      | some left => conditionAfter text left

def conditionAfter (text : String) (left : Word) : Reader Condition := do
  let isUnary := (Shell.plainText? left).any isUnaryOperator
  match isUnary, ← binaryOperator? with
  | _, some operator =>
    let shown := (((← get).tokens.head?).map Token.shown).getD ""
    skip
    match ← conditionToken? with
    | some found =>
      refuseCondition shown
        ["unexpected argument \x60" ++ found ++ "' to conditional binary operator"]
    | none =>
      let right ← word
      skipAllLines
      return .binary operator left right
  | true, none =>
    match ← conditionToken? with
    | some found =>
      refuseCondition text
        ["unexpected argument \x60" ++ found ++ "' to conditional unary operator"]
    | none =>
      let operand ← word
      skipAllLines
      return .unary text operand
  | false, none =>
    let ends ← (do return (← atWord "]]") || (← atOperator "&&") || (← atOperator "||") ||
      (← atOperator ")"))
    if ends then return .holds left
    else
      let found := match ← conditionToken? with
        | some found => "unexpected token \x60" ++ found ++ "', "
        | none => ""
      refuseCondition text [found ++ "conditional binary operator expected"]

end

def conditionInBrackets : Reader Condition := do
  let condition ← eitherCondition (4 * (← get).tokens.length + 4)
  if ← atWord "]]" then
    skip
    return condition
  else
    match ← conditionToken? with
    | some "newline" | none => refuseCondition "" ["syntax error in conditional expression"]
    | some found =>
      refuseCondition ""
        ["syntax error in conditional expression: unexpected token \x60" ++ found ++ "'"]

/-! ## Commands -/

/-- The words that start a command with other commands in it, in the extended language. -/
def compoundWords : List String :=
  ["\x7b", "if", "while", "until", "for", "case", "[["]

def atCompound : Reader Bool := do
  match ← peek? with
  | some (.operator text) => return text == "("
  | some (.expression _) => return true
  | some kind => return kind.plainText?.any compoundWords.contains
  | none => return false

def withMessages (line : Nat) (command : Command) : Command :=
  let joined : Redirection := ⟨2, .stream [.character '1' false]⟩
  match command with
  | .simple line assignments words redirections =>
    .simple line assignments words (redirections ++ [joined])
  | .redirected line command redirections =>
    .redirected line command (redirections ++ [joined])
  | command => .redirected line command [joined]

/-- Passes over the signs in front of a pipeline: those that turn its result around, and in the
extended language those that ask for its time. Tells whether the result is turned around. It is
fuelled by the number of tokens. -/
def pipelineSigns : Nat → Bool → Reader Bool
  | 0, isNegated => return isNegated
  | fuel + 1, isNegated => do
    let language := (← get).language
    if ← atWord "!" then
      skip
      if language = .plain then return true else pipelineSigns fuel (!isNegated)
    else if language = .extended && (← atWord "time") then
      skip
      if ← atWord "-p" then skip
      pipelineSigns fuel isNegated
    else return isNegated

mutual

/-- Reads commands up to the end of their list. All readers of commands are fuelled by the number of
tokens, each of which is read within some calls. -/
def commands (fuel : Nat) : Reader (List Command) :=
  match fuel with
  | 0 => return []
  | fuel + 1 => do
    skipAllLines
    if ← atListEnd then return []
    else
      let (command, ends) ← listed fuel
      if ends then return [command] else return command :: (← commands fuel)

def listed (fuel : Nat) : Reader (Command × Bool) :=
  match fuel with
  | 0 => return (.sequence [], true)
  | fuel + 1 => do
    let command ← joined fuel
    if ← atOperator "&" then
      skip
      return (.background command, false)
    else if (← atOperator ";") || (← atOperator "\n") then
      skip
      return (command, false)
    else return (command, true)

def joined (fuel : Nat) : Reader Command :=
  match fuel with
  | 0 => return .sequence []
  | fuel + 1 => do joinedAfter fuel (← pipeline fuel)

def joinedAfter (fuel : Nat) (first : Command) : Reader Command :=
  match fuel with
  | 0 => return first
  | fuel + 1 => do
    if ← atOperator "&&" then
      skip
      skipAllLines
      joinedAfter fuel (.both first (← pipeline fuel))
    else if ← atOperator "||" then
      skip
      skipAllLines
      joinedAfter fuel (.either first (← pipeline fuel))
    else return first

def pipeline (fuel : Nat) : Reader Command :=
  match fuel with
  | 0 => return .sequence []
  | fuel + 1 => do
    replaceAliases
    let isNegated ← pipelineSigns (← get).tokens.length false
    let command ← match ← piped fuel with
      | [command] => pure command
      | commands => pure (.pipeline commands)
    return if isNegated then .negation command else command

def piped (fuel : Nat) : Reader (List Command) :=
  match fuel with
  | 0 => return []
  | fuel + 1 => do
    let line := ((← get).tokens.head?.map Token.line).getD 1
    let first ← command fuel
    if ← atOperator "|" then
      skip
      skipAllLines
      return first :: (← piped fuel)
    else if ← atOperator "|&" then
      skip
      skipAllLines
      return withMessages line first :: (← piped fuel)
    else return [first]

def body (fuel : Nat) : Reader Command :=
  match fuel with
  | 0 => return .sequence []
  | fuel + 1 => do
    match ← commands fuel with
    | [] => if (← peek?).isNone then return .sequence [] else unexpected
    | commands => return .sequence commands

def command (fuel : Nat) : Reader Command :=
  match fuel with
  | 0 => return .sequence []
  | fuel + 1 => do
    replaceAliases
    let line := ((← get).tokens.head?.map Token.line).getD 1
    if ← atOperator "(" then
      skip
      let inside ← body fuel
      expectOperator true ")"
      redirected line (.subshell inside) fuel
    else if let some (.expression text) ← peek? then
      skip
      redirected line (.expression line text) fuel
    else
      match (← peek?).bind TokenKind.plainText? with
      | some "\x7b" =>
        skip
        let inside ← body fuel
        expectWord "\x7d"
        redirected line inside fuel
      | some "if" =>
        skip
        redirected line (← choice fuel) fuel
      | some "while" =>
        skip
        redirected line (← loop false fuel) fuel
      | some "until" =>
        skip
        redirected line (← loop true fuel) fuel
      | some "for" =>
        skip
        if let some (.expression text) ← peek? then
          skip
          redirected line (← countedLoop line text fuel) fuel
        else redirected line (← forEach fuel) fuel
      | some "case" =>
        skip
        redirected line (← select fuel) fuel
      | some text =>
        let isExtended := (← get).language = .extended
        if closingWords.contains text || text == "!" then unexpected
        else if !isExtended && text == "in" then unexpected
        else if isExtended && text == "[[" then
          skip
          redirected line (.condition line (← conditionInBrackets)) fuel
        else if isExtended && text == "function" then
          skip
          wordFunction fuel
        else simpleOrFunction line (some text) fuel
      | none => simpleOrFunction line none fuel

def redirected (line : Nat) (command : Command) (fuel : Nat) : Reader Command := do
  match ← redirections fuel with
  | [] => return command
  | redirections => return .redirected line command redirections

def simple (line : Nat) : Reader Command := do
  match ← simpleParts (← get).tokens.length [] [] [] with
  | ([], [], []) => unexpected
  | (assignments, words, redirections) => return .simple line assignments words redirections

/-- Reads a simple command or, if its first word is followed by a parenthesis, a function. -/
def simpleOrFunction (line : Nat) (name : Option String) (fuel : Nat) : Reader Command :=
  match fuel with
  | 0 => return .sequence []
  | fuel + 1 => do
    match (← get).tokens.map Token.kind with
    | .word pieces :: .operator "(" :: _ =>
      if (assignment? pieces).isSome then simple line
      else
        skip
        skip
        expectOperator false ")"
        let isExtended := (← get).language = .extended
        match name.filter fun name =>
            isExtended || isName name && !specialNames.contains name with
        | none => refuse "Bad function name"
        | some name =>
          skipAllLines
          if isExtended && !(← atCompound) then unexpected
          return .function name (← command fuel)
    | _ => simple line

def wordFunction (fuel : Nat) : Reader Command :=
  match fuel with
  | 0 => return .sequence []
  | fuel + 1 => do
    match ((← peek?).bind TokenKind.plainText?), ← word? with
    | some name, some _ =>
      if ← atOperator "(" then
        skip
        expectOperator false ")"
      skipAllLines
      if !(← atCompound) then unexpected
      return .function name (← command fuel)
    | _, _ => unexpected

def choice (fuel : Nat) : Reader Command :=
  match fuel with
  | 0 => return .sequence []
  | fuel + 1 => do
    let condition ← body fuel
    expectWord "then"
    let inside ← body fuel
    if ← atWord "elif" then
      skip
      return .choice condition inside (some (← choice fuel))
    else if ← atWord "else" then
      skip
      let otherwise ← body fuel
      expectWord "fi"
      return .choice condition inside (some otherwise)
    else
      expectWord "fi"
      return .choice condition inside none

def loop (isUntil : Bool) (fuel : Nat) : Reader Command :=
  match fuel with
  | 0 => return .sequence []
  | fuel + 1 => do
    let condition ← body fuel
    expectWord "do"
    let inside ← body fuel
    expectWord "done"
    return .loop isUntil condition inside

def loopInside (fuel : Nat) : Reader Command :=
  match fuel with
  | 0 => return .sequence []
  | fuel + 1 => do
    if (← get).language = .extended && (← atWord "\x7b") then
      skip
      let inside ← body fuel
      expectWord "\x7d"
      return inside
    else
      expectWord "do"
      let inside ← body fuel
      expectWord "done"
      return inside

def countedLoop (line : Nat) (text : List Char) (fuel : Nat) : Reader Command :=
  match fuel with
  | 0 => return .sequence []
  | fuel + 1 => do
    if ← atOperator ";" then skip
    skipAllLines
    let inside ← loopInside fuel
    match Text.split ';' text with
    | [first, condition, step] => return .countedLoop line first condition step inside
    | _ =>
      throw { line, texts := ["syntax error: arithmetic expression required"] }

def forEach (fuel : Nat) : Reader Command :=
  match fuel with
  | 0 => return .sequence []
  | fuel + 1 => do
    match (← peek?).bind TokenKind.plainText? with
    | none => refuse "Bad for loop variable"
    | some name =>
      if (← get).language = .plain && !isName name then refuse "Bad for loop variable"
      skip
      skipAllLines
      let given ← do
        if ← atWord "in" then
          skip
          let given ← words (← get).tokens.length
          if !(← atOperator ";") && !(← atOperator "\n") then unexpected
          pure (some given)
        else pure none
      if ← atOperator ";" then skip
      skipAllLines
      return .forEach name given (← loopInside fuel)

def select (fuel : Nat) : Reader Command :=
  match fuel with
  | 0 => return .sequence []
  | fuel + 1 => do
    match ← word? with
    | none => unexpectedFor false "word"
    | some subject =>
      skipAllLines
      expectWord "in"
      return .select subject (← branches fuel)

def branches (fuel : Nat) : Reader (List (List Word × Command × BranchEnd)) :=
  match fuel with
  | 0 => return []
  | fuel + 1 => do
    skipAllLines
    if ← atWord "esac" then
      skip
      return []
    else
      if ← atOperator "(" then skip
      let patterns ← patterns (← get).tokens.length
      expectOperator false ")"
      let inside ← commands fuel
      if ← atWord "esac" then
        skip
        return [(patterns, .sequence inside, .leaves)]
      else
        let following ← branchEnd
        return (patterns, .sequence inside, following) :: (← branches fuel)

end

/-! ## Scripts -/

def line (fuel : Nat) : Reader (List Command) :=
  match fuel with
  | 0 => return []
  | fuel + 1 => do
    if (← peek?).isNone then return []
    else
      let command ← joined fuel
      if ← atOperator "&" then
        skip
        return .background command :: (← rest fuel)
      else if ← atOperator ";" then
        skip
        return command :: (← rest fuel)
      else if (← atOperator "\n") || (← peek?).isNone then return [command]
      else unexpected
where
  rest (fuel : Nat) : Reader (List Command) := do
    if ← atOperator "\n" then return [] else line fuel

end Reader

def Source.size (source : Source) : Nat :=
  8 * (source.tokens.length + 8 * source.aliases.length) + 8

def readNext (source : Source) : Except Mistake (List Command × Source) :=
  (do Reader.skipAllLines; Reader.line source.size : Reader (List Command)).run source

def readList (source : Source) : Except Mistake (List Command) :=
  ((Reader.commands source.size).run source).map Prod.fst

/-- The commands of a script. In the extended language nothing may follow them. -/
def readWhole (source : Source) : Except Mistake (List Command) :=
  (do
    let commands ← Reader.commands source.size
    if source.language = .extended && !(← get).tokens.isEmpty then Reader.unexpected
    return commands : Reader (List Command)).run source |>.map Prod.fst

/-- A script that is ready to be read. The first line has a number to count from. -/
def plainSource (language : Language) (firstLine : Nat) (script : List Char) : Source :=
  let cut := tokensOf language firstLine script
  { language
    tokens := cut.tokens
    documents := cut.documents
    line := firstLine + match language with
      | .plain => lineCount script
      | .extended => lineCount (Text.trimEndWhere (· == '\n') script) }

def strayInList? (line : Nat) (text : List Char) : Option Mistake :=
  let stray? := (tokensOf .extended line text).tokens.find? fun token =>
    match token.kind with
    | .word _ | .operator "\n" => false
    | _ => true
  stray?.map fun token =>
    { line := token.line
      texts := ["syntax error near unexpected token \x60" ++ token.shown ++ "'"]
      showsLine := true
      status := 1 }

/-- A script that is ready to be read. A word with a script in it in which there is a mistake counts
as mistaken. Between parentheses there is a mistake also if something cannot follow the commands. In
the extended language only those count. It is fuelled by the depth of these scripts. -/
def sourceWithin (language : Language) : Nat → Nat → List Char → Source
  | 0, firstLine, script => plainSource language firstLine script
  | fuel + 1, firstLine, script =>
    let source := plainSource language firstLine script
    let mistakeIn? (line : Nat) (piece : Piece) : Option Mistake :=
      match piece with
      | .output script hasParentheses _ =>
        let inner := sourceWithin language fuel line script
        let read : Except Mistake Unit :=
          if hasParentheses then
            let closing : Token := ⟨.operator ")", inner.line, []⟩
            let closed := { inner with tokens := inner.tokens ++ [closing] }
            ((do
              let _ ← Reader.commands inner.size
              Reader.expectOperator true ")" : Reader Unit).run closed).map Prod.fst
          else if language = .plain then (readList inner).map fun _ => ()
          else .ok ()
        match language, read with
        | _, .ok () => none
        | .plain, .error mistake => some { mistake with line }
        | .extended, .error mistake => some { mistake with status := 127 }
      | .list text => strayInList? line text
      | _ => none
    let tokens := source.tokens.map fun token =>
      match token.kind with
      | .word pieces =>
        match pieces.findSome? (mistakeIn? token.line) with
        | some mistake => { token with kind := .mistaken mistake }
        | none => token
      | _ => token
    { source with tokens }

/-- A script that is ready to be read, with the mistakes in the scripts in its words. The first line
has a number to count from. -/
def sourceOf (language : Language) (firstLine : Nat) (script : List Char) : Source :=
  let isEnded := language = .plain || script.getLast? = some '\n'
  let script := if isEnded then script else script ++ ['\n']
  sourceWithin language (script.length + 1) firstLine script

end SymbolCache.Program.Shell
