import SymbolCache.Program.Regular.Match
import SymbolCache.Program.Utility.Format
import SymbolCache.Program.Utility.Line

/-!
# Scripts for editing

A script is a list of commands, each with the addresses of the lines that it is for. Groups of
commands are marked by their ends, and jumps name the labels where they lead to.
-/

set_option autoImplicit false

namespace SymbolCache.Program.Utility.Edit

open Regular (Expression)

/-! ## Commands -/

/-- An expression, or nothing for the one that was used last. -/
structure Target where
  expression : Option Expression
  ignoresCase : Bool := false
  deriving Repr

inductive Address where
  | line (number : Nat)
  | last
  | every (first step : Nat)
  | matching (target : Target)
  deriving Repr

inductive RangeEnd where
  | address (address : Address)
  | lines (count : Nat)
  | multiple (divisor : Nat)
  deriving Repr

structure Selector where
  start : Option Address := none
  finish : Option RangeEnd := none
  negated : Bool := false
  deriving Repr

/-- How letters are changed in a replacement. -/
inductive CaseChange where
  | upper
  | lower
  | none
  | upperNext
  | lowerNext
  deriving Repr, DecidableEq

inductive ReplacementPart where
  | text (text : List Char)
  /-- What a group has matched; the group zero is the whole match. -/
  | group (number : Nat)
  | change (change : CaseChange)
  deriving Repr, DecidableEq

structure Substitution where
  target : Target
  replacement : List ReplacementPart
  /-- The number of the first match that is replaced. -/
  first : Nat := 1
  /-- Whether all matches after it are replaced as well. -/
  replacesRest : Bool := false
  prints : Bool := false
  file : Option String := none
  deriving Repr

inductive JumpCondition where
  | always
  | afterReplacing
  | unlessReplaced
  deriving Repr, DecidableEq

/-- How the two texts that are kept are moved. -/
inductive Transfer where
  | hold
  | holdMore
  | get
  | getMore
  | exchange
  deriving Repr, DecidableEq

inductive Action where
  | opens
  | closes
  | label (name : String)
  | jump (condition : JumpCondition) (label : Option String)
  | append (text : List Char)
  | insert (text : List Char)
  | change (text : List Char)
  | delete
  | deleteFirst
  | print
  | printFirst
  | printNumber
  | printName
  | printEscaped (width : Option Nat)
  | next
  | nextMore
  | transfer (transfer : Transfer)
  | substitute (substitution : Substitution)
  | translate (members replacements : List Char)
  | readFile (path : String)
  | write (path : String)
  | writeFirst (path : String)
  | clear
  | quit (prints : Bool) (status : Nat)
  deriving Repr

structure Command where
  selector : Selector
  action : Action
  deriving Repr

/-! ## Reading characters -/

/-- What is known while a script is read: the characters that are left and how many groups are
open. -/
structure Position where
  rest : List Char
  depth : Nat := 0

/-- Reads a part of a script, or tells what is wrong at the place that has been reached. -/
abbrev Reader (α : Type) := ExceptT String (StateM Position) α

def failHere {α : Type} (text : String) : Reader α :=
  throw text

def readOne : Reader (Option Char) := do
  match (← get).rest with
  | [] => return none
  | character :: rest =>
    modify fun position => { position with rest }
    return some character

def peek : Reader (Option Char) := do
  return (← get).rest.head?

def readWhile (isWanted : Char → Bool) : Reader (List Char) := do
  let rest := (← get).rest
  modify fun position => { position with rest := rest.dropWhile isWanted }
  return rest.takeWhile isWanted

def readNumber : Reader (Option Nat) := do
  match ← readWhile Text.isAsciiDigit with
  | [] => return none
  | digits => return some (Text.digitsValue 0 digits)

/-! ## Texts between delimiters -/

def readBracket : List Char → Option (List Char × List Char)
  | [] => none
  | ']' :: rest => some ([']'], rest)
  | '\n' :: _ => none
  | '[' :: sign :: rest =>
    if [':', '.', '='].contains sign then
      (readNamed sign rest).map fun (inside, rest) => ('[' :: sign :: inside, rest)
    else (readBracket (sign :: rest)).map fun (inside, rest) => ('[' :: inside, rest)
  | '\\' :: 'n' :: rest => (readBracket rest).map fun (inside, rest) => ('\n' :: inside, rest)
  | character :: rest =>
    (readBracket rest).map fun (inside, rest) => (character :: inside, rest)
where
  /-- Reads a name in brackets and what follows it. -/
  readNamed (sign : Char) : List Char → Option (List Char × List Char)
    | [] => none
    | character :: ']' :: rest =>
      if character == sign then
        (readBracket rest).map fun (inside, rest) => (sign :: ']' :: inside, rest)
      else
        (readNamed sign (']' :: rest)).map fun (inside, rest) => (character :: inside, rest)
    | character :: rest =>
      (readNamed sign rest).map fun (inside, rest) => (character :: inside, rest)

/-- Reads a bracket expression after the bracket that opens it. One that closes it does not stand in
first place. -/
def readBrackets (text : List Char) : Option (List Char × List Char) :=
  let (front, text) := match text with
    | '^' :: ']' :: text => (['^', ']'], text)
    | '^' :: text => (['^'], text)
    | ']' :: text => ([']'], text)
    | text => ([], text)
  (readBracket text).map fun (inside, rest) => (front ++ inside, rest)

/-- Reads a text up to a delimiter, which a backslash lets stand for itself. In an expression it may
stand in brackets as well. It is fuelled by the length of the text. -/
def readDelimited (delimiter : Char) (isExpression : Bool) :
    Nat → List Char → Option (List Char × List Char)
  | 0, _ => none
  | _ + 1, [] => none
  | fuel + 1, '\\' :: character :: rest =>
    let kept :=
      if character == '\n' then ['\n']
      else if isExpression && character == 'n' then ['\n']
      else if character == delimiter && !(character == '&' && !isExpression) then [character]
      else ['\\', character]
    (readDelimited delimiter isExpression fuel rest).map
      fun (text, rest) => (kept ++ text, rest)
  | fuel + 1, character :: rest =>
    if character == delimiter then some ([], rest)
    else if isExpression && character == '\n' then none
    else if isExpression && character == '[' then do
      let (inside, rest) ← readBrackets rest
      let (text, rest) ← readDelimited delimiter isExpression fuel rest
      return ('[' :: inside ++ text, rest)
    else
      (readDelimited delimiter isExpression fuel rest).map
        fun (text, rest) => (character :: text, rest)

def readUpTo (delimiter : Char) (isExpression : Bool) : Reader (Option (List Char)) := do
  let rest := (← get).rest
  match readDelimited delimiter isExpression (rest.length + 1) rest with
  | some (text, rest) =>
    modify fun position => { position with rest }
    return some text
  | none =>
    modify fun position => { position with rest := [] }
    return none

/-! ## Escapes -/

def readCode (base count : Nat) (rest : List Char) : Option (Char × List Char) :=
  let (value, after) := readDigits base count 0 rest
  let byte := value.toUInt8
  if after.length = rest.length then none
  else some (if byte < 0x80 then Char.ofNat byte.toNat else Text.strayOf byte, after)

def readEscaped : List Char → Option (Char × List Char)
  | 'a' :: rest => some ('\x07', rest)
  | 'f' :: rest => some ('\x0c', rest)
  | 'n' :: rest => some ('\n', rest)
  | 'r' :: rest => some ('\r', rest)
  | 't' :: rest => some ('\t', rest)
  | 'v' :: rest => some ('\x0b', rest)
  | 'd' :: rest => readCode 10 3 rest
  | 'o' :: rest => readCode 8 3 rest
  | 'x' :: rest => readCode 16 2 rest
  | _ => none

/-- Puts characters in place of their escapes in an expression. What would be a sign in it keeps a
backslash. It is fuelled by the length of the text. -/
def expandExpression : Nat → List Char → List Char
  | 0, text => text
  | _ + 1, [] => []
  | fuel + 1, '\\' :: rest =>
    match readEscaped rest with
    | some (character, rest) =>
      let isSign := ['*', '.', '[', ']', '^', '$', '\\'].contains character
      (if isSign then ['\\', character] else [character]) ++ expandExpression fuel rest
    | none => '\\' :: rest.take 1 ++ expandExpression fuel (rest.drop 1)
  | fuel + 1, character :: rest => character :: expandExpression fuel rest

/-- A text without its backslashes, with characters in place of escapes. It is fuelled by the length
of the text. -/
def expandText : Nat → List Char → List Char
  | 0, text => text
  | _ + 1, [] => []
  | fuel + 1, '\\' :: rest =>
    match readEscaped rest with
    | some (character, rest) => character :: expandText fuel rest
    | none => rest.take 1 ++ expandText fuel (rest.drop 1)
  | fuel + 1, character :: rest => character :: expandText fuel rest

def replacementParts : Nat → List Char → List ReplacementPart
  | 0, _ => []
  | _ + 1, [] => []
  | fuel + 1, '&' :: rest => .group 0 :: replacementParts fuel rest
  | fuel + 1, '\\' :: letter :: rest =>
    if Text.isAsciiDigit letter then
      .group (letter.toNat - '0'.toNat) :: replacementParts fuel rest
    else
      let change : Option CaseChange := match letter with
        | 'U' => some .upper
        | 'L' => some .lower
        | 'E' => some .none
        | 'u' => some .upperNext
        | 'l' => some .lowerNext
        | _ => none
      match change, readEscaped (letter :: rest) with
      | some change, _ => .change change :: replacementParts fuel rest
      | none, some (character, rest) => .text [character] :: replacementParts fuel rest
      | none, none => .text [letter] :: replacementParts fuel rest
  | fuel + 1, character :: rest => .text [character] :: replacementParts fuel rest

/-! ## Parts of commands -/

/-- Reads an expression that stands in a text. The empty one is that which was used last. -/
def targetOf (isExtended : Bool) (text : List Char) (ignoresCase : Bool) :
    Reader (Target × Nat) := do
  if text.isEmpty then return ({ expression := none, ignoresCase }, 9)
  else
    match Regular.read { isExtended, isLenient := !isExtended }
      (Text.lettersOf (Text.encodeLetters (expandExpression (text.length + 1) text))) with
    | .ok (expression, groups) =>
      return ({ expression := some expression, ignoresCase }, groups)
    | .error mistake => failHere mistake.message

def readMatching (isExtended : Bool) (delimiter : Char) : Reader Address := do
  match ← readUpTo delimiter true with
  | none => failHere "unterminated address regex"
  | some text =>
    let flags ← readWhile fun letter => letter == 'I' || letter == 'M'
    let (target, _) ← targetOf isExtended text (flags.contains 'I')
    return .matching target

def readAddress (isExtended : Bool) : Reader (Option Address) := do
  match ← peek with
  | some '$' =>
    let _ ← readOne
    return some .last
  | some '/' =>
    let _ ← readOne
    return some (← readMatching isExtended '/')
  | some '\\' =>
    let _ ← readOne
    match ← readOne with
    | some delimiter => return some (← readMatching isExtended delimiter)
    | none => failHere "unterminated address regex"
  | some _ =>
    match ← readNumber with
    | none => return none
    | some number =>
      let _ ← readWhile isSpace
      if (← peek) == some '~' then
        let _ ← readOne
        return some (.every number ((← readNumber).getD 0))
      else return some (.line number)
  | none => return none

def readRangeEnd (isExtended : Bool) : Reader RangeEnd := do
  let _ ← readWhile isSpace
  match ← peek with
  | some '+' =>
    let _ ← readOne
    return .lines ((← readNumber).getD 0)
  | some '~' =>
    let _ ← readOne
    return .multiple ((← readNumber).getD 0)
  | _ =>
    match ← readAddress isExtended with
    | some address => return .address address
    | none =>
      let _ ← readOne
      failHere "unexpected \x60,'"

def readSelector (isExtended : Bool) : Reader Selector := do
  match ← peek with
  | some '+' | some '~' =>
    modify fun position => { position with rest := position.rest.drop 2 }
    failHere "invalid usage of +N or ~N as first address"
  | _ => pure ()
  let start ← readAddress isExtended
  let _ ← readWhile isSpace
  let finish ← do
    if start.isSome && (← peek) == some ',' then
      let _ ← readOne
      pure (some (← readRangeEnd isExtended))
    else pure none
  match start, finish with
  | some (.line 0), some (.address (.matching _)) => pure ()
  | some (.line 0), _ =>
    let _ ← readOne
    failHere "invalid usage of line address 0"
  | _, _ => pure ()
  let _ ← readWhile isSpace
  let mut negated := false
  if (← peek) == some '!' then
    let _ ← readOne
    negated := true
    let _ ← readWhile isSpace
    if (← peek) == some '!' then
      let _ ← readOne
      failHere "multiple \x60!'s"
  return { start, finish, negated }

def readEnd : Reader Unit := do
  let _ ← readWhile isBlank
  match ← peek with
  | none | some '\x7d' | some '#' => return ()
  | some ';' | some '\n' =>
    let _ ← readOne
    return ()
  | some _ =>
    let _ ← readOne
    failHere "extra characters after command"

def readFileName : Reader String := do
  let _ ← readWhile isBlank
  match ← readWhile (· != '\n') with
  | [] => failHere "missing filename in r/R/w/W commands"
  | name => return wordOfLetters name

def readLabel : Reader String := do
  let _ ← readWhile isBlank
  return wordOfLetters (← readWhile fun character => !isSpace character && character != ';')

def takeText : List Char → List Char × List Char
  | [] => ([], [])
  | '\n' :: rest => ([], rest)
  | '\\' :: character :: rest =>
    let (text, rest) := takeText rest
    ('\\' :: character :: text, rest)
  | character :: rest =>
    let (text, rest) := takeText rest
    (character :: text, rest)

/-- Reads the text of a command that puts it somewhere. A backslash may stand in front of it, on a
line of its own or not. -/
def readText : Reader (List Char) := do
  let _ ← readWhile isBlank
  match (← get).rest with
  | [] => failHere "expected \\ after \x60a', \x60c' or \x60i'"
  | ['\\'] =>
    let _ ← readOne
    return []
  | rest =>
    let (literal, rest) := match rest with
      | '\\' :: rest =>
        match rest.dropWhile isBlank with
        | '\n' :: rest => ([], rest)
        | _ => (rest.take 1, rest.drop 1)
      | rest => ([], rest)
    let (text, rest) := takeText rest
    modify fun position => { position with rest }
    return literal ++ expandText (text.length + 1) text ++ ['\n']

structure SubstitutionFlags where
  number : Option Nat := none
  all : Bool := false
  prints : Bool := false
  ignoresCase : Bool := false
  file : Option String := none

def readFlags : Nat → SubstitutionFlags → Reader SubstitutionFlags
  | 0, flags => return flags
  | fuel + 1, flags => do
    match ← peek with
    | none | some '\x7d' | some '#' => return flags
    | some first =>
      if Text.isAsciiDigit first then
        let number := (← readNumber).getD 0
        if flags.number.isSome then failHere "multiple number options to \x60s' command"
        else if number = 0 then failHere "number option to \x60s' command may not be zero"
        else readFlags fuel { flags with number := some number }
      else
        let _ ← readOne
        match first with
        | ';' | '\n' => return flags
        | 'g' =>
          if flags.all then failHere "multiple \x60g' options to \x60s' command"
          else readFlags fuel { flags with all := true }
        | 'p' =>
          if flags.prints then failHere "multiple \x60p' options to \x60s' command"
          else readFlags fuel { flags with prints := true }
        | 'i' | 'I' => readFlags fuel { flags with ignoresCase := true }
        | 'm' | 'M' | 'e' => readFlags fuel flags
        | 'w' => return { flags with file := some (← readFileName) }
        | first =>
          if isBlank first then
            readEnd
            return flags
          else failHere "unknown option to \x60s'"

def readSubstitution (isExtended : Bool) : Reader Substitution := do
  let unterminated {α : Type} : Reader α := failHere "unterminated \x60s' command"
  match ← readOne with
  | none => unterminated
  | some delimiter =>
    match ← readUpTo delimiter true with
    | none => unterminated
    | some pattern =>
      match ← readUpTo delimiter false with
      | none => unterminated
      | some replacement =>
        let flags ← readFlags ((← get).rest.length + 1) {}
        let (target, groups) ← targetOf isExtended pattern flags.ignoresCase
        let parts := replacementParts (replacement.length + 1) replacement
        for part in parts do
          match part with
          | .group number =>
            if groups < number then
              failHere ("invalid reference \\" ++ toString number ++ " on \x60s' command's RHS")
          | _ => pure ()
        return {
          target
          replacement := parts
          first := flags.number.getD 1
          replacesRest := flags.all
          prints := flags.prints
          file := flags.file }

/-- The characters of a list for translating. A backslash stands for itself only before another
one. -/
def translated : List Char → List Char
  | '\\' :: '\\' :: rest => '\\' :: translated rest
  | '\\' :: 'n' :: rest => '\n' :: translated rest
  | '\\' :: 't' :: rest => '\t' :: translated rest
  | character :: rest => character :: translated rest
  | [] => []

def readTranslation : Reader Action := do
  let unterminated {α : Type} : Reader α := failHere "unterminated \x60y' command"
  match ← readOne with
  | none => unterminated
  | some delimiter =>
    match ← readUpTo delimiter false with
    | none => unterminated
    | some members =>
      match ← readUpTo delimiter false with
      | none => unterminated
      | some replacements =>
        let members := translated members
        let replacements := translated replacements
        if members.length ≠ replacements.length then
          failHere "strings for \x60y' command are different lengths"
        readEnd
        return .translate members replacements

/-! ## Reading commands -/

def readAction (isExtended : Bool) (selector : Selector) (letter : Char) : Reader Action := do
  let plain (action : Action) : Reader Action := do
    readEnd
    return action
  let jump (condition : JumpCondition) : Reader Action := do
    let label ← readLabel
    readEnd
    return .jump condition (if label.isEmpty then none else some label)
  let single : Reader Unit :=
    if selector.finish.isSome then failHere "command only uses one address" else return ()
  match letter with
  | '\x7b' =>
    modify fun position => { position with depth := position.depth + 1 }
    return .opens
  | '\x7d' =>
    if (← get).depth = 0 then failHere "unexpected \x60\x7d'"
    else if selector.start.isSome then failHere "\x7d doesn't want any addresses"
    else
      modify fun position => { position with depth := position.depth - 1 }
      plain .closes
  | ':' =>
    if selector.start.isSome then failHere ": doesn't want any addresses"
    else
      let name ← readLabel
      if name.isEmpty then failHere "\":\" lacks a label" else return .label name
  | 'b' => jump .always
  | 't' => jump .afterReplacing
  | 'T' => jump .unlessReplaced
  | 'a' => return .append (← readText)
  | 'i' => return .insert (← readText)
  | 'c' => return .change (← readText)
  | 'd' => plain .delete
  | 'D' => plain .deleteFirst
  | 'p' => plain .print
  | 'P' => plain .printFirst
  | '=' => plain .printNumber
  | 'F' => plain .printName
  | 'l' =>
    let _ ← readWhile isBlank
    let width ← readNumber
    plain (.printEscaped width)
  | 'n' => plain .next
  | 'N' => plain .nextMore
  | 'h' => plain (.transfer .hold)
  | 'H' => plain (.transfer .holdMore)
  | 'g' => plain (.transfer .get)
  | 'G' => plain (.transfer .getMore)
  | 'x' => plain (.transfer .exchange)
  | 's' => return .substitute (← readSubstitution isExtended)
  | 'y' => readTranslation
  | 'r' => return .readFile (← readFileName)
  | 'w' => return .write (← readFileName)
  | 'W' => return .writeFirst (← readFileName)
  | 'z' => plain .clear
  | 'q' | 'Q' =>
    single
    let _ ← readWhile isBlank
    let status := (← readNumber).getD 0
    plain (.quit (letter == 'q') status)
  | letter => failHere ("unknown command: \x60" ++ String.singleton letter ++ "'")

def readCommands (isExtended : Bool) : Nat → Reader (List Command)
  | 0 => return []
  | fuel + 1 => do
    let _ ← readWhile fun character => isSpace character || character == ';'
    match ← peek with
    | none => return []
    | some _ =>
      let selector ← readSelector isExtended
      match ← readOne with
      | none => failHere "missing command"
      | some '#' =>
        if selector.start.isSome then failHere "comments don't accept any addresses"
        else
          let _ ← readWhile (· != '\n')
          readCommands isExtended fuel
      | some letter =>
        if letter == '\n' || letter == ';' then failHere "missing command"
        else
          let action ← readAction isExtended selector letter
          return { selector, action } :: (← readCommands isExtended fuel)

/-! ## Whole scripts -/

/-- A part of a script, and what it is called in messages. -/
structure Chunk where
  /-- The path of the file that it was read from, if it was. -/
  path : Option String
  text : List Char

/-- Puts a part of a script that ends in a backslash together with the part after it. -/
def joinChunks : List Chunk → List Chunk
  | first :: second :: rest =>
    match joinChunks (second :: rest) with
    | next :: others =>
      if first.text.getLast? = some '\\' && first.path.isNone && next.path.isNone then
        { first with text := first.text ++ '\n' :: next.text } :: others
      else first :: next :: others
    | [] => [first]
  | chunks => chunks

def Chunk.place (chunk : Chunk) (number : Nat) (rest : List Char) : String :=
  let read := chunk.text.take (chunk.text.length - rest.length)
  match chunk.path with
  | some path => "file " ++ path ++ " line " ++ toString (read.count '\n' + 1)
  | none => "-e expression #" ++ toString number ++ ", char " ++ toString read.length

/-- Reads the commands in the parts of a script. `depth` is the number of groups that are open, and
`number` that of the next part that is no file. -/
def readChunks (isExtended : Bool) (depth number : Nat) :
    List Chunk → Except String (List Command)
  | [] =>
    if depth = 0 then .ok []
    else .error ("-e expression #" ++ toString (number - 1) ++ ", char 0: unmatched \x60\x7b'")
  | chunk :: chunks => do
    let (result, position) :=
      (readCommands isExtended (chunk.text.length + 1)).run.run { rest := chunk.text, depth }
    let next := if chunk.path.isSome then number else number + 1
    match result with
    | .error text => throw (chunk.place number position.rest ++ ": " ++ text)
    | .ok commands =>
      return commands ++ (← readChunks isExtended position.depth next chunks)

/-- The commands of a script, if all jumps in it lead somewhere. What is wrong with it comes with a
status. -/
def readScript (isExtended : Bool) (chunks : List Chunk) :
    Except (Nat × String) (List Command) := do
  let commands ← (readChunks isExtended 0 1 (joinChunks chunks)).mapError fun text => (1, text)
  let labels := commands.filterMap fun command =>
    match command.action with
    | .label name => some name
    | _ => none
  let missing := commands.findSome? fun command =>
    match command.action with
    | .jump _ (some label) => if labels.contains label then none else some label
    | _ => none
  match missing with
  | some label => throw (4, "can't find label for jump to \x60" ++ label ++ "'")
  | none => return commands

end SymbolCache.Program.Utility.Edit
