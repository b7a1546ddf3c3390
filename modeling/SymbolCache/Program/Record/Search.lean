import SymbolCache.Program.Record.Token
import SymbolCache.Program.Regular.Match
import SymbolCache.Program.Regular.Syntax

/-!
# Searching in texts

How scripts for records write regular expressions, and what they do with them: they look for
matches, put texts in their place, and cut texts into records and fields.
-/

set_option autoImplicit false

namespace SymbolCache.Program.Record

open Utility (isSpace readDigits)

/-! ## Expressions -/

def literal (character : Char) : List Char :=
  if ".[]()*+?\x7b\x7d|^$\\".toList.contains character then ['\\', character] else [character]

/-- The characters in brackets, up to the bracket that closes them. A closing bracket and a minus
sign with a backslash in front are told apart from the others. -/
structure Members where
  members : List Char := []
  hasBracket : Bool := false
  hasMinus : Bool := false

def readMembers : Nat → Bool → List Char → Option (Members × List Char)
  | 0, _, _ => none
  | _ + 1, _, [] => none
  | fuel + 1, _, '[' :: ':' :: rest =>
    let name := rest.takeWhile (· != ':')
    (readMembers fuel false (rest.drop (name.length + 2))).map fun (found, rest) =>
      ({ found with members := "[:".toList ++ name ++ ":]".toList ++ found.members }, rest)
  | fuel + 1, _, '\\' :: ']' :: rest =>
    (readMembers fuel false rest).map fun (found, rest) => ({ found with hasBracket := true }, rest)
  | fuel + 1, _, '\\' :: '-' :: rest =>
    (readMembers fuel false rest).map fun (found, rest) => ({ found with hasMinus := true }, rest)
  | fuel + 1, _, '\\' :: letter :: rest =>
    let shown := match textOf ['\\', letter] with
      | [character] => character
      | _ => letter
    (readMembers fuel false rest).map fun (found, rest) =>
      ({ found with members := shown :: found.members }, rest)
  | fuel + 1, isFirst, character :: rest =>
    if character == ']' && !isFirst then some ({}, rest)
    else if character == ']' then
      (readMembers fuel false rest).map fun (found, rest) =>
        ({ found with hasBracket := true }, rest)
    else
      (readMembers fuel false rest).map fun (found, rest) =>
        ({ found with members := character :: found.members }, rest)

/-- An expression in the usual way of writing. It is fuelled by the length of the text. -/
def usualForm : Nat → List Char → List Char
  | 0, text => text
  | _ + 1, [] => []
  | fuel + 1, '\\' :: letter :: rest =>
    let (octal, after) := readDigits 8 3 0 (letter :: rest)
    if after.length < rest.length + 1 then
      literal (Char.ofNat (octal % 256)) ++ usualForm fuel after
    else if letter == '"' || letter == '/' then letter :: usualForm fuel rest
    else
      match escapeOf? letter with
      | some character => literal character ++ usualForm fuel rest
      | none =>
        let (hexadecimal, after) := readDigits 16 2 0 rest
        if letter == 'x' && after.length < rest.length then
          literal (Char.ofNat hexadecimal) ++ usualForm fuel after
        else literal letter ++ usualForm fuel rest
  | fuel + 1, '[' :: rest =>
    let isNegated := rest.head? = some '^'
    let inside := if isNegated then rest.tail else rest
    match readMembers (inside.length + 1) true inside with
    | none => '[' :: rest
    | some (found, after) =>
      let front := if isNegated then ['[', '^'] else ['[']
      let bracket := if found.hasBracket then [']'] else []
      let minus := if found.hasMinus then ['-'] else []
      front ++ bracket ++ found.members ++ minus ++ [']'] ++ usualForm fuel after
  | fuel + 1, character :: rest => character :: usualForm fuel rest

def regularMistake : Regular.Mistake → String
  | .openGroup => "missing ')'"
  | .openBracket => "bad class -- [], [^] or ["
  | _ => "missing operand"

def readRegular (text : List Char) : Except String Regular.Expression :=
  let grammar : Regular.Grammar := { isExtended := true, isLenient := false, ofBytes := true }
  match Regular.read grammar (usualForm (text.length + 1) text) with
  | .ok (expression, _) => .ok expression
  | .error mistake =>
    .error ("line 1: regular expression compile failed (" ++ regularMistake mistake ++ ")\n" ++
      Text.decodeLossy (Utility.bytesOf text))

def isFound (expression : Regular.Expression) (text : List Char) : Bool :=
  (expression.find? false { rest := text }).isSome

def firstFound? (expression : Regular.Expression) (text : List Char) : Option (Nat × Nat) :=
  (expression.find? false { rest := text }).map fun found =>
    (found.start.position + 1, found.finish.position - found.start.position)

def allFound (expression : Regular.Expression) (text : List Char) : List Regular.Match :=
  Regular.allMatches (expression.find? false) (text.length + 2) { rest := text } none

/-! ## Replacing -/

/-- What takes the place of a match. Backslashes before an ampersand stand for half as many, and the
last one of an odd number takes its meaning from it. `backslashes` is how many stand in front. -/
def replacementFor (found : List Char) (backslashes : Nat) : List Char → List Char
  | [] => List.replicate backslashes '\\'
  | '\\' :: rest => replacementFor found (backslashes + 1) rest
  | '&' :: rest =>
    List.replicate (backslashes / 2) '\\' ++
      (if backslashes % 2 = 0 then found else ['&']) ++ replacementFor found 0 rest
  | character :: rest =>
    List.replicate backslashes '\\' ++ character :: replacementFor found 0 rest

/-- A text with a replacement in place of matches. `position` is the place from which on nothing is
written yet. -/
def replaced (text replacement : List Char) (position : Nat) : List Regular.Match → List Char
  | [] => text.drop position
  | found :: others =>
    (text.drop position).take (found.start.position - position) ++
      replacementFor found.text 0 replacement ++
      replaced text replacement found.finish.position others

/-- A text with a replacement in place of its first match or of all, and the number of them. -/
def substitute (isGlobal : Bool) (expression : Regular.Expression) (replacement text : List Char) :
    Nat × List Char :=
  let found := allFound expression text
  let found := if isGlobal then found else found.take 1
  (found.length, replaced text replacement 0 found)

/-! ## Cutting -/

inductive Separator where
  /-- White space, which is left out around a text. -/
  | space
  | nothing
  | character (character : Char)
  | expression (expression : Regular.Expression)

def Separator.ofText (text : List Char) : Except String Separator :=
  match text with
  | [] => .ok .nothing
  | [' '] => .ok .space
  | [letter] => .ok (.character letter)
  | text => (readRegular text).map .expression

/-- The parts of a text between matches, from a place on. Matches without characters separate
nothing. -/
def partsBetween (text : List Char) (position : Nat) : List Regular.Match → List (List Char)
  | [] => [text.drop position]
  | found :: others =>
    if found.finish.position = found.start.position then partsBetween text position others
    else
      (text.drop position).take (found.start.position - position) ::
        partsBetween text found.finish.position others

def wordsOf : Nat → List Char → List (List Char)
  | 0, _ => []
  | fuel + 1, text =>
    match text.dropWhile isSpace with
    | [] => []
    | text =>
      let word := text.takeWhile fun character => !isSpace character
      word :: wordsOf fuel (text.drop word.length)

def Separator.cut (separator : Separator) (text : List Char) : List (List Char) :=
  if text.isEmpty then []
  else
    match separator with
    | .space => wordsOf (text.length + 1) text
    | .nothing => text.map fun character => [character]
    | .character letter => Text.split letter text
    | .expression regular => partsBetween text 0 (allFound regular text)

/-- Takes a record from the front of a text: up to a separator or, if that is empty, up to a line
without characters. Gives what is left as well. -/
def takeRecord (separator : List Char) (text : List Char) :
    Except String (Option (List Char × List Char)) :=
  match separator with
  | [] =>
    match text.dropWhile (· == '\n') with
    | [] => .ok none
    | text =>
      let (record, rest) := upToEmptyLine text
      .ok (some (record, rest.dropWhile (· == '\n')))
  | [letter] =>
    if text.isEmpty then .ok none
    else
      let record := text.takeWhile (· != letter)
      .ok (some (record, text.drop (record.length + 1)))
  | separator =>
    if text.isEmpty then .ok none
    else
      (readRegular separator).map fun expression =>
        match expression.find? false { rest := text } with
        | none => some (text, [])
        | some found => some (text.take found.start.position, found.finish.rest)
where
  /-- What stands in front of a line without characters, and what is left. -/
  upToEmptyLine : List Char → List Char × List Char
    | [] => ([], [])
    | ['\n'] => ([], [])
    | '\n' :: '\n' :: rest => ([], rest)
    | character :: rest =>
      let (record, rest) := upToEmptyLine rest
      (character :: record, rest)

end SymbolCache.Program.Record
