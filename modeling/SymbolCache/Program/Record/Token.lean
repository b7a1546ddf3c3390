import SymbolCache.Program.Record.Value
import SymbolCache.Program.Utility.Format

/-!
# Tokens of scripts for records

The tokens that a script for records is made of. A slash starts an expression between slashes where
an operand can stand, and else divides. A script ends with a line.
-/

set_option autoImplicit false

namespace SymbolCache.Program.Record

open Utility (readDigits readNumeral)

inductive TokenKind where
  | number (value : Float)
  | text (content : List Char)
  | regular (content : List Char)
  | name (name : String)
  | called (name : String)
  | word (word : String)
  | sign (sign : String)
  | lineEnd
  /-- Something in which there is a mistake, with the message about it. -/
  | mistaken (message : String)
  deriving Repr, BEq

/-- A token, the number of its line, and how a message shows it. -/
structure Token where
  kind : TokenKind
  line : Nat
  shown : String
  deriving Repr

def statementWords : List String :=
  ["BEGIN", "END", "break", "continue", "delete", "do", "else", "exit", "for", "function",
    "getline",
    "if", "in", "next", "nextfile", "print", "printf", "return", "while"]

/-- The functions that every script knows, with the least and the largest number of their
arguments. -/
def knownFunctions : List (String × Nat × Nat) :=
  [("atan2", 2, 2), ("close", 1, 1), ("cos", 1, 1), ("exp", 1, 1), ("fflush", 0, 1),
    ("gsub", 2, 3), ("index", 2, 2), ("int", 1, 1), ("length", 0, 1), ("log", 1, 1),
    ("match", 2, 2), ("rand", 0, 0), ("sin", 1, 1), ("split", 2, 3), ("sprintf", 1, 255),
    ("sqrt", 1, 1), ("srand", 0, 1), ("sub", 2, 3), ("substr", 2, 3), ("system", 1, 1),
    ("tolower", 1, 1), ("toupper", 1, 1)]

def isKnownFunction (name : String) : Bool :=
  knownFunctions.any fun entry => entry.1 == name

def signs : List String :=
  ["&&", "||", "==", "<=", ">=", "!=", "++", "--", "+=", "-=", "*=", "/=", "%=", "^=", ">>", "!~",
    "\x7b", "\x7d", "(", ")", "[", "]", ";", ",", "+", "-", "*", "/", "%", "^", "!", ">", "<", "|",
    "?", ":", "~", "$", "="]

def TokenKind.isBeforeOperand : Option TokenKind → Bool
  | none | some .lineEnd => true
  | some (.sign shown) => !([")", "]", "$", "++", "--"].contains shown)
  | some (.word shown) => !isKnownFunction shown
  | _ => false

def escapeOf? : Char → Option Char
  | '"' => some '"'
  | '\\' => some '\\'
  | 'n' => some '\n'
  | 't' => some '\t'
  | 'r' => some '\r'
  | 'a' => some '\x07'
  | 'b' => some '\x08'
  | 'f' => some '\x0c'
  | 'v' => some '\x0b'
  | _ => none

/-- A text in which what is written with backslashes stands for itself. It is fuelled by its
length. -/
def withoutEscapes : Nat → List Char → List Char
  | 0, _ => []
  | _ + 1, [] => []
  | fuel + 1, '\\' :: '\n' :: rest => withoutEscapes fuel rest
  | fuel + 1, '\\' :: letter :: rest =>
    match escapeOf? letter with
    | some meaning => meaning :: withoutEscapes fuel rest
    | none =>
      let (octal, afterOctal) := readDigits 8 3 0 (letter :: rest)
      let (hexadecimal, afterHexadecimal) := readDigits 16 2 0 rest
      if afterOctal.length < rest.length + 1 then
        Char.ofNat (octal % 256) :: withoutEscapes fuel afterOctal
      else if letter == 'x' && afterHexadecimal.length < rest.length then
        Char.ofNat hexadecimal :: withoutEscapes fuel afterHexadecimal
      else '\\' :: letter :: withoutEscapes fuel rest
  | fuel + 1, character :: rest => character :: withoutEscapes fuel rest

/-- The text of a word in which what is written with backslashes stands for itself. -/
def textOf (content : List Char) : List Char :=
  withoutEscapes (content.length + 1) content

/-- Takes what stands up to a sign that has no backslash in front. It is on one line. -/
def takeEnclosed (sign : Char) : List Char → Option (List Char × List Char)
  | [] => none
  | '\\' :: character :: rest =>
    (takeEnclosed sign rest).map fun (inside, rest) => ('\\' :: character :: inside, rest)
  | character :: rest =>
    if character == sign then some ([], rest)
    else if character == '\n' then none
    else (takeEnclosed sign rest).map fun (inside, rest) => (character :: inside, rest)

/-- Takes an expression up to the slash that ends it. A slash in brackets does not; `inBrackets`
tells whether some are open, and `isFirst` whether they were opened right before. -/
def takeRegular (inBrackets isFirst : Bool) : List Char → Option (List Char × List Char)
  | [] => none
  | '\\' :: character :: rest =>
    (takeRegular inBrackets false rest).map fun (inside, rest) =>
      ('\\' :: character :: inside, rest)
  | character :: rest =>
    if character == '\n' then none
    else if character == '/' && !inBrackets then some ([], rest)
    else
      let opens := character == '[' && !inBrackets
      let goesOn := isFirst && character == '^'
      let closes := character == ']' && inBrackets && !isFirst
      (takeRegular (opens || inBrackets && !closes) (opens || goesOn) rest).map
        fun (inside, rest) => (character :: inside, rest)

def isNameCharacter (character : Char) : Bool :=
  character.isAlphanum || character == '_'

def runaway (what : String) (text : List Char) : TokenKind :=
  let line := text.takeWhile (· != '\n')
  .mistaken ("runaway " ++ what ++ " " ++ String.ofList (line.take 11) ++ " ...")

/-- Reads the token at the start of a text that is no blank. `before` is the token in front of it.
-/
def readToken (before : Option TokenKind) (text : List Char) : TokenKind × List Char :=
  match text with
  | [] => (.lineEnd, [])
  | '\n' :: rest => (.lineEnd, rest)
  | '"' :: rest =>
    match takeEnclosed '"' rest with
    | some (inside, rest) => (.text (textOf inside), rest)
    | none => (runaway "string constant" text, [])
  | character :: rest =>
    if character == '/' && TokenKind.isBeforeOperand before then
      match takeRegular false false rest with
      | some (inside, rest) => (.regular inside, rest)
      | none => (runaway "regular expression" text, [])
    else if Text.isAsciiDigit character ||
        character == '.' && (rest.head?.any Text.isAsciiDigit) then
      match readNumeral 10 Text.isAsciiDigit (Text.digitsValue 0) 'e' 10 text with
      | some (size, rest) => (.number (numberOf (.finite false size)), rest)
      | none => (.lineEnd, rest)
    else if isNameCharacter character then
      let name := String.ofList (text.takeWhile isNameCharacter)
      let rest := text.dropWhile isNameCharacter
      if statementWords.contains name || isKnownFunction name then (.word name, rest)
      else if rest.head? = some '(' then (.called name, rest)
      else (.name name, rest)
    else
      match signs.find? fun sign => sign.toList.isPrefixOf text with
      | some sign => (.sign sign, text.drop sign.length)
      | none =>
        (.mistaken ("unexpected character '" ++ String.singleton character ++ "'"), [])

def cutTokens : Nat → Nat → Option TokenKind → List Char → List Token
  | 0, _, _, _ => []
  | _ + 1, line, _, [] => [⟨.lineEnd, line, "end of line"⟩]
  | fuel + 1, line, before, '\\' :: '\n' :: rest => cutTokens fuel (line + 1) before rest
  | fuel + 1, line, before, character :: rest =>
    if character == ' ' || character == '\t' || character == '\r' then
      cutTokens fuel line before rest
    else if character == '#' then cutTokens fuel line before (rest.dropWhile (· != '\n'))
    else
      let (kind, after) := readToken before (character :: rest)
      let length := rest.length + 1 - after.length
      let shown := match kind with
        | .lineEnd => "end of line"
        | _ => Text.decodeLossy (Utility.bytesOf ((character :: rest).take length))
      let lines := ((character :: rest).take length).count '\n'
      ⟨kind, line, shown⟩ :: cutTokens fuel (line + lines) (some kind) after

def tokensOf (script : List Char) : List Token :=
  cutTokens (script.length + 2) 1 none script

end SymbolCache.Program.Record
