import SymbolCache.Outcome
import SymbolCache.Text.Cut
import SymbolCache.Text.Lossy
import SymbolCache.Text.LowerCase

/-!
# Quoting

How a word is shown in a message. Characters that do not print are shown as escapes. A word is
either quoted so that a shell would read it back, or simply put in quotes.
-/

set_option autoImplicit false

namespace SymbolCache.Program.Utility

def escapeLetter? (character : Char) : Option Char :=
  match character with
  | '\x07' => some 'a'
  | '\x08' => some 'b'
  | '\t' => some 't'
  | '\n' => some 'n'
  | '\x0b' => some 'v'
  | '\x0c' => some 'f'
  | '\r' => some 'r'
  | _ => none

/-- The escape of a character: a backslash with a letter, or three octal digits for each byte. -/
def escapeOf (character : Char) : List Char :=
  match escapeLetter? character with
  | some letter => ['\\', letter]
  | none =>
    (characterBytes [character]).flatMap fun byte =>
      let digits := Nat.toDigits 8 byte.toNat
      '\\' :: List.replicate (3 - digits.length) '0' ++ digits

/-- Whether a character prints: it is neither a control character nor the end of a line or of a
paragraph. -/
def prints (character : Char) : Bool :=
  ' ' ≤ character && character ≤ '~' ||
    '\xa0' ≤ character && character ≠ '\u2028' && character ≠ '\u2029'

def escaped (word : String) : String :=
  let parts := word.toList.map fun character =>
    if character = '\\' || character = '’' then ['\\', character]
    else if prints character then [character]
    else escapeOf character
  "‘" ++ String.ofList parts.flatten ++ "’"

/-- What stands between the outer quotes of a word that a shell would read back. `isEscape` tells
whether escapes can stand at the place. -/
def quotedPart (isEscape : Bool) : List Char → List Char
  | [] => []
  | character :: rest =>
    if character = '\'' then ['\'', '\\', '\'', '\''] ++ quotedPart false rest
    else if prints character then
      (if isEscape then ['\'', '\''] else []) ++ character :: quotedPart false rest
    else (if isEscape then [] else ['\'', '$', '\'']) ++ escapeOf character ++ quotedPart true rest

/-- Whether a character means the same in both kinds of quotes. `isFirst` tells whether it is the
first one of the word. -/
def isPlainInQuotes (isFirst : Bool) (character : Char) : Bool :=
  character.isAlphanum || " '%+,-./:]_".toList.contains character ||
    isFirst && ['#', '~'].contains character

/-- A word in quotes that a shell would read back. Double quotes are used if only the word itself
has single ones. -/
def quoted (word : String) : String :=
  let isPlain : Bool := match word.toList with
    | [] => true
    | first :: rest => isPlainInQuotes true first && rest.all (isPlainInQuotes false)
  if word.toList.contains '\'' && isPlain then "\"" ++ word ++ "\""
  else "\x27" ++ String.ofList (quotedPart false word.toList) ++ "\x27"

def needsQuotes (word : String) : Bool :=
  word.isEmpty || word = "\x7b" || word = "\x7d" || word.startsWith "#" || word.startsWith "~" ||
    word.toList.any (fun character => !prints character) ||
    word.toList.any fun character => " !\"$&()*;<=>[^\x60|?'\\".toList.contains character

def quotedIfNeeded (word : String) : String :=
  if needsQuotes word then quoted word else word

end SymbolCache.Program.Utility

/-!
## Quoted texts

Ways to write a text so that a shell of the extended language reads it back.
-/

namespace SymbolCache.Program.Shell.Quotation

def needsEscapes (text : List Char) : Bool :=
  text.any fun character => character < ' ' || character == '\x7f' || Text.isStray character

def octal (code : Nat) : List Char :=
  [code / 64, code / 8 % 8, code % 8].map fun digit => Char.ofNat ('0'.toNat + digit)

def escape (character : Char) : List Char :=
  match character with
  | '\x07' => ['\\', 'a']
  | '\x08' => ['\\', 'b']
  | '\t' => ['\\', 't']
  | '\n' => ['\\', 'n']
  | '\x0b' => ['\\', 'v']
  | '\x0c' => ['\\', 'f']
  | '\r' => ['\\', 'r']
  | '\x1b' => ['\\', 'E']
  | '\\' => ['\\', '\\']
  | '\x27' => ['\\', '\x27']
  | character =>
    if needsEscapes [character] then
      (Text.encodeLetters [character]).flatMap fun byte => '\\' :: octal byte.toNat
    else [character]

def withEscapes (text : List Char) : List Char :=
  '$' :: '\x27' :: text.flatMap escape ++ ['\x27']

def single (text : List Char) : List Char :=
  let quoted (character : Char) : List Char :=
    if character == '\x27' then ['\x27', '\\', '\x27', '\x27'] else [character]
  '\x27' :: text.flatMap quoted ++ ['\x27']

def hasMeaning (character : Char) : Bool :=
  " \t\n'\"\\|&;()<>!\x7b\x7d*[]?^$\x60,".toList.contains character

def withBackslashes (text : String) : String :=
  let letters := text.toList
  let isSpecialFirst (index : Nat) (character : Char) : Bool :=
    index = 0 && (character == '#' || character == '~')
  if letters.isEmpty then "\x27\x27"
  else if needsEscapes letters then String.ofList (withEscapes letters)
  else
    String.ofList (letters.zipIdx.flatMap fun (character, index) =>
      if hasMeaning character || isSpecialFirst index character then ['\\', character]
      else [character])

def always (text : String) : String :=
  let letters := text.toList
  String.ofList (if needsEscapes letters then withEscapes letters else single letters)

def ifNeeded (text : String) : String :=
  let letters := text.toList
  if letters.isEmpty then "\x27\x27"
  else if needsEscapes letters then String.ofList (withEscapes letters)
  else if letters.any hasMeaning || letters.head?.any ['#', '~'].contains then
    String.ofList (single letters)
  else text

def double (text : String) : String :=
  let letters := text.toList
  let quoted (character : Char) : List Char :=
    if ['"', '\\', '$', '\x60'].contains character then ['\\', character] else [character]
  if needsEscapes letters then String.ofList (withEscapes letters)
  else String.ofList ('"' :: letters.flatMap quoted ++ ['"'])

end SymbolCache.Program.Shell.Quotation
