import SymbolCache.Text.Character
import SymbolCache.Text.Decimal

/-!
# Keys and scalars of TOML

The words of a TOML 1.0 document: blanks and comments, the four kinds of strings, keys, numbers and
dates. Every reader takes a word off the front of a text and gives the rest, or nothing if no such
word is there.
-/

set_option autoImplicit false

namespace SymbolCache.Toml

/-! ## Blanks, lines and comments -/

def isBlank (character : Char) : Bool :=
  character == ' ' || character == '\t'

/-- A character that may stand in a comment: anything but control characters, tabs apart. -/
def isPrintable (character : Char) : Bool :=
  character == '\t' || (0x20 ≤ character.toNat && character.toNat != 0x7F)

def skipBlank (text : List Char) : List Char :=
  text.dropWhile isBlank

def skipComment : List Char → List Char
  | '#' :: rest => rest.dropWhile isPrintable
  | text => text

def readNewline? : List Char → Option (List Char)
  | '\n' :: rest => some rest
  | '\r' :: '\n' :: rest => some rest
  | _ => none

/-- Reads what may stand at the end of a line: white space, a comment, and a line break or the end
of the text. -/
def readLineEnd? (text : List Char) : Option (List Char) :=
  match skipComment (skipBlank text) with
  | [] => some []
  | rest => readNewline? rest

/-- Drops white space, comments and line breaks. A comment runs to the end of its line. The length
of the text is fuel enough. -/
def skipLines : Nat → List Char → Option (List Char)
  | 0, text => some text
  | fuel + 1, text =>
    match skipBlank text with
    | '#' :: rest =>
      match rest.dropWhile isPrintable with
      | [] => some []
      | rest => (readNewline? rest).bind (skipLines fuel)
    | rest =>
      match readNewline? rest with
      | some rest => skipLines fuel rest
      | none => some rest

def skipBlankLines : List Char → List Char
  | '\r' :: '\n' :: rest => skipBlankLines rest
  | character :: rest =>
    if isBlank character || character == '\n' then skipBlankLines rest else character :: rest
  | [] => []

/-! ## Digits -/

def digitValue? (base : Nat) (character : Char) : Option Nat :=
  let value :=
    if Text.isAsciiDigit character then some (character.toNat - '0'.toNat)
    else if 'a'.toNat ≤ character.toNat ∧ character.toNat ≤ 'f'.toNat then
      some (character.toNat - 'a'.toNat + 10)
    else if 'A'.toNat ≤ character.toNat ∧ character.toNat ≤ 'F'.toNat then
      some (character.toNat - 'A'.toNat + 10)
    else none
  value.filter (· < base)

/-- Reads digits with single underscores between them, on top of `value`; `afterDigit` says whether
a digit precedes. An underscore needs a digit on either side. -/
def readGrouped (base : Nat) (afterDigit : Bool) (value : Nat) :
    List Char → Option (Nat × List Char)
  | [] => if afterDigit then some (value, []) else none
  | character :: rest =>
    match digitValue? base character with
    | some digit => readGrouped base true (base * value + digit) rest
    | none =>
      if character == '_' && afterDigit then readGrouped base false value rest
      else if afterDigit then some (value, character :: rest)
      else none

def readFixed (base : Nat) : Nat → Nat → List Char → Option (Nat × List Char)
  | 0, value, rest => some (value, rest)
  | _ + 1, _, [] => none
  | count + 1, value, character :: rest => do
    let digit ← digitValue? base character
    readFixed base count (base * value + digit) rest

/-! ## Strings and keys -/

def escapeMeaning? : Char → Option Char
  | 'b' => some '\x08'
  | 'f' => some '\x0c'
  | 'n' => some '\n'
  | 'r' => some '\r'
  | 't' => some '\t'
  | '"' => some '"'
  | '\\' => some '\\'
  | _ => none

def characterOf? (codePoint : Nat) : Option Char :=
  if codePoint.isValidChar then some (Char.ofNat codePoint) else none

def readEscape : List Char → Option (Char × List Char)
  | 'u' :: rest => do
    let (codePoint, rest) ← readFixed 16 4 0 rest
    return (← characterOf? codePoint, rest)
  | 'U' :: rest => do
    let (codePoint, rest) ← readFixed 16 8 0 rest
    return (← characterOf? codePoint, rest)
  | letter :: rest => (escapeMeaning? letter).map fun character => (character, rest)
  | [] => none

/-- Reads a basic string after its opening quote. The length of the text is fuel enough. -/
def readBasic : Nat → List Char → Option (List Char × List Char)
  | 0, _ => none
  | _ + 1, [] => none
  | _ + 1, '"' :: rest => some ([], rest)
  | fuel + 1, '\\' :: rest => do
    let (character, rest) ← readEscape rest
    let (characters, rest) ← readBasic fuel rest
    return (character :: characters, rest)
  | fuel + 1, character :: rest =>
    if isPrintable character then
      (readBasic fuel rest).map fun (characters, rest) => (character :: characters, rest)
    else none

def readLiteral : List Char → Option (List Char × List Char)
  | [] => none
  | '\x27' :: rest => some ([], rest)
  | character :: rest =>
    if isPrintable character then
      (readLiteral rest).map fun (characters, rest) => (character :: characters, rest)
    else none

def skipFirstNewline (text : List Char) : List Char :=
  (readNewline? text).getD text

/-- Drops the white space and line breaks after a backslash that ends a line; nothing if no line
ends there. -/
def skipEscapedLine? (text : List Char) : Option (List Char) :=
  (readNewline? (skipBlank text)).map skipBlankLines

/-- What a run of quotes in a multi-line string means: with three quotes or more the string ends,
and up to two of them still belong to it. -/
def closingQuotes? (quote : Char) (text : List Char) : Option (List Char × List Char) :=
  let count := (text.takeWhile (· == quote)).length
  if count < 3 then none
  else
    let kept := min (count - 3) 2
    some (List.replicate kept quote, text.drop (kept + 3))

/-- Reads a multi-line string after its opening quotes; `escapes` says whether backslashes have a
meaning. A line break always counts as one line feed. The length of the text is fuel enough. -/
def readMultiline (quote : Char) (escapes : Bool) : Nat → List Char → Option (List Char × List Char)
  | 0, _ => none
  | fuel + 1, text =>
    match closingQuotes? quote text with
    | some result => some result
    | none =>
      match readNewline? text with
      | some rest =>
        (readMultiline quote escapes fuel rest).map fun (characters, rest) =>
          ('\n' :: characters, rest)
      | none =>
        match text with
        | [] => none
        | character :: rest =>
          if character == '\\' && escapes then
            match skipEscapedLine? rest with
            | some rest => readMultiline quote escapes fuel rest
            | none => do
              let (character, rest) ← readEscape rest
              let (characters, rest) ← readMultiline quote escapes fuel rest
              return (character :: characters, rest)
          else if isPrintable character then
            (readMultiline quote escapes fuel rest).map fun (characters, rest) =>
              (character :: characters, rest)
          else none

def readString (text : List Char) : Option (List Char × List Char) :=
  match text with
  | '"' :: '"' :: '"' :: rest => readMultiline '"' true (text.length + 1) (skipFirstNewline rest)
  | '"' :: rest => readBasic (text.length + 1) rest
  | '\x27' :: '\x27' :: '\x27' :: rest =>
    readMultiline '\x27' false (text.length + 1) (skipFirstNewline rest)
  | '\x27' :: rest => readLiteral rest
  | _ => none

def isBareKey (character : Char) : Bool :=
  Text.isAsciiWord character || character == '-'

def readKeyPart (text : List Char) : Option (String × List Char) :=
  match text with
  | '"' :: rest =>
    (readBasic (text.length + 1) rest).map fun (key, rest) => (String.ofList key, rest)
  | '\x27' :: rest => (readLiteral rest).map fun (key, rest) => (String.ofList key, rest)
  | text =>
    match text.takeWhile isBareKey with
    | [] => none
    | key => some (String.ofList key, text.dropWhile isBareKey)

/-- Reads a key of one or more parts with dots between them and white space around them. -/
def readKeyParts : Nat → List Char → Option (List String × List Char)
  | 0, _ => none
  | fuel + 1, text => do
    let (part, rest) ← readKeyPart (skipBlank text)
    match skipBlank rest with
    | '.' :: rest =>
      let (parts, rest) ← readKeyParts fuel rest
      return (part :: parts, rest)
    | rest => return ([part], rest)

/-- The most levels that arrays, inline tables and keys may nest, and one more. -/
def nestingLimit : Nat := 80

def readKey (text : List Char) : Option (List String × List Char) :=
  (readKeyParts (text.length + 1) text).filter fun (parts, _) => parts.length < nestingLimit

/-! ## Numbers -/

def readSign : List Char → Bool × List Char
  | '+' :: rest => (false, rest)
  | '-' :: rest => (true, rest)
  | rest => (false, rest)

/-- Reads the digits of a decimal number: a lone zero, or grouped digits that start with another
digit. -/
def readWhole : List Char → Option (Nat × List Char)
  | '0' :: rest => some (0, rest)
  | rest => readGrouped 10 false 0 rest

def readExponent : List Char → Option (Int × List Char)
  | letter :: rest =>
    if letter == 'e' || letter == 'E' then
      (readGrouped 10 false 0 (readSign rest).2).map fun (value, after) =>
        (if (readSign rest).1 then -(value : Int) else value, after)
    else none
  | [] => none

/-- Reads a fraction on top of `value`; gives the number without its point and the number of decimal
places. -/
def readFraction (value : Nat) : List Char → Option (Nat × Nat × List Char)
  | '.' :: rest =>
    (readGrouped 10 false value rest).map fun (digits, after) =>
      (digits, ((rest.take (rest.length - after.length)).filter (· != '_')).length, after)
  | _ => none

/-- Reads a number with a fraction or an exponent or both, which must not be larger than the largest
binary64 number; gives the rest only. -/
def readFloat? (text : List Char) : Option (List Char) := do
  let (negative, rest) := readSign text
  match rest with
  | 'i' :: 'n' :: 'f' :: rest => return rest
  | 'n' :: 'a' :: 'n' :: rest => return rest
  | rest =>
    let (whole, rest) ← readWhole rest
    match readExponent rest with
    | some (exponent, rest) =>
      if negative || Decimal.isFinite whole exponent then return rest else none
    | none =>
      let (digits, places, rest) ← readFraction whole rest
      let (exponent, rest) := (readExponent rest).getD (0, rest)
      if negative || Decimal.isFinite digits (exponent - places) then return rest else none

def readInteger (text : List Char) : Option (Int × List Char) := do
  let (negative, magnitude, rest) ← match text with
    | '0' :: 'x' :: rest => (readGrouped 16 false 0 rest).map fun result => (false, result)
    | '0' :: 'o' :: rest => (readGrouped 8 false 0 rest).map fun result => (false, result)
    | '0' :: 'b' :: rest => (readGrouped 2 false 0 rest).map fun result => (false, result)
    | text =>
      let (negative, digits) := readSign text
      (readWhole digits).map fun result => (negative, result)
  let value : Int := if negative then -(magnitude : Int) else magnitude
  if -(Nat.pow 2 63 : Int) ≤ value ∧ value < Nat.pow 2 63 then return (value, rest) else none

/-! ## Dates and times -/

def daysInMonth (year month : Nat) : Nat :=
  if month = 2 then
    if year % 4 = 0 ∧ (year % 100 ≠ 0 ∨ year % 400 = 0) then 29 else 28
  else if month = 4 ∨ month = 6 ∨ month = 9 ∨ month = 11 then 30
  else 31

/-- Reads a fixed number of decimal digits with a value from `least` to `most`. -/
def readBounded (count least most : Nat) (text : List Char) : Option (Nat × List Char) :=
  (readFixed 10 count 0 text).filter fun (value, _) => least ≤ value && value ≤ most

def readMark? (mark : Char) : List Char → Option (List Char)
  | character :: rest => if character == mark then some rest else none
  | [] => none

def readDate? (text : List Char) : Option (List Char) := do
  let (year, rest) ← readFixed 10 4 0 text
  let rest ← readMark? '-' rest
  let (month, rest) ← readBounded 2 1 12 rest
  let rest ← readMark? '-' rest
  let (_, rest) ← readBounded 2 1 (daysInMonth year month) rest
  return rest

def readTime? (text : List Char) : Option (List Char) := do
  let (_, rest) ← readBounded 2 0 23 text
  let rest ← readMark? ':' rest
  let (_, rest) ← readBounded 2 0 59 rest
  let rest ← readMark? ':' rest
  let (_, rest) ← readBounded 2 0 60 rest
  match rest with
  | '.' :: digit :: after =>
    if Text.isAsciiDigit digit then return after.dropWhile Text.isAsciiDigit else return rest
  | rest => return rest

def readOffset? (text : List Char) : Option (List Char) :=
  match text with
  | 'Z' :: rest => some rest
  | 'z' :: rest => some rest
  | sign :: rest =>
    if sign == '+' || sign == '-' then do
      let (_, rest) ← readBounded 2 0 23 rest
      let rest ← readMark? ':' rest
      let (_, rest) ← readBounded 2 0 59 rest
      return rest
    else some text
  | [] => some []

def readTimeAfterDate? : List Char → Option (List Char)
  | mark :: rest =>
    if mark == 'T' || mark == 't' || mark == ' ' then (readTime? rest).bind readOffset? else none
  | [] => none

def readDateTime? (text : List Char) : Option (List Char) :=
  match readDate? text with
  | some rest => (readTimeAfterDate? rest).orElse fun _ => some rest
  | none => readTime? text

end SymbolCache.Toml
