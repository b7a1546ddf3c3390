import SymbolCache.Text.Natural

/-!
# JSON texts

The syntax trees of JSON texts, read without a limit on nesting. A tree keeps what a later step may
refuse: repeated fields, numbers beyond every range and string literals that name a lone surrogate.
So one reading serves a reader that skips a part and one that takes it as a value.
-/

set_option autoImplicit false

namespace SymbolCache.Json

/-- A number as written: the digits before the point, those after it, and the power of ten that they
are multiplied with. -/
structure NumberLiteral where
  negative : Bool
  whole : List Char
  fraction : List Char
  exponent : Option Int
  deriving Repr, DecidableEq

/-- Whether a number has neither a fraction nor an exponent. -/
def NumberLiteral.isIntegral (literal : NumberLiteral) : Bool :=
  literal.fraction.isEmpty && literal.exponent.isNone

/-- The syntax tree of a JSON text. The text of a string literal is absent if the literal names a
lone surrogate and so stands for no text. -/
inductive Syntax where
  | null
  | boolean (value : Bool)
  | number (literal : NumberLiteral)
  | string (text : Option String)
  | array (elements : List Syntax)
  | object (fields : List (Option String × Syntax))
  deriving Repr

def isBlank (character : Char) : Bool :=
  character == ' ' || character == '\t' || character == '\n' || character == '\r'

def skipBlank (text : List Char) : List Char :=
  text.dropWhile isBlank

/-! ## Numbers -/

def digitValue? (character : Char) : Option Nat :=
  if '0'.toNat ≤ character.toNat ∧ character.toNat ≤ '9'.toNat then
    some (character.toNat - '0'.toNat)
  else none

def hexValue? (character : Char) : Option Nat :=
  if 'a'.toNat ≤ character.toNat ∧ character.toNat ≤ 'f'.toNat then
    some (character.toNat - 'a'.toNat + 10)
  else if 'A'.toNat ≤ character.toNat ∧ character.toNat ≤ 'F'.toNat then
    some (character.toNat - 'A'.toNat + 10)
  else digitValue? character

def readDigits (text : List Char) : List Char × List Char :=
  (text.takeWhile Text.isAsciiDigit, text.dropWhile Text.isAsciiDigit)

def readSomeDigits (text : List Char) : Option (List Char × List Char) :=
  match readDigits text with
  | ([], _) => none
  | (digits, rest) => some (digits, rest)

/-- Reads digits before the point: a lone zero, or digits that do not start with zero. -/
def readWhole : List Char → Option (List Char × List Char)
  | '0' :: rest => some (['0'], rest)
  | text => readSomeDigits text

def readFraction : List Char → Option (List Char × List Char)
  | '.' :: rest => readSomeDigits rest
  | rest => some ([], rest)

def readSign : List Char → Bool × List Char
  | '-' :: rest => (true, rest)
  | '+' :: rest => (false, rest)
  | rest => (false, rest)

def readExponent (text : List Char) : Option (Option Int × List Char) :=
  match text with
  | letter :: rest =>
    if letter == 'e' || letter == 'E' then do
      let (negative, rest) := readSign rest
      let (digits, rest) ← readSomeDigits rest
      let value : Int := Text.digitsValue 0 digits
      return (some (if negative then -value else value), rest)
    else some (none, text)
  | [] => some (none, [])

def readUnsigned (negative : Bool) (text : List Char) : Option (NumberLiteral × List Char) := do
  let (whole, rest) ← readWhole text
  let (fraction, rest) ← readFraction rest
  let (exponent, rest) ← readExponent rest
  return ({ negative, whole, fraction, exponent }, rest)

def readNumber : List Char → Option (NumberLiteral × List Char)
  | '-' :: rest => readUnsigned true rest
  | text => readUnsigned false text

/-! ## Strings -/

/-- One element of a string literal: a character, or a UTF-16 unit written in hexadecimal. -/
inductive StringPiece where
  | plain (character : Char)
  | unit (value : Nat)
  deriving Repr, DecidableEq

/-- The character that a one-letter escape stands for. -/
def escapeMeaning? : Char → Option Char
  | '"' => some '"'
  | '\\' => some '\\'
  | '/' => some '/'
  | 'b' => some '\x08'
  | 'f' => some '\x0c'
  | 'n' => some '\n'
  | 'r' => some '\r'
  | 't' => some '\t'
  | _ => none

def hexUnit? (first second third fourth : Char) : Option Nat := do
  let first ← hexValue? first
  let second ← hexValue? second
  let third ← hexValue? third
  let fourth ← hexValue? fourth
  return ((first * 16 + second) * 16 + third) * 16 + fourth

/-- Reads a string literal after its opening quote. Control characters must be escaped. -/
def readPieces : List Char → Option (List StringPiece × List Char)
  | [] => none
  | '"' :: rest => some ([], rest)
  | '\\' :: 'u' :: first :: second :: third :: fourth :: rest => do
    let value ← hexUnit? first second third fourth
    let (pieces, rest) ← readPieces rest
    return (.unit value :: pieces, rest)
  | '\\' :: letter :: rest => do
    let character ← escapeMeaning? letter
    let (pieces, rest) ← readPieces rest
    return (.plain character :: pieces, rest)
  | ['\\'] => none
  | character :: rest =>
    if character.toNat < 0x20 then none
    else do
      let (pieces, rest) ← readPieces rest
      return (.plain character :: pieces, rest)

def isHighSurrogate (value : Nat) : Bool := 0xD800 ≤ value && value ≤ 0xDBFF

def isLowSurrogate (value : Nat) : Bool := 0xDC00 ≤ value && value ≤ 0xDFFF

/-- The characters that the pieces of a literal stand for: a surrogate counts only in a pair written
in one go. -/
def joinPieces? : List StringPiece → Option (List Char)
  | [] => some []
  | .plain character :: rest => (joinPieces? rest).map (character :: ·)
  | .unit high :: .unit low :: rest =>
    if isHighSurrogate high then
      if isLowSurrogate low then
        (joinPieces? rest).map
          (Char.ofNat (0x10000 + (high - 0xD800) * 0x400 + (low - 0xDC00)) :: ·)
      else none
    else if isLowSurrogate high then none
    else (joinPieces? (.unit low :: rest)).map (Char.ofNat high :: ·)
  | .unit value :: rest =>
    if isHighSurrogate value || isLowSurrogate value then none
    else (joinPieces? rest).map (Char.ofNat value :: ·)

/-- Reads a string literal after its opening quote, as text if it stands for one. -/
def readString (text : List Char) : Option (Option String × List Char) :=
  (readPieces text).map fun (pieces, rest) => ((joinPieces? pieces).map String.ofList, rest)

/-! ## Values -/

def readWord : List Char → Option (Syntax × List Char)
  | 'n' :: 'u' :: 'l' :: 'l' :: rest => some (.null, rest)
  | 't' :: 'r' :: 'u' :: 'e' :: rest => some (.boolean true, rest)
  | 'f' :: 'a' :: 'l' :: 's' :: 'e' :: rest => some (.boolean false, rest)
  | _ => none

mutual

/-- Reads one value. The fuel bounds the calls, of which no character takes more than two. -/
def readValue : Nat → List Char → Option (Syntax × List Char)
  | 0, _ => none
  | fuel + 1, text =>
    match skipBlank text with
    | '"' :: rest => (readString rest).map fun (value, rest) => (.string value, rest)
    | '[' :: rest =>
      match skipBlank rest with
      | ']' :: rest => some (.array [], rest)
      | rest => (readElements fuel rest).map fun (elements, rest) => (.array elements, rest)
    | '{' :: rest =>
      match skipBlank rest with
      | '}' :: rest => some (.object [], rest)
      | rest => (readFields fuel rest).map fun (fields, rest) => (.object fields, rest)
    | text =>
      match readWord text with
      | some result => some result
      | none => (readNumber text).map fun (literal, rest) => (.number literal, rest)

/-- Reads the elements of an array and its closing bracket. -/
def readElements : Nat → List Char → Option (List Syntax × List Char)
  | 0, _ => none
  | fuel + 1, text => do
    let (element, rest) ← readValue fuel text
    match skipBlank rest with
    | ',' :: rest =>
      let (elements, rest) ← readElements fuel rest
      return (element :: elements, rest)
    | ']' :: rest => return ([element], rest)
    | _ => none

/-- Reads the fields of an object and its closing brace. -/
def readFields : Nat → List Char → Option (List (Option String × Syntax) × List Char)
  | 0, _ => none
  | fuel + 1, text =>
    match skipBlank text with
    | '"' :: rest => do
      let (name, rest) ← readString rest
      match skipBlank rest with
      | ':' :: rest =>
        let (value, rest) ← readValue fuel rest
        match skipBlank rest with
        | ',' :: rest =>
          let (fields, rest) ← readFields fuel rest
          return ((name, value) :: fields, rest)
        | '}' :: rest => return ([(name, value)], rest)
        | _ => none
      | _ => none
    | _ => none

end

/-- The syntax tree of a text that holds one value and nothing else but white space. -/
def Syntax.read? (text : String) : Option Syntax :=
  match readValue (2 * text.length + 2) text.toList with
  | some (value, rest) => if (skipBlank rest).isEmpty then some value else none
  | none => none

end SymbolCache.Json
