import SymbolCache.Text.Property

/-!
# Character classes

The Unicode classes of characters that names, listings and documents are cut by. Each class is
decided by comparison inside ASCII and by its table above it.
-/

set_option autoImplicit false

namespace SymbolCache.Text

def inRanges (ranges : List (Nat × Nat)) (codePoint : Nat) : Bool :=
  ranges.any fun range => range.1 ≤ codePoint && codePoint ≤ range.2

def isAscii (character : Char) : Bool :=
  character.toNat < 0x80

def isAsciiUpper (character : Char) : Bool :=
  'A'.toNat ≤ character.toNat && character.toNat ≤ 'Z'.toNat

def isAsciiLower (character : Char) : Bool :=
  'a'.toNat ≤ character.toNat && character.toNat ≤ 'z'.toNat

def isAsciiLetter (character : Char) : Bool :=
  isAsciiUpper character || isAsciiLower character

def isAsciiDigit (character : Char) : Bool :=
  '0'.toNat ≤ character.toNat && character.toNat ≤ '9'.toNat

def isAsciiAlphanumeric (character : Char) : Bool :=
  isAsciiLetter character || isAsciiDigit character

/-- An ASCII letter, digit or underscore: what the identifier under a cursor is made of. -/
def isAsciiWord (character : Char) : Bool :=
  isAsciiAlphanumeric character || character == '_'

def isUppercase (character : Char) : Bool :=
  if isAscii character then isAsciiUpper character
  else inRanges uppercaseRanges character.toNat

def isAlphabetic (character : Char) : Bool :=
  if isAscii character then isAsciiLetter character
  else inRanges alphabeticRanges character.toNat

def isNumeric (character : Char) : Bool :=
  if isAscii character then isAsciiDigit character
  else inRanges numericRanges character.toNat

def isAlphanumeric (character : Char) : Bool :=
  isAlphabetic character || isNumeric character

/-- A character that belongs to a word: alphabetic, a mark, a decimal digit, a connector or a
joiner. Word boundaries lie between such a character and any other. -/
def isWord (character : Char) : Bool :=
  if isAscii character then isAsciiWord character
  else inRanges wordRanges character.toNat

def isCased (character : Char) : Bool :=
  if isAscii character then isAsciiLetter character
  else inRanges casedRanges character.toNat

/-- A character with the Case_Ignorable property. The ASCII ones are five signs. -/
def isCaseIgnorable (character : Char) : Bool :=
  if isAscii character then
    ['\x27', '.', ':', '^', '\x60'].contains character
  else inRanges caseIgnorableRanges character.toNat

def isWhiteSpace (character : Char) : Bool :=
  inRanges
    [(0x9, 0xD), (0x20, 0x20), (0x85, 0x85), (0xA0, 0xA0), (0x1680, 0x1680), (0x2000, 0x200A),
      (0x2028, 0x2029), (0x202F, 0x202F), (0x205F, 0x205F), (0x3000, 0x3000)]
    character.toNat

theorem isAsciiWord_iff (character : Char) :
    isAsciiWord character = true ↔
      isAsciiLetter character = true ∨ isAsciiDigit character = true ∨ character = '_' := by
  simp [isAsciiWord, isAsciiAlphanumeric, or_assoc]

end SymbolCache.Text
