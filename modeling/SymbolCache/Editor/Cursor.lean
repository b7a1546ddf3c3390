import SymbolCache.Text.Cut

/-!
# The cursor

What stands right before the cursor, as far as one line tells: whether the cursor is in a comment or
a literal, and which identifier is being typed.
-/

set_option autoImplicit false

namespace SymbolCache.Cursor

/-! ## Comments and literals -/

/-- What the bytes read so far have opened and not closed. -/
inductive Surroundings where
  | code
  | blockComment
  | string
  | rune
  | rawString
  deriving Repr, DecidableEq

/-- Whether a line ends outside of code. Two slashes make a comment of the rest of the line. A
backslash in a string or a rune literal passes over one byte, of which the further bytes of one
character cannot be told from text. -/
def endsOutsideCode : Surroundings → List UInt8 → Bool
  | surroundings, [] => surroundings != .code
  | .blockComment, 0x2A :: 0x2F :: bytes => endsOutsideCode .code bytes
  | .blockComment, _ :: bytes => endsOutsideCode .blockComment bytes
  | .string, 0x5C :: _ :: bytes => endsOutsideCode .string bytes
  | .string, 0x22 :: bytes => endsOutsideCode .code bytes
  | .string, _ :: bytes => endsOutsideCode .string bytes
  | .rune, 0x5C :: _ :: bytes => endsOutsideCode .rune bytes
  | .rune, 0x27 :: bytes => endsOutsideCode .code bytes
  | .rune, _ :: bytes => endsOutsideCode .rune bytes
  | .rawString, 0x60 :: bytes => endsOutsideCode .code bytes
  | .rawString, _ :: bytes => endsOutsideCode .rawString bytes
  | .code, 0x2F :: 0x2F :: _ => true
  | .code, 0x2F :: 0x2A :: bytes => endsOutsideCode .blockComment bytes
  | .code, 0x22 :: bytes => endsOutsideCode .string bytes
  | .code, 0x27 :: bytes => endsOutsideCode .rune bytes
  | .code, 0x60 :: bytes => endsOutsideCode .rawString bytes
  | .code, _ :: bytes => endsOutsideCode .code bytes

/-- Whether the cursor after `line` is in a comment or a literal. -/
def isInCommentOrString (line : String) : Bool :=
  endsOutsideCode .code line.toUTF8.toList

/-! ## Identifiers -/

/-- The identifier at the end of a line, from its reversed characters: a run of ASCII letters,
digits and underscores, and a qualifier in front of it if there is one. -/
def identifierBackwards (reversed : List Char) : List Char :=
  let selector := reversed.takeWhile Text.isAsciiWord
  match reversed.dropWhile Text.isAsciiWord with
  | '.' :: before =>
    match before.takeWhile Text.isAsciiWord with
    | [] => selector
    | qualifier => selector ++ '.' :: qualifier
  | _ => selector

/-- The identifier being typed at the end of `line`, if there is one. -/
def identifier? (line : String) : Option String :=
  match identifierBackwards line.toList.reverse with
  | [] => none
  | reversed => some (String.ofList reversed.reverse)

/-- The qualifier and the selector of an identifier with a dot. -/
def splitQualified? (identifier : String) : Option (String × String) :=
  (Text.splitOnce '.' identifier.toList).map fun (qualifier, selector) =>
    (String.ofList qualifier, String.ofList selector)

example : identifier? "x := a.b.c" = some "b.c" := by decide +kernel

example : identifier? "(..x" = some "x" := by decide +kernel

end SymbolCache.Cursor
