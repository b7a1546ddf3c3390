import SymbolCache.Text.Character

/-!
# Cutting text

Trimming, lines, words and pieces of a text, as functions on its characters. White space means the
White_Space property throughout; a line ends at a line feed, together with one carriage return right
before it.
-/

set_option autoImplicit false

namespace SymbolCache.Text

def trimStart (text : List Char) : List Char :=
  text.dropWhile isWhiteSpace

def trimEndWhere (drops : Char → Bool) (text : List Char) : List Char :=
  (text.reverse.dropWhile drops).reverse

def trimEnd (text : List Char) : List Char :=
  trimEndWhere isWhiteSpace text

def trim (text : List Char) : List Char :=
  trimEnd (trimStart text)

/-- The pieces between the characters that satisfy `separates`. There is one piece more than there
are separators, so the empty text has one empty piece. -/
def splitWhere (separates : Char → Bool) : List Char → List (List Char)
  | [] => [[]]
  | character :: rest =>
    match splitWhere separates rest with
    | [] => [[character]]
    | piece :: pieces =>
      if separates character then [] :: piece :: pieces
      else (character :: piece) :: pieces

def split (separator : Char) (text : List Char) : List (List Char) :=
  splitWhere (· == separator) text

def splitOnce (separator : Char) (text : List Char) : Option (List Char × List Char) :=
  match text.dropWhile (· != separator) with
  | [] => none
  | _ :: after => some (text.takeWhile (· != separator), after)

def splitLast (separator : Char) (text : List Char) : Option (List Char × List Char) :=
  (splitOnce separator text.reverse).map fun sides => (sides.2.reverse, sides.1.reverse)

def words (text : List Char) : List (List Char) :=
  (splitWhere isWhiteSpace text).filter fun piece => !piece.isEmpty

def dropCarriageReturn (line : List Char) : List Char :=
  if line.getLast? = some '\r' then line.dropLast else line

/-- The lines of a text. A line feed ends a line, so nothing follows the last one; a last line
without a line feed keeps its carriage return. -/
def lines (text : List Char) : List (List Char) :=
  let pieces := split '\n' text
  pieces.dropLast.map dropCarriageReturn ++
    (pieces.getLast?.filter fun piece => !piece.isEmpty).toList

def dropPrefix? (leading : List Char) (text : List Char) : Option (List Char) :=
  match leading, text with
  | [], text => some text
  | _ :: _, [] => none
  | expected :: leading, character :: text =>
    if expected == character then dropPrefix? leading text else none

def dropSuffix? (trailing : List Char) (text : List Char) : Option (List Char) :=
  (dropPrefix? trailing.reverse text.reverse).map List.reverse

def startsWith (leading : String) (text : String) : Bool :=
  leading.toList.isPrefixOf text.toList

theorem dropPrefix?_eq_some_iff {leading text rest : List Char} :
    dropPrefix? leading text = some rest ↔ text = leading ++ rest := by
  induction leading generalizing text with
  | nil => simp [dropPrefix?]
  | cons expected leading ih =>
    cases text with
    | nil => simp [dropPrefix?]
    | cons character text =>
      by_cases same : expected = character
      · simp [dropPrefix?, same, ih]
      · simp [dropPrefix?, same, Ne.symm same]

theorem splitWhere_ne_nil (separates : Char → Bool) (text : List Char) :
    splitWhere separates text ≠ [] := by
  cases text with
  | nil => simp [splitWhere]
  | cons character rest =>
    simp only [splitWhere]
    split
    · simp
    · split <;> simp

end SymbolCache.Text
