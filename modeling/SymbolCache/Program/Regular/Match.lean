import SymbolCache.Program.Regular.Syntax

/-!
# Matching regular expressions

Where an expression can end if it starts at some place in a text. An expression matches at the first
place at which it can start, and from there on as much as it can.
-/

set_option autoImplicit false

namespace SymbolCache.Program.Regular

/-- A place in a text, and what the groups have matched on the way to it. -/
structure Place where
  position : Nat := 0
  before : Option Char := none
  rest : List Char
  groups : List (Nat × List Char) := []
  deriving Repr, DecidableEq

def isWordCharacter (character : Char) : Bool :=
  if Text.isAscii character then Text.isAsciiWord character else Text.isAlphanumeric character

def caseForms (character : Char) : List Char :=
  let upper := Text.upperLetter character
  [character, Text.lowerLetter character, upper, Text.lowerLetter upper]

def isInClass (character : Char) (name : String) : Bool :=
  match name with
  | "alnum" => Text.isAlphanumeric character
  | "alpha" => Text.isAlphabetic character
  | "blank" | "space" => Text.isWhiteSpace character && !(['\u00a0', '\u2007'].contains character)
  | "graph" | "print" => '\u00a0' ≤ character
  | "lower" => Text.upperLetter character ≠ character
  | "punct" => '\u00a0' ≤ character && !Text.isAlphanumeric character
  | "upper" => Text.isUppercase character
  | _ => false

/-- Whether a set has a character. No set has a byte that encodes no character. -/
def CharacterSet.has (ignoresCase : Bool) (set : CharacterSet) (character : Char) : Bool :=
  let isIn (character : Char) : Bool :=
    (set.ranges.any fun (first, last) => first ≤ character && character ≤ last) ||
      !set.classes.isEmpty && !Text.isAscii character && set.classes.any (isInClass character)
  let isInForms (character : Char) : Bool :=
    (caseForms character).any isIn ||
      set.ranges.any fun (first, last) => first = last && (caseForms first).contains character
  !Text.isStray character &&
    (if ignoresCase then isInForms character else isIn character) != set.negated

def Border.isAt (place : Place) (border : Border) : Bool :=
  let isAfterWord := place.before.any isWordCharacter
  let isBeforeWord := place.rest.head?.any isWordCharacter
  match border with
  | .start => place.before.isNone
  | .finish => place.rest.isEmpty
  | .wordStart => !isAfterWord && isBeforeWord
  | .wordEnd => isAfterWord && !isBeforeWord
  | .word => isAfterWord != isBeforeWord
  | .noWord => isAfterWord == isBeforeWord

namespace Place

def advance (place : Place) : Nat → Place
  | 0 => place
  | count + 1 =>
    match place.rest with
    | [] => place
    | character :: rest =>
      { place with position := place.position + 1, before := some character, rest }.advance count

def textTo (first last : Place) : List Char :=
  first.rest.take (last.position - first.position)

def groupText? (place : Place) (number : Nat) : Option (List Char) :=
  (place.groups.find? fun group => group.1 == number).map Prod.snd

end Place

/-- The places after a step that is taken over and over again, those after more steps first. It is
fuelled by the number of steps. `others` are put after them. -/
def repeatSteps (step : Place → List Place) :
    Nat → Nat → Option Nat → Place → List Place → List Place
  | 0, _, _, place, others => place :: others
  | fuel + 1, least, most, place, others =>
    let others := if least = 0 then place :: others else others
    if most = some 0 then others
    else
      (step place).foldr
        (fun next others =>
          if least = 0 && next.position = place.position then others
          else repeatSteps step fuel (least - 1) (most.map (· - 1)) next others)
        others

def Expression.ends (ignoresCase : Bool) : Expression → Place → List Place
  | .nothing, place => [place]
  | .one set, place =>
    match place.rest with
    | [] => []
    | character :: rest =>
      if set.has ignoresCase character then
        [{ place with position := place.position + 1, before := some character, rest }]
      else []
  | .border kind, place => if kind.isAt place then [place] else []
  | .group number inside, place =>
    (inside.ends ignoresCase place).map fun last =>
      let others := last.groups.filter fun group => group.1 != number
      { last with groups := (number, place.textTo last) :: others }
  | .again number, place =>
    match place.groupText? number with
    | none => []
    | some text =>
      let last := place.advance text.length
      let fold (text : List Char) := if ignoresCase then text.map Text.lowerLetter else text
      if fold (place.textTo last) = fold text then [last] else []
  | .both first second, place =>
    ((first.ends ignoresCase place).flatMap (second.ends ignoresCase)).eraseDups
  | .either first second, place =>
    first.ends ignoresCase place ++ second.ends ignoresCase place
  | .repeated least most inside, place =>
    repeatSteps (inside.ends ignoresCase) (place.rest.length + least + 1) least most place []

def furthest? : List Place → Option Place
  | [] => none
  | place :: places =>
    match furthest? places with
    | some other => some (if place.position < other.position then other else place)
    | none => some place

structure Match where
  start : Place
  finish : Place
  deriving Repr

def Match.text (found : Match) : List Char :=
  found.start.textTo found.finish

/-- The first match at a place or after it. `ends` gives the places where a match can end that
starts at a place. It is fuelled by the length of the text. -/
def firstMatch? (ends : Place → List Place) : Nat → Place → Option Match
  | 0, _ => none
  | fuel + 1, place =>
    match furthest? (ends place) with
    | some finish => some { start := place, finish }
    | none => if place.rest.isEmpty then none else firstMatch? ends fuel (place.advance 1)

def Expression.find? (ignoresCase : Bool) (expression : Expression) (place : Place) :
    Option Match :=
  firstMatch? (expression.ends ignoresCase) (place.rest.length + 1) place

/-- All matches in a text, from a place on. A match without characters counts unless another one
ends there. It is fuelled by the length of the text. -/
def allMatches (find? : Place → Option Match) : Nat → Place → Option Nat → List Match
  | 0, _, _ => []
  | fuel + 1, place, last =>
    match find? { place with groups := [] } with
    | none => []
    | some found =>
      let isEmpty := found.start.position = found.finish.position
      let next := if isEmpty then found.finish.advance 1 else found.finish
      let others :=
        if isEmpty && found.finish.rest.isEmpty then []
        else allMatches find? fuel next (some found.finish.position)
      if isEmpty && last = some found.start.position then others else found :: others

end SymbolCache.Program.Regular
