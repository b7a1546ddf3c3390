import SymbolCache.Program.Utility.Format

/-!
# Sequences

Utilities that print numbers in steps, or the same words over and over again.
-/

set_option autoImplicit false

namespace SymbolCache.Program.Utility

/-! ## Numbers in steps -/

structure Term where
  value : Fraction
  places : Nat
  deriving Repr, DecidableEq

def Term.ofText? (text : List Char) : Option Term :=
  match readFraction text with
  | some (value, []) =>
    let isExact := !text.any fun letter => letter == 'x' || letter == 'X'
    let fraction := if isExact then
      ((text.dropWhile (· != '.')).drop 1).takeWhile Text.isAsciiDigit else []
    let power := (readExponent 'e' (text.dropWhile fun letter => letter.toLower != 'e')).1
    let power := if isExact then power else 0
    some { value, places := (fraction.length - power).toNat }
  | _ => none

/-- The value of a finite number times a power of ten, without what is left of its fraction. -/
def Term.scaled? (places : Nat) (term : Term) : Option Int :=
  match term.value with
  | .finite negative size =>
    let scaled := size.scale 10 places
    let value := scaled.numerator / scaled.denominator
    some (if negative then -value else value)
  | _ => none

def progression (first step last : Int) : List Int :=
  let span := if 0 < step then last - first else first - last
  if span < 0 then []
  else
    (List.range (span.natAbs / step.natAbs + 1)).map
      fun (index : Nat) => first + (index : Int) * step

/-- A format with a single conversion in it. -/
structure TermFormat where
  before : List Char := []
  conversion : Conversion
  width : Nat := 0
  precision : Option Nat := none
  after : List Char := []

def TermFormat.show (format : TermFormat) (value : Fraction) : List UInt8 :=
  characterBytes format.before ++
    format.conversion.showFraction format.width format.precision value ++
    characterBytes format.after

def readFormatText : List Char → List Char × List Char
  | '%' :: '%' :: rest =>
    let (text, rest) := readFormatText rest
    ('%' :: text, rest)
  | '%' :: rest => ([], '%' :: rest)
  | [] => ([], [])
  | character :: rest =>
    let (text, rest) := readFormatText rest
    (character :: text, rest)

def TermFormat.read (text : List Char) : Except String TermFormat :=
  match readFormatText text with
  | (before, '%' :: rest) =>
    let isFlag (letter : Char) : Bool := ['-', '+', ' ', '#', '0', '\x27'].contains letter
    let (width, afterWidth) := readSize (rest.dropWhile isFlag)
    let (precision, afterSize) := match afterWidth with
      | '.' :: rest =>
        let (precision, rest) := readSize rest
        (if precision = Size.absent then Size.fixed 0 else precision, rest)
      | rest => (Size.absent, rest)
    let size : Size → Option Nat
      | .fixed count => some count
      | _ => none
    match if afterSize.head? = some 'L' then afterSize.tail else afterSize with
    | [] => .error "ends in %"
    | letter :: others =>
      if !fractionLetters.contains letter then
        .error ("has unknown %" ++ String.singleton letter ++ " directive")
      else
        match readFormatText others with
        | (after, []) =>
          .ok { before, after, width := (size width).getD 0, precision := size precision
                conversion := { flags := rest.takeWhile isFlag, letter } }
        | _ => .error "has too many % directives"
  | _ => .error "has no % directive"

def endOptions : List String → List String
  | [] => []
  | word :: words =>
    match word.toList with
    | '-' :: first :: _ =>
      if word = "--" then word :: words
      else if Text.isAsciiDigit first || first == '.' then "--" :: word :: words
      else if ["-s", "-f", "--separator", "--format"].contains word then
        match words with
        | value :: words => word :: value :: endOptions words
        | [] => [word]
      else word :: endOptions words
    | _ => word :: words

/-- The numbers that some words give: the first one, the step and the last one. -/
def sequenceTerms (words : List String) : Except String (Term × Term × Term) := do
  let terms ← words.mapM fun word =>
    match Term.ofText? (wordCharacters word) with
    | some term =>
      match term.value with
      | .undefined _ => .error ("invalid ‘not-a-number’ argument: " ++ escaped word)
      | _ => .ok term
    | none => .error ("invalid floating point argument: " ++ escaped word)
  let one : Term := { value := .finite false { numerator := 1 }, places := 0 }
  match terms with
  | [] => throw "missing operand"
  | [last] => return (one, one, last)
  | [first, last] => return (first, one, last)
  | [first, step, last] =>
    if step.scaled? step.places = some 0 then
      throw ("invalid Zero increment value: " ++ escaped ((words[1]?).getD ""))
    else return (first, step, last)
  | _ => throw ("extra operand " ++ escaped ((words[3]?).getD ""))

def standardFormat (equalWidth : Bool) (places : Nat) (first last : Term) : TermFormat :=
  let conversion : Conversion := { flags := if equalWidth then ['0'] else [], letter := 'f' }
  let format : TermFormat := { conversion, precision := some places }
  let width (term : Term) : Nat := ((format.show term.value).length)
  if equalWidth then { format with width := max (width first) (width last) } else format

def endlessCount : Nat := 10000

/-- Prints numbers in steps, with line feeds between them or another separator. -/
def seq : Utility := fun words =>
  withOptions
    { name := "seq", plain := "w", valued := "fs", stopsAtWord := true
      long := [("equal-width", 'w'), ("format", 'f'), ("separator", 's')] }
    (fun options => do
      match sequenceTerms options.words with
      | .error text => return misuse 1 "seq" text
      | .ok (first, step, last) =>
        let places := max first.places step.places
        let scale := max places last.places
        let number (term : Term) : Int := (term.scaled? scale).getD 0
        let isEndless := (last.scaled? scale).isNone
        let values :=
          if isEndless then
            let limit := number first + number step * (endlessCount : Int)
            match last.value with
            | .infinite negative =>
              if negative == decide (number step < 0) then
                progression (number first) (number step) limit
              else []
            | _ => []
          else progression (number first) (number step) (number last)
        let format : Except String TermFormat :=
          match options.value? 'f' with
          | some text =>
            (TermFormat.read text.toList).mapError fun fault =>
              "seq: format " ++ escaped text ++ " " ++ fault ++ "\n"
          | none => .ok (standardFormat (options.has 'w') places first last)
        let fraction (value : Int) : Fraction :=
          let size := ({ numerator := value.natAbs } : Quotient).scale 10 (-scale)
          let value := Fraction.finite (value < 0) size
          if scale = 0 then value else (Exactness.extended.bring value).1
        match format with
        | .error text => return .failure 1 text
        | .ok format =>
          if options.has 'w' && (options.value? 'f').isSome then
            return misuse 1 "seq"
              "format string may not be specified when printing equal width strings"
          else if values.isEmpty then return {}
          else
            let separator := bytes ((options.value? 's').getD "\n")
            let shown :=
              separator.intercalate (values.map fun value => format.show (fraction value))
            return .printing (shown ++ [10]) (if isEndless then forever else ⟨0⟩))
    (endOptions words)

/-! ## Repetitions -/

def yes : Utility := fun words =>
  let line := (if words.isEmpty then "y" else " ".intercalate words) ++ "\n"
  return .printing (List.replicate (endlessLength / line.length) (bytes line)).flatten forever

end SymbolCache.Program.Utility
