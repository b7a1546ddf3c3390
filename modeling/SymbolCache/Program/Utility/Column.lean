import SymbolCache.Program.Utility.Print
import SymbolCache.Program.Regular.Match

/-!
# Columns and fields

Utilities that take parts out of lines, put lines together, number them and cut them to a width.
-/

set_option autoImplicit false

namespace SymbolCache.Program.Utility

/-! ## Parts of lines -/

/-- Numbers from a first to a last one, if there is a last one. -/
structure Span where
  first : Nat
  last : Option Nat
  deriving Repr, DecidableEq

def Span.has (span : Span) (number : Nat) : Bool :=
  span.first ≤ number && span.last.all (number ≤ ·)

inductive Counted where
  | bytes
  | fields
  deriving Repr, DecidableEq

def spanMistake (counted : Counted) (text : String) : String :=
  let isZero := number? text = some 0
  match counted with
  | .fields =>
    if isZero then "fields are numbered from 1" else "invalid field value " ++ escaped text
  | .bytes =>
    if isZero then "byte/character positions are numbered from 1"
    else "invalid byte/character position " ++ escaped text

/-- Reads a span: a number, or two with a dash between them of which one may be missing. -/
def readSpan (counted : Counted) (text : List Char) : Except String Span :=
  let number (digits : List Char) : Except String Nat :=
    match number? (String.ofList digits) with
    | some 0 | none => .error (spanMistake counted (String.ofList digits))
    | some value => .ok value
  match Text.splitOnce '-' text with
  | none => do
    let value ← number text
    return ⟨value, some value⟩
  | some ([], []) => .error "invalid range with no endpoint: -"
  | some ([], last) => do return ⟨1, some (← number last)⟩
  | some (first, []) => do return ⟨← number first, none⟩
  | some (first, last) => do
    let span : Span := ⟨← number first, some (← number last)⟩
    if span.last.all (span.first ≤ ·) then return span else throw "invalid decreasing range"

def readSpans (counted : Counted) (text : String) : Except String (List Span) :=
  (Text.splitWhere (fun character => character == ',' || isBlank character) text.toList).mapM
    (readSpan counted)

def choose {α : Type} (isChosen : Nat → Bool) (parts : List α) : List α :=
  (parts.zipIdx.filter fun (_, index) => isChosen (index + 1)).map Prod.fst

/-- The chosen fields of a line. A line without separators stays as it is, or is dropped. -/
def chooseFields (isChosen : Nat → Bool) (separator : Char) (joint : List Char) (dropsOthers : Bool)
    (line : List Char) : Option (List Char) :=
  if !line.contains separator then if dropsOthers then none else some line
  else some (joint.intercalate (choose isChosen (line.splitOn separator)))

/-- The chosen characters of a line, with a joint between those that are not next to each other. -/
def chooseCharacters (isChosen : Nat → Bool) (joint : List Char) (line : List Char) : List Char :=
  let chosen := line.zipIdx.filter fun (_, index) => isChosen (index + 1)
  let runs := chosen.splitBy fun first second => first.2 + 1 == second.2
  joint.intercalate (runs.map fun run => run.map Prod.fst)

def cut : Utility :=
  withOptions
    { name := "cut", plain := "nsCz", valued := "bcdfO"
      long := [("bytes", 'b'), ("characters", 'c'), ("delimiter", 'd'), ("fields", 'f'),
        ("complement", 'C'), ("only-delimited", 's'), ("output-delimiter", 'O')] }
    fun options => do
      let lists := options.given.filter fun option => ['b', 'c', 'f'].contains option.1
      let refuse (text : String) : StateM Surroundings Outcome := return misuse 1 "cut" text
      let separator := wordCharacters ((options.value? 'd').getD "\t")
      match lists with
      | [] => refuse "you must specify a list of bytes, characters, or fields"
      | _ :: _ :: _ => refuse "only one list may be specified"
      | [(letter, list)] =>
        let counted : Counted := if letter == 'f' then .fields else .bytes
        if counted = .bytes && options.has 'd' then
          refuse "an input delimiter may be specified only when operating on fields"
        else if counted = .bytes && options.has 's' then
          refuse ("suppressing non-delimited lines makes sense\n\tonly when operating on fields")
        else if 1 < separator.length then refuse "the delimiter must be a single character"
        else
          match readSpans counted list with
          | .error text => refuse text
          | .ok spans =>
            let isChosen (number : Nat) : Bool :=
              (spans.any fun span => span.has number) != options.has 'C'
            let separator := separator.headD '\x00'
            let joint := (options.value? 'O').map wordCharacters
            onEachFile "cut" (fun text =>
              joinLines ((plainLines text).filterMap fun line =>
                match counted with
                | .fields =>
                  chooseFields isChosen separator (joint.getD [separator]) (options.has 's') line
                | .bytes => some (chooseCharacters isChosen (joint.getD []) line)))
              options.paths

/-! ## Lines side by side -/

/-- The separators that a list of them stands for. A zero after a backslash stands for none. -/
def pasteSeparators : List Char → List (List Char)
  | [] => []
  | '\\' :: character :: rest =>
    (match character with
      | 'n' => ['\n']
      | 't' => ['\t']
      | '0' => []
      | 'b' => ['\x08']
      | 'f' => ['\x0c']
      | 'r' => ['\r']
      | 'v' => ['\x0b']
      | character => [character]) :: pasteSeparators rest
  | character :: rest => [character] :: pasteSeparators rest

def joinInTurn (separators : List (List Char)) (parts : List (List Char)) : List Char :=
  let count := max 1 separators.length
  (parts.zipIdx.map fun (part, index) =>
    (if index = 0 then [] else (separators[(index - 1) % count]?).getD []) ++ part).flatten

/-- Prints the lines of files side by side or, with `s`, the lines of each file in one line. -/
def paste : Utility :=
  withOptions
    { name := "paste", plain := "sz", valued := "d"
      long := [("delimiters", 'd'), ("serial", 's')] }
    fun options => do
      let separators := pasteSeparators (wordCharacters ((options.value? 'd').getD "\t"))
      let readings ← options.paths.mapM fun path => do return (path, ← readFile path)
      let failures := readings.filterMap fun (path, reading) =>
        match reading with
        | .ok _ => none
        | .error error => some (fileFailure 1 "paste" (quotedIfNeeded path) error)
      let input := plainLines (charactersOf (readings.flatMap fun (path, reading) =>
        if path = "-" then (reading.toOption.map Reading.content).getD [] else []))
      let turns := options.paths.count "-"
      let inTurn (turn : Nat) : List (List Char) :=
        (input.zipIdx.filter fun (_, index) => index % turns = turn).map Prod.fst
      let contents := readings.zipIdx.filterMap fun ((path, reading), index) =>
        if path = "-" && !options.has 's' then
          some (inTurn ((options.paths.take index).count "-"))
        else reading.toOption.map fun reading => plainLines (charactersOf reading.content)
      if options.has 's' then
        let lines := contents.map (joinInTurn separators)
        return (failures.foldl Outcome.andThen {}).andThen (printing (joinLines lines) ⟨0⟩)
      else
        match failures with
        | failure :: _ => return failure
        | [] =>
          let count := (contents.map List.length).foldl max 0
          let lines := (List.range count).map fun index =>
            joinInTurn separators (contents.map fun lines => (lines[index]?).getD [])
          return printing (joinLines lines) ⟨0⟩

/-! ## Numbers in front of lines -/

structure Numbering where
  has : List Char → Bool
  start : Int
  step : Int
  width : Nat
  separator : List Char
  format : String

def Numbering.number (numbering : Numbering) (value : Int) : List Char :=
  let digits := (toString value).toList
  match numbering.format with
  | "ln" => alignLeft numbering.width digits
  | "rz" =>
    let sign := digits.takeWhile (· == '-')
    let digits := digits.drop sign.length
    sign ++ List.replicate (numbering.width - sign.length - digits.length) '0' ++ digits
  | _ => alignRight numbering.width digits

def Numbering.lines (numbering : Numbering) (value : Int) : List (List Char) → Int × List Char
  | [] => (value, [])
  | line :: lines =>
    if numbering.has line then
      let (last, rest) := numbering.lines (value + numbering.step) lines
      (last, numbering.number value ++ numbering.separator ++ line ++ '\n' :: rest)
    else
      let (last, rest) := numbering.lines value lines
      let blanks := List.replicate (numbering.width + numbering.separator.length) ' '
      (last, blanks ++ line ++ '\n' :: rest)

def nl : Utility :=
  withOptions
    { name := "nl", plain := "p", valued := "bdfhilnsvw"
      long := [("body-numbering", 'b'), ("line-increment", 'i'), ("number-format", 'n'),
        ("number-separator", 's'), ("number-width", 'w'), ("starting-line-number", 'v')] }
    fun options =>
      let integer (letter : Char) (standard : Int) : Int :=
        ((options.value? letter).bind String.toInt?).getD standard
      let has : List Char → Bool := match ((options.value? 'b').getD "t").toList with
        | ['a'] => fun _ => true
        | ['n'] => fun _ => false
        | 'p' :: pattern =>
          let grammar : Regular.Grammar :=
            { isExtended := false, isLenient := true, ofBytes := true }
          match Regular.read grammar pattern with
          | .ok (expression, _) => fun line => (expression.find? false { rest := line }).isSome
          | .error _ => fun _ => false
        | _ => fun line => !line.isEmpty
      let numbering : Numbering :=
        { has
          start := integer 'v' 1
          step := integer 'i' 1
          width := (integer 'w' 6).toNat
          separator := wordCharacters ((options.value? 's').getD "\t")
          format := (options.value? 'n').getD "rn" }
      onFiles "nl" (fun value text => numbering.lines value (plainLines text)) numbering.start
        options.paths

/-! ## Widths -/

def nextColumn (ofBytes : Bool) (column : Nat) (character : Char) : Nat :=
  if ofBytes then column + 1
  else
    match character with
    | '\x08' => column - 1
    | '\r' => 0
    | '\t' => column + 8 - column % 8
    | _ => column + 1

/-- Cuts what has been read of a line, the last character first, at its last blank. -/
def breakAtBlank (atBlanks : Bool) (line : List Char) : List Char × List Char :=
  let after := line.takeWhile fun character => !isBlank character
  if atBlanks && after.length < line.length then (line.drop after.length, after) else (line, [])

/-- Cuts a line to a width. `line` is what has been read of the part that is open, the last
character first. It is fuelled. -/
def foldLine (ofBytes atBlanks : Bool) (width : Nat) :
    Nat → Nat → List Char → List Char → List Char
  | 0, _, line, rest => line.reverse ++ rest
  | _ + 1, _, line, [] => line.reverse
  | fuel + 1, column, line, character :: rest =>
    let next := nextColumn ofBytes column character
    if width < next && !line.isEmpty then
      let (full, started) := breakAtBlank atBlanks line
      let column := started.reverse.foldl (nextColumn ofBytes) 0
      full.reverse ++
        '\n' :: foldLine ofBytes atBlanks width fuel column started (character :: rest)
    else foldLine ofBytes atBlanks width fuel next (character :: line) rest

def fold : Utility := fun words =>
  withOptions
    { name := "fold", plain := "bs", valued := "w"
      long := [("bytes", 'b'), ("spaces", 's'), ("width", 'w')] }
    (fun options =>
      let word := (options.value? 'w').getD "80"
      match number? word with
      | none => return .failure 1 ("fold: invalid number of columns: " ++ escaped word ++ "\n")
      | some 0 =>
        return .failure 1
          ("fold: invalid number of columns: ‘0’: Numerical result out of range\n")
      | some width =>
        onLines "fold" (fun line =>
          foldLine (options.has 'b') (options.has 's') width (2 * line.length + 2) 0 [] line)
          options.paths)
    (words.map fun word =>
      match word.toList with
      | '-' :: digit :: _ =>
        if Text.isAsciiDigit digit then "-w" ++ (word.drop 1).toString else word
      | _ => word)

/-- A line with blanks instead of tabulators; with `leading` only in front of all others. -/
def expandLine (leading : Bool) (stops : List Nat) (column : Nat) : List Char → List Char
  | [] => []
  | character :: rest =>
    if character == '\t' then
      let size := stops.headD 8
      let next :=
        if stops.length ≤ 1 then column + size - column % size
        else (stops.find? (column < ·)).getD (column + 1)
      List.replicate (next - column) ' ' ++ expandLine leading stops next rest
    else if leading && character != ' ' then character :: rest
    else character :: expandLine leading stops (column + 1) rest

def expand : Utility := fun words =>
  withOptions
    { name := "expand", plain := "i", valued := "t", long := [("initial", 'i'), ("tabs", 't')] }
    (fun options =>
      let list := (options.value? 't').getD "8"
      let parts := Text.splitWhere (fun character => character == ',' || isBlank character)
        list.toList
      let stops := parts.filterMap fun part => number? (String.ofList part)
      if stops.length ≠ parts.length then
        return complaint 1 "expand"
          ("tab size contains invalid character(s): " ++ escaped list)
      else if stops.contains 0 then return .failure 1 "expand: tab size cannot be 0\n"
      else onLines "expand" (expandLine (options.has 'i') stops 0) options.paths)
    (words.map fun word =>
      match word.toList with
      | '-' :: digit :: _ =>
        if Text.isAsciiDigit digit then "-t" ++ (word.drop 1).toString else word
      | _ => word)

/-- A line with tabulators instead of runs of blanks that end at a multiple of a size. `blanks` is
the number of blanks in front that have not been written yet. -/
def unexpandLine (all : Bool) (size : Nat) (column blanks : Nat) : List Char → List Char
  | [] => List.replicate blanks ' '
  | ' ' :: rest =>
    if (column + 1) % size = 0 then
      (if blanks = 0 && rest.head? != some ' ' then ' ' else '\t') ::
        unexpandLine all size (column + 1) 0 rest
    else unexpandLine all size (column + 1) (blanks + 1) rest
  | '\t' :: rest => '\t' :: unexpandLine all size (column + size - column % size) 0 rest
  | character :: rest =>
    List.replicate blanks ' ' ++ character ::
      (if all then unexpandLine all size (column + 1) 0 rest else rest)

def unexpand : Utility :=
  withOptions
    { name := "unexpand", plain := "aF", valued := "t"
      long := [("all", 'a'), ("first-only", 'F'), ("tabs", 't')] }
    fun options =>
      let all := (options.has 'a' || options.has 't') && !options.has 'F'
      match number? ((options.value? 't').getD "8") with
      | none | some 0 => return .failure 1 "unexpand: tab size cannot be 0\n"
      | some size => onLines "unexpand" (unexpandLine all size 0 0) options.paths

end SymbolCache.Program.Utility
