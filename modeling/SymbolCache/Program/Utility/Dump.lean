import SymbolCache.Program.Utility.Line

/-!
# Dumping bytes

Prints content as numbers or characters. A line shows as many bytes as a block has, after the place
of the first one, and every format has a line of its own. The values of all formats stand in
columns: a format that needs less room for a block than another one spreads the rest over its
values.
-/

set_option autoImplicit false

namespace SymbolCache.Program.Utility

/-! ## Formats -/

inductive DumpKind where
  | octal
  | signed
  | unsigned
  | hexadecimal
  | character
  /-- The name of a character, or the character itself. -/
  | named
  deriving Repr, DecidableEq

/-- What values are shown as, how many bytes one has, and whether the characters of a block are
shown at the end of its line. -/
structure DumpFormat where
  kind : DumpKind
  size : Nat := 1
  showsText : Bool := false
  /-- Whether the highest byte of a value comes first. -/
  isReversed : Bool := false
  deriving Repr, DecidableEq

/-- The names of the characters that have one, in order; the last one is that of the blank. -/
def characterNames : List String :=
  ["nul", "soh", "stx", "etx", "eot", "enq", "ack", "bel", "bs", "ht", "nl", "vt", "ff", "cr", "so",
    "si", "dle", "dc1", "dc2", "dc3", "dc4", "nak", "syn", "etb", "can", "em", "sub", "esc", "fs",
    "gs", "rs", "us", "sp"]

def paddedDigits (base width number : Nat) : List Char :=
  let digits := Nat.toDigits base number
  List.replicate (width - digits.length) '0' ++ digits

namespace DumpFormat

def width (format : DumpFormat) : Nat :=
  let most := Nat.pow 256 format.size - 1
  match format.kind with
  | .octal => (Nat.toDigits 8 most).length
  | .signed => (Nat.toDigits 10 (Nat.pow 2 (8 * format.size - 1))).length + 1
  | .unsigned => (Nat.toDigits 10 most).length
  | .hexadecimal => 2 * format.size
  | .character | .named => 3

def text (format : DumpFormat) (content : List UInt8) : List Char :=
  let content := if format.isReversed then content.reverse else content
  let value := content.foldr (fun byte value => 256 * value + byte.toNat) 0
  let byte := Char.ofNat value
  match format.kind with
  | .octal => paddedDigits 8 format.width value
  | .hexadecimal => paddedDigits 16 format.width value
  | .unsigned => Text.decimal value
  | .signed =>
    let half := Nat.pow 2 (8 * format.size - 1)
    if value < half then Text.decimal value else '-' :: Text.decimal (2 * half - value)
  | .character =>
    if isPrinting byte then [byte]
    else if value = 0 then ['\\', '0']
    else
      match escapeLetter? byte with
      | some letter => ['\\', letter]
      | none => paddedDigits 8 3 value
  | .named =>
    let value := value % 128
    if value = 127 then "del".toList
    else ((characterNames[value]?.map String.toList)).getD [Char.ofNat value]

def blockWidth (format : DumpFormat) (blockSize : Nat) : Nat :=
  (format.width + 1) * (blockSize / format.size)

/-- The values of a block, each to the right of its column. `room` is what all columns have together
in addition to the widths of the values, and `left` what is left of it. -/
def columns (format : DumpFormat) (count room left : Nat) : Nat → List (List UInt8) → List Char
  | _, [] => []
  | place, value :: values =>
    let next := room * (count - place - 1) / count
    alignRight (left - next + format.width) (format.text value) ++
      format.columns count room next (place + 1) values

/-- The line for a block without the place in front. `total` is how many characters a whole block
takes. -/
def line (format : DumpFormat) (blockSize total : Nat) (block : List UInt8) : List Char :=
  let count := blockSize / format.size
  let room := total - format.width * count
  let values := (piecesOf format.size block).map fun value =>
    value ++ List.replicate (format.size - value.length) 0
  let shown := format.columns count room room 0 values
  if format.showsText then
    let characters := block.map fun byte =>
      if isPrinting (Char.ofNat byte.toNat) then Char.ofNat byte.toNat else '.'
    let blanks := count - values.length
    shown ++ List.replicate (blanks * format.width + room * blanks / count) ' ' ++
      "  >".toList ++ characters ++ ['<']
  else shown

end DumpFormat

/-! ## Dumps -/

structure Dump where
  formats : List DumpFormat
  blockSize : Nat
  /-- The base of the numbers for places and their least length, if places are shown. -/
  places : Option (Nat × Nat)
  /-- Whether blocks are shown that are like the one before. -/
  showsAll : Bool

namespace Dump

def place (dump : Dump) (place : Nat) : List Char :=
  match dump.places with
  | some (base, width) => paddedDigits base width place
  | none => []

def block (dump : Dump) (place : Nat) (content : List UInt8) : List (List Char) :=
  let total := (dump.formats.map fun format => format.blockWidth dump.blockSize).foldl max 0
  let front := dump.place place
  dump.formats.zipIdx.map fun (format, index) =>
    (if index = 0 then front else front.map fun _ => ' ') ++
      format.line dump.blockSize total content

/-- The lines for each of some blocks. `last` is the block before, and `isSkipping` tells whether
that one was not shown. -/
def blocks (dump : Dump) (place : Nat) (last : Option (List UInt8)) (isSkipping : Bool) :
    List (List UInt8) → List (List (List Char))
  | [] => []
  | content :: others =>
    let next := place + content.length
    if !dump.showsAll && content.length = dump.blockSize && last = some content then
      (if isSkipping then [] else [['*']]) :: dump.blocks next last true others
    else dump.block place content :: dump.blocks next (some content) false others

end Dump

/-! ## Options -/

def readValueSize (text : List Char) : Nat × List Char :=
  match text with
  | 'C' :: rest => (1, rest)
  | 'S' :: rest => (2, rest)
  | 'I' :: rest => (4, rest)
  | 'L' :: rest => (8, rest)
  | text =>
    let digits := text.takeWhile Text.isAsciiDigit
    (if digits.isEmpty then 4 else Text.digitsValue 0 digits, text.drop digits.length)

/-- Reads formats, or tells what is wrong with them. It is fuelled by the length of the text. -/
def readFormats (word : String) : Nat → List Char → Except String (List DumpFormat)
  | 0, _ | _ + 1, [] => .ok []
  | fuel + 1, letter :: rest => do
    let kind? : Option DumpKind := match letter with
      | 'd' => some .signed
      | 'o' => some .octal
      | 'u' => some .unsigned
      | 'x' => some .hexadecimal
      | 'c' => some .character
      | 'a' => some .named
      | _ => none
    let some kind := kind? |
      throw ("invalid character '" ++ String.singleton letter ++ "' in type string " ++
        escaped word)
    let (size, rest) := if kind = .character || kind = .named then (1, rest) else readValueSize rest
    if !([1, 2, 4, 8].contains size) then
      throw ("invalid type string " ++ escaped word ++ ";\nthis system doesn't provide a " ++
        toString size ++ "-byte integral type")
    let format : DumpFormat := { kind, size, showsText := rest.head? = some 'z' }
    return format :: (← readFormats word fuel (if format.showsText then rest.tail else rest))

def formatsOf (letter : Char) (value : String) : Except String (List DumpFormat) :=
  match letter with
  | 'a' => .ok [{ kind := .named }]
  | 'b' => .ok [{ kind := .octal }]
  | 'c' => .ok [{ kind := .character }]
  | 'd' => .ok [{ kind := .unsigned, size := 2 }]
  | 'D' => .ok [{ kind := .unsigned, size := 4 }]
  | 'o' | 'B' => .ok [{ kind := .octal, size := 2 }]
  | 'O' => .ok [{ kind := .octal, size := 4 }]
  | 's' => .ok [{ kind := .signed, size := 2 }]
  | 'i' => .ok [{ kind := .signed, size := 4 }]
  | 'I' | 'l' | 'L' => .ok [{ kind := .signed, size := 8 }]
  | 'x' | 'h' => .ok [{ kind := .hexadecimal, size := 2 }]
  | 'X' | 'H' => .ok [{ kind := .hexadecimal, size := 4 }]
  | 't' => readFormats value (value.length + 1) value.toList
  | _ => .ok []

/-- The number of bytes that a word stands for: in base ten, eight after a zero or sixteen after a
zero and an x, with a letter for a multiple. -/
def byteCount? (word : String) : Option Nat :=
  let (base, text) : Nat × List Char := match word.toList with
    | '0' :: 'x' :: text => (16, text)
    | '0' :: text => (8, '0' :: text)
    | text => (10, text)
  let isDigit (letter : Char) : Bool :=
    if base = 16 then letter.isDigit || ('a' ≤ letter && letter ≤ 'f') else letter.isDigit
  let digits := text.takeWhile isDigit
  let value (letter : Char) : Nat :=
    if letter.isDigit then letter.toNat - '0'.toNat else letter.toNat - 'a'.toNat + 10
  if digits.isEmpty then none
  else
    (multiple? (text.drop digits.length)).map fun factor =>
      factor * digits.foldl (fun number letter => base * number + value letter) 0

def placesOf? : String → Option (Option (Nat × Nat))
  | "d" => some (some (10, 7))
  | "o" => some (some (8, 7))
  | "x" => some (some (16, 6))
  | "n" => some none
  | _ => none

/-- The dump that options ask for, how many bytes are left out in front, how many are dumped at
most, and a warning. -/
def readDump (options : Options) : Except String (Dump × Nat × Option Nat × Option String) := do
  let count (letter : Char) : Except String (Option Nat) := do
    let some word := options.value? letter | return none
    let some count := byteCount? word |
      throw ("invalid -" ++ String.singleton letter ++ " argument '" ++ word ++ "'")
    return some count
  let radix := (options.value? 'A').getD "o"
  let some places := placesOf? radix |
    throw ("invalid output address radix '" ++ radix ++
      "'; it must be one character from [doxn]")
  let skipped ← count 'j'
  let most ← count 'N'
  let formats ← options.given.mapM fun (letter, value) => formatsOf letter value
  let formats : List DumpFormat := match formats.flatten with
    | [] => [{ kind := .octal, size := 2 }]
    | formats => formats
  let isReversed := (options.value? 'ε').any fun word => word.startsWith "b"
  let formats := formats.map fun format => { format with isReversed }
  let unit := (formats.map DumpFormat.size).foldl Nat.lcm 1
  let width := (options.value? 'w').map fun word =>
    if word.isEmpty then 32 else (byteCount? word).getD 0
  let (blockSize, warning) : Nat × Option String := match width with
    | none => (unit * (16 / unit), none)
    | some width =>
      if width ≠ 0 && width % unit = 0 then (width, none)
      else (unit, some ("warning: invalid width " ++ toString width ++ "; using " ++
        toString unit ++ " instead"))
  let form := { formats, blockSize, places, showsAll := options.has 'v' }
  return (form, skipped.getD 0, most, warning)

/-! ## The utility -/

/-- Prints lines for the blocks of files that follow each other. Blocks that are complete are
printed before the next file is opened. -/
def od : Utility :=
  withOptions
    { name := "od", plain := "abBcdDhHiIlLoOsvxX", valued := "AjNStε", attached := "w"
      long := [("address-radix", 'A'), ("endian", 'ε'), ("format", 't'),
        ("output-duplicates", 'v'), ("read-bytes", 'N'), ("skip-bytes", 'j'), ("width", 'w')] }
    fun options => do
      match readDump options with
      | .error text => return complaint 1 "od" text
      | .ok (dump, skipped, most, warning) =>
        let readings ← options.paths.mapM fun path => do return (path, ← readFile path)
        let sizes := readings.map fun (_, reading) =>
          match reading with
          | .ok reading => reading.content.length
          | .error _ => 0
        let contents := readings.flatMap fun (_, reading) =>
          match reading with
          | .ok reading => reading.content
          | .error _ => []
        let isEndless := most.isNone && readings.any fun (_, reading) =>
          reading.toOption.any fun reading => reading.elapsed = forever
        let warned := match warning with
          | some text => { complaint 0 "od" text with ending := .exited 0 }
          | none => {}
        if readings.all fun (_, reading) => reading.toOption.isNone then
          let failures := readings.filterMap fun (path, reading) =>
            match reading with
            | .error error => some (fileFailure 1 "od" path error)
            | .ok _ => none
          return failures.foldl Outcome.andThen warned
        else if contents.length < skipped then
          return warned.andThen (complaint 1 "od" "cannot skip past end of combined input")
        else
          let content := contents.drop skipped
          let content := match most with
            | some most => content.take most
            | none => content
          let shown := dump.blocks skipped none false (piecesOf dump.blockSize content)
          let before (index : Nat) : Nat :=
            (Text.total (sizes.take index) - skipped) / dump.blockSize
          let (outcome, printed) := readings.zipIdx.foldl
            (fun (outcome, printed) ((path, reading), index) =>
              match reading with
              | .ok _ => (outcome, printed)
              | .error error =>
                let complete := before index
                let lines := ((shown.take complete).drop printed).flatten
                (((outcome.andThen (printing (joinLines lines) ⟨0⟩)).andThen
                  (fileFailure 1 "od" path error) : Outcome), complete))
            (warned, 0)
          let last := dump.place (skipped + content.length)
          let lines := (shown.drop printed).flatten ++ (if last.isEmpty then [] else [last])
          return outcome.andThen (printing (joinLines lines) (if isEndless then forever else ⟨0⟩))

end SymbolCache.Program.Utility
