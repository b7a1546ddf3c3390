import SymbolCache.Program.Utility.Basic
import SymbolCache.Text.Lossy

/-!
# Lines

Filters see a text as characters of one byte each and cut it into lines. A line keeps the line feed
that ends it; only the last one may have none.
-/

set_option autoImplicit false

namespace SymbolCache.Program.Utility

/-! ## Characters -/

def charactersOf (content : List UInt8) : List Char :=
  content.map fun byte => Char.ofNat byte.toNat

def bytesOf (text : List Char) : List UInt8 :=
  text.map fun character => character.toNat.toUInt8

def wordCharacters (word : String) : List Char :=
  charactersOf (bytes word)

def wordOf (text : List Char) : String :=
  String.ofList (Text.lettersOf (bytesOf text))

def wordOfLetters (text : List Char) : String :=
  String.ofList (Text.lettersOf (Text.encodeLetters text))

def isSpace (character : Char) : Bool :=
  character == ' ' || '\t' ≤ character && character ≤ '\r'

def isBlank (character : Char) : Bool :=
  character == ' ' || character == '\t'

def isPrinting (character : Char) : Bool :=
  ' ' ≤ character && character ≤ '~'

/-! ## Lines -/

/-- The lines of a text, each with the line feed that ends it. `line` has the characters of the line
that is open, the last one first, and `lines` the lines before it. -/
def cutLines (lines : List (List Char)) (line : List Char) : List Char → List (List Char)
  | [] => (if line.isEmpty then lines else line.reverse :: lines).reverse
  | '\n' :: rest => cutLines (('\n' :: line).reverse :: lines) [] rest
  | character :: rest => cutLines lines (character :: line) rest

def linesOf (text : List Char) : List (List Char) :=
  cutLines [] [] text

def withoutLineEnd (line : List Char) : List Char :=
  if line.getLast? = some '\n' then line.dropLast else line

def plainLines (text : List Char) : List (List Char) :=
  (linesOf text).map withoutLineEnd

def joinLines (lines : List (List Char)) : List Char :=
  lines.flatMap fun line => line ++ ['\n']

def withLineEnd (change : List Char → List Char) (line : List Char) : List Char :=
  change (withoutLineEnd line) ++ (if line.getLast? = some '\n' then ['\n'] else [])

/-- Cuts a list into pieces of a size, the last of which may be shorter. It is fuelled by the length
of the list. -/
def cutPieces {α : Type} (size : Nat) : Nat → List α → List (List α)
  | 0, _ => []
  | _ + 1, [] => []
  | fuel + 1, list => list.take size :: cutPieces size fuel (list.drop size)

/-- The pieces of a list, all of a size but the last one, which may be shorter. -/
def piecesOf {α : Type} (size : Nat) (list : List α) : List (List α) :=
  cutPieces (max 1 size) list.length list

/-! ## Files -/

def Options.paths (options : Options) : List String :=
  if options.words.isEmpty then ["-"] else options.words

def printingLetters (text : List Char) (elapsed : Duration) : Outcome :=
  .printing (Text.encodeLetters text) elapsed

def printing (text : List Char) (elapsed : Duration) : Outcome :=
  .printing (bytesOf text) elapsed

/-- Runs a filter on one file after the other. What it knows after a file it knows before the
next. `failed` tells of a path what could not be done. -/
def onFilesThat {σ : Type} (failed : String → String) (name : String)
    (filter : σ → List Char → σ × List Char) (state : σ) : Utility
  | [] => return {}
  | path :: paths => do
    match ← readFile path with
    | .ok reading =>
      let (state, text) := filter state (charactersOf reading.content)
      return (printing text reading.elapsed).andThen (← onFilesThat failed name filter state paths)
    | .error error =>
      let failure := fileFailure 1 name (failed path) error
      return failure.andThen (← onFilesThat failed name filter state paths)

/-- Runs a filter on one file after the other. What it knows after a file it knows before the
next. -/
def onFiles {σ : Type} (name : String) (filter : σ → List Char → σ × List Char) (state : σ) :
    Utility :=
  onFilesThat quotedIfNeeded name filter state

/-- Runs a filter on files that knows nothing of one when it comes to the next. -/
def onEachFile (name : String) (filter : List Char → List Char) : Utility :=
  onFiles name (fun () text => ((), filter text)) ()

def onLines (name : String) (filter : List Char → List Char) : Utility :=
  onEachFile name fun text => (linesOf text).flatMap (withLineEnd filter)

/-! ## Numbers -/

def number? (word : String) : Option Nat :=
  let digits := word.toList
  if digits.isEmpty || !digits.all Text.isAsciiDigit then none
  else some (Text.digitsValue 0 digits)

def multiple? : List Char → Option Nat
  | [] => some 1
  | ['b'] => some 512
  | ['k'] | ['K'] | ['K', 'i', 'B'] => some 1024
  | ['k', 'B'] | ['K', 'B'] => some 1000
  | ['M'] | ['M', 'i', 'B'] => some (Nat.pow 1024 2)
  | ['M', 'B'] => some (Nat.pow 1000 2)
  | ['G'] | ['G', 'i', 'B'] => some (Nat.pow 1024 3)
  | ['G', 'B'] => some (Nat.pow 1000 3)
  | _ => none

def alignRight (width : Nat) (text : List Char) : List Char :=
  List.replicate (width - text.length) ' ' ++ text

def alignLeft (width : Nat) (text : List Char) : List Char :=
  text ++ List.replicate (width - text.length) ' '

end SymbolCache.Program.Utility

/-!
## Counting

How many lines, words and bytes files have, and how wide their lines are.
-/

namespace SymbolCache.Program.Utility

structure Sizes where
  lines : Nat := 0
  words : Nat := 0
  letters : Nat := 0
  bytes : Nat := 0
  width : Nat := 0
  deriving Repr, DecidableEq

def Sizes.add (first second : Sizes) : Sizes where
  lines := first.lines + second.lines
  words := first.words + second.words
  letters := first.letters + second.letters
  bytes := first.bytes + second.bytes
  width := max first.width second.width

def isWide (character : Char) : Bool :=
  [(0x1100, 0x115F), (0x2E80, 0x303E), (0x3041, 0xA4CF), (0xAC00, 0xD7A3), (0xF900, 0xFAFF),
    (0xFE30, 0xFE6F), (0xFF00, 0xFF60), (0xFFE0, 0xFFE6), (0x1F300, 0x1F64F), (0x1F900, 0x1F9FF),
    (0x20000, 0x3FFFD)].any fun (first, last) =>
      first ≤ character.toNat && character.toNat ≤ last

def isVisible (character : Char) : Bool :=
  isPrinting character || '\u00a0' ≤ character && !Text.isStray character

def columnCount (character : Char) : Nat :=
  if !isVisible character || '\u0300' ≤ character && character ≤ '\u036f' then 0
  else if isWide character then 2
  else 1

def columnAfter (column : Nat) (text : List Char) : Nat :=
  text.foldl
    (fun column character =>
      if character == '\t' then column + 8 - column % 8
      else column + columnCount character)
    column

/-- How many columns the widest line of a text takes. A carriage return or a form feed goes back to
the first column. -/
def widthOf (text : List Char) : Nat :=
  let parts := text.splitOnP fun character => ['\n', '\r', '\x0c'].contains character
  (parts.map (columnAfter 0)).foldl max 0

def Sizes.ofContent (content : List UInt8) : Sizes :=
  let text := Text.lettersOf content
  { lines := text.count '\n'
    words := ((text.splitOnP isSpace).filter fun word => word.any isVisible).length
    letters := (text.filter fun character => !Text.isStray character).length
    bytes := content.length
    width := widthOf text }

def sizeLine (width : Nat) (sizes : List Nat) (name : String) : List UInt8 :=
  let columns := sizes.map fun size => String.ofList (alignRight width (Text.decimal size))
  bytes (" ".intercalate columns ++ (if name.isEmpty then "" else " " ++ name) ++ "\n")

def wc : Utility :=
  withOptions
    { name := "wc", plain := "lwcmL"
      long := [("bytes", 'c'), ("chars", 'm'), ("lines", 'l'), ("max-line-length", 'L'),
        ("words", 'w')] }
    fun options => do
      let shown (sizes : Sizes) : List Nat :=
        let all := [('l', sizes.lines), ('w', sizes.words), ('m', sizes.letters),
          ('c', sizes.bytes), ('L', sizes.width)]
        let letters := if options.given.isEmpty then ['l', 'w', 'c'] else options.given.map Prod.fst
        (all.filter fun (letter, _) => letters.contains letter).map Prod.snd
      let readings ← options.paths.mapM fun path => do return (path, ← readFile path)
      let all := readings.filterMap fun (_, reading) => reading.toOption.map fun reading =>
        Sizes.ofContent reading.content
      let total := all.foldl Sizes.add {}
      let hasDirectory := readings.any fun (_, reading) =>
        match reading with
        | .error error => error = .isDirectory
        | .ok _ => false
      let width :=
        if (shown total).length = 1 && readings.length = 1 then 1
        else if options.paths.contains "-" || hasDirectory then
          max 7 (Text.decimal total.bytes).length
        else (Text.decimal total.bytes).length
      let line (path : String) (reading : Except FileError Reading) : Outcome :=
        let name := if options.words.isEmpty then "" else path
        match reading with
        | .ok reading =>
          .printing (sizeLine width (shown (Sizes.ofContent reading.content)) name)
            reading.elapsed
        | .error error =>
          let refusal := fileFailure 1 "wc" (quotedIfNeeded path) error
          if error = .isDirectory then
            refusal.andThen (.success (sizeLine width (shown {}) name))
          else refusal
      let outcome :=
        (readings.map fun (path, reading) => line path reading).foldl Outcome.andThen {}
      return if readings.length = 1 then outcome
        else outcome.andThen (.success (sizeLine width (shown total) "total"))

end SymbolCache.Program.Utility
