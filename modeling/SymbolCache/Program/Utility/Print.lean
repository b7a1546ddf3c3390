import SymbolCache.Program.Utility.Line

/-!
# Printing files

Utilities that print files as they are, a part of them, or their lines or characters in another
order.
-/

set_option autoImplicit false

namespace SymbolCache.Program.Utility

/-! ## Whole files -/

structure Showing where
  numbersAll : Bool
  numbersFilled : Bool
  joinsEmpty : Bool
  showsEnds : Bool
  showsTabs : Bool
  showsOthers : Bool
  deriving Repr, DecidableEq

/-- What is known after some lines have been shown. -/
structure ShownLines where
  number : Nat := 0
  startsLine : Bool := true
  afterEmpty : Bool := false
  deriving Repr, DecidableEq

def Showing.character (showing : Showing) (character : Char) : List Char :=
  let code := character.toNat
  let shown (code : Nat) : List Char :=
    if code < 32 then ['^', Char.ofNat (code + 64)]
    else if code = 127 then ['^', '?']
    else [Char.ofNat code]
  if character == '\n' then ['\n']
  else if character == '\t' then if showing.showsTabs then ['^', 'I'] else ['\t']
  else if !showing.showsOthers then [character]
  else if code < 128 then shown code
  else ['M', '-'] ++ shown (code - 128)

def Showing.line (showing : Showing) (known : ShownLines) (line : List Char) :
    ShownLines × List Char :=
  let isEmpty := known.startsLine && line == ['\n']
  if isEmpty && showing.joinsEmpty && known.afterEmpty then (known, [])
  else
    let isNumbered :=
      known.startsLine && (if showing.numbersFilled then !isEmpty else showing.numbersAll)
    let number := if isNumbered then known.number + 1 else known.number
    let front := if isNumbered then alignRight 6 (Text.decimal number) ++ ['\t'] else []
    let ends := line.getLast? = some '\n'
    let text := (withoutLineEnd line).flatMap showing.character
    let text :=
      if showing.showsEnds && ends && !showing.showsOthers && text.getLast? = some '\r' then
        text.dropLast ++ ['^', 'M']
      else text
    let finish := if ends then (if showing.showsEnds then ['$', '\n'] else ['\n']) else []
    ({ number, startsLine := ends, afterEmpty := isEmpty }, front ++ text ++ finish)

def Showing.lines (showing : Showing) : ShownLines → List (List Char) → ShownLines × List Char
  | known, [] => (known, [])
  | known, line :: lines =>
    let (known, first) := showing.line known line
    let (known, rest) := showing.lines known lines
    (known, first ++ rest)

def leadsToOutput (path : String) : StateM Surroundings Bool := do
  let { disk, output, .. } ← get
  return output.any fun location =>
    (disk.locate path).toOption == some location && !Permission.isPipeAt disk location &&
      location.head? != some "dev"

/-- Prints files as they are shown. A file to which the output goes is refused, unless it is empty.
`isAfter` tells whether something has been printed. -/
def showFiles (filter : ShownLines → List Char → ShownLines × List Char) (isAfter : Bool)
    (known : ShownLines) : Utility
  | [] => return {}
  | path :: paths => do
    let isEmpty := !isAfter && ((← get).disk.size? path).all (· == 0)
    if path != "-" && (← leadsToOutput path) && !isEmpty then
      let failure := complaint 1 "cat" (quotedIfNeeded path ++ ": input file is output file")
      return failure.andThen (← showFiles filter isAfter known paths)
    else
      match ← readFile path with
      | .ok reading =>
        let (known, text) := filter known (charactersOf reading.content)
        return (printing text reading.elapsed).andThen
          (← showFiles filter (isAfter || !text.isEmpty) known paths)
      | .error error =>
        let failure := fileFailure 1 "cat" (quotedIfNeeded path) error
        return failure.andThen (← showFiles filter isAfter known paths)

def cat : Utility :=
  withOptions
    { name := "cat", plain := "AbeEnstTuv"
      long := [("number", 'n'), ("number-nonblank", 'b'), ("show-all", 'A'), ("show-ends", 'E'),
        ("show-nonprinting", 'v'), ("show-tabs", 'T'), ("squeeze-blank", 's')] }
    fun options =>
      let hasAny (letters : List Char) : Bool := letters.any options.has
      let showing : Showing :=
        { numbersAll := options.has 'n'
          numbersFilled := options.has 'b'
          joinsEmpty := options.has 's'
          showsEnds := hasAny ['A', 'e', 'E']
          showsTabs := hasAny ['A', 't', 'T']
          showsOthers := hasAny ['A', 'e', 't', 'v'] }
      let filter (known : ShownLines) (text : List Char) : ShownLines × List Char :=
        if options.given.all fun option => option.1 == 'u' then (known, text)
        else showing.lines known (linesOf text)
      showFiles filter false {} options.paths

def tac : Utility :=
  withOptions { name := "tac" } fun options =>
    onFilesThat (fun path => "failed to open " ++ quoted path ++ " for reading") "tac"
      (fun () text => ((), (linesOf text).reverse.flatten)) () options.paths

def reversedLetters (line : List Char) : List Char :=
  charactersOf (Text.encodeLetters (Text.lettersOf (bytesOf line)).reverse)

def rev : Utility :=
  withOptions { name := "rev" } fun options =>
    onFilesThat (fun path => "cannot open " ++ path) "rev"
      (fun () text => ((), (linesOf text).flatMap (withLineEnd reversedLetters))) () options.paths

/-! ## Beginnings and ends -/

def title (path : String) : List UInt8 :=
  bytes ("==> " ++ (if path = "-" then "standard input" else path) ++ " <==\n")

/-- Runs a filter on files, with a title in front of each if there are several. -/
def onTitled (name : String) (hasTitles : Bool) (filter : Reading → Outcome) (isFirst : Bool) :
    Utility
  | [] => return {}
  | path :: paths => do
    match ← readFile path with
    | .ok reading =>
      let gap : List UInt8 := if isFirst then [] else [10]
      let outcome :=
        if hasTitles then (Outcome.success (gap ++ title path)).andThen (filter reading)
        else filter reading
      return outcome.andThen (← onTitled name hasTitles filter false paths)
    | .error error =>
      let outcome :=
        if error = .isDirectory then
          let gap : List UInt8 := if isFirst then [] else [10]
          (Outcome.success (if hasTitles then gap ++ title path else [])).andThen
            (fileFailure 1 name ("error reading " ++ quoted path) error)
        else fileFailure 1 name ("cannot open " ++ quoted path ++ " for reading") error
      let isFirst := isFirst && error ≠ .isDirectory
      return outcome.andThen (← onTitled name hasTitles filter isFirst paths)

/-- A number of bytes or lines, and the sign in front of it. -/
structure Count where
  sign : Option Char := none
  size : Nat
  deriving Repr, DecidableEq

def Count.ofText? (text : String) : Option Count :=
  let (sign, text) := match text.toList with
    | '-' :: text => (some '-', text)
    | '+' :: text => (some '+', text)
    | text => (none, text)
  let digits := text.takeWhile Text.isAsciiDigit
  if digits.isEmpty then none
  else
    (multiple? (text.drop digits.length)).map fun multiple =>
      { sign, size := Text.digitsValue 0 digits * multiple }

def takeFrom {α : Type} (isEndless : Bool) (count : Nat) (parts : List α) : List α :=
  if isEndless && parts.length < count then
    ((List.replicate (count / parts.length + 1) parts).flatten).take count
  else parts.take count

def begin (count : Count) (ofBytes : Bool) (reading : Reading) : Outcome :=
  let isEndless := decide (reading.elapsed = forever)
  let cut {α : Type} (parts : List α) : List α :=
    if count.sign = some '-' then parts.take (parts.length - count.size)
    else takeFrom isEndless count.size parts
  let lines := linesOf (charactersOf reading.content)
  let output := if ofBytes then cut reading.content else bytesOf (cut lines).flatten
  let isShort := count.sign = some '-' || !ofBytes && lines.length ≤ 1 && count.size ≠ 0
  .printing output (if isEndless && isShort then forever else ⟨0⟩)

def finish (count : Count) (ofBytes : Bool) (reading : Reading) : Outcome :=
  let cut {α : Type} (parts : List α) : List α :=
    if count.sign = some '+' then parts.drop (count.size - 1)
    else parts.drop (parts.length - count.size)
  .printing
    (if ofBytes then cut reading.content
      else bytesOf (cut (linesOf (charactersOf reading.content))).flatten)
    reading.elapsed

def lineOption (word : String) : String :=
  match word.toList with
  | '-' :: digit :: digits =>
    let count := digit :: digits
    if count.all Text.isAsciiDigit then "-n" ++ String.ofList count else word
  | _ => word

/-- Runs a filter that is given a number of bytes or lines. With `f` among its options it waits for
more at the end. -/
def counted (name plain : String) (filter : Count → Bool → Reading → Outcome) : Utility :=
  fun words => withOptions
    { name := name, plain := plain, valued := "nc"
      long := [("bytes", 'c'), ("lines", 'n'), ("quiet", 'q'), ("silent", 'q'), ("verbose", 'v'),
        ("follow", 'f')].filter fun entry => ("nc" ++ plain).toList.contains entry.2 }
    (fun options =>
      let (ofBytes, text) :=
        match options.given.reverse.find? fun option => ['n', 'c'].contains option.1 with
        | some (letter, text) => (letter == 'c', text)
        | none => (false, "10")
      let titled := options.given.reverse.find? fun option => ['q', 'v'].contains option.1
      let hasTitles := match titled with
        | some (letter, _) => letter == 'v'
        | none => 1 < options.paths.length
      match Count.ofText? text with
      | some count => do
        let outcome ← onTitled name hasTitles (filter count ofBytes) true options.paths
        let waits := options.has 'f' || options.has 'F'
        return if waits then outcome.andThen { elapsed := forever } else outcome
      | none =>
        return .failure 1 (name ++ ": invalid number of " ++
          (if ofBytes then "bytes" else "lines") ++ ": " ++ escaped text ++ "\n"))
    (words.take 1 |>.map lineOption |>.append (words.drop 1))

def head : Utility := counted "head" "qv" begin

def tail : Utility := counted "tail" "qvfF" finish

/-! ## Copies of the input -/

def tee : Utility :=
  withOptions { name := "tee", plain := "aip", long := [("append", 'a')] } fun options => do
    let reading ← readInput
    let content : ByteArray := ⟨reading.content.toArray⟩
    let outcome ← onEach (fun path => do
      let location := ((← get).disk.locate path).toOption
      let written ← change fun disk =>
        if options.has 'a' && disk.contains path then disk.append path content
        else do (← disk.createFile path).setContent path content
      match written with
      | .ok () =>
        return if location = some ["dev", "stderr"] then
            { written := #[(.messages, reading.content)] }
          else if location = some ["dev", "stdout"] then .success reading.content
          else {}
      | .error error => return fileFailure 1 "tee" (quotedIfNeeded path) error) options.words
    return outcome.andThen (.printing reading.content reading.elapsed)

end SymbolCache.Program.Utility
