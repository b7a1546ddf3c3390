import SymbolCache.Program.Utility.Line

/-!
# Lines in order

Utilities that put lines in order, that drop or count lines which are the same, and that compare or
join files whose lines are in order.
-/

set_option autoImplicit false

namespace SymbolCache.Program.Utility

/-! ## Numbers in lines -/

/-- A number of a line, by the sizes of its whole part and the digits of its fraction. -/
structure LineNumber where
  negative : Bool
  whole : Nat
  fraction : List Char
  deriving Repr, DecidableEq

def LineNumber.ofText (text : List Char) : LineNumber :=
  let text := text.dropWhile isBlank
  let (negative, digits) := match text with
    | '-' :: digits => (true, digits)
    | digits => (false, digits)
  let whole := digits.takeWhile Text.isAsciiDigit
  let fraction := match digits.drop whole.length with
    | '.' :: rest => Text.trimEndWhere (· == '0') (rest.takeWhile Text.isAsciiDigit)
    | _ => []
  { negative, whole := Text.digitsValue 0 whole, fraction }

def LineNumber.isZero (number : LineNumber) : Bool :=
  number.whole = 0 && number.fraction.isEmpty

def LineNumber.order (first second : LineNumber) : Ordering :=
  let sizes (first second : LineNumber) : Ordering :=
    (compare first.whole second.whole).then (compareOfLessAndEq first.fraction second.fraction)
  let isNegative (number : LineNumber) : Bool := number.negative && !number.isZero
  match isNegative first, isNegative second with
  | true, true => sizes second first
  | true, false => .lt
  | false, true => .gt
  | false, false => sizes first second

def unitRank (text : List Char) : Nat :=
  let rest := (text.dropWhile isBlank).dropWhile fun character =>
    Text.isAsciiDigit character || character == '-' || character == '.'
  match rest.head?.bind fun unit => ['K', 'M', 'G', 'T', 'P', 'E', 'Z', 'Y'].idxOf? unit with
  | some index => index + 1
  | none => if rest.head? = some 'k' then 1 else 0

def versionParts (text : List Char) : List (List Char) :=
  text.splitBy fun first second => Text.isAsciiDigit first == Text.isAsciiDigit second

/-- The ranks of a part of a version that has no number, or of none. A tilde comes even before the
end. -/
def versionRanks (part : List Char) : List Nat :=
  let letters := if part.head?.any Text.isAsciiDigit then [] else part
  (letters.map fun character =>
    if character == '~' then 0
    else if character.isAlpha then character.toNat
    else character.toNat + 256) ++ [1]

def versionOrder : List (List Char) → List (List Char) → Ordering
  | [], [] => .eq
  | [], second :: _ => compareOfLessAndEq (versionRanks []) (versionRanks second) |>.then .lt
  | first :: _, [] => compareOfLessAndEq (versionRanks first) (versionRanks []) |>.then .gt
  | first :: firsts, second :: seconds =>
    let areNumbers := [first, second].all fun part => part.head?.any Text.isAsciiDigit
    let order :=
      if areNumbers then compare (Text.digitsValue 0 first) (Text.digitsValue 0 second)
      else compareOfLessAndEq (versionRanks first) (versionRanks second)
    order.then (versionOrder firsts seconds)

def monthNumber (text : List Char) : Nat :=
  let name := String.ofList (((text.dropWhile isBlank).take 3).map Char.toUpper)
  match ["JAN", "FEB", "MAR", "APR", "MAY", "JUN", "JUL", "AUG", "SEP", "OCT", "NOV",
    "DEC"].idxOf? name with
  | some index => index + 1
  | none => 0

/-! ## Keys -/

/-- A place in a line: the number of a field and that of a character in it. -/
structure KeyPlace where
  field : Nat
  character : Nat
  deriving Repr, DecidableEq

/-- What lines are put in order by: a part of each line, and how it is compared. -/
structure SortKey where
  start : KeyPlace := ⟨1, 1⟩
  /-- The last place. Its character is zero for the end of the field. -/
  finish : Option KeyPlace := none
  letters : List Char := []
  deriving Repr, DecidableEq

def keyLetters : List Char :=
  ['b', 'd', 'f', 'g', 'h', 'i', 'M', 'n', 'r', 'V']

def readKeyPlace? (character : Nat) (text : List Char) :
    Option (KeyPlace × List Char × List Char) := do
  let digits := text.takeWhile Text.isAsciiDigit
  if digits.isEmpty then none
  else
    let (inField, rest) ← match text.drop digits.length with
      | '.' :: rest =>
        let inField := rest.takeWhile Text.isAsciiDigit
        if inField.isEmpty then none
        else some (Text.digitsValue 0 inField, rest.drop inField.length)
      | rest => some (character, rest)
    return (⟨Text.digitsValue 0 digits, inField⟩, rest.takeWhile keyLetters.contains,
      rest.dropWhile keyLetters.contains)

def SortKey.ofText? (text : String) : Option SortKey := do
  let (start, letters, rest) ← readKeyPlace? 1 text.toList
  if start.field = 0 || start.character = 0 then none
  else
    match rest with
    | [] => return { start, letters }
    | ',' :: rest =>
      let (finish, others, rest) ← readKeyPlace? 0 rest
      if rest.isEmpty && finish.field ≠ 0 then
        return { start, finish := some finish, letters := letters ++ others }
      else none
    | _ => none

/-- The fields of a line. Without a separator a field starts with the blanks in front of it. -/
def fieldsOf (separator : Option Char) (line : List Char) : List (List Char) :=
  match separator with
  | some separator => line.splitOn separator
  | none => line.splitBy fun first second => isBlank first || !isBlank second

def SortKey.part (separator : Option Char) (key : SortKey) (line : List Char) : List Char :=
  let fields := fieldsOf separator line
  let joint := separator.toList
  let skipsBlanks := key.letters.contains 'b'
  let textFrom (count : Nat) : List Char := joint.intercalate (fields.drop count)
  let trim (text : List Char) : List Char :=
    if skipsBlanks then text.dropWhile isBlank else text
  let start := (trim (textFrom (key.start.field - 1))).drop (key.start.character - 1)
  match key.finish with
  | none => start
  | some finish =>
    let after :=
      if finish.character = 0 then
        let rest := fields.drop finish.field
        (joint.intercalate rest).length + (if rest.isEmpty then 0 else joint.length)
      else ((trim (textFrom (finish.field - 1))).drop finish.character).length
    start.take (start.length - after)

def SortKey.order (separator : Option Char) (key : SortKey) (first second : List Char) :
    Ordering :=
  let has (letter : Char) : Bool := key.letters.contains letter
  let first := key.part separator first
  let second := key.part separator second
  let byNumber : Ordering :=
    (LineNumber.ofText first).order (LineNumber.ofText second)
  let text (part : List Char) : List Char :=
    let part :=
      if has 'd' then part.filter fun character => character.isAlphanum || isBlank character
      else if has 'i' then part.filter isPrinting
      else part
    if has 'f' then part.map Char.toUpper else part
  let order :=
    if has 'n' || has 'g' then byNumber
    else if has 'h' then (compare (unitRank first) (unitRank second)).then byNumber
    else if has 'M' then compare (monthNumber first) (monthNumber second)
    else if has 'V' then versionOrder (versionParts first) (versionParts second)
    else compareOfLessAndEq (text first) (text second)
  if has 'r' then order.swap else order

/-! ## Sorting -/

def withoutRepeats (same : List Char → List Char → Bool) (lines : List (List Char)) :
    List (List Char) :=
  (lines.splitBy same).filterMap List.head?

def sortKeys (options : Options) : Except String (List SortKey) := do
  let general := (options.given.map Prod.fst).filter keyLetters.contains
  let words := (options.given.filter fun option => option.1 == 'k').map Prod.snd
  let keys ← words.mapM fun word =>
    match SortKey.ofText? word with
    | some key => return if key.letters.isEmpty then { key with letters := general } else key
    | none =>
      if word.startsWith "0" then
        throw ("field number is zero: invalid field specification " ++ escaped word)
      else throw ("invalid number at field start: invalid count at start of " ++ escaped word)
  return if keys.isEmpty then [{ letters := general }] else keys

def lineOrder (options : Options) (separator : Option Char) (keys : List SortKey)
    (first second : List Char) : Ordering :=
  let byKeys := keys.foldl (fun order key => order.then (key.order separator first second)) .eq
  if options.has 'u' || options.has 's' then byKeys
  else
    let byText := compareOfLessAndEq first second
    byKeys.then (if options.has 'r' then byText.swap else byText)

def sort : Utility :=
  withOptions
    { name := "sort", status := 2, plain := "bcCdfghiMmnrsuVz", valued := "kotST"
      long := [("check", 'c'), ("dictionary-order", 'd'), ("field-separator", 't'),
        ("general-numeric-sort", 'g'), ("human-numeric-sort", 'h'), ("ignore-case", 'f'),
        ("ignore-leading-blanks", 'b'), ("key", 'k'), ("merge", 'm'), ("month-sort", 'M'),
        ("numeric-sort", 'n'), ("output", 'o'), ("reverse", 'r'), ("stable", 's'),
        ("unique", 'u'), ("version-sort", 'V')] }
    fun options => do
      let refuse (text : String) : Outcome := .failure 2 ("sort: " ++ text ++ "\n")
      let separator := (options.value? 't').map fun text =>
        if text = "\\0" then ['\x00'] else wordCharacters text
      match sortKeys options, separator with
      | .error text, _ => return refuse text
      | _, some [] => return refuse "empty tab"
      | _, some (_ :: _ :: _) =>
        return refuse ("multi-character tab " ++ escaped ((options.value? 't').getD ""))
      | .ok keys, separator =>
        let separator := separator.bind List.head?
        let readings ← options.paths.mapM fun path => do return (path, ← readFile path)
        match readings.findSome? fun (path, reading) =>
            match reading with
            | .error error => some (path, error)
            | .ok _ => none with
        | some (path, error) =>
          let text := if error = .isDirectory then "read failed: " else "cannot read: "
          return fileFailure 2 "sort" (text ++ quotedIfNeeded path) error
        | none =>
          let contents := readings.filterMap fun (_, reading) => reading.toOption
          let lines := contents.flatMap fun reading => plainLines (charactersOf reading.content)
          let order := lineOrder options separator keys
          if options.has 'c' || options.has 'C' then
            let isWrong (first second : List Char) : Bool :=
              order first second = .gt || options.has 'u' && order first second = .eq
            match ((lines.zip lines.tail).zipIdx).find? fun ((first, second), _) =>
                isWrong first second with
            | none => return {}
            | some ((_, line), index) =>
              if options.has 'C' then return .ofBool false
              else
                return .failure 1 ("sort: " ++ options.paths.headD "-" ++ ":" ++
                  toString (index + 2) ++ ": disorder: " ++ wordOf line ++ "\n")
          else
            let sorted := lines.mergeSort fun first second => order first second != .gt
            let same (first second : List Char) : Bool := order first second = .eq
            let kept := joinLines (if options.has 'u' then withoutRepeats same sorted else sorted)
            let elapsed : Duration :=
              if contents.any (·.elapsed = forever) then forever else ⟨0⟩
            match options.value? 'o' with
            | none => return printing kept elapsed
            | some path =>
              let written ← change fun disk => do
                (← disk.createFile path).setContent path ⟨(bytesOf kept).toArray⟩
              match written with
              | .ok () => return { elapsed }
              | .error error =>
                return fileFailure 2 "sort" ("open failed: " ++ quotedIfNeeded path) error

/-! ## Lines that are the same -/

/-- Prints a line of each run of lines that are the same, with their number if asked for. -/
def uniq : Utility :=
  withOptions
    { name := "uniq", plain := "cdDiuz", valued := "fsw"
      long := [("all-repeated", 'D'), ("check-chars", 'w'), ("count", 'c'), ("ignore-case", 'i'),
        ("repeated", 'd'), ("skip-chars", 's'), ("skip-fields", 'f'), ("unique", 'u')] }
    fun options => do
      let path := options.paths.headD "-"
      let size (letter : Char) : Option Nat := (options.value? letter).bind number?
      let dropField (line : List Char) : List Char :=
        (line.dropWhile isBlank).dropWhile fun character => !isBlank character
      let part (line : List Char) : List Char :=
        let line := (List.range ((size 'f').getD 0)).foldl (fun line _ => dropField line) line
        let line := line.drop ((size 's').getD 0)
        let line := match size 'w' with
          | some size => line.take size
          | none => line
        if options.has 'i' then line.map Char.toLower else line
      match ← readFile path with
      | .error error => return fileFailure 1 "uniq" (quotedIfNeeded path) error
      | .ok reading =>
        let lines := plainLines (charactersOf reading.content)
        let runs := lines.splitBy fun first second => part first == part second
        let kept := runs.filter fun run =>
          !((options.has 'd' || options.has 'D') && run.length = 1) &&
            !(options.has 'u' && run.length ≠ 1)
        let shown (run : List (List Char)) : List (List Char) :=
          if options.has 'D' then run
          else
            let count := if options.has 'c' then
              alignRight 7 (Text.decimal run.length) ++ [' '] else []
            [count ++ run.headD []]
        let text := joinLines (kept.flatMap shown)
        match options.words[1]? with
        | none => return printing text reading.elapsed
        | some target =>
          let written ← change fun disk => do
            (← disk.createFile target).setContent target ⟨(bytesOf text).toArray⟩
          match written with
          | .ok () => return { elapsed := reading.elapsed }
          | .error error => return fileFailure 1 "uniq" (quotedIfNeeded target) error

/-! ## Two files in order -/

/-- What comes of the lines of two files: a line in one of three columns, or that a file is not in
order. -/
inductive Merged where
  | line (column : Nat) (text : List Char)
  | disorder (file : Nat)
  deriving Repr, DecidableEq

/-- The lines of two files together: those of the first one, those of the second one, and those of
both. `watched` are the files that have been in order so far, and `differ` tells whether some line
was only in one of them. It is fuelled by the number of lines. -/
def mergeLines : Nat → List Nat → Bool → List (List Char) → List (List Char) → List Merged
  | 0, _, _, _, _ => []
  | fuel + 1, watched, differ, firsts, seconds =>
    let isLost (file : Nat) (lines : List (List Char)) : Bool :=
      match lines with
      | line :: next :: _ => watched.contains file && next < line
      | _ => false
    let goOn (column : Nat) (text : List Char) : List Merged :=
      let differ := differ || column ≠ 3
      let lost := ([(1, firsts), (2, seconds)].filter fun (file, lines) =>
        (column = 3 || column = file) && differ && isLost file lines).map Prod.fst
      .line column text :: lost.map Merged.disorder ++
        mergeLines fuel (watched.filter fun file => !lost.contains file) differ
          (if column = 2 then firsts else firsts.tail)
          (if column = 1 then seconds else seconds.tail)
    match firsts, seconds with
    | [], [] => []
    | first :: _, [] => goOn 1 first
    | [], second :: _ => goOn 2 second
    | first :: _, second :: _ =>
      match compareOfLessAndEq first second with
      | .lt => goOn 1 first
      | .gt => goOn 2 second
      | .eq => goOn 3 first

/-- Runs a utility on two files, with their lines and the time it takes to read them. -/
def onTwoFiles (name : String) (status : Nat) (words : List String)
    (utility : List (List Char) → List (List Char) → Outcome) : StateM Surroundings Outcome := do
  match words with
  | [] => return misuse status name "missing operand"
  | [first] => return misuse status name ("missing operand after " ++ escaped first)
  | _ :: _ :: extra :: _ => return misuse status name ("extra operand " ++ escaped extra)
  | [firstPath, secondPath] =>
    match ← readFile firstPath with
    | .error error => return fileFailure status name (quotedIfNeeded firstPath) error
    | .ok first =>
      match ← readFile secondPath with
      | .error error => return fileFailure status name (quotedIfNeeded secondPath) error
      | .ok second =>
        let lines (reading : Reading) := plainLines (charactersOf reading.content)
        let outcome := utility (lines first) (lines second)
        let elapsed := first.elapsed.nanoseconds + second.elapsed.nanoseconds
        return outcome.andThen { elapsed := ⟨elapsed⟩ }

/-- Prints the lines of two files in columns: those of the first file, of the second, and of
both. -/
def comm : Utility :=
  withOptions
    { name := "comm", plain := "123z", valued := "O", long := [("output-delimiter", 'O')] }
    fun options =>
      onTwoFiles "comm" 1 options.words fun first second =>
        let hidden (column : Nat) : Bool :=
          options.has (Char.ofNat ('0'.toNat + column))
        let joint := wordCharacters ((options.value? 'O').getD "\t")
        let merged := mergeLines (first.length + second.length + 1) [1, 2] false first second
        let outcome := (merged.map fun
          | .line column text =>
            if hidden column then {}
            else
              let before := (List.range' 1 (column - 1)).filter fun other => !hidden other
              printing ((before.flatMap fun _ => joint) ++ text ++ ['\n']) ⟨0⟩
          | .disorder file =>
            .failure 1 ("comm: file " ++ toString file ++ " is not in sorted order\n")).foldl
          Outcome.andThen {}
        if outcome.ending = .exited 0 then outcome
        else outcome.andThen (.failure 1 "comm: input is not in sorted order\n")

structure Joining where
  fields : List Char → List (List Char)
  /-- The places of the field that has to be the same, in both files. -/
  places : Nat × Nat
  joint : List Char
  /-- Whether lines without partner are shown, in both files. -/
  showsAlone : Bool × Bool
  showsPairs : Bool

def Joining.key (joining : Joining) (place : Nat) (line : List Char) : List Char :=
  ((joining.fields line)[place]?).getD []

def Joining.line (joining : Joining) (lines : List (Nat × List Char)) : List Char :=
  let key := (lines.head?.map fun (place, line) => joining.key place line).getD []
  joining.joint.intercalate
    (key :: lines.flatMap fun (place, line) => (joining.fields line).eraseIdx place)

def Joining.lines (joining : Joining) :
    Nat → List (List Char) → List (List Char) → List (List Char)
  | 0, _, _ => []
  | fuel + 1, firsts, seconds =>
    let (firstPlace, secondPlace) := joining.places
    let alone (shows : Bool) (place : Nat) (line : List Char) : List (List Char) :=
      if shows then [joining.line [(place, line)]] else []
    match firsts, seconds with
    | [], [] => []
    | first :: rest, [] =>
      alone joining.showsAlone.1 firstPlace first ++ joining.lines fuel rest []
    | [], second :: rest =>
      alone joining.showsAlone.2 secondPlace second ++ joining.lines fuel [] rest
    | first :: firstRest, second :: secondRest =>
      let key := joining.key firstPlace first
      match compareOfLessAndEq key (joining.key secondPlace second) with
      | .lt => alone joining.showsAlone.1 firstPlace first ++ joining.lines fuel firstRest seconds
      | .gt => alone joining.showsAlone.2 secondPlace second ++ joining.lines fuel firsts secondRest
      | .eq =>
        let sameIn (place : Nat) (line : List Char) : Bool := joining.key place line == key
        let pairs := (firsts.takeWhile (sameIn firstPlace)).flatMap fun first =>
          (seconds.takeWhile (sameIn secondPlace)).map fun second =>
            joining.line [(firstPlace, first), (secondPlace, second)]
        (if joining.showsPairs then pairs else []) ++
          joining.lines fuel (firsts.dropWhile (sameIn firstPlace))
            (seconds.dropWhile (sameIn secondPlace))

def join : Utility :=
  withOptions { name := "join", plain := "i", valued := "12javtoe" } fun options =>
    onTwoFiles "join" 1 options.words fun first second =>
      let separator := (options.value? 't').bind fun text => (wordCharacters text).head?
      let place (letter : Char) : Nat :=
        (((options.value? letter <|> options.value? 'j').bind number?).getD 1) - 1
      let shows (file : String) : Bool := options.given.any fun (letter, value) =>
        (letter == 'a' || letter == 'v') && value == file
      let joining : Joining :=
        { fields := fun line =>
            match separator with
            | some separator => line.splitOn separator
            | none => (line.splitOnP isBlank).filter fun field => !field.isEmpty
          places := (place '1', place '2')
          joint := [separator.getD ' ']
          showsAlone := (shows "1", shows "2")
          showsPairs := (options.value? 'v').isNone }
      printing (joinLines (joining.lines (first.length + second.length + 1) first second)) ⟨0⟩

end SymbolCache.Program.Utility
