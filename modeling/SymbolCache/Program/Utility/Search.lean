import SymbolCache.Program.Regular.Match
import SymbolCache.Program.Shell.Pattern
import SymbolCache.Program.Utility.Line
import SymbolCache.Program.Utility.Tree

/-!
# Searching lines

Prints the lines of files in which an expression matches, or tells in which files or in how many
lines it does.
-/

set_option autoImplicit false

namespace SymbolCache.Program.Utility

open Regular (Expression Match Place)

/-! ## Lines -/

structure Search where
  expressions : List Expression
  ignoresCase : Bool
  wholeWords : Bool
  wholeLines : Bool
  /-- Whether the lines without a match are wanted. -/
  isInverted : Bool

def Search.ends (search : Search) (place : Place) : List Place :=
  let isWord (character : Option Char) : Bool := character.any Regular.isWordCharacter
  let found := search.expressions.flatMap fun expression =>
    expression.ends search.ignoresCase place
  if search.wholeLines then
    if place.position = 0 then found.filter fun last => last.rest.isEmpty else []
  else if search.wholeWords then
    if isWord place.before then []
    else found.filter fun last => !isWord last.rest.head?
  else found

def Search.find? (search : Search) (place : Place) : Option Match :=
  Regular.firstMatch? search.ends (place.rest.length + 1) place

def Search.selects (search : Search) (line : List Char) : Bool :=
  (search.find? { rest := line }).isSome != search.isInverted

def Search.matchesIn (search : Search) (line : List Char) : List Match :=
  (Regular.allMatches search.find? (line.length + 2) { rest := line } none).filter fun found =>
    found.start.position < found.finish.position

structure SearchedLine where
  number : Nat
  text : List Char
  isSelected : Bool

/-- The lines to show: those that are selected and some in front of and after them. `pending` are
lines that may stand in front of a selected one, the last one first, `left` is the number of lines
that are still shown, and `last` the number of the last line that was. Lines that are not next to
each other have nothing between them. -/
def withContext (before after : Nat) (pending : List SearchedLine) (left : Nat)
    (last : Option Nat) : List SearchedLine → List (Option SearchedLine)
  | [] => []
  | line :: lines =>
    let gap (first : SearchedLine) : List (Option SearchedLine) :=
      if before + after = 0 || last.all (· + 1 = first.number) then [] else [none]
    if line.isSelected then
      let shown := (line :: pending).reverse
      let first := shown.headD line
      gap first ++ shown.map some ++ withContext before after [] after (some line.number) lines
    else if 0 < left then
      some line :: withContext before after [] (left - 1) (some line.number) lines
    else withContext before after ((line :: pending).take before) 0 last lines

/-! ## Files -/

structure SearchView where
  hasNames : Bool
  hasNumbers : Bool
  onlyMatches : Bool
  before : Nat
  after : Nat
  deriving Repr, DecidableEq

def SearchView.front (view : SearchView) (name : String) (number : Nat) (sign : Char) :
    List Char :=
  (if view.hasNames then name.toList ++ [sign] else []) ++
    (if view.hasNumbers then Text.decimal number ++ [sign] else [])

def SearchView.shown (view : SearchView) (search : Search) (name : String)
    (lines : List SearchedLine) : List (List Char) :=
  if view.onlyMatches then
    if search.isInverted then []
    else
      (lines.filter SearchedLine.isSelected).flatMap fun line =>
        (search.matchesIn line.text).map fun found =>
          view.front name line.number ':' ++ found.text ++ ['\n']
  else
    (withContext view.before view.after [] 0 none lines).map fun
      | none => ['-', '-', '\n']
      | some line =>
        view.front name line.number (if line.isSelected then ':' else '-') ++ line.text ++ ['\n']

/-- The lines of a file, of which at most some number are selected. Without context nothing is left
after the last of them. -/
def searchLines (search : Search) (most : Option Nat) (number : Nat) :
    List (List Char) → List SearchedLine
  | [] => []
  | text :: texts =>
    let isSelected := most != some 0 && search.selects text
    let most := if isSelected then most.map (· - 1) else most
    ⟨number, text, isSelected⟩ :: searchLines search most (number + 1) texts

structure SearchForm where
  search : Search
  view : SearchView
  most : Option Nat
  counts : Bool
  /-- Whether the names of files with selected lines are shown, or of those without. -/
  lists : Option Bool
  isQuiet : Bool
  hidesFailures : Bool
  /-- Whether files with other bytes than text are shown like others. -/
  showsAll : Bool

def SearchForm.searchFile (form : SearchForm) (name : String) (reading : Reading) :
    Outcome × Bool :=
  let text := Text.lettersOf reading.content
  let stopsEarly := form.isQuiet || form.lists.isSome
  let most := if stopsEarly then some 1 else form.most
  let lines := searchLines form.search most 1 (plainLines text)
  let count := (lines.filter SearchedLine.isSelected).length
  let isFull := most.any (· ≤ count)
  let elapsed : Duration := if isFull then ⟨0⟩ else reading.elapsed
  let notice : Outcome :=
    { written := #[(.messages, bytes ("grep: " ++ name ++ ": binary file matches\n"))] }
  let outcome : Outcome :=
    if form.isQuiet then {}
    else
      match form.lists with
      | some ofSelected =>
        if decide (0 < count) == ofSelected then .success (bytes (name ++ "\n")) else {}
      | none =>
        if form.counts then
          let front := if form.view.hasNames then name ++ ":" else ""
          .success (bytes (front ++ toString count ++ "\n"))
        else
          let all := form.view.shown form.search name lines
          let isText (line : List Char) : Bool := !line.any Text.isStray
          let texts :=
            if form.showsAll then all
            else if text.contains '\x00' then []
            else all.takeWhile isText
          (printingLetters texts.flatten ⟨0⟩).andThen
            (if texts.length < all.length then notice else {})
  ({ outcome with elapsed }, decide (0 < count))

/-- Searches one file after the other. Tells whether lines were selected and whether something was
wrong. -/
def SearchForm.searchFiles (form : SearchForm) :
    List String → StateM Surroundings (Outcome × Bool × Bool)
  | [] => return ({}, false, false)
  | path :: paths => do
    match ← readFile path with
    | .error error =>
      let outcome := if form.hidesFailures then {} else fileFailure 2 "grep" path error
      let (others, isFound, _) ← form.searchFiles paths
      return (outcome.andThen others, isFound, true)
    | .ok reading =>
      let name := if path = "-" then "(standard input)" else path
      let (outcome, isSelected) := form.searchFile name reading
      if isSelected && form.isQuiet then return (outcome, true, false)
      else
        let (others, isFound, isWrong) ← form.searchFiles paths
        let showsGap := form.view.before + form.view.after ≠ 0 && !form.counts &&
          form.lists.isNone && !outcome.output.isEmpty && !others.output.isEmpty
        let gap : Outcome := if showsGap then .success (bytes "--\n") else {}
        return ((outcome.andThen gap).andThen others, isSelected || isFound, isWrong)

/-! ## Options -/

def searchPatterns (options : Options) :
    StateM Surroundings (Except Outcome (List (List Char) × List String)) := do
  let given := options.given.filter fun option => option.1 == 'e' || option.1 == 'f'
  let parts ← given.mapM fun (letter, value) => do
    if letter == 'e' then return Except.ok (Text.split '\n' (value.toList))
    else
      match ← readFile value with
      | .ok reading => return .ok (plainLines (Text.lettersOf reading.content))
      | .error error => return .error (fileFailure 2 "grep" value error)
  match parts.mapM id, options.words with
  | .error outcome, _ => return .error outcome
  | .ok [], [] =>
    return .error (.failure 2
      ("Usage: grep [OPTION]... PATTERNS [FILE]...\n" ++
        "Try 'grep --help' for more information.\n"))
  | .ok [], pattern :: words => return .ok (Text.split '\n' (pattern.toList), words)
  | .ok parts, words => return .ok (parts.flatten, words)

/-- The paths of the files to search. Directories stand for all files below them if they are
entered. -/
def searchedPaths (disk : Disk) (options : Options) (words : List String) : List String :=
  let isRecursive := options.has 'r' || options.has 'R'
  let patterns (letter : Char) : List String :=
    (options.given.filter fun option => option.1 == letter).map Prod.snd
  let isNamed (patterns : List String) (name : String) : Bool :=
    patterns.any fun pattern =>
      let parts := Shell.Pattern.ofText (pattern.toList.map fun character => (character, false))
      Shell.Pattern.accepts parts name.toList
  let isWanted (entry : Entry) : Bool :=
    (patterns 'ι').isEmpty || isNamed (patterns 'ι') entry.name
  let below (path : String) : List String :=
    match entryAt disk path with
    | .ok entry =>
      if entry.isDirectory then
        let enters (entry : Entry) : Bool :=
          entry.depth = 0 || !isNamed (patterns 'δ') entry.name
        ((entry.tree disk enters treeDepth).filter fun entry =>
          !entry.isDirectory && isWanted entry && !isNamed (patterns 'ξ') entry.name).map Entry.path
      else [path]
    | .error _ => [path]
  if !isRecursive then words
  else if words.isEmpty then
    (below ".").map fun path => if path.startsWith "./" then (path.drop 2).toString else path
  else words.flatMap below

def withDigits : List Char → List Char
  | '\\' :: 'd' :: rest => "[0-9]".toList ++ withDigits rest
  | '\\' :: character :: rest => '\\' :: character :: withDigits rest
  | character :: rest => character :: withDigits rest
  | [] => []

def grep : Utility := fun words =>
  withOptions
    { name := "grep", status := 2, plain := "abcEFGhHiIlLnoPqrRsTvwxyzZ", valued := "ABCdDefmιξδ"
      attached := "ρ"
      long := [("after-context", 'A'), ("basic-regexp", 'G'), ("before-context", 'B'),
        ("color", 'ρ'), ("colour", 'ρ'), ("context", 'C'), ("count", 'c'), ("exclude", 'ξ'),
        ("exclude-dir", 'δ'), ("extended-regexp", 'E'), ("file", 'f'),
        ("files-with-matches", 'l'), ("files-without-match", 'L'), ("fixed-strings", 'F'),
        ("ignore-case", 'i'), ("include", 'ι'), ("invert-match", 'v'), ("line-number", 'n'),
        ("line-regexp", 'x'), ("max-count", 'm'), ("no-filename", 'h'), ("no-messages", 's'),
        ("only-matching", 'o'), ("perl-regexp", 'P'), ("quiet", 'q'), ("recursive", 'r'),
        ("regexp", 'e'), ("silent", 'q'), ("text", 'a'), ("with-filename", 'H'),
        ("word-regexp", 'w')]
      usage := "Usage: grep [OPTION]... PATTERNS [FILE]...\n" }
    (fun options => do
      match ← searchPatterns options with
      | .error outcome => return outcome
      | .ok (patterns, words) =>
        let kind := ((options.given.map Prod.fst).filter ['E', 'F', 'G', 'P'].contains).getLastD 'G'
        let grammar : Regular.Grammar :=
          { isExtended := kind != 'G', isLenient := true }
        let read (pattern : List Char) : Except Regular.Mistake Expression :=
          if kind == 'F' then .ok (.ofText pattern)
          else
            let pattern := if kind == 'P' then withDigits pattern else pattern
            (Regular.read grammar pattern).map Prod.fst
        let size (letter : Char) : Nat :=
          ((options.value? letter <|> options.value? 'C').bind number?).getD 0
        match patterns.mapM read with
        | .error mistake => return .failure 2 ("grep: " ++ mistake.message ++ "\n")
        | .ok expressions =>
          let disk := (← get).disk
          let paths := searchedPaths disk options words
          let isRecursive := options.has 'r' || options.has 'R'
          let paths := if words.isEmpty && !isRecursive then ["-"] else paths
          let naming := (options.given.map Prod.fst).filter ['h', 'H'].contains
          let areSeveral := 1 < words.length ||
            isRecursive && (words.isEmpty || words.any disk.isDirectory)
          let form : SearchForm :=
            { search :=
                { expressions
                  ignoresCase := options.has 'i' || options.has 'y'
                  wholeWords := options.has 'w'
                  wholeLines := options.has 'x'
                  isInverted := options.has 'v' }
              view :=
                { hasNames := match naming.getLast? with
                    | some letter => letter == 'H'
                    | none => areSeveral
                  hasNumbers := options.has 'n'
                  onlyMatches := options.has 'o'
                  before := size 'B'
                  after := size 'A' }
              most := (options.value? 'm').bind number?
              counts := options.has 'c'
              lists := (((options.given.map Prod.fst).filter ['l', 'L'].contains).getLast?).map
                (· == 'l')
              isQuiet := options.has 'q'
              hidesFailures := options.has 's'
              showsAll := options.has 'a' }
          let (outcome, isFound, isWrong) ← form.searchFiles paths
          let isFine := !isWrong || form.isQuiet && isFound
          let status := if !isFine then 2 else if isFound then 0 else 1
          return { outcome with ending := .exited status })
    (words.map fun word =>
      match word.toList with
      | '-' :: first :: rest =>
        if (first :: rest).all Text.isAsciiDigit then "-C" ++ String.ofList (first :: rest)
        else word
      | _ => word)

end SymbolCache.Program.Utility
