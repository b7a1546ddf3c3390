import SymbolCache.Program.Utility.Line

/-!
# Words from the input

Words are read from the input and handed to a program, some of them or all at a time.
-/

set_option autoImplicit false

namespace SymbolCache.Program.Utility.Arguments

/-! ## Reading words -/

/-- A word of the input, and whether it is the last one of its line. -/
structure InputWord where
  text : List Char
  endsLine : Bool
  deriving Repr, DecidableEq

def quoteMistake (quote : Char) : String :=
  "unmatched " ++ (if quote == '"' then "double" else "single") ++
    " quote; by default quotes are special to xargs unless you use the -0 option"

/-- Reads words with white space between them. Quotes and backslashes take the meaning from
characters. `word` has the characters of the word that is open, the last one first. A blank at the
end of a line lets it go on. It is fuelled by the length of the text. -/
def readWords : Nat → Option (List Char) → List Char → Except String (List InputWord)
  | 0, _, _ => .ok []
  | _ + 1, word, [] => .ok (word.toList.map fun word => ⟨word.reverse, true⟩)
  | fuel + 1, word, '\\' :: character :: rest =>
    readWords fuel (some (character :: word.getD [])) rest
  | fuel + 1, word, character :: rest =>
    if character == '\n' then do
      let words ← readWords fuel none rest
      return (word.toList.map fun word => ⟨word.reverse, true⟩) ++ words
    else if isSpace character then do
      let words ← readWords fuel none rest
      return (word.toList.map fun word => ⟨word.reverse, false⟩) ++ words
    else if character == '"' || character == '\x27' then
      let inside := rest.takeWhile (· != character)
      match rest.drop inside.length with
      | [] => .error (quoteMistake character)
      | _ :: after =>
        if inside.contains '\n' then .error (quoteMistake character)
        else readWords fuel (some (inside.reverse ++ word.getD [])) after
    else readWords fuel (some (character :: word.getD [])) rest

def readLineWords (text : List Char) : Except String (List InputWord) := do
  let lines := (plainLines text).map fun line => line.dropWhile isBlank
  let words ← (lines.filter fun line => !line.isEmpty).mapM fun line => do
    let parts ← readWords (line.length + 1) none (line.flatMap fun character =>
      if isSpace character then ['\\', character] else [character])
    return parts.map fun part => { part with endsLine := true }
  return words.flatten

def readDelimited (delimiter : Char) (text : List Char) : List InputWord :=
  let parts := text.splitOn delimiter
  let parts := if parts.getLast? = some [] then parts.dropLast else parts
  parts.map fun part => ⟨part, true⟩

/-! ## Handing words over -/

structure Handing where
  program : List String
  /-- The text in the words of the program that a word is put in place of. -/
  placeholder : Option String := none
  mostWords : Option Nat := none
  /-- From how many lines words are handed over at a time. -/
  mostLines : Option Nat := none
  /-- Whether the program is shown before it is run. -/
  shows : Bool := false
  /-- Whether the program is not run without words. -/
  needsWords : Bool := false

def sizeLimit : Nat := 131072

/-- Cuts words into groups that are handed over together. `count`, `lines` and `size` tell how many
words, ends of lines and bytes the group that is open has. -/
def cutGroups (handing : Handing) (start count lines size : Nat) (started : List InputWord) :
    List InputWord → List (List InputWord)
  | [] => if started.isEmpty then [] else [started.reverse]
  | word :: words =>
    let isFull := handing.mostWords.any (· ≤ count) || handing.mostLines.any (· ≤ lines) ||
      sizeLimit < size + word.text.length + 1
    let line := if word.endsLine then 1 else 0
    if isFull && !started.isEmpty then
      started.reverse :: cutGroups handing start 1 line (start + word.text.length + 1) [word] words
    else
      cutGroups handing start (count + 1) (lines + line) (size + word.text.length + 1)
        (word :: started) words

def invocations (handing : Handing) (words : List InputWord) : List (List String) :=
  match handing.placeholder with
  | some placeholder =>
    words.map fun word =>
      handing.program.map fun part => part.replace placeholder (wordOf word.text)
  | none =>
    let start := Text.total (handing.program.map fun part => part.utf8ByteSize + 1)
    match cutGroups handing start 0 0 start [] words with
    | [] => if handing.needsWords then [] else [handing.program]
    | groups =>
      groups.map fun group => handing.program ++ group.map fun word => wordOf word.text

/-! ## Options -/

def form : OptionForm where
  name := "xargs"
  plain := "0prtx"
  valued := "adEILnPs"
  attached := "eil"
  stopsAtWord := true
  long := [("arg-file", 'a'), ("delimiter", 'd'), ("interactive", 'p'), ("max-args", 'n'),
    ("max-chars", 's'), ("max-lines", 'l'), ("max-procs", 'P'), ("no-run-if-empty", 'r'),
    ("null", '0'), ("replace", 'i'), ("verbose", 't')]

def readByOptions (options : Options) (text : List Char) : Except String (List InputWord) :=
  if options.has '0' then .ok (readDelimited '\x00' text)
  else
    match options.value? 'd' with
    | some delimiter =>
      let character := match delimiter.toList with
        | ['\\', 'n'] => '\n'
        | ['\\', 't'] => '\t'
        | ['\\', '0'] => '\x00'
        | character :: _ => character
        | [] => '\x00'
      .ok (readDelimited character text)
    | none =>
      if options.has 'I' || options.has 'i' then readLineWords text
      else do
        let words ← readWords (text.length + 1) none text
        match options.value? 'E' with
        | some last => return words.takeWhile fun word => wordOf word.text ≠ last
        | none => return words

def Handing.ofOptions (options : Options) : Except String Handing :=
  let number (letter : Char) : Except String (Option Nat) :=
    match options.value? letter with
    | none => .ok none
    | some word =>
      match number? word with
      | some 0 => .error ("value 0 for -" ++ String.singleton letter ++ " option should be >= 1")
      | some value => .ok (some value)
      | none => .error ("invalid number \"" ++ word ++ "\" for -" ++ String.singleton letter ++
          " option")
  do
    let mostWords ← number 'n'
    let mostLines ← number 'L'
    let placeholder := options.value? 'I' <|>
      (options.value? 'i').map fun text => if text.isEmpty then "\x7b\x7d" else text
    return {
      program := if options.words.isEmpty then ["echo"] else options.words
      placeholder
      mostWords
      mostLines
      shows := options.has 't'
      needsWords := options.has 'r' }

end SymbolCache.Program.Utility.Arguments
