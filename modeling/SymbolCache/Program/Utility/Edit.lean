import SymbolCache.Program.Utility.Edit.Script

/-!
# Editing lines

Runs the commands of a script on each line of files. A line is in the pattern space while it is
edited and printed from there; another text is kept beside it.
-/

set_option autoImplicit false

namespace SymbolCache.Program.Utility.Edit

open Regular (Expression Match Place)

/-! ## The editor -/

/-- What comes from files: a line, and whether it has an end, or that a file cannot be read. -/
inductive Incoming where
  | line (text : List Char) (ends : Bool) (path : String)
  | failure (outcome : Outcome)

structure Editor where
  incoming : List Incoming
  space : List Char := []
  /-- Whether what is printed of the pattern space gets an end. -/
  ends : Bool := true
  path : String := "-"
  kept : List Char := []
  number : Nat := 0
  queue : List (List Char) := []
  hasReplaced : Bool := false
  /-- The ranges in which the line is, by the place of their command, each with the number of its
  last line if that is known. -/
  ranges : List (Nat × Option Nat) := []
  lastExpression : Option Target := none
  outcome : Outcome := {}
  /-- Whether the last line of the output has no end yet. -/
  isOpen : Bool := false
  files : List (String × List Char) := []
  status : Nat := 0

structure Mode where
  isQuiet : Bool
  content? : String → Option (List Char)

namespace Editor

def print (editor : Editor) (text : List Char) (ends : Bool) : Editor :=
  let front := if editor.isOpen then ['\n'] else []
  let finish := if ends then ['\n'] else []
  { editor with
    outcome := editor.outcome.andThen (printingLetters (front ++ text ++ finish) ⟨0⟩)
    isOpen := !ends }

def printText (editor : Editor) (text : List Char) : Editor :=
  match text.getLast? with
  | none => editor
  | some last =>
    if last == '\n' then editor.print text.dropLast true else editor.print text false

def printSpace (editor : Editor) : Editor :=
  editor.print editor.space editor.ends

def writeTo (editor : Editor) (path : String) (text : List Char) : Editor :=
  if path = "/dev/stdout" then editor.print text editor.ends
  else
    let ending := if editor.ends then ['\n'] else []
    let files := editor.files.map fun (name, content) =>
      if name = path then (name, content ++ text ++ ending) else (name, content)
    { editor with files }

def isAtLast (editor : Editor) : Bool :=
  editor.incoming.all fun
    | .line _ _ _ => false
    | .failure _ => true

def flush (editor : Editor) : Editor :=
  { editor.queue.foldl printText editor with queue := [] }

/-- Takes the next line, if there is one. `take` puts it into the pattern space. -/
def advance (take : Editor → List Char → Editor) (editor : Editor) : List Incoming → Option Editor
  | [] => none
  | .failure outcome :: rest =>
    let status := match outcome.ending with
      | .exited status => status
      | .killed _ => editor.status
    advance take { editor with outcome := editor.outcome.andThen outcome, status } rest
  | .line text ends path :: rest =>
    some { take editor text with incoming := rest, ends, path, number := editor.number + 1 }

def nextLine (take : Editor → List Char → Editor) (editor : Editor) : Option Editor :=
  let editor := editor.flush
  editor.advance take editor.incoming

end Editor

/-! ## Addresses -/

def Editor.expression? (editor : Editor) (target : Target) :
    Option (Expression × Bool) × Editor :=
  match target.expression with
  | some expression =>
    (some (expression, target.ignoresCase), { editor with lastExpression := some target })
  | none =>
    (editor.lastExpression.bind fun last =>
      last.expression.map fun expression => (expression, last.ignoresCase || target.ignoresCase),
      editor)

def Editor.isAt (editor : Editor) : Address → Bool × Editor
  | .line number => (editor.number = number, editor)
  | .last => (editor.isAtLast, editor)
  | .every first step =>
    (if step = 0 then editor.number = first
      else first ≤ editor.number && editor.number % step = first % step, editor)
  | .matching target =>
    let (found, editor) := editor.expression? target
    match found with
    | some (expression, ignoresCase) =>
      ((expression.find? ignoresCase { rest := editor.space }).isSome, editor)
    | none => (false, editor)

/-- Whether the line is in a range that has been entered before, and the editor that remembers
whether the next line is. -/
def Editor.isInside (editor : Editor) (place : Nat) (finish : RangeEnd) (last : Option Nat) :
    Bool × Editor :=
  let leave (editor : Editor) : Editor :=
    { editor with ranges := editor.ranges.filter fun range => range.1 ≠ place }
  match last, finish with
  | some last, _ =>
    (editor.number ≤ last, if last ≤ editor.number then leave editor else editor)
  | none, .address address =>
    let (isLast, editor) := editor.isAt address
    (true, if isLast then leave editor else editor)
  | none, _ => (true, leave editor)

/-- Whether the line is the first one of a range, and the editor that remembers that. -/
def Editor.enters (editor : Editor) (place : Nat) (start : Address) (finish : RangeEnd) :
    Bool × Editor :=
  let (isFirst, editor) := editor.isAt start
  if !isFirst then (false, editor)
  else
    let number := editor.number
    let last : Option Nat := match finish with
      | .address (.line last) => some last
      | .lines count => some (number + count)
      | .multiple divisor =>
        some (if divisor = 0 then number else (number / divisor + 1) * divisor)
      | .address _ => none
    if last.any (· ≤ number) then (true, editor)
    else (true, { editor with ranges := (place, last) :: editor.ranges })

def Editor.isSelected (editor : Editor) (place : Nat) (selector : Selector) : Bool × Editor :=
  let (isIn, editor) :=
    match selector.start, selector.finish with
    | none, _ => (true, editor)
    | some start, none => editor.isAt start
    | some start, some finish =>
      match editor.ranges.find? fun range => range.1 = place with
      | some (_, last) => editor.isInside place finish last
      | none => editor.enters place start finish
  (isIn != selector.negated, editor)

/-! ## Replacing -/

def changeCase (change : CaseChange) (next : Option CaseChange) (text : List Char) : List Char :=
  let all (change : CaseChange) (character : Char) : Char :=
    match change with
    | .upper | .upperNext => Text.upperLetter character
    | .lower | .lowerNext => Text.lowerLetter character
    | .none => character
  match next, text with
  | some first, character :: rest => all first character :: rest.map (all change)
  | _, text => text.map (all change)

def replacementText (found : Match) (change : CaseChange) (next : Option CaseChange) :
    List ReplacementPart → List Char
  | [] => []
  | part :: parts =>
    let goOn (text : List Char) : List Char :=
      changeCase change next text ++
        replacementText found change (if text.isEmpty then next else none) parts
    match part with
    | .text text => goOn text
    | .group 0 => goOn found.text
    | .group number => goOn ((found.finish.groupText? number).getD [])
    | .change .upperNext => replacementText found change (some .upperNext) parts
    | .change .lowerNext => replacementText found change (some .lowerNext) parts
    | .change change => replacementText found change none parts

/-- A text with some matches in it replaced. `position` is the place up to which it has been
seen. -/
def replaceMatches (replacement : List ReplacementPart) (position : Nat) (rest : List Char) :
    List Match → List Char
  | [] => rest
  | found :: others =>
    rest.take (found.start.position - position) ++
      replacementText found .none none replacement ++
      replaceMatches replacement found.finish.position found.finish.rest others

def Editor.substitute (editor : Editor) (substitution : Substitution) : Editor :=
  let (found, editor) := editor.expression? substitution.target
  match found with
  | none => editor
  | some (expression, ignoresCase) =>
    let space := editor.space
    let wanted := match expression.find? ignoresCase { rest := space } with
      | none => []
      | some first =>
        if substitution.first = 1 && !substitution.replacesRest then [first]
        else
          let all := Regular.allMatches (expression.find? ignoresCase) (space.length + 2)
            { rest := space } none
          let rest := all.drop (substitution.first - 1)
          if substitution.replacesRest then rest else rest.take 1
    if wanted.isEmpty then editor
    else
      let text := replaceMatches substitution.replacement 0 space wanted
      let editor := { editor with space := text, hasReplaced := true }
      let editor := if substitution.prints then editor.printSpace else editor
      match substitution.file with
      | some path => editor.writeTo path text
      | none => editor

/-! ## Showing all characters -/

def shownCharacter (character : Char) : List Char :=
  match character with
  | '\\' => ['\\', '\\']
  | '\x07' => ['\\', 'a']
  | '\x08' => ['\\', 'b']
  | '\x0c' => ['\\', 'f']
  | '\n' => ['\\', 'n']
  | '\r' => ['\\', 'r']
  | '\t' => ['\\', 't']
  | '\x0b' => ['\\', 'v']
  | character =>
    if isPrinting character then [character]
    else
      (Text.encodeLetters [character]).flatMap fun byte =>
        let digits := Nat.toDigits 8 byte.toNat
        '\\' :: (List.replicate (3 - digits.length) '0' ++ digits)

/-- Puts shown characters into lines of a width, each but the last with a backslash at its end. -/
def wrapShown (width column : Nat) : List (List Char) → List Char
  | [] => ['$', '\n']
  | shown :: others =>
    if 1 < width && width - 1 < column + shown.length then
      '\\' :: '\n' :: shown ++ wrapShown width shown.length others
    else shown ++ wrapShown width (column + shown.length) others

/-! ## Running -/

inductive Flow where
  | goOn
  | jump (label : Option String)
  /-- The end of the script for the line, which may be printed. -/
  | finish (prints : Bool)
  | restart
  | quit (prints : Bool)

def Editor.run (mode : Mode) (editor : Editor) (selector : Selector) (isRangeOpen : Bool) :
    Action → Editor × Flow
  | .opens | .closes | .label _ => (editor, .goOn)
  | .jump condition label =>
    let isTaken := match condition with
      | .always => true
      | .afterReplacing => editor.hasReplaced
      | .unlessReplaced => !editor.hasReplaced
    let editor := if condition = .always then editor else { editor with hasReplaced := false }
    (editor, if isTaken then .jump label else .goOn)
  | .append text => ({ editor with queue := editor.queue ++ [text] }, .goOn)
  | .insert text => (editor.printText text, .goOn)
  | .change text =>
    let isLast := selector.finish.isNone || selector.negated || !isRangeOpen
    (if isLast then editor.printText text else editor, .finish false)
  | .delete => (editor, .finish false)
  | .deleteFirst =>
    match editor.space.dropWhile (· != '\n') with
    | [] => (editor, .finish false)
    | _ :: rest => ({ editor with space := rest }, .restart)
  | .print => (editor.printSpace, .goOn)
  | .printFirst => (editor.print (editor.space.takeWhile (· != '\n')) true, .goOn)
  | .printNumber => (editor.print (Text.decimal editor.number) true, .goOn)
  | .printName => (editor.print (editor.path.toList) true, .goOn)
  | .printEscaped width =>
    (editor.printText (wrapShown (width.getD 70) 0 (editor.space.map shownCharacter)), .goOn)
  | .next =>
    if editor.isAtLast then (editor, .quit true)
    else
      let editor := if mode.isQuiet then editor else editor.printSpace
      match editor.nextLine fun editor text => { editor with space := text } with
      | some editor => (editor, .goOn)
      | none => (editor, .quit false)
  | .nextMore =>
    if editor.isAtLast then (editor, .quit true)
    else
      match editor.nextLine fun editor text =>
          { editor with space := editor.space ++ '\n' :: text } with
      | some editor => (editor, .goOn)
      | none => (editor, .quit false)
  | .transfer .hold => ({ editor with kept := editor.space }, .goOn)
  | .transfer .holdMore => ({ editor with kept := editor.kept ++ '\n' :: editor.space }, .goOn)
  | .transfer .get => ({ editor with space := editor.kept }, .goOn)
  | .transfer .getMore => ({ editor with space := editor.space ++ '\n' :: editor.kept }, .goOn)
  | .transfer .exchange => ({ editor with space := editor.kept, kept := editor.space }, .goOn)
  | .substitute substitution => (editor.substitute substitution, .goOn)
  | .translate members replacements =>
    let replace (character : Char) : Char :=
      match members.idxOf? character with
      | some index => (replacements[index]?).getD character
      | none => character
    ({ editor with space := editor.space.map replace }, .goOn)
  | .readFile path =>
    ({ editor with queue := editor.queue ++ (mode.content? path).toList }, .goOn)
  | .write path => (editor.writeTo path editor.space, .goOn)
  | .writeFirst path => (editor.writeTo path (editor.space.takeWhile (· != '\n')), .goOn)
  | .clear => ({ editor with space := [] }, .goOn)
  | .quit prints status => ({ editor with status }, .quit prints)

def skipGroup (depth : Nat) : List (Nat × Command) → List (Nat × Command)
  | [] => []
  | (_, command) :: commands =>
    match command.action with
    | .opens => skipGroup (depth + 1) commands
    | .closes => if depth = 0 then commands else skipGroup (depth - 1) commands
    | _ => skipGroup depth commands

def afterLabel (label : String) (commands : List (Nat × Command)) : List (Nat × Command) :=
  (commands.dropWhile fun (_, command) =>
    match command.action with
    | .label name => name != label
    | _ => true).drop 1

/-- Runs commands from some place on, line by line. Gives nothing if that takes too long. It is
fuelled. -/
def runCommands (mode : Mode) (commands : List (Nat × Command)) :
    Nat → List (Nat × Command) → Editor → Option Editor
  | 0, _, _ => none
  | fuel + 1, rest, editor =>
    let printEnd (prints : Bool) (editor : Editor) : Editor :=
      (if prints && !mode.isQuiet then editor.printSpace else editor).flush
    let nextCycle (prints : Bool) (editor : Editor) : Option Editor :=
      match (printEnd prints editor).nextLine fun editor text =>
          { editor with space := text, hasReplaced := false } with
      | some editor => runCommands mode commands fuel commands editor
      | none => some (printEnd prints editor)
    match rest with
    | [] => nextCycle true editor
    | (place, command) :: others =>
      let (isSelected, editor) := editor.isSelected place command.selector
      if !isSelected then
        match command.action with
        | .opens => runCommands mode commands fuel (skipGroup 0 others) editor
        | _ => runCommands mode commands fuel others editor
      else
        let isRangeOpen := editor.ranges.any fun range => range.1 = place
        let (editor, flow) := editor.run mode command.selector isRangeOpen command.action
        match flow with
        | .goOn => runCommands mode commands fuel others editor
        | .jump none => nextCycle true editor
        | .jump (some label) =>
          runCommands mode commands fuel (afterLabel label commands) editor
        | .finish prints => nextCycle prints editor
        | .restart => runCommands mode commands fuel commands editor.flush
        | .quit prints => some (printEnd prints editor)

def commandLimit : Nat := 1000000

def writtenFiles (commands : List Command) : List String :=
  (commands.filterMap fun command =>
    match command.action with
    | .write path | .writeFirst path => some path
    | .substitute substitution => substitution.file
    | _ => none).eraseDups.filter (· ≠ "/dev/stdout")

def linesFrom (path : String) (text : List Char) : List Incoming :=
  (linesOf text).map fun line =>
    .line (withoutLineEnd line) (line.getLast? = some '\n') path

def endInner : List Incoming → List Incoming
  | .line text _ path :: next :: rest => .line text true path :: endInner (next :: rest)
  | first :: rest => first :: endInner rest
  | [] => []

def runScript (mode : Mode) (commands : List Command) (incoming : List Incoming) :
    Option Editor :=
  let start : Editor :=
    { incoming := endInner incoming
      files := (writtenFiles commands).map fun path => (path, [])
      ranges := (commands.zipIdx.filterMap fun (command, place) =>
        match command.selector.start with
        | some (.line 0) => some (place, none)
        | _ => none) }
  let commands := commands.zipIdx.map fun (command, place) => (place, command)
  match start.nextLine fun editor text => { editor with space := text } with
  | some editor => runCommands mode commands commandLimit commands editor
  | none =>
    let failures := incoming.filterMap fun
      | .failure outcome => some outcome
      | .line _ _ _ => none
    some { start with outcome := failures.foldl Outcome.andThen {} }

/-! ## The utility -/

def readFailure (path : String) (error : FileError) : Outcome :=
  if error = .isDirectory then fileFailure 4 "sed" ("read error on " ++ path) error
  else fileFailure 2 "sed" ("can't read " ++ path) error

def readIncoming (path : String) : StateM Surroundings (List Incoming × Duration) := do
  match ← readFile path with
  | .ok reading => return (linesFrom path (Text.lettersOf reading.content), reading.elapsed)
  | .error error => return ([.failure (readFailure path error)], ⟨0⟩)

def finishEditor (elapsed : Duration) : Option Editor → StateM Surroundings Outcome
  | none => return { elapsed := forever }
  | some editor => do
    let written ← onEach (fun path => do
      let text := ((editor.files.find? fun file => file.1 = path).map Prod.snd).getD []
      let result ← change fun disk => do
        (← disk.createFile path).setContent path ⟨(Text.encodeLetters text).toArray⟩
      match result with
      | .ok () => return {}
      | .error error => return fileFailure 4 "sed" ("couldn't open file " ++ path) error)
      (editor.files.map Prod.fst)
    let isDone := !editor.isAtLast
    let outcome := editor.outcome.andThen written
    return { outcome with
      ending := if editor.status = 0 then outcome.ending else .exited editor.status
      elapsed := if isDone then ⟨0⟩ else elapsed }

/-- Edits a file in its place. A copy of what it was is kept if there is a name for that. -/
def editInPlace (mode : Mode) (commands : List Command) (suffix path : String) :
    StateM Surroundings Outcome := do
  let disk := (← get).disk
  if disk.isDirectory path then
    return .failure 4 ("sed: couldn't edit " ++ path ++ ": not a regular file\n")
  else
    match ← readFile path with
    | .error error => return readFailure path error
    | .ok reading =>
      match runScript mode commands (linesFrom path (Text.lettersOf reading.content)) with
      | none => return { elapsed := forever }
      | some editor =>
        let rest := editor.incoming.flatMap fun
          | .line text ends _ => text ++ (if ends then ['\n'] else [])
          | .failure _ => []
        let text := editor.outcome.output ++ Text.encodeLetters rest
        if !suffix.isEmpty then
          let copy := if suffix.toList.contains '*' then suffix.replace "*" path else path ++ suffix
          let _ ← change fun disk => do
            (← disk.createFile copy).setContent copy ⟨reading.content.toArray⟩
        let _ ← change fun disk => disk.setContent path ⟨text.toArray⟩
        finishEditor ⟨0⟩ (some { editor with outcome := {} })

/-- The parts of a script that options give, or the word that is one, and the words that are
left. -/
def scriptChunks (options : Options) :
    StateM Surroundings (Except Outcome (List Chunk × List String)) := do
  let given := options.given.filter fun option => option.1 == 'e' || option.1 == 'f'
  let chunks ← given.mapM fun (letter, value) => do
    if letter == 'e' then
      return Except.ok { path := none, text := value.toList }
    else
      match ← readFile value with
      | .ok reading =>
        return .ok { path := some value, text := Text.lettersOf reading.content }
      | .error error => return .error (fileFailure 4 "sed" ("couldn't open file " ++ value) error)
  match chunks.mapM id, options.words with
  | .error outcome, _ => return .error outcome
  | .ok [], [] =>
    return .error (.failure 1
      "Usage: sed [OPTION]... \x7bscript-only-if-no-other-script\x7d [input-file]...\n\n")
  | .ok [], script :: words =>
    return .ok ([{ path := none, text := script.toList }], words)
  | .ok chunks, words => return .ok (chunks, words)

def sed : Utility :=
  withOptions
    { name := "sed", plain := "nErsuzρ", valued := "efl", attached := "i"
      long := [("expression", 'e'), ("file", 'f'), ("in-place", 'i'), ("line-length", 'l'),
        ("posix", 'ρ'), ("quiet", 'n'), ("regexp-extended", 'E'), ("separate", 's'),
        ("silent", 'n'), ("unbuffered", 'u')]
      usage := "Usage: sed [OPTION]... \x7bscript-only-if-no-other-script\x7d [input-file]...\n\n" }
    fun options => do
      match ← scriptChunks options with
      | .error outcome => return outcome
      | .ok (chunks, words) =>
        match readScript (options.has 'E' || options.has 'r') chunks with
        | .error (status, text) => return .failure status ("sed: " ++ text ++ "\n")
        | .ok commands =>
          let isSilent := chunks.head?.any fun chunk =>
            chunk.text.take 3 == "#n\n".toList || chunk.text == "#n".toList
          let disk := (← get).disk
          let mode : Mode :=
            { isQuiet := options.has 'n' || isSilent
              content? := fun path =>
                match disk.find path with
                | .ok (.file content) => some (Text.lettersOf content.toList)
                | _ => none }
          let paths := if words.isEmpty then ["-"] else words
          match options.value? 'i' with
          | some suffix =>
            if words.isEmpty then return .failure 4 "sed: no input files\n"
            else onEach (editInPlace mode commands suffix) words
          | none =>
            let all ← paths.mapM readIncoming
            let elapsed : Duration :=
              if all.any fun (_, elapsed) => elapsed = forever then forever else ⟨0⟩
            if options.has 's' then
              let outcomes ← all.mapM fun (incoming, _) =>
                finishEditor elapsed (runScript mode commands incoming)
              return outcomes.foldl Outcome.andThen {}
            else finishEditor elapsed (runScript mode commands (all.flatMap Prod.fst))

end SymbolCache.Program.Utility.Edit
