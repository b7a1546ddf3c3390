import SymbolCache.Program.Shell.Builtin.Basic
import SymbolCache.Program.Shell.Pattern

/-!
# Values and options of a shell

The commands that give values to names or take them away, and those that set the options and the
arguments of the shell.
-/

set_option autoImplicit false

namespace SymbolCache.Program.Shell.Builtin

/-! ## Values -/

def printValues (command : String) (names : List String) : Run Unit := do
  let scope := (← get).scope
  let line (name : String) : String :=
    match scope.values.find? fun entry => entry.1 == name with
    | some (_, value) => command ++ " " ++ name ++ "=" ++ quoted value
    | none => command ++ " " ++ name
  printLines ((names.mergeSort fun left right => decide (left ≤ right)).map line)

def exportNames (words : List String) : Run Unit := do
  let (options, words) ← readOptions "export" "p" "" words
  if words.isEmpty || hasOption options 'p' then printValues "export" (← get).scope.exported
  else
    forNames "export" words fun name value => do
      value.forM (Run.assign name)
      Run.modifyScope fun scope =>
        { scope with exported := name :: scope.exported.filter (· != name) }

def checkFixed (command name : String) : Run Unit := do
  if (← get).scope.fixed.contains name then
    Run.fail 2 (command ++ ": " ++ name ++ ": is read only")

def readonly (words : List String) : Run Unit := do
  let (options, words) ← readOptions "readonly" "p" "" words
  if words.isEmpty || hasOption options 'p' then printValues "readonly" (← get).scope.fixed
  else
    forNames "readonly" words fun name value => do
      if value.isSome then checkFixed "readonly" name
      value.forM (Run.assign name)
      Run.modifyScope fun scope =>
        { scope with fixed := name :: scope.fixed.filter (· != name) }

def unset (words : List String) : Run Unit := do
  let (options, words) ← readOptions "unset" "vf" "" words
  if hasOption options 'f' then
    Run.modifyScope fun scope =>
      { scope with functions := scope.functions.filter fun entry => !words.contains entry.1 }
    Run.setStatus 0
  else
    forNames "unset" words fun name _ => do
      checkFixed "unset" name
      Run.setValue name none
      Run.noteValue name none
      Run.modifyScope fun scope => { scope with exported := scope.exported.filter (· != name) }

def declareLocal (words : List String) : Run Unit := do
  match (← get).scope.hidden with
  | none => Run.fail 2 "local: not in a function"
  | some _ =>
    forNames "local" (words.filter (· != "-")) fun name value => do
      let before ← Run.lookup? name
      Run.modifyScope fun scope =>
        let hidden := scope.hidden.map fun hidden => hidden ++ [{ name, value := before }]
        { scope with hidden }
      value.forM (Run.assign name)

/-! ## Options -/

def printOptions (asCommands : Bool) : Run Unit := do
  let scope := (← get).scope
  let line (name : String) : String :=
    if asCommands then "set " ++ (if scope.isOn name then "-o " else "+o ") ++ name
    else
      name ++ String.ofList (List.replicate (16 - name.length) ' ') ++
        if scope.isOn name then "on" else "off"
  let lines := optionTable.map fun entry => line entry.1
  printLines (if asCommands then lines else "Current option settings" :: lines)

def setNamed (holds : Bool) (name : String) : Run Unit := do
  if optionTable.any fun entry => entry.1 == name then
    Run.modifyScope fun scope => scope.withOption holds name
  else
    Run.fail 2 ("set: Illegal option " ++ (if holds then "-o " else "+o ") ++ name)

/-- Sets options by the letters of a word. Tells whether the next word is the name of one. -/
def setLetters (holds : Bool) : List Char → Run Bool
  | [] => return false
  | letter :: letters => do
    if letter == 'o' then
      let _ ← setLetters holds letters
      return true
    else
      match optionName? .plain letter with
      | some name => do
        Run.modifyScope fun scope => scope.withOption holds name
        setLetters holds letters
      | none => Run.fail 2 ("set: Illegal option -" ++ String.singleton letter)

/-- Sets options in front of words, and gives the words that become the arguments, if they do. -/
def setOptions : List String → Run (Option (List String))
  | [] => return none
  | word :: words => do
    match word.toList with
    | ['-', '-'] => return some words
    | ['-'] =>
      Run.modifyScope fun scope =>
        (scope.withOption false "xtrace").withOption false "verbose"
      return if words.isEmpty then none else some words
    | sign :: letters =>
      if sign == '-' || sign == '+' then
        let holds := sign == '-'
        if ← setLetters holds letters then
          match words with
          | [] =>
            printOptions (!holds)
            return none
          | name :: words =>
            setNamed holds name
            setOptions words
        else setOptions words
      else return some (word :: words)
    | [] => return some (word :: words)

def setArguments (arguments : List String) : Run Unit :=
  Run.modifyScope fun scope => { scope with arguments, optionPlace := {} }

def set (words : List String) : Run Unit := do
  if words.isEmpty then
    let values := (← get).scope.values.mergeSort fun left right => decide (left.1 ≤ right.1)
    printLines (values.map fun (name, value) => name ++ "=" ++ quoted value)
  else
    let arguments ← setOptions words
    arguments.forM setArguments
    Run.refuseMonitor "set: "
    Run.setStatus 0

def shift (words : List String) : Run Unit := do
  let count ← firstNumber "shift" 1 words
  let arguments := (← get).scope.arguments
  if arguments.length < count then Run.fail 2 "shift: can't shift that many"
  else
    setArguments (arguments.drop count)
    Run.setStatus 0

/-! ## Options among arguments -/

structure OptionFound where
  place : OptionPlace
  /-- The letter of the option, or a question mark. -/
  letter : Char := '?'
  isFound : Bool := true
  /-- The value that goes with it, if that changes. -/
  value : Option (Option String) := none
  message : Option String := none
  /-- Whether the letter is one of those that are known. -/
  isKnown : Bool := false

/-- Whether a letter is one of those that are known, and whether it takes a value. -/
def takesValue? (letter : Char) : List Char → Option Bool
  | [] => none
  | known :: rest =>
    if known == letter then some (rest.head? = some ':')
    else
      match rest with
      | ':' :: rest => takesValue? letter rest
      | rest => takesValue? letter rest

/-- Reads the next option among words. A colon in front of the known letters leaves messages out. -/
def nextOption (known : List Char) (words : List String) (place : OptionPlace) : OptionFound :=
  let isQuiet := known.head? = some ':'
  let open? : Option (List Char) := do
    let offset ← place.offset
    let word ← if place.next ≤ 1 then none else words[place.next - 2]?
    let rest := word.toList.drop offset
    if rest.isEmpty then none else some rest
  let start : Option (List Char) × Nat := match open? with
    | some rest => (some rest, place.next)
    | none =>
      match (words[place.next - 1]?).map String.toList with
      | some ['-', '-'] => (none, place.next + 1)
      | some ('-' :: letter :: letters) => (some (letter :: letters), place.next + 1)
      | _ => (none, place.next)
  match start with
  | (some (letter :: rest), next) =>
    let length := ((words[next - 2]?).map String.length).getD 0
    let after : OptionPlace := { next, offset := some (length - rest.length) }
    let name := String.singleton letter
    match takesValue? letter known with
    | none =>
      { place := after
        value := some (if isQuiet then some name else none)
        message := if isQuiet then none else some ("Illegal option -" ++ name) }
    | some false => { place := after, letter, value := some (some "") }
    | some true =>
      match rest, words[next - 1]? with
      | first :: others, _ =>
        { place := { next }, letter, value := some (some (String.ofList (first :: others))) }
      | [], some word => { place := { next := next + 1 }, letter, value := some (some word) }
      | [], none =>
        { place := { next }
          letter := if isQuiet then ':' else '?'
          value := some (if isQuiet then some name else none)
          message := if isQuiet then none else some ("No arg for -" ++ name ++ " option")
          isKnown := true }
  | (_, next) => { place := { next }, isFound := false }

/-- Reads the next option among the arguments, or among the words given, into a name. -/
def getopts (words : List String) : Run Unit := do
  match words with
  | known :: name :: others =>
    let scope := (← get).scope
    let arguments := if others.isEmpty then scope.arguments else others
    let place :=
      if arguments.length + 1 < scope.optionPlace.next then {} else scope.optionPlace
    let found := nextOption known.toList arguments place
    found.message.forM fun text =>
      let shown := match scope.language with
        | .plain => text
        | .extended =>
          let letter := String.ofList ((text.toList.dropWhile (· != '-')).drop 1 |>.take 1)
          scope.name ++ ": " ++ (if found.isKnown then "option requires an argument"
            else "illegal option") ++ " -- " ++ letter
      Run.write (scope.channel 2) (bytes (shown ++ "\n"))
    found.value.forM fun value => Run.setValue "OPTARG" value
    Run.setValue "OPTIND" (some (toString found.place.next))
    if !isName name then Run.fail 2 ("getopts: " ++ name ++ ": bad variable name")
    Run.assign name (String.singleton found.letter)
    Run.modifyScope fun scope => { scope with optionPlace := found.place }
    Run.setStatus (if found.isFound then 0 else 1)
  | _ => Run.fail 2 "getopts: Usage: getopts optstring var [arg...]"

end SymbolCache.Program.Shell.Builtin

/-!
## Reading lines

How a shell reads a line of its input and cuts it into the values of names.
-/

namespace SymbolCache.Program.Shell.Builtin

/-- Takes a line from the input. A backslash takes the meaning from the next character unless the
line is read as it is, and joins two lines. Tells whether a line feed ended it. -/
def takeLine (isRaw : Bool) : List Char → MarkedText × List Char × Bool
  | [] => ([], [], false)
  | '\n' :: rest => ([], rest, true)
  | ['\\'] => (if isRaw then [('\\', false)] else [], [], false)
  | '\\' :: next :: rest =>
    if isRaw then
      let (line, rest, ended) := takeLine isRaw (next :: rest)
      (('\\', false) :: line, rest, ended)
    else
      let (line, rest, ended) := takeLine isRaw rest
      (if next == '\n' then line else (next, true) :: line, rest, ended)
  | character :: rest =>
    let (line, rest, ended) := takeLine isRaw rest
    ((character, false) :: line, rest, ended)

def lineText (line : MarkedText) : String :=
  String.ofList (line.map Prod.fst)

def isLineBlank (separators : List Char) (mark : Char × Bool) : Bool :=
  !mark.2 && separators.contains mark.1 && [' ', '\t', '\n'].contains mark.1

def separatesLine (separators : List Char) (mark : Char × Bool) : Bool :=
  !mark.2 && separators.contains mark.1

/-- The first value of a line and what is left. One separator that is no white space goes with it.
-/
def firstValue (separators : List Char) (line : MarkedText) : MarkedText × MarkedText :=
  let word := line.takeWhile fun mark => !separatesLine separators mark
  let rest := (line.drop word.length).dropWhile (isLineBlank separators)
  match rest with
  | mark :: after =>
    (word, if separatesLine separators mark then after.dropWhile (isLineBlank separators) else rest)
  | [] => (word, [])

/-- The value of the last name: all that is left, without white space at the end and without a
separator that ends the only value. -/
def lastValue (separators : List Char) (line : MarkedText) : MarkedText :=
  let trimmed := (line.reverse.dropWhile (isLineBlank separators)).reverse
  let (word, rest) := firstValue separators trimmed
  if rest.isEmpty then word else trimmed

/-- The values that a line has for some names. The last name gets all that is left. -/
def splitLine (separators : List Char) (line : MarkedText) :
    List String → List (String × String)
  | [] => []
  | name :: names =>
    let line := line.dropWhile (isLineBlank separators)
    if names.isEmpty then [(name, lineText (lastValue separators line))]
    else
      let (word, rest) := firstValue separators line
      (name, lineText word) :: splitLine separators rest names

/-- Takes a line from the input of the shell. Tells whether a line feed ended it. -/
def takeInputLine (isRaw : Bool) : Run (MarkedText × Bool) := do
  let input := (← get).input
  let line := input.content.takeWhile (· != 10)
  let (marked, rest, ended) : MarkedText × List UInt8 × Bool :=
    if isRaw || !line.contains 92 then
      let after := input.content.drop line.length
      ((Text.lettersOf line).map fun character => (character, false), after.drop 1,
        !after.isEmpty)
    else
      let (marked, rest, ended) := takeLine false (Text.lettersOf input.content)
      (marked, characterBytes rest, ended)
  modify fun state => state.withInput { input with content := rest }
  if !ended && input.isEndless then throw .endless
  return (marked, ended)

def read (words : List String) : Run Unit := do
  let (options, names) ← readOptions "read" "r" "p" words
  if names.isEmpty then Run.fail 2 "read: arg count"
  let (line, ended) ← takeInputLine (hasOption options 'r')
  for (name, value) in splitLine (← get).separators line names do
    if !isName name then Run.fail 2 ("read: " ++ name ++ ": bad variable name")
    if (← get).scope.fixed.contains name then Run.fail 2 ("read: " ++ name ++ ": is read only")
    Run.assign name value
  Run.setStatus (if ended then 0 else 1)

end SymbolCache.Program.Shell.Builtin
