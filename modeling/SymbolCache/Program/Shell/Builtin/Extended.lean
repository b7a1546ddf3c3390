import SymbolCache.Program.Shell.Builtin.Meaning
import SymbolCache.Program.Shell.Builtin.Basic
import SymbolCache.Program.Shell.Builtin.Values
import SymbolCache.Program.Shell.Builtin.Signals
import SymbolCache.Program.Shell.Builtin.Testing

/-!
# Commands of the extended language

The commands of the shell itself that the plain language does not have, or that work in another way
there.
-/

set_option autoImplicit false

namespace SymbolCache.Program.Shell.Builtin

def withExtendedOptions (name plain valued : String) (words : List String)
    (act : List (Char × String) → List String → Run Unit) : Run Unit := do
  (← extendedOptions? name plain valued words).forM fun (options, words) => act options words

def optionValue? (options : List (Char × String)) (letter : Char) : Option String :=
  (options.find? fun option => option.1 == letter).map Prod.snd

def integer? (word : String) : Option Int :=
  (Utility.Condition.integer word).toOption

/-! ## Printing -/

def extendedDialect : Run Utility.Dialect := do
  let scope := (← get).scope
  return .extended (scope.source.getD scope.name ++ ": line " ++ toString scope.line)

def extendedEcho (words : List String) : Run Unit := do
  let dialect ← extendedDialect
  Run.emit (Utility.echo dialect words)

def extendedPrintf (words : List String) : Run Unit := do
  withExtendedOptions "printf" "" "v" words fun options words => do
    if words.isEmpty then showUsage "printf"
    else
      let outcome := Utility.printf (← extendedDialect) ("--" :: words)
      match optionValue? options 'v' with
      | none => Run.emit outcome
      | some word =>
        match Declared.ofWord? word with
        | some { name, key, value := none, .. } =>
          let text := String.ofList (Text.lettersOf outcome.output)
          Run.emit { outcome with
            written := outcome.written.filter fun (stream, _) => stream matches .messages }
          let target ← match key with
            | some key => Run.elementAt name key
            | none => pure { name }
          Run.give target false text
        | _ =>
          Run.refuse 2 ("printf: \x60" ++ word ++ "': not a valid identifier")

/-! ## Arithmetic -/

def letValues (words : List String) : Run Unit := do
  if words.isEmpty then Run.refuse 1 "let: expression expected"
  else
    let mut last : Int := 0
    for word in words do
      last ← Run.evaluate "let: " word
    Run.setStatus (if last = 0 then 1 else 0)

/-! ## Options -/

def printBehaviours (asCommands : Bool) (names : List String) : Run Unit := do
  let scope := (← get).scope
  let line (name : String) : String :=
    if asCommands then "shopt " ++ (if scope.isOn name then "-s " else "-u ") ++ name
    else
      name ++ String.ofList (List.replicate (15 - name.length) ' ') ++ "\t" ++
        if scope.isOn name then "on" else "off"
  printLines (names.map line)

def shopt (words : List String) : Run Unit := do
  withExtendedOptions "shopt" "suqpo" "" words fun options words => do
    let known := if hasOption options 'o' then extendedOptionTable.map Prod.fst
      else behaviourNames
    let switches := hasOption options 's' || hasOption options 'u'
    let mut status := 0
    if words.isEmpty then
      let scope := (← get).scope
      let isWanted (name : String) : Bool :=
        !switches || scope.isOn name == hasOption options 's'
      printBehaviours (hasOption options 'p') (known.filter isWanted)
    for word in words do
      if !known.contains word then
        Run.complain ("shopt: " ++ word ++ ": invalid shell option name")
        status := 1
      else if switches then
        Run.modifyScope fun scope => scope.withOption (hasOption options 's') word
      else
        if !hasOption options 'q' then printBehaviours (hasOption options 'p') [word]
        if !(← get).scope.isOn word then status := 1
    Run.setStatus status

/-- Sets options by the letters of a word. Tells whether the next word is the name of one, unless
something is wrong. -/
def setExtendedLetters? (holds : Bool) : List Char → Run (Option Bool)
  | [] => return some false
  | letter :: letters => do
    if letter == 'o' then return (← setExtendedLetters? holds letters).map fun _ => true
    else
      match optionName? .extended letter with
      | some name =>
        Run.modifyScope fun scope => scope.withOption holds name
        setExtendedLetters? holds letters
      | none =>
        let sign := if holds then '-' else '+'
        Run.complain ("set: " ++ String.ofList [sign, letter] ++ ": invalid option")
        showUsage "set"
        return none

def printExtendedOptions (asCommands : Bool) : Run Unit := do
  let scope := (← get).scope
  let line (name : String) : String :=
    if asCommands then "set " ++ (if scope.isOn name then "-o " else "+o ") ++ name
    else
      name ++ String.ofList (List.replicate (15 - name.length) ' ') ++ "\t" ++
        if scope.isOn name then "on" else "off"
  printLines (extendedOptionTable.map fun entry => line entry.1)

/-- Sets options in front of words, and gives the words that become the arguments, if they do. Tells
whether nothing is wrong. -/
def setExtendedOptions : List String → Run (Bool × Option (List String))
  | [] => return (true, none)
  | word :: words => do
    match word.toList with
    | ['-', '-'] => return (true, some words)
    | ['-'] =>
      Run.modifyScope fun scope =>
        (scope.withOption false "xtrace").withOption false "verbose"
      return (true, if words.isEmpty then none else some words)
    | sign :: letters =>
      if sign != '-' && sign != '+' then return (true, some (word :: words))
      else
        let holds := sign == '-'
        match ← setExtendedLetters? holds letters, words with
        | none, _ => return (false, none)
        | some false, words => setExtendedOptions words
        | some true, [] =>
          printExtendedOptions (!holds)
          return (true, none)
        | some true, name :: words =>
          if extendedOptionTable.any fun entry => entry.1 == name then
            Run.modifyScope fun scope => scope.withOption holds name
            setExtendedOptions words
          else
            Run.refuse 2 ("set: " ++ name ++ ": invalid option name")
            return (false, none)
    | [] => return (true, some (word :: words))

def extendedSet (words : List String) : Run Unit := do
  if words.isEmpty then
    let scope := (← get).scope
    let texts := scope.values.map fun (name, value) => (name, Quotation.ifNeeded value)
    let lists := scope.lists.map fun (name, elements) => (name, Run.elementsText elements)
    let order (left right : String × String) : Bool := decide (left.1 ≤ right.1)
    printLines (((texts ++ lists).mergeSort order).map fun (name, text) => name ++ "=" ++ text)
  else
    match ← setExtendedOptions words with
    | (true, arguments) =>
      arguments.forM setArguments
      Run.setStatus 0
    | (false, _) => return ()

def extendedShift (words : List String) : Run Unit := do
  let arguments := (← get).scope.arguments
  let count? := match words with
    | [] => some 1
    | word :: _ => integer? word
  match count? with
  | none => Run.refuse 1 ("shift: " ++ words.headD "" ++ ": numeric argument required")
  | some count =>
    if count < 0 then
      Run.refuse 1 ("shift: " ++ words.headD "" ++ ": shift count out of range")
    else if arguments.length < count.toNat then Run.setStatus 1
    else
      setArguments (arguments.drop count.toNat)
      Run.setStatus 0

/-! ## Ends -/

/-- The status that a word asks for, or the last one. Any other word is said to be wrong. -/
def statusOfWord (name : String) (words : List String) : Run Nat := do
  match words with
  | [] => return (← get).scope.status
  | word :: _ =>
    match integer? word with
    | some value => return (value % 256).toNat
    | none =>
      Run.complain (name ++ ": " ++ word ++ ": numeric argument required")
      return 2

def extendedExit (words : List String) : Run Unit := do
  Run.setStatus (← statusOfWord "exit" words)
  throw .exit

def extendedReturn (words : List String) : Run Unit := do
  let scope := (← get).scope
  if scope.hidden.isNone && scope.source.isNone then
    Run.refuse 2 "return: can only \x60return' from a function or sourced script"
  else
    Run.setStatus (← statusOfWord "return" words)
    throw .returns

def extendedLeave (name : String) (interruption : Nat → Interruption) (words : List String) :
    Run Unit := do
  let loops := (← get).scope.loops
  if loops = 0 then
    Run.refuse 0
      (name ++ ": only meaningful in a \x60for', \x60while', or \x60until' loop")
  else
    match words with
    | [] =>
      Run.setStatus 0
      throw (interruption 1)
    | word :: _ =>
      match integer? word with
      | none =>
        Run.refuse 128 (name ++ ": " ++ word ++ ": numeric argument required")
        throw .exit
      | some levels =>
        if levels ≤ 0 then
          Run.refuse 1 (name ++ ": " ++ word ++ ": loop count out of range")
          throw (.breaks loops)
        else
          Run.setStatus 0
          throw (interruption (min levels.toNat loops))

/-! ## Traps -/

def extendedEvent? (word : String) : Option String :=
  let upper := word.toUpper
  if ["ERR", "DEBUG", "RETURN"].contains upper then some upper
  else event? (if upper.startsWith "SIG" then (upper.drop 3).toString else word)

def printTraps (isWanted : String → Bool) : Run Unit := do
  let number (name : String) : Nat :=
    if name = "EXIT" then 0
    else ((Signal.ofWord? name).map Signal.number).getD 100
  let traps := (← get).scope.traps.filter fun entry => isWanted entry.1
  let sorted := traps.mergeSort fun left right => number left.1 ≤ number right.1
  printLines (sorted.map fun (name, action) =>
    let shown := if ["EXIT", "ERR", "DEBUG", "RETURN"].contains name then name else "SIG" ++ name
    "trap -- " ++ Quotation.always action ++ " " ++ shown)

/-- Sets what is run at the end of the shell, after failures or on a signal, or prints it. -/
def extendedTrap (words : List String) : Run Unit := do
  withExtendedOptions "trap" "lp" "" words fun options words => do
    match words with
    | [] => printTraps fun _ => true
    | first :: rest =>
      if hasOption options 'p' then
        printTraps ((first :: rest).filterMap extendedEvent?).contains
      else
        let isReset := rest.isEmpty || first == "-"
        Run.setStatus 0
        for word in if rest.isEmpty then [first] else rest do
          match extendedEvent? word with
          | none => Run.refuse 1 ("trap: " ++ word ++ ": invalid signal specification")
          | some event =>
            Run.modifyScope fun scope =>
              let others := scope.traps.filter fun entry => entry.1 != event
              { scope with traps := if isReset then others else others ++ [(event, first)] }

/-! ## Sending signals -/

def extendedSignal? (word : String) : Option Signal :=
  if word = "0" then some ⟨0, "0", .nothing⟩
  else
    let upper := word.toUpper
    Signal.ofWord? (if upper.startsWith "SIG" then (upper.drop 3).toString else word)

def listExtendedSignals (words : List String) : Run Unit := do
  Run.setStatus 0
  for word in words do
    match integer? word, extendedSignal? word with
    | some value, _ => printLines [Signal.title (if 128 < value then value - 128 else value).toNat]
    | none, some signal => printLines [toString signal.number]
    | none, none => Run.refuse 1 ("kill: " ++ word ++ ": invalid signal specification")

def signalAll (runTrap : String → Run Unit) (name : String) (targets : List String) :
    Run Unit := do
  match extendedSignal? name, targets with
  | none, _ => Run.refuse 1 ("kill: " ++ name ++ ": invalid signal specification")
  | some _, [] => showUsage "kill"
  | some signal, targets =>
    Run.setStatus 0
    for target in targets do
      let state ← get
      let numbers := processNumber :: state.scope.processNumber ::
        state.background.map Background.number
      let isKnown := target == "0" || (numbers.map toString).contains target
      if isKnown then sendSignal runTrap signal target
      else if target.startsWith "%" then
        if state.background.isEmpty then
          Run.refuse 1 ("kill: " ++ target ++ ": no such job")
        else sendSignal runTrap signal target
      else if (integer? target).isSome then
        Run.refuse 1 ("kill: (" ++ target ++ ") - No such process")
      else Run.refuse 1 ("kill: " ++ target ++ ": arguments must be process or job IDs")

def extendedKill (runTrap : String → Run Unit) (words : List String) : Run Unit := do
  match words with
  | [] => showUsage "kill"
  | "-l" :: words | "-L" :: words => listExtendedSignals words
  | "-s" :: name :: words | "-n" :: name :: words => signalAll runTrap name words
  | "--" :: words => signalAll runTrap "TERM" words
  | word :: words =>
    if word.startsWith "-" then signalAll runTrap (word.drop 1).toString words
    else signalAll runTrap "TERM" (word :: words)

/-! ## Directories -/

def refuseDirectory (name path : String) : Run Unit := do
  let disk := (← get).disk
  let reason := match disk.find path with
    | .error error => error.reason
    | .ok _ => "Not a directory"
  Run.refuse 1 (name ++ ": " ++ path ++ ": " ++ reason)

def extendedCd (words : List String) : Run Unit := do
  withExtendedOptions "cd" "LPe@" "" words fun _ words => do
    let target? : Option (String × Bool) ← match words with
      | [] => do pure ((← Run.lookup? "HOME").map fun path => (path, false))
      | ["-"] => do pure ((← Run.lookup? "OLDPWD").map fun path => (path, true))
      | path :: _ => pure (some (path, false))
    match target?, words with
    | _, _ :: _ :: _ => Run.refuse 1 "cd: too many arguments"
    | none, words => Run.refuse 1 ("cd: " ++ (if words.isEmpty then "HOME" else "OLDPWD") ++
        " not set")
    | some (path, isPrinted), _ =>
      let disk := (← get).disk
      let searchPath := (← Run.lookup? "CDPATH").getD ""
      let found := (directoryPaths searchPath path).findSome? fun (path, isPrinted) =>
        (directoryAt? disk (if path.isEmpty then "." else path)).map fun location =>
          (location, isPrinted)
      match found with
      | none => refuseDirectory "cd" path
      | some (location, isFoundElsewhere) =>
        goTo location
        Run.setStatus 0
        if isPrinted || isFoundElsewhere then printLines [Path.ofElements true location]

def withTilde (home path : String) : String :=
  if path = home then "~"
  else if !home.isEmpty && path.startsWith (home ++ "/") then
    "~" ++ (path.drop home.length).toString
  else path

def showPlaces : Run Unit := do
  let state ← get
  let home := (← Run.lookup? "HOME").getD ""
  let here := Path.ofElements true state.disk.workingDirectory
  printLines [" ".intercalate ((here :: state.scope.places).map (withTilde home))]

/-- Goes to a directory and keeps the one before, or changes places with the last one kept. -/
def pushDirectory (words : List String) : Run Unit := do
  let state ← get
  let here := Path.ofElements true state.disk.workingDirectory
  match words, state.scope.places with
  | [], [] => Run.refuse 1 "pushd: no other directory"
  | words, places =>
    let (path, kept) := match words, places with
      | path :: _, places => (path, places)
      | [], path :: places => (path, places)
      | [], [] => ("", [])
    match directoryAt? state.disk path with
    | none => refuseDirectory "pushd" path
    | some location =>
      goTo location
      Run.modifyScope fun scope => { scope with places := here :: kept }
      showPlaces

def popDirectory : Run Unit := do
  let state ← get
  match state.scope.places with
  | [] => Run.refuse 1 "popd: directory stack empty"
  | path :: places =>
    match directoryAt? state.disk path with
    | none => refuseDirectory "popd" path
    | some location =>
      goTo location
      Run.modifyScope fun scope => { scope with places }
      showPlaces

/-! ## Reading -/

/-- Takes characters from the input up to one that ends them, or up to some number of them. Tells
whether they were ended. A backslash takes the meaning from the next character unless the text is
read as it is. -/
def takeText (isRaw : Bool) (ends : Char → Bool) :
    Nat → List Char → MarkedText × List Char × Bool
  | 0, rest => ([], rest, true)
  | _ + 1, [] => ([], [], false)
  | count + 1, '\\' :: rest =>
    match isRaw, rest with
    | true, rest =>
      let (text, rest, ended) := takeText isRaw ends count rest
      (('\\', false) :: text, rest, ended)
    | false, [] => ([], [], false)
    | false, next :: rest =>
      let (text, rest, ended) := takeText isRaw ends count rest
      (if next == '\n' then text else (next, true) :: text, rest, ended)
  | count + 1, character :: rest =>
    if ends character then ([], rest, true)
    else
      let (text, rest, ended) := takeText isRaw ends count rest
      ((character, false) :: text, rest, ended)

def allValues (separators : List Char) : Nat → MarkedText → List String
  | 0, _ => []
  | fuel + 1, line =>
    let line := line.dropWhile (isLineBlank separators)
    if line.isEmpty then []
    else
      let (word, rest) := firstValue separators line
      lineText word :: allValues separators fuel rest

def withStreamAsInput (number? : Option Nat) (act : Run Unit) : Run Unit := do
  match number? with
  | none => act
  | some number =>
    let streams := (← get).scope.streams
    Run.modifyScope fun scope => scope.withStream 0 (scope.channel? number)
    act
    Run.modifyScope fun scope => { scope with streams }

def extendedRead (words : List String) : Run Unit := do
  withExtendedOptions "read" "ers" "adinNptu" words fun options names => do
    let wrong? := (optionValue? options 'a').toList ++ names |>.find? fun word =>
      (Declared.ofWord? word).isNone
    match wrong? with
    | some word => refuseName "read" word
    | none =>
      let count? := (optionValue? options 'n').orElse fun () => optionValue? options 'N'
      let limit := ((count?.bind integer?).map Int.toNat).getD
      let isRaw := hasOption options 'r'
      let delimiter := ((optionValue? options 'd').map fun text =>
        text.toList.headD '\x00').getD '\n'
      let ends (character : Char) : Bool := character == delimiter && !hasOption options 'N'
      let number? := (optionValue? options 'u').bind fun text => (integer? text).map Int.toNat
      withStreamAsInput number? do
        let input := (← get).input
        let letters := Text.lettersOf input.content
        let (text, rest, ended) := takeText isRaw ends (limit letters.length.succ) letters
        if !ended && input.isEndless then throw .endless
        modify fun state => state.withInput { input with content := characterBytes rest }
        let separators := (← get).separators
        match optionValue? options 'a', names with
        | some name, _ =>
          let values := allValues separators (text.length + 1) text
          let elements := values.map fun value => ⟨none, false, value⟩
          Run.giveList { name, adds := false, elements }
        | none, [] => Run.assign "REPLY" (lineText text)
        | none, names =>
          let values := if hasOption options 'N' then
              (names.headD "", lineText text) :: names.tail.map fun name => (name, "")
            else splitLine separators text names
          for (word, value) in values do
            match Declared.ofWord? word with
            | some { name, key := some key, .. } =>
              Run.give (← Run.elementAt name key) false value
            | _ => Run.assign word value
        Run.setStatus (if ended then 0 else 1)

def endedParts (delimiter : Char) (text : List Char) : List (List Char) :=
  let parts := Text.split delimiter text
  let ended := parts.dropLast.map fun part => part ++ [delimiter]
  ended ++ (parts.getLast?.toList.filter fun part => !part.isEmpty)

def readLinesInto (words : List String) : Run Unit := do
  withExtendedOptions "mapfile" "t" "dnOsuCc" words fun options names => do
    let name := names.headD "MAPFILE"
    if !isName name then refuseName "mapfile" name
    else
      let natural (letter : Char) : Option Nat :=
        ((optionValue? options letter).bind integer?).map Int.toNat
      withStreamAsInput (natural 'u') do
        let input := (← get).input
        if input.isEndless then throw .endless
        let delimiter := ((optionValue? options 'd').map fun text =>
          text.toList.headD '\x00').getD '\n'
        let all := endedParts delimiter (Text.lettersOf input.content)
        let skipped := (natural 's').getD 0
        let wanted := all.drop skipped
        let taken := match natural 'n' with
          | some 0 | none => wanted
          | some count => wanted.take count
        let rest := (all.drop (skipped + taken.length)).flatten
        modify fun state => state.withInput { input with content := characterBytes rest }
        let values := taken.map fun line =>
          if hasOption options 't' && line.getLast? = some delimiter then line.dropLast else line
        let first := natural 'O'
        if first.isNone then
          Run.setValue name none
          Run.setElements name (some {})
        for (value, index) in values.zipIdx (first.getD 0) do
          Run.give { name, key := some (toString index) } false (String.ofList value)
        Run.setStatus 0

/-! ## Meanings -/

def extendedWords : List String :=
  reservedWords ++ ["[[", "]]", "coproc", "function", "select", "time"]

def extendedNames : List String :=
  names ++ ["builtin", "declare", "dirs", "let", "mapfile", "popd", "pushd", "readarray", "shopt",
    "source", "typeset"]

def kindOf? (name : String) : Run (Option String) := do
  let scope := (← get).scope
  if scope.isOn "expand_aliases" && scope.aliases.any fun entry => entry.1 == name then
    return some "alias"
  else if extendedWords.contains name then return some "keyword"
  else if isFunction scope name then return some "function"
  else if extendedNames.contains name then return some "builtin"
  else return (← programPath? name).map fun _ => "file"

def describeExtended (name : String) : Run Bool := do
  match ← kindOf? name with
  | some "alias" =>
    let text := ((← get).scope.aliases.find? fun entry => entry.1 == name).map Prod.snd
    printLines [name ++ " is aliased to \x60" ++ text.getD "" ++ "'"]
    return true
  | some "keyword" =>
    printLines [name ++ " is a shell keyword"]
    return true
  | some "function" =>
    printLines [name ++ " is a function"]
    return true
  | some "builtin" =>
    printLines [name ++ " is a shell builtin"]
    return true
  | some _ =>
    let path := (← programPath? name).getD name
    let isKnown := (← get).scope.found.contains name
    printLines [name ++ if isKnown then " is hashed (" ++ path ++ ")" else " is " ++ path]
    return true
  | none => return false

def extendedType (words : List String) : Run Unit := do
  withExtendedOptions "type" "afptP" "" words fun options words => do
    let mut status := 0
    for word in words do
      let kind? ← kindOf? word
      if kind?.isNone then status := 1
      if hasOption options 't' then kind?.forM fun kind => printLines [kind]
      else if hasOption options 'P' || hasOption options 'p' then
        if hasOption options 'P' || kind? = some "file" then
          printLines (← programPath? word).toList
      else if !(← describeExtended word) then
        Run.complain ("type: " ++ word ++ ": not found")
    Run.setStatus status

def tellExtended (name : String) : Run Unit := do
  match ← kindOf? name with
  | some "alias" =>
    let text := ((← get).scope.aliases.find? fun entry => entry.1 == name).map Prod.snd
    printLines ["alias " ++ name ++ "=" ++ Quotation.always (text.getD "")]
  | some "file" => printLines (← programPath? name).toList
  | some _ => printLines [name]
  | none => Run.setStatus 1

def extendedAlias (words : List String) : Run Unit := do
  let aliases := (← get).scope.aliases
  let shown (name text : String) : String :=
    "alias " ++ name ++ "=" ++ Quotation.always text
  if words.isEmpty then
    let order (left right : String × String) : Bool := decide (left.1 ≤ right.1)
    printLines ((aliases.mergeSort order).map fun (name, text) => shown name text)
  else
    let mut status := 0
    for word in words do
      match splitAssignment word with
      | (name, some text) =>
        Run.modifyScope fun scope =>
          let others := scope.aliases.filter fun entry => entry.1 != name
          { scope with aliases := others ++ [(name, text)] }
      | (name, none) =>
        match aliases.find? fun entry => entry.1 == name with
        | some (_, text) => printLines [shown name text]
        | none =>
          Run.complain ("alias: " ++ name ++ ": not found")
          status := 1
    Run.setStatus status

def extendedUnalias (words : List String) : Run Unit := do
  withExtendedOptions "unalias" "a" "" words fun options words => do
    let mut status := 0
    if hasOption options 'a' then Run.modifyScope fun scope => { scope with aliases := [] }
    for name in words do
      if (← get).scope.aliases.any fun entry => entry.1 == name then
        Run.modifyScope fun scope =>
          { scope with aliases := scope.aliases.filter fun entry => entry.1 != name }
      else
        Run.complain ("unalias: " ++ name ++ ": not found")
        status := 1
    Run.setStatus status

/-! ## Masks and options among arguments -/

def extendedUmask (words : List String) : Run Unit := do
  withExtendedOptions "umask" "Sp" "" words fun options words => do
    match words with
    | [] =>
      let mask := (← get).scope.mask
      let shown := if hasOption options 'S' then maskText mask else Permission.octal 4 mask
      let front := if hasOption options 'p' then
          if hasOption options 'S' then "umask -S " else "umask "
        else ""
      printLines [front ++ shown]
    | word :: _ =>
      if word.toList.head?.any Text.isAsciiDigit then
        if word.toList.any fun digit => digit < '0' || '7' < digit then
          Run.refuse 1 ("umask: " ++ word ++ ": octal number out of range")
        else umask [word]
      else if (Permission.readChange word).isNone then
        let rest := word.toList.dropWhile ['u', 'g', 'o', 'a'].contains
        Run.refuse 1 ("umask: \x60" ++ String.singleton (rest.headD ' ') ++
          "': invalid symbolic mode operator")
      else umask [word]

def extendedGetopts (words : List String) : Run Unit := do
  if words.length < 2 then showUsage "getopts" else getopts words

/-! ## All commands -/

/-- The command of the extended language that a name stands for, if the plain one has none that
works like it. -/
def extended? (name : String) : Option (List String → Run Unit) :=
  match name with
  | "[" | "test" => some (runTest name)
  | "alias" => some extendedAlias
  | "bg" | "fg" => some fun _ => Run.refuse 1 (name ++ ": no job control")
  | "break" => some (extendedLeave "break" .breaks)
  | "cd" => some extendedCd
  | "chdir" => none
  | "continue" => some (extendedLeave "continue" .continues)
  | "declare" | "local" | "typeset" => some (declareNames name)
  | "dirs" => some fun _ => showPlaces
  | "echo" => some extendedEcho
  | "exit" => some extendedExit
  | "export" => some (markNames "export" 'x')
  | "getopts" => some extendedGetopts
  | "let" => some letValues
  | "mapfile" | "readarray" => some readLinesInto
  | "popd" => some fun _ => popDirectory
  | "printf" => some extendedPrintf
  | "pushd" => some pushDirectory
  | "read" => some extendedRead
  | "readonly" => some (markNames "readonly" 'r')
  | "return" => some extendedReturn
  | "set" => some extendedSet
  | "shift" => some extendedShift
  | "shopt" => some shopt
  | "times" => some fun _ => printLines ["0m0.000s 0m0.000s", "0m0.000s 0m0.000s"]
  | "trap" => some extendedTrap
  | "type" => some extendedType
  | "umask" => some extendedUmask
  | "unalias" => some extendedUnalias
  | "unset" => some unsetNames
  | _ => none

end SymbolCache.Program.Shell.Builtin
