import SymbolCache.Program.Regular.Syntax
import SymbolCache.Program.Shell.Builtin.Testing
import SymbolCache.Program.Shell.Launcher
import SymbolCache.Program.Shell.Expansion

/-!
# The shell

Runs scripts. All functions that run something are fuelled by how deep commands may stand in each
other; a script that goes deeper never ends.
-/

set_option autoImplicit false

/-!
## Conditions of the extended language

Conditions on words that are not cut. The one on the right of an equals sign is a pattern, and the
one after a match sign is a regular expression.
-/

namespace SymbolCache.Program.Shell

namespace Run

def regularText (word : MarkedText) : List Char :=
  word.flatMap fun (letter, isQuoted) =>
    if isQuoted && ".[]*^$+?()\x7b\x7d|\\".toList.contains letter then ['\\', letter] else [letter]

/-- The status of a match: whether a regular expression, if it is one, matches in a text. What its
groups match can be asked for after that. -/
def matchStatus (word : MarkedText) (text : String) : Run Nat := do
  let ignoresCase := (← get).scope.isOn "nocasematch"
  match Regular.read { isExtended := true, isLenient := false } (regularText word) with
  | .error _ => return 2
  | .ok (expression, count) =>
    match expression.find? ignoresCase { rest := text.toList } with
    | none =>
      setElements "BASH_REMATCH" (some {})
      return 1
    | some found =>
      let groups := (List.range count).map fun index =>
        String.ofList ((found.finish.groupText? (index + 1)).getD [])
      setElements "BASH_REMATCH" (some (.ofValues (String.ofList found.text :: groups)))
      return 0

def statusFor (holds : Bool) : Nat :=
  if holds then 0 else 1

def conditionStatus (scripts : Scripts) (fuel : Nat) : Condition → Run Nat
  | .holds word => do
    return statusFor (!(← expandText scripts fuel word).isEmpty)
  | .unary operator word => do
    let text ← expandText scripts fuel word
    return statusFor (Builtin.passes (← get) operator text)
  | .negation condition => do
    return statusFor ((← conditionStatus scripts fuel condition) ≠ 0)
  | .both first second => do
    match ← conditionStatus scripts fuel first with
    | 0 => conditionStatus scripts fuel second
    | status => return status
  | .either first second => do
    match ← conditionStatus scripts fuel first with
    | 0 => return 0
    | _ => conditionStatus scripts fuel second
  | .binary operator left right => do
    let text ← expandText scripts fuel left
    match operator with
    | "=~" =>
      let items ← expandItems scripts fuel false (withHome right)
      matchStatus (Item.marked items) text
    | "=" | "==" | "!=" =>
      let scope := (← get).scope
      let ignoresCase := scope.isOn "nocasematch"
      let items ← expandItems scripts fuel false (withHome right)
      let manner := { scope.manner with hasGroups := true }
      let pattern := Pattern.ofMarked manner (Item.marked items)
      let accepts := Pattern.acceptsFolded ignoresCase pattern text.toList
      return statusFor (accepts == (operator ≠ "!="))
    | "<" | ">" | "-nt" | "-ot" | "-ef" =>
      let other ← expandText scripts fuel right
      match Builtin.passesBetween (← get) text operator other with
      | .ok holds => return statusFor holds
      | .error _ => return 2
    | operator =>
      let first ← evaluate "[[: " text
      let second ← evaluate "[[: " (← expandText scripts fuel right)
      match Builtin.passesBetween (← get) (toString first) operator (toString second) with
      | .ok holds => return statusFor holds
      | .error _ => return 2

end Run

end SymbolCache.Program.Shell

namespace SymbolCache.Program.Shell

namespace Run

def hasOutput (word : Word) : Bool :=
  word.any fun
    | .output _ _ _ => true
    | _ => false

def traceFront (scripts : Scripts) (fuel : Nat) : Run String := do
  let front := (← lookup? "PS4").getD ""
  let options := (← get).scope.options
  let language := (← get).scope.language
  try
    modifyScope fun scope => scope.withOption false "xtrace"
    expandText scripts fuel (piecesOfDocument language front.toList)
  finally
    modifyScope fun scope => { scope with options }

def showCommand (front : Run String) (channel : Channel) (values : List (String × String))
    (words : List String) : Run Unit := do
  let scope := (← get).scope
  if scope.isOn "xtrace" then
    let front ← front
    match scope.language with
    | .plain =>
      let texts := values.map (fun (name, value) => name ++ "=" ++ value) ++ words
      write channel (bytes (front ++ " ".intercalate texts ++ "\n"))
    | .extended =>
      let values := values.map fun (name, value) => name ++ "=" ++ Quotation.ifNeeded value
      let commands := values ++
        if words.isEmpty then [] else [" ".intercalate (words.map Quotation.ifNeeded)]
      write channel (bytes (String.join (commands.map fun text => front ++ text ++ "\n")))

/-- Says that the shell cannot run a program. `front` stands in front of the message. -/
def refuseProgram (front name : String) (error : FileError) : Run Unit := do
  let scope := (← get).scope
  match scope.language with
  | .plain =>
    if name.isEmpty then
      refuse (if front.isEmpty then 127 else 126)
        (front ++ ": " ++ FileError.permissionDenied.reason)
    else
      let isPath := !front.isEmpty || name.toList.contains '/'
      refuse (if isPath then statusOf error else 127)
        (front ++ name ++ ": " ++ targetReason "not found" error)
  | .extended =>
    let isPath := name.toList.contains '/'
    let isDirectory := (← get).disk.isDirectory name
    let reason :=
      if isPath then if isDirectory then FileError.isDirectory.reason else error.reason
      else if error = .permissionDenied then error.reason
      else if front.isEmpty then "command not found"
      else "not found"
    refuse (statusOf error) (front ++ name ++ ": " ++ reason)

def aliasesInUse (scope : Scope) : List (String × String) :=
  if scope.language = .plain || scope.isOn "expand_aliases" then scope.aliases else []

/-- Says what is wrong with a script. `lines` are those of the script from its first one on. -/
def refuseScript (firstLine : Nat) (script : List Char) (mistake : Mistake) : Run Unit := do
  let scope := (← get).scope
  match scope.language with
  | .plain => failAt mistake.line 2 ("Syntax error: " ++ mistake.texts.headD "")
  | .extended =>
    let front := ": ".intercalate
      ([scope.source.getD scope.name] ++ scope.runner.toList ++ ["line " ++ toString mistake.line])
    let line := ((Text.split '\n' script)[mistake.line - firstLine]?).getD []
    let shown := if mistake.showsLine then ["\x60" ++ String.ofList line ++ "'"] else []
    for text in mistake.texts ++ shown do
      write (scope.channel 2) (bytes (front ++ ": " ++ text ++ "\n"))
    setStatus mistake.status

def runAll (run : Command → Run Unit) : List Command → Run Unit
  | [] => return ()
  | [command] => run command
  | command :: commands => do
    beforeMore (run command)
    runAll run commands

/-- Runs the lines of a script, up to a mistake. In the extended language a line may be given up. It
is fuelled by the number of lines. -/
def runLines (run : Command → Run Unit) : Nat → Source → Run (Option Mistake)
  | 0, _ => throw .endless
  | fuel + 1, source => do
    let runLine (commands : List Command) : Run Unit :=
      tryCatch (runAll run commands) fun
        | .mistake => do
          let isSubshell := (← get).scope.outerTraps.isSome
          if source.language = .plain || isSubshell then throw .mistake
        | interruption => throw interruption
    match readNext { source with aliases := aliasesInUse (← get).scope } with
    | .error mistake => return some mistake
    | .ok (commands, rest) =>
      let isLast := rest.tokens.all fun token => token.kind matches .operator "\n"
      if isLast then runLine commands else beforeMore (runLine commands)
      if rest.tokens.isEmpty then return none else runLines run fuel rest

def rememberAhead (command : Command) : Run Unit := do
  match command with
  | .simple _ _ (word :: _) _ =>
    (plainText? word).forM fun name => do
      let scope := (← get).scope
      let isProgram := !(Builtin.isNamed scope.language name || Builtin.isFunction scope name)
      if isProgram && (← Builtin.programPath? name).isSome then Builtin.remember name
  | _ => return ()

/-- The path of a script that the shell is to run itself. A name without a slash is looked for in
the directories of the search path. -/
def scriptPath? (name : String) : Run (Option String) := do
  if name.toList.contains '/' then return some name
  else
    let disk := (← get).disk
    let searchPath := (← lookup? "PATH").getD ""
    let paths := (Text.split ':' searchPath.toList).map fun directory =>
      Path.join (String.ofList directory) name
    return paths.find? fun path => disk.contains path && !disk.isDirectory path

/-- Opens a script, or ends the shell if that is not possible. There is nothing in a directory. -/
def openScript (front path : String) : Run (List UInt8) := do
  let state ← get
  match inputOf state.disk path, state.scope.language with
  | .ok input, _ => return input.content
  | .error error, .plain =>
    fail 2 (front ++ "cannot open " ++ path ++ ": " ++ targetReason "No such file" error)
  | .error error, .extended =>
    if front.isEmpty then
      write (state.scope.channel 2)
        (bytes (state.scope.startName ++ ": " ++ path ++ ": " ++ error.reason ++ "\n"))
      setStatus 127
      throw .exit
    else stop (path ++ ": " ++ error.reason)

def pathUtilities : List String :=
  ["[", "chmod", "echo", "find", "ls", "mkfifo", "mv", "printf", "rm", "stat", "tee", "test",
    "touch", "unlink"]

/-! ## Pipes in words -/

def pipeDirectory : Location := ["dev", "fd"]

def nextPipe : Run (Location × String) := do
  let disk := (← get).disk
  let number := 63 - (disk.namesIn pipeDirectory).length
  return (pipeDirectory ++ [toString number], "/dev/fd/" ++ toString number)

/-- Does something, and then removes the pipes that were made for it. What was written to them is
read by the scripts that wait for it. -/
def withPipes (run : List UInt8 → List Char → Run Unit) (act : Run Unit) : Run Unit := do
  let before := (← get).disk.namesIn pipeDirectory
  let waiting := (← get).readers
  try
    act
  finally
    let status := (← get).scope.status
    let state ← get
    let added := state.readers.drop waiting.length
    modify fun state => { state with readers := waiting }
    for (location, script) in added do
      match (← get).disk.node? location with
      | some (.file content) => run content.toList script
      | _ => pure ()
    setStatus status
    modify fun state =>
      let isNew (name : String) : Bool := !before.contains name
      let names := (state.disk.namesIn pipeDirectory).filter isNew
      let disk := names.foldl (fun disk name => disk.remove (pipeDirectory ++ [name])) state.disk
      { state with disk := if before.isEmpty then disk.remove pipeDirectory else disk }

/-! ## Lists in words -/

def givenElements (scripts : Scripts) (fuel : Nat) (token : Token) : Run (List GivenElement) := do
  let keyed? := match token.text with
    | '[' :: text =>
      match readSubscript? (text.length + 1) 0 text with
      | some (subscript, '=' :: rest) => some (subscript, false, rest)
      | some (subscript, '+' :: '=' :: rest) => some (subscript, true, rest)
      | _ => none
    | _ => none
  match keyed?, token.kind with
  | some (subscript, adds, rest), _ =>
    let key ← expandText scripts fuel (piecesOf .extended false subscript)
    let value ← expandValue scripts fuel (piecesOf .extended false rest)
    return [⟨some key, adds, value⟩]
  | none, .word pieces =>
    return (← expandWord scripts fuel pieces).map fun value => ⟨none, false, value⟩
  | none, _ => return []

def elementsIn (scripts : Scripts) (fuel : Nat) (text : List Char) : Run (List GivenElement) := do
  let tokens := (tokensOf .extended 1 text).tokens
  return (← tokens.mapM (givenElements scripts fuel)).flatten

/-! ## Assignments -/

/-- Gives a value or a list to a name. Tells the name and the value for messages. -/
def assignOne (scripts : Scripts) (fuel : Nat) (assignment : Assignment) :
    Run (String × String) := do
  let { name, subscript, adds, value } := assignment
  match (← get).scope.language, subscript, value with
  | .plain, _, _ =>
    let text ← expandValue scripts fuel value
    assign name text
    return (name, text)
  | .extended, none, [.list text] =>
    let elements ← elementsIn scripts fuel text
    giveList { name, adds, elements }
    return (name ++ (if adds then "+" else ""), "(" ++ String.ofList text ++ ")")
  | .extended, none, _ =>
    let text ← expandValue scripts fuel value
    give { name } adds text
    return (name ++ (if adds then "+" else ""), text)
  | .extended, some subscript, _ =>
    let key ← expandText scripts fuel (piecesOf .extended false subscript)
    let text ← expandValue scripts fuel value
    if key.isEmpty then stop (name ++ "[" ++ String.ofList subscript ++ "]: bad array subscript")
    give (← elementAt name key) adds text
    return (name ++ "[" ++ key ++ "]" ++ (if adds then "+" else ""), text)

def valuesForATime (scripts : Scripts) (fuel : Nat) (assignments : List Assignment) :
    List (String × Run String) :=
  assignments.map fun assignment =>
    (assignment.name, do
      let text ← expandValue scripts fuel assignment.value
      if assignment.adds then return ((← lookup? assignment.name).getD "") ++ text else return text)

/-! ## Words of commands -/

def givesValues (language : Language) : List String → Bool
  | "command" :: words => givesValues language words
  | "builtin" :: words => language = .extended && givesValues language words
  | name :: _ =>
    ["alias", "export", "local", "readonly"].contains name ||
      language = .extended && ["declare", "typeset"].contains name
  | [] => false

def expandGiving (scripts : Scripts) (fuel : Nat) (assignment : Assignment) :
    Run (List String) := do
  let sign := if assignment.adds then "+=" else "="
  match assignment.value, assignment.subscript with
  | [.list text], none =>
    let elements ← elementsIn scripts fuel text
    let list : GivenList := { name := assignment.name, adds := assignment.adds, elements }
    modifyScope fun scope => { scope with given := scope.given ++ [list] }
    return [assignment.name]
  | value, subscript =>
    let text ← expandValue scripts fuel value
    let key ← match subscript with
      | some subscript => do
        let key ← expandText scripts fuel (piecesOf .extended false subscript)
        pure ("[" ++ key ++ "]")
      | none => pure ""
    return [assignment.name ++ key ++ sign ++ text]

/-- The words of a command after those that are known. Values that it gives to names are not cut. -/
def expandCommand (scripts : Scripts) (fuel : Nat) (known : List String) :
    List Word → Run (List String)
  | [] => return known
  | word :: words => do
    let gives := givesValues (← get).scope.language known
    let following ← match if gives then assignment? word else none with
      | some assignment => expandGiving scripts fuel assignment
      | none => expandWord scripts fuel word
    expandCommand scripts fuel (known ++ following) words

/-! ## Running -/

/-- The file that a script reads which has nothing but a redirection of its input. -/
def onlyInput? : List Command → Option Word
  | [.simple _ [] [] [⟨0, .input path⟩]] => some path
  | _ => none

/-- Does something that fails, instead of ending the line, if there is a mistake in it. -/
def orFailure (act : Run Unit) : Run Unit :=
  tryCatch act fun
    | .mistake => setStatus 1
    | interruption => throw interruption

def refuseLoopName (name : String) : Run Unit :=
  refuse 1 ("\x60" ++ name ++ "': not a valid identifier")

mutual

/-- Runs the commands of a script after which the shell has more to do, up to a mistake. Its lines
are counted from a number on. -/
def runText (fuel : Nat) (firstLine : Nat) (script : String) : Run Unit :=
  match fuel with
  | 0 => throw .endless
  | fuel + 1 => beforeMore (runLastText fuel firstLine script)

def runLastText (fuel : Nat) (firstLine : Nat) (script : String) : Run Unit :=
  match fuel with
  | 0 => throw .endless
  | fuel + 1 => do
    let source := sourceOf (← get).scope.language firstLine script.toList
    let mistake ← runLines (fun command => runCommand fuel command) stepLimit source
    mistake.forM (refuseScript firstLine script.toList)

def runSubshell (fuel : Nat) (commands : Run Unit) : Run Unit :=
  match fuel with
  | 0 => throw .endless
  | fuel + 1 =>
    subshell (fun action => runText fuel 1 action)
      (finishBackground fun command => runSubshell fuel (runCommand fuel command)) commands

def outputOf (fuel : Nat) (script : List Char) : Run String :=
  match fuel with
  | 0 => throw .endless
  | fuel + 1 => do
    let scope := (← get).scope
    let source := plainSource scope.language scope.line script
    let commands : Run Unit := do
      let keepsGoing := scope.language = .extended && !scope.isOn "inherit_errexit"
      if keepsGoing then modifyScope fun scope => scope.withOption false "errexit"
      match readWhole { source with aliases := aliasesInUse scope } with
      | .ok commands =>
        match scope.language, onlyInput? commands with
        | .extended, some path =>
          let path ← expandText (scriptsOf fuel) fuel path
          match inputOf (← get).disk path with
          | .ok input =>
            write ((← get).scope.channel 1) input.content
            setStatus 0
          | .error error => refuse 1 (path ++ ": " ++ error.reason)
        | _, _ => runAll (fun command => runCommand fuel command) commands
      | .error mistake =>
        withRunner (some "command substitution") (refuseScript scope.line script mistake)
    captureText do
      (← signalOf (runSubshell fuel commands)).forM fun number => do
        setStatus (128 + number)
        if scope.language = .plain then tellSignal number

def pipeOf (fuel : Nat) (script : List Char) (isRead : Bool) : Run String :=
  match fuel with
  | 0 => throw .endless
  | fuel + 1 => do
    if isRead then
      let (content, _) ← capture (runScript fuel script)
      let (location, path) ← nextPipe
      modify fun state =>
        let disk := state.disk.put pipeDirectory .directory
        { state with disk := disk.put location (.file ⟨content.toArray⟩) }
      return path
    else
      let (location, path) ← nextPipe
      modify fun state =>
        let disk := state.disk.put pipeDirectory .directory
        { state with
          disk := disk.put location (.file .empty)
          readers := state.readers ++ [(location, script)] }
      return path

def runScript (fuel : Nat) (script : List Char) : Run Unit :=
  match fuel with
  | 0 => throw .endless
  | fuel + 1 => do
    let line := (← get).scope.line
    inNewProcess (runSubshell fuel (runText fuel line (String.ofList script)))

def scriptsOf (fuel : Nat) : Scripts :=
  match fuel with
  | 0 => { output := fun _ => throw .endless, pipe := fun _ _ => throw .endless }
  | fuel + 1 =>
    { output := fun script => outputOf fuel script
      pipe := fun script isRead => pipeOf fuel script isRead }

def prepare (fuel : Nat) (path : String) : Run Unit :=
  match fuel with
  | 0 => throw .endless
  | fuel + 1 => awaitWriter (fun command => runSubshell fuel (runCommand fuel command)) path

/-- Ends the script after a failure if that is wanted, and runs what is to be run after failures. -/
def afterFailure (fuel : Nat) : Run Unit :=
  match fuel with
  | 0 => throw .endless
  | fuel + 1 => do
    let scope := (← get).scope
    if scope.language = .extended && scope.status ≠ 0 && !scope.isTested &&
        (scope.hidden.isNone || scope.isOn "errtrace") then
      match scope.traps.find? fun entry => entry.1 == "ERR" with
      | some (_, action) =>
        let traps := scope.traps
        modifyScope fun scope =>
          { scope with traps := traps.filter fun entry => entry.1 != "ERR" }
        runText fuel scope.line action
        modifyScope fun after => { after with status := scope.status, traps }
      | none => pure ()
    checkFailure

def runCommand (fuel : Nat) (command : Command) : Run Unit :=
  match fuel with
  | 0 => throw .endless
  | fuel + 1 => do
    let scripts := scriptsOf fuel
    if (← get).scope.isOn "noexec" then return ()
    match command with
    | .simple line assignments words redirections =>
      countStep
      modifyScope fun scope => { scope with line }
      let act := withPipes (readPipe fuel) (runSimple fuel assignments words redirections)
      match (← get).scope.language with
      | .plain => act
      | .extended =>
        let canBeLast := redirections.isEmpty || (← get).scope.nesting ≠ 0
        inSomeProcess (if canBeLast then act else beforeMore act)
      modifyScope fun scope => { scope with statuses := [scope.status] }
      afterFailure fuel
    | .redirected line command redirections =>
      modifyScope fun scope => { scope with line }
      let redirecting (act : Run Unit) : Run Unit := do
        let _ ← withRedirections (expandText scripts fuel) (prepare fuel) redirections act
      withPipes (readPipe fuel) <|
        match command with
        | .subshell command =>
          inSomeProcess (redirecting (runSubshell fuel (runCommand fuel command)))
        | command => beforeMore (redirecting (runCommand fuel command))
      afterFailure fuel
    | .pipeline commands =>
      commands.forM rememberAhead
      let statuses ← runPiped <| commands.map fun command =>
        inNewProcess (runSubshell fuel (runCommand fuel command))
      noteStatuses statuses
      afterFailure fuel
    | .negation command =>
      let succeeded ← succeeds (runCommand fuel command)
      setStatus (if succeeded then 1 else 0)
    | .both first second =>
      if ← succeeds (runCommand fuel first) then runCommand fuel second
    | .either first second =>
      if !(← succeeds (runCommand fuel first)) then runCommand fuel second
    | .sequence commands => runAll (fun command => runCommand fuel command) commands
    | .background command => startBackground command
    | .subshell command =>
      inSomeProcess (runSubshell fuel (runCommand fuel command))
      modifyScope fun scope => { scope with statuses := [scope.status] }
      afterFailure fuel
    | .choice condition body otherwise =>
      if ← succeeds (runCommand fuel condition) then inBranch (runCommand fuel body)
      else
        match otherwise with
        | some otherwise => inBranch (runCommand fuel otherwise)
        | none => setStatus 0
    | .loop isUntil condition body =>
      inLoop <| beforeMore <|
        loopWhile isUntil (runCommand fuel condition) (runCommand fuel body) stepLimit 0
    | .expression line text =>
      countStep
      modifyScope fun scope => { scope with line }
      orFailure do
        let value ← valueOf fuel text
        setStatus (if value = 0 then 1 else 0)
      modifyScope fun scope => { scope with statuses := [scope.status] }
      afterFailure fuel
    | .condition line condition =>
      countStep
      modifyScope fun scope => { scope with line }
      orFailure do setStatus (← conditionStatus scripts fuel condition)
      modifyScope fun scope => { scope with statuses := [scope.status] }
      afterFailure fuel
    | .countedLoop line first condition step body =>
      modifyScope fun scope => { scope with line }
      orFailure do
        let _ ← valueOf fuel first
        setStatus 0
        let value : Run Int :=
          if condition.all fun character => character == ' ' then return 1
          else valueOf fuel condition
        inLoop <| beforeMore <|
          loopCounted value (runCommand fuel body) (do let _ ← valueOf fuel step) stepLimit
    | .forEach name words body =>
      let words ← match words with
        | some words => expandWords scripts fuel words
        | none => pure (← get).scope.arguments
      if !isName name then refuseLoopName name
      else
        if words.isEmpty then setStatus 0
        inLoop (beforeMore (loopOver name (runCommand fuel body) words))
    | .select subject branches =>
      let text ← expandText scripts fuel subject
      let scope := (← get).scope
      let ignoresCase := scope.isOn "nocasematch"
      let letters := Pattern.letters scope.manner text.toList
      let accepts (word : Word) : Run Bool := do
        let pattern ← expandPattern scripts fuel word
        return Pattern.acceptsFolded ignoresCase pattern letters
      inBranch (runBranches accepts (fun command => runCommand fuel command) false false branches)
    | .function name body =>
      modifyScope fun scope =>
        let start := if scope.startLetter = some 'c' then "environment" else scope.name
        let origin := scope.source.getD start
        { scope with
          functions := (name, body) :: scope.functions.filter fun entry => entry.1 != name
          origins := (name, origin) :: scope.origins.filter fun entry => entry.1 != name }
      setStatus 0

def valueOf (fuel : Nat) (text : List Char) : Run Int :=
  match fuel with
  | 0 => throw .endless
  | fuel + 1 => do
    let expression ← expandText (scriptsOf fuel) fuel (piecesOf .extended true text)
    evaluate "((: " expression

def readPipe (fuel : Nat) (content : List UInt8) (script : List Char) : Run Unit :=
  match fuel with
  | 0 => throw .endless
  | fuel + 1 => withInput { content } (runScript fuel script)

/-- Runs a simple command: gives values to names, and runs what its words stand for. -/
def runSimple (fuel : Nat) (assignments : List Assignment) (words : List Word)
    (redirections : List Redirection) : Run Unit :=
  match fuel with
  | 0 => throw .endless
  | fuel + 1 => do
    let scripts := scriptsOf fuel
    let text := expandText scripts fuel
    let expanded ← expandCommand scripts fuel [] words
    let scope := (← get).scope
    let messages := scope.channel 2
    let showWith (values : List (String × String)) : Run Unit :=
      showCommand (traceFront scripts fuel) messages values expanded
    match expanded with
    | [] =>
      let _ ← withRedirections text (prepare fuel) redirections do
        showWith (← assignments.mapM (assignOne scripts fuel))
        if !(assignments.map Assignment.value ++ words).any hasOutput then setStatus 0
    | ["exec"] =>
      if ← redirectAll text (prepare fuel) redirections then
        showWith (← assignments.mapM (assignOne scripts fuel))
        setStatus 0
      else throw (if scope.language = .plain then .mistake else .exit)
    | name :: arguments =>
      let isSpecial := specialNames.contains name && scope.language = .plain
      let isPossible ← withRedirections text (prepare fuel) redirections do
        if isSpecial && name ≠ "exec" then
          showWith (← assignments.mapM (assignOne scripts fuel))
          runWords fuel name arguments
        else
          withAssignments (valuesForATime scripts fuel assignments) fun values => do
            showWith values
            runWords fuel name arguments
      if isSpecial && !isPossible then throw .mistake
    modifyScope fun scope => { scope with given := [] }

def runWords (fuel : Nat) (name : String) (arguments : List String) : Run Unit :=
  match fuel with
  | 0 => throw .endless
  | fuel + 1 => do
    let scope := (← get).scope
    let isSpecial := specialNames.contains name && scope.language = .plain
    let function := scope.functions.find? fun entry => entry.1 == name && !isSpecial
    match function with
    | some (_, body) => inFunction name arguments (beforeMore (runCommand fuel body))
    | none => runOwn fuel name arguments

def runOwn (fuel : Nat) (name : String) (arguments : List String) : Run Unit :=
  match fuel with
  | 0 => throw .endless
  | fuel + 1 => do
    let language := (← get).scope.language
    match name, arguments with
    | "eval", words =>
      setStatus 0
      let line := (← get).scope.line
      let firstLine := if language = .plain then 1 else line
      withRunner (some "eval") (runText fuel firstLine (" ".intercalate words))
    | ".", words => runScriptFile fuel "." words
    | "exec", name :: words =>
      modifyScope fun scope =>
        { scope with traps := scope.traps.filter fun entry => entry.2.isEmpty, isLast := true }
      runProgram fuel (refuseProgram "exec: " name) name words
      throw .exit
    | "command", words => Builtin.goingOn (runAsCommand fuel words)
    | "kill", words =>
      let runTrap := fun action => runText fuel 1 action
      match language with
      | .plain => Builtin.goingOn (withRunner none (Builtin.kill runTrap words))
      | .extended => Builtin.goingOn (Builtin.extendedKill runTrap words)
    | "wait", words =>
      Builtin.goingOn
        (waitFor (fun command => runSubshell fuel (runCommand fuel command)) words)
    | name, words =>
      match language, name, words with
      | .extended, "source", words => runScriptFile fuel "source" words
      | .extended, "builtin", name :: words =>
        if Builtin.isNamed .extended name then runOwn fuel name words
        else refuse 1 ("builtin: " ++ name ++ ": not a shell builtin")
      | .extended, "builtin", [] => setStatus 0
      | language, name, words =>
        match Builtin.named? language name with
        | some builtin =>
          if language = .extended then builtin words else withRunner none (builtin words)
        | none =>
          if (← Builtin.programPath? name).isSome then Builtin.remember name
          let program := runProgram fuel (refuseProgram "" name) name words
          if language = .plain then inSomeProcess program else program

def runScriptFile (fuel : Nat) (command : String) (words : List String) : Run Unit :=
  match fuel with
  | 0 => throw .endless
  | fuel + 1 => do
    let before := (← get).scope
    setStatus 0
    match ← withRunner none (Builtin.plainWords "." words) with
    | [] =>
      if before.language = .extended then
        complain (command ++ ": filename argument required")
        Builtin.showUsage command
    | name :: arguments =>
      let path? ← scriptPath? name
      let path? := if before.language = .extended then some (path?.getD name) else path?
      Builtin.goingOnIf (before.language = .extended) do
        let content ← withRunner none do
          match path? with
          | some path => openScript ".: " path
          | none => fail 2 (".: " ++ name ++ ": not found")
        if before.language = .extended then
          let path := path?.getD name
          let arguments := if arguments.isEmpty then before.arguments else arguments
          modifyScope fun scope => { scope with source := some path, arguments }
        withRunner (some (path?.getD name)) <|
          tryCatch (runText fuel 1 (String.ofList (Text.lettersOf content))) fun
            | .returns => return ()
            | interruption => throw interruption
      if before.language = .extended then
        modifyScope fun scope =>
          { scope with
            source := before.source
            arguments := if arguments.isEmpty then scope.arguments else before.arguments }

def runAsCommand (fuel : Nat) (words : List String) : Run Unit :=
  match fuel with
  | 0 => throw .endless
  | fuel + 1 => do
    let language := (← get).scope.language
    let read? ← match language with
      | .plain => do pure (some (← withRunner none (Builtin.readOptions "command" "pvV" "" words)))
      | .extended => Builtin.extendedOptions? "command" "pvV" "" words
    match read?, language with
    | none, _ => return ()
    | some (_, []), _ => setStatus 0
    | some (options, name :: words), .plain =>
      if Builtin.hasOption options 'V' then Builtin.type [name]
      else if Builtin.hasOption options 'v' then Builtin.tell name
      else runOwn fuel name words
    | some (options, name :: words), .extended =>
      if Builtin.hasOption options 'V' then
        setStatus 0
        if !(← Builtin.describeExtended name) then refuse 1 ("command: " ++ name ++ ": not found")
      else if Builtin.hasOption options 'v' then
        setStatus 0
        (name :: words).forM Builtin.tellExtended
      else runOwn fuel name words

def runProgram (fuel : Nat) (refusal : FileError → Run Unit) (name : String)
    (arguments : List String) : Run Unit :=
  match fuel with
  | 0 => throw .endless
  | fuel + 1 => do
    let disk := (← get).disk
    let searchPath := (← lookup? "PATH").getD ""
    let found := do
      let path ← System.locateProgram disk searchPath name
      return (path, ← System.executableAt disk path)
    match found with
    | .error error => refusal error
    | .ok (path, .script content) =>
      match System.interpreter? content with
      | none =>
        let language := (← get).scope.language
        runShell fuel language path (path :: arguments)
      | some (interpreter, word) =>
        match System.executableAt disk interpreter with
        | .error error => refusal error
        | .ok _ =>
          let name := if interpreter.toList.contains '/' then interpreter else "./" ++ interpreter
          runProgram fuel refusal name (word.toList ++ path :: arguments)
    | .ok (_, .program program) =>
      if System.shellNames.contains program then
        runShell fuel (languageOf program) name arguments
      else
        match Utility.named? program with
        | some utility =>
          if !(pathUtilities.contains program) then
            arguments.forM (prepare fuel)
          runUtility program name utility arguments
        | none =>
          match Launcher.named? program with
          | some launcher =>
            launcher name (fun refusal name words => runProgram fuel refusal name words) arguments
          | none => return ()

def runShell (fuel : Nat) (language : Language) (name : String) (words : List String) : Run Unit :=
  match fuel with
  | 0 => throw .endless
  | fuel + 1 =>
    inNewShell language name <| toEnd (fun action => runText fuel 1 action)
      (finishBackground fun command => runSubshell fuel (runCommand fuel command)) do
      match Call.ofWords language words with
      | .error text => refuseCall name text
      | .ok call =>
        modifyScope fun scope =>
          call.options.foldl (fun scope (holds, option) => scope.withOption holds option)
            { scope with name := call.name.getD scope.name, arguments := call.arguments }
        if (← get).scope.isOn "interactive" then
          modifyScope fun scope => scope.withOption true "monitor"
        match call.source with
        | .text script =>
          refuseMonitor ""
          modifyScope fun scope => { scope with startLetter := some 'c' }
          match language with
          | .plain => withRunner none (runText fuel 1 script)
          | .extended =>
            modifyScope fun scope => { scope with isLast := true }
            withRunner (some "-c") (runLastText fuel 1 script)
        | .input =>
          refuseMonitor ""
          let state ← get
          if state.input.isEndless then throw .endless
          modify fun state => state.withInput {}
          modifyScope fun scope => { scope with startLetter := some 's' }
          runText fuel 1 (String.ofList (Text.lettersOf state.input.content))
        | .file path =>
          modifyScope fun scope => { scope with name }
          let content ← openScript "" path
          modifyScope fun scope => { scope with name := call.name.getD name }
          refuseMonitor ""
          runText fuel 1 (String.ofList (Text.lettersOf content))

end

end Run

def limit : Nat := 10000

def environment (disk : Disk) : List (String × String) :=
  [("HOME", "/root"), ("PATH", System.searchPath),
    ("PWD", Path.ofElements true disk.workingDirectory)]

def State.start (disk : Disk) (name : String) : State where
  scope :=
    { name
      arguments := []
      values := environment disk
      exported := (environment disk).map Prod.fst }
  disk

def execute (disk : Disk) (executable : System.Executable) (name : String)
    (arguments : List String) : Outcome :=
  let isShell := match executable with
    | .program program => System.shellNames.contains program
    | .script _ => false
  let language := match executable with
    | .program program => Run.languageOf program
    | .script _ => .plain
  let run :=
    if isShell then Run.runShell limit language name arguments
    else Run.runProgram limit (fun _ => return ()) name arguments
  let (result, state) := run.run (State.start disk name)
  { written :=
      #[(.output, (state.buffers[0]?.getD #[]).toList),
        (.messages, (state.buffers[1]?.getD #[]).toList)]
    ending :=
      match result with
      | .error (.signal number) | .error (.killed number) => .killed number
      | _ => .exited (state.scope.status % 256)
    elapsed :=
      match result with
      | .error .endless => forever
      | _ => state.elapsed }

end SymbolCache.Program.Shell
