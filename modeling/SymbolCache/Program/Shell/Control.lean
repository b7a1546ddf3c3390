import SymbolCache.Program.Permission
import SymbolCache.Program.Shell.Builtin
import SymbolCache.Program.Shell.Expansion

/-!
# How commands run together

Ways to run commands that are given as actions: with other streams, with values for a time, one
after the other, over and over again, through pipes and in the background.
-/

set_option autoImplicit false

namespace SymbolCache.Program.Shell

namespace Run

/-! ## Redirections -/

def targetReason (missing : String) : FileError → String
  | .notFound | .notDirectory => missing
  | error => error.reason

def inputOf (disk : Disk) (path : String) : Except FileError Input :=
  match (Utility.readFile path).run { disk } with
  | (.ok reading, _) =>
    .ok { content := reading.content, isEndless := reading.elapsed = forever }
  | (.error .isDirectory, _) => .ok {}
  | (.error error, _) => .error error

def emptyPipe (path : String) (state : State) : State :=
  match state.disk.locate path with
  | .ok location =>
    if Permission.isPipeAt state.disk location then
      { state with disk := state.disk.put location (.file .empty) }
    else state
  | .error _ => state

def openFile (scope : Scope) (disk : Disk) (path : String) (opening : Opening) :
    Except FileError (Channel × Disk) := do
  let location ← disk.locate path
  if location = Utility.nothing || location = Utility.zeroes then return (.nowhere, disk)
  else if location = ["dev", "stdout"] then return (scope.channel 1, disk)
  else if location = ["dev", "stderr"] then return (scope.channel 2, disk)
  else
    let isThere := disk.contains path && !disk.isDirectory path
    if Permission.isPipeAt disk location then return (.file location, disk)
    match opening with
    | .extend => if isThere then return (.file location, disk)
    | .replace => if isThere && scope.isOn "noclobber" then throw .alreadyExists
    | .replaceAlways => pure ()
    return (.file location, Permission.settle scope.mask disk (← disk.createFile path))

def extendedReason : FileError → String
  | .alreadyExists => "cannot overwrite existing file"
  | error => error.reason

/-- Says that a file that a redirection names cannot be used. Tells that this is not possible. -/
def refuseFile (action path missing : String) (error : FileError) : Run Bool := do
  match (← get).scope.language with
  | .plain => refuse 2 (action ++ " " ++ path ++ ": " ++ targetReason missing error)
  | .extended => refuse 1 (path ++ ": " ++ extendedReason error)
  return false

/-- Sends a stream to where another one leads that a word names. Tells whether that is possible. -/
def redirectToStream (number : Nat) (word : String) : Run Bool := do
  let scope := (← get).scope
  match scope.language, word.toList with
  | _, ['-'] =>
    modifyScope fun scope => scope.withStream number none
    return true
  | language, digits =>
    let isNumber := !digits.isEmpty && digits.all Text.isAsciiDigit
    match language, isNumber && (language = .extended || digits.length = 1) with
    | .plain, false => failAt 1 2 "Syntax error: Bad fd number"
    | .extended, false =>
      refuse 1 (word ++ ": ambiguous redirect")
      return false
    | language, true =>
      match scope.channel? (Text.digitsValue 0 digits) with
      | some channel =>
        modifyScope fun scope => scope.withStream number (some channel)
        return true
      | none =>
        refuse (if language = .plain then 2 else 1) (word ++ ": Bad file descriptor")
        return false

/-- Sends a stream to where a redirection tells. Tells whether that is possible. `prepare` is done
before a file is read. -/
def redirect (text : Word → Run String) (prepare : String → Run Unit)
    (redirection : Redirection) : Run Bool := do
  let number := redirection.source
  match redirection.target with
  | .stream word => redirectToStream number (← text word)
  | .document word =>
    let content ← text word
    modify fun state => state.opening number { content := bytes content }
    return true
  | .line word =>
    let content ← text word
    modify fun state => state.opening number { content := bytes (content ++ "\n") }
    return true
  | .input path =>
    let path ← text path
    prepare path
    match inputOf (← get).disk path with
    | .ok input =>
      modify fun state => (emptyPipe path state).opening number input
      return true
    | .error error => refuseFile "cannot open" path "No such file" error
  | .file path opening =>
    let path ← text path
    let state ← get
    let isAwaited := state.hasReader || !(state.background ++ state.outer).isEmpty
    if Permission.isPipe state.disk path && !isAwaited then throw .endless
    match openFile state.scope state.disk path opening with
    | .ok (channel, disk) =>
      modify fun state => { state with disk, scope := state.scope.withStream number (some channel) }
      return true
    | .error error => refuseFile "cannot create" path "Directory nonexistent" error

def redirectAll (text : Word → Run String) (prepare : String → Run Unit) :
    List Redirection → Run Bool
  | [] => return true
  | redirection :: redirections => do
    if ← redirect text prepare redirection then redirectAll text prepare redirections
    else return false

/-- Does something while the streams go to where redirections tell. Tells whether they can. -/
def withRedirections (text : Word → Run String) (prepare : String → Run Unit)
    (redirections : List Redirection) (act : Run Unit) : Run Bool := do
  if redirections.isEmpty then
    act
    return true
  else
    let streams := (← get).scope.streams
    try
      let isPossible ← redirectAll text prepare redirections
      if isPossible then act
      return isPossible
    finally
      modifyScope fun scope => { scope with streams }

/-! ## Values for a time -/

def assignAll (assignments : List (String × Run String)) : Run (List (String × String)) :=
  assignments.mapM fun (name, value) => do
    let value ← value
    let isExtended := (← get).scope.language = .extended
    tryCatch (assign name value) fun interruption => do
      if !(isExtended && interruption = .mistake) then throw interruption
    return (name, value)

/-- Does something while names have other values, which other programs get. It is told the
values. -/
def withAssignments (assignments : List (String × Run String))
    (act : List (String × String) → Run Unit) : Run Unit := do
  let exported := (← get).scope.exported
  let before ← assignments.mapM fun (name, _) => do return (name, ← lookup? name)
  try
    let values ← assignAll assignments
    modifyScope fun scope => { scope with exported := assignments.map Prod.fst ++ scope.exported }
    act values
  finally
    for (name, value) in before do
      setValue name value
    modifyScope fun scope =>
      let isAssigned (name : String) : Bool := assignments.any fun entry => entry.1 == name
      let added := scope.exported.filter fun name => !isAssigned name && !exported.contains name
      let kept := exported.filter fun name => isAssigned name || scope.exported.contains name
      { scope with exported := added ++ kept }

def depthLimit : Nat := 1000

def uncover (language : Language) (hidden : Hidden) : Run Unit := do
  setValue hidden.name hidden.value
  if language = .extended then
    setElements hidden.name hidden.elements
    setTraits hidden.name hidden.traits
    modifyScope fun scope =>
      let set (holds : Bool) (names : List String) : List String :=
        let others := names.filter (· != hidden.name)
        if holds then hidden.name :: others else others
      { scope with
        fixed := set hidden.isFixed scope.fixed
        exported := set hidden.isExported scope.exported }

def inFunction (name : String) (arguments : List String) (body : Run Unit) : Run Unit := do
  let before := (← get).scope
  if depthLimit ≤ before.depth then
    fail 2 ("Maximum function recursion depth (" ++ toString depthLimit ++ ") reached")
  let origin? := (before.origins.find? fun entry => entry.1 == name).map Prod.snd
  modifyScope fun scope =>
    { scope with
      arguments
      depth := before.depth + 1
      loops := 0
      hidden := some []
      source := origin?.orElse fun () => before.source
      calls := name :: before.calls }
  try
    tryCatch body fun
      | .returns => return ()
      | interruption => throw interruption
  finally
    for hidden in ((← get).scope.hidden.getD []).reverse do
      uncover before.language hidden
    modifyScope fun scope =>
      { scope with
        arguments := before.arguments
        depth := before.depth
        loops := before.loops
        hidden := before.hidden
        source := before.source
        calls := before.calls }

/-! ## Processes -/

def tellSignal (number : Nat) : Run Unit := do
  match (Signal.ofNumber? number).map Signal.effect with
  | some (.ends message) =>
    if !message.isEmpty then write ((← get).scope.channel 2) (bytes (message ++ "\n"))
  | _ => return ()

def signalOf (process : Run Unit) : Run (Option Nat) :=
  tryCatch
    (do
      process
      return none)
    fun
      | .killed number => return some number
      | interruption => throw interruption

/-- Runs a process. If a signal ends it, the shell says so. `isReplaced` tells, by the scope in
which the signal ends the process, whether it has taken the place of the shell, which it then ends
too. -/
def inProcess (isReplaced : Scope → Bool) (process : Run Unit) : Run Unit := do
  let scope := (← get).scope
  (← signalOf process).forM fun number => do
    if isReplaced (← get).scope then throw (.killed number)
    modifyScope fun _ => { scope with status := 128 + number }
    tellSignal number

def inNewProcess (process : Run Unit) : Run Unit :=
  inProcess (fun _ => false) process

/-- Runs a process that takes the place of the shell if that has nothing more to do. -/
def inSomeProcess (process : Run Unit) : Run Unit :=
  inProcess (fun scope => scope.isLast && scope.traps.all fun entry => entry.2.isEmpty) process

def beforeMore (act : Run Unit) : Run Unit := do
  if (← get).scope.isLast then
    modifyScope fun scope => { scope with isLast := false }
    act
    modifyScope fun scope => { scope with isLast := true }
  else act

/-- Runs a part of a command. Only in the plain language that may be the last thing to do. -/
def inBranch (act : Run Unit) : Run Unit := do
  match (← get).scope.language with
  | .plain => act
  | .extended => beforeMore act

/-! ## Conditions and loops -/

/-- How many simple commands a script may run. One that runs more counts as endless. -/
def stepLimit : Nat := 200000

def countStep : Run Unit := do
  if stepLimit ≤ (← get).steps then throw .endless
  else modify fun state => { state with steps := state.steps + 1 }

def succeeds (act : Run Unit) : Run Bool := do
  let isTested := (← get).scope.isTested
  try
    modifyScope fun scope => { scope with isTested := true }
    beforeMore act
  finally
    modifyScope fun scope => { scope with isTested }
  return (← get).scope.status = 0

/-- Ends the script after a failure if that is wanted, unless something is run to see how it
ends. -/
def checkFailure : Run Unit := do
  let scope := (← get).scope
  if scope.isOn "errexit" && scope.status ≠ 0 && !scope.isTested then throw .exit

def loopBody (body : Run Unit) : Run Bool := do
  tryCatch
    (do
      body
      return true)
    fun
      | .breaks levels => if levels ≤ 1 then return false else throw (.breaks (levels - 1))
      | .continues levels => if levels ≤ 1 then return true else throw (.continues (levels - 1))
      | interruption => throw interruption

def inLoop (loop : Run Unit) : Run Unit := do
  let loops := (← get).scope.loops
  try
    modifyScope fun scope => { scope with loops := loops + 1 }
    loop
  finally
    modifyScope fun scope => { scope with loops }

/-- Runs a body as long as a condition succeeds or, with `isUntil`, as long as it fails. `last` is
the status of the last run of the body. It is fuelled. -/
def loopWhile (isUntil : Bool) (condition body : Run Unit) : Nat → Nat → Run Unit
  | 0, _ => throw .endless
  | fuel + 1, last => do
    let goesOn ← loopBody do
      if (← succeeds condition) == isUntil then throw (.breaks 0)
    if !goesOn then setStatus last
    else if ← loopBody body then
      loopWhile isUntil condition body fuel (← get).scope.status

def loopOver (name : String) (body : Run Unit) : List String → Run Unit
  | [] => return ()
  | word :: words => do
    assign name word
    if ← loopBody body then loopOver name body words

/-- Runs the first branch with a pattern for a text, and those that run after it. `falls` tells
whether the next one runs in any case, and `hasRun` whether one has run. -/
def runBranches (accepts : Word → Run Bool) (run : Command → Run Unit) :
    Bool → Bool → List (List Word × Command × BranchEnd) → Run Unit
  | _, hasRun, [] => do if !hasRun then setStatus 0
  | falls, hasRun, (patterns, command, following) :: branches => do
    let isSelected ← if falls then pure true else patterns.anyM accepts
    if isSelected then
      match command with
      | .sequence [] => setStatus 0
      | command => run command
      match following with
      | .leaves => return ()
      | .falls => runBranches accepts run true true branches
      | .searches => runBranches accepts run false true branches
    else runBranches accepts run false hasRun branches

/-- Runs a body as long as the value of an expression is not zero, and another expression after each
run. It is fuelled. -/
def loopCounted (value : Run Int) (body step : Run Unit) : Nat → Run Unit
  | 0 => throw .endless
  | fuel + 1 => do
    if (← value) = 0 then return ()
    else
      countStep
      if ← loopBody body then
        step
        loopCounted value body step fuel

/-! ## Ends of shells -/

/-- Runs a shell up to its end, and then what is to be run there: a trap and the commands in the
background. -/
def toEnd (runTrap : String → Run Unit) (finish : Run Unit) (commands : Run Unit) : Run Unit := do
  let upToEnd (act : Run Unit) : Run Bool :=
    tryCatch
      (do
        act
        return false)
      fun
        | .endless => throw .endless
        | .signal number => throw (.signal number)
        | .killed number => throw (.killed number)
        | .exit | .mistake => return true
        | _ => return false
  let _ ← upToEnd commands
  let scope := (← get).scope
  match scope.traps.find? fun entry => entry.1 == "EXIT" with
  | some (_, action) =>
    modifyScope fun scope =>
      { scope with traps := scope.traps.filter fun entry => entry.1 != "EXIT" }
    if !(← upToEnd (runTrap action)) then setStatus scope.status
  | none => pure ()
  let status := (← get).scope.status
  finish
  setStatus status

def runPending (runTrap : String → Run Unit) : Run Unit := do
  let state ← get
  if state.scope.outerTraps.isNone && !state.pending.isEmpty then
    modify fun state => { state with pending := [] }
    for event in state.pending do
      match state.scope.traps.find? fun entry => entry.1 == event with
      | some (_, action) =>
        let status := (← get).scope.status
        runTrap action
        setStatus status
      | none => pure ()

def withoutBackground (act : Run Unit) : Run Unit := do
  let { background, outer, .. } ← get
  try
    modify fun state => { state with background := [], outer := background ++ outer }
    act
  finally
    modify fun state =>
      let isLeft (process : Background) : Bool :=
        state.outer.any fun other => other.number == process.number
      { state with background := background.filter isLeft, outer := outer.filter isLeft }

def subshell (runTrap : String → Run Unit) (finish : Run Unit) (commands : Run Unit) :
    Run Unit := do
  withoutBackground <| inSubshell do
    modifyScope fun scope =>
      { scope with
        traps := scope.traps.filter fun entry => entry.2.isEmpty
        outerTraps := some (scope.outerTraps.getD scope.traps)
        nesting := scope.nesting + 1
        isLast := true
        loops := 0 }
    toEnd runTrap finish commands
  runPending runTrap

/-! ## Pipelines -/

def withInput {α : Type} (input : Input) (act : Run α) : Run α := do
  let streams := (← get).scope.streams
  try
    modify fun state => state.opening 0 input
    act
  finally
    modifyScope fun scope => { scope with streams }

def withReader {α : Type} (act : Run α) : Run α := do
  let before := (← get).hasReader
  try
    modify fun state => { state with hasReader := true }
    act
  finally
    modify fun state => { state with hasReader := before }

/-- Runs commands at the same time, each with the output of the one before it as its input, and
gives how each one has ended. A command that writes forever ends when the one after it does. -/
def runPiped : List (Run Unit) → Run (List Nat)
  | [] => return []
  | [command] => do
    inSubshell command
    return [(← get).scope.status]
  | command :: commands => do
    let start := (← get).elapsed
    let before := (← get).scope.status
    let (content, interruption) ← withReader (capture command)
    let status := (← get).scope.status
    setStatus before
    let isEndless := interruption = some .endless && !content.isEmpty
    if !isEndless then interruption.forM fun interruption => throw interruption
    let after := (← get).elapsed
    let finish := if isEndless then start else after
    modify fun state => { state with elapsed := start }
    let statuses ← withInput { content, isEndless } (runPiped commands)
    modify fun state =>
      { state with elapsed := ⟨max finish.nanoseconds state.elapsed.nanoseconds⟩ }
    return (if isEndless then 141 else status) :: statuses

def noteStatuses (statuses : List Nat) : Run Unit := do
  modifyScope fun scope =>
    let failed := (statuses.reverse.find? (· ≠ 0)).getD 0
    { scope with
      statuses
      status := if scope.isOn "pipefail" then failed else scope.status }

/-- The output of commands as a text without line feeds at its end, as their words see it. -/
def captureText (commands : Run Unit) : Run String := do
  let (content, interruption) ← capture commands
  interruption.forM fun interruption => throw interruption
  let text := (Text.lettersOf content).filter (· != '\x00')
  return String.ofList (Text.trimEndWhere (· == '\n') text)

/-! ## Commands in the background -/

/-- Whether redirections take both streams away from where the shell writes to. -/
def detaches (redirections : List Redirection) : Bool :=
  [1, 2].all fun number => redirections.any fun redirection => redirection.source == number

def isAttached : Command → Bool
  | .simple _ _ _ redirections | .redirected _ _ redirections => !detaches redirections
  | _ => true

def startBackground (command : Command) : Run Unit := do
  modify fun state =>
    let number := (state.lastNumber.getD processNumber) + 1
    let process : Background :=
      { number, scope := state.scope, command, start := state.elapsed
        isAttached := isAttached command }
    { state with background := state.background ++ [process], lastNumber := some number }
  setStatus 0

/-- Runs a command in the background to its end. Time passes for the shell only with `waits`. -/
def finishOne (run : Command → Run Unit) (waits : Bool) (process : Background) : Run Unit := do
  let before ← get
  modify fun state =>
    { state with
      background := state.background.filter fun other => other.number != process.number
      outer := state.outer.filter fun other => other.number != process.number
      scope := process.scope
      elapsed := process.start }
  let signal? ← tryCatch
    (do
      withInput {} (run process.command)
      return none)
    fun
      | .endless => if waits then throw .endless else return none
      | .killed number => return some number
      | _ => return none
  modify fun state =>
    let last := if waits then state.elapsed.nanoseconds else 0
    let status := (signal?.map (128 + ·)).getD state.scope.status
    let isNew := signal?.isSome && before.elapsed.nanoseconds ≤ state.elapsed.nanoseconds
    { state with
      scope := before.scope
      elapsed := ⟨max before.elapsed.nanoseconds last⟩
      ended := state.ended ++ [(process.number, status)]
      stopped := if isNew then process.number :: state.stopped else state.stopped }

/-- Lets commands in the background write to a pipe with a name before something reads from it, if
nothing has been written yet. -/
def awaitWriter (run : Command → Run Unit) (path : String) : Run Unit := do
  let state ← get
  if Permission.isPipe state.disk path && (state.disk.size? path) == some 0 then
    for process in state.background ++ state.outer do
      let state ← get
      let isLeft := (state.background ++ state.outer).any fun other =>
        other.number == process.number
      if isLeft then withReader (finishOne run true process)

def finishBackground (run : Command → Run Unit) : Run Unit := do
  for process in (← get).background do
    finishOne run process.isAttached process

/-- Says that a signal has ended a process in the background, unless that is known. -/
def tellStopped (number status : Nat) : Run Unit := do
  let state ← get
  if state.stopped.contains number then
    set { state with stopped := state.stopped.filter (· != number) }
    tellSignal (status - 128)

def waitTarget (processes : List Background) (word : String) : Run Nat := do
  if word.startsWith "%" then
    match processes with
    | [process] =>
      if ["%1", "%%", "%+", "%-"].contains word then return process.number
      else fail 2 ("wait: No such job: " ++ word)
    | _ => fail 2 ("wait: No such job: " ++ word)
  else Builtin.number "wait" word

def waitFor (run : Command → Run Unit) (words : List String) : Run Unit := do
  let words ← Builtin.plainWords "wait" words
  let state ← get
  let processes := state.background
  setStatus 0
  if words.isEmpty then
    for process in processes do
      finishOne run true process
    modify fun state => { state with stopped := [] }
  else
    for word in words do
      let number ← waitTarget processes word
      processes.forM fun process => do
        if process.number = number then finishOne run true process
      let ended := (← get).ended.find? fun entry => entry.1 == number
      ended.forM fun (number, status) => tellStopped number status
      if ended.isNone && state.scope.language = .extended then
        complain ("wait: pid " ++ word ++ " is not a child of this shell")
      setStatus ((ended.map Prod.snd).getD 127)

/-! ## Programs -/

/-- Runs a utility that is called by a name. `own` is the name that it has by itself. -/
def runUtility (own name : String) (utility : Utility) (words : List String) : Run Unit := do
  let state ← get
  let (outcome, after) :=
    (utility words).run
      { disk := state.disk
        input := state.input.content
        isEndless := state.input.isEndless
        output :=
          match state.scope.channel? 1 with
          | some (.file location) => some location
          | _ => none
        mask := state.scope.mask }
  modify fun state =>
    let disk := Permission.settle state.scope.mask state.disk after.disk
    { state with disk, stopped := [] }.withInput
      { state.input with content := after.input }
  emit (Utility.calledAs own name outcome)

def ownValues (language : Language) : List (String × String) :=
  let shared := [("IFS", " \t\n"), ("OPTIND", "1"), ("PPID", toString (processNumber - 1)),
    ("PS4", "+ ")]
  shared ++ match language with
    | .plain => [("PS1", "# "), ("PS2", "> ")]
    | .extended =>
      [("BASH", "/usr/bin/bash"), ("BASH_VERSION", "5.2.15(1)-release"), ("EUID", "0"),
        ("HOSTTYPE", "x86_64"), ("MACHTYPE", "x86_64-pc-linux-gnu"), ("OPTERR", "1"),
        ("OSTYPE", "linux-gnu"), ("UID", "0")]

def languageOf (program : String) : Language :=
  if program = "bash" then .extended else .plain

def refuseCall (name text : String) : Run Unit := do
  let scope := (← get).scope
  match scope.language with
  | .plain => fail 2 text
  | .extended =>
    write (scope.channel 2) (bytes (name ++ ": " ++ text ++ "\n"))
    setStatus 2

def asProcess (shell : Run Unit) : Run Unit :=
  tryCatch shell fun
    | .signal number => throw (.killed number)
    | interruption => throw interruption

def inNewShell (language : Language) (name : String) (commands : Run Unit) : Run Unit :=
  withoutBackground <| asProcess <| inSubshell do
    modifyScope fun scope =>
      let values := scope.values.filter fun entry => scope.exported.contains entry.1
      let hasSearchPath := values.any fun entry => entry.1 == "PATH"
      { language
        name
        startName := name
        options := startOptions language
        fixed := if language = .extended then ["EUID", "PPID", "UID"] else []
        arguments := []
        values := ownValues language ++
          (if hasSearchPath then values else ("PATH", System.searchPath) :: values).filter
            fun entry => !(["IFS", "OPTIND", "PPID"].contains entry.1)
        exported := scope.exported
        streams := scope.streams
        ignored := scope.ignored ++ scope.traps.filterMap fun (event, action) =>
          if action.isEmpty then some event else none
        mask := scope.mask
        line := if language = .plain then 0 else 1 }
    commands

end Run

end SymbolCache.Program.Shell
