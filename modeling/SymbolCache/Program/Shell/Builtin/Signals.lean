import SymbolCache.Program.Shell.Builtin.Basic
import SymbolCache.Text.Cut
import SymbolCache.Text.Natural

/-!
# Signals and ends

The signals of a system, and the commands that end a shell, a function or a loop, that send signals,
and that tell what is done when one comes.
-/

set_option autoImplicit false

namespace SymbolCache.Program.Shell

/-!
## Signals

The signals of a system, by their names and numbers, and what they do to a process that is not ready
for them.
-/

inductive SignalEffect where
  /-- It ends the process, and a shell that waits for the process says so. -/
  | ends (message : String)
  | stops
  | nothing
  deriving Repr, DecidableEq

structure Signal where
  number : Nat
  name : String
  effect : SignalEffect
  deriving Repr, DecidableEq

namespace Signal

/-- The name of a signal of the real-time kind, by how far it is from the first one. -/
def realTimeName (index : Nat) : String :=
  if index = 0 then "RTMIN"
  else if index < 16 then "RTMIN+" ++ toString index
  else if index < 30 then "RTMAX-" ++ toString (30 - index)
  else "RTMAX"

def all : List Signal :=
  [⟨1, "HUP", .ends "Hangup"⟩, ⟨2, "INT", .ends ""⟩, ⟨3, "QUIT", .ends "Quit"⟩,
    ⟨4, "ILL", .ends "Illegal instruction"⟩, ⟨5, "TRAP", .ends "Trace/breakpoint trap"⟩,
    ⟨6, "ABRT", .ends "Aborted"⟩, ⟨7, "BUS", .ends "Bus error"⟩,
    ⟨8, "FPE", .ends "Floating point exception"⟩, ⟨9, "KILL", .ends "Killed"⟩,
    ⟨10, "USR1", .ends "User defined signal 1"⟩, ⟨11, "SEGV", .ends "Segmentation fault"⟩,
    ⟨12, "USR2", .ends "User defined signal 2"⟩, ⟨13, "PIPE", .ends ""⟩,
    ⟨14, "ALRM", .ends "Alarm clock"⟩, ⟨15, "TERM", .ends "Terminated"⟩,
    ⟨16, "16", .ends "Stack fault"⟩, ⟨17, "CHLD", .nothing⟩, ⟨18, "CONT", .nothing⟩,
    ⟨19, "STOP", .stops⟩, ⟨20, "TSTP", .stops⟩, ⟨21, "TTIN", .stops⟩, ⟨22, "TTOU", .stops⟩,
    ⟨23, "URG", .nothing⟩, ⟨24, "XCPU", .ends "CPU time limit exceeded"⟩,
    ⟨25, "XFSZ", .ends "File size limit exceeded"⟩, ⟨26, "VTALRM", .ends "Virtual timer expired"⟩,
    ⟨27, "PROF", .ends "Profiling timer expired"⟩, ⟨28, "WINCH", .nothing⟩,
    ⟨29, "IO", .ends "I/O possible"⟩, ⟨30, "PWR", .ends "Power failure"⟩,
    ⟨31, "SYS", .ends "Bad system call"⟩] ++
    (List.range 31).map fun index =>
      ⟨34 + index, realTimeName index, .ends ("Real-time signal " ++ toString index)⟩

def ofNumber? (number : Nat) : Option Signal :=
  all.find? fun signal => signal.number == number

/-- The signal that a word names, by its number or by its name in letters of any case. -/
def ofWord? (word : String) : Option Signal :=
  match Text.natural? 128 word.toList with
  | some number => ofNumber? number
  | none => all.find? fun signal => signal.name == word.toUpper

def last : Nat := 64

/-- What a signal is called that has a number: its name or, if it has none, the number. -/
def title (number : Nat) : String :=
  ((ofNumber? number).map Signal.name).getD (toString number)

end Signal

namespace Builtin

/-! ## Ends -/

def exit (words : List String) : Run Unit := do
  let status ← firstNumber "exit" (← get).scope.status words
  Run.setStatus (status % 256)
  throw .exit

def leaveFunction (words : List String) : Run Unit := do
  Run.setStatus (← firstNumber "return" (← get).scope.status words)
  throw .returns

def leaveLoops (name : String) (interruption : Nat → Interruption) (words : List String) :
    Run Unit := do
  let levels ← firstNumber name 1 words
  if levels = 0 then Run.fail 2 (name ++ ": Illegal number: " ++ words.headD "")
  let loops := (← get).scope.loops
  Run.setStatus 0
  if loops = 0 then return ()
  throw (interruption (min levels loops))

/-! ## Traps -/

def event? (word : String) : Option String :=
  if word == "0" || word.toUpper == "EXIT" then some "EXIT"
  else (Signal.ofWord? word).map Signal.name

def trap (words : List String) : Run Unit := do
  match ← plainWords "trap" words with
  | [] =>
    let number (name : String) : Nat := ((Signal.ofWord? name).map Signal.number).getD 0
    let traps := (← get).scope.traps.mergeSort fun left right => number left.1 ≤ number right.1
    printLines (traps.map fun (name, action) => "trap -- " ++ quoted action ++ " " ++ name)
  | first :: rest =>
    let isReset := rest.isEmpty || first == "-"
    Run.setStatus 0
    for word in if rest.isEmpty then [first] else rest do
      match event? word with
      | none => Run.emit (.failure 1 ("trap: " ++ word ++ ": bad trap\n"))
      | some event =>
        Run.modifyScope fun scope =>
          let others := scope.traps.filter fun entry => entry.1 != event
          { scope with traps := if isReset then others else others ++ [(event, first)] }

/-! ## Sending signals -/

def usualSignal : Signal :=
  ⟨15, "TERM", .ends "Terminated"⟩

def killUsage : String :=
  "kill: Usage: kill [-s sigspec | -signum | -sigspec] [pid | job]... or\nkill -l [exitstatus]"

/-- The signal and the processes that words for `kill` name. Other words end the script. -/
def killTargets (words : List String) : Run (Signal × List String) := do
  match words with
  | "-s" :: [] => Run.fail 2 "kill: No arg for -s option"
  | "-s" :: name :: words =>
    match signal? name with
    | some signal => return (signal, words)
    | none => Run.fail 2 ("kill: invalid signal number or name: " ++ name)
  | word :: words =>
    match word.toList with
    | ['-', '-'] => return (usualSignal, words)
    | '-' :: letter :: letters =>
      match signal? (String.ofList (letter :: letters)) with
      | some signal => return (signal, words)
      | none => Run.fail 2 ("kill: Illegal option -" ++ String.singleton letter)
    | _ => return (usualSignal, word :: words)
  | [] => return (usualSignal, [])
where
  /-- The signal of a name or number, of which zero does nothing. -/
  signal? (word : String) : Option Signal :=
    if word = "0" then some ⟨0, "0", .nothing⟩ else Signal.ofWord? word

/-- Sends a signal to the shell. `runTrap` runs a script. A trap of the shell is run after its
subshell. -/
def signalSelf (runTrap : String → Run Unit) (signal : Signal) : Run Unit := do
  let scope := (← get).scope
  let traps := scope.outerTraps.getD scope.traps
  let canDiffer := !(["KILL", "STOP"].contains signal.name)
  if canDiffer && scope.ignored.contains signal.name then return ()
  match traps.find? fun entry => entry.1 == signal.name && canDiffer with
  | some (event, action) =>
    if scope.outerTraps.isNone then
      let status := scope.status
      runTrap action
      Run.setStatus status
    else if !action.isEmpty then
      modify fun state => { state with pending := state.pending ++ [event] }
  | none =>
    match signal.effect with
    | .ends _ => throw (.signal signal.number)
    | .stops => throw .endless
    | .nothing => return ()

def sendSignal (runTrap : String → Run Unit) (signal : Signal) (target : String) : Run Unit := do
  let { background, scope, .. } ← get
  let isTarget (process : Background) : Bool :=
    toString process.number == target ||
      ["%1", "%%", "%+", "%-"].contains target && background.length = 1
  if target == toString processNumber || target = "0" then signalSelf runTrap signal
  else if target == toString scope.processNumber then
    match signal.effect with
    | .ends _ => throw (.killed signal.number)
    | .stops => throw .endless
    | .nothing => return ()
  else if target.startsWith "%" && !(background.any isTarget) then
    Run.fail 2 ("kill: No such job: " ++ target)
  else if (Text.natural? 2147483648 target.toList).isNone && !target.startsWith "%" then
    let shown := if target.startsWith "-" then "-" else target
    Run.fail 2 ("kill: Illegal number: " ++ shown)
  else if background.any isTarget then
    if signal.effect matches .ends _ then
      modify fun state =>
        let (stopped, others) := state.background.partition isTarget
        { state with
          background := others
          stopped := state.stopped ++ stopped.map Background.number
          ended := state.ended ++ stopped.map fun process =>
            (process.number, 128 + signal.number) }
  else Run.refuse 1 "kill: No such process\n"

def listSignals (words : List String) : Run Unit := do
  match words with
  | [] =>
    let names := (List.range Signal.last).map fun index => Signal.title (index + 1)
    printLines ("0" :: names)
  | word :: _ =>
    let value ← number "kill" word
    let signal := if 128 < value then value - 128 else value
    if 1 ≤ signal && signal ≤ Signal.last then printLines [Signal.title signal]
    else Run.fail 2 ("kill: invalid signal number or exit status: " ++ word)

def kill (runTrap : String → Run Unit) (words : List String) : Run Unit := do
  match words with
  | "-l" :: words => listSignals words
  | words =>
    match ← killTargets words with
    | (_, []) => Run.fail 2 killUsage
    | (signal, targets) =>
      Run.setStatus 0
      for target in targets do
        sendSignal runTrap signal target

end Builtin

end SymbolCache.Program.Shell
