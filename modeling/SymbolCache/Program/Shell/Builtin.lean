import SymbolCache.Program.Shell.Builtin.Extended
import SymbolCache.Program.Shell.Builtin.Meaning
import SymbolCache.Program.Shell.Builtin.Basic
import SymbolCache.Program.Shell.Builtin.Values
import SymbolCache.Program.Shell.Builtin.Signals

/-!
# Commands of the shell itself

The commands that a shell runs without starting a program. Those that run other commands stand with
the shell; the ones here change its state or print something.
-/

set_option autoImplicit false

namespace SymbolCache.Program.Shell.Builtin

def dialect : Run Utility.Dialect := do
  let scope := (← get).scope
  return .shell (scope.name ++ ": " ++ toString scope.line)

/-- Does what a command has done that prints. That fails if the output is closed. -/
def print (name : String) (outcome : Outcome) : Run Unit := do
  let isOpen := ((← get).scope.channel? 1).isSome
  if isOpen || outcome.output.isEmpty then Run.emit outcome
  else Run.refuse 1 (name ++ ": " ++ name ++ ": I/O error")

/-- Does something after which the shell goes on even if there is a mistake in it. -/
def goingOn (act : Run Unit) : Run Unit :=
  tryCatch act fun
    | .mistake => return ()
    | interruption => throw interruption

def goingOnIf (goesOn : Bool) (act : Run Unit) : Run Unit :=
  if goesOn then goingOn act else act

def ordinary? (name : String) : Option (List String → Run Unit) :=
  match name with
  | "true" => some fun _ => Run.setStatus 0
  | "false" => some fun _ => Run.setStatus 1
  | "[" | "test" =>
    some fun words => do
      Run.emit (Utility.Condition.test (← dialect) (← get).disk name words)
  | "alias" => some setAliases
  | "bg" | "fg" =>
    some fun words => Run.fail 2 (name ++ match words with
      | [] => ": No current job"
      | word :: _ => ": No such job: " ++ word)
  | "cd" | "chdir" => some cd
  | "echo" => some fun words => do print name (Utility.echo (← dialect) words)
  | "getopts" => some getopts
  | "hash" => some hash
  | "jobs" =>
    some fun words => match words with
      | [] => Run.setStatus 0
      | word :: _ =>
        if word.startsWith "%" then Run.fail 2 ("jobs: No such job: " ++ word)
        else Run.setStatus 0
  | "printf" => some fun words => do print name (Utility.printf (← dialect) words)
  | "pwd" => some pwd
  | "read" => some read
  | "type" => some type
  | "ulimit" => some ulimit
  | "umask" => some umask
  | "unalias" => some unsetAliases
  | _ => none

def special? (name : String) : Option (List String → Run Unit) :=
  match name with
  | ":" => some fun _ => Run.setStatus 0
  | "break" => some (leaveLoops "break" .breaks)
  | "continue" => some (leaveLoops "continue" .continues)
  | "exit" => some exit
  | "export" => some exportNames
  | "local" => some declareLocal
  | "readonly" => some readonly
  | "return" => some leaveFunction
  | "set" => some set
  | "shift" => some shift
  | "times" => some fun _ => printLines ["0m0.000000s 0m0.000000s", "0m0.000000s 0m0.000000s"]
  | "trap" => some trap
  | "unset" => some unset
  | _ => none

def plain? (name : String) : Option (List String → Run Unit) :=
  (special? name).orElse fun () =>
    (ordinary? name).map fun command words => goingOn (command words)

/-- The same in a language. In the extended one no mistake of a command ends the script. -/
def named? (language : Language) (name : String) : Option (List String → Run Unit) :=
  match language with
  | .plain => plain? name
  | .extended =>
    if name = "chdir" then none
    else
      ((extended? name).orElse fun () => plain? name).map fun command words =>
        goingOn (command words)

def isNamed (language : Language) (name : String) : Bool :=
  match language with
  | .plain => names.contains name
  | .extended => extendedNames.contains name && name != "chdir"

end SymbolCache.Program.Shell.Builtin
