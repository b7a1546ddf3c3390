import SymbolCache.Program.Record.Invocation
import SymbolCache.Program.Shell.Builtin
import SymbolCache.Program.Shell.Control
import SymbolCache.Program.Utility.Arguments
import SymbolCache.Program.Utility.Find

/-!
# Programs that run programs

Some programs run others: in another environment, for some time at most, or on words and files that
they find. They are told how a program is run.
-/

set_option autoImplicit false

/-!
## Calls of a shell

What the words mean with which a shell is started: its options, where its script comes from, what
the script is called and its arguments.
-/

namespace SymbolCache.Program.Shell

inductive ScriptSource where
  | text (script : String)
  | file (path : String)
  | input
  deriving Repr, DecidableEq

structure Call where
  source : ScriptSource
  name : Option String := none
  arguments : List String := []
  /-- The names of the options that are switched on or off. -/
  options : List (Bool × String) := []
  deriving Repr, DecidableEq

namespace Call

/-- The options in front of the words of a call, and the other words. -/
structure Front where
  options : List (Bool × String) := []
  hasScript : Bool := false
  words : List String

/-- The option that a letter stands for. Two letters stand for none that has a name. -/
def optionOf? (language : Language) (letter : Char) : Option (List String) :=
  if letter == 'c' || letter == 'l' then some []
  else if letter == 's' then some ["stdin"]
  else (optionName? language letter).map fun name => [name]

def readFront (language : Language) : List String → Except String Front
  | [] => .ok { words := [] }
  | word :: words =>
    match word.toList with
    | ['-', '-'] | ['-'] => .ok { words }
    | [sign, 'o'] =>
      if sign ≠ '-' && sign ≠ '+' then .ok { words := word :: words }
      else
        match words with
        | name :: words =>
          if (optionTableOf language).any fun entry => entry.1 == name then
            (readFront language words).map fun front =>
              { front with options := (sign == '-', name) :: front.options }
          else .error ("Illegal option -o " ++ name)
        | [] => .ok { words := [] }
    | sign :: letter :: letters =>
      if sign ≠ '-' && sign ≠ '+' then .ok { words := word :: words }
      else
        let all := letter :: letters
        match all.find? fun letter => (optionOf? language letter).isNone with
        | some letter => .error ("Illegal option -" ++ String.singleton letter)
        | none =>
          let names := (all.filterMap (optionOf? language)).flatten
          (readFront language words).map fun front =>
            { front with
              options := (names.map fun name => (sign == '-', name)) ++ front.options
              hasScript := front.hasScript || sign == '-' && all.contains 'c' }
    | _ => .ok { words := word :: words }

def ofWords (language : Language) (words : List String) : Except String Call := do
  let { options, hasScript, words } ← readFront language words
  if hasScript then
    match words with
    | [] => throw "-c requires an argument"
    | script :: words =>
      return { source := .text script, name := words.head?, arguments := words.tail, options }
  else if options.contains (true, "stdin") then
    return { source := .input, arguments := words, options }
  else
    match words with
    | [] => return { source := .input, options }
    | path :: arguments => return { source := .file path, name := some path, arguments, options }

end Call

end SymbolCache.Program.Shell

namespace SymbolCache.Program.Shell

open Utility (Options OptionForm readOptions misuse)

/-- How a program is run by its name with some words. It is told what to do if that cannot be run.
-/
abbrev Start :=
  (FileError → Run Unit) → String → List String → Run Unit

/-- A program that runs others. It is told what it is called and how a program is run. -/
abbrev Launcher :=
  String → Start → List String → Run Unit

def statusOf : FileError → Nat
  | .notFound | .notDirectory | .nameTooLong => 127
  | _ => 126

namespace Launcher

def refuse (name text : String) (error : FileError) : Run Unit :=
  Run.emit (Utility.fileFailure (statusOf error) name text error)

/-- Does something with the options among some words, or says what is wrong with them. -/
def withOptions (form : OptionForm) (act : Options → Run Unit) (words : List String) : Run Unit :=
  match readOptions form none words with
  | .ok options => act options
  | .error error => Run.emit (misuse form.status form.name error.message)

/-! ## Environments -/

def printEnvironment : Run Unit := do
  let scope := (← get).scope
  let lines := scope.values.reverse.filterMap fun (name, value) =>
    if scope.exported.contains name then some (name ++ "=" ++ value ++ "\n") else none
  Run.emit (.success (bytes (String.join lines)))

def withExported (exported : List String) (act : Run Unit) : Run Unit := do
  let before := (← get).scope.exported
  try
    Run.modifyScope fun scope => { scope with exported }
    act
  finally
    Run.modifyScope fun scope => { scope with exported := before }

def env : Launcher := fun self run =>
  withOptions
    { name := self, status := 125, plain := "0iv", valued := "uC", stopsAtWord := true
      long := [("ignore-environment", 'i'), ("unset", 'u')] }
    fun options => do
      let words := if options.words.head? = some "-" then options.words.tail else options.words
      let isBare := options.has 'i' || options.words.head? = some "-"
      let isAssignment (word : String) : Bool := word.toList.drop 1 |>.contains '='
      let assignments := (words.takeWhile isAssignment).filterMap fun word =>
        (Text.splitOnce '=' word.toList).map fun (name, value) =>
          (String.ofList name, String.ofList value)
      let unset := (options.given.filter fun option => option.1 == 'u').map Prod.snd
      let exported := (← get).scope.exported.filter fun name => !isBare && !unset.contains name
      let given := assignments.map fun (name, value) => (name, pure value)
      withExported exported <| Run.withAssignments given fun _ =>
        match words.drop assignments.length with
        | [] => printEnvironment
        | name :: words => run (refuse self (Utility.escaped name)) name words

def printenv : Launcher := fun _ _ words => do
  if words.isEmpty then printEnvironment
  else
    let state ← get
    let values := words.map fun name =>
      if state.scope.exported.contains name then state.lookup? name else none
    let lines := values.filterMap fun value => value.map fun value => value ++ "\n"
    Run.emit ((Outcome.success (bytes (String.join lines))).andThen
      (.ofBool (values.all Option.isSome)))

/-! ## Times and priorities -/

def timeout : Launcher := fun self run =>
  withOptions
    { name := self, status := 125, plain := "vfp", valued := "ks", stopsAtWord := true
      long := [("foreground", 'f'), ("kill-after", 'k'), ("preserve-status", 'p'),
        ("signal", 's'), ("verbose", 'v')] }
    fun options => do
      match options.words with
      | [] | [_] =>
        Run.emit (.failure 125 ("Try '" ++ self ++ " --help' for more information.\n"))
      | limit :: name :: words =>
        match Utility.interval? limit with
        | none =>
          Run.emit (misuse 125 self ("invalid time interval " ++ Utility.escaped limit))
        | some limit =>
          let start := (← get).elapsed
          let interruption ← tryCatch
            (do
              run (refuse self ("failed to run command " ++ Utility.escaped name)) name words
              return none)
            fun interruption => return some interruption
          let last := start.nanoseconds + limit.nanoseconds
          let isLate := interruption = some .endless || last < (← get).elapsed.nanoseconds
          if limit.nanoseconds ≠ 0 && isLate then
            modify fun state => { state with elapsed := ⟨last⟩ }
            let signal := (options.value? 's').bind Signal.ofWord?
            let number := (signal.map Signal.number).getD 15
            if number = 9 then throw (.killed number)
            else Run.setStatus (if options.has 'p' then 128 + number else 124)
          else interruption.forM fun interruption => throw interruption

def nice : Launcher := fun self run =>
  withOptions
    { name := self, status := 125, valued := "n", stopsAtWord := true
      long := [("adjustment", 'n')] }
    fun options =>
      match options.words with
      | [] => Run.emit (.success (bytes "0\n"))
      | name :: words => run (refuse self (Utility.escaped name)) name words

def nohup : Launcher := fun self run words =>
  match words with
  | [] => Run.emit (misuse 125 self "missing operand")
  | name :: words =>
    run (refuse self ("failed to run command " ++ Utility.escaped name)) name words

/-! ## Words and files -/

/-- Runs a program, and ends it all if that cannot be run. `name` is that of the launcher. -/
def runOrEnd (run : Start) (name : String) : List String → Run Unit
  | [] => return ()
  | program :: words =>
    let refusal (error : FileError) : Run Unit := do
      refuse name program error
      throw .exit
    run refusal program words

/-- Runs a program on groups of words. `status` is what the programs before have left. -/
def runGroups (name : String) (run : Start) (shows : Bool) (status : Nat) :
    List (List String) → Run Unit
  | [] => Run.setStatus status
  | words :: groups => do
    if shows then
      Run.write ((← get).scope.channel 2) (bytes (" ".intercalate words ++ "\n"))
    let stop (status : Nat) (text : String) : Run Unit :=
      Run.emit (Utility.complaint status name (words.headD "" ++ ": " ++ text))
    match ← Run.signalOf (Run.withInput {} (runOrEnd run name words)) with
    | some number => stop 125 ("terminated by signal " ++ toString number)
    | none =>
      match (← get).scope.status with
      | 0 => runGroups name run shows status groups
      | 255 => stop 124 "exited with status 255; aborting"
      | _ => runGroups name run shows 123 groups

def xargs : Launcher := fun name run =>
  withOptions { Utility.Arguments.form with name } fun options => do
    match Utility.Arguments.Handing.ofOptions options with
    | .error text => Run.emit (misuse 1 name text)
    | .ok handing =>
      let state ← get
      let input ← match options.value? 'a' with
        | none => do
          if state.input.isEndless then throw Interruption.endless
          modify fun state => state.withInput {}
          pure (Except.ok state.input)
        | some path => pure (Run.inputOf state.disk path)
      match input with
      | .error error =>
        Run.emit (Utility.fileFailure 1 name
          ("Cannot open input file " ++ Utility.escaped ((options.value? 'a').getD "")) error)
      | .ok input =>
        match Utility.Arguments.readByOptions options (Utility.charactersOf input.content) with
        | .error text => Run.emit (Utility.complaint 1 name text)
        | .ok words =>
          tryCatch
            (runGroups name run handing.shows 0 (Utility.Arguments.invocations handing words))
            fun
              | .exit => return ()
              | interruption => throw interruption

def caller (self : String) (run : Start) :
    Utility.Find.Caller (ExceptT Interruption (StateM State)) where
  print text := do
    Run.write ((← get).scope.channel 1) (bytes text)
  complain text := do
    Run.write ((← get).scope.channel 2) (bytes (self ++ ": " ++ text ++ "\n"))
  disk := do
    return (← get).disk
  remove entry := do
    let state ← get
    if entry.isDirectory && !(state.disk.namesIn entry.location).isEmpty then
      Run.write (state.scope.channel 2)
        (bytes (self ++ ": cannot delete " ++ Utility.escaped entry.path ++
          ": Directory not empty\n"))
      return false
    else
      set { state with disk := state.disk.remove entry.location }
      return true
  run words := do
    let refusal (error : FileError) : Run Unit :=
      refuse self (Utility.escaped (words.headD "")) error
    match ← Run.signalOf (run refusal (words.headD "") words.tail) with
    | none => return (← get).scope.status = 0
    | some number =>
      Run.write ((← get).scope.channel 2)
        (bytes (self ++ ": " ++ Utility.escaped (words.headD "") ++ " terminated by signal " ++
          toString number ++ "\n"))
      return false

def find : Launcher := fun self run words => do
  match Utility.Find.readSearch words with
  | .error text => Run.emit (Utility.complaint 1 self text)
  | .ok search =>
    let isFine ← Utility.Find.runSearch (caller self run) search
    Run.setStatus (if isFine then 0 else 1)

def which : Launcher := fun self _ words => do
  let isAll := words.contains "-a"
  let isKnown (word : String) : Bool := ["-a", "-s", "-as", "-sa"].contains word
  match words.find? fun word => word.startsWith "-" && !isKnown word with
  | some word =>
    Run.emit (.failure 2 ("Illegal option " ++ (word.take 2).toString ++ "\nUsage: " ++ self ++
      " [-as] args\n"))
  | none =>
    let names := words.filter fun word => !word.startsWith "-"
    let disk := (← get).disk
    let searchPath := (← Run.lookup? "PATH").getD ""
    let isRunnable (path : String) : Bool := (System.executableAt disk path).toOption.isSome
    let found := names.map fun name =>
      if name.toList.contains '/' then [name].filter isRunnable
      else
        let paths := (Text.split ':' searchPath.toList).map fun directory =>
          Path.join (String.ofList directory) name
        if isAll then paths.filter isRunnable else (paths.find? isRunnable).toList
    Builtin.printLines found.flatten
    Run.setStatus (if names.isEmpty || found.any List.isEmpty then 1 else 0)

def awk : Launcher := fun self run =>
  Record.perform self fun command => do
    let program := run (refuse self (Utility.escaped command)) "/bin/sh" ["-c", command]
    (← Run.signalOf program).forM fun number => Run.setStatus (256 + number)

/-! ## Names -/

def table : List (String × Launcher) :=
  [("awk", awk), ("env", env), ("find", find), ("mawk", awk), ("nice", nice), ("nohup", nohup),
    ("printenv", printenv), ("timeout", timeout), ("which", which), ("xargs", xargs)]

def named? (name : String) : Option Launcher :=
  (table.find? fun entry => entry.1 == name).map Prod.snd

end Launcher

end SymbolCache.Program.Shell
