import SymbolCache.Disk.Basic
import SymbolCache.Outcome
import SymbolCache.Program.Shell.Arithmetic.Extended
import SymbolCache.Program.Shell.Script
import SymbolCache.Text.LowerCase
import SymbolCache.Text.Natural

/-!
# The state of a shell

What a running shell knows and changes: the values of names, where its streams go, what was written
to them so far, the disk, and the time that has passed. A subshell has a copy of a part of it.
-/

set_option autoImplicit false

/-!
## Lists of values

A name may stand for a list of values. Each one has a key: a number, in ascending order, or any
text, in the order of a table. The rows of the table hold the newest key first.
-/

namespace SymbolCache.Program.Shell

/-- The values of a list, each with its key. -/
structure Elements where
  /-- Whether the keys are texts. Otherwise they are numbers. -/
  isKeyed : Bool := false
  entries : List (String × String) := []
  deriving Repr, DecidableEq

namespace Elements

def rows : Nat := 1024

def row (key : String) : Nat :=
  let code := (bytes key).foldl
    (fun (code : BitVec 32) byte =>
      (code * 16777619) ^^^ BitVec.ofInt 32 byte.toInt8.toInt)
    2166136261
  code.toNat % rows

def index (key : String) : Nat :=
  Text.digitsValue 0 key.toList

def get? (elements : Elements) (key : String) : Option String :=
  (elements.entries.find? fun entry => entry.1 == key).map Prod.snd

def keys (elements : Elements) : List String :=
  elements.entries.map Prod.fst

def values (elements : Elements) : List String :=
  elements.entries.map Prod.snd

def put (elements : Elements) (key value : String) : Elements :=
  let entries := elements.entries
  if entries.any fun entry => entry.1 == key then
    { elements with
      entries := entries.map fun entry => if entry.1 == key then (key, value) else entry }
  else
    let isBefore (other : String) : Bool :=
      if elements.isKeyed then row other < row key else index other < index key
    let front := entries.takeWhile fun entry => isBefore entry.1
    { elements with entries := front ++ (key, value) :: entries.drop front.length }

def erase (elements : Elements) (key : String) : Elements :=
  { elements with entries := elements.entries.filter fun entry => entry.1 != key }

def ofValues (values : List String) : Elements where
  entries := values.zipIdx.map fun (value, index) => (toString index, value)

def next (elements : Elements) : Nat :=
  match elements.entries.getLast? with
  | some (key, _) => index key + 1
  | none => 0

end Elements

end SymbolCache.Program.Shell

namespace SymbolCache.Program.Shell

/-- Where a stream leads: to one of the buffers, to the end of a file, from one of the inputs, or
nowhere. -/
inductive Channel where
  | buffer (index : Nat)
  | file (location : Location)
  | input (index : Nat)
  | nowhere
  deriving Repr, DecidableEq

structure Input where
  content : List UInt8 := []
  isEndless : Bool := false
  deriving Repr, DecidableEq

/-- The options of a shell by their names, with their letters as far as they have one. -/
def optionTable : List (String × Option Char) :=
  [("errexit", some 'e'), ("noglob", some 'f'), ("ignoreeof", some 'I'), ("interactive", some 'i'),
    ("monitor", some 'm'), ("noexec", some 'n'), ("stdin", some 's'), ("xtrace", some 'x'),
    ("verbose", some 'v'), ("vi", some 'V'), ("emacs", some 'E'), ("noclobber", some 'C'),
    ("allexport", some 'a'), ("notify", some 'b'), ("nounset", some 'u'), ("privileged", some 'p'),
    ("nolog", none), ("debug", none)]

def extendedOptionTable : List (String × Option Char) :=
  [("allexport", some 'a'), ("braceexpand", some 'B'), ("emacs", none), ("errexit", some 'e'),
    ("errtrace", some 'E'), ("functrace", some 'T'), ("hashall", some 'h'),
    ("histexpand", some 'H'), ("history", none), ("ignoreeof", none),
    ("interactive-comments", none), ("keyword", some 'k'), ("monitor", some 'm'),
    ("noclobber", some 'C'), ("noexec", some 'n'), ("noglob", some 'f'), ("nolog", none),
    ("notify", some 'b'), ("nounset", some 'u'), ("onecmd", some 't'), ("physical", some 'P'),
    ("pipefail", none), ("posix", none), ("privileged", some 'p'), ("verbose", some 'v'),
    ("vi", none), ("xtrace", some 'x')]

def optionTableOf : Language → List (String × Option Char)
  | .plain => optionTable
  | .extended => extendedOptionTable

def behaviourNames : List String :=
  ["assoc_expand_once", "autocd", "cdable_vars", "cdspell", "checkhash", "checkjobs",
    "checkwinsize", "cmdhist", "compat31", "compat32", "compat40", "compat41", "compat42",
    "compat43", "compat44", "complete_fullquote", "direxpand", "dirspell", "dotglob", "execfail",
    "expand_aliases", "extdebug", "extglob", "extquote", "failglob", "force_fignore",
    "globasciiranges", "globskipdots", "globstar", "gnu_errfmt", "histappend", "histreedit",
    "histverify", "hostcomplete", "huponexit", "inherit_errexit", "interactive_comments",
    "lastpipe", "lithist", "localvar_inherit", "localvar_unset", "login_shell", "mailwarn",
    "no_empty_cmd_completion", "nocaseglob", "nocasematch", "noexpand_translation", "nullglob",
    "patsub_replacement", "progcomp", "progcomp_alias", "promptvars", "restricted_shell",
    "shift_verbose", "sourcepath", "varredir_close", "xpg_echo"]

def startOptions : Language → List String
  | .plain => []
  | .extended =>
    ["braceexpand", "hashall", "interactive-comments", "checkwinsize", "cmdhist",
      "complete_fullquote", "extquote", "force_fignore", "globasciiranges", "globskipdots",
      "hostcomplete", "interactive_comments", "patsub_replacement", "progcomp", "promptvars",
      "sourcepath"]

def optionName? (language : Language) (letter : Char) : Option String :=
  ((optionTableOf language).find? fun entry => entry.2 == some letter).map Prod.fst

/-- Where the reading of options among arguments stands. -/
structure OptionPlace where
  next : Nat := 1
  /-- How many characters of the argument before it are read, if not all. -/
  offset : Option Nat := none
  deriving Repr, DecidableEq

/-- An element that a list in a script gives: its key, if it has one, and its value, which may be
added to the one that is there. -/
structure GivenElement where
  key : Option String
  adds : Bool
  value : String
  deriving Repr, DecidableEq

/-- A list that a script gives to a name, perhaps in addition to the elements that are there. -/
structure GivenList where
  name : String
  adds : Bool
  elements : List GivenElement
  deriving Repr, DecidableEq

/-- What a name stood for before a function used it for something else. -/
structure Hidden where
  name : String
  value : Option String
  elements : Option Elements := none
  traits : List Char := []
  isFixed : Bool := false
  isExported : Bool := false
  deriving Repr, DecidableEq

structure Scope where
  language : Language := .plain
  name : String
  startName : String := ""
  arguments : List String
  values : List (String × String)
  /-- The names of the values that other programs get. -/
  exported : List String
  fixed : List String := []
  functions : List (String × Command) := []
  traps : List (String × String) := []
  /-- The names of the signals that do nothing to the shell from its start. -/
  ignored : List String := []
  /-- The traps of the shell of which this one is a subshell, if it is one. -/
  outerTraps : Option (List (String × String)) := none
  nesting : Nat := 0
  /-- Where each stream that is open leads, by its number. -/
  streams : List (Nat × Channel) := [(0, .input 0), (1, .buffer 0), (2, .buffer 1)]
  /-- The letter for where the script comes from, if there is one. -/
  startLetter : Option Char := none
  status : Nat := 0
  line : Nat := 1
  /-- What runs the script that is run, if that is a command of the shell. -/
  runner : Option String := none
  options : List String := []
  /-- The permissions that are taken from what is made. -/
  mask : Nat := 0o022
  aliases : List (String × String) := []
  /-- The names of the programs that were found so far. -/
  found : List String := []
  optionPlace : OptionPlace := {}
  /-- Whether commands are run to see how they end. -/
  isTested : Bool := false
  /-- Whether a program that is run takes the place of the process, which has nothing more to do. -/
  isLast : Bool := false
  depth : Nat := 0
  loops : Nat := 0
  /-- What names stood for before the function that is run, if one is. -/
  hidden : Option (List Hidden) := none
  lists : List (String × Elements) := []
  /-- The names with traits: integers (`i`), in lower or upper case (`l`, `u`), or standing for
  other names (`n`). -/
  traits : List (String × List Char) := []
  /-- What messages call the text that is run, if not by the name of the script. -/
  source : Option String := none
  /-- The same for functions, by where they are defined. -/
  origins : List (String × String) := []
  /-- The names of the functions that are run, the innermost first. -/
  calls : List String := []
  /-- The status of each command of the last pipeline. -/
  statuses : List Nat := [0]
  /-- The lists that the words of the command that is run give to names. -/
  given : List GivenList := []
  places : List String := []

def Scope.isOn (scope : Scope) (option : String) : Bool :=
  scope.options.contains option

def Scope.withOption (scope : Scope) (holds : Bool) (option : String) : Scope :=
  let others := scope.options.filter (· != option)
  { scope with options := if holds then option :: others else others }

def Scope.channel? (scope : Scope) (number : Nat) : Option Channel :=
  (scope.streams.find? fun entry => entry.1 == number).map Prod.snd

def Scope.channel (scope : Scope) (number : Nat) : Channel :=
  (scope.channel? number).getD .nowhere

def Scope.withStream (scope : Scope) (number : Nat) (channel : Option Channel) : Scope :=
  let others := scope.streams.filter fun entry => entry.1 != number
  { scope with streams := channel.toList.map (fun channel => (number, channel)) ++ others }

structure Background where
  number : Nat
  scope : Scope
  command : Command
  start : Duration
  /-- Whether the shell has an end only after it, because it may still write. -/
  isAttached : Bool

structure State where
  scope : Scope
  disk : Disk
  /-- What is left of the inputs. The first one is that of the shell. -/
  inputs : Array Input := #[{}]
  /-- What was written. The first two buffers are the output and the messages of the shell. -/
  buffers : Array (Array UInt8) := #[#[], #[]]
  elapsed : Duration := ⟨0⟩
  steps : Nat := 0
  /-- The commands in the background that have not been waited for. -/
  background : List Background := []
  /-- The commands in the background that shells around this one have not waited for. -/
  outer : List Background := []
  /-- Whether something reads from pipes with names while others write to them. -/
  hasReader : Bool := false
  /-- The number of the last process in the background. -/
  lastNumber : Option Nat := none
  /-- The status of processes in the background that have ended. -/
  ended : List (Nat × Nat) := []
  /-- The processes in the background that a signal has ended and that nothing was said about. -/
  stopped : List Nat := []
  /-- The scripts that read from pipes which words name, and where these are. -/
  readers : List (Location × List Char) := []
  /-- The events for which the shell has traps to run when its subshell has ended. -/
  pending : List String := []

inductive Interruption where
  | exit
  | mistake
  /-- A signal ends the shell, with all its subshells. -/
  | signal (number : Nat)
  /-- A signal ends the process, which may be a subshell. -/
  | killed (number : Nat)
  | breaks (levels : Nat)
  /-- Some loops but one end, and that one goes on. -/
  | continues (levels : Nat)
  | returns
  | endless
  deriving Repr, DecidableEq

/-- Something that a shell does. It changes the state even if it is interrupted. -/
abbrev Run (α : Type) := ExceptT Interruption (StateM State) α

def processNumber : Nat := 4242

def Scope.processNumber (scope : Scope) : Nat :=
  Shell.processNumber + scope.nesting * 1000

def State.input (state : State) : Input :=
  match state.scope.channel 0 with
  | .input index => state.inputs[index]?.getD {}
  | _ => {}

def State.withInput (state : State) (input : Input) : State :=
  match state.scope.channel 0 with
  | .input index => { state with inputs := state.inputs.setIfInBounds index input }
  | _ => state

def State.opening (state : State) (number : Nat) (input : Input) : State :=
  { state with
    inputs := state.inputs.push input
    scope := state.scope.withStream number (some (.input state.inputs.size)) }

def Scope.optionLetters (scope : Scope) : String :=
  match scope.language with
  | .plain =>
    String.ofList (optionTable.reverse.filterMap fun (name, letter) =>
      if scope.isOn name then letter else none)
  | .extended =>
    let letters := extendedOptionTable.filterMap fun (name, letter) =>
      if scope.isOn name then letter else none
    let lower := letters.filter fun letter => 'a' ≤ letter
    let upper := letters.filter fun letter => letter < 'a'
    let order (left right : Char) : Bool := left ≤ right
    String.ofList (lower.mergeSort order ++ upper.mergeSort order ++ scope.startLetter.toList)

def Scope.traitsOf (scope : Scope) (name : String) : List Char :=
  ((scope.traits.find? fun entry => entry.1 == name).map Prod.snd).getD []

/-- The name that a name stands for. It is fuelled by how often names may stand for others. -/
def Scope.referred (scope : Scope) (name : String) (fuel : Nat) : String :=
  match fuel with
  | 0 => name
  | fuel + 1 =>
    if (scope.traitsOf name).contains 'n' then
      match scope.values.find? fun entry => entry.1 == name with
      | some (_, other) => if isName other then scope.referred other fuel else name
      | none => name
    else name

def referenceLimit : Nat := 8

def Scope.elements? (scope : Scope) (name : String) : Option Elements :=
  if scope.language = .plain then none
  else
    match scope.referred name referenceLimit with
    | "PIPESTATUS" => some (.ofValues (scope.statuses.map toString))
    | "FUNCNAME" => if scope.calls.isEmpty then none else some (.ofValues scope.calls)
    | "GROUPS" => some (.ofValues ["0"])
    | "BASH_VERSINFO" =>
      some (.ofValues ["5", "2", "15", "1", "release", "x86_64-pc-linux-gnu"])
    | name => (scope.lists.find? fun entry => entry.1 == name).map Prod.snd

def State.changingValue? (state : State) (name : String) : Option String :=
  match name with
  | "LINENO" => some (toString state.scope.line)
  | "SECONDS" => some (toString (state.elapsed.nanoseconds / 1000000000))
  | "BASHPID" => some (toString state.scope.processNumber)
  | "BASH_SUBSHELL" => some (toString state.scope.nesting)
  | _ => none

def State.lookup? (state : State) (name : String) : Option String :=
  let scope := state.scope
  match name with
  | "?" => some (toString scope.status)
  | "#" => some (toString scope.arguments.length)
  | "$" => some (toString processNumber)
  | "!" => state.lastNumber.map toString
  | "-" => some scope.optionLetters
  | "0" => some scope.name
  | "@" | "*" => if scope.arguments.isEmpty then none else some (" ".intercalate scope.arguments)
  | name =>
    if name.toList.all Text.isAsciiDigit then
      scope.arguments[Text.digitsValue 0 name.toList - 1]?
    else
      let valueOf (name : String) : Option String :=
        (scope.values.find? fun entry => entry.1 == name).map Prod.snd
      match scope.language with
      | .plain => valueOf name
      | .extended =>
        match scope.elements? name with
        | some elements => elements.get? "0"
        | none =>
          (valueOf (scope.referred name referenceLimit)).orElse fun () =>
            state.changingValue? name

def State.valueAt? (state : State) (target : Arithmetic.Extended.Target) : Option String :=
  match target.key, state.scope.elements? target.name with
  | none, some elements => if elements.isKeyed then none else elements.get? "0"
  | none, none => state.lookup? target.name
  | some key, some elements => elements.get? key
  | some key, none => if key == "0" then state.lookup? target.name else none

def State.names (state : State) : Arithmetic.Extended.Names where
  value? := state.valueAt?
  isKeyed name := ((state.scope.elements? name).map Elements.isKeyed).getD false
  isStrict := state.scope.isOn "nounset"

def State.separators (state : State) : List Char :=
  ((state.lookup? "IFS").getD " \t\n").toList

namespace Run

def modifyScope (change : Scope → Scope) : Run Unit :=
  modify fun state => { state with scope := change state.scope }

def setStatus (status : Nat) : Run Unit :=
  modifyScope fun scope => { scope with status }

def wait (duration : Duration) : Run Unit :=
  modify fun state =>
    { state with elapsed := ⟨state.elapsed.nanoseconds + duration.nanoseconds⟩ }

/-! ## Writing -/

def write (channel : Channel) (content : List UInt8) : Run Unit :=
  modify fun state =>
    match channel with
    | .nowhere | .input _ => state
    | .buffer index =>
      { state with buffers := state.buffers.modify index (· ++ content) }
    | .file location =>
      let before := match state.disk.node? location with
        | some (.file before) => before
        | _ => .empty
      { state with disk := state.disk.put location (.file (before ++ ⟨content.toArray⟩)) }

def complain (text : String) : Run Unit := do
  let scope := (← get).scope
  let parts := match scope.language with
    | .plain => [scope.name, toString scope.line] ++ scope.runner.toList ++ [text]
    | .extended => [scope.source.getD scope.name, "line " ++ toString scope.line, text]
  write (scope.channel 2) (bytes (": ".intercalate parts ++ "\n"))

def refuse (status : Nat) (text : String) : Run Unit := do
  complain text
  setStatus status

def failAt {α : Type} (line status : Nat) (text : String) : Run α := do
  modifyScope fun scope => { scope with line }
  refuse status text
  throw .mistake

def fail {α : Type} (status : Nat) (text : String) : Run α := do
  refuse status text
  throw .mistake

/-- Does something that is part of the script that another command runs, or of none. -/
def withRunner {α : Type} (runner : Option String) (act : Run α) : Run α := do
  let before := (← get).scope.runner
  try
    modifyScope fun scope => { scope with runner }
    act
  finally
    modifyScope fun scope => { scope with runner := before }

/-- Says that jobs cannot be controlled if they are to be. A message may have a front. -/
def refuseMonitor (front : String) : Run Unit := do
  if (← get).scope.isOn "monitor" then
    complain (front ++ "can't access tty; job control turned off")
    modifyScope fun scope => scope.withOption false "monitor"

/-! ## Values -/

def lookup? (name : String) : Run (Option String) := do
  return (← get).lookup? name

def setValue (name : String) (value : Option String) : Run Unit :=
  modifyScope fun scope =>
    let others := scope.values.filter fun entry => entry.1 != name
    { scope with values := value.toList.map (fun value => (name, value)) ++ others }

def setElements (name : String) (elements : Option Elements) : Run Unit :=
  modifyScope fun scope =>
    let others := scope.lists.filter fun entry => entry.1 != name
    { scope with lists := elements.toList.map (fun elements => (name, elements)) ++ others }

def setTraits (name : String) (traits : List Char) : Run Unit :=
  modifyScope fun scope =>
    let others := scope.traits.filter fun entry => entry.1 != name
    { scope with traits := if traits.isEmpty then others else (name, traits) :: others }

/-- Takes note that the value of a name changes: where programs are looked for or where the reading
of options stands. -/
def noteValue (name : String) (value : Option String) : Run Unit :=
  modifyScope fun scope =>
    match name with
    | "PATH" => { scope with found := [] }
    | "OPTIND" =>
      let next := value.bind fun value => Text.natural? 2147483648 value.toList
      { scope with optionPlace := { next := max 1 (next.getD 1) } }
    | _ => scope

/-- Ends the line that is run, or the shell, with a message about it, in the extended language. -/
def stop {α : Type} (text : String) : Run α := do
  refuse 1 text
  throw .mistake

def noteAssigned (name value : String) : Run Unit := do
  noteValue name (some value)
  modifyScope fun scope =>
    if scope.isOn "allexport" && !scope.exported.contains name then
      { scope with exported := name :: scope.exported }
    else scope

def store (target : Arithmetic.Extended.Target) (value : String) : Run Unit := do
  let scope := (← get).scope
  let name := scope.referred target.name referenceLimit
  if scope.fixed.contains name then stop (name ++ ": readonly variable")
  match target.key, scope.elements? name with
  | none, none => setValue name (some value)
  | key, elements? =>
    let before := (scope.values.find? fun entry => entry.1 == name).map Prod.snd
    let start : Elements := { entries := before.toList.map fun value => ("0", value) }
    setElements name (some ((elements?.getD start).put (key.getD "0") value))
    setValue name none
  noteAssigned name value

def failUnbound {α : Type} (label : String) : Run α := do
  let isSubshell := (← get).scope.outerTraps.isSome
  refuse (if isSubshell then 1 else 127) (label ++ ": unbound variable")
  throw .exit

/-- The value of an expression of the extended language. `front` stands in front of messages. -/
def evaluate (front expression : String) : Run Int := do
  match Arithmetic.Extended.evaluate (← get).names expression.toList with
  | .ok (value, given) =>
    for (target, value) in given do
      store target (toString value)
    return value
  | .error (.unbound name) => failUnbound name
  | .error mistake => stop (front ++ mistake.message)

def withTraits (traits : List Char) (value : String) : Run String := do
  if traits.contains 'i' then return toString (← evaluate "" value)
  else if traits.contains 'l' then return String.ofList (value.toList.map Text.lowerLetter)
  else if traits.contains 'u' then return String.ofList (value.toList.map Text.upperLetter)
  else return value

/-- Gives a value to a name or an element. It may be added to the value that is there. -/
def give (target : Arithmetic.Extended.Target) (adds : Bool) (value : String) : Run Unit := do
  let state ← get
  let traits := state.scope.traitsOf (state.scope.referred target.name referenceLimit)
  let value ← withTraits traits value
  let before := (state.valueAt? target).getD ""
  if !adds then store target value
  else if traits.contains 'i' then
    let sum := (← evaluate "" before) + (← evaluate "" value)
    store target (toString (Arithmetic.bits sum).toInt)
  else store target (before ++ value)

def elementsOf (name : String) : Run Elements := do
  let scope := (← get).scope
  match scope.elements? name with
  | some elements => return elements
  | none =>
    let value? := (scope.values.find? fun entry => entry.1 == name).map Prod.snd
    return { entries := value?.toList.map fun value => ("0", value) }

/-- The elements that a list in a script gives, each with its key. Texts as keys may stand in front
of their values. -/
def keyedElements : List GivenElement → List GivenElement
  | ⟨none, _, key⟩ :: ⟨none, adds, value⟩ :: rest =>
    ⟨some key, adds, value⟩ :: keyedElements rest
  | [⟨none, adds, key⟩] => [⟨some key, adds, ""⟩]
  | element :: rest => element :: keyedElements rest
  | [] => []

def giveList (list : GivenList) : Run Unit := do
  let scope := (← get).scope
  let name := scope.referred list.name referenceLimit
  if scope.fixed.contains name then stop (name ++ ": readonly variable")
  let before ← elementsOf name
  let isKeyed := before.isKeyed
  let traits := scope.traitsOf name
  let mut next := if list.adds then before.next else 0
  setValue name none
  setElements name (some (if list.adds then before else { isKeyed }))
  for element in if isKeyed then keyedElements list.elements else list.elements do
    let elements ← elementsOf name
    let key ← match element.key with
      | some key =>
        if isKeyed then pure key
        else do
          let index ← evaluate "" key
          pure (toString (if index < 0 then index + elements.next else index))
      | none => pure (toString next)
    next := Elements.index key + 1
    let value ← withTraits traits element.value
    let value := if element.adds then (elements.get? key).getD "" ++ value else value
    setElements name (some (elements.put key value))

def assign (name value : String) : Run Unit := do
  let scope := (← get).scope
  match scope.language with
  | .extended => give { name } false value
  | .plain =>
    if scope.fixed.contains name then fail 2 (name ++ ": is read only")
    else
      setValue name (some value)
      noteAssigned name value

/-! ## Outcomes -/

/-- Does what a program has done: writes what it wrote, lets its time pass and sets its status. -/
def emit (outcome : Outcome) : Run Unit := do
  let scope := (← get).scope
  for (stream, content) in outcome.written do
    write (scope.channel (match stream with
      | .output => 1
      | .messages => 2)) content
  if forever.nanoseconds ≤ outcome.elapsed.nanoseconds then throw .endless
  else
    wait outcome.elapsed
    match outcome.ending with
    | .exited status => setStatus status
    | .killed signal => throw (.killed signal)

/-! ## Subshells -/

/-- Runs commands with a copy of the scope. If they end the shell, only the subshell ends, with the
status of what was run last. -/
def inSubshell (commands : Run Unit) : Run Unit := do
  let scope := (← get).scope
  let directory := (← get).disk.workingDirectory
  try
    tryCatch commands fun
      | .endless => throw .endless
      | .signal number => throw (.signal number)
      | .killed number => throw (.killed number)
      | _ => return ()
  finally
    modify fun state =>
      { state with
        scope := { scope with status := state.scope.status % 256 }
        disk := { state.disk with workingDirectory := directory } }

/-- Runs commands and takes what they write to the output, up to where they are interrupted. -/
def capture (commands : Run Unit) : Run (List UInt8 × Option Interruption) := do
  let index := (← get).buffers.size
  modify fun state => { state with buffers := state.buffers.push #[] }
  let interruption ← tryCatch
    (do
      inSubshell do
        modifyScope fun scope => scope.withStream 1 (some (.buffer index))
        commands
      return none)
    fun interruption => return some interruption
  modifyGet fun state =>
    (((state.buffers[index]?.getD #[]).toList, interruption),
      { state with buffers := state.buffers.take index })

end Run

end SymbolCache.Program.Shell
