import SymbolCache.Program.Record.Memory

/-!
# Running scripts for records

What the expressions and statements of a script do, and how its rules are run for the records of the
input. All functions that run something are fuelled by how deep expressions, statements and calls
may stand in each other; a script that goes deeper never ends.
-/

set_option autoImplicit false

namespace SymbolCache.Program.Record

/-- What a script is run with: the script itself, and what runs a command of the shell. -/
structure Setting where
  script : Script
  shell : String → Shell.Run Unit

namespace Exec

/-! ## Commands -/

def runCommand (setting : Setting) (command : String) : Exec Nat :=
  inShell do
    setting.shell command
    return (← get).scope.status

def closeCommands (setting : Setting) (closed : List (String × Array UInt8)) : Exec Nat := do
  let mut status := 0
  for (command, content) in closed do
    inShell (Shell.Run.withInput { content := content.toList } (setting.shell command))
    status := (← inShell get).scope.status
  return status

/-- Closes what is open by a name. Gives the status of a command, and a number below zero if nothing
is open. -/
def close (setting : Setting) (name : String) : Exec Int := do
  let memory ← get
  let isThis {α : Type} (entry : String × α) : Bool := entry.1 == name
  let (closed, commands) := memory.commands.partition isThis
  let (read, remainders) := memory.remainders.partition fun entry => entry.2.1 == name
  set { memory with
    commands, remainders, files := memory.files.filter fun entry => !isThis entry }
  if !closed.isEmpty then return (← closeCommands setting closed)
  else if memory.files.any isThis then return 0
  else
    match read with
    | [] => return -1
    | (_, _, remainder) :: _ => return remainder.status

def outputOf (setting : Setting) (command : String) : Exec (Option Remainder) := do
  flush
  inShell do
    let (content, interruption) ← Shell.Run.capture (setting.shell command)
    let isEndless := interruption = some .endless
    if !isEndless then interruption.forM fun interruption => throw interruption
    let status := (← get).scope.status
    return some { text := Utility.charactersOf content, isEndless, status }

def contentOf (path : String) : Exec (Option Remainder) := do
  if path = "-" || path = "/dev/stdin" then return some (← takeInput)
  else
    match Shell.Run.inputOf (← inShell get).disk path with
    | .ok input => return some (remainderOf input)
    | .error _ => return none

/-! ## Values -/

def keyOf (value : Value) : Exec Key := do
  match value with
  | .number number =>
    match plainInteger? number with
    | some whole =>
      if whole.natAbs < Nat.pow 2 31 then return .number whole
      else return .text (String.ofList (← textOfValue value))
    | none => return .text (String.ofList (← textOfValue value))
  | value => return .text (String.ofList (value.shown []))

def operate (operator : Operator) (first second : Value) : Exec Value := do
  let compared (accepts : Ordering → Bool) (unordered : Bool) : Exec Value := do
    let format ← plainText "CONVFMT"
    return .ofBool (((first.order? (Value.shown format) second).map accepts).getD unordered)
  match operator with
  | .join => return .text ((← textOfValue first) ++ (← textOfValue second))
  | .less => compared (· = .lt) false
  | .lessOrEqual => compared (· ≠ .gt) false
  | .equal => compared (· = .eq) false
  | .notEqual => compared (· ≠ .eq) true
  | .greater => compared (· = .gt) false
  | .greaterOrEqual => compared (· ≠ .lt) false
  | .add => return .number (first.toNumber + second.toNumber)
  | .subtract => return .number (first.toNumber - second.toNumber)
  | .multiply => return .number (first.toNumber * second.toNumber)
  | .divide => return .number (first.toNumber / second.toNumber)
  | .remainder => return .number (remainder first.toNumber second.toNumber)
  | .power => return .number (first.toNumber.pow second.toNumber)

def truncated (number : Float) : Float :=
  if number < 0.0 then number.ceil else number.floor

/-- A part of a text, by the place where it starts and its length, if there is one. A place in front
of the text makes the part longer by as much. -/
def partOf (text : List Char) (start : Float) (length : Option Float) : List Char :=
  let start := integerOf start
  let rest := text.drop (start.toNat - 1)
  match length with
  | none => rest
  | some length =>
    let length := integerOf length
    rest.take (if start < 0 then length - start else length).toNat

def placeIn (part : List Char) : Nat → List Char → Nat
  | place, text =>
    if part.isPrefixOf text then place + 1
    else
      match text with
      | [] => 0
      | _ :: rest => placeIn part (place + 1) rest

def random : Exec Value := do
  let next := ((← get).random * 1103515245 + 12345) % Nat.pow 2 31
  modify fun memory => { memory with random := next }
  return .number (Float.ofNat next / Float.ofNat (Nat.pow 2 31))

def calculate (name : String) (arguments : List Value) : Exec Value := do
  let number (index : Nat) : Float := ((arguments[index]?).getD .missing).toNumber
  let text (index : Nat) : Exec (List Char) := textOfValue ((arguments[index]?).getD .missing)
  let ofFloat (apply : Float → Float) : Value := .number (apply (number 0))
  match name with
  | "atan2" => return .number (Float.atan2 (number 0) (number 1))
  | "cos" => return ofFloat Float.cos
  | "exp" => return ofFloat Float.exp
  | "index" => return .ofInt (placeIn (← text 1) 0 (← text 0))
  | "int" => return ofFloat truncated
  | "log" => return ofFloat Float.log
  | "rand" => random
  | "sin" => return ofFloat Float.sin
  | "sqrt" => return ofFloat Float.sqrt
  | "srand" =>
    let before := (← get).seed
    let seed := arguments.headD (.number 0.0)
    modify fun memory =>
      { memory with seed, random := (integerOf seed.toNumber).natAbs % Nat.pow 2 31 + 1 }
    return before
  | "substr" => return .text (partOf (← text 0) (number 1) (arguments[2]?.map Value.toNumber))
  | "tolower" => return .text ((← text 0).map Char.toLower)
  | "toupper" => return .text ((← text 0).map Char.toUpper)
  | _ => return .missing

def format (name : String) (values : List Value) : Exec (List Char) := do
  let text ← textOfValue (values.headD .missing)
  let filled := fillFormat (← plainText "CONVFMT") (text.length + 1) 0 text values.tail
  match filled.mistake with
  | none => return filled.text
  | some mistake =>
    if name = "printf" then
      fun memory => do
        let (result, memory) ← (fail (mistake ++ " " ++ name ++ "(\"" ++ Utility.wordOf text ++
          "\")") : Exec Unit) memory
        return (result.map fun _ => [],
          { memory with printed := memory.printed ++ Utility.bytesOf filled.text })
    else fail (mistake ++ " " ++ name ++ "(\"" ++ Utility.wordOf text ++ "\")")

/-! ## Loops -/

def loopBody (body : Exec Unit) : Exec Bool :=
  tryCatch
    (do
      body
      return true)
    fun
      | .leave => return false
      | .goOn => return true
      | stop => throw stop

/-- Runs a loop as long as a condition holds. It is fuelled by the number of steps. -/
def loopWhile (condition : Exec Bool) (body step : Exec Unit) : Nat → Exec Unit
  | 0 => neverEnd
  | fuel + 1 => do
    countStep
    if ← condition then
      if ← loopBody body then
        step
        loopWhile condition body step fuel

def loopOver (name : String) (body : Exec Unit) : List String → Exec Unit
  | [] => return ()
  | key :: keys => do
    countStep
    putName name (.text key.toList)
    if ← loopBody body then loopOver name body keys

/-! ## Expressions -/

mutual

def evaluate (setting : Setting) (fuel : Nat) (expression : Expression) : Exec Value :=
  match fuel with
  | 0 => neverEnd
  | fuel + 1 => do
    match expression with
    | .number value => return .number value
    | .text content => return .text content
    | .regular content =>
      let regular ← orFail (readRegular content)
      return .ofBool (isFound regular (← textOfValue (← get).record))
    | .name name => valueOf name
    | .element _ _ | .field _ => valueAt (← locate setting fuel expression)
    | .group inside =>
      let values ← evaluateAll setting fuel inside
      return values.getLastD .missing
    | .assign operator target value =>
      let place ← locate setting fuel target
      let value ← evaluate setting fuel value
      let value ← match operator with
        | none => pure value
        | some operator => do operate operator (← valueAt place) value
      putAt value place
      return value
    | .choice condition first second =>
      if (← evaluate setting fuel condition).holds then evaluate setting fuel first
      else evaluate setting fuel second
    | .both first second =>
      if (← evaluate setting fuel first).holds then
        return .ofBool (← evaluate setting fuel second).holds
      else return .ofBool false
    | .either first second =>
      if (← evaluate setting fuel first).holds then return .ofBool true
      else return .ofBool (← evaluate setting fuel second).holds
    | .not operand => return .ofBool !(← evaluate setting fuel operand).holds
    | .negative operand => return .number (-(← evaluate setting fuel operand).toNumber)
    | .positive operand => return .number (← evaluate setting fuel operand).toNumber
    | .binary operator first second =>
      let first ← evaluate setting fuel first
      operate operator first (← evaluate setting fuel second)
    | .matched text pattern =>
      let text ← textOfValue (← evaluate setting fuel text)
      return .ofBool (isFound (← regularOf setting fuel pattern) text)
    | .contains key table =>
      let key ← keyIn setting fuel key
      withTable table fun table => (.ofBool (table.contains key), table.asked key)
    | .step isAddition comesFirst target =>
      let place ← locate setting fuel target
      let before := (← valueAt place).toNumber
      let after := if isAddition then before + 1.0 else before - 1.0
      putAt (.number after) place
      return .number (if comesFirst then after else before)
    | .call name arguments => call setting fuel name arguments
    | .known name arguments => callKnown setting fuel name arguments
    | .readLine target path =>
      match path with
      | none =>
        match ← nextMain fileLimit with
        | none => return .ofInt 0
        | some record =>
          receive setting fuel target record
          return .ofInt 1
      | some path =>
        let path := Utility.wordOf (← textOfValue (← evaluate setting fuel path))
        receiveNext setting fuel target (← nextOf false path (contentOf path))
    | .readCommand target command =>
      let command := Utility.wordOf (← textOfValue (← evaluate setting fuel command))
      receiveNext setting fuel target (← nextOf true command (outputOf setting command))

def evaluateAll (setting : Setting) (fuel : Nat) : List Expression → Exec (List Value)
  | [] => return []
  | expression :: expressions =>
    match fuel with
    | 0 => neverEnd
    | fuel + 1 => do
      let value ← evaluate setting fuel expression
      return value :: (← evaluateAll setting fuel expressions)

def keyIn (setting : Setting) (fuel : Nat) (key : List Expression) : Exec Key :=
  match fuel with
  | 0 => neverEnd
  | fuel + 1 => do
    match ← evaluateAll setting fuel key with
    | [value] => keyOf value
    | values =>
      let texts ← values.mapM textOfValue
      return .text (String.ofList ((← plainText "SUBSEP").intercalate texts))

/-- The place that an expression stands for. A key of a table is there from then on. -/
def locate (setting : Setting) (fuel : Nat) (target : Expression) : Exec Place :=
  match fuel with
  | 0 => neverEnd
  | fuel + 1 => do
    match target with
    | .name name => return .name name
    | .element table key =>
      let key ← keyIn setting fuel key
      withTable table fun table => ((), table.add key)
      return .element table key
    | .field number =>
      return .field (integerOf (← evaluate setting fuel number).toNumber)
    | _ => return .field 0

def regularOf (setting : Setting) (fuel : Nat) (pattern : Expression) :
    Exec Regular.Expression :=
  match fuel with
  | 0 => neverEnd
  | fuel + 1 => do
    match pattern with
    | .regular content => orFail (readRegular content)
    | pattern => orFail (readRegular (← textOfValue (← evaluate setting fuel pattern)))

/-- Makes a text that was read the value of something or, without anything, the record. -/
def receive (setting : Setting) (fuel : Nat) (target : Option Expression) (text : List Char) :
    Exec Unit :=
  match fuel with
  | 0 => neverEnd
  | fuel + 1 =>
    match target with
    | none => putRecord (.input text)
    | some target => do putAt (.input text) (← locate setting fuel target)

/-- Takes what was read from something. Gives a number below zero if it cannot be read. -/
def receiveNext (setting : Setting) (fuel : Nat) (target : Option Expression)
    (found : Option (Option (List Char))) : Exec Value :=
  match fuel with
  | 0 => neverEnd
  | fuel + 1 => do
    match found with
    | none => return .ofInt (-1)
    | some none => return .ofInt 0
    | some (some text) =>
      receive setting fuel target text
      return .ofInt 1

def callKnown (setting : Setting) (fuel : Nat) (name : String) (arguments : List Expression) :
    Exec Value :=
  match fuel with
  | 0 => neverEnd
  | fuel + 1 => do
    match name, arguments with
    | "length", [] => return .ofInt (← textOfValue (← get).record).length
    | "length", [.name table] =>
      let memory ← get
      let place := rootOf memory.cells memory.cells.size (← placeOf table)
      match memory.cells[place]? with
      | some (.table table) => return .ofInt table.values.size
      | _ => return .ofInt (← textOfValue (← valueOf table)).length
    | "length", argument :: _ =>
      return .ofInt (← textOfValue (← evaluate setting fuel argument)).length
    | "split", text :: .name table :: separator =>
      let text ← textOfValue (← evaluate setting fuel text)
      let separator ← match separator with
        | [] => do orFail (Separator.ofText (← plainText "FS"))
        | .regular content :: _ => Separator.expression <$> orFail (readRegular content)
        | separator :: _ => do
          orFail (Separator.ofText (← textOfValue (← evaluate setting fuel separator)))
      let parts := separator.cut text
      withTable table fun _ => ((), .ofList (parts.map Value.input))
      return .ofInt parts.length
    | "match", [text, pattern] =>
      let text ← textOfValue (← evaluate setting fuel text)
      let (place, length) : Int × Int :=
        match firstFound? (← regularOf setting fuel pattern) text with
        | some (place, length) => (place, length)
        | none => (0, -1)
      putValue "RSTART" (.ofInt place)
      putValue "RLENGTH" (.ofInt length)
      return .ofInt place
    | "sub", pattern :: replacement :: target | "gsub", pattern :: replacement :: target =>
      let regular ← regularOf setting fuel pattern
      let replacement ← textOfValue (← evaluate setting fuel replacement)
      let place ← match target with
        | [] => pure (.field 0)
        | target :: _ => locate setting fuel target
      let text ← textOfValue (← valueAt place)
      let (count, text) := substitute (name = "gsub") regular replacement text
      if 0 < count then putAt (.text text) place
      return .ofInt count
    | "sprintf", arguments =>
      return .text (← format "sprintf" (← evaluateAll setting fuel arguments))
    | "close", argument :: _ =>
      let name ← textOfValue (← evaluate setting fuel argument)
      return .ofInt (← close setting (Utility.wordOf name))
    | "system", argument :: _ =>
      let command ← textOfValue (← evaluate setting fuel argument)
      flush
      return .ofInt (← runCommand setting (Utility.wordOf command))
    | "fflush", _ =>
      flush
      return .ofInt 0
    | name, arguments => calculate name (← evaluateAll setting fuel arguments)

def call (setting : Setting) (fuel : Nat) (name : String) (arguments : List Expression) :
    Exec Value :=
  match fuel with
  | 0 => neverEnd
  | fuel + 1 => do
    countStep
    match setting.script.functions.find? fun function => function.name == name with
    | none => return .missing
    | some function =>
      let given ← handOver setting fuel arguments
      let before ← get
      let base := before.cells.size
      let absent := function.parameters.length - given.length
      let cells : List (Cell ⊕ Nat) := given ++ List.replicate absent (.inl .unused)
      let places := (List.range cells.length).map fun index =>
        match cells[index]? with
        | some (.inr place) => place
        | _ => base + index
      set { before with
        cells := before.cells ++ (cells.map (Sum.elim id fun _ => Cell.unused)).toArray
        locals := function.parameters.zip places }
      let result ← tryCatch
        (do
          execute setting fuel function.body
          return Value.missing)
        fun
          | .giveBack value => return value
          | stop => throw stop
      modify fun memory =>
        { memory with cells := memory.cells.take base, locals := before.locals }
      return result

def handOver (setting : Setting) (fuel : Nat) : List Expression → Exec (List (Cell ⊕ Nat))
  | [] => return []
  | argument :: arguments =>
    match fuel with
    | 0 => neverEnd
    | fuel + 1 => do
      let first ← match argument with
        | .name name => do
          if name = "NF" then pure (Sum.inl (Cell.value (← valueOf name)))
          else
            let place ← placeOf name
            let memory ← get
            let root := rootOf memory.cells memory.cells.size place
            match memory.cells[root]? with
            | some (.table _) => pure (.inr root)
            | some (.value value) => pure (.inl (.value value))
            | _ => pure (.inl (.sameAs root))
        | argument => do pure (.inl (.value (← evaluate setting fuel argument)))
      return first :: (← handOver setting fuel arguments)

def printTo (setting : Setting) (fuel : Nat) (destination : Destination) (text : List Char) :
    Exec Unit :=
  match fuel with
  | 0 => neverEnd
  | fuel + 1 => do
    match destination with
    | .output => print text
    | .file path isExtended =>
      let path ← textOfValue (← evaluate setting fuel path)
      printToFile (Utility.wordOf path) isExtended text
    | .command command =>
      let command ← textOfValue (← evaluate setting fuel command)
      printToCommand (Utility.wordOf command) text

def execute (setting : Setting) (fuel : Nat) (statement : Statement) : Exec Unit :=
  match fuel with
  | 0 => neverEnd
  | fuel + 1 => do
    match statement with
    | .expression expression =>
      let _ ← evaluate setting fuel expression
    | .print arguments destination =>
      let numbers ← plainText "OFMT"
      let texts ← match arguments with
        | [] => do pure [(← get).record.shown numbers]
        | arguments => do
          pure ((← evaluateAll setting fuel arguments).map (Value.shown numbers))
      let text := (← plainText "OFS").intercalate texts ++ (← plainText "ORS")
      printTo setting fuel destination text
    | .printFormat arguments destination =>
      let text ← format "printf" (← evaluateAll setting fuel arguments)
      printTo setting fuel destination text
    | .sequence statements => executeAll setting fuel statements
    | .choice condition body otherwise =>
      if (← evaluate setting fuel condition).holds then execute setting fuel body
      else otherwise.forM (execute setting fuel)
    | .loop comesFirst condition body step =>
      let holds : Exec Bool := do
        match condition with
        | some condition => return (← evaluate setting fuel condition).holds
        | none => return true
      let goesOn ← if comesFirst then loopBody (execute setting fuel body) else pure true
      if goesOn then
        loopWhile holds (execute setting fuel body) (step.forM (execute setting fuel)) stepLimit
    | .forEach name table body =>
      let keys ← withTable table Table.keys
      loopOver name (execute setting fuel body) keys
    | .goOn => throw .goOn
    | .leave => throw .leave
    | .nextRecord => throw .nextRecord
    | .nextFile => throw .nextFile
    | .exit status =>
      match status with
      | some status =>
        let status := integerOf (← evaluate setting fuel status).toNumber
        modify fun memory => { memory with status := (status % 256).toNat }
      | none => pure ()
      throw .exit
    | .giveBack value =>
      match value with
      | some value => throw (.giveBack (← evaluate setting fuel value))
      | none => throw (.giveBack .missing)
    | .delete table key =>
      match key with
      | some key =>
        let key ← keyIn setting fuel key
        withTable table fun table => ((), table.erase key)
      | none => withTable table fun _ => ((), {})

def executeAll (setting : Setting) (fuel : Nat) : List Statement → Exec Unit
  | [] => return ()
  | statement :: statements =>
    match fuel with
    | 0 => neverEnd
    | fuel + 1 => do
      execute setting fuel statement
      executeAll setting fuel statements

end

/-! ## Rules -/

def depthLimit : Nat := 20000

def runAction (setting : Setting) (action : Option Statement) : Exec Unit :=
  match action with
  | some action => execute setting depthLimit action
  | none => execute setting depthLimit (.print [] .output)

def applies (setting : Setting) (number : Nat) : Pattern → Exec Bool
  | .start | .finish => return false
  | .always => return true
  | .holds condition => do return (← evaluate setting depthLimit condition).holds
  | .between first last => do
    let isOpen := (← get).openRules.contains number
    let starts ← if isOpen then pure true else
      do pure (← evaluate setting depthLimit first).holds
    if starts then
      let ends := (← evaluate setting depthLimit last).holds
      modify fun memory =>
        let others := memory.openRules.filter (· != number)
        { memory with openRules := if ends then others else number :: others }
    return starts

def runRules (setting : Setting) : Nat → List Rule → Exec Unit
  | _, [] => return ()
  | number, rule :: rules => do
    if ← applies setting number rule.pattern then runAction setting rule.action
    runRules setting (number + 1) rules

def runRecords (setting : Setting) : Nat → Exec Unit
  | 0 => neverEnd
  | fuel + 1 => do
    match ← nextMain fileLimit with
    | none => return ()
    | some record =>
      countStep
      putRecord (.input record)
      tryCatch (runRules setting 0 setting.script.rules) fun
        | .nextRecord => return ()
        | .nextFile => modify fun memory => { memory with main := none }
        | stop => throw stop
      runRecords setting fuel

def runBorder (setting : Setting) (isBorder : Pattern → Bool) : Exec Unit :=
  (setting.script.rules.filter fun rule => isBorder rule.pattern).forM fun rule =>
    runAction setting rule.action

def upToExit (act : Exec Unit) : Exec Unit :=
  tryCatch act fun
    | .failure text => throw (.failure text)
    | _ => return ()

def runScript (setting : Setting) : Exec Unit := do
  let rules := setting.script.rules
  let isStart (pattern : Pattern) : Bool := pattern matches .start
  let isFinish (pattern : Pattern) : Bool := pattern matches .finish
  upToExit do
    runBorder setting isStart
    if rules.any fun rule => !isStart rule.pattern then
      runRecords setting stepLimit
  upToExit (runBorder setting isFinish)

def finish (setting : Setting) : Exec Unit := do
  let commands := (← get).commands
  modify fun memory => { memory with commands := [] }
  let _ ← closeCommands setting commands
  flush

end Exec

end SymbolCache.Program.Record
