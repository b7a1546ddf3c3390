import SymbolCache.Program.Record.Value
import SymbolCache.Program.Record.Script
import SymbolCache.Program.Record.Search
import SymbolCache.Program.Record.Table
import SymbolCache.Program.Shell.Control

/-!
# The memory of a script for records

What a running script knows and changes: what names stand for, the record and its fields, and what
is open for reading and writing.
-/

set_option autoImplicit false

namespace SymbolCache.Program.Record

inductive Cell where
  | unused
  | value (value : Value)
  | table (table : Table)
  /-- What another name stands for, which was not used when it was handed over. -/
  | sameAs (other : Nat)

structure Remainder where
  text : List Char
  isEndless : Bool := false
  /-- The status of the command that printed it, if it comes from one. -/
  status : Nat := 0

structure Memory where
  cells : Array Cell := #[]
  /-- The places of the names that are known everywhere. -/
  globals : Std.HashMap String Nat := {}
  /-- The places of the names that only the function knows that is run. -/
  locals : List (String × Nat) := []
  record : Value := .missing
  /-- The fields of the record, if it has been cut. -/
  fields : Option (Array Value) := some #[]
  /-- The separator of fields at the time when the record was read. -/
  fieldSeparator : List Char := [' ']
  /-- What has been printed and is not written yet. -/
  printed : Array UInt8 := #[]
  files : List (String × Shell.Channel) := []
  /-- The commands that are printed to, with what they are given. The one that was used last comes
  first. -/
  commands : List (String × Array UInt8) := []
  /-- What is left of the files and commands that are read. -/
  remainders : List (Bool × String × Remainder) := []
  /-- What is left of the file that is read for records. -/
  main : Option Remainder := none
  nextArgument : Nat := 1
  hasRead : Bool := false
  /-- The rules between whose conditions the record is. -/
  openRules : List Nat := []
  /-- The number that the sequence of random numbers hangs on, and the one before. -/
  seed : Value := .number 0.0
  random : Nat := 1
  status : Nat := 0
  steps : Nat := 0

/-- Why a script does not go on with the next statement. -/
inductive Stop where
  | leave
  | goOn
  | nextRecord
  | nextFile
  | exit
  | giveBack (value : Value)
  | failure (text : String)

abbrev Exec (α : Type) := ExceptT Stop (StateT Memory Shell.Run) α

namespace Exec

/-! ## Names -/

def inShell {α : Type} (act : Shell.Run α) : Exec α :=
  liftM act

def placeOf (name : String) : Exec Nat := do
  let memory ← get
  match memory.locals.find? fun entry => entry.1 == name with
  | some (_, place) => return place
  | none =>
    match memory.globals[name]? with
    | some place => return place
    | none =>
      set { memory with
        cells := memory.cells.push .unused
        globals := memory.globals.insert name memory.cells.size }
      return memory.cells.size

/-- The place of what a place is the same as. It is fuelled by the number of places. -/
def rootOf (cells : Array Cell) : Nat → Nat → Nat
  | 0, place => place
  | fuel + 1, place =>
    match cells[place]? with
    | some (.sameAs other) => rootOf cells fuel other
    | _ => place

def putCell (place : Nat) (cell : Cell) : Exec Unit :=
  modify fun memory => { memory with cells := memory.cells.setIfInBounds place cell }

def plainValue (name : String) : Exec Value := do
  let place ← placeOf name
  match (← get).cells[place]? with
  | some (.value value) => return value
  | _ => return .missing

def plainText (name : String) : Exec (List Char) := do
  return (← plainValue name).shown "%.6g".toList

def putValue (name : String) (value : Value) : Exec Unit := do
  putCell (← placeOf name) (.value value)

def textOfValue (value : Value) : Exec (List Char) := do
  match value with
  | .number _ => return value.shown (← plainText "CONVFMT")
  | value => return value.shown []

def fail {α : Type} (text : String) : Exec α := do
  let shown (name : String) : Exec String := do return String.ofList (← plainText name)
  throw (.failure ("run time error: " ++ text ++ "\n\tFILENAME=\"" ++ (← shown "FILENAME") ++
    "\" FNR=" ++ (← shown "FNR") ++ " NR=" ++ (← shown "NR")))

def orFail {α : Type} (made : Except String α) : Exec α :=
  match made with
  | .ok result => return result
  | .error text => throw (.failure text)

def withTable {α : Type} (name : String) (act : Table → α × Table) : Exec α := do
  let place ← placeOf name
  let memory ← get
  let place := rootOf memory.cells memory.cells.size place
  match memory.cells[place]? with
  | some (.table table) =>
    putCell place .unused
    let (result, table) := act table
    putCell place (.table table)
    return result
  | some (.value _) => throw (.failure ("line 1: illegal reference to variable " ++ name))
  | _ =>
    let (result, table) := act {}
    putCell place (.table table)
    return result

/-! ## Writing -/

def flush : Exec Unit := do
  let memory ← get
  if !memory.printed.isEmpty then
    set { memory with printed := #[] }
    inShell do Shell.Run.write ((← get).scope.channel 1) memory.printed.toList

def neverEnd {α : Type} : Exec α := do
  flush
  inShell (throw .endless)

def stepLimit : Nat := 1000000

def countStep : Exec Unit := do
  if stepLimit ≤ (← get).steps then neverEnd
  else modify fun memory => { memory with steps := memory.steps + 1 }

def print (text : List Char) : Exec Unit :=
  modify fun memory => { memory with printed := memory.printed ++ Utility.bytesOf text }

def printToFile (path : String) (isExtended : Bool) (text : List Char) : Exec Unit := do
  if path = "/dev/stdout" || path = "-" then print text
  else
    let content := Utility.bytesOf text
    match (← get).files.find? fun entry => entry.1 == path with
    | some (_, channel) => inShell (Shell.Run.write channel content)
    | none =>
      let state ← inShell get
      let opening : Shell.Opening := if isExtended then .extend else .replaceAlways
      match Shell.Run.openFile state.scope state.disk path opening with
      | .ok (channel, disk) =>
        inShell (modify fun state => { state with disk })
        modify fun memory => { memory with files := (path, channel) :: memory.files }
        inShell (Shell.Run.write channel content)
      | .error error =>
        throw (.failure ("cannot open \"" ++ path ++ "\" for output (" ++ error.reason ++ ")"))

def printToCommand (command : String) (text : List Char) : Exec Unit := do
  let isThis (entry : String × Array UInt8) : Bool := entry.1 == command
  let before ← match (← get).commands.find? isThis with
    | some (_, before) => pure before
    | none => do
      flush
      pure #[]
  modify fun memory =>
    { memory with
      commands := (command, before ++ Utility.bytesOf text) ::
        memory.commands.filter fun entry => !isThis entry }

/-! ## Fields -/

def putRecord (value : Value) : Exec Unit := do
  let fieldSeparator ← plainText "FS"
  modify fun memory => { memory with record := value, fields := none, fieldSeparator }

def fields : Exec (Array Value) := do
  let memory ← get
  match memory.fields with
  | some fields => return fields
  | none =>
    let separator ← orFail (Separator.ofText memory.fieldSeparator)
    let text ← textOfValue memory.record
    let fields := ((separator.cut text).map Value.input).toArray
    modify fun memory => { memory with fields := some fields }
    return fields

def putFields (fields : Array Value) : Exec Unit := do
  let texts ← fields.toList.mapM textOfValue
  let record := (← plainText "OFS").intercalate texts
  modify fun memory => { memory with record := .input record, fields := some fields }

def fieldValue (number : Int) : Exec Value := do
  if number < 0 then fail ("negative field index $" ++ toString number)
  else if number = 0 then return (← get).record
  else return (← fields)[number.toNat - 1]?.getD .missing

def withCount (fields : Array Value) (count : Nat) : Array Value :=
  fields.take count ++ Array.replicate (count - fields.size) (.input [])

def putField (number : Int) (value : Value) : Exec Unit := do
  if number < 0 then fail ("negative field index $" ++ toString number)
  else if number = 0 then putRecord value
  else
    let before ← fields
    let all := withCount before (max before.size number.toNat)
    putFields (all.setIfInBounds (number.toNat - 1) value)

def valueOf (name : String) : Exec Value := do
  if name = "NF" then return .ofInt (← fields).size
  else
    let place ← placeOf name
    match (← get).cells[place]? with
    | some (.value value) => return value
    | some (.table _) => throw (.failure ("line 1: illegal reference to array " ++ name))
    | _ => return .missing

def putName (name : String) (value : Value) : Exec Unit := do
  if name = "NF" then
    let count := integerOf value.toNumber
    if count < 0 then fail "negative value assigned to NF"
    else putFields (withCount (← fields) count.toNat)
  else
    let place ← placeOf name
    match (← get).cells[place]? with
    | some (.table _) => throw (.failure ("line 1: illegal reference to array " ++ name))
    | _ => putCell place (.value value)

inductive Place where
  | name (name : String)
  | element (table : String) (key : Key)
  | field (number : Int)

def valueAt : Place → Exec Value
  | .name name => valueOf name
  | .element table key => withTable table fun table => (table.value key, table.add key)
  | .field number => fieldValue number

def putAt (value : Value) : Place → Exec Unit
  | .name name => putName name value
  | .element table key => withTable table fun table => ((), table.put key value)
  | .field number => putField number value

/-! ## Reading -/

/-- Takes a record from the front of something that is read. Gives what is left, if there was one.
-/
def takeFrom (remainder : Remainder) : Exec (Option (List Char × Remainder)) := do
  match ← orFail (takeRecord (← plainText "RS") remainder.text) with
  | none => if remainder.isEndless then neverEnd else return none
  | some (record, rest) =>
    if rest.isEmpty && remainder.isEndless then neverEnd
    else return some (record, { remainder with text := rest })

def remainderOf (input : Shell.Input) : Remainder where
  text := Utility.charactersOf input.content
  isEndless := input.isEndless

def takeInput : Exec Remainder :=
  inShell do
    let input := (← get).input
    modify fun state => state.withInput {}
    return remainderOf input

def openMain (path : String) : Exec Unit := do
  let remainder ←
    if path = "-" || path = "/dev/stdin" then takeInput
    else
      match Shell.Run.inputOf (← inShell get).disk path with
      | .ok input => pure (remainderOf input)
      | .error error =>
        throw (.failure ("cannot open \"" ++ path ++ "\" (" ++ error.reason ++ ")"))
  putValue "FILENAME" (.text (if path = "-" then [] else Utility.wordCharacters path))
  putValue "FNR" (.ofInt 0)
  modify fun memory => { memory with main := some remainder, hasRead := true }

def assignmentOf? (word : List Char) : Option (String × Value) :=
  match Text.splitOnce '=' word with
  | some (name, value) =>
    if name.isEmpty || !name.all isNameCharacter || (name.head?.any Text.isAsciiDigit) then none
    else some (String.ofList name, .input (textOf value))
  | none => none

/-- Opens the next file for records. Tells whether there was one. It is fuelled by the number of
arguments. -/
def openNext : Nat → Exec Bool
  | 0 => return false
  | fuel + 1 => do
    let memory ← get
    let count := integerOf (← plainValue "ARGC").toNumber
    if (memory.nextArgument : Int) < count then
      set { memory with nextArgument := memory.nextArgument + 1 }
      let value ← withTable "ARGV" fun table =>
        (table.value (.number memory.nextArgument), table)
      let word := value.shown []
      if word.isEmpty then openNext fuel
      else
        match assignmentOf? word with
        | some (name, value) =>
          putName name value
          openNext fuel
        | none =>
          openMain (Utility.wordOf word)
          return true
    else if memory.hasRead then return false
    else
      openMain "-"
      return true

/-- The next record of the files for records. It is fuelled by the number of files. -/
def nextMain : Nat → Exec (Option (List Char))
  | 0 => return none
  | fuel + 1 => do
    match (← get).main with
    | none =>
      let count := (integerOf (← plainValue "ARGC").toNumber).toNat
      if ← openNext (count + 2) then nextMain fuel else return none
    | some remainder =>
      match ← takeFrom remainder with
      | none =>
        modify fun memory => { memory with main := none }
        nextMain fuel
      | some (record, rest) =>
        modify fun memory => { memory with main := some rest }
        for name in ["NR", "FNR"] do
          putValue name (.number ((← plainValue name).toNumber + 1.0))
        return some record

def fileLimit : Nat := 100000

/-- The next record of a file or of what a command prints. `open` gives all of it, if it can be
read. -/
def nextOf (isCommand : Bool) (name : String) (opened : Exec (Option Remainder)) :
    Exec (Option (Option (List Char))) := do
  let isThis (entry : Bool × String × Remainder) : Bool :=
    entry.1 == isCommand && entry.2.1 == name
  let remainder? ← match (← get).remainders.find? isThis with
    | some (_, _, remainder) => pure (some remainder)
    | none => opened
  match remainder? with
  | none => return none
  | some remainder =>
    let taken ← takeFrom remainder
    let rest := (taken.map Prod.snd).getD { remainder with text := [] }
    modify fun memory =>
      { memory with
        remainders := (isCommand, name, rest) ::
          memory.remainders.filter fun entry => !isThis entry }
    return some (taken.map Prod.fst)

end Exec

end SymbolCache.Program.Record
