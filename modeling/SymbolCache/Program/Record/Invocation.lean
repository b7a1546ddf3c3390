import SymbolCache.Program.Record.Run

/-!
# How scripts for records are invoked

The words with which a script is run: options, the script itself, and the files that are read for
records. A word may also give a value to a name.
-/

set_option autoImplicit false

namespace SymbolCache.Program.Record

structure Invocation where
  /-- The names that are given values before the script runs. -/
  given : List (String × Value) := []
  files : List String := []
  words : List String := []

namespace Invocation

def withOption (invocation : Invocation) (letter : Char) (value : String) :
    Except String Invocation := do
  match letter with
  | 'F' =>
    let separator := Value.input (textOf (Utility.wordCharacters value))
    return { invocation with given := invocation.given ++ [("FS", separator)] }
  | 'v' =>
    match Exec.assignmentOf? (Utility.wordCharacters value) with
    | some entry => return { invocation with given := invocation.given ++ [entry] }
    | none => throw ("improper assignment: -v " ++ value)
  | _ => return { invocation with files := invocation.files ++ [value] }

/-- Reads options up to the first word that is none. A value may stand in the same word. -/
def ofWords (invocation : Invocation) : List String → Except String Invocation
  | [] => return invocation
  | "--" :: words => return { invocation with words }
  | word :: words => do
    match word.toList with
    | '-' :: letter :: value =>
      if !(['F', 'v', 'f'].contains letter) then throw ("not an option: " ++ word)
      else if !value.isEmpty then
        ofWords (← invocation.withOption letter (String.ofList value)) words
      else
        match words with
        | [] => throw ("option -" ++ String.singleton letter ++ " lacks argument")
        | value :: words => ofWords (← invocation.withOption letter value) words
    | _ => return { invocation with words := word :: words }

def knownValues : List (String × Value) :=
  [("NR", .number 0.0), ("FNR", .number 0.0), ("FS", .text [' ']), ("RS", .text ['\n']),
    ("OFS", .text [' ']), ("ORS", .text ['\n']), ("SUBSEP", .text ['\x1c']),
    ("CONVFMT", .text "%.6g".toList), ("OFMT", .text "%.6g".toList), ("FILENAME", .missing),
    ("RSTART", .number 0.0), ("RLENGTH", .number (-1.0))]

def tableOf (values : List (String × String)) : Table :=
  values.foldl
    (fun table (name, value) => table.put (.text name) (.input (Utility.wordCharacters value))) {}

/-- Makes the names of a script known, and gives values to those that have some. -/
def prepare (invocation : Invocation) (self : String) (tokens : List Token) : Exec Unit := do
  for (name, value) in knownValues do
    Exec.putValue name value
  for token in tokens do
    match token.kind with
    | .name name => let _ ← Exec.placeOf name
    | _ => pure ()
  let scope := (← Exec.inShell get).scope
  let environment := scope.values.reverse.filter fun entry => scope.exported.contains entry.1
  Exec.putCell (← Exec.placeOf "ENVIRON") (.table (tableOf environment))
  let arguments := self :: invocation.words
  let table : Table := (List.range arguments.length).foldl
    (fun table (index : Nat) =>
      let word := (arguments[index]?).getD ""
      table.put (.number index) (.input (Utility.wordCharacters word))) {}
  Exec.putCell (← Exec.placeOf "ARGV") (.table table)
  Exec.putValue "ARGC" (.ofInt arguments.length)
  for (name, value) in invocation.given do
    Exec.putName name value

/-- The script of an invocation, and the invocation without the word that is the script. -/
def script (invocation : Invocation) : Shell.Run (Except String (List Char × Invocation)) := do
  match invocation.files, invocation.words with
  | [], [] => return .error "no program"
  | [], text :: words => return .ok (Utility.wordCharacters text, { invocation with words })
  | files, _ =>
    let disk := (← get).disk
    let mut text := []
    for path in files do
      match Shell.Run.inputOf disk path with
      | .ok input => text := text ++ Utility.charactersOf input.content ++ ['\n']
      | .error error => return .error ("cannot open \"" ++ path ++ "\" (" ++ error.reason ++ ")")
    return .ok (text, invocation)

end Invocation

def refuse (self text : String) : Shell.Run Unit :=
  let lines := (Text.split '\n' text.toList).map fun line => self ++ ": " ++ String.ofList line
  Shell.Run.emit (.failure 2 (String.join (lines.map (· ++ "\n"))))

/-- Runs a script with the words of an invocation. `shell` runs a command of the shell. -/
def perform (self : String) (shell : String → Shell.Run Unit) (words : List String) :
    Shell.Run Unit := do
  match Invocation.ofWords {} words with
  | .error text => refuse self text
  | .ok invocation =>
    match ← invocation.script with
    | .error text => refuse self text
    | .ok (text, invocation) =>
      match Script.ofText text with
      | .error text => refuse self text
      | .ok script =>
        let setting : Setting := { script, shell }
        let act : Exec Unit := do
          invocation.prepare self (tokensOf text)
          Exec.runScript setting
        let (result, memory) ← act.run.run {}
        if let .error (.failure text) := result then
          Shell.Run.emit (.failure 2 (self ++ ": " ++ text ++ "\n"))
        let _ ← (Exec.finish setting).run.run memory
        Shell.Run.setStatus (if result matches .error (.failure _) then 2 else memory.status)

end SymbolCache.Program.Record
