import SymbolCache.Disk.Basic
import SymbolCache.Program.Permission
import SymbolCache.Program.Quoting

/-!
# Utilities

A utility works on words, on the disk and on its input, and then ends. The words that start with a
minus sign are its options.
-/

set_option autoImplicit false

namespace SymbolCache.Program

structure Surroundings where
  disk : Disk
  input : List UInt8 := []
  /-- Whether the input goes on forever after what is given of it. -/
  isEndless : Bool := false
  /-- The file to which the output goes, if it goes to one. -/
  output : Option Location := none
  /-- The permissions that are taken from what is made. -/
  mask : Nat := 0o022

/-- A utility: what it leaves behind for its words, and how it leaves its surroundings. -/
abbrev Utility := List String → StateM Surroundings Outcome

namespace Utility

/-! ## Reading -/

def zeroes : Location := ["dev", "zero"]

def nothing : Location := ["dev", "null"]

def inputFile : Location := ["dev", "stdin"]

/-- A content, and how long it takes to read all of it. -/
structure Reading where
  content : List UInt8
  elapsed : Duration := ⟨0⟩

def readInput : StateM Surroundings Reading :=
  modifyGet fun surroundings =>
    (⟨surroundings.input, if surroundings.isEndless then forever else ⟨0⟩⟩,
      { surroundings with input := [] })

def endlessLength : Nat := 65536

/-- Reads a file, or the whole input if the path is a single minus sign or leads to it. What is in a
pipe is taken from it; a pipe with nothing in it is waited for. -/
def readFile (path : String) : StateM Surroundings (Except FileError Reading) := do
  if path = "-" then return .ok (← readInput)
  else
    let disk := (← get).disk
    match disk.locate path, disk.find path with
    | .error error, _ | _, .error error => return .error error
    | _, .ok .directory => return .error .isDirectory
    | .ok location, .ok (.file content) =>
      if location = zeroes then return .ok ⟨List.replicate endlessLength 0, forever⟩
      else if location = nothing then return .ok ⟨[], ⟨0⟩⟩
      else if location = inputFile then return .ok (← readInput)
      else if Permission.isPipeAt disk location then
        modify fun surroundings =>
          { surroundings with disk := surroundings.disk.put location (.file .empty) }
        return .ok ⟨content.toList, if content.isEmpty then forever else ⟨0⟩⟩
      else return .ok ⟨content.toList, ⟨0⟩⟩

def change (change : Disk → Except FileError Disk) : StateM Surroundings (Except FileError Unit) :=
  modifyGet fun surroundings =>
    match change surroundings.disk with
    | .ok disk => (.ok (), { surroundings with disk })
    | .error error => (.error error, surroundings)

def onEach (utility : String → StateM Surroundings Outcome) : Utility
  | [] => return {}
  | word :: words => do
    let outcome ← utility word
    return outcome.andThen (← onEach utility words)

/-! ## Options -/

/-- The options that a utility was given, each with its value or nothing, and its other words. -/
structure Options where
  given : List (Char × String) := []
  words : List String := []

def Options.has (options : Options) (letter : Char) : Bool :=
  options.given.any fun option => option.1 == letter

def Options.value? (options : Options) (letter : Char) : Option String :=
  (options.given.reverse.find? fun option => option.1 == letter).map Prod.snd

structure OptionForm where
  name : String
  status : Nat := 1
  plain : String := ""
  valued : String := ""
  /-- The letters of the options with a value only if it stands in the same word. -/
  attached : String := ""
  long : List (String × Char) := []
  /-- Whether no options follow the first other word. -/
  stopsAtWord : Bool := false
  usage : String := ""

inductive OptionError where
  | unknown (letter : Char)
  | unknownWord (word : String)
  | ambiguous (word : String) (names : List String)
  | missingValue (letter : Char)
  | missingLongValue (name : String)
  | extraValue (name : String)

def OptionError.message : OptionError → String
  | .unknown letter => "invalid option -- '" ++ String.singleton letter ++ "'"
  | .unknownWord word => "unrecognized option '" ++ word ++ "'"
  | .ambiguous word names =>
    "option '" ++ word ++ "' is ambiguous; possibilities:" ++
      String.join (names.map fun name => " '--" ++ name ++ "'")
  | .missingValue letter => "option requires an argument -- '" ++ String.singleton letter ++ "'"
  | .missingLongValue name => "option '--" ++ name ++ "' requires an argument"
  | .extraValue name => "option '--" ++ name ++ "' doesn't allow an argument"

/-- What a word of options gives: options with their values, and the option that still needs one
together with the mistake if there is none. -/
structure OptionWord where
  given : List (Char × String) := []
  pending : Option (Char × OptionError) := none

def readLetters (form : OptionForm) : List Char → Except OptionError OptionWord
  | [] => .ok {}
  | letter :: rest =>
    if form.valued.toList.contains letter then
      if rest.isEmpty then .ok { pending := some (letter, .missingValue letter) }
      else .ok { given := [(letter, String.ofList rest)] }
    else if form.attached.toList.contains letter then
      .ok { given := [(letter, String.ofList rest)] }
    else if form.plain.toList.contains letter then
      (readLetters form rest).map fun word => { word with given := (letter, "") :: word.given }
    else .error (.unknown letter)

def readLong (form : OptionForm) (word : String) (text : List Char) :
    Except OptionError OptionWord :=
  let start := String.ofList (text.takeWhile (· != '='))
  let value? := match text.dropWhile (· != '=') with
    | [] => none
    | _ :: value => some (String.ofList value)
  let candidates := match form.long.filter fun entry => entry.1 == start with
    | [] => form.long.filter fun entry => entry.1.startsWith start
    | exact => exact
  match candidates with
  | [] => .error (.unknownWord word)
  | (name, letter) :: others =>
    if others.any fun other => other.2 != letter then
      .error (.ambiguous word (candidates.map Prod.fst))
    else if form.valued.toList.contains letter then
      match value? with
      | some value => .ok { given := [(letter, value)] }
      | none => .ok { pending := some (letter, .missingLongValue name) }
    else
      match value? with
      | none => .ok { given := [(letter, "")] }
      | some value =>
        if form.attached.toList.contains letter then .ok { given := [(letter, value)] }
        else .error (.extraValue name)

/-- Reads options among words. `pending` is the option that gets the next word as its value. -/
def readOptions (form : OptionForm) (pending : Option (Char × OptionError)) :
    List String → Except OptionError Options
  | [] =>
    match pending with
    | some (_, error) => .error error
    | none => .ok {}
  | word :: words => do
    let goOn (first : OptionWord) : Except OptionError Options := do
      let options ← readOptions form first.pending words
      return { options with given := first.given ++ options.given }
    match pending, word.toList with
    | some (letter, _), _ => goOn { given := [(letter, word)] }
    | none, ['-', '-'] => return { words }
    | none, '-' :: '-' :: text => goOn (← readLong form word text)
    | none, '-' :: letter :: letters => goOn (← readLetters form (letter :: letters))
    | none, _ =>
      if form.stopsAtWord then return { words := word :: words }
      else
        let options ← goOn {}
        return { options with words := word :: options.words }

def misuse (status : Nat) (name text : String) : Outcome :=
  .failure status
    (name ++ ": " ++ text ++ "\nTry '" ++ name ++ " --help' for more information.\n")

def withOptions (form : OptionForm) (utility : Options → StateM Surroundings Outcome) : Utility :=
  fun words =>
    match readOptions form none words with
    | .ok options => utility options
    | .error error =>
      return .failure form.status (form.name ++ ": " ++ error.message ++ "\n" ++ form.usage ++
        "Try '" ++ form.name ++ " --help' for more information.\n")

def complaint (status : Nat) (name text : String) : Outcome :=
  .failure status (name ++ ": " ++ text ++ "\n")

def fileFailure (status : Nat) (name text : String) (error : FileError) : Outcome :=
  complaint status name (text ++ ": " ++ error.reason)

end Utility

end SymbolCache.Program
