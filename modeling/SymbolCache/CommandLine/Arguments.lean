import SymbolCache.Text.Cut
import SymbolCache.Text.Natural

/-!
# Arguments

What the arguments of the program ask for. Options may stand before and after the command and
between its arguments, as far as they belong there; after two dashes everything is an argument. An
option that takes a value has it attached or as the next argument, and stands once at each place.
-/

set_option autoImplicit false

namespace SymbolCache.CommandLine

inductive Command where
  | init
  | index (force : Bool)
  | query (text : String) (limit : Option Nat)
  | complete (line : String) (file : Option String) (limit : Option Nat)
  | refresh (packages : List String)
  | status
  deriving Repr, DecidableEq

structure Arguments where
  /-- The root of the workspace, if it is not to be looked for. -/
  root : Option String
  json : Bool
  command : Command
  deriving Repr, DecidableEq

/-- Why the arguments do not say what to do. -/
inductive Refusal where
  | help
  | invalid
  deriving Repr, DecidableEq

/-! ## Options -/

inductive OptionUse where
  | flag
  | counter
  /-- It stands at most once and takes a path, which must not be empty. -/
  | path
  | number
  deriving Repr, DecidableEq

/-- An option: its name after two dashes, and the letter after one dash if it has one. -/
structure OptionForm where
  name : String
  letter : Option Char
  use : OptionUse
  deriving Repr, DecidableEq

namespace OptionForm

def takesValue (form : OptionForm) : Bool :=
  form.use = .path || form.use = .number

def accepts (form : OptionForm) (text : String) : Bool :=
  match form.use with
  | .path => !text.isEmpty
  | .number => (Text.natural? Text.word64 text.toList).isSome
  | .flag | .counter => false

end OptionForm

def rootOption : OptionForm := ⟨"root", none, .path⟩

def jsonOption : OptionForm := ⟨"json", none, .flag⟩

def verboseOption : OptionForm := ⟨"verbose", some 'v', .counter⟩

def helpOption : OptionForm := ⟨"help", some 'h', .flag⟩

def generalOptions : List OptionForm :=
  [rootOption, jsonOption, verboseOption, helpOption]

def limitOption : OptionForm := ⟨"limit", none, .number⟩

def forceOption : OptionForm := ⟨"force", none, .flag⟩

def fileOption : OptionForm := ⟨"file", some 'f', .path⟩

/-! ## Reading -/

inductive Form where
  | plain (text : String)
  | escape
  | long (name : List Char) (attached : Option (List Char))
  | short (letters : List Char)
  deriving Repr, DecidableEq

def Form.of (argument : String) : Form :=
  match argument.toList with
  | ['-', '-'] => .escape
  | '-' :: '-' :: rest =>
    match Text.splitOnce '=' rest with
    | some (name, value) => .long name (some value)
    | none => .long rest none
  | '-' :: letter :: letters => .short (letter :: letters)
  | _ => .plain argument

/-- What is read of the arguments at one place: before the command or after it. -/
structure Reading where
  /-- The options without a value, each time they stand. -/
  flags : List String := []
  values : List (String × String) := []
  plain : List String := []
  deriving Repr, DecidableEq

namespace Reading

def addFlag (form : OptionForm) (reading : Reading) : Except Refusal Reading :=
  if form = helpOption then .error .help
  else if form.use = .flag && reading.flags.contains form.name then .error .invalid
  else .ok { reading with flags := form.name :: reading.flags }

def addValue (form : OptionForm) (value : String) (reading : Reading) : Except Refusal Reading :=
  if !form.accepts value || reading.values.any fun entry => entry.1 == form.name then
    .error .invalid
  else .ok { reading with values := (form.name, value) :: reading.values }

def addPlain (most : Option Nat) (text : String) (reading : Reading) : Except Refusal Reading :=
  if most.any fun most => most ≤ reading.plain.length then .error .invalid
  else .ok { reading with plain := reading.plain ++ [text] }

def value? (form : OptionForm) (reading : Reading) : Option String :=
  (reading.values.find? fun entry => entry.1 == form.name).map Prod.snd

def has (form : OptionForm) (reading : Reading) : Bool :=
  reading.flags.contains form.name

end Reading

/-- What reading an argument leads to: it is done, or the next one is the value of an option. -/
inductive Progress where
  | done (reading : Reading)
  | awaits (form : OptionForm) (reading : Reading)

def dropEquals : List Char → List Char
  | '=' :: rest => rest
  | text => text

/-- Reads the letters after one dash. The letter of an option with a value ends them; what follows
it is the value. -/
def readLetters (options : List OptionForm) : Reading → List Char → Except Refusal Progress
  | reading, [] => .ok (.done reading)
  | reading, letter :: letters =>
    match options.find? fun form => form.letter = some letter with
    | none => .error .invalid
    | some form =>
      if form.takesValue then
        if letters.isEmpty then .ok (.awaits form reading)
        else (reading.addValue form (String.ofList (dropEquals letters))).map .done
      else do
        let reading ← reading.addFlag form
        readLetters options reading letters

def readLong (options : List OptionForm) (reading : Reading) (name : List Char)
    (attached : Option (List Char)) : Except Refusal Progress :=
  match options.find? fun form => form.name = String.ofList name with
  | none => .error .invalid
  | some form =>
    if form.takesValue then
      match attached with
      | some value => (reading.addValue form (String.ofList value)).map .done
      | none => .ok (.awaits form reading)
    else if attached.isSome then .error .invalid
    else (reading.addFlag form).map .done

/-- Reads the arguments after the command, with the options that belong there and the most plain
arguments that may stand there. -/
def readAll (options : List OptionForm) (most : Option Nat) :
    Reading → List String → Except Refusal Reading
  | reading, [] => .ok reading
  | reading, argument :: rest =>
    let next : Except Refusal Progress :=
      match Form.of argument with
      | .plain text => (reading.addPlain most text).map .done
      | .escape => .ok (.done reading)
      | .long name attached => readLong options reading name attached
      | .short letters => readLetters options reading letters
    match Form.of argument, next, rest with
    | .escape, _, rest => .ok { reading with plain := reading.plain ++ rest }
    | _, .error refusal, _ => .error refusal
    | _, .ok (.done reading), rest => readAll options most reading rest
    | _, .ok (.awaits _ _), [] => .error .invalid
    | _, .ok (.awaits form reading), value :: rest =>
      match Form.of value with
      | .plain value => do
        let reading ← reading.addValue form value
        readAll options most reading rest
      | _ => .error .invalid

/-- Reads the arguments before the command, and gives the command and what follows it. -/
def readToCommand : Reading → List String → Except Refusal (Reading × String × List String)
  | _, [] => .error .invalid
  | reading, argument :: rest =>
    let next : Except Refusal Progress :=
      match Form.of argument with
      | .long name attached => readLong generalOptions reading name attached
      | .short letters => readLetters generalOptions reading letters
      | _ => .error .invalid
    match Form.of argument, next, rest with
    | .plain command, _, rest => .ok (reading, command, rest)
    | _, .error refusal, _ => .error refusal
    | _, .ok (.done reading), rest => readToCommand reading rest
    | _, .ok (.awaits _ _), [] => .error .invalid
    | _, .ok (.awaits form reading), value :: rest =>
      match Form.of value with
      | .plain value => do
        let reading ← reading.addValue form value
        readToCommand reading rest
      | _ => .error .invalid

/-! ## Understanding -/

def Reading.limit? (reading : Reading) : Option Nat :=
  (reading.value? limitOption).bind fun text => Text.natural? Text.word64 text.toList

def commandOptions? : String → Option (List OptionForm)
  | "init" | "status" | "refresh" => some []
  | "index" => some [forceOption]
  | "query" => some [limitOption]
  | "complete" => some [fileOption, limitOption]
  | _ => none

def mostPlain : String → Option Nat
  | "query" | "complete" => some 1
  | "refresh" => none
  | _ => some 0

def commandOf (name : String) (reading : Reading) : Except Refusal Command :=
  match name, reading.plain with
  | "init", [] => .ok .init
  | "status", [] => .ok .status
  | "index", [] => .ok (.index (reading.has forceOption))
  | "query", [text] => .ok (.query text reading.limit?)
  | "complete", [line] => .ok (.complete line (reading.value? fileOption) reading.limit?)
  | "refresh", package :: packages => .ok (.refresh (package :: packages))
  | _, _ => .error .invalid

/-- Why asking for help is no command: it was help, on the program or on one of its commands, or on
something else. -/
def helpRefusal : List String → Refusal
  | [] => .help
  | [name] => if name = "help" || (commandOptions? name).isSome then .help else .invalid
  | _ => .invalid

/-- What the arguments of the program ask for. An option after the command counts more than the same
option before it. -/
def Arguments.parse (arguments : List String) : Except Refusal Arguments := do
  let (before, name, rest) ← readToCommand {} arguments
  if name = "help" then throw (helpRefusal rest)
  match commandOptions? name with
  | none => throw .invalid
  | some options =>
    let after ← readAll (options ++ generalOptions) (mostPlain name) {} rest
    let command ← commandOf name after
    return {
      root := (after.value? rootOption).or (before.value? rootOption)
      json := before.has jsonOption || after.has jsonOption
      command }

end SymbolCache.CommandLine
