import SymbolCache.Program.Permission
import SymbolCache.Program.Shell.State
import SymbolCache.Program.System

/-!
# Words of the commands of the shell

How the commands that a shell runs itself read their words: options, numbers, names and values.
-/

set_option autoImplicit false

namespace SymbolCache.Program.Shell.Builtin

def number (name word : String) : Run Nat := do
  match Text.natural? 2147483648 word.toList with
  | some value => if word.startsWith "+" then illegal else return value
  | none => illegal
where
  illegal : Run Nat := Run.fail 2 (name ++ ": Illegal number: " ++ word)

def firstNumber (name : String) (default : Nat) (words : List String) : Run Nat :=
  match words with
  | [] => return default
  | word :: _ => number name word

/-- The options in front of the words of a command, each with its value or nothing, and the other
words. Letters that are not known end the script. -/
def readOptions (name plain valued : String) :
    List String → Run (List (Char × String) × List String)
  | [] => return ([], [])
  | word :: words => do
    match word.toList with
    | ['-', '-'] => return ([], words)
    | '-' :: letter :: letters =>
      let all := letter :: letters
      let front := all.takeWhile plain.toList.contains
      let flags := front.map fun letter => (letter, "")
      match all.drop front.length, words with
      | [], words =>
        let (options, words) ← readOptions name plain valued words
        return (flags ++ options, words)
      | [letter], value :: words =>
        if !valued.toList.contains letter then illegal letter
        let (options, words) ← readOptions name plain valued words
        return (flags ++ (letter, value) :: options, words)
      | letter :: value, words =>
        if !valued.toList.contains letter then illegal letter
        if value.isEmpty then
          Run.fail 2 (name ++ ": No arg for -" ++ String.singleton letter ++ " option")
        let (options, words) ← readOptions name plain valued words
        return (flags ++ (letter, String.ofList value) :: options, words)
    | _ => return ([], word :: words)
where
  illegal (letter : Char) : Run Unit :=
    Run.fail 2 (name ++ ": Illegal option -" ++ String.singleton letter)

/-! ## Options in the extended language -/

def usages : List (String × String) :=
  [(".", ". filename [arguments]"), ("alias", "alias [-p] [name[=value] ... ]"),
    ("cd", "cd [-L|[-P [-e]] [-@]] [dir]"), ("command", "command [-pVv] command [arg ...]"),
    ("declare",
      "declare [-aAfFgiIlnrtux] [name[=value] ...] or declare -p [-aAfFilnrtux] [name ...]"),
    ("exec", "exec [-cl] [-a name] [command [argument ...]] [redirection ...]"),
    ("export", "export [-fn] [name[=value] ...] or export -p"),
    ("getopts", "getopts optstring name [arg ...]"),
    ("hash", "hash [-lr] [-p pathname] [-dt] [name ...]"),
    ("kill", "kill [-s sigspec | -n signum | -sigspec] pid | jobspec ... or kill -l [sigspec]"),
    ("local", "local [option] name[=value] ..."),
    ("mapfile",
      "mapfile [-d delim] [-n count] [-O origin] [-s count] [-t] [-u fd] [-C callback] " ++
      "[-c quantum] [array]"),
    ("printf", "printf [-v var] format [arguments]"), ("pwd", "pwd [-LP]"),
    ("read", "read [-ers] [-a array] [-d delim] [-i text] [-n nchars] [-N nchars] [-p prompt] " ++
      "[-t timeout] [-u fd] [name ...]"),
    ("readonly", "readonly [-aAf] [name[=value] ...] or readonly -p"),
    ("set", "set [-abefhkmnptuvxBCEHPT] [-o option-name] [--] [-] [arg ...]"),
    ("shopt", "shopt [-pqsu] [-o] [optname ...]"), ("source", "source filename [arguments]"),
    ("trap", "trap [-lp] [[arg] signal_spec ...]"), ("type", "type [-afptP] name [name ...]"),
    ("typeset",
      "typeset [-aAfFgiIlnrtux] name[=value] ... or typeset -p [-aAfFilnrtux] [name ...]"),
    ("umask", "umask [-p] [-S] [mode]"), ("unalias", "unalias [-a] name [name ...]"),
    ("unset", "unset [-f] [-v] [-n] [name ...]"), ("wait", "wait [-fn] [-p var] [id ...]")]

def showUsage (name : String) : Run Unit := do
  let usage := ((usages.find? fun entry => entry.1 == name).map Prod.snd).getD name
  Run.write ((← get).scope.channel 2) (bytes (name ++ ": usage: " ++ usage ++ "\n"))
  Run.setStatus 2

/-- The options in front of the words of a command, each with its value or nothing, and the other
words, unless something is wrong with them. That is said. -/
def extendedOptions? (name plain valued : String) :
    List String → Run (Option (List (Char × String) × List String))
  | [] => return some ([], [])
  | word :: words => do
    match word.toList with
    | ['-', '-'] => return some ([], words)
    | '-' :: letter :: letters =>
      let all := letter :: letters
      let front := all.takeWhile plain.toList.contains
      let flags := front.map fun letter => (letter, "")
      match all.drop front.length, words with
      | [], words =>
        return (← extendedOptions? name plain valued words).map fun (options, words) =>
          (flags ++ options, words)
      | [letter], value :: words =>
        if valued.toList.contains letter then
          return (← extendedOptions? name plain valued words).map fun (options, words) =>
            (flags ++ (letter, value) :: options, words)
        else refuseOption (String.ofList ['-', letter] ++ ": invalid option")
      | letter :: value, words =>
        if !valued.toList.contains letter then
          refuseOption (String.ofList ['-', letter] ++ ": invalid option")
        else if value.isEmpty then
          refuseOption (String.ofList ['-', letter] ++ ": option requires an argument")
        else
          return (← extendedOptions? name plain valued words).map fun (options, words) =>
            (flags ++ (letter, String.ofList value) :: options, words)
    | _ => return some ([], word :: words)
where
  refuseOption (text : String) : Run (Option (List (Char × String) × List String)) := do
    Run.complain (name ++ ": " ++ text)
    showUsage name
    return none

def plainWords (name : String) (words : List String) : Run (List String) := do
  return (← readOptions name "" "" words).2

def hasOption (options : List (Char × String)) (letter : Char) : Bool :=
  options.any fun option => option.1 == letter

def splitAssignment (word : String) : String × Option String :=
  match Text.splitOnce '=' word.toList with
  | some (name, value) => (String.ofList name, some (String.ofList value))
  | none => (word, none)

def forNames (command : String) (words : List String) (act : String → Option String → Run Unit) :
    Run Unit := do
  for word in words do
    let (name, value) := splitAssignment word
    if isName name then act name value
    else Run.fail 2 (command ++ ": " ++ name ++ ": bad variable name")
  Run.setStatus 0

def quoted (text : String) : String :=
  "\x27" ++ text.replace "\x27" "\x27\"\x27\"\x27" ++ "\x27"

def printLines (lines : List String) : Run Unit :=
  Run.emit (.success (bytes (String.join (lines.map fun line => line ++ "\n"))))

def tableRow (rows : Nat) (name : String) : Nat :=
  let codes := (bytes name).map UInt8.toNat
  (codes.headD 0 * 16 + Text.total codes) % 32768 % rows

def inTableOrder {α : Type} (rows : Nat) (name : α → String) (entries : List α) : List α :=
  entries.mergeSort fun left right => tableRow rows (name left) ≤ tableRow rows (name right)

end SymbolCache.Program.Shell.Builtin

/-!
## The place of a shell

The working directory of a shell, the permissions of what it makes, and the limits of what it may
use.
-/

namespace SymbolCache.Program.Shell.Builtin

/-! ## Directories -/

def directoryAt? (disk : Disk) (path : String) : Option Location :=
  match disk.locate path, disk.isDirectory path with
  | .ok location, true => some location
  | _, _ => none

/-- The paths under which a directory is looked for, and whether the one that is found is printed.
A path that does not start with a place of its own is looked for in the directories of a value. -/
def directoryPaths (searchPath path : String) : List (String × Bool) :=
  let first := (Text.split '/' path.toList).headD []
  if path.startsWith "/" || [['.'], ['.', '.']].contains first || searchPath.isEmpty then
    [(path, false)]
  else
    ((Text.split ':' searchPath.toList).map fun directory =>
      if directory.isEmpty then (path, false)
      else (Path.join (String.ofList directory) path, true)) ++ [(path, false)]

def goTo (location : Location) : Run Unit := do
  let before := (← get).disk.workingDirectory
  Run.assign "OLDPWD" (Path.ofElements true before)
  Run.assign "PWD" (Path.ofElements true location)
  modify fun state => { state with disk := { state.disk with workingDirectory := location } }

def cd (words : List String) : Run Unit := do
  let (_, words) ← readOptions "cd" "LP" "" words
  let (path, isPrinted) ← match words with
    | [] => pure ((← Run.lookup? "HOME").getD "", false)
    | "-" :: _ => pure ((← Run.lookup? "OLDPWD").getD "", true)
    | path :: _ => pure (path, false)
  let disk := (← get).disk
  let searchPath := (← Run.lookup? "CDPATH").getD ""
  let found := (directoryPaths searchPath path).findSome? fun (path, isPrinted) =>
    (directoryAt? disk (if path.isEmpty then "." else path)).map fun location =>
      (location, isPrinted)
  match found with
  | none => Run.fail 2 ("cd: can't cd to " ++ path)
  | some (location, isFoundElsewhere) =>
    goTo location
    Run.setStatus 0
    if isPrinted || isFoundElsewhere then printLines [Path.ofElements true location]

def pwd (words : List String) : Run Unit := do
  let _ ← readOptions "pwd" "LP" "" words
  printLines [Path.ofElements true (← get).disk.workingDirectory]

/-! ## Permissions -/

def maskText (mask : Nat) : String :=
  let left := 0o777 - mask
  let part (who : String) (bits : Nat) : String :=
    who ++ "=" ++ String.join ((["r", "w", "x"].zip [2, 1, 0]).map fun (letter, index) =>
      if bits.testBit index then letter else "")
  ",".intercalate [part "u" (left / 64), part "g" (left / 8), part "o" left]

def umask (words : List String) : Run Unit := do
  let (options, words) ← readOptions "umask" "S" "" words
  let mask := (← get).scope.mask
  match words with
  | [] =>
    printLines [if hasOption options 'S' then maskText mask else Permission.octal 4 mask]
  | word :: _ =>
    let isNumber := word.toList.head?.any Text.isAsciiDigit
    if isNumber && word.toList.any fun digit => digit < '0' || '7' < digit then
      Run.fail 2 ("umask: Illegal number: " ++ word)
    let changed? := if isNumber then
        some (word.toList.foldl (fun value digit => 8 * value + (digit.toNat - 48)) 0 % 512)
      else (Permission.readChange word).map fun change =>
        0o777 - change.apply 0 false (0o777 - mask) % 512
    match changed? with
    | some mask =>
      Run.modifyScope fun scope => { scope with mask }
      Run.setStatus 0
    | none => Run.fail 2 ("umask: Illegal mode: " ++ word)

/-! ## Limits -/

def ulimit (words : List String) : Run Unit := do
  let (_, words) ← readOptions "ulimit" "HSatfdscmlpnvwr" "" words
  match words with
  | [] => printLines ["unlimited"]
  | word :: _ =>
    if word = "unlimited" || word.toList.all Text.isAsciiDigit then Run.setStatus 0
    else Run.fail 2 "ulimit: bad number"

end SymbolCache.Program.Shell.Builtin
