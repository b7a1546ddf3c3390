import SymbolCache.Program.Permission
import SymbolCache.Program.Shell.Pattern
import SymbolCache.Program.Utility.Line
import SymbolCache.Program.Utility.Tree

/-!
# Finding files

An expression tells which of the entries in trees of files are wanted and what is done with them.
Its parts are looked at from left to right, as far as they matter. What it does with an entry may
run programs, so it is told what to do by its caller.
-/

set_option autoImplicit false

namespace SymbolCache.Program.Utility.Find

/-! ## Expressions -/

inductive Comparison where
  | exactly
  | more
  | less
  deriving Repr, DecidableEq

/-- How the permissions of an entry are compared with some bits: they are the same, or they have all
or one of them. -/
inductive Coverage where
  | same
  | all
  | any
  deriving Repr, DecidableEq

inductive Expression where
  | always (holds : Bool)
  | name (ignoresCase : Bool) (pattern : String)
  | path (ignoresCase : Bool) (pattern : String)
  | kind (letters : List Char)
  | empty
  | size (comparison : Comparison) (count unit : Nat)
  | permission (coverage : Coverage) (change : Permission.Change)
  | runnable
  | both (first second : Expression)
  | either (first second : Expression)
  /-- The second one, after the first one has been looked at. -/
  | after (first second : Expression)
  | not (expression : Expression)
  | print (ending : Char)
  | printFormat (format : String)
  | prune
  | quit
  | delete
  | execute (words : List String)
  | executeAll (words : List String)
  deriving Repr

def Expression.acts : Expression → Bool
  | .both first second | .either first second | .after first second => first.acts || second.acts
  | .not expression => expression.acts
  | .print _ | .printFormat _ | .delete | .execute _ | .executeAll _ => true
  | _ => false

def Expression.deletes : Expression → Bool
  | .both first second | .either first second | .after first second =>
    first.deletes || second.deletes
  | .not expression => expression.deletes
  | .delete => true
  | _ => false

def Expression.collectors : Expression → List (List String)
  | .both first second | .either first second | .after first second =>
    first.collectors ++ second.collectors
  | .not expression => expression.collectors
  | .executeAll words => [words]
  | _ => []

/-! ## Reading expressions -/

structure Settings where
  least : Nat := 0
  most : Nat := treeDepth
  /-- Whether a directory comes after what is in it. -/
  isDeepFirst : Bool := false
  deriving Repr, DecidableEq

structure Rest where
  words : List String
  settings : Settings := {}

abbrev Reader (α : Type) := ExceptT String (StateM Rest) α

def readValue (option : String) : Reader String := do
  match (← get).words with
  | [] => throw ("missing argument to \x60" ++ option ++ "'")
  | word :: words =>
    modify fun rest => { rest with words }
    return word

def readDepth (option : String) : Reader Nat := do
  let word ← readValue option
  match number? word with
  | some depth => return depth
  | none =>
    throw ("Expected a positive decimal integer argument to " ++ option ++ ", but got " ++
      escaped word)

def readKinds (option word : String) : Reader (List Char) := do
  let parts := Text.split ',' word.toList
  match parts.find? fun part => part.length ≠ 1 with
  | some [] => throw ("Last file type in list argument to " ++ option ++
      " is missing, i.e., list is ending on: ','")
  | some _ => throw ("Must separate multiple arguments to " ++ option ++ " using: ','")
  | none =>
    let letters := parts.flatten
    match letters.find? fun letter => !("bcdflps".toList.contains letter) with
    | some letter =>
      throw ("Unknown argument to " ++ option ++ ": " ++ String.singleton letter)
    | none => return letters

def readSize (word : String) : Reader Expression := do
  let (comparison, text) : Comparison × List Char := match word.toList with
    | '+' :: text => (.more, text)
    | '-' :: text => (.less, text)
    | text => (.exactly, text)
  let digits := text.takeWhile Text.isAsciiDigit
  let unit? : Option Nat := match text.drop digits.length with
    | [] | ['b'] => some 512
    | ['c'] => some 1
    | ['w'] => some 2
    | ['k'] => some 1024
    | ['M'] => some (Nat.pow 1024 2)
    | ['G'] => some (Nat.pow 1024 3)
    | _ => none
  match unit? with
  | some unit =>
    if digits.isEmpty then throw ("Invalid argument \x60" ++ word ++ "' to -size")
    else return .size comparison (Text.digitsValue 0 digits) unit
  | none => throw ("Invalid argument \x60" ++ word ++ "' to -size")

def readPermission (word : String) : Reader Expression := do
  let (coverage, text) : Coverage × String := match word.toList with
    | '-' :: text => (.all, String.ofList text)
    | '/' :: text => (.any, String.ofList text)
    | _ => (.same, word)
  match Permission.readChange text with
  | some change => return .permission coverage change
  | none => throw ("invalid mode " ++ escaped word)

/-- Reads the words of a program, up to a semicolon or to a plus sign after a pair of braces. -/
def takeProgram : List String → Option (List String × Bool × List String)
  | [] => none
  | ";" :: words => some ([], false, words)
  | "\x7b\x7d" :: "+" :: words => some ([], true, words)
  | word :: words =>
    (takeProgram words).map fun (program, isCollected, rest) =>
      (word :: program, isCollected, rest)

def readProgram (option : String) : Reader Expression := do
  match takeProgram (← get).words with
  | none | some ([], _, _) => throw ("missing argument to \x60" ++ option ++ "'")
  | some (program, isCollected, words) =>
    modify fun rest => { rest with words }
    return if isCollected then .executeAll program else .execute program

def change (change : Settings → Settings) : Reader Expression := do
  modify fun rest => { rest with settings := change rest.settings }
  return .always true

def readPredicate (word : String) : Reader Expression := do
  match word with
  | "-name" => return .name false (← readValue word)
  | "-iname" => return .name true (← readValue word)
  | "-path" | "-wholename" => return .path false (← readValue word)
  | "-ipath" | "-iwholename" => return .path true (← readValue word)
  | "-type" => return .kind (← readKinds word (← readValue word))
  | "-empty" => return .empty
  | "-size" => readSize (← readValue word)
  | "-perm" => readPermission (← readValue word)
  | "-executable" => return .runnable
  | "-true" => return .always true
  | "-false" => return .always false
  | "-print" => return .print '\n'
  | "-print0" => return .print '\x00'
  | "-printf" => return .printFormat (← readValue word)
  | "-prune" => return .prune
  | "-quit" => return .quit
  | "-delete" =>
    modify fun rest => { rest with settings := { rest.settings with isDeepFirst := true } }
    return .delete
  | "-exec" | "-execdir" | "-ok" | "-okdir" => readProgram word
  | "-maxdepth" =>
    let depth ← readDepth word
    change fun settings => { settings with most := depth }
  | "-mindepth" =>
    let depth ← readDepth word
    change fun settings => { settings with least := depth }
  | "-depth" | "-d" => change fun settings => { settings with isDeepFirst := true }
  | "-follow" | "-mount" | "-noleaf" | "-nowarn" | "-readable" | "-warn" | "-writable" | "-xdev" =>
    return .always true
  | "-mtime" | "-mmin" | "-atime" | "-amin" | "-ctime" | "-cmin" =>
    let value ← readValue word
    return .always (!value.startsWith "+")
  | "-user" | "-group" | "-uid" | "-gid" =>
    let _ ← readValue word
    return .always true
  | word =>
    if word.startsWith "-" then throw ("unknown predicate \x60" ++ word ++ "'")
    else throw ("paths must precede expression: \x60" ++ word ++ "'")

mutual

/-- Reads expressions with commas between them. All readers are fuelled by the number of words. -/
def readList : Nat → String → Reader Expression
  | 0, _ => return .always true
  | fuel + 1, before => do
    let first ← readChoice fuel before
    match (← get).words with
    | "," :: words =>
      modify fun rest => { rest with words }
      return .after first (← readList fuel ",")
    | _ => return first

def readChoice : Nat → String → Reader Expression
  | 0, _ => return .always true
  | fuel + 1, before => do
    let first ← readAll fuel before
    match (← get).words with
    | word :: words =>
      if word = "-o" || word = "-or" then
        modify fun rest => { rest with words }
        return .either first (← readChoice fuel word)
      else return first
    | [] => return first

def readAll : Nat → String → Reader Expression
  | 0, _ => return .always true
  | fuel + 1, before => do
    let first ← readOne fuel before
    match (← get).words with
    | [] => return first
    | word :: words =>
      if [",", "-o", "-or", ")"].contains word then return first
      else if word = "-a" || word = "-and" then
        modify fun rest => { rest with words }
        return .both first (← readAll fuel word)
      else return .both first (← readAll fuel "")

def readOne : Nat → String → Reader Expression
  | 0, _ => return .always true
  | fuel + 1, before => do
    match (← get).words with
    | [] =>
      throw (if before.isEmpty then "expected an expression"
        else "expected an expression after '" ++ before ++ "'")
    | word :: words =>
      modify fun rest => { rest with words }
      match word with
      | "!" | "-not" => return .not (← readOne fuel word)
      | "(" =>
        match words with
        | ")" :: _ =>
          throw "invalid expression; empty parentheses are not allowed."
        | _ =>
          let inside ← readList fuel "("
          match (← get).words with
          | ")" :: words =>
            modify fun rest => { rest with words }
            return inside
          | _ =>
            throw ("invalid expression; I was expecting to find a ')' somewhere but did not " ++
              "see one.")
      | ")" => throw "invalid expression; you have too many ')'"
      | "-a" | "-and" | "-o" | "-or" | "," =>
        throw ("invalid expression; you have used a binary operator '" ++ word ++
          "' with nothing before it.")
      | word => readPredicate word

end

/-- A search: where it starts, its expression and its settings. -/
structure Search where
  starts : List String
  expression : Expression
  settings : Settings

def startsExpression (word : String) : Bool :=
  ["(", ")", "!", ","].contains word || word.startsWith "-" && word ≠ "-"

def readSearch (words : List String) : Except String Search := do
  let words := words.dropWhile fun word => ["-H", "-L", "-P", "-O1", "-O2", "-O3"].contains word
  let starts := words.takeWhile fun word => !startsExpression word || word = ","
  let words := words.drop starts.length
  let starts := if starts.isEmpty then ["."] else starts
  if words.isEmpty then return { starts, expression := .print '\n', settings := {} }
  else
    let (result, rest) := (readList (4 * words.length + 4) "").run.run { words }
    let expression ← result
    match rest.words with
    | ")" :: _ => throw "you have too many ')'"
    | word :: _ => throw ("paths must precede expression: \x60" ++ word ++ "'")
    | [] =>
      let expression :=
        if expression.acts then expression else .both expression (.print '\n')
      return { starts, expression, settings := rest.settings }

/-! ## Looking at entries -/

def accepts (ignoresCase : Bool) (pattern text : String) : Bool :=
  let fold (text : String) : List Char :=
    if ignoresCase then text.toList.map Char.toLower else text.toList
  let parts := Shell.Pattern.ofText ((fold pattern).map fun character => (character, false))
  Shell.Pattern.accepts parts (fold text)

def kindLetter (isPipe : Bool) (entry : Entry) : Char :=
  if entry.isDirectory then 'd' else if isPipe then 'p' else 'f'

def sizeOf (entry : Entry) : Nat :=
  match entry.node with
  | .directory => Disk.directorySize
  | .file content => content.size

def covers (coverage : Coverage) (permission bits : Nat) : Bool :=
  match coverage with
  | .same => permission = bits
  | .all => permission &&& bits = bits
  | .any => bits = 0 || permission &&& bits ≠ 0

/-- The text that a format gives for an entry with some permissions. It is fuelled by the length of
the format. -/
def formatEntry (start : String) (entry : Entry) (permission : Nat) :
    Nat → List Char → List Char
  | 0, _ => []
  | _ + 1, [] => []
  | fuel + 1, '\\' :: letter :: rest =>
    let shown := match letter with
      | 'n' => ['\n']
      | 't' => ['\t']
      | '0' => ['\x00']
      | '\\' => ['\\']
      | letter => ['\\', letter]
    shown ++ formatEntry start entry permission fuel rest
  | fuel + 1, '%' :: letter :: rest =>
    let above := match Text.splitLast '/' entry.path.toList with
      | some (above, _) => String.ofList above
      | none => "."
    let below := (entry.path.drop start.length).toString
    let below := if below.startsWith "/" then (below.drop 1).toString else below
    let shown : String := match letter with
      | '%' => "%"
      | 'p' => entry.path
      | 'f' => entry.name
      | 'h' => above
      | 'P' => below
      | 's' => toString (sizeOf entry)
      | 'd' => toString entry.depth
      | 'y' => if entry.isDirectory then "d" else "f"
      | 'm' => Permission.octal 1 permission
      | 'M' => (if entry.isDirectory then "d" else "-") ++ Permission.text permission
      | 'u' | 'g' => "root"
      | 'H' => start
      | letter => String.ofList ['%', letter]
    shown.toList ++ formatEntry start entry permission fuel rest
  | fuel + 1, character :: rest => character :: formatEntry start entry permission fuel rest

structure Caller (m : Type → Type) where
  print : String → m Unit
  complain : String → m Unit
  disk : m Disk
  /-- Removes an entry. Tells whether that is possible. -/
  remove : Entry → m Bool
  run : List String → m Bool

structure Progress where
  /-- Whether the directory that was looked at is not gone into. -/
  isPruned : Bool := false
  hasQuit : Bool := false
  isWrong : Bool := false
  /-- The paths for the programs that are run on all entries, in the order of the programs. -/
  collected : List (List String × String) := []

def look {m : Type → Type} [Monad m] (caller : Caller m) (start : String) (entry : Entry) :
    Expression → StateT Progress m Bool
  | .always holds => return holds
  | .name ignoresCase pattern => return accepts ignoresCase pattern entry.name
  | .path ignoresCase pattern => return accepts ignoresCase pattern entry.path
  | .kind letters => do
    let isPipe := Permission.isPipeAt (← caller.disk) entry.location
    return letters.contains (kindLetter isPipe entry)
  | .empty => do
    match entry.node with
    | .file content => return content.size = 0
    | .directory => return ((← caller.disk).namesIn entry.location).isEmpty
  | .size comparison count unit =>
    let units := (sizeOf entry + unit - 1) / unit
    return match comparison with
      | .exactly => units = count
      | .more => count < units
      | .less => units < count
  | .permission coverage change => do
    let permission := Permission.of (← caller.disk) entry.location entry.node
    return covers coverage permission (change.apply 0 entry.isDirectory 0)
  | .runnable => do
    return Permission.isRunnable (Permission.of (← caller.disk) entry.location entry.node)
  | .both first second => do
    let holds ← look caller start entry first
    if holds && !(← get).hasQuit then look caller start entry second else return false
  | .either first second => do
    if ← look caller start entry first then return true else look caller start entry second
  | .after first second => do
    let _ ← look caller start entry first
    look caller start entry second
  | .not expression => do return !(← look caller start entry expression)
  | .print ending => do
    caller.print (entry.path ++ String.singleton ending)
    return true
  | .printFormat format => do
    let permission := Permission.of (← caller.disk) entry.location entry.node
    caller.print
      (String.ofList (formatEntry start entry permission (format.length + 1) format.toList))
    return true
  | .prune => do
    modify fun progress => { progress with isPruned := true }
    return true
  | .quit => do
    modify fun progress => { progress with hasQuit := true }
    return true
  | .delete => do
    if entry.path = "." then return true
    else
      let isGone ← caller.remove entry
      if !isGone then modify fun progress => { progress with isWrong := true }
      return isGone
  | .execute words => do
    caller.run (words.map fun word => word.replace "\x7b\x7d" entry.path)
  | .executeAll words => do
    modify fun progress =>
      { progress with collected := progress.collected ++ [(words, entry.path)] }
    return true

/-- Looks at an entry if it is deep enough and nothing has made the search quit. -/
def visit {m : Type → Type} [Monad m] (caller : Caller m) (search : Search) (start : String)
    (entry : Entry) : StateT Progress m Unit := do
  if search.settings.least ≤ entry.depth && !(← get).hasQuit then
    let _ ← look caller start entry search.expression

def walk {m : Type → Type} [Monad m] (caller : Caller m) (search : Search) (start : String) :
    Nat → Entry → StateT Progress m Unit
  | 0, _ => return ()
  | fuel + 1, entry => do
    modify fun progress => { progress with isPruned := false }
    let settings := search.settings
    if !settings.isDeepFirst then visit caller search start entry
    let progress ← get
    let isEntered := settings.isDeepFirst || !progress.isPruned
    if isEntered && !progress.hasQuit && entry.depth < settings.most then
      if ((← caller.disk).node? entry.location).isSome then
        for child in entry.children (← caller.disk) do
          walk caller search start fuel child
      else if entry.isDirectory then
        caller.complain (escaped entry.path ++ ": " ++ FileError.notFound.reason)
        modify fun progress => { progress with isWrong := true }
    if settings.isDeepFirst then visit caller search start entry

/-- Searches from all starts and then runs what is run on all entries. Tells whether all went
well. -/
def runSearch {m : Type → Type} [Monad m] (caller : Caller m) (search : Search) : m Bool := do
  let all : StateT Progress m Unit := do
    for start in search.starts do
      if !(← get).hasQuit then
        match entryAt (← caller.disk) start with
        | .ok entry => walk caller search start (treeDepth + 1) entry
        | .error error =>
          caller.complain (escaped start ++ ": " ++ error.reason)
          modify fun progress => { progress with isWrong := true }
    for words in search.expression.collectors do
      let paths := (← get).collected.filterMap fun (other, path) =>
        if other = words then some path else none
      if !paths.isEmpty then
        if !(← caller.run (words ++ paths)) then
          modify fun progress => { progress with isWrong := true }
  return !(← all.run {}).2.isWrong

end SymbolCache.Program.Utility.Find
