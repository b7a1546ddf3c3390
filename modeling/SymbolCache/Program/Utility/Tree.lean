import SymbolCache.Program.Utility.Basic

/-!
# Trees and names of files

All that is below a path, each with a path of its own; utilities that take paths apart, and those
that tell where a path leads.
-/

set_option autoImplicit false

namespace SymbolCache.Program.Utility

/-! ## Trees -/

structure Entry where
  path : String
  location : Location
  node : Node
  depth : Nat

/-- The last name of an entry, which for the start of a tree is that of its path. -/
def Entry.name (entry : Entry) : String :=
  let names := (Text.split '/' entry.path.toList).filter fun name => !name.isEmpty
  ((names.getLast?.map String.ofList).getD "/")

def Entry.isDirectory (entry : Entry) : Bool :=
  entry.node.isDirectory

def Entry.children (disk : Disk) (entry : Entry) : List Entry :=
  if entry.isDirectory then
    (disk.namesIn entry.location).filterMap fun name =>
      let location := entry.location ++ [name]
      (disk.node? location).map fun node =>
        { path := Path.join entry.path name, location, node, depth := entry.depth + 1 }
  else []

/-- An entry and all that is below it, as far as it is not left out. A directory stands in front of
what is in it. It is fuelled by the depth. -/
def Entry.tree (disk : Disk) (enters : Entry → Bool) : Nat → Entry → List Entry
  | 0, entry => [entry]
  | fuel + 1, entry =>
    if enters entry then entry :: (entry.children disk).flatMap (Entry.tree disk enters fuel)
    else [entry]

def treeDepth : Nat := Disk.pathLimit

def entryAt (disk : Disk) (path : String) : Except FileError Entry := do
  let node ← disk.find path
  return { path, location := ← disk.locate path, node, depth := 0 }

/-! ## Parts of paths -/

def withoutEndSlashes (path : List Char) : List Char :=
  match Text.trimEndWhere (· == '/') path with
  | [] => path.take 1
  | trimmed => trimmed

def lastName (path : String) : String :=
  let trimmed := withoutEndSlashes path.toList
  match Text.splitLast '/' trimmed with
  | some (_, []) | none => String.ofList trimmed
  | some (_, name) => String.ofList name

def directoryName (path : String) : String :=
  match Text.splitLast '/' (withoutEndSlashes path.toList) with
  | none => "."
  | some ([], _) => "/"
  | some (above, _) => String.ofList (withoutEndSlashes above)

def printEach (endsInNull : Bool) (texts : List String) : Outcome :=
  let ending := if endsInNull then "\x00" else "\n"
  .success (bytes (String.join (texts.map fun text => text ++ ending)))

def basename : Utility :=
  withOptions
    { name := "basename", plain := "az", valued := "s", stopsAtWord := true
      long := [("multiple", 'a'), ("suffix", 's'), ("zero", 'z')] }
    fun options =>
      let short (ending path : String) : String :=
        let name := lastName path
        let short := if name = ending then none else Text.dropSuffix? ending.toList name.toList
        (short.map String.ofList).getD name
      let print (names : List String) : StateM Surroundings Outcome :=
        return printEach (options.has 'z') names
      if options.has 'a' || options.has 's' then
        if options.words.isEmpty then return misuse 1 "basename" "missing operand"
        else print (options.words.map (short ((options.value? 's').getD "")))
      else
        match options.words with
        | [] => return misuse 1 "basename" "missing operand"
        | [path] => print [lastName path]
        | [path, ending] => print [short ending path]
        | _ :: _ :: extra :: _ =>
          return misuse 1 "basename" ("extra operand " ++ escaped extra)

def dirname : Utility :=
  withOptions { name := "dirname", plain := "z", long := [("zero", 'z')] } fun options =>
    if options.words.isEmpty then return misuse 1 "dirname" "missing operand"
    else return printEach (options.has 'z') (options.words.map directoryName)

/-! ## Places -/

def pwd : Utility :=
  withOptions { name := "pwd", plain := "LP", long := [("logical", 'L'), ("physical", 'P')] }
    fun _ => do
      let disk := (← get).disk
      return .success (bytes (Path.ofElements true disk.workingDirectory ++ "\n"))

inductive Presence where
  | all
  | allButLast
  | nothing
  deriving Repr, DecidableEq

def locationOf (presence : Presence) (disk : Disk) (path : String) :
    Except FileError Location :=
  match presence with
  | .nothing =>
    if path.isEmpty then .error .notFound
    else
      let start := if Path.isAbsolute path then [] else disk.workingDirectory
      .ok ((Disk.names path).foldl Disk.step start)
  | .allButLast => disk.locate path
  | .all => do
    let _ ← disk.find path
    disk.locate path

def relativePath : Location → Location → String
  | from_ :: base, to_ :: target =>
    if from_ = to_ then relativePath base target
    else "/".intercalate (List.replicate (base.length + 1) ".." ++ to_ :: target)
  | base, target =>
    let names := List.replicate base.length ".." ++ target
    if names.isEmpty then "." else "/".intercalate names

def realpath : Utility :=
  withOptions
    { name := "realpath", plain := "eLmPqsz", valued := "rb"
      long := [("canonicalize-existing", 'e'), ("logical", 'L'), ("canonicalize-missing", 'm'),
        ("physical", 'P'), ("quiet", 'q'), ("strip", 's'), ("no-symlinks", 's'), ("zero", 'z'),
        ("relative-to", 'r'), ("relative-base", 'b')] }
    fun options =>
      if options.words.isEmpty then return misuse 1 "realpath" "missing operand"
      else
        let mode := options.given.reverse.find? fun option => ['e', 'm'].contains option.1
        let presence : Presence := match mode with
          | some ('e', _) => .all
          | some _ => .nothing
          | none => .allButLast
        onEach (fun path => do
          let disk := (← get).disk
          match locationOf presence disk path, locationOf presence disk
              ((options.value? 'r').getD "/") with
          | .error error, _ | _, .error error =>
            return if options.has 'q' then .ofBool false
              else fileFailure 1 "realpath" (quotedIfNeeded path) error
          | .ok location, .ok base =>
            let text := if (options.value? 'r').isSome then relativePath base location
              else Path.ofElements true location
            return printEach (options.has 'z') [text]) options.words

/-- Prints where paths lead in the end. A path that is no link leads to nothing else. -/
def readlink : Utility :=
  withOptions
    { name := "readlink", plain := "efmnqsvz"
      long := [("canonicalize", 'f'), ("canonicalize-existing", 'e'), ("canonicalize-missing", 'm'),
        ("no-newline", 'n'), ("quiet", 'q'), ("silent", 's'), ("verbose", 'v'), ("zero", 'z')] }
    fun options =>
      if options.words.isEmpty then return misuse 1 "readlink" "missing operand"
      else
        let mode := options.given.reverse.find? fun option => ['e', 'f', 'm'].contains option.1
        onEach (fun path => do
          let disk := (← get).disk
          let refuse (reason : String) : Outcome :=
            if options.has 'v' then
              .failure 1 ("readlink: " ++ quotedIfNeeded path ++ ": " ++ reason ++ "\n")
            else .ofBool false
          let print (presence : Presence) : Outcome :=
            match locationOf presence disk path with
            | .error error => refuse error.reason
            | .ok location =>
              let text := Path.ofElements true location
              if options.has 'n' && options.words.length = 1 then .success (bytes text)
              else printEach (options.has 'z') [text]
          match mode with
          | some ('e', _) => return print .all
          | some ('f', _) => return print .allButLast
          | some _ => return print .nothing
          | none =>
            match disk.find path with
            | .error error => return refuse error.reason
            | .ok _ => return refuse "Invalid argument") options.words

end SymbolCache.Program.Utility
