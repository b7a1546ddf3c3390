import Std.Data.ExtTreeMap
import SymbolCache.Failure
import SymbolCache.Text.Cut

/-!
# The disk

A tree of directories and files, as far as a workspace can see it. A path is followed element by
element, and fails where the tree has something else than what the path goes through.
-/

set_option autoImplicit false

/-!
## Paths

Paths as texts. A path that starts with a slash is absolute; empty elements and single dots lead
nowhere.
-/

namespace SymbolCache.Path

def isAbsolute (path : String) : Bool :=
  path.toList.head? == some '/'

def endsInSlash (path : String) : Bool :=
  path.toList.getLast? == some '/'

/-- A path from another one. An absolute path stays as it is. -/
def join (base path : String) : String :=
  if isAbsolute path then path
  else if base.isEmpty || endsInSlash base then base ++ path
  else base ++ "/" ++ path

def elements (path : String) : List String :=
  ((Text.split '/' path.toList).filter fun element => !element.isEmpty && element != ['.']).map
    String.ofList

def ofElements (absolute : Bool) (elements : List String) : String :=
  (if absolute then "/" else "") ++ "/".intercalate elements

/-! ### The path above -/

def isVoid (element : List Char) : Bool :=
  element.isEmpty || element == ['.']

/-- The text of a path from its first element, which is empty if the path is absolute, and the other
elements, the last one first. -/
def ofReversed (first : List Char) (reversed : List (List Char)) : String :=
  match first, reversed with
  | [], [] => "/"
  | first, reversed => String.ofList (List.intercalate ['/'] (first :: reversed.reverse))

/-- The path without its last element and what leads nowhere around it. The first element of a path
counts in any case. The root and the empty path have nothing above them. -/
def parent? (path : String) : Option String :=
  match Text.split '/' path.toList with
  | [] => none
  | first :: rest =>
    match first, rest.reverse.dropWhile isVoid with
    | [], [] => none
    | _ :: _, [] => some ""
    | first, _ :: above => some (ofReversed first (above.dropWhile isVoid))

/-- The path some levels above a path, which is empty if there are not so many. -/
def above : Nat → String → String
  | 0, path => path
  | levels + 1, path =>
    match parent? path with
    | none => ""
    | some parent => above levels parent

def temporary (path : String) : String :=
  path ++ ".tmp"

end SymbolCache.Path

/-! ## Nodes and locations -/

namespace SymbolCache

inductive Node where
  | directory
  | file (content : ByteArray)

def Node.isDirectory : Node → Bool
  | .directory => true
  | .file _ => false

/-- Whether two nodes are directories or files with the same content. -/
def Node.agrees : Node → Node → Bool
  | .directory, .directory => true
  | .file left, .file right => left == right
  | _, _ => false

/-- A location: the names that lead to it from the root. -/
abbrev Location := List String

/-- Locations are in order by their depth and then by their names. -/
def Location.order : Location → Location → Ordering :=
  compareLex (compareOn List.length) compare

instance : Std.TransCmp Location.order :=
  inferInstanceAs (Std.TransCmp (compareLex (compareOn List.length) compare))

instance : Std.LawfulEqCmp Location.order where
  eq_of_compare equal := by
    simp only [Location.order, compareLex_eq_eq, Std.compare_eq_iff_eq] at equal
    exact equal.2

/-- The nodes below the root with their permissions, and the directory from which relative paths
start. -/
structure Disk where
  nodes : Std.ExtTreeMap Location Node Location.order := ∅
  /-- The permissions that were given to nodes in place of the usual ones. -/
  permissions : List (Location × Nat) := []
  workingDirectory : Location := []
  /-- Where the files are that were opened, the first one first. A file whose place was taken by
  another one is nowhere. -/
  opened : List (Option Location) := []

namespace Disk

/-- What is at a location, if anything. The root is a directory. -/
def node? (disk : Disk) (location : Location) : Option Node :=
  match location with
  | [] => some .directory
  | name :: names => disk.nodes[name :: names]?

def put (disk : Disk) (location : Location) (node : Node) : Disk :=
  { disk with nodes := disk.nodes.insert location node }

def remove (disk : Disk) (location : Location) : Disk :=
  { disk with nodes := disk.nodes.erase location }

/-! ## Following paths -/

def nameLimit : Nat := 255

/-- One step from a directory: to itself, up, or to something of a name. -/
def step (location : Location) (name : String) : Location :=
  if name = "." then location
  else if name = ".." then location.dropLast
  else location ++ [name]

/-- Follows names from a directory. All but the last one must lead to a directory; the last one may
lead nowhere. -/
def follow (disk : Disk) (location : Location) : List String → Except FileError Location
  | [] => .ok location
  | [name] =>
    if nameLimit < name.utf8ByteSize then .error .nameTooLong else .ok (step location name)
  | name :: next :: names =>
    if nameLimit < name.utf8ByteSize then .error .nameTooLong
    else
      match disk.node? (step location name) with
      | some .directory => disk.follow (step location name) (next :: names)
      | some (.file _) => .error .notDirectory
      | none => .error .notFound

def pathLimit : Nat := 4095

def names (path : String) : List String :=
  ((Text.split '/' path.toList).filter fun name => !name.isEmpty).map String.ofList

/-- The location that a path leads to. There need not be anything. -/
def locate (disk : Disk) (path : String) : Except FileError Location :=
  if path.isEmpty then .error .notFound
  else if path.toList.contains '\x00' then .error .invalidPath
  else if pathLimit < path.utf8ByteSize then .error .nameTooLong
  else disk.follow (if Path.isAbsolute path then [] else disk.workingDirectory) (names path)

/-- Whether the last name in a path leads to the directory itself or up. -/
def endsInDots (path : String) : Bool :=
  (names path).getLast?.any fun name => name == "." || name == ".."

/-! ## Reading -/

/-- What a path leads to. A path that ends in a slash does not lead to a file. -/
def find (disk : Disk) (path : String) : Except FileError Node := do
  let location ← disk.locate path
  match disk.node? location with
  | none => throw .notFound
  | some (.file content) =>
    if Path.endsInSlash path then throw .notDirectory else return .file content
  | some .directory => return .directory

def contains (disk : Disk) (path : String) : Bool :=
  match disk.find path with
  | .ok _ => true
  | .error _ => false

def isDirectory (disk : Disk) (path : String) : Bool :=
  match disk.find path with
  | .ok .directory => true
  | _ => false

def directorySize : Nat := 4096

def size? (disk : Disk) (path : String) : Option Nat :=
  match disk.find path with
  | .ok .directory => some directorySize
  | .ok (.file content) => some content.size
  | .error _ => none

def readText (disk : Disk) (path : String) : Except FileError String := do
  match ← disk.find path with
  | .directory => throw .isDirectory
  | .file content =>
    match String.fromUTF8? content with
    | some text => return text
    | none => throw .invalidText

def namesIn (disk : Disk) (directory : Location) : List String :=
  (disk.nodes.keys.filter fun location => location.dropLast == directory).filterMap (·.getLast?)

/-! ## Writing -/

def makeDirectory (disk : Disk) (path : String) : Except FileError Disk := do
  let location ← disk.locate path
  match disk.node? location with
  | some _ => throw .alreadyExists
  | none => return disk.put location .directory

/-- Makes an empty file, or empties the file that is there. -/
def createFile (disk : Disk) (path : String) : Except FileError Disk := do
  let location ← disk.locate path
  match disk.node? location with
  | some .directory => throw .isDirectory
  | _ =>
    if Path.endsInSlash path then throw .isDirectory else return disk.put location (.file .empty)

def setContent (disk : Disk) (path : String) (content : ByteArray) : Except FileError Disk := do
  let location ← disk.locate path
  match ← disk.find path with
  | .directory => throw .isDirectory
  | .file _ => return disk.put location (.file content)

def append (disk : Disk) (path : String) (content : ByteArray) : Except FileError Disk := do
  match ← disk.find path with
  | .directory => throw .isDirectory
  | .file before => disk.setContent path (before ++ content)

/-- Moves a file to a path, in place of a file that is there. -/
def rename (disk : Disk) (source target : String) : Except FileError Disk := do
  let origin ← disk.locate source
  let goal ← disk.locate target
  if endsInDots target then throw .busy
  else
    match ← disk.find source with
    | .directory => throw .isDirectory
    | .file content =>
      if Path.endsInSlash target then throw .notDirectory
      else if (disk.node? goal).any Node.isDirectory then throw .isDirectory
      else return (disk.remove origin).put goal (.file content)

/-! ### Files that are open -/

/-- Makes an empty file, or empties the one that is there, and opens it. -/
def openFile (disk : Disk) (path : String) : Except FileError (Nat × Disk) := do
  let created ← disk.createFile path
  let location ← disk.locate path
  return (disk.opened.length, { created with opened := disk.opened ++ [some location] })

/-- What a file holds after some content was written from its start on. -/
def overwrite (before content : ByteArray) : ByteArray :=
  content ++ before.extract content.size before.size

/-- Writes to a file that is open from its start on, wherever it is by now. -/
def writeOpened (disk : Disk) (file : Nat) (content : ByteArray) : Disk :=
  match disk.opened[file]?.join with
  | none => disk
  | some location =>
    match disk.node? location with
    | some (.file before) => disk.put location (.file (overwrite before content))
    | _ => disk

/-- Moves a file to a path. It stays open there, and a file that was there is nowhere any more. -/
def move (disk : Disk) (source target : String) : Except FileError Disk := do
  let origin ← disk.locate source
  let goal ← disk.locate target
  let moved ← disk.rename source target
  return { moved with
    opened := disk.opened.map fun location =>
      if location = some origin then some goal
      else if location = some goal then none
      else location }

end Disk

/-! ## Sequences of changes -/

/-- A sequence of changes to a file system. It stops at the first one that fails, and what was
changed before stays changed. -/
abbrev FilingOn (δ α : Type) := ExceptT FileError (StateM δ) α

abbrev Filing (α : Type) := FilingOn Disk α

/-- A change that gives a value, and leaves the file system alone if it fails. -/
def FilingOn.attempt {δ α : Type} (change : δ → Except FileError (α × δ)) : FilingOn δ α := do
  match change (← get) with
  | .ok (value, system) => do
    set system
    return value
  | .error error => throw error

/-- A file system, as far as a snapshot is saved on it. -/
class FileSystem (δ : Type) where
  /-- Makes a directory and those above it, as far as they are not there. -/
  makeDirectories (path : String) : FilingOn δ Unit
  /-- Makes an empty file, or empties the one that is there, and gives a number by which it is
  written to. -/
  create (path : String) : FilingOn δ Nat
  /-- Writes to a file that was created, from its start on. -/
  write (file : Nat) (content : ByteArray) : FilingOn δ Unit
  /-- Moves a file to a path, in place of a file that is there. -/
  move (source target : String) : FilingOn δ Unit

namespace Filing

/-- One change, which leaves the disk alone if it fails. -/
def change (change : Disk → Except FileError Disk) : Filing Unit := do
  match change (← get) with
  | .ok disk => set disk
  | .error error => throw error

def read {α : Type} (read : Disk → Except FileError α) : Filing α := do
  match read (← get) with
  | .ok value => return value
  | .error error => throw error

def writeFile (path : String) (content : ByteArray) : Filing Unit := do
  change fun disk => disk.createFile path
  change fun disk => disk.setContent path content

/-- Makes a directory unless it is there, and gives its location. -/
def makeDirectory (path : String) : Filing Location := do
  let disk ← get
  match disk.makeDirectory path with
  | .ok disk =>
    set disk
    read fun disk => disk.locate path
  | .error .alreadyExists =>
    if disk.isDirectory path then read fun disk => disk.locate path else throw .alreadyExists
  | .error error => throw error

/-- Makes a directory of some name in a directory that is there, unless it is there as well, and
gives its location. -/
def makeDirectoryIn (location : Location) (name : String) : Filing Location := do
  if Disk.nameLimit < name.utf8ByteSize then throw .nameTooLong
  else
    let target := Disk.step location name
    match (← get).node? target with
    | some .directory => return target
    | some (.file _) => throw .alreadyExists
    | none => do
      modify fun disk => disk.put target .directory
      return target

/-- Makes a directory and those above it, from the lowest that is there, and gives its location. The
first element of the path is apart, and the last one of the others comes first. -/
def makeDirectoriesFrom (first : List Char) : List (List Char) → Filing Location
  | [] => if first.isEmpty then return [] else makeDirectory (String.ofList first)
  | last :: above =>
    if Path.isVoid last then makeDirectoriesFrom first above
    else
      tryCatch (makeDirectory (Path.ofReversed first (last :: above))) fun error => do
        if error = .notFound then
          makeDirectoryIn (← makeDirectoriesFrom first above) (String.ofList last)
        else throw error

/-- Makes a directory and those above it, as far as they are not there. -/
def makeDirectories (path : String) : Filing Unit := do
  match Text.split '/' path.toList with
  | [] => return ()
  | first :: rest =>
    if path.isEmpty then return ()
    let _ ← makeDirectoriesFrom first rest.reverse

end Filing

instance : FileSystem Disk where
  makeDirectories := Filing.makeDirectories
  create path := .attempt fun disk => disk.openFile path
  write file content := modify fun disk => disk.writeOpened file content
  move source target := Filing.change fun disk => disk.move source target

end SymbolCache
