import SymbolCache.Disk.Basic

/-!
# Volumes

A file system with links. Several names may stand for one file, and a name may stand for a path that
is followed in its place, a symbolic link.
-/

set_option autoImplicit false

namespace SymbolCache

namespace Path

/-- Whether a path asks for a directory, by a slash or a dot at its end. -/
def endsOpen (path : String) : Bool :=
  (Text.split '/' path.toList).getLast?.any isVoid

/-- The names in a path. A dot at the end stands for what asks for a directory. -/
def names (path : String) : List String :=
  elements path ++ if endsOpen path then ["."] else []

/-- Why a path leads nowhere, if its text is enough to tell. -/
def refused? (path : String) : Option FileError :=
  if path.isEmpty then some .notFound
  else if path.toList.contains '\x00' then some .invalidPath
  else if Disk.pathLimit < path.utf8ByteSize then some .nameTooLong
  else none

/-- Where a path starts that is found in a directory. -/
def base (path : String) (directory : Location) : Location :=
  if isAbsolute path then [] else directory

end Path

/-- What a name in a directory stands for. -/
inductive Entry where
  | directory
  /-- A file by its number. -/
  | file (number : Nat)
  | link (target : String)
  deriving DecidableEq

def Entry.isFile : Entry → Bool
  | .file _ => true
  | .directory | .link _ => false

structure Volume where
  /-- What is below the root. -/
  entries : Location → Option Entry
  contents : Nat → ByteArray
  /-- Above the numbers of all files. -/
  count : Nat
  workingDirectory : Location

namespace Volume

variable (volume : Volume)

/-- What is at a location, if anything. The root is a directory. -/
def node? (location : Location) : Option Entry :=
  match location with
  | [] => some .directory
  | name :: names => volume.entries (name :: names)

/-- What the file at a location holds. -/
def contentAt? (location : Location) : Option ByteArray :=
  match volume.node? location with
  | some (.file number) => some (volume.contents number)
  | _ => none

/-! ## Following paths -/

/-- As many links are followed for one path. -/
def linkLimit : Nat := 40

/-- Follows names from a directory, and goes on with `jump` where it comes to a link. A link at the
end is followed if the walk goes `through`. The last name may lead nowhere. -/
def walkWith (through : Bool) (jump : Location → List String → Except FileError Location) :
    Location → List String → Except FileError Location
  | here, [] => .ok here
  | here, name :: names =>
    if Disk.nameLimit < name.utf8ByteSize then .error .nameTooLong
    else
      match volume.node? (Disk.step here name) with
      | some .directory => walkWith through jump (Disk.step here name) names
      | some (.link target) =>
        if names.isEmpty && !through then .ok (Disk.step here name)
        else jump (Path.base target (Disk.step here name).dropLast) (Path.names target ++ names)
      | some (.file _) => if names.isEmpty then .ok (Disk.step here name) else .error .notDirectory
      | none => if names.isEmpty then .ok (Disk.step here name) else .error .notFound

/-- Follows names from a directory, and a number of links at most. -/
def walk (through : Bool) : Nat → Location → List String → Except FileError Location
  | 0 => volume.walkWith through fun _ _ => .error .tooManyLinks
  | links + 1 => volume.walkWith through (walk through links)

/-- The location that a path leads to. There need not be anything. -/
def locate (through : Bool) (path : String) : Except FileError Location :=
  match Path.refused? path with
  | some error => .error error
  | none =>
    volume.walk through linkLimit (Path.base path volume.workingDirectory) (Path.names path)

/-- What the file holds that a path leads to. -/
def read? (path : String) : Option ByteArray :=
  match volume.locate true path with
  | .ok location => volume.contentAt? location
  | .error _ => none

/-- Whether names lead from a directory to a directory. -/
def isDirectory (here : Location) (names : List String) : Bool :=
  match volume.walk true linkLimit here names with
  | .ok location => volume.node? location == some .directory
  | .error _ => false

/-! ## Changes -/

def put (location : Location) (entry : Option Entry) : Volume :=
  { volume with
    entries := fun other => if other = location then entry else volume.entries other }

def setContent (number : Nat) (content : ByteArray) : Volume :=
  { volume with
    contents := fun other => if other = number then content else volume.contents other }

/-- Makes a directory where names lead from another one. -/
def makeDirectory (here : Location) (names : List String) : Except FileError Volume := do
  let location ← volume.walk false linkLimit here names
  match volume.node? location with
  | some _ => throw .alreadyExists
  | none => return volume.put location (some .directory)

/-- Makes an empty file, or empties the one that is there, and gives its number. -/
def create (path : String) : Except FileError (Nat × Volume) := do
  let location ← volume.locate true path
  if Path.endsOpen path then throw .isDirectory
  match volume.node? location with
  | some (.file number) => return (number, volume.setContent number .empty)
  | some _ => throw .isDirectory
  | none =>
    let made := volume.put location (some (.file volume.count))
    return (volume.count, { made.setContent volume.count .empty with count := volume.count + 1 })

/-- Moves a file or a link to a path, in place of one that is there. Nothing is done if both are
names of one file. -/
def move (source target : String) : Except FileError Volume := do
  let origin ← volume.locate false source
  let goal ← volume.locate false target
  if Disk.endsInDots target then throw .busy
  match volume.node? origin with
  | none => throw .notFound
  | some .directory => throw .isDirectory
  | some entry =>
    if Path.endsOpen target then throw .notDirectory
    else if volume.node? goal = some .directory then throw .isDirectory
    else if entry.isFile && volume.node? goal = some entry then return volume
    else return (volume.put origin none).put goal (some entry)

/-! ### Directories and those above them -/

/-- Makes a directory unless it is there. -/
def enter (here : Location) (names : List String) : FilingOn Volume Unit := do
  match (← get).makeDirectory here names with
  | .ok made => set made
  | .error error => if (← get).isDirectory here names then return () else throw error

/-- Whether a directory cannot be made as those above it are not there. -/
def isApart (here : Location) (names : List String) : Bool :=
  match volume.makeDirectory here names with
  | .error .notFound => true
  | _ => false

/-- Makes a directory and those above it, as far as they are not there. The last name comes
first. -/
def makeDirectoriesFrom (here : Location) : List String → FilingOn Volume Unit
  | [] => return ()
  | last :: above => do
    if (← get).isApart here (last :: above).reverse then
      makeDirectoriesFrom here above
    enter here (last :: above).reverse

def makeDirectories (path : String) : FilingOn Volume Unit := do
  if path.isEmpty then return ()
  else
    match Path.refused? path with
    | some error => throw error
    | none =>
      makeDirectoriesFrom (Path.base path (← get).workingDirectory) (Path.elements path).reverse

end Volume

instance : FileSystem Volume where
  makeDirectories := Volume.makeDirectories
  create path := .attempt fun volume => volume.create path
  write number content := modify fun volume =>
    volume.setContent number (Disk.overwrite (volume.contents number) content)
  move source target := .attempt fun volume => do return ((), ← volume.move source target)

end SymbolCache
