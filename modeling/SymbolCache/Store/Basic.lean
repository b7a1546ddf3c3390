import SymbolCache.Discovery
import SymbolCache.Disk.Basic
import SymbolCache.Index.Find
import SymbolCache.Snapshot

/-!
# The store

The store of a workspace serves queries from an index, and knows where the snapshot of that index
lies and how to call the toolchain. Every time another index is served, a counter is raised, by
which two answers can be told to come from the same index.
-/

set_option autoImplicit false

namespace SymbolCache

/-- How far a store is from answering queries from a whole index. -/
inductive Readiness where
  | uninitialized
  | loading
  | rebuilding
  | ready
  deriving Repr, DecidableEq

def Readiness.word : Readiness → String
  | .uninitialized => "uninitialized"
  | .loading => "loading"
  | .rebuilding => "rebuilding"
  | .ready => "ready"

structure Store where
  cachePath : String
  config : Config
  toolchain : Toolchain
  /-- The version of the toolchain, once it is known. -/
  toolchainVersion : Option String := none
  index : Index := {}
  readiness : Readiness := .uninitialized
  generation : Nat := 0
  /-- The time of the snapshot last loaded or saved. -/
  lastSaved : Option Nat := none
  refreshing : Bool := false

/-- What goes wrong with a step of the file system, and how much of it is done before. -/
structure Trouble where
  error : FileError
  done : Nat

/-- A store, a file system and the time in milliseconds since the start of 1970. -/
structure Session (δ : Type := Disk) where
  store : Store
  disk : δ
  now : Nat
  /-- What will go wrong with the next steps of saves, if anything does. -/
  troubles : List (Option Trouble) := []

/-- A job on a session that may fail. What it changed before it failed stays changed. -/
abbrev OperationOn (δ α : Type) := ExceptT Failure (Job (Session δ)) α

abbrev Operation (α : Type) := OperationOn Disk α

namespace Store

/-- The directory of a workspace that holds its configuration and its snapshot. -/
def directoryName : String := ".gosym"

def configName : String := "config.toml"

def create (root : String) (config : Config) : Store where
  cachePath := Path.join (Path.join root directoryName) config.cache.file
  config
  toolchain := .ofConfig config root

def install (store : Store) (index : Index) : Store :=
  { store with index, generation := store.generation + 1 }

/-- Adds a symbol to the index. A symbol that is not exported changes nothing. -/
def addSymbol (store : Store) (symbol : Symbol) : Store :=
  if symbol.isExported then store.install (store.index.add symbol) else store

def findSymbols (store : Store) (text : String) : List Symbol :=
  store.index.find store.config.completion.caseSensitive text

structure Status where
  readiness : Readiness
  generation : Nat
  toolchainVersion : Option String
  schemaVersion : Nat
  packages : Nat
  names : Nat
  symbols : Nat
  cachePath : String
  /-- The size of the snapshot file, zero if there is none. -/
  cacheSize : Nat
  lastSaved : Option Nat
  deriving Repr, DecidableEq

/-- What is told about a store, with the size of its snapshot on the disk. -/
def status (store : Store) (disk : Disk) : Status where
  readiness := store.readiness
  generation := store.generation
  toolchainVersion := store.toolchainVersion
  schemaVersion := Snapshot.currentSchema
  packages := store.index.packageCount
  names := store.index.nameCount
  symbols := store.index.symbolCount
  cachePath := store.cachePath
  cacheSize := (disk.size? store.cachePath).getD 0
  lastSaved := store.lastSaved

end Store

namespace Session

def mapStore {δ : Type} (change : Store → Store) (session : Session δ) : Session δ :=
  { session with store := change session.store }

end Session

namespace Operation

def store : Job Session Store :=
  .look fun session => .done session.store

def now : Job Session Nat :=
  .look fun session => .done session.now

def status : Job Session Store.Status :=
  .look fun session => .done (session.store.status session.disk)

def changeStore (change : Store → Store) : Job Session Unit :=
  .modify (Session.mapStore change)

/-! ## The version of the toolchain -/

/-- Asks for the version of the toolchain and keeps it. -/
def detectToolchain : Operation String := do
  let store ← store
  let version ← ExceptT.mk store.toolchain.detectVersion
  changeStore fun store => { store with toolchainVersion := some version }
  return version

/-- The version of the toolchain, asked for if it is not known. -/
def ensureToolchain : Operation String := do
  match (← store).toolchainVersion with
  | some version => return version
  | none => detectToolchain

end Operation

/-! ## Loading -/

namespace Session

/-- The snapshot on the disk, if it fits the version of the toolchain. -/
def readSnapshot (session : Session) (toolchainVersion : String) : Except Failure Snapshot := do
  let content ← (session.disk.readText session.store.cachePath).mapError Failure.file
  Snapshot.read session.store.cachePath toolchainVersion content

def serve (session : Session) (index : Index) (timestamp : Nat) : Session :=
  session.mapStore fun store =>
    { store.install index with lastSaved := some timestamp, readiness := .ready }

/-- Serves a snapshot that was read, and tells whether it could. If not, nothing changes. -/
def accept (session : Session) (toolchainVersion : String) (content : Except FileError String) :
    Bool × Session :=
  match content with
  | .error _ => (false, session)
  | .ok content =>
    match Snapshot.read session.store.cachePath toolchainVersion content with
    | .error _ => (false, session)
    | .ok snapshot =>
      match snapshot.toIndex with
      | .error _ => (false, session)
      | .ok index => (true, session.serve index snapshot.timestamp)

end Session

namespace Operation

/-- Serves the snapshot on the disk in place of the index, and tells whether it could. -/
def load : Job Session Bool := do
  match ← ensureToolchain.run with
  | .error _ => return false
  | .ok version =>
    let content ← .await fun session =>
      (session.disk.readText session.store.cachePath, session)
    .update fun session => session.accept version content

end Operation

/-! ## Saving -/

namespace Session

variable {δ α : Type}

/-- Has the file system do something. If there is trouble with it, only a part of it is done. -/
def perform (whole : FilingOn δ α) (part : Nat → FilingOn δ Unit) (session : Session δ) :
    Except Failure α × Session δ :=
  let later := session.troubles.tail
  match session.troubles.head?.join with
  | none =>
    let (result, disk) := whole.run.run session.disk
    (result.mapError .file, { session with disk, troubles := later })
  | some trouble =>
    let (_, disk) := (part trouble.done).run.run session.disk
    (.error (.file trouble.error), { session with disk, troubles := later })

end Session

namespace Operation

section

variable {δ α : Type}

def onDisk (whole : FilingOn δ α) (part : Nat → FilingOn δ Unit) : OperationOn δ α :=
  ExceptT.mk (.await (Session.perform whole part))

/-- Nothing of a step. -/
def nothing (_ : Nat) : FilingOn δ Unit :=
  return ()

variable [FileSystem δ]

/-- Makes the directories above a path. If there is trouble, some of the lowest are missing. -/
def makeDirectoriesAbove (path : String) : OperationOn δ Unit := do
  if let some parent := Path.parent? path then
    onDisk (FileSystem.makeDirectories parent) fun missing =>
      FileSystem.makeDirectories (Path.above (missing + 1) parent)

/-- Replaces the content of a file at once: the directories above it are made, a temporary file
beside it is made, written and flushed, and then takes its place. -/
def replaceFile (path : String) (content : ByteArray) : OperationOn δ Unit := do
  makeDirectoriesAbove path
  let file ← onDisk (FileSystem.create (Path.temporary path)) nothing
  onDisk (FileSystem.write file content) fun count =>
    FileSystem.write file (content.extract 0 count)
  -- What is written can be seen at once, but flushing it may fail.
  onDisk (return ()) nothing
  onDisk (FileSystem.move (Path.temporary path) path) nothing

/-- Saves the index as it is when the save starts. -/
def save : OperationOn δ Unit :=
  ExceptT.mk <| .look fun session =>
    match session.store.toolchainVersion with
    | none => .done (.error .toolchainUnknown)
    | some version => ExceptT.run do
      let snapshot := Snapshot.capture session.store.index version session.now
      replaceFile session.store.cachePath snapshot.text.toUTF8
      ExceptT.lift <| .modify <| Session.mapStore fun store =>
        { store with lastSaved := some snapshot.timestamp }

end

def persist : Job Session Unit := do
  let _ ← save.run

/-- Saves the index for the last time; a refresh that is under way is not waited for. -/
def shutdown : Operation Unit := save

end Operation

end SymbolCache
