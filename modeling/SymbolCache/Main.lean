import Std.Time.DateTime.Timestamp
import SymbolCache.CommandLine.Exchange
import SymbolCache.CommandLine.Plan

/-!
# The command line

Runs the program on the real disk. What it may look at is read before it runs, and what it has
changed is written after it has run; commands are handed over on standard error and answered on
standard input.
-/

set_option autoImplicit false

namespace SymbolCache.CommandLine

/-! ## The disk -/

def pathOf (location : Location) : String :=
  Path.ofElements true location

def readNode? (location : Location) : IO (Option Node) := do
  let path := (← IO.currentDir) / pathOf location
  if ← path.isDir then return some .directory
  else if ← path.pathExists then return some (.file (← IO.FS.readBinFile path))
  else return none

/-- Reads what some names lead to from a location, as far as they go through directories. -/
def observeFrom (disk : Disk) (location : Location) : List String → IO Disk
  | [] => return disk
  | name :: names => do
    let location := Disk.step location name
    if location.isEmpty then observeFrom disk location names
    else
      match ← readNode? location with
      | some .directory => observeFrom (disk.put location .directory) location names
      | some node => return disk.put location node
      | none => return disk

def observe (disk : Disk) (path : String) : IO Disk :=
  observeFrom disk (if Path.isAbsolute path then [] else disk.workingDirectory) (Disk.names path)

def directoriesAbove : List String → List String
  | [] => ["/"]
  | last :: above => pathOf (last :: above).reverse :: directoriesAbove above

/-- Reads what tells where the workspace is, and its configuration. -/
def observeWorkspace (arguments : Arguments) (disk : Disk) : IO Disk := do
  let marks := (directoriesAbove disk.workingDirectory.reverse).flatMap fun directory =>
    rootMarks.map (Path.join directory)
  let disk ← marks.foldlM observe disk
  let root := rootOf disk arguments.root
  [root, Workspace.configPath root, Workspace.ignorePath root].foldlM observe disk

/-- Reads the snapshot of the workspace and the document to complete in. -/
def observeFiles (arguments : Arguments) (disk : Disk) : IO Disk := do
  let cachePaths := match Workspace.openStore disk (rootOf disk arguments.root) with
    | .ok store => [store.cachePath, Path.temporary store.cachePath]
    | .error _ => []
  let documents := match arguments.command with
    | .complete _ (some file) _ => [file]
    | _ => []
  (cachePaths ++ documents).foldlM observe disk

def writeFileAtOnce (path : String) (content : ByteArray) : IO Unit := do
  let temporary := Path.temporary path
  IO.FS.writeBinFile temporary content
  IO.FS.rename temporary path

def writeChanges (before after : Disk) : IO Unit := do
  for (location, node) in after.nodes.toList do
    if !(before.node? location).any node.agrees then
      match node with
      | .directory => IO.FS.createDirAll (pathOf location)
      | .file content => writeFileAtOnce (pathOf location) content
  for (location, _) in before.nodes.toList do
    if (after.node? location).isNone then IO.FS.removeFile (pathOf location)

/-! ## Running -/

def askOutside (request : Request) : IO Answer := do
  IO.eprintln (Exchange.requestLine request)
  let line ← (← IO.getStdin).getLine
  return Exchange.answerOfLine request line

def runOutside {σ α : Type} : Job σ α → σ → IO (α × σ)
  | .done value, state => return (value, state)
  | .look next, state => runOutside (next state) state
  | .put state next, _ => runOutside next state
  | .call request next, state => do runOutside (next (← askOutside request)) state
  | .callTogether requests next, state => do
    let answers ← requests.mapM askOutside
    runOutside (next (Job.inOrder answers)) state
  | .pause next, state => runOutside next state

def currentTime : IO Nat := do
  return (← Std.Time.Timestamp.now).toMillisecondsSinceUnixEpoch.toInt.toNat

/-- Runs the program for arguments that say what to do. -/
def runArguments (arguments : Arguments) : IO Report := do
  let directory ← IO.currentDir
  let disk ← observe { workingDirectory := Path.elements directory.toString } directory.toString
  let disk ← observeWorkspace arguments disk
  let disk ← observeFiles arguments disk
  match plan arguments disk with
  | .report report after =>
    writeChanges disk after
    return report
  | .run store operation =>
    let (result, session) ← runOutside operation.run { store, disk, now := ← currentTime }
    writeChanges disk session.disk
    return .ofResult arguments.json result

end SymbolCache.CommandLine

open SymbolCache.CommandLine in
def main (arguments : List String) : IO UInt32 := do
  let report ← match Arguments.parse arguments with
    | .error refusal => pure (Report.refusal refusal)
    | .ok arguments => runArguments arguments
  IO.print report.output
  IO.eprint report.messages
  return report.exitCode.toUInt32
