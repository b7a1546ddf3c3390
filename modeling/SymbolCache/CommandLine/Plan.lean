import SymbolCache.CommandLine.Arguments
import SymbolCache.CommandLine.Report
import SymbolCache.Workspace

/-!
# Running the program

What each command does: it finds the workspace, opens its store, gets the store ready if the command
needs an index, and reports.
-/

set_option autoImplicit false

namespace SymbolCache.CommandLine

/-! ## Finding the workspace -/

def rootMarks : List String :=
  [Store.directoryName, "go.work", "go.mod"]

def isRoot (disk : Disk) (path : String) : Bool :=
  rootMarks.any fun mark => disk.contains (Path.join path mark)

/-- The nearest root of a workspace at or above a directory, given by its elements from the last one
on. -/
def nearestRoot? (disk : Disk) : List String → Option String
  | [] => if isRoot disk "/" then some "/" else none
  | last :: above =>
    let path := Path.ofElements true (last :: above).reverse
    if isRoot disk path then some path else nearestRoot? disk above

/-- The root of the workspace: the given one, the nearest one, or else the working directory. -/
def rootOf (disk : Disk) (given : Option String) : String :=
  match given with
  | some root => root
  | none =>
    (nearestRoot? disk disk.workingDirectory.reverse).getD
      (Path.ofElements true disk.workingDirectory)

/-! ## Commands -/

def prepare : Operation Unit := do
  let _ ← Operation.start

def update (force : Bool) : Operation RefreshStats := do
  if force then Operation.rebuild
  else
    match ← Operation.start with
    | .loaded => Operation.sync
    | .rebuilt stats => return stats

def reportRefresh (json : Bool) (stats : RefreshStats) : Operation String := do
  let store ← Operation.store
  return Report.refresh json store stats

def answerWith (json : Bool) (limit : Option Nat) (ask : Store → Nat → Answered) :
    Operation String := do
  prepare
  let store ← Operation.store
  return Report.answer json (ask store (limit.getD store.config.completion.resultLimit))

/-- Reports the status of the store, with the index of the snapshot if it fits. -/
def reportStatus (json : Bool) : Operation String := do
  let _ ← Operation.load
  let status ← Operation.status
  return Report.status json status

/-- What the program does next: it is done with, or an operation runs on an opened store. -/
inductive Plan where
  | report (report : Report) (disk : Disk)
  | run (store : Store) (operation : Operation String)

def onStore (arguments : Arguments) (disk : Disk) (operation : Operation String) : Plan :=
  match Workspace.openStore disk (rootOf disk arguments.root) with
  | .ok store => .run store operation
  | .error failure => .report (.failure arguments.json failure) disk

/-- What the program does for its arguments. A document to complete in is read before anything
else. -/
def plan (arguments : Arguments) (disk : Disk) : Plan :=
  let json := arguments.json
  match arguments.command with
  | .init =>
    let (result, disk) := (Workspace.setUp (rootOf disk arguments.root)).run.run disk
    .report (.ofResult json (result.map fun _ => Report.setUp)) disk
  | .index force => onStore arguments disk do reportRefresh json (← update force)
  | .query text limit =>
    onStore arguments disk (answerWith json limit fun store limit => store.search limit text)
  | .complete line file limit =>
    let document : Except FileError String :=
      match file with
      | some path => disk.readText path
      | none => .ok ""
    match document with
    | .error error => .report (.failure json (.file error)) disk
    | .ok document =>
      onStore arguments disk
        (answerWith json limit fun store limit => store.complete limit document line)
  | .refresh packages => onStore arguments disk do
    prepare
    reportRefresh json (← Operation.refreshPackages packages)
  | .status => onStore arguments disk (reportStatus json)

def run (responder : Responder) (now : Nat) (disk : Disk) (arguments : List String) :
    Report × Disk :=
  match Arguments.parse arguments with
  | .error refusal => (.refusal refusal, disk)
  | .ok arguments =>
    match plan arguments disk with
    | .report report disk => (report, disk)
    | .run store operation =>
      let (result, after) :=
        Job.run responder operation.run { state := { store, disk, now }, calls := [] }
      (.ofResult arguments.json result, after.state.disk)

end SymbolCache.CommandLine
