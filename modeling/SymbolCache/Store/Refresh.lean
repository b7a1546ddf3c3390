import SymbolCache.Extraction
import SymbolCache.Resolution
import SymbolCache.Store.Basic

/-!
# Refreshing

Three ways to bring the index of a store up to date: a rebuild starts from nothing, a sync changes
what has changed, and a targeted refresh looks at some packages only. One refresh runs at a time.
Each builds its index aside and serves it at the end, so that queries never see a part of one.
-/

set_option autoImplicit false

namespace SymbolCache

structure RefreshStats where
  discovered : Nat := 0
  indexed : Nat := 0
  unresolved : Nat := 0
  failed : Nat := 0
  removed : Nat := 0
  failedListings : Nat := 0
  symbols : Nat := 0
  duration : Nat := 0
  deriving Repr, DecidableEq

namespace RefreshStats

/-- The counters once packages are discovered and their versions resolved. -/
def ofResolution (packages : List Package) (paths : Std.ExtTreeSet String) (versions : Versions)
    (failedListings : Nat) : RefreshStats where
  discovered := packages.length
  unresolved := paths.size - versions.size
  failedListings

end RefreshStats

namespace Refresh

def pathsOf (packages : List Package) : Std.ExtTreeSet String :=
  Std.ExtTreeSet.ofList (packages.map Package.importPath) compare

def isResolved (versions : Versions) (package : Package) : Bool :=
  versions.contains package.importPath

/-! ## Changing the index -/

/-- Replaces a package by what was extracted for it. One without symbols counts as failed and stays
as it is. -/
def applyOne (versions : Versions) (state : Index × RefreshStats)
    (extracted : Extraction.Extracted) : Index × RefreshStats :=
  let (index, stats) := state
  match versions[extracted.1.importPath]? with
  | none => (index, stats)
  | some version =>
    if extracted.2.isEmpty then (index, { stats with failed := stats.failed + 1 })
    else
      (index.replacePackage extracted.1.importPath version extracted.2,
        { stats with indexed := stats.indexed + 1 })

def apply (versions : Versions) (extracted : List Extraction.Extracted) (index : Index)
    (stats : RefreshStats) : Index × RefreshStats :=
  let (index, stats) := extracted.foldl (applyOne versions) (index, stats)
  (index, { stats with symbols := index.symbolCount })

/-- Takes over the packages of a previous index that were not discovered. -/
def carryOver (previous : Index) (discovered : Std.ExtTreeSet String) : Index :=
  previous.packages.toList.foldl (fun index (path, version) =>
    if discovered.contains path then index
    else index.replacePackage path version (previous.packageSymbols path)) .empty

/-- The packages with a version that were not discovered. -/
def vanished (index : Index) (discovered : Std.ExtTreeSet String) : List String :=
  index.packages.keys.filter fun path => !discovered.contains path

/-- Whether a package has to be extracted anew: it belongs to the workspace, or its version is not
the recorded one. A package without a resolved version has not. -/
def isChanged (index : Index) (versions : Versions) (package : Package) : Bool :=
  match versions[package.importPath]? with
  | some version =>
    version == Module.workspaceVersion || index.version? package.importPath != some version
  | none => false

end Refresh

namespace Operation

open Refresh

def attempt {α : Type} (operation : Operation α) : Operation (Except Failure α) :=
  ExceptT.lift operation.run

def describe (paths : List String) : Job Session (List Package) := do
  let store ← store
  Package.describe store.toolchain paths

def resolve (paths : Std.ExtTreeSet String) : Job Session Versions := do
  let store ← store
  Resolution.resolve store.toolchain (store.toolchainVersion.map Resolution.standardVersion) paths

def extractAll (packages : List Package) : Job Session (List Extraction.Extracted) := do
  let store ← store
  Extraction.extractAll store.toolchain store.config.indexing.extractConcurrency packages

def discover : Operation Discovery := do
  let store ← store
  ExceptT.mk (Discovery.discover store.toolchain store.config)

def installAndPersist (index : Index) : Job Session Unit := do
  changeStore fun store => store.install index
  persist

def beginRefresh : Operation Unit :=
  ExceptT.mk <| .update fun session =>
    if session.store.refreshing then (.error .refreshInProgress, session)
    else (.ok (), session.mapStore fun store => { store with refreshing := true })

def endRefresh : Job Session Unit :=
  changeStore fun store => { store with refreshing := false }

def setReadiness (readiness : Readiness) : Job Session Unit :=
  changeStore fun store => { store with readiness }

/-- Runs a refresh as the only one. The store is ready after it, or as ready as before if it
failed. -/
def guarded (refresh : Operation RefreshStats) : Operation RefreshStats := do
  beginRefresh
  let prior := (← store).readiness
  let started ← now
  setReadiness .rebuilding
  match ← attempt refresh with
  | .ok stats =>
    let ended ← now
    setReadiness .ready
    endRefresh
    return { stats with duration := ended - started }
  | .error failure =>
    setReadiness prior
    endRefresh
    throw failure

/-! ## Rebuilding -/

/-- Builds the index from all packages that are discovered. If a listing failed, the packages that
were not discovered are taken over. -/
def rebuildIndex : Operation RefreshStats := do
  let _ ← detectToolchain
  let discovery ← discover
  let paths := pathsOf discovery.packages
  let versions ← resolve paths
  let stats := RefreshStats.ofResolution discovery.packages paths versions discovery.failedListings
  let extracted ← extractAll (discovery.packages.filter (isResolved versions))
  let previous := (← store).index
  let start := if discovery.isComplete then .empty else carryOver previous paths
  let (index, stats) := apply versions extracted start stats
  installAndPersist index
  return stats

def rebuild : Operation RefreshStats :=
  guarded rebuildIndex

/-! ## Syncing -/

/-- Changes the index where packages have appeared, changed or gone. Packages are only gone if no
listing failed. -/
def syncIndex : Operation RefreshStats := do
  let current := (← store).index
  let discovery ← discover
  let paths := pathsOf discovery.packages
  let versions ← resolve paths
  let stats := RefreshStats.ofResolution discovery.packages paths versions discovery.failedListings
  let removed := if discovery.isComplete then vanished current paths else []
  let changed := discovery.packages.filter (isChanged current versions)
  if removed.isEmpty && changed.isEmpty then
    return { stats with symbols := current.symbolCount }
  else
    let extracted ← extractAll changed
    let start := removed.foldl Index.removePackage current
    let (index, stats) :=
      apply versions extracted start { stats with removed := removed.length }
    installAndPersist index
    return stats

/-- Syncs the index, or rebuilds one that another version of the toolchain has built. -/
def syncOrRebuild : Operation RefreshStats := do
  let previous := (← store).toolchainVersion
  let version ← detectToolchain
  if previous ≠ some version && !(← store).index.isEmpty then rebuildIndex
  else syncIndex

/-- Brings the index up to date and saves it if it changed. -/
def sync : Operation RefreshStats :=
  guarded syncOrRebuild

/-! ## Targeted refreshes -/

def refreshIndex (importPaths : List String) : Operation RefreshStats := do
  let _ ← ensureToolchain
  let paths := Std.ExtTreeSet.ofList importPaths compare
  let packages ← describe paths.toList
  let versions ← resolve paths
  let stats := RefreshStats.ofResolution packages paths versions 0
  let extracted ← extractAll (packages.filter (isResolved versions))
  let (index, stats) := apply versions extracted (← store).index stats
  installAndPersist index
  return stats

def refreshPackages (importPaths : List String) : Operation RefreshStats :=
  guarded (refreshIndex importPaths)

/-- Resolves the versions of some packages and records them. -/
def updateVersions (importPaths : Std.ExtTreeSet String) : Operation Versions := do
  beginRefresh
  let versions ← resolve importPaths
  changeStore fun store => store.install (store.index.mergeVersions versions)
  endRefresh
  return versions

/-! ## Starting -/

inductive Start where
  | loaded
  | rebuilt (stats : RefreshStats)
  deriving Repr, DecidableEq

/-- Serves the snapshot on the disk, or rebuilds the index if there is none that fits. -/
def start : Operation Start := do
  setReadiness .loading
  if ← load then return .loaded
  else
    match ← attempt rebuild with
    | .ok stats => return .rebuilt stats
    | .error failure =>
      if (← store).index.isEmpty then setReadiness .uninitialized
      throw failure

end Operation

end SymbolCache
