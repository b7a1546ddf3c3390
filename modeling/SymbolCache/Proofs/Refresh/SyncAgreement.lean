import SymbolCache.Proofs.Index.Agreement
import SymbolCache.Proofs.Index.Consistency
import SymbolCache.Proofs.Refresh.Contents

/-!
# Syncing agrees with rebuilding

A sync changes an index where something has changed, and a rebuild makes it anew. Under fixed
answers both come to the same, provided that what a sync leaves alone is what extraction would give.
-/

set_option autoImplicit false

namespace SymbolCache.Refresh

open Extraction (symbolsOf)
open Index

def Recorded (index : Index) : Prop :=
  ∀ name, ∀ symbol ∈ index.listed name, ∃ version, index.version? symbol.packagePath = some version

/-- What the index has for a package whose version is still the recorded one, and not that of the
workspace, is what extraction gives. -/
def UpToDate (answer : Request → Answer) (toolchain : Toolchain) (versions : Versions)
    (packages : List Package) (index : Index) : Prop :=
  ∀ package ∈ packages, ∀ version, versions[package.importPath]? = some version →
    version ≠ Module.workspaceVersion → index.version? package.importPath = some version →
      ∀ name, index.records package.importPath name = fresh answer toolchain package name

/-- What the answers have to say about a store for its refreshes to lose nothing: every listing
succeeds, and every package that is discovered has a version and documentation. -/
structure Informed (answer : Request → Answer) (store : Store) : Prop where
  listed : Listed answer store.toolchain store.config
  resolved : ∀ version discovery, detected answer store.toolchain = .ok version →
    Discovery.discovered answer store.toolchain store.config = .ok discovery →
      ∀ package ∈ discovery.packages, ∃ packageVersion, (versionsOf answer store.toolchain
        (some version) discovery.packages)[package.importPath]? = some packageVersion
  documented : ∀ discovery,
    Discovery.discovered answer store.toolchain store.config = .ok discovery →
      Documented answer store.toolchain discovery.packages

section

variable {answer : Request → Answer} {toolchain : Toolchain} {toolchainVersion : Option String}
  {discovery : Discovery} {index : Index}

private theorem records_eq_nil_of_recorded (recorded : Recorded index) {path : String}
    (unknown : index.version? path = none) (name : String) : index.records path name = [] := by
  by_contra filled
  obtain ⟨symbol, member, owned⟩ := records_ne_nil_iff.mp filled
  obtain ⟨version, known⟩ := recorded name symbol member
  rw [owned, unknown] at known
  cases known

theorem recorded_empty : Recorded empty := by
  intro name symbol member
  simp at member

theorem Recorded.replacePackage (recorded : Recorded index) (consistent : index.Consistent)
    (path version : String) {symbols : List Symbol}
    (owned : ∀ symbol ∈ symbols, symbol.packagePath = path) :
    Recorded (index.replacePackage path version symbols) := by
  intro name symbol member
  rw [version?, packages_replacePackage, Std.ExtTreeMap.getElem?_insert]
  rcases consistent.mem_listed_replacePackage member with added | ⟨other, before⟩
  · exact ⟨version, by simp [owned symbol added]⟩
  · simpa [version?, Ne.symm other] using recorded name symbol before

private theorem lacks_of_recorded (recorded : Recorded index) {path : String}
    (unknown : index.version? path = none) : index.Lacks path where
  version := unknown
  records := records_eq_nil_of_recorded recorded unknown

section

variable (consistent : index.Consistent) (complete : discovery.isComplete = true)

include consistent complete

private theorem synced_same_rebuilt_of_unlisted (recorded : Recorded index) {path : String}
    (absent : ∀ package ∈ discovery.packages, package.importPath ≠ path) :
    (synced answer toolchain toolchainVersion discovery index).SameAt
      (rebuilt answer toolchain toolchainVersion discovery index) path := by
  have rebuilds := rebuilt_unresolved answer toolchain toolchainVersion complete index
    (version_of_unlisted answer toolchain toolchainVersion absent)
  cases known : index.version? path with
  | some version =>
      exact (synced_vanished answer toolchain toolchainVersion complete consistent absent
        known).sameAt rebuilds
  | none =>
      have stays := synced_unknown answer toolchain toolchainVersion complete consistent absent
        known
      exact (stays.lacks (lacks_of_recorded recorded known)).sameAt rebuilds

variable {package : Package} (member : package ∈ discovery.packages)

include member

private theorem synced_same_rebuilt_of_unresolved (recorded : Recorded index)
    (unresolved : (versionsOf answer toolchain toolchainVersion
      discovery.packages)[package.importPath]? = none)
    (unknown : index.version? package.importPath = none) :
    (synced answer toolchain toolchainVersion discovery index).SameAt
      (rebuilt answer toolchain toolchainVersion discovery index) package.importPath := by
  have stays := synced_unchanged answer toolchain toolchainVersion complete consistent member
    (fun version known => nomatch unresolved.symm.trans known)
  exact (stays.lacks (lacks_of_recorded recorded unknown)).sameAt
    (rebuilt_unresolved answer toolchain toolchainVersion complete index unresolved)

private theorem synced_same_rebuilt_of_resolved
    (distinct : (discovery.packages.map Package.importPath).Nodup)
    (documented : Documented answer toolchain discovery.packages)
    (upToDate : UpToDate answer toolchain
      (versionsOf answer toolchain toolchainVersion discovery.packages) discovery.packages index)
    {version : String} (resolved : (versionsOf answer toolchain toolchainVersion
      discovery.packages)[package.importPath]? = some version) :
    (synced answer toolchain toolchainVersion discovery index).SameAt
      (rebuilt answer toolchain toolchainVersion discovery index) package.importPath := by
  have rebuilds := rebuilt_resolved answer toolchain toolchainVersion complete distinct documented
    index member resolved
  by_cases changed : version = Module.workspaceVersion ∨
      index.version? package.importPath ≠ some version
  case pos =>
    exact (synced_changed answer toolchain toolchainVersion complete consistent distinct documented
      member resolved changed).sameAt rebuilds
  case neg =>
    rw [not_or, not_not] at changed
    have stays := synced_unchanged answer toolchain toolchainVersion complete consistent member (by
      intro other known
      obtain rfl : version = other := Option.some.inj (resolved.symm.trans known)
      exact changed)
    have current : index.Holds package.importPath version
        (Extraction.symbolsOf answer toolchain package) :=
      ⟨changed.2, upToDate package member version resolved changed.1 changed.2⟩
    exact (stays.holds current).sameAt rebuilds

end

/-- Package by package, a sync gives what a rebuild gives. -/
theorem synced_same_rebuilt (consistent : index.Consistent) (recorded : Recorded index)
    (complete : discovery.isComplete = true)
    (distinct : (discovery.packages.map Package.importPath).Nodup)
    (unresolved : ∀ package ∈ discovery.packages, (versionsOf answer toolchain
      toolchainVersion discovery.packages)[package.importPath]? = none →
        index.version? package.importPath = none)
    (documented : Documented answer toolchain discovery.packages)
    (upToDate : UpToDate answer toolchain
      (versionsOf answer toolchain toolchainVersion discovery.packages) discovery.packages index)
    (path : String) :
    (synced answer toolchain toolchainVersion discovery index).SameAt
      (rebuilt answer toolchain toolchainVersion discovery index) path := by
  by_cases found : ∃ package ∈ discovery.packages, package.importPath = path
  case pos =>
    obtain ⟨package, member, rfl⟩ := found
    cases resolved : (versionsOf answer toolchain toolchainVersion
        discovery.packages)[package.importPath]? with
    | none =>
        exact synced_same_rebuilt_of_unresolved consistent complete member recorded resolved
          (unresolved package member resolved)
    | some version =>
        exact synced_same_rebuilt_of_resolved consistent complete member distinct
          documented upToDate resolved
  case neg =>
    exact synced_same_rebuilt_of_unlisted consistent complete recorded
      fun package member same => found ⟨package, member, same⟩

theorem synced_consistent (consistent : index.Consistent) :
    (synced answer toolchain toolchainVersion discovery index).Consistent :=
  replaceAll_consistent _ (foldl_removePackage_consistent consistent _) _

theorem synced_agrees_rebuilt (consistent : index.Consistent) (recorded : Recorded index)
    (complete : discovery.isComplete = true)
    (distinct : (discovery.packages.map Package.importPath).Nodup)
    (unresolved : ∀ package ∈ discovery.packages, (versionsOf answer toolchain
      toolchainVersion discovery.packages)[package.importPath]? = none →
        index.version? package.importPath = none)
    (documented : Documented answer toolchain discovery.packages)
    (upToDate : UpToDate answer toolchain
      (versionsOf answer toolchain toolchainVersion discovery.packages) discovery.packages index) :
    (synced answer toolchain toolchainVersion discovery index).Agrees
      (rebuilt answer toolchain toolchainVersion discovery index) := by
  have same := synced_same_rebuilt consistent recorded complete distinct unresolved documented
    upToDate
  have records : SameRecords (synced answer toolchain toolchainVersion discovery index)
      (rebuilt answer toolchain toolchainVersion discovery index) :=
    fun path name => (same path).records name
  exact records.agrees (synced_consistent consistent) (rebuilt_consistent ..)
    (Std.ExtTreeMap.ext_getElem? fun path => (same path).version)

end

/-- Whatever a sync does, the index then answers as after a rebuild. -/
theorem agrees_syncedOrRebuilt {answer : Request → Answer} {store : Store} {version : String}
    {discovery : Discovery} (consistent : store.index.Consistent)
    (recorded : Recorded store.index) (informed : Informed answer store)
    (detects : detected answer store.toolchain = .ok version)
    (discovers : Discovery.discovered answer store.toolchain store.config = .ok discovery)
    (upToDate : UpToDate answer store.toolchain
      (versionsOf answer store.toolchain (some version) discovery.packages) discovery.packages
        store.index) :
    (syncedOrRebuilt answer store version discovery).Agrees
      (rebuilt answer store.toolchain (some version) discovery store.index) := by
  unfold syncedOrRebuilt
  split
  case isTrue => exact .refl _
  case isFalse =>
    refine synced_agrees_rebuilt consistent recorded
      (isComplete_of_listed informed.listed discovers) (nodup_of_discovered discovers) ?_
      (informed.documented discovery discovers) upToDate
    intro package member unresolved
    obtain ⟨packageVersion, resolved⟩ :=
      informed.resolved version discovery detects discovers package member
    cases unresolved.symm.trans resolved

/-- From the same store, a sync and a rebuild both succeed or both fail, and the index answers alike
after the one and after the other. -/
theorem sync_agrees_rebuild (answer : Request → Answer) (session : Session)
    (calls : List Request) (reachable : session.store.index.Reachable)
    (recorded : Recorded session.store.index) (informed : Informed answer session.store)
    (upToDate : ∀ version discovery, detected answer session.store.toolchain = .ok version →
      Discovery.discovered answer session.store.toolchain session.store.config = .ok discovery →
        UpToDate answer session.store.toolchain
          (versionsOf answer session.store.toolchain (some version) discovery.packages)
          discovery.packages session.store.index) :
    let responder : Responder := fun _ request => answer request
    let synced := Operation.sync.run.run responder ⟨session, calls⟩
    let rebuilt := Operation.rebuild.run.run responder ⟨session, calls⟩
    synced.1.isOk = rebuilt.1.isOk ∧
      synced.2.state.store.index.Agrees rebuilt.2.state.store.index := by
  intro responder synced rebuilt
  have syncs := Job.run_fixed answer Operation.sync.run ⟨session, calls⟩
  have rebuilds := Job.run_fixed answer Operation.rebuild.run ⟨session, calls⟩
  rw [syncs.1, syncs.2, rebuilds.1, rebuilds.2]
  have synced := yields_sync answer session
  have rebuilt := yields_rebuild answer session
  obtain fails | ⟨idle, version, discovery, detects, discovers⟩ :=
    refreshed_cases answer session.store
  case inl =>
    rw [fails] at synced rebuilt
    exact ⟨synced.1.trans rebuilt.1.symm, synced.2.trans rebuilt.2.symm ▸ .refl _⟩
  case inr =>
    rw [refreshed_of_ok answer idle detects discovers] at synced rebuilt
    refine ⟨synced.1.trans rebuilt.1.symm, ?_⟩
    rw [synced.2, rebuilt.2]
    exact agrees_syncedOrRebuilt reachable.consistent recorded informed detects discovers
      (upToDate version discovery detects discovers)

/-! ## A workspace with one dependency -/

/-- What the toolchain answers in a workspace with a package of its own and one dependency. -/
def exampleAnswer (request : Request) : Answer :=
  match request.invocation.arguments with
  | ["env", "GOVERSION"] => .ok "go1.22"
  | ["list", "-m", "all"] => .ok "work\nlib.org/c v1.0.0\n"
  | "list" :: "-e" :: _ => .ok "work/w w false\nlib.org/c c false\n"
  | ["doc", "-all", "lib.org/c"] => .ok "func Open() int\n"
  | ["doc", "-all", "work/w"] => .ok "func Work()\n"
  | _ => .error .toolchainUnknown

def examplePackages : List Package :=
  [{ importPath := "lib.org/c", name := "c", standard := false },
    { importPath := "work/w", name := "w", standard := false }]

def exampleSymbol (packagePath : String) : Symbol where
  name := "Old"
  packagePath
  packageName := "p"
  kind := .func
  isExported := true
  signature := none

def exampleConfig : Config where
  indexing := { includeStandard := false, exclude := [] }

def exampleToolchain : Toolchain :=
  .ofConfig exampleConfig "/work"

/-- An index in which the dependency is up to date, the package of the workspace is not, and a third
package is gone. -/
def exampleIndex : Index :=
  ((empty.replacePackage "lib.org/c" "v1.0.0"
    (symbolsOf exampleAnswer exampleToolchain
      { importPath := "lib.org/c", name := "c", standard := false })).replacePackage
        "work/w" "workspace" [exampleSymbol "work/w"]).replacePackage
          "gone.org/x" "v0.1.0" [exampleSymbol "gone.org/x"]

def exampleSession : Session where
  store :=
    { Store.create "/work" exampleConfig with
      toolchainVersion := some "1.22"
      index := exampleIndex }
  disk := {}
  now := 0

theorem discovered_example :
    Discovery.discovered exampleAnswer exampleToolchain exampleConfig =
      .ok { packages := examplePackages, failedListings := 0 } := by
  decide +kernel

theorem detected_example : detected exampleAnswer exampleToolchain = .ok "1.22" := by
  decide +kernel

theorem informed_example : Informed exampleAnswer exampleSession.store where
  listed := by
    intro request member
    have single : request ∈ [Discovery.dependencyListing exampleToolchain] := member
    obtain rfl : request = Discovery.dependencyListing exampleToolchain :=
      List.mem_singleton.mp single
    exact ⟨_, rfl⟩
  resolved := by
    intro version discovery detects discovers package member
    obtain rfl : ({ packages := examplePackages, failedListings := 0 } : Discovery) =
        discovery := Except.ok.inj (discovered_example.symm.trans discovers)
    obtain rfl : "1.22" = version := Except.ok.inj (detected_example.symm.trans detects)
    have all : ∀ package ∈ examplePackages, ((versionsOf exampleAnswer exampleToolchain
        (some "1.22") examplePackages)[package.importPath]?).isSome := by
      decide +kernel
    exact Option.isSome_iff_exists.mp (all package member)
  documented := by
    intro discovery discovers package member
    obtain rfl : ({ packages := examplePackages, failedListings := 0 } : Discovery) =
        discovery := Except.ok.inj (discovered_example.symm.trans discovers)
    simp only [examplePackages, List.mem_cons, List.not_mem_nil, or_false] at member
    rcases member with rfl | rfl
    · exact ⟨_, rfl⟩
    · exact ⟨_, rfl⟩

theorem reachable_exampleIndex : exampleIndex.Reachable :=
  ((Reachable.empty.replacePackage _ _ _).replacePackage _ _ _).replacePackage _ _ _

private theorem recorded_exampleIndex : Recorded exampleIndex := by
  have start := consistent_empty
  have dependency := start.replacePackage "lib.org/c" "v1.0.0"
    (symbolsOf exampleAnswer exampleToolchain
      { importPath := "lib.org/c", name := "c", standard := false })
  refine ((recorded_empty.replacePackage start _ _ ?_).replacePackage dependency _ _
    ?_).replacePackage (dependency.replacePackage _ _ _) _ _ ?_
  · exact fun symbol member => (Extraction.owned_of_mem_symbolsOfAnswer member).1
  · simp [exampleSymbol]
  · simp [exampleSymbol]

private theorem records_exampleIndex (name : String) :
    exampleIndex.records "lib.org/c" name = fresh exampleAnswer exampleToolchain
      { importPath := "lib.org/c", name := "c", standard := false } name := by
  have dependency := consistent_empty.replacePackage "lib.org/c" "v1.0.0"
    (symbolsOf exampleAnswer exampleToolchain
      { importPath := "lib.org/c", name := "c", standard := false })
  rw [exampleIndex, (dependency.replacePackage _ _ _).records_replacePackage,
    dependency.records_replacePackage, consistent_empty.records_replacePackage,
    ← filter_isRecord_symbolsOf]
  simp [isRecord, exampleSymbol]

theorem sync_agrees_rebuild_example :
    (Operation.sync.run.run (fun _ request => exampleAnswer request)
        ⟨exampleSession, []⟩).2.state.store.index.Agrees
      (Operation.rebuild.run.run (fun _ request => exampleAnswer request)
        ⟨exampleSession, []⟩).2.state.store.index := by
  refine (sync_agrees_rebuild exampleAnswer exampleSession [] reachable_exampleIndex
    recorded_exampleIndex informed_example ?_).2
  intro version discovery detects discovers package member packageVersion known module same
  obtain rfl : ({ packages := examplePackages, failedListings := 0 } : Discovery) = discovery :=
    Except.ok.inj (discovered_example.symm.trans discovers)
  simp only [examplePackages, List.mem_cons, List.not_mem_nil, or_false] at member
  rcases member with rfl | rfl
  · exact records_exampleIndex
  · have recorded : exampleIndex.version? "work/w" = some "workspace" := by
      simp [exampleIndex, version?, Std.ExtTreeMap.getElem_insert]
    exact absurd (Option.some.inj (same.symm.trans recorded)) module

end SymbolCache.Refresh
