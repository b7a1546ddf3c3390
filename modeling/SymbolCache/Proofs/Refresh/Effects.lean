import SymbolCache.Proofs.Refresh.Findings
import SymbolCache.Proofs.Refresh.SyncAgreement

/-!
# What a refresh does to each package

A sync or a rebuild that succeeds treats every package by itself: by whether it is discovered,
whether its version is resolved, what the index had for it, and whether its documentation was found.
The answers may be any, and need not be the same from one call to the next.
-/

set_option autoImplicit false

namespace SymbolCache.Refresh

open Extraction (documentationRequest symbolsOfText)
open Index Operation
open Job hiding run_bind

variable {responder : Responder} {now ended : Running Session} {stats : RefreshStats}

/-! ## Syncing -/

namespace Findings

/-- What a sync takes for gone: no listing failed, and a package with a version was not
discovered. -/
structure Gone (found : Findings) (before : Index) (path : String) : Prop where
  complete : found.Complete
  versioned : ∃ version, before.version? path = some version
  undiscovered : ¬ found.Discovers path

/-- What can be told about a package: it is discovered, its version is resolved, and the last answer
to the request for its documentation is a text. -/
structure Told (found : Findings) (responder : Responder) (toolchain : Toolchain)
    (calls : List Request) (package : Package) (version text : String) : Prop where
  discovered : package ∈ found.packages
  resolved : found.versions[package.importPath]? = some version
  documented : lastAnswer? responder (documentationRequest toolchain package) calls =
    some (.ok text)

/-- What a sync extracts with success: the version is that of the workspace, or another than
before. -/
structure Renewed (found : Findings) (responder : Responder) (toolchain : Toolchain)
    (calls : List Request) (before : Index) (package : Package) (version text : String) :
    Prop extends found.Told responder toolchain calls package version text where
  changed : version = Module.workspaceVersion ∨ before.version? package.importPath ≠ some version

section

variable {found : Findings} {toolchain : Toolchain} {before : Index}

theorem mem_removed_iff (complete : found.discovery.isComplete = true ↔ found.Complete)
    {path : String} : path ∈ found.removed before ↔ found.Gone before path := by
  unfold removed
  constructor
  · intro member
    split at member
    case isTrue all =>
      obtain ⟨versioned, outside⟩ := mem_vanished.mp member
      exact ⟨complete.mp all, versioned, mt mem_pathsOf.mpr outside⟩
    case isFalse => cases member
  · intro gone
    rw [if_pos (complete.mpr gone.complete), mem_vanished]
    exact ⟨gone.versioned, mt mem_pathsOf.mp gone.undiscovered⟩

variable (distinct : (found.packages.map Package.importPath).Nodup)
  (consistent : before.Consistent)

include distinct consistent

theorem lacks_synced {path : String} (member : path ∈ found.removed before)
    (missing : ¬ found.Discovers path) : (found.synced responder toolchain before).Lacks path := by
  refine (sameAt_replaced distinct (foldl_removePackage_consistent consistent _) ?_).lacks
    (lacks_foldl_removePackage consistent member)
  exact fun package member same => absurd ⟨package, member, same⟩ missing

theorem holds_synced {package : Package} {version text : String}
    (renewed : found.Renewed responder toolchain (found.syncCalls responder toolchain before) before
      package version text) :
    (found.synced responder toolchain before).Holds package.importPath version
      (symbolsOfText package text) := by
  refine holds_replaced distinct (foldl_removePackage_consistent consistent _) renewed.discovered
    ?_ renewed.resolved renewed.documented
  simpa [isChanged, renewed.resolved] using renewed.changed

theorem sameAt_synced {path : String} (stays : path ∉ found.removed before)
    (spared : ∀ package version text, package.importPath = path →
      ¬ found.Renewed responder toolchain (found.syncCalls responder toolchain before) before
        package version text) :
    (found.synced responder toolchain before).SameAt before path := by
  refine (sameAt_replaced distinct (foldl_removePackage_consistent consistent _) ?_).trans
    (sameAt_foldl_removePackage consistent stays)
  intro package member same taken text documented
  obtain ⟨version, resolved, changed⟩ := resolved_of_isChanged taken
  exact spared package version text same ⟨⟨member, resolved, documented⟩, changed⟩

end

end Findings

def Outdated (session : Session) (version : String) : Prop :=
  session.store.toolchainVersion ≠ some version ∧ session.store.index.isEmpty = false

instance (session : Session) (version : String) : Decidable (Outdated session version) :=
  inferInstanceAs (Decidable (_ ∧ _))

/-- A sync that succeeds has asked for the version of the toolchain. If the index is outdated it has
rebuilt it, and if not it has synced it. -/
theorem ok_of_syncOrRebuild
    (succeeds : syncOrRebuild.run.run responder now = (.ok stats, ended)) :
    let toolchain := now.state.store.toolchain
    ∃ version, toolchain.versionOfAnswer (responder now.calls toolchain.versionRequest) =
        .ok version ∧
      (if Outdated now.state version then rebuildIndex else syncIndex).run.run responder
        ⟨knowing version now.state, toolchain.versionRequest :: now.calls⟩ =
          (.ok stats, ended) := by
  intro toolchain
  rw [syncOrRebuild, run_lift_bind] at succeeds
  obtain ⟨version, detects, ran⟩ := ok_of_detectToolchain succeeds
  refine ⟨version, detects, ?_⟩
  rw [run_lift_bind, run_ite] at ran
  simp only [store, Job.run, Bool.and_eq_true, decide_eq_true_eq, Bool.not_eq_true'] at ran
  rwa [run_ite]

/-- A sync by the toolchain that is known syncs the index, and does not rebuild it. -/
theorem ok_of_sync {version : String} (known : now.state.store.toolchainVersion = some version)
    (detects : now.state.store.toolchain.versionOfAnswer
      (responder now.calls now.state.store.toolchain.versionRequest) = .ok version)
    (succeeds : sync.run.run responder now = (.ok stats, ended)) :
    let before := now.state.store.index
    let toolchain := now.state.store.toolchain
    ∃ found, findings responder now.state version (toolchain.versionRequest :: now.calls) =
        .ok found ∧
      ended.state.store.index = found.synced responder toolchain before ∧
      ended.calls = found.syncCalls responder toolchain before := by
  intro before toolchain
  obtain ⟨-, counted, after, ran, -, rfl⟩ := ok_of_guarded succeeds
  obtain ⟨detected, detects', ran⟩ := ok_of_syncOrRebuild ran
  obtain rfl : detected = version := Except.ok.inj (detects'.symm.trans detects)
  rw [if_neg fun outdated => outdated.1 known] at ran
  obtain ⟨found, finds, index, calls, -⟩ := ok_of_syncIndex rfl ran
  simp only [findings_knowing, findings_begun] at finds
  exact ⟨found, finds, index, calls⟩

/-- The effect of a sync by the toolchain that has built the index, package by package. A package
that is gone has neither a version nor symbols afterwards; one that was extracted with success has
the version that was resolved and exactly the symbols of its documentation; every other package has
the version and the symbols that it had. In particular nothing is removed when a listing failed, and
a package that has no resolved version or no documentation stays as it is. -/
theorem sync_effect (responder : Responder) (now : Running Session) (sound : now.state.Sound)
    {version : String} (known : now.state.store.toolchainVersion = some version)
    (detects : now.state.store.toolchain.versionOfAnswer
      (responder now.calls now.state.store.toolchain.versionRequest) = .ok version)
    (succeeds : sync.run.run responder now = (.ok stats, ended)) :
    let before := now.state.store.index
    let after := ended.state.store.index
    let toolchain := now.state.store.toolchain
    ∃ found, findings responder now.state version (toolchain.versionRequest :: now.calls) =
        .ok found ∧ ∀ path,
      (found.Gone before path → after.Lacks path) ∧
      (∀ package packageVersion text, package.importPath = path →
        found.Renewed responder toolchain ended.calls before package packageVersion text →
          after.Holds path packageVersion (symbolsOfText package text)) ∧
      (¬ found.Gone before path →
        (∀ package packageVersion text, package.importPath = path →
          ¬ found.Renewed responder toolchain ended.calls before package packageVersion text) →
            after.SameAt before path) := by
  intro before after toolchain
  obtain ⟨found, finds, index, calls⟩ := ok_of_sync known detects succeeds
  have distinct := nodup_of_findings finds
  have removed (path : String) : path ∈ found.removed before ↔ found.Gone before path :=
    Findings.mem_removed_iff (isComplete_iff finds)
  refine ⟨found, finds, fun path => ?_⟩
  rw [show after = _ from index, calls]
  refine ⟨fun gone => ?_, ?_, fun stays => ?_⟩
  · exact Findings.lacks_synced distinct sound ((removed path).mpr gone) gone.undiscovered
  · rintro package packageVersion text rfl renewed
    exact Findings.holds_synced distinct sound renewed
  · exact Findings.sameAt_synced distinct sound (mt (removed path).mp stays)

/-! ### A workspace with one dependency -/

def exampleFindings : Except Failure Findings :=
  findings (fun _ request => exampleAnswer request) exampleSession "1.22"
    [exampleToolchain.versionRequest]

/-- The third package is not listed. -/
theorem undiscovered_gone {found : Findings}
    (packages : ∀ package, package ∈ found.packages ↔ package ∈ examplePackages) :
    ¬ found.Discovers "gone.org/x" := by
  rintro ⟨package, member, path⟩
  have listed := (packages package).mp member
  simp only [examplePackages, List.mem_cons, List.not_mem_nil, or_false] at listed
  rcases listed with rfl | rfl
  · exact absurd path (by decide)
  · exact absurd path (by decide)

/-- The dependency is up to date, the package of the workspace is extracted again, and the third
package is gone. -/
theorem sync_effect_example :
    let responder : Responder := fun _ request => exampleAnswer request
    let after := (sync.run.run responder ⟨exampleSession, []⟩).2.state.store.index
    after.SameAt exampleIndex "lib.org/c" ∧
      after.Holds "work/w" "workspace"
        (symbolsOfText { importPath := "work/w", name := "w", standard := false }
          "func Work()\n") ∧
      after.Lacks "gone.org/x" := by
  intro responder
  have listed : exampleFindings.map (fun found => (found.listed, found.packages)) =
      .ok ([.ok "work/w w false\nlib.org/c c false\n"], examplePackages) := by decide +kernel
  have resolved : exampleFindings.map (fun found =>
      (found.versions["lib.org/c"]?, found.versions["work/w"]?)) =
        .ok (some "v1.0.0", some "workspace") := by decide +kernel
  have succeeds : (sync.run.run responder ⟨exampleSession, []⟩).1.isOk = true := by
    decide +kernel
  have documented : lastAnswer? responder (documentationRequest exampleToolchain
      { importPath := "work/w", name := "w", standard := false })
        (sync.run.run responder ⟨exampleSession, []⟩).2.calls = some (.ok "func Work()\n") := by
    decide +kernel
  have upToDate : exampleIndex.version? "lib.org/c" = some "v1.0.0" := by decide +kernel
  have third : exampleIndex.version? "gone.org/x" = some "v0.1.0" := by decide +kernel
  generalize ran : sync.run.run responder ⟨exampleSession, []⟩ = synced at succeeds documented ⊢
  obtain ⟨_ | stats, ended⟩ := synced
  case error => cases succeeds
  obtain ⟨found, finds, effect⟩ := sync_effect responder ⟨exampleSession, []⟩
    reachable_exampleIndex.consistent rfl (by decide +kernel) ran
  rw [show exampleFindings = .ok found from finds] at listed resolved
  simp only [Except.map, Except.ok.injEq, Prod.mk.injEq] at listed resolved
  have packages : ∀ package, package ∈ found.packages ↔ package ∈ examplePackages := by
    simp [listed.2]
  refine ⟨(effect "lib.org/c").2.2 ?_ ?_,
    (effect "work/w").2.1 _ _ _ rfl ⟨⟨?_, resolved.2, documented⟩, .inl rfl⟩,
    (effect "gone.org/x").1 ⟨?_, ⟨_, third⟩, ?_⟩⟩
  · exact fun gone => gone.undiscovered ⟨_, (packages _).mpr List.mem_cons_self, rfl⟩
  · rintro package packageVersion text path ⟨⟨_, version, _⟩, changed⟩
    rw [path] at version changed
    obtain rfl := Option.some.inj (resolved.1.symm.trans version)
    exact changed.elim (by decide) fun other => other upToDate
  · exact (packages _).mpr (List.mem_cons_of_mem _ List.mem_cons_self)
  · simp [Findings.Complete, listed.1]
  · exact undiscovered_gone packages

/-! ## Rebuilding -/

namespace Findings

section

variable {found : Findings} {toolchain : Toolchain} {before : Index}

theorem consistent_rebuildStart : (found.rebuildStart before).Consistent := by
  unfold rebuildStart
  split
  · exact consistent_empty
  · exact carryOver_consistent _ _

variable (distinct : (found.packages.map Package.importPath).Nodup)

include distinct

theorem holds_rebuilt {package : Package} {version text : String}
    (told : found.Told responder toolchain (found.rebuildCalls responder toolchain) package version
      text) :
    (found.rebuilt responder toolchain before).Holds package.importPath version
      (symbolsOfText package text) := by
  exact holds_replaced distinct consistent_rebuildStart told.discovered
    (isResolved_of_resolved told.resolved) told.resolved told.documented

theorem lacks_rebuilt_of_start {path : String} (start : (found.rebuildStart before).Lacks path)
    (untold : ∀ package version text, package.importPath = path →
      ¬ found.Told responder toolchain (found.rebuildCalls responder toolchain) package version
        text) :
    (found.rebuilt responder toolchain before).Lacks path := by
  refine (sameAt_replaced distinct consistent_rebuildStart ?_).lacks start
  intro package member same taken text documented
  obtain ⟨version, resolved⟩ := resolved_of_isResolved taken
  exact untold package version text same ⟨member, resolved, documented⟩

/-- A package that is discovered is not in the index that a rebuild starts from, whatever becomes of
it then. -/
theorem lacks_rebuilt {path : String} (discovers : found.Discovers path)
    (untold : ∀ package version text, package.importPath = path →
      ¬ found.Told responder toolchain (found.rebuildCalls responder toolchain) package version
        text) :
    (found.rebuilt responder toolchain before).Lacks path := by
  have start : (found.rebuildStart before).Lacks path := by
    unfold rebuildStart
    split
    · exact lacks_empty path
    · exact lacks_carryOver (mem_pathsOf.mpr discovers)
  exact lacks_rebuilt_of_start distinct start untold

private theorem sameAt_rebuilt (consistent : before.Consistent)
    (partly : found.discovery.isComplete = false) {path version : String}
    (versioned : before.version? path = some version) (missing : ¬ found.Discovers path) :
    (found.rebuilt responder toolchain before).SameAt before path := by
  have start : (found.rebuildStart before).SameAt before path := by
    rw [rebuildStart, partly, if_neg Bool.false_ne_true]
    exact sameAt_carryOver consistent versioned (mt mem_pathsOf.mp missing)
  refine (sameAt_replaced distinct consistent_rebuildStart ?_).trans start
  exact fun package member same => absurd ⟨package, member, same⟩ missing

end

end Findings

private theorem ok_of_rebuild (succeeds : rebuild.run.run responder now = (.ok stats, ended)) :
    let toolchain := now.state.store.toolchain
    ∃ version, toolchain.versionOfAnswer (responder now.calls toolchain.versionRequest) =
        .ok version ∧
      ∃ found, findings responder now.state version (toolchain.versionRequest :: now.calls) =
          .ok found ∧
        ended.state.store.index = found.rebuilt responder toolchain now.state.store.index ∧
        ended.calls = found.rebuildCalls responder toolchain ∧
        stats.failedListings = found.discovery.failedListings := by
  intro toolchain
  obtain ⟨-, counted, after, ran, rfl, rfl⟩ := ok_of_guarded succeeds
  obtain ⟨version, detects, found, finds, index, calls, rfl⟩ := ok_of_rebuildIndex ran
  rw [findings_begun] at finds
  refine ⟨version, detects, found, finds, index, calls, ?_⟩
  rw [Findings.counters, apply_snd]
  rfl

/-- The effect of a rebuild with a failed listing on the packages that had a version. One that is
not discovered keeps its version and its symbols; one that is discovered, resolved and documented
has the version that was resolved and exactly the symbols of its documentation. But one that is
discovered and then not resolved, or not documented, is lost: it is neither taken over nor
replaced. -/
theorem rebuild_effect (responder : Responder) (now : Running Session) (sound : now.state.Sound)
    (succeeds : rebuild.run.run responder now = (.ok stats, ended))
    (failed : 0 < stats.failedListings) :
    let before := now.state.store.index
    let after := ended.state.store.index
    let toolchain := now.state.store.toolchain
    ∃ version, toolchain.versionOfAnswer (responder now.calls toolchain.versionRequest) =
        .ok version ∧
      ∃ found, findings responder now.state version (toolchain.versionRequest :: now.calls) =
          .ok found ∧
        ¬ found.Complete ∧
        ∀ path old, before.version? path = some old →
          (¬ found.Discovers path → after.SameAt before path) ∧
          (∀ package packageVersion text, package.importPath = path →
            found.Told responder toolchain ended.calls package packageVersion text →
              after.Holds path packageVersion (symbolsOfText package text)) ∧
          (found.Discovers path →
            (∀ package packageVersion text, package.importPath = path →
              ¬ found.Told responder toolchain ended.calls package packageVersion text) →
                after.Lacks path) := by
  intro before after toolchain
  obtain ⟨version, detects, found, finds, index, calls, count⟩ := ok_of_rebuild succeeds
  have distinct := nodup_of_findings finds
  have partly : found.discovery.isComplete = false := by
    rw [Discovery.isComplete, beq_eq_false_iff_ne]
    omega
  refine ⟨version, detects, found, finds, ?_, fun path old versioned => ?_⟩
  · rw [← isComplete_iff finds, partly]
    exact Bool.false_ne_true
  · rw [show after = _ from index, calls]
    refine ⟨Findings.sameAt_rebuilt distinct sound partly versioned, ?_,
      Findings.lacks_rebuilt distinct⟩
    rintro package packageVersion text rfl told
    exact Findings.holds_rebuilt distinct told

/-! ### A failed listing -/

def partialSession : Session :=
  exampleSession.mapStore fun store =>
    { store with config := { exampleConfig with indexing := { exclude := [] } } }

def partialAnswer (request : Request) : Answer :=
  match request.invocation.arguments with
  | ["list", "-m", "all"] => .ok "work\n"
  | _ => exampleAnswer request

def partialFindings : Except Failure Findings :=
  findings (fun _ request => partialAnswer request) partialSession "1.22"
    [exampleToolchain.versionRequest]

/-- The dependency is lost, the package of the workspace is extracted again, and the third package,
which is not listed, is taken over. -/
theorem rebuild_effect_example :
    let responder : Responder := fun _ request => partialAnswer request
    let after := (rebuild.run.run responder ⟨partialSession, []⟩).2.state.store.index
    after.Lacks "lib.org/c" ∧
      after.Holds "work/w" "workspace"
        (symbolsOfText { importPath := "work/w", name := "w", standard := false }
          "func Work()\n") ∧
      after.SameAt exampleIndex "gone.org/x" := by
  intro responder
  have listed : partialFindings.map Findings.packages = .ok examplePackages := by decide +kernel
  have resolved : partialFindings.map (fun found =>
      (found.versions["lib.org/c"]?, found.versions["work/w"]?)) =
        .ok (none, some "workspace") := by decide +kernel
  have failed : (rebuild.run.run responder ⟨partialSession, []⟩).1.map
      RefreshStats.failedListings = .ok 1 := by decide +kernel
  have documented : lastAnswer? responder (documentationRequest exampleToolchain
      { importPath := "work/w", name := "w", standard := false })
        (rebuild.run.run responder ⟨partialSession, []⟩).2.calls =
          some (.ok "func Work()\n") := by
    decide +kernel
  have dependency : exampleIndex.version? "lib.org/c" = some "v1.0.0" := by decide +kernel
  have own : exampleIndex.version? "work/w" = some "workspace" := by decide +kernel
  have third : exampleIndex.version? "gone.org/x" = some "v0.1.0" := by decide +kernel
  generalize ran : rebuild.run.run responder ⟨partialSession, []⟩ = rebuilt
    at failed documented ⊢
  obtain ⟨_ | stats, ended⟩ := rebuilt
  case error => cases failed
  have count : stats.failedListings = 1 := Except.ok.inj failed
  obtain ⟨version, detects, found, finds, -, effect⟩ := rebuild_effect responder
    ⟨partialSession, []⟩ reachable_exampleIndex.consistent ran (by omega)
  obtain rfl : "1.22" = version := Except.ok.inj
    ((by decide +kernel : detected partialAnswer exampleToolchain = .ok "1.22").symm.trans detects)
  rw [show partialFindings = .ok found from finds] at listed resolved
  simp only [Except.map, Except.ok.injEq, Prod.mk.injEq] at listed resolved
  have packages : ∀ package, package ∈ found.packages ↔ package ∈ examplePackages := by
    simp [listed]
  refine ⟨(effect "lib.org/c" _ dependency).2.2 ?_ ?_,
    (effect "work/w" _ own).2.1 _ _ _ rfl ⟨?_, resolved.2, documented⟩,
    (effect "gone.org/x" _ third).1 (undiscovered_gone packages)⟩
  · exact ⟨_, (packages _).mpr List.mem_cons_self, rfl⟩
  · rintro package packageVersion text path ⟨_, version, _⟩
    rw [path, resolved.1] at version
    cases version
  · exact (packages _).mpr (List.mem_cons_of_mem _ List.mem_cons_self)

/-- A rebuild succeeds with a failed listing, and a package that had a version and symbols has
neither afterwards. -/
theorem rebuild_loses_package :
    let responder : Responder := fun _ request => partialAnswer request
    let rebuilt := rebuild.run.run responder ⟨partialSession, []⟩
    let before := partialSession.store.index
    let after := rebuilt.2.state.store.index
    before.Reachable ∧ rebuilt.1.map RefreshStats.failedListings = .ok 1 ∧
      before.version? "lib.org/c" = some "v1.0.0" ∧ before.records "lib.org/c" "Open" ≠ [] ∧
        after.version? "lib.org/c" = none ∧ after.records "lib.org/c" "Open" = [] := by
  refine ⟨reachable_exampleIndex, ?_⟩
  decide +kernel

end SymbolCache.Refresh
