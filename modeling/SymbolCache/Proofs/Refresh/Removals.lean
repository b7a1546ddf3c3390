import SymbolCache.Proofs.Refresh.Effects
import SymbolCache.Proofs.Refresh.Listings

/-!
# What a sync drops

A sync with complete listings drops a package that the listings do not discover. A package counts
as listed only by a line with three fields, so that one whose name could not be read, and whose
line therefore has two, is dropped although the line is about it.
-/

set_option autoImplicit false

namespace SymbolCache.Refresh

open Discovery (Omits listedLines)
open Index Operation
open Job hiding run_bind

namespace Findings

section

variable {responder : Responder} {found : Findings} {toolchain : Toolchain} {before : Index}
  {path : String} (distinct : (found.packages.map Package.importPath).Nodup)
  (complete : found.discovery.isComplete = true)

include distinct complete

/-- A sync loses what is not discovered, and nothing else. -/
theorem lacks_synced_iff (all : found.Complete) (consistent : before.Consistent) {old : String}
    (versioned : before.version? path = some old) :
    (found.synced responder toolchain before).Lacks path ↔ ¬ found.Discovers path := by
  have removed : path ∈ found.removed before ↔ found.Gone before path :=
    mem_removed_iff (iff_of_true complete all)
  constructor
  · intro lacks discovers
    by_cases renewed : ∃ package version text, package.importPath = path ∧
        found.Renewed responder toolchain (found.syncCalls responder toolchain before) before
          package version text
    case pos =>
      obtain ⟨package, version, text, rfl, renewed⟩ := renewed
      exact nomatch (holds_synced distinct consistent renewed).version.symm.trans lacks.version
    case neg =>
      have same := sameAt_synced distinct consistent
        (fun member => (removed.mp member).undiscovered discovers)
        fun package version text same renews => renewed ⟨package, version, text, same, renews⟩
      exact nomatch versioned.symm.trans (same.version.symm.trans lacks.version)
  · intro missing
    exact lacks_synced distinct consistent (removed.mpr ⟨all, ⟨old, versioned⟩, missing⟩) missing

/-- A rebuild loses what it cannot tell about. -/
theorem lacks_rebuilt_iff :
    (found.rebuilt responder toolchain before).Lacks path ↔
      ∀ package version text, package.importPath = path →
        ¬ found.Told responder toolchain (found.rebuildCalls responder toolchain) package version
          text := by
  constructor
  · rintro lacks package version text rfl told
    exact nomatch (holds_rebuilt distinct told).version.symm.trans lacks.version
  · intro untold
    have start : (found.rebuildStart before).Lacks path := by
      rw [rebuildStart, if_pos complete]
      exact lacks_empty path
    exact lacks_rebuilt_of_start distinct start untold

end

end Findings

section

variable {responder : Responder} {session : Session} {version : String} {calls : List Request}
  {found : Findings}

theorem undiscovered_iff {exclude : Glob.Matcher}
    (compiled : session.store.config.excludeMatcher = .ok exclude)
    (finds : findings responder session version calls = .ok found) (path : String) :
    ¬ found.Discovers path ↔ Omits exclude (listedLines found.listed) path := by
  rw [findings, compiled] at finds
  obtain rfl := Except.ok.inj finds
  exact Discovery.not_discovers_iff

private theorem exists_excludeMatcher
    (finds : findings responder session version calls = .ok found) :
    ∃ exclude, session.store.config.excludeMatcher = .ok exclude := by
  rw [findings] at finds
  cases compiled : session.store.config.excludeMatcher with
  | error failure =>
      rw [compiled] at finds
      cases finds
  | ok exclude => exact ⟨exclude, rfl⟩

end

variable {responder : Responder} {now ended : Running Session} {stats : RefreshStats}

/-- The calls made before a sync asks for the version of the toolchain for the last time. It does so
twice if the index is outdated, which it then rebuilds. -/
def callsBefore (now : Running Session) (version : String) : List Request :=
  if Outdated now.state version then now.state.store.toolchain.versionRequest :: now.calls
  else now.calls

/-- A sync that succeeds goes by what it finds out, whether it syncs the index or rebuilds it. -/
theorem exists_findings_of_sync (succeeds : sync.run.run responder now = (.ok stats, ended)) :
    let toolchain := now.state.store.toolchain
    let before := now.state.store.index
    ∃ version lastVersion found,
      toolchain.versionOfAnswer (responder now.calls toolchain.versionRequest) = .ok version ∧
      toolchain.versionOfAnswer (responder (callsBefore now version) toolchain.versionRequest) =
        .ok lastVersion ∧
      findings responder now.state lastVersion
        (toolchain.versionRequest :: callsBefore now version) = .ok found ∧
      stats.failedListings = found.discovery.failedListings ∧
      (Outdated now.state version ∧
          ended.state.store.index = found.rebuilt responder toolchain before ∧
          ended.calls = found.rebuildCalls responder toolchain ∨
        ¬ Outdated now.state version ∧
          ended.state.store.index = found.synced responder toolchain before) := by
  intro toolchain before
  obtain ⟨-, counted, concludes, ran, rfl, rfl⟩ := ok_of_guarded succeeds
  obtain ⟨version, detects, ran⟩ := ok_of_syncOrRebuild ran
  by_cases outdated : Outdated now.state version
  case pos =>
    rw [if_pos (show Outdated (begun now.state) version from outdated)] at ran
    obtain ⟨lastVersion, detectsAgain, found, finds, index, calls, rfl⟩ := ok_of_rebuildIndex ran
    simp only [findings_knowing, findings_begun] at finds
    have earlier : callsBefore now version = _ := if_pos outdated
    refine ⟨version, lastVersion, found, detects, earlier ▸ detectsAgain, earlier ▸ finds, ?_,
      .inl ⟨outdated, index, calls⟩⟩
    rw [Findings.counters, apply_snd]
    rfl
  case neg =>
    rw [if_neg (show ¬ Outdated (begun now.state) version from outdated)] at ran
    obtain ⟨found, finds, index, -, rfl⟩ := ok_of_syncIndex rfl ran
    simp only [findings_knowing, findings_begun] at finds
    have earlier : callsBefore now version = _ := if_neg outdated
    refine ⟨version, version, found, detects, earlier ▸ detects, earlier ▸ finds, ?_,
      .inr ⟨outdated, index⟩⟩
    rw [Findings.counters, apply_snd]
    rfl

/-- A package with a version is dropped by a sync without a failed listing exactly if the listings
omit it, or if the index was outdated and has been rebuilt without its version or its
documentation. -/
theorem sync_removals (responder : Responder) (now : Running Session) (sound : now.state.Sound)
    (succeeds : sync.run.run responder now = (.ok stats, ended))
    (complete : stats.failedListings = 0) :
    let store := now.state.store
    let toolchain := store.toolchain
    let after := ended.state.store.index
    ∃ exclude version lastVersion found, store.config.excludeMatcher = .ok exclude ∧
      toolchain.versionOfAnswer (responder now.calls toolchain.versionRequest) = .ok version ∧
      toolchain.versionOfAnswer (responder (callsBefore now version) toolchain.versionRequest) =
        .ok lastVersion ∧
      findings responder now.state lastVersion
        (toolchain.versionRequest :: callsBefore now version) = .ok found ∧
      found.Complete ∧
      ∀ path old, store.index.version? path = some old →
        (after.Lacks path ↔ Omits exclude (listedLines found.listed) path ∨
          Outdated now.state version ∧ ∀ package packageVersion text, package.importPath = path →
            ¬ found.Told responder toolchain ended.calls package packageVersion text) := by
  intro store toolchain after
  obtain ⟨version, lastVersion, found, detects, detectsLast, finds, failed, made⟩ :=
    exists_findings_of_sync succeeds
  obtain ⟨exclude, compiled⟩ := exists_excludeMatcher finds
  have whole : found.discovery.isComplete = true := beq_iff_eq.mpr (failed.symm.trans complete)
  have all := (isComplete_iff finds).mp whole
  have distinct := nodup_of_findings finds
  refine ⟨exclude, version, lastVersion, found, compiled, detects, detectsLast, finds, all,
    fun path old versioned => ?_⟩
  rw [← undiscovered_iff compiled finds]
  rcases made with ⟨outdated, index, calls⟩ | ⟨current, index⟩
  · rw [show after = _ from index, calls, Findings.lacks_rebuilt_iff distinct whole]
    constructor
    · exact fun untold => .inr ⟨outdated, untold⟩
    · rintro (missing | ⟨-, untold⟩)
      · exact fun package _ _ same told => missing ⟨package, told.discovered, same⟩
      · exact untold
  · rw [show after = _ from index,
      Findings.lacks_synced_iff distinct whole all sound versioned]
    exact (or_iff_left fun outdated => current outdated.1).symm

/-! ### A package whose name cannot be read -/

def unnamedAnswer (request : Request) : Answer :=
  match request.invocation.arguments with
  | "list" :: "-e" :: _ => .ok "work/w w false\nlib.org/c c false\ngone.org/x  false\n"
  | _ => exampleAnswer request

def unnamedFindings : Except Failure Findings :=
  findings (fun _ request => unnamedAnswer request) exampleSession "1.22"
    [exampleToolchain.versionRequest]

/-- The third package is dropped, and the dependency is not. -/
theorem sync_removals_example :
    let responder : Responder := fun _ request => unnamedAnswer request
    let after := (sync.run.run responder ⟨exampleSession, []⟩).2.state.store.index
    after.Lacks "gone.org/x" ∧ ¬ after.Lacks "lib.org/c" := by
  intro responder
  have listed : unnamedFindings.map Findings.packages = .ok examplePackages := by decide +kernel
  have succeeds : (sync.run.run responder ⟨exampleSession, []⟩).1.map
      RefreshStats.failedListings = .ok 0 := by
    decide +kernel
  have dependency : exampleIndex.version? "lib.org/c" = some "v1.0.0" := by decide +kernel
  have third : exampleIndex.version? "gone.org/x" = some "v0.1.0" := by decide +kernel
  generalize ran : sync.run.run responder ⟨exampleSession, []⟩ = synced at succeeds ⊢
  obtain ⟨_ | stats, ended⟩ := synced
  case error => cases succeeds
  obtain ⟨exclude, version, lastVersion, found, compiled, detects, detectsLast, finds, -,
      removals⟩ :=
    sync_removals responder ⟨exampleSession, []⟩ reachable_exampleIndex.consistent ran
      (Except.ok.inj succeeds)
  have told : exampleToolchain.versionOfAnswer
      (responder [] exampleToolchain.versionRequest) = .ok "1.22" := by
    decide +kernel
  obtain rfl : "1.22" = version := Except.ok.inj (told.symm.trans detects)
  obtain rfl : "1.22" = lastVersion := Except.ok.inj (told.symm.trans detectsLast)
  have earlier : callsBefore ⟨exampleSession, []⟩ "1.22" = [] :=
    if_neg fun outdated => outdated.1 rfl
  rw [earlier] at finds
  rw [show unnamedFindings = .ok found from finds] at listed
  have packages : ∀ package, package ∈ found.packages ↔ package ∈ examplePackages := by
    simp [Except.ok.inj listed]
  constructor
  · refine (removals "gone.org/x" _ third).mpr (.inl ?_)
    exact (undiscovered_iff compiled finds _).mp (undiscovered_gone packages)
  · intro lacks
    rcases (removals "lib.org/c" _ dependency).mp lacks with omits | ⟨outdated, -⟩
    · refine (undiscovered_iff compiled finds _).mpr omits ?_
      exact ⟨_, (packages _).mpr List.mem_cons_self, rfl⟩
    · exact outdated.1 rfl

/-- A line of a listing is about a package, nothing is excluded, and no line declares a command. All
the same a sync drops the package. -/
theorem sync_drops_listed_package :
    let listing := "work/w w false\nlib.org/c c false\ngone.org/x  false\n"
    let synced := sync.run.run (fun _ request => unnamedAnswer request) ⟨exampleSession, []⟩
    let before := exampleSession.store.index
    let after := synced.2.state.store.index
    before.Reachable ∧ exampleSession.store.config.indexing.exclude = [] ∧
      unnamedFindings.map Findings.listed = .ok [.ok listing] ∧
      "gone.org/x  false".toList ∈ Text.lines listing.toList ∧
      Text.HasFields "gone.org/x  false".toList ["gone.org/x".toList, "false".toList] ∧
      (∀ line ∈ Text.lines listing.toList, ∀ package : Package, package.GivenBy line →
        package.name ≠ "main") ∧
      synced.1.map RefreshStats.failedListings = .ok 0 ∧
      before.version? "gone.org/x" = some "v0.1.0" ∧ after.version? "gone.org/x" = none ∧
      before.records "gone.org/x" "Old" ≠ [] ∧ after.records "gone.org/x" "Old" = [] := by
  intro listing
  refine ⟨reachable_exampleIndex, rfl, by decide +kernel, by decide +kernel,
    Text.words_eq_iff.mp (by decide +kernel), ?_, ?_⟩
  · have names : ∀ line ∈ Text.lines listing.toList,
        ∀ package ∈ Package.ofListingLine? line, package.name ≠ "main" := by
      decide +kernel
    intro line member package given
    exact names line member package (Package.ofListingLine?_eq_some_iff.mpr given)
  · decide +kernel

end SymbolCache.Refresh
