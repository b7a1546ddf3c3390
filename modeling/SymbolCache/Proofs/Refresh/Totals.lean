import Mathlib.Data.List.Dedup
import SymbolCache.Proofs.Refresh.Counters
import SymbolCache.Proofs.Refresh.Targets

/-!
# The counters of a refresh add up

A refresh counts packages where it lists, resolves, extracts and removes them. No package is listed
twice, no version is resolved for a path that is not asked for, and one entry is extracted for each
package that is chosen. So every package is counted once, under what became of it.
-/

set_option autoImplicit false

namespace SymbolCache

open Job hiding run_bind

/-! ## Versions of no other paths -/

namespace Resolution

variable {σ : Type} (responder : Responder) (toolchain : Toolchain)

private theorem mem_knownVersions {modules : List Module} {standardVersion : Option String}
    {paths : List String} {path : String}
    (member : path ∈ knownVersions modules standardVersion paths) : path ∈ paths := by
  by_contra foreign
  have recorded := getElem?_record (knownVersion? modules standardVersion) ∅ paths path
  rw [if_neg foreign, Std.ExtTreeMap.getElem?_empty] at recorded
  have known := Std.ExtTreeMap.mem_iff_isSome_getElem?.mp member
  exact absurd (recorded ▸ known :) Bool.false_ne_true

/-- Asking for the versions of paths tells none of another path, whatever the answers are. -/
theorem mem_run_queryAll {versions : Versions} {paths : List String} {now : Running σ}
    {path : String} (member : path ∈ ((queryAll toolchain versions paths).run responder now).1) :
    path ∈ versions ∨ path ∈ paths := by
  induction paths generalizing versions now with
  | nil => exact .inl member
  | cons first paths ih =>
      rw [queryAll, bind_eq, Job.run_bind] at member
      generalize (query toolchain first).run responder now = asked at member
      obtain ⟨version?, after⟩ := asked
      cases version? with
      | none => exact (ih member).imp_right (List.mem_cons_of_mem first)
      | some version =>
          rcases ih member with known | later
          · rcases Std.ExtTreeMap.mem_insert.mp known with same | known
            · exact .inr (Std.compare_eq_iff_eq.mp same ▸ List.mem_cons_self)
            · exact .inl known
          · exact .inr (List.mem_cons_of_mem first later)

private theorem mem_run_resolve {standardVersion : Option String} {paths : Std.ExtTreeSet String}
    {now : Running σ} {path : String}
    (member : path ∈ ((resolve toolchain standardVersion paths).run responder now).1) :
    path ∈ paths := by
  rw [resolve, bind_eq, Job.run_bind] at member
  rw [← Std.ExtTreeSet.mem_toList]
  rcases mem_run_queryAll responder toolchain member with known | unknown
  · exact mem_knownVersions known
  · exact List.mem_of_mem_filter unknown

end Resolution

namespace Refresh

open Extraction (documentationRequest gather_perm)
open Index Operation

/-! ## Packages and paths -/

section

variable {packages : List Package} (distinct : (packages.map Package.importPath).Nodup)

include distinct

private theorem size_pathsOf : (pathsOf packages).size = packages.length := by
  have same : (pathsOf packages).toList.Perm (packages.map Package.importPath) := by
    refine (List.perm_ext_iff_of_nodup ?_ distinct).mpr fun path => ?_
    · exact nodup_targets (packages.map Package.importPath)
    · rw [Std.ExtTreeSet.mem_toList, mem_pathsOf, List.mem_map]
  rw [← Std.ExtTreeSet.length_toList, same.length_eq, List.length_map]

/-- If no other path has a version, the versions are those of the packages that have one. -/
theorem size_versions {versions : Versions} (own : ∀ path ∈ versions, path ∈ pathsOf packages) :
    versions.size = packages.countP (isResolved versions) := by
  have same : versions.keys.Perm
      ((packages.filter (isResolved versions)).map Package.importPath) := by
    refine (List.perm_ext_iff_of_nodup Std.ExtTreeMap.nodup_keys
      (Package.nodup_importPath_filter distinct _)).mpr fun path => ?_
    rw [Std.ExtTreeMap.mem_keys, List.mem_map]
    constructor
    · intro versioned
      obtain ⟨package, member, rfl⟩ := mem_pathsOf.mp (own path versioned)
      exact ⟨package, List.mem_filter.mpr ⟨member, Std.ExtTreeMap.contains_iff_mem.mpr versioned⟩,
        rfl⟩
    · rintro ⟨package, member, rfl⟩
      exact Std.ExtTreeMap.contains_iff_mem.mp (List.mem_filter.mp member).2
  rw [← Std.ExtTreeMap.length_keys, same.length_eq, List.length_map, List.countP_eq_length_filter]

end

/-! ## The counters of one refresh -/

namespace Findings

variable {responder : Responder} {toolchain : Toolchain} {found : Findings}
  {chosen : Package → Bool} {start : Index}

structure Tally (found : Findings) (stats : RefreshStats) (upToDate : Nat) (served : Index) :
    Prop where
  discovered : stats.discovered = found.packages.length
  unresolved : stats.unresolved =
    found.packages.countP fun package => !isResolved found.versions package
  /-- The difference that counts the unresolved packages is not cut off at zero. -/
  unsaturated : found.versions.size ≤ (pathsOf found.packages).size
  total : stats.discovered = stats.indexed + stats.failed + stats.unresolved + upToDate
  symbols : stats.symbols = served.symbolCount

private theorem extracted_perm :
    ((found.extracted responder toolchain chosen).map Prod.fst).Perm
      (found.packages.filter chosen) :=
  gather_perm (.refl _) ((length_answerAll ..).trans (List.length_map _))

section

variable (resolved : ∀ package, chosen package = true → isResolved found.versions package = true)

include resolved

/-- Every package that is chosen is counted as indexed or as failed. -/
theorem handled_counters (removed : Nat) :
    (found.counters responder toolchain chosen start removed).indexed +
        (found.counters responder toolchain chosen start removed).failed =
      found.packages.countP chosen := by
  have counted : (found.extracted responder toolchain chosen).countP
      (fun entry => isResolved found.versions entry.1) =
        (found.packages.filter chosen).countP (isResolved found.versions) := by
    rw [← extracted_perm.countP_eq, List.countP_map]
    rfl
  have all : (found.packages.filter chosen).countP (isResolved found.versions) =
      (found.packages.filter chosen).length :=
    List.countP_eq_length.mpr fun package member =>
      resolved package (List.mem_filter.mp member).2
  rw [counters, handled_apply, counted, all, ← List.countP_eq_length_filter]
  exact Nat.zero_add _

/-- The counters add up: a package is not resolved, or it is chosen and then indexed or failed, or
it is up to date. -/
theorem tally_counters (distinct : (found.packages.map Package.importPath).Nodup)
    (own : ∀ path ∈ found.versions, path ∈ pathsOf found.packages) (removed : Nat) :
    found.Tally (found.counters responder toolchain chosen start removed)
      (found.packages.countP fun package => isResolved found.versions package && !chosen package)
      (found.replaced responder toolchain chosen start) := by
  have paths := size_pathsOf distinct
  have versions := size_versions distinct own
  have handled : (found.counters responder toolchain chosen start removed).indexed +
      (found.counters responder toolchain chosen start removed).failed =
        found.packages.countP chosen := handled_counters resolved removed
  have unresolved : (found.counters responder toolchain chosen start removed).unresolved =
      (pathsOf found.packages).size - found.versions.size := by
    rw [counters, apply_snd]
    rfl
  have all : found.packages.length = found.packages.countP (isResolved found.versions) +
      found.packages.countP fun package => !isResolved found.versions package := by
    rw [List.length_eq_countP_add_countP (isResolved found.versions)]
    simp
  have split : found.packages.countP (isResolved found.versions) =
      found.packages.countP chosen + found.packages.countP
        fun package => isResolved found.versions package && !chosen package := by
    rw [List.countP_eq_length_filter, List.length_eq_countP_add_countP chosen, List.countP_filter,
      List.countP_filter]
    congr 1
    · refine List.countP_congr fun package _ => ?_
      simpa using resolved package
    · simp [Bool.and_comm]
  have discovered : (found.counters responder toolchain chosen start removed).discovered =
      found.packages.length := by
    rw [counters, apply_snd]
    rfl
  refine ⟨discovered, ?_, ?_, ?_, ?_⟩
  · omega
  · omega
  · omega
  · rw [counters, apply_snd]
    rfl

end

/-- If all that is resolved is extracted, nothing is up to date. -/
theorem tally_counters_resolved (distinct : (found.packages.map Package.importPath).Nodup)
    (own : ∀ path ∈ found.versions, path ∈ pathsOf found.packages) :
    found.Tally (found.counters responder toolchain (isResolved found.versions) start 0) 0
      (found.replaced responder toolchain (isResolved found.versions) start) := by
  have tally : found.Tally (found.counters responder toolchain (isResolved found.versions) start 0)
      (found.packages.countP fun package =>
        isResolved found.versions package && !isResolved found.versions package)
      (found.replaced responder toolchain (isResolved found.versions) start) :=
    tally_counters (fun _ resolved => resolved) distinct own 0
  simpa using tally

end Findings

/-! ## What disappears -/

def disappeared (before after : Index) : List String :=
  before.packages.keys.filter fun path => !after.packages.contains path

section

variable {versions : Versions} {index : Index} {path : String}

private theorem mem_packages_replaceOne {entry : Extraction.Extracted} :
    path ∈ (replaceOne versions index entry).packages ↔
      path ∈ index.packages ∨ isIndexed versions entry = true ∧ entry.1.importPath = path := by
  unfold replaceOne isIndexed isResolved
  rw [← Std.ExtTreeMap.isSome_getElem?_eq_contains]
  cases versions[entry.1.importPath]? with
  | none => simp
  | some version =>
      cases empty : entry.2.isEmpty with
      | true => simp
      | false => simp [Std.ExtTreeMap.mem_insert, or_comm]

/-- Replacing packages takes no version away, and adds those of what is indexed. -/
theorem mem_packages_replaceAll {extracted : List Extraction.Extracted} :
    path ∈ (replaceAll versions extracted index).packages ↔
      path ∈ index.packages ∨
        ∃ entry ∈ extracted, isIndexed versions entry = true ∧ entry.1.importPath = path := by
  induction extracted generalizing index with
  | nil => simp [replaceAll]
  | cons entry extracted ih =>
      rw [replaceAll, List.foldl_cons, ← replaceAll, ih, mem_packages_replaceOne]
      simp [or_assoc]

end

namespace Findings

variable {responder : Responder} {toolchain : Toolchain} {found : Findings} {before : Index}

private theorem mem_removed {path : String} (member : path ∈ found.removed before) :
    path ∈ before.packages ∧ path ∉ pathsOf found.packages := by
  unfold removed at member
  split at member
  case isTrue =>
    obtain ⟨⟨version, versioned⟩, outside⟩ := mem_vanished.mp member
    exact ⟨Std.ExtTreeMap.mem_iff_isSome_getElem?.mpr (Option.isSome_of_eq_some versioned),
      outside⟩
  case isFalse => cases member

/-- A sync keeps a version, unless it removes it. -/
theorem mem_packages_synced {path : String} (versioned : path ∈ before.packages) :
    path ∈ (found.synced responder toolchain before).packages ↔ path ∉ found.removed before := by
  have start : path ∈ ((found.removed before).foldl removePackage before).packages ↔
      path ∉ found.removed before := by
    rw [Std.ExtTreeMap.mem_iff_isSome_getElem?] at versioned
    rw [Std.ExtTreeMap.mem_iff_isSome_getElem?, packages_foldl_removePackage]
    split <;> simp_all
  refine mem_packages_replaceAll.trans (or_iff_left_of_imp ?_ |>.trans start)
  rintro ⟨entry, member, -, rfl⟩
  refine start.mpr fun gone => (mem_removed gone).2 (mem_pathsOf.mpr ⟨entry.1, ?_, rfl⟩)
  obtain ⟨place, answer, -, found, -⟩ := Extraction.mem_gather member
  exact List.mem_of_mem_filter (List.mem_of_getElem? found)

/-- What disappears in a sync is what it removes. -/
theorem length_disappeared_synced :
    (disappeared before (found.synced responder toolchain before)).length =
      (found.removed before).length := by
  refine List.Perm.length_eq ((List.perm_ext_iff_of_nodup ?_ ?_).mpr fun path => ?_)
  · exact Std.ExtTreeMap.nodup_keys.filter _
  · unfold removed
    split
    · exact Std.ExtTreeMap.nodup_keys.filter _
    · exact List.nodup_nil
  · rw [disappeared, List.mem_filter, Std.ExtTreeMap.mem_keys, Bool.not_eq_true',
      ← Bool.not_eq_true, Std.ExtTreeMap.contains_iff_mem]
    constructor
    · rintro ⟨versioned, gone⟩
      exact not_not.mp (mt (mem_packages_synced versioned).mpr gone)
    · intro removed
      have versioned := (mem_removed removed).1
      exact ⟨versioned, fun stays => (mem_packages_synced versioned).mp stays removed⟩

end Findings

/-! ## The counters of every refresh -/

section

variable {responder : Responder} {now ended : Running Session} {stats : RefreshStats}

/-- Whether a package is resolved to the version that an index has for it, and does not belong to
the workspace. -/
def isUpToDate (before : Index) (versions : Versions) (package : Package) : Bool :=
  match versions[package.importPath]? with
  | some version =>
    version != Module.workspaceVersion && before.version? package.importPath == some version
  | none => false

private theorem isUpToDate_eq (before : Index) (versions : Versions) :
    isUpToDate before versions =
      fun package => isResolved versions package && !isChanged before versions package := by
  funext package
  rw [isUpToDate, isChanged, isResolved, ← Std.ExtTreeMap.isSome_getElem?_eq_contains]
  cases versions[package.importPath]? with
  | none => rfl
  | some version => simp [bne]

private theorem mem_resolvedAfter {session : Session} {version : String} {packages : List Package}
    {calls : List Request} {path : String}
    (member : path ∈ (resolvedAfter responder session version packages calls).1) :
    path ∈ pathsOf packages :=
  Resolution.mem_run_resolve responder _ member

private theorem own_of_findings {session : Session} {version : String} {calls : List Request}
    {found : Findings} (finds : findings responder session version calls = .ok found)
    {path : String} (member : path ∈ found.versions) : path ∈ pathsOf found.packages := by
  obtain ⟨exclude, -, rfl⟩ := exists_of_findings finds
  simp only [findingsExcluding] at member ⊢
  exact mem_resolvedAfter member

/-- How long a refresh took is not a part of the tally. -/
theorem Findings.Tally.lasting {found : Findings} {upToDate : Nat} {served : Index}
    (tally : found.Tally stats upToDate served) (duration : Nat) :
    found.Tally { stats with duration } upToDate served :=
  { tally with }

private theorem tally_of_rebuildIndex
    (succeeds : rebuildIndex.run.run responder now = (.ok stats, ended)) :
    let toolchain := now.state.store.toolchain
    ∃ version, toolchain.versionOfAnswer (responder now.calls toolchain.versionRequest) =
        .ok version ∧
      ∃ found, findings responder now.state version (toolchain.versionRequest :: now.calls) =
          .ok found ∧
        found.Tally stats 0 ended.state.store.index := by
  obtain ⟨version, detects, found, finds, index, -, counted⟩ := ok_of_rebuildIndex succeeds
  refine ⟨version, detects, found, finds, ?_⟩
  rw [index, counted]
  exact Findings.tally_counters_resolved (nodup_of_findings finds) fun _ => own_of_findings finds

private theorem tally_of_syncIndex {version : String}
    (known : now.state.store.toolchainVersion = some version)
    (succeeds : syncIndex.run.run responder now = (.ok stats, ended)) :
    let before := now.state.store.index
    let after := ended.state.store.index
    ∃ found, findings responder now.state version now.calls = .ok found ∧
      found.Tally stats (found.packages.countP (isUpToDate before found.versions)) after ∧
      stats.removed = (disappeared before after).length := by
  intro before after
  obtain ⟨found, finds, index, -, counted⟩ := ok_of_syncIndex known succeeds
  refine ⟨found, finds, ?_, ?_⟩
  · rw [show after = _ from index, counted, isUpToDate_eq]
    exact Findings.tally_counters (fun _ changed => isResolved_of_isChanged changed)
      (nodup_of_findings finds) (fun _ => own_of_findings finds) _
  · rw [show after = _ from index, Findings.length_disappeared_synced, counted, Findings.counters,
      apply_snd]

private theorem tally_of_refreshIndex {importPaths : List String}
    (succeeds : (refreshIndex importPaths).run.run responder now = (.ok stats, ended)) :
    ∃ version known, Knows responder now version known ∧
      (targetFindings responder now.state version importPaths known.calls).Tally stats 0
        ended.state.store.index := by
  obtain ⟨version, known, knows, index, -, -, counted⟩ := ok_of_refreshIndex succeeds
  refine ⟨version, known, knows, ?_⟩
  have distinct : ((targetFindings responder now.state version importPaths known.calls).packages.map
      Package.importPath).Nodup := by
    rw [targetFindings, Findings.packages, map_importPath_described]
    exact nodup_targets importPaths
  rw [index, counted]
  exact Findings.tally_counters_resolved distinct fun _ => mem_resolvedAfter

private theorem length_targets (importPaths : List String) :
    (targets importPaths).length = importPaths.dedup.length := by
  refine List.Perm.length_eq ((List.perm_ext_iff_of_nodup (nodup_targets importPaths)
    (List.nodup_dedup importPaths)).mpr fun path => ?_)
  rw [mem_targets, List.mem_dedup]

/-- The counters of a refresh add up, whatever the store is and whatever the toolchain answers.

After a rebuild, a targeted refresh, or a sync that rebuilds because another version of the
toolchain has built the index, every package is counted as indexed, as failed or as unresolved.
After any other sync the remaining ones are those that are up to date, and what is counted as
removed is what the index had a version of and has none of any more. A targeted refresh counts a
path once, however often it is given. The symbols are those of the index that is served then, and in
no case is the difference that counts the unresolved packages cut off. -/
theorem refresh_counters_add_up (responder : Responder) (now ended : Running Session)
    (stats : RefreshStats) :
    let toolchain := now.state.store.toolchain
    let before := now.state.store.index
    let after := ended.state.store.index
    let asked := toolchain.versionRequest :: now.calls
    (rebuild.run.run responder now = (.ok stats, ended) →
      ∃ version, toolchain.versionOfAnswer (responder now.calls toolchain.versionRequest) =
          .ok version ∧
        ∃ found, findings responder now.state version asked = .ok found ∧
          found.Tally stats 0 after) ∧
    (sync.run.run responder now = (.ok stats, ended) →
      ∃ version, toolchain.versionOfAnswer (responder now.calls toolchain.versionRequest) =
          .ok version ∧
        if Outdated now.state version then
          ∃ rebuilder, toolchain.versionOfAnswer (responder asked toolchain.versionRequest) =
              .ok rebuilder ∧
            ∃ found, findings responder now.state rebuilder (toolchain.versionRequest :: asked) =
                .ok found ∧
              found.Tally stats 0 after
        else
          ∃ found, findings responder now.state version asked = .ok found ∧
            found.Tally stats (found.packages.countP (isUpToDate before found.versions)) after ∧
            stats.removed = (disappeared before after).length) ∧
    (∀ importPaths, (refreshPackages importPaths).run.run responder now = (.ok stats, ended) →
      ∃ version known, Knows responder now version known ∧
        (targetFindings responder now.state version importPaths known.calls).Tally stats 0 after ∧
        stats.discovered = importPaths.dedup.length) := by
  intro toolchain before after asked
  refine ⟨fun succeeds => ?rebuild, fun succeeds => ?sync, fun importPaths succeeds => ?targets⟩
  all_goals obtain ⟨-, counted, done, ran, rfl, rfl⟩ := ok_of_guarded succeeds
  case rebuild =>
    obtain ⟨version, detects, found, finds, tally⟩ := tally_of_rebuildIndex ran
    rw [findings_begun] at finds
    exact ⟨version, detects, found, finds, tally.lasting _⟩
  case sync =>
    obtain ⟨version, detects, ran⟩ := ok_of_syncOrRebuild ran
    refine ⟨version, detects, ?_⟩
    split
    case isTrue outdated =>
      rw [if_pos (by exact outdated)] at ran
      obtain ⟨rebuilder, detected, found, finds, tally⟩ := tally_of_rebuildIndex ran
      rw [findings_knowing, findings_begun] at finds
      exact ⟨rebuilder, detected, found, finds, tally.lasting _⟩
    case isFalse current =>
      rw [if_neg (by exact current)] at ran
      obtain ⟨found, finds, tally, removed⟩ := tally_of_syncIndex rfl ran
      rw [findings_knowing, findings_begun] at finds
      exact ⟨found, finds, tally.lasting _, removed⟩
  case targets =>
    obtain ⟨version, known, knows, tally⟩ := tally_of_refreshIndex ran
    rw [targetFindings_begun] at tally
    have once : counted.discovered = importPaths.dedup.length := by
      rw [tally.discovered, targetFindings, Findings.packages, List.length_map, length_targets]
    cases knows with
    | before recorded => exact ⟨version, now, .before recorded, tally.lasting _, once⟩
    | asking unknown detects => exact ⟨version, _, .asking unknown detects, tally.lasting _, once⟩

/-! ### One workspace, three refreshes -/

/-- Of the packages of the workspace the dependency is up to date in a sync, which removes a third
one; a rebuild extracts both. Of two paths, one of them given twice, a targeted refresh resolves
one. -/
theorem refresh_counters_add_up_example :
    let responder : Responder := fun _ request => exampleAnswer request
    let rebuilt := rebuild.run.run responder ⟨exampleSession, []⟩
    let synced := sync.run.run responder ⟨exampleSession, []⟩
    let targeted := (refreshPackages exampleTargets).run.run responder ⟨exampleSession, []⟩
    (∃ stats, rebuilt.1 = .ok stats ∧
      stats.discovered = stats.indexed + stats.failed + stats.unresolved) ∧
    (∃ stats, synced.1 = .ok stats ∧
      stats.discovered = stats.indexed + stats.failed + stats.unresolved + 1 ∧
      stats.removed = (disappeared exampleIndex synced.2.state.store.index).length) ∧
    (∃ stats, targeted.1 = .ok stats ∧
      stats.discovered = stats.indexed + stats.failed + stats.unresolved ∧
      stats.discovered = 2) := by
  intro responder rebuilt synced targeted
  have rebuilds : rebuilt.1.isOk = true := by decide +kernel
  have syncs : synced.1.isOk = true := by decide +kernel
  have refreshes : targeted.1.isOk = true := by decide +kernel
  generalize rebuiltRan : rebuilt = rebuilt at rebuilds ⊢
  generalize syncedRan : synced = synced at syncs ⊢
  generalize targetedRan : targeted = targeted at refreshes ⊢
  obtain ⟨_ | rebuildStats, rebuiltEnd⟩ := rebuilt
  case error => cases rebuilds
  obtain ⟨_ | syncStats, syncedEnd⟩ := synced
  case error => cases syncs
  obtain ⟨_ | targetStats, targetedEnd⟩ := targeted
  case error => cases refreshes
  refine ⟨⟨rebuildStats, rfl, ?rebuild⟩, ⟨syncStats, rfl, ?sync⟩, ⟨targetStats, rfl, ?targets⟩⟩
  case rebuild =>
    obtain ⟨-, -, found, -, tally⟩ :=
      (refresh_counters_add_up responder ⟨exampleSession, []⟩ rebuiltEnd rebuildStats).1 rebuiltRan
    exact tally.total
  case sync =>
    obtain ⟨version, detects, tallies⟩ :=
      (refresh_counters_add_up responder ⟨exampleSession, []⟩ syncedEnd syncStats).2.1 syncedRan
    obtain rfl : "1.22" = version := Except.ok.inj
      ((by decide +kernel : detected exampleAnswer exampleToolchain = .ok "1.22").symm.trans
        detects)
    rw [if_neg (by decide +kernel)] at tallies
    obtain ⟨found, finds, tally, removed⟩ := tallies
    have upToDate : exampleFindings.map (fun found =>
        found.packages.countP (isUpToDate exampleIndex found.versions)) = .ok 1 := by
      decide +kernel
    rw [show exampleFindings = .ok found from finds] at upToDate
    refine ⟨tally.total.trans ?_, removed⟩
    exact congrArg _ (Except.ok.inj upToDate)
  case targets =>
    obtain ⟨version, known, -, tally, once⟩ :=
      (refresh_counters_add_up responder ⟨exampleSession, []⟩ targetedEnd targetStats).2.2
        exampleTargets targetedRan
    exact ⟨tally.total, once.trans (by decide)⟩

end

end Refresh

end SymbolCache
