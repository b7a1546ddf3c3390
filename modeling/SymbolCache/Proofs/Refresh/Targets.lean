import SymbolCache.Proofs.Refresh.Effects

/-!
# Targeted refreshes

A targeted refresh describes the packages at some paths, resolves their versions and extracts them.
Each of the three may fail for a package; what is found out for the others goes to them by their
paths, and whatever is not found out leaves a package as it was.
-/

set_option autoImplicit false

namespace SymbolCache

open Job hiding run_bind

/-! ## Descriptions -/

namespace Package

/-- What the package at a path is taken for when some packages are listed: for the first of them
that has the path, or else for what the path suggests. -/
inductive TakenFor (listed : List Package) (path : String) : Package → Prop where
  | description {before after : List Package} {package : Package}
      (parts : listed = before ++ package :: after)
      (first : ∀ other ∈ before, other.importPath ≠ path) (own : package.importPath = path) :
      TakenFor listed path package
  | suggestion (unlisted : ∀ package ∈ listed, package.importPath ≠ path) :
      TakenFor listed path (.ofImportPath path)

private theorem takenFor_describedAs (listed : List Package) (path : String) :
    TakenFor listed path (describedAs listed path) := by
  unfold describedAs
  cases found : listed.find? fun package => package.importPath == path with
  | none => exact .suggestion (by simpa using found)
  | some package =>
      obtain ⟨own, before, after, parts, first⟩ := List.find?_eq_some_iff_append.mp found
      exact .description parts (by simpa using first) (eq_of_beq own)

def descriptions (toolchain : Toolchain) (paths : List String) : List Request :=
  if paths.isEmpty then [] else [descriptionRequest toolchain paths]

private theorem run_describe {σ : Type} (responder : Responder) (toolchain : Toolchain)
    (paths : List String) (now : Running σ) :
    let asked := answerAll responder now.calls (descriptions toolchain paths)
    (describe toolchain paths).run responder now =
      (paths.map (describedAs (Discovery.listedPackages asked.1)),
        { now with calls := asked.2 }) := by
  unfold describe descriptions
  cases paths with
  | nil => rfl
  | cons path paths =>
      simp only [List.isEmpty_cons, Bool.false_eq_true, if_false, answerAll,
        Discovery.listedPackages, List.flatMap_cons, List.flatMap_nil, List.append_nil]
      rfl

end Package

namespace Refresh

open Extraction (documentationRequest gather symbolsOfText)
open Index Operation

/-! ## Targets -/

abbrev targets (importPaths : List String) : List String :=
  (Std.ExtTreeSet.ofList importPaths compare).toList

theorem mem_ofList {importPaths : List String} {path : String} :
    path ∈ Std.ExtTreeSet.ofList importPaths compare ↔ path ∈ importPaths := by
  rw [← Std.ExtTreeSet.contains_iff_mem, Std.ExtTreeSet.contains_ofList, List.contains_iff_mem]

theorem mem_targets {importPaths : List String} {path : String} :
    path ∈ targets importPaths ↔ path ∈ importPaths := by
  rw [targets, Std.ExtTreeSet.mem_toList, mem_ofList]

theorem nodup_targets (importPaths : List String) : (targets importPaths).Nodup :=
  Std.ExtTreeSet.distinct_toList.imp fun different same =>
    different (Std.compare_eq_iff_eq.mpr same)

/-- Neither the order of the paths matters nor how often each is given. -/
theorem ofList_congr {first second : List String} (same : ∀ path, path ∈ first ↔ path ∈ second) :
    Std.ExtTreeSet.ofList first compare = Std.ExtTreeSet.ofList second compare := by
  apply Std.ExtTreeSet.ext_mem
  intro path
  rw [mem_ofList, mem_ofList, same]

def targetFindings (responder : Responder) (session : Session) (version : String)
    (importPaths : List String) (calls : List Request) : Findings :=
  let asked := answerAll responder calls
    (Package.descriptions session.store.toolchain (targets importPaths))
  let packages := (targets importPaths).map
    (Package.describedAs (Discovery.listedPackages asked.1))
  let resolved := resolvedAfter responder session version packages asked.2
  { listed := asked.1
    discovery := { packages, failedListings := 0 }
    versions := resolved.1
    calls := resolved.2 }

section

variable {responder : Responder} {now ended : Running Session} {version : String}
  {importPaths : List String} {stats : RefreshStats}

private theorem pathsOf_described (listed : List Package) (importPaths : List String) :
    pathsOf ((targets importPaths).map (Package.describedAs listed)) =
      Std.ExtTreeSet.ofList importPaths compare := by
  apply Std.ExtTreeSet.ext_mem
  intro path
  rw [mem_pathsOf, mem_ofList, ← mem_targets]
  simp [Package.importPath_describedAs]

/-- What is found out does not depend on what a session serves. -/
theorem targetFindings_congr {session other : Session}
    (toolchain : other.store.toolchain = session.store.toolchain) (calls : List Request) :
    targetFindings responder other version importPaths calls =
      targetFindings responder session version importPaths calls := by
  simp only [targetFindings, resolvedAfter_congr toolchain, toolchain]

theorem targetFindings_begun (session : Session) (calls : List Request) :
    targetFindings responder (begun session) version importPaths calls =
      targetFindings responder session version importPaths calls :=
  targetFindings_congr (by rfl) calls

private theorem run_describePackages (paths : List String) (now : Running Session) :
    let asked := answerAll responder now.calls
      (Package.descriptions now.state.store.toolchain paths)
    (describe paths).run responder now =
      (paths.map (Package.describedAs (Discovery.listedPackages asked.1)),
        { now with calls := asked.2 }) := by
  rw [describe, bind_eq, Job.run_bind]
  exact Package.run_describe responder _ paths now

/-- The versions are resolved for the packages as they are described, whatever is listed. -/
theorem run_resolveTargets (listed : List Package) (calls : List Request) {session : Session}
    (known : session.store.toolchainVersion = some version) :
    let resolved := resolvedAfter responder session version
      ((targets importPaths).map (Package.describedAs listed)) calls
    (resolve (Std.ExtTreeSet.ofList importPaths compare)).run responder ⟨session, calls⟩ =
      (resolved.1, ⟨session, resolved.2⟩) := by
  intro resolved
  rw [← pathsOf_described listed importPaths, run_resolvePackages _ _ known]

/-- How a version of the toolchain comes to be known: it is known before, or it is asked for. -/
inductive Knows (responder : Responder) (now : Running Session) (version : String) :
    Running Session → Prop where
  | before (known : now.state.store.toolchainVersion = some version) :
      Knows responder now version now
  | asking (unknown : now.state.store.toolchainVersion = none)
      (detects : now.state.store.toolchain.versionOfAnswer
        (responder now.calls now.state.store.toolchain.versionRequest) = .ok version) :
      Knows responder now version
        ⟨knowing version now.state, now.state.store.toolchain.versionRequest :: now.calls⟩

/-- Beyond the version itself nothing in a store changes then. -/
theorem Knows.store_eq {after : Running Session} (knows : Knows responder now version after) :
    after.state.store = { now.state.store with toolchainVersion := some version } := by
  cases knows with
  | before known => rw [← known]
  | asking => rfl

private theorem ok_of_ensureToolchain {α : Type} {next : String → Operation α} {value : α}
    (succeeds : (ensureToolchain >>= next).run.run responder now = (.ok value, ended)) :
    ∃ version after, Knows responder now version after ∧
      (next version).run.run responder after = (.ok value, ended) := by
  obtain ⟨version, after, ensures, rest⟩ := ok_of_bind succeeds
  refine ⟨version, after, ?_, rest⟩
  rw [ensureToolchain, run_lift_bind] at ensures
  simp only [store, Job.run] at ensures
  cases known : now.state.store.toolchainVersion with
  | some recorded =>
      rw [known] at ensures
      cases ensures
      exact .before known
  | none =>
      simp only [known, run_detectToolchain] at ensures
      cases detects : now.state.store.toolchain.versionOfAnswer
          (responder now.calls now.state.store.toolchain.versionRequest) with
      | error failure => simp [detects] at ensures
      | ok detected =>
          simp only [detects, Prod.mk.injEq, Except.ok.injEq] at ensures
          obtain ⟨rfl, rfl⟩ := ensures
          exact .asking known detects

/-- A targeted refresh that succeeds has replaced those of its packages that are resolved. -/
theorem ok_of_refreshIndex
    (succeeds : (refreshIndex importPaths).run.run responder now = (.ok stats, ended)) :
    let toolchain := now.state.store.toolchain
    let before := now.state.store.index
    ∃ version known, Knows responder now version known ∧
      let found := targetFindings responder now.state version importPaths known.calls
      let chosen := isResolved found.versions
      ended.state.store.index = found.replaced responder toolchain chosen before ∧
        ended.calls = found.callsAfter responder toolchain chosen ∧
        ended.state.store.generation = now.state.store.generation + 1 ∧
        stats = found.counters responder toolchain chosen before 0 := by
  intro toolchain before
  rw [refreshIndex] at succeeds
  obtain ⟨version, known, knows, rest⟩ := ok_of_ensureToolchain succeeds
  refine ⟨version, known, knows, ?_⟩
  intro found chosen
  have store := knows.store_eq
  have same : known.state.store.toolchain = now.state.store.toolchain := by rw [store]
  have recorded : known.state.store.toolchainVersion = some version := by rw [store]
  have resolves : (resolve (Std.ExtTreeSet.ofList importPaths compare)).run responder
      ⟨known.state, (answerAll responder known.calls
        (Package.descriptions toolchain (targets importPaths))).2⟩ =
      (found.versions, ⟨known.state, found.calls⟩) := by
    rw [run_resolveTargets _ _ recorded, resolvedAfter_congr same]
    rfl
  rw [run_lift_bind, run_describePackages, run_lift_bind] at rest
  dsimp only at rest
  rw [same, resolves, run_lift_bind, run_extractPackages, run_lift_bind, run_lift_bind] at rest
  obtain ⟨state, lastSaved, ran, saved⟩ := exists_installAndPersist responder _ _
  rw [ran] at rest
  cases rest
  rw [saved]
  simp only [Operation.store, Job.run, store]
  refine ⟨apply_fst _ _ _ _, rfl, rfl, ?_⟩
  rw [Findings.counters, show pathsOf found.packages = _ from pathsOf_described _ importPaths]
  rfl

private theorem ok_of_refreshPackages (known : now.state.store.toolchainVersion = some version)
    (succeeds : (refreshPackages importPaths).run.run responder now = (.ok stats, ended)) :
    let toolchain := now.state.store.toolchain
    let found := targetFindings responder now.state version importPaths now.calls
    ended.state.store.index = found.replaced responder toolchain (isResolved found.versions)
        now.state.store.index ∧
      ended.calls = found.callsAfter responder toolchain (isResolved found.versions) ∧
      ended.state.store.generation = now.state.store.generation + 1 := by
  intro toolchain found
  obtain ⟨-, counted, after, ran, -, rfl⟩ := ok_of_guarded succeeds
  obtain ⟨used, start, knows, index, calls, generation, -⟩ := ok_of_refreshIndex ran
  cases knows with
  | asking unknown => cases known.symm.trans unknown
  | before recorded =>
      obtain rfl : version = used := Option.some.inj (known.symm.trans recorded)
      simp only [targetFindings_begun] at index calls
      exact ⟨index, calls, generation⟩

private theorem refreshPackages_congr {others : List String}
    (same : ∀ path, path ∈ others ↔ path ∈ importPaths) :
    refreshPackages others = refreshPackages importPaths := by
  rw [refreshPackages, refreshPackages, refreshIndex, refreshIndex, ofList_congr same]

/-! ## What a targeted refresh does -/

theorem map_importPath_described (listed : List Package) (importPaths : List String) :
    ((targets importPaths).map (Package.describedAs listed)).map Package.importPath =
      targets importPaths := by
  rw [List.map_map]
  exact List.map_id'' (Package.importPath_describedAs listed) _

/-- The effect of a targeted refresh, package by package. One that is not among the paths keeps its
version and its symbols. One that is has, if its version is resolved and its documentation found,
that version and exactly the symbols of its documentation, under the name that it is described with
or that its path suggests; if not, it stays as it is as well. The generation goes up by one, and the
run is the same for all lists of these paths. -/
theorem refreshPackages_effect (responder : Responder) (now : Running Session)
    (sound : now.state.Sound) (known : now.state.store.toolchainVersion = some version)
    (succeeds : (refreshPackages importPaths).run.run responder now = (.ok stats, ended)) :
    let before := now.state.store.index
    let after := ended.state.store.index
    let found := targetFindings responder now.state version importPaths now.calls
    let listed := Discovery.listedPackages found.listed
    (∀ path ∉ importPaths, after.SameAt before path) ∧
      (∀ path ∈ importPaths,
        let package := Package.describedAs listed path
        let answered := lastAnswer? responder
          (documentationRequest now.state.store.toolchain package) ended.calls
        Package.TakenFor listed path package ∧
        (∀ packageVersion text, found.versions[path]? = some packageVersion →
          answered = some (.ok text) →
            after.Holds path packageVersion (symbolsOfText package text)) ∧
        ((∀ packageVersion text, found.versions[path]? = some packageVersion →
          answered ≠ some (.ok text)) → after.SameAt before path)) ∧
      ended.state.store.generation = now.state.store.generation + 1 ∧
      ∀ others, (∀ path, path ∈ others ↔ path ∈ importPaths) →
        (refreshPackages others).run.run responder now = (.ok stats, ended) := by
  intro before after found listed
  obtain ⟨index, calls, generation⟩ := ok_of_refreshPackages known succeeds
  have distinct : (found.packages.map Package.importPath).Nodup := by
    rw [show found.packages.map Package.importPath = targets importPaths from
      map_importPath_described _ _]
    exact nodup_targets importPaths
  rw [show after = _ from index, calls]
  refine ⟨fun path untargeted => ?_, fun path targeted => ?_, generation, ?_⟩
  · refine Findings.sameAt_replaced distinct sound fun package member own => ?_
    obtain ⟨target, among, rfl⟩ := List.mem_map.mp member
    rw [Package.importPath_describedAs] at own
    exact absurd (mem_targets.mp among) (own ▸ untargeted)
  · intro package answered
    have own : package.importPath = path := Package.importPath_describedAs listed path
    have member : package ∈ found.packages := List.mem_map_of_mem (mem_targets.mpr targeted)
    refine ⟨Package.takenFor_describedAs listed path, fun packageVersion text resolved documented =>
      ?_, fun untold => ?_⟩
    · rw [← own] at resolved ⊢
      exact Findings.holds_replaced distinct sound member (isResolved_of_resolved resolved) resolved
        documented
    · refine Findings.sameAt_replaced distinct sound fun other member sameOwn chosen text => ?_
      obtain ⟨target, -, rfl⟩ := List.mem_map.mp member
      obtain rfl : target = path := (Package.importPath_describedAs _ target).symm.trans sameOwn
      obtain ⟨packageVersion, resolved⟩ := resolved_of_isResolved chosen
      rw [sameOwn] at resolved
      exact untold packageVersion text resolved
  · intro others same
    rw [refreshPackages_congr same, succeeds]

end

/-! ### Three paths -/

def exampleTargets : List String :=
  ["work/w", "other.org/z", "work/w"]

/-- The package of the workspace is extracted again; the path without answers, and the packages that
are not among the paths, stay as they are. -/
theorem refreshPackages_effect_example :
    let responder : Responder := fun _ request => exampleAnswer request
    let refreshed := (refreshPackages exampleTargets).run.run responder ⟨exampleSession, []⟩
    let after := refreshed.2.state.store.index
    after.Holds "work/w" "workspace"
        (symbolsOfText { importPath := "work/w", name := "w", standard := false }
          "func Work()\n") ∧
      after.SameAt exampleIndex "other.org/z" ∧ after.SameAt exampleIndex "lib.org/c" ∧
      (refreshPackages ["other.org/z", "work/w"]).run.run responder ⟨exampleSession, []⟩ =
        refreshed := by
  intro responder
  have succeeds : ((refreshPackages exampleTargets).run.run responder
      ⟨exampleSession, []⟩).1.isOk = true := by decide +kernel
  have described : Package.describedAs (Discovery.listedPackages
      (targetFindings responder exampleSession "1.22" exampleTargets []).listed) "work/w" =
        { importPath := "work/w", name := "w", standard := false } := by decide +kernel
  have resolved : (targetFindings responder exampleSession "1.22" exampleTargets
      []).versions["work/w"]? = some "workspace" := by decide +kernel
  have unresolved : (targetFindings responder exampleSession "1.22" exampleTargets
      []).versions["other.org/z"]? = none := by decide +kernel
  have documented : lastAnswer? responder (documentationRequest exampleToolchain
      { importPath := "work/w", name := "w", standard := false })
        ((refreshPackages exampleTargets).run.run responder ⟨exampleSession, []⟩).2.calls =
          some (.ok "func Work()\n") := by
    decide +kernel
  generalize ran : (refreshPackages exampleTargets).run.run responder ⟨exampleSession, []⟩ =
    refreshed at succeeds documented ⊢
  obtain ⟨_ | stats, ended⟩ := refreshed
  case error => cases succeeds
  obtain ⟨others, effect, -, again⟩ := refreshPackages_effect responder ⟨exampleSession, []⟩
    reachable_exampleIndex.consistent rfl ran
  obtain ⟨-, holds, -⟩ := effect "work/w" (by decide)
  obtain ⟨-, -, stays⟩ := effect "other.org/z" (by decide)
  rw [described] at holds
  refine ⟨holds "workspace" _ resolved documented, stays ?_, others "lib.org/c" (by decide),
    again _ ?_⟩
  · exact fun packageVersion text told => absurd (unresolved.symm.trans told) (by simp)
  · simp [exampleTargets, or_comm]

end Refresh

end SymbolCache
