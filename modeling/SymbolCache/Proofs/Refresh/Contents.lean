import SymbolCache.Proofs.Refresh.Outcome

/-!
# What is in the index after a refresh

When every listing succeeds and every package has documentation, the version and the symbols of each
package after a rebuild or a sync can be told from the answers and from what the index had for that
package alone.
-/

set_option autoImplicit false

namespace SymbolCache.Refresh

open Extraction (extractedAll symbolsOf documentationRequest)
open Index

variable {answer : Request → Answer} {toolchain : Toolchain} {toolchainVersion : Option String}
  {discovery : Discovery}

def fresh (answer : Request → Answer) (toolchain : Toolchain) (package : Package)
    (name : String) : List Symbol :=
  (symbolsOf answer toolchain package).filter fun symbol => symbol.name == name

def Documented (answer : Request → Answer) (toolchain : Toolchain) (packages : List Package) :
    Prop :=
  ∀ package ∈ packages, ∃ text, answer (documentationRequest toolchain package) = .ok text

def Listed (answer : Request → Answer) (toolchain : Toolchain) (config : Config) : Prop :=
  ∀ request ∈ Discovery.listings toolchain config, ∃ output, answer request = .ok output

theorem filter_isRecord_symbolsOf (package : Package) (name : String) :
    (symbolsOf answer toolchain package).filter (isRecord package.importPath name) =
      fresh answer toolchain package name := by
  refine List.filter_congr fun symbol member => ?_
  obtain ⟨owned, exported⟩ := Extraction.owned_of_mem_symbolsOfAnswer member
  simp [isRecord, owned, exported]

theorem mem_pathsOf {packages : List Package} {path : String} :
    path ∈ pathsOf packages ↔ ∃ package ∈ packages, package.importPath = path := by
  rw [pathsOf, ← Std.ExtTreeSet.contains_iff_mem, Std.ExtTreeSet.contains_ofList]
  simp

private theorem not_mem_pathsOf {packages : List Package} {path : String}
    (absent : ∀ package ∈ packages, package.importPath ≠ path) : path ∉ pathsOf packages := by
  rw [mem_pathsOf]
  rintro ⟨package, member, same⟩
  exact absent package member same

/-! ## What is discovered -/

private theorem exists_of_discovered {config : Config}
    (discovered : Discovery.discovered answer toolchain config = .ok discovery) :
    ∃ exclude, config.excludeMatcher = .ok exclude ∧
      Discovery.ofAnswers exclude ((Discovery.listings toolchain config).map answer) =
        discovery := by
  unfold Discovery.discovered at discovered
  cases matcher : config.excludeMatcher with
  | error failure => simp [matcher, Except.map] at discovered
  | ok exclude => exact ⟨exclude, rfl, by simpa [matcher, Except.map] using discovered⟩

theorem nodup_of_discovered {config : Config}
    (discovered : Discovery.discovered answer toolchain config = .ok discovery) :
    (discovery.packages.map Package.importPath).Nodup := by
  obtain ⟨exclude, -, rfl⟩ := exists_of_discovered discovered
  exact Discovery.nodup_importPath_ofAnswers _ _

theorem isComplete_of_listed {config : Config} (listed : Listed answer toolchain config)
    (discovered : Discovery.discovered answer toolchain config = .ok discovery) :
    discovery.isComplete = true := by
  obtain ⟨exclude, -, rfl⟩ := exists_of_discovered discovered
  simp only [Discovery.isComplete, Discovery.ofAnswers, Discovery.failures, beq_iff_eq,
    List.countP_eq_zero, List.mem_map]
  rintro _ ⟨request, member, rfl⟩
  obtain ⟨output, succeeded⟩ := listed request member
  simp [succeeded]

variable (answer toolchain toolchainVersion)

theorem version_of_unlisted {path : String}
    (absent : ∀ package ∈ discovery.packages, package.importPath ≠ path) :
    (versionsOf answer toolchain toolchainVersion discovery.packages)[path]? = none := by
  rw [versionsOf, Resolution.getElem?_resolved, if_neg (not_mem_pathsOf absent)]

/-! ## Extracting a part of the packages -/

section

variable (versions : Versions) {index : Index} (chosen : Package → Bool)

theorem holds_replaceAll_chosen (consistent : index.Consistent)
    (distinct : (discovery.packages.map Package.importPath).Nodup) {package : Package}
    (member : package ∈ discovery.packages) (taken : chosen package = true) {text : String}
    (documented : answer (documentationRequest toolchain package) = .ok text) {version : String}
    (resolved : versions[package.importPath]? = some version) :
    (replaceAll versions (extractedAll answer toolchain (discovery.packages.filter chosen))
      index).Holds package.importPath version (symbolsOf answer toolchain package) := by
  have extracted : (package, symbolsOf answer toolchain package) ∈
      extractedAll answer toolchain (discovery.packages.filter chosen) :=
    (Extraction.mem_extractedAll answer).mpr ⟨package, List.mem_filter.mpr ⟨member, taken⟩, rfl⟩
  exact holds_replaceAll versions consistent (owned_extractedAll answer toolchain _)
    (Extraction.nodup_importPath_extractedAll answer
      (Package.nodup_importPath_filter distinct chosen))
    extracted (fun symbol inside => (Extraction.owned_of_mem_symbolsOfAnswer inside).2) resolved
    (Extraction.symbolsOf_ne_nil answer documented)

/-- A package that is not chosen, or has no documentation, stays as it is. -/
theorem sameAt_replaceAll_spared (consistent : index.Consistent) {path : String}
    (spared : ∀ package ∈ discovery.packages, package.importPath = path →
      chosen package = true → ∀ text, answer (documentationRequest toolchain package) ≠ .ok text) :
    (replaceAll versions (extractedAll answer toolchain (discovery.packages.filter chosen))
      index).SameAt index path := by
  refine sameAt_replaceAll versions consistent (owned_extractedAll answer toolchain _) ?_
  intro entry member filled same
  obtain ⟨package, kept, rfl⟩ := (Extraction.mem_extractedAll answer).mp member
  obtain ⟨found, taken⟩ := List.mem_filter.mp kept
  obtain ⟨text, documented⟩ := Extraction.documented_of_symbolsOf_ne_nil answer filled
  exact spared package found same taken text documented

theorem sameAt_replaceAll_not_chosen (consistent : index.Consistent) {path : String}
    (left : ∀ package ∈ discovery.packages, package.importPath = path → chosen package = false) :
    (replaceAll versions (extractedAll answer toolchain (discovery.packages.filter chosen))
      index).SameAt index path :=
  sameAt_replaceAll_spared answer toolchain versions chosen consistent
    fun package member same taken => absurd taken (by simp [left package member same])

end

/-! ## After a rebuild -/

section

variable (complete : discovery.isComplete = true)

include complete

theorem rebuilt_resolved (distinct : (discovery.packages.map Package.importPath).Nodup)
    (documented : Documented answer toolchain discovery.packages) (previous : Index)
    {package : Package} (member : package ∈ discovery.packages) {version : String}
    (resolved : (versionsOf answer toolchain toolchainVersion
      discovery.packages)[package.importPath]? = some version) :
    (rebuilt answer toolchain toolchainVersion discovery previous).Holds package.importPath version
      (symbolsOf answer toolchain package) := by
  obtain ⟨text, found⟩ := documented package member
  simp only [rebuilt, complete, if_true]
  exact holds_replaceAll_chosen answer toolchain _ _ consistent_empty distinct member
    (isResolved_of_resolved resolved) found resolved

theorem rebuilt_unresolved (previous : Index) {path : String}
    (unresolved : (versionsOf answer toolchain toolchainVersion
      discovery.packages)[path]? = none) :
    (rebuilt answer toolchain toolchainVersion discovery previous).Lacks path := by
  simp only [rebuilt, complete, if_true]
  have left : ∀ package ∈ discovery.packages, package.importPath = path →
      isResolved (versionsOf answer toolchain toolchainVersion discovery.packages) package =
        false := by
    intro package _ same
    rw [isResolved, ← Std.ExtTreeMap.isSome_getElem?_eq_contains, same, unresolved,
      Option.isSome_none]
  have kept := sameAt_replaceAll_not_chosen answer toolchain
    (versionsOf answer toolchain toolchainVersion discovery.packages) _ consistent_empty left
  exact kept.lacks (lacks_empty path)

/-! ## After a sync -/

variable {current : Index}

/-- The index that a sync changes, without the packages that are gone. -/
theorem synced_eq : synced answer toolchain toolchainVersion discovery current =
    replaceAll (versionsOf answer toolchain toolchainVersion discovery.packages)
      (extractedAll answer toolchain (discovery.packages.filter (isChanged current
        (versionsOf answer toolchain toolchainVersion discovery.packages))))
      ((vanished current (pathsOf discovery.packages)).foldl removePackage current) := by
  simp only [synced, complete, if_true]

theorem synced_changed (consistent : current.Consistent)
    (distinct : (discovery.packages.map Package.importPath).Nodup)
    (documented : Documented answer toolchain discovery.packages)
    {package : Package} (member : package ∈ discovery.packages) {version : String}
    (resolved : (versionsOf answer toolchain toolchainVersion
      discovery.packages)[package.importPath]? = some version)
    (changed : version = Module.workspaceVersion ∨
      current.version? package.importPath ≠ some version) :
    (synced answer toolchain toolchainVersion discovery current).Holds package.importPath version
      (symbolsOf answer toolchain package) := by
  obtain ⟨text, found⟩ := documented package member
  rw [synced_eq answer toolchain toolchainVersion complete]
  refine holds_replaceAll_chosen answer toolchain _ _
    (foldl_removePackage_consistent consistent _) distinct member ?_ found resolved
  simpa [isChanged, resolved] using changed

theorem synced_unchanged (consistent : current.Consistent)
    {package : Package} (member : package ∈ discovery.packages)
    (unchanged : ∀ version, (versionsOf answer toolchain toolchainVersion
      discovery.packages)[package.importPath]? = some version →
        version ≠ Module.workspaceVersion ∧
          current.version? package.importPath = some version) :
    (synced answer toolchain toolchainVersion discovery current).SameAt current
      package.importPath := by
  rw [synced_eq answer toolchain toolchainVersion complete]
  have listed : package.importPath ∈ pathsOf discovery.packages :=
    mem_pathsOf.mpr ⟨package, member, rfl⟩
  have kept : package.importPath ∉ vanished current (pathsOf discovery.packages) :=
    fun gone => (mem_vanished.mp gone).2 listed
  have left : ∀ other ∈ discovery.packages, other.importPath = package.importPath →
      isChanged current (versionsOf answer toolchain toolchainVersion discovery.packages) other =
        false := by
    intro other _ same
    unfold isChanged
    rw [same]
    cases found : (versionsOf answer toolchain toolchainVersion
        discovery.packages)[package.importPath]? with
    | none => rfl
    | some version =>
        obtain ⟨module, known⟩ := unchanged version found
        simp [module, known]
  exact (sameAt_replaceAll_not_chosen answer toolchain
    (versionsOf answer toolchain toolchainVersion discovery.packages) _
    (foldl_removePackage_consistent consistent _) left).trans
      (sameAt_foldl_removePackage consistent kept)

section

variable (consistent : current.Consistent) {path : String}
  (absent : ∀ package ∈ discovery.packages, package.importPath ≠ path)

include consistent absent

private theorem synced_unlisted :
    (synced answer toolchain toolchainVersion discovery current).SameAt
      ((vanished current (pathsOf discovery.packages)).foldl removePackage current) path := by
  rw [synced_eq answer toolchain toolchainVersion complete]
  exact sameAt_replaceAll_not_chosen answer toolchain
    (versionsOf answer toolchain toolchainVersion discovery.packages)
    (isChanged current (versionsOf answer toolchain toolchainVersion discovery.packages))
    (foldl_removePackage_consistent consistent (vanished current (pathsOf discovery.packages)))
    (fun package member same => absurd same (absent package member))

/-- A package with a version that is not discovered is gone. -/
theorem synced_vanished {version : String} (known : current.version? path = some version) :
    (synced answer toolchain toolchainVersion discovery current).Lacks path := by
  have gone := mem_vanished.mpr ⟨⟨version, known⟩, not_mem_pathsOf absent⟩
  exact (synced_unlisted answer toolchain toolchainVersion complete consistent absent).lacks
    (lacks_foldl_removePackage consistent gone)

/-- Symbols of a package without a version stay, although it is not discovered. -/
theorem synced_unknown (unknown : current.version? path = none) :
    (synced answer toolchain toolchainVersion discovery current).SameAt current path := by
  have kept : path ∉ vanished current (pathsOf discovery.packages) := by
    intro gone
    obtain ⟨⟨version, known⟩, _⟩ := mem_vanished.mp gone
    cases unknown.symm.trans known
  exact (synced_unlisted answer toolchain toolchainVersion complete consistent absent).trans
    (sameAt_foldl_removePackage consistent kept)

end

end

end SymbolCache.Refresh
