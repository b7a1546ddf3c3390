import SymbolCache.Proofs.Index.Search
import SymbolCache.Proofs.Refresh.SyncAgreement

/-!
# Merging versions before a sync

The recorded version of a package is what a sync compares with. Versions that are merged without
extracting their packages make a sync take old symbols for current ones, and symbols without a
version for those of a package that is gone. Nothing else differs from a sync alone.
-/

set_option autoImplicit false

namespace SymbolCache.Refresh

open Index Operation
open Job hiding run_bind

/-- Merging versions does no harm to a path: where it changes the recorded version, either the
symbols are those that extraction gives, or the package is not discovered and has no symbols that it
did not have a version for. -/
def Harmless (answer : Request → Answer) (toolchain : Toolchain) (packages : List Package)
    (merged : Versions) (index : Index) (path : String) : Prop :=
  ∀ version, merged[path]? = some version → index.version? path ≠ some version →
    (∀ package ∈ packages, package.importPath = path → version ≠ Module.workspaceVersion →
      ∀ name, index.records path name = fresh answer toolchain package name) ∧
    ((∀ package ∈ packages, package.importPath ≠ path) → index.version? path = none →
      ∀ name, index.records path name = [])

section

variable {answer : Request → Answer} {toolchain : Toolchain} {packages : List Package}
  {index : Index} {merged : Versions}

private theorem harmless_of_known {path : String} (known : ∀ version, merged[path]? = some version →
    index.version? path = some version) : Harmless answer toolchain packages merged index path :=
  fun version mergedVersion old => absurd (known version mergedVersion) old

/-- Merging a version of a package that is discovered does harm where it hides that the package is
to be extracted. -/
theorem harmless_iff_of_discovered (distinct : (packages.map Package.importPath).Nodup)
    {package : Package} (member : package ∈ packages) :
    Harmless answer toolchain packages merged index package.importPath ↔
      ∀ version, merged[package.importPath]? = some version →
        index.version? package.importPath ≠ some version → version ≠ Module.workspaceVersion →
          ∀ name, index.records package.importPath name = fresh answer toolchain package name := by
  constructor
  · exact fun harmless version mergedVersion old =>
      (harmless version mergedVersion old).1 package member rfl
  · intro current version mergedVersion old
    refine ⟨fun other otherMember samePath module => ?_,
      fun absent => absurd rfl (absent package member)⟩
    obtain rfl : other = package := List.inj_on_of_nodup_map distinct otherMember member samePath
    exact current version mergedVersion old module

/-- Merging a version of a package that is not discovered does harm where it makes the package one
that is gone. -/
theorem harmless_iff_of_unlisted {path : String}
    (absent : ∀ package ∈ packages, package.importPath ≠ path) :
    Harmless answer toolchain packages merged index path ↔
      ∀ version, merged[path]? = some version → index.version? path = none →
        ∀ name, index.records path name = [] := by
  constructor
  · exact fun harmless version mergedVersion unknown =>
      (harmless version mergedVersion (unknown ▸ nofun)).2 absent unknown
  · exact fun empty version mergedVersion _ =>
      ⟨fun package member samePath => absurd samePath (absent package member),
        fun _ unknown => empty version mergedVersion unknown⟩

end

section

variable (answer : Request → Answer) (toolchain : Toolchain) (toolchainVersion : Option String)
  {discovery : Discovery} {index : Index} {merged : Versions}

/-- A sync treats a discovered package alike in two indexes that have the same for it. -/
theorem synced_congr {left right : Index} (leftConsistent : left.Consistent)
    (rightConsistent : right.Consistent) (complete : discovery.isComplete = true)
    (distinct : (discovery.packages.map Package.importPath).Nodup)
    (documented : Documented answer toolchain discovery.packages) {package : Package}
    (member : package ∈ discovery.packages) (same : left.SameAt right package.importPath) :
    (synced answer toolchain toolchainVersion discovery left).SameAt
      (synced answer toolchain toolchainVersion discovery right) package.importPath := by
  by_cases changed : ∃ resolved, (versionsOf answer toolchain toolchainVersion
      discovery.packages)[package.importPath]? = some resolved ∧
        (resolved = Module.workspaceVersion ∨ left.version? package.importPath ≠ some resolved)
  case pos =>
    obtain ⟨resolved, known, changed⟩ := changed
    have leftChanges := synced_changed answer toolchain toolchainVersion complete leftConsistent
      distinct documented member known changed
    have rightChanges := synced_changed answer toolchain toolchainVersion complete rightConsistent
      distinct documented member known (same.version ▸ changed)
    exact leftChanges.sameAt rightChanges
  case neg =>
    have unchanged : ∀ resolved, (versionsOf answer toolchain toolchainVersion
        discovery.packages)[package.importPath]? = some resolved →
          resolved ≠ Module.workspaceVersion ∧
            left.version? package.importPath = some resolved := by
      intro resolved known
      have kept : ¬ (resolved = Module.workspaceVersion ∨
          left.version? package.importPath ≠ some resolved) :=
        fun other => changed ⟨resolved, known, other⟩
      rwa [not_or, not_not] at kept
    have leftStays := synced_unchanged answer toolchain toolchainVersion complete leftConsistent
      member unchanged
    have rightStays := synced_unchanged answer toolchain toolchainVersion complete rightConsistent
      member (same.version ▸ unchanged)
    exact leftStays.trans (same.trans rightStays.symm)

/-- What merging versions does to a sync at a path: the version that the sync records stays the
same, and the symbols do exactly if the merge is harmless. -/
structure MergedAt (discovery : Discovery) (merged : Versions) (index : Index) (path : String) :
    Prop where
  version : (synced answer toolchain toolchainVersion discovery
      (index.mergeVersions merged)).version? path =
    (synced answer toolchain toolchainVersion discovery index).version? path
  records : (∀ name, (synced answer toolchain toolchainVersion discovery
      (index.mergeVersions merged)).records path name =
        (synced answer toolchain toolchainVersion discovery index).records path name) ↔
    Harmless answer toolchain discovery.packages merged index path

variable {answer toolchain toolchainVersion}

theorem MergedAt.of_sameAt {path : String}
    (same : (synced answer toolchain toolchainVersion discovery (index.mergeVersions merged)).SameAt
      (synced answer toolchain toolchainVersion discovery index) path)
    (harmless : Harmless answer toolchain discovery.packages merged index path) :
    MergedAt answer toolchain toolchainVersion discovery merged index path where
  version := same.version
  records := iff_of_true same.records harmless

/-- Where the merge does not change the recorded version, it changes nothing. -/
theorem sameAt_mergeVersions {path : String} (known : ∀ version, merged[path]? = some version →
    index.version? path = some version) : (index.mergeVersions merged).SameAt index path where
  version := by
    rw [version?_mergeVersions]
    cases mergedVersion : merged[path]? with
    | none => rw [Option.none_or]
    | some version => rw [Option.some_or, known version mergedVersion]
  records name := records_mergeVersions index merged path name

variable (answer toolchain toolchainVersion)

section

variable (consistent : index.Consistent) (complete : discovery.isComplete = true)

include consistent complete

section

variable (distinct : (discovery.packages.map Package.importPath).Nodup)
  (documented : Documented answer toolchain discovery.packages) {package : Package}
  (member : package ∈ discovery.packages)

include distinct documented member

/-- A package that is discovered, and whose recorded version becomes another one. -/
theorem mergedAt_of_renewed {version : String}
    (mergedVersion : merged[package.importPath]? = some version)
    (old : index.version? package.importPath ≠ some version)
    (resolved : (versionsOf answer toolchain toolchainVersion
      discovery.packages)[package.importPath]? = some version) :
    MergedAt answer toolchain toolchainVersion discovery merged index package.importPath := by
  have later := consistent.mergeVersions merged
  have recorded : (index.mergeVersions merged).version? package.importPath = some version := by
    rw [version?_mergeVersions, mergedVersion, Option.some_or]
  have alone := synced_changed answer toolchain toolchainVersion complete consistent distinct
    documented member resolved (.inr old)
  by_cases module : version = Module.workspaceVersion
  case pos =>
    -- A package of the workspace is extracted whatever version is recorded for it.
    have after := synced_changed answer toolchain toolchainVersion complete later distinct
      documented member resolved (.inl module)
    refine .of_sameAt (after.sameAt alone) ((harmless_iff_of_discovered distinct member).mpr ?_)
    intro other otherVersion _ foreign
    obtain rfl : version = other := Option.some.inj (mergedVersion.symm.trans otherVersion)
    exact absurd module foreign
  case neg =>
    -- After the merge the package looks as if it had been extracted.
    have after := synced_unchanged answer toolchain toolchainVersion complete later member (by
      intro other found
      obtain rfl : version = other := Option.some.inj (resolved.symm.trans found)
      exact ⟨module, recorded⟩)
    refine ⟨after.version.trans (recorded.trans alone.version.symm), ?_⟩
    rw [harmless_iff_of_discovered distinct member]
    simp only [after.records, alone.records, records_mergeVersions]
    constructor
    · exact fun same _ _ _ _ => same
    · exact fun current => current version mergedVersion old module

private theorem mergedAt_of_discovered
    (agrees : ∀ version, merged[package.importPath]? = some version →
      (versionsOf answer toolchain toolchainVersion
        discovery.packages)[package.importPath]? = some version) :
    MergedAt answer toolchain toolchainVersion discovery merged index package.importPath := by
  by_cases known : ∀ version, merged[package.importPath]? = some version →
      index.version? package.importPath = some version
  case pos =>
    have same := synced_congr answer toolchain toolchainVersion (consistent.mergeVersions merged)
      consistent complete distinct documented member (sameAt_mergeVersions known)
    exact .of_sameAt same (harmless_of_known known)
  case neg =>
    obtain ⟨version, mergedVersion, old⟩ : ∃ version, merged[package.importPath]? = some version ∧
        index.version? package.importPath ≠ some version := by
      simpa only [not_forall, exists_prop] using known
    exact mergedAt_of_renewed answer toolchain toolchainVersion consistent complete distinct
      documented member mergedVersion old (agrees version mergedVersion)

end

section

variable {path : String} (absent : ∀ package ∈ discovery.packages, package.importPath ≠ path)

include absent

/-- A package that is gone with a version or another. -/
theorem mergedAt_of_vanished {version : String} (known : index.version? path = some version) :
    MergedAt answer toolchain toolchainVersion discovery merged index path := by
  obtain ⟨other, recorded⟩ : ∃ other,
      (index.mergeVersions merged).version? path = some other := by
    rw [version?_mergeVersions, known]
    cases merged[path]? with
    | none => exact ⟨version, rfl⟩
    | some other => exact ⟨other, rfl⟩
  have alone := synced_vanished answer toolchain toolchainVersion complete consistent absent known
  have after := synced_vanished answer toolchain toolchainVersion complete
    (consistent.mergeVersions merged) absent recorded
  refine .of_sameAt (after.sameAt alone) ((harmless_iff_of_unlisted absent).mpr ?_)
  exact fun _ _ unknown => nomatch known.symm.trans unknown

private theorem mergedAt_of_unknown (unknown : index.version? path = none) :
    MergedAt answer toolchain toolchainVersion discovery merged index path := by
  have later := consistent.mergeVersions merged
  have recorded : (index.mergeVersions merged).version? path = merged[path]? := by
    rw [version?_mergeVersions, unknown, Option.or_none]
  have alone := synced_unknown answer toolchain toolchainVersion complete consistent absent unknown
  cases mergedVersion : merged[path]? with
  | none =>
      have unchanged : ∀ version, merged[path]? = some version →
          index.version? path = some version :=
        fun version found => nomatch mergedVersion.symm.trans found
      have after := synced_unknown answer toolchain toolchainVersion complete later absent
        (recorded.trans mergedVersion)
      exact .of_sameAt (after.trans ((sameAt_mergeVersions unchanged).trans alone.symm))
        (harmless_of_known unchanged)
  | some version =>
      -- The merged version makes the package one that is gone, with the symbols that it had.
      have after := synced_vanished answer toolchain toolchainVersion complete later absent
        (recorded.trans mergedVersion)
      refine ⟨after.version.trans (alone.version.trans unknown).symm, ?_⟩
      rw [harmless_iff_of_unlisted absent]
      simp only [after.records, alone.records]
      constructor
      · exact fun same _ _ _ name => (same name).symm
      · exact fun empty name => (empty version mergedVersion unknown name).symm

private theorem mergedAt_of_unlisted :
    MergedAt answer toolchain toolchainVersion discovery merged index path := by
  cases known : index.version? path with
  | some version =>
      exact mergedAt_of_vanished answer toolchain toolchainVersion consistent complete absent known
  | none =>
      exact mergedAt_of_unknown answer toolchain toolchainVersion consistent complete absent known

end

end

/-- After merging versions, a sync records the same versions as a sync alone, and the same symbols
of a package exactly where the merge is harmless. -/
theorem synced_mergeVersions (consistent : index.Consistent)
    (complete : discovery.isComplete = true)
    (distinct : (discovery.packages.map Package.importPath).Nodup)
    (documented : Documented answer toolchain discovery.packages)
    (agrees : ∀ package ∈ discovery.packages, ∀ version,
      merged[package.importPath]? = some version → (versionsOf answer toolchain toolchainVersion
        discovery.packages)[package.importPath]? = some version)
    (path : String) :
    MergedAt answer toolchain toolchainVersion discovery merged index path := by
  by_cases found : ∃ package ∈ discovery.packages, package.importPath = path
  case pos =>
    obtain ⟨package, member, rfl⟩ := found
    exact mergedAt_of_discovered answer toolchain toolchainVersion consistent complete distinct
      documented member (agrees package member)
  case neg =>
    exact mergedAt_of_unlisted answer toolchain toolchainVersion consistent complete
      fun package member same => found ⟨package, member, same⟩

/-- Merging versions does no harm to a sync that rebuilds the index, or makes it anew. -/
theorem agrees_rebuilt_of_stale (store : Store) {version : String}
    (consistent : store.index.Consistent) (stale : store.toolchainVersion ≠ some version)
    (complete : discovery.isComplete = true)
    (distinct : (discovery.packages.map Package.importPath).Nodup)
    (documented : Documented answer store.toolchain discovery.packages) :
    (syncedOrRebuilt answer store version discovery).Agrees
      (rebuilt answer store.toolchain (some version) discovery store.index) := by
  unfold syncedOrRebuilt
  cases empty : store.index.isEmpty with
  | false =>
      rw [if_pos (by simp [stale])]
      exact .refl _
  | true =>
      rw [if_neg (by simp)]
      obtain ⟨noSymbols, noPackages⟩ := Bool.and_eq_true_iff.mp empty
      have unknown : ∀ path, store.index.version? path = none := by
        intro path
        rw [version?, Std.ExtTreeMap.isEmpty_iff.mp noPackages]
        simp
      have recorded : Recorded store.index := by
        intro name symbol member
        simp [listed, Std.ExtTreeMap.isEmpty_iff.mp noSymbols] at member
      refine synced_agrees_rebuilt consistent recorded complete distinct
        (fun package _ _ => unknown _) documented ?_
      intro package _ version _ _ known
      cases (unknown _).symm.trans known

private theorem rebuilt_congr (complete : discovery.isComplete = true) (left right : Index) :
    rebuilt answer toolchain toolchainVersion discovery left =
      rebuilt answer toolchain toolchainVersion discovery right := by
  simp only [rebuilt, complete, if_true]

end

/-! ## Updating versions and syncing -/

variable (answer : Request → Answer)

def mergedVersions (store : Store) (paths : Std.ExtTreeSet String) : Versions :=
  Resolution.resolved answer store.toolchain
    (store.toolchainVersion.map Resolution.standardVersion) paths

private theorem evaluate_updateVersions {session : Session}
    (idle : session.store.refreshing = false)
    (paths : Std.ExtTreeSet String) :
    (updateVersions paths).run.evaluate answer session =
      (.ok (mergedVersions answer session.store paths), session.mapStore fun store =>
        store.install (store.index.mergeVersions (mergedVersions answer session.store paths))) := by
  unfold updateVersions
  simp only [beginRefresh, run_bind, run_mk, run_lift, run_pure, evaluate_bind, evaluate_update,
    idle, Bool.false_eq_true, if_false, andThen_ok, evaluate_done, Operation.resolve, bind_eq,
    evaluate_store, Resolution.evaluate_resolve, evaluate_changeStore, endRefresh]
  simp only [Session.mapStore, Store.install, mergedVersions, ← idle]

private theorem mergedVersions_agrees {store : Store} {version : String}
    (same : store.toolchainVersion = some version) (paths : Std.ExtTreeSet String)
    {packages : List Package} {package : Package} (member : package ∈ packages)
    {resolved : String}
    (merged : (mergedVersions answer store paths)[package.importPath]? = some resolved) :
    (versionsOf answer store.toolchain (some version) packages)[package.importPath]? =
      some resolved := by
  rw [mergedVersions, Resolution.getElem?_resolved, same] at merged
  split at merged
  case isTrue =>
    rw [versionsOf, Resolution.getElem?_resolved,
      if_pos (mem_pathsOf.mpr ⟨package, member, rfl⟩)]
    exact merged
  case isFalse => cases merged

def updated (store : Store) (paths : Std.ExtTreeSet String) : Store :=
  store.install (store.index.mergeVersions (mergedVersions answer store paths))

section

variable {store : Store} {version : String} {discovery : Discovery}

/-- A sync by the toolchain that has built the index. -/
theorem syncedOrRebuilt_of_same (same : store.toolchainVersion = some version) :
    syncedOrRebuilt answer store version discovery =
      synced answer store.toolchain (some version) discovery store.index := by
  rw [syncedOrRebuilt, if_neg (by simp [same])]

/-- What a sync comes to after an update of versions, and without one. -/
theorem syncedOrRebuilt_updated (consistent : store.index.Consistent)
    (complete : discovery.isComplete = true)
    (distinct : (discovery.packages.map Package.importPath).Nodup)
    (documented : Documented answer store.toolchain discovery.packages)
    (paths : Std.ExtTreeSet String) :
    (syncedOrRebuilt answer (updated answer store paths) version discovery).packages =
        (syncedOrRebuilt answer store version discovery).packages ∧
      ((∀ caseSensitive text,
          (syncedOrRebuilt answer (updated answer store paths) version discovery).find
              caseSensitive text =
            (syncedOrRebuilt answer store version discovery).find caseSensitive text) ↔
        (store.toolchainVersion = some version → ∀ path,
          Harmless answer store.toolchain discovery.packages (mergedVersions answer store paths)
            store.index path)) := by
  have later := consistent.mergeVersions (mergedVersions answer store paths)
  by_cases same : store.toolchainVersion = some version
  case neg =>
    have alone := agrees_rebuilt_of_stale answer store consistent same complete distinct documented
    have after := agrees_rebuilt_of_stale answer (updated answer store paths) later same complete
      distinct documented
    rw [rebuilt_congr _ _ _ complete _ store.index] at after
    have agrees := after.trans alone.symm
    exact ⟨agrees.packages, iff_of_true agrees.find fun known => absurd known same⟩
  case pos =>
    have sameUpdated : (updated answer store paths).toolchainVersion = some version := same
    rw [syncedOrRebuilt_of_same answer same, syncedOrRebuilt_of_same answer sameUpdated]
    have each := synced_mergeVersions answer store.toolchain (some version) consistent complete
      distinct documented fun package member _ merged =>
        mergedVersions_agrees answer same paths member merged
    refine ⟨Std.ExtTreeMap.ext_getElem? fun path => (each path).version, ?_⟩
    constructor
    · intro found _ path
      have records := sameRecords_of_find (synced_consistent later).toFiled
        (synced_consistent consistent).toFiled (found false "")
      exact (each path).records.mp (records path)
    · intro harmless
      have records : SameRecords
          (synced answer store.toolchain (some version) discovery
            (store.index.mergeVersions (mergedVersions answer store paths)))
          (synced answer store.toolchain (some version) discovery store.index) :=
        fun path => (each path).records.mpr (harmless same path)
      exact records.find (synced_consistent later) (synced_consistent consistent)

end

private theorem run_sync_updated_of_ok (now : Running Session)
    (idle : now.state.store.refreshing = false) {version : String}
    (detects : detected answer now.state.store.toolchain = .ok version) {discovery : Discovery}
    (discovers : Discovery.discovered answer now.state.store.toolchain now.state.store.config =
      .ok discovery) (paths : Std.ExtTreeSet String) :
    let updating := (updateVersions paths).run.run (fun _ request => answer request) now
    let after := sync.run.run (fun _ request => answer request) updating.2
    after.1.isOk = true ∧ after.2.state.store.index =
      syncedOrRebuilt answer (updated answer now.state.store paths) version discovery := by
  intro updating after
  have state : updating.2.state =
      now.state.mapStore fun store => updated answer store paths := by
    rw [(run_fixed answer (updateVersions paths).run now).2,
      evaluate_updateVersions answer idle]
    rfl
  obtain ⟨syncs, index⟩ : after.1.isOk = true ∧ after.2.state.store.index =
      syncedOrRebuilt answer updating.2.state.store version discovery :=
    run_sync_of_ok answer updating.2 (by rw [state]; exact idle) (by rw [state]; exact detects)
      (by rw [state]; exact discovers)
  rw [state] at index
  exact ⟨syncs, index⟩

/-- A sync that succeeds does so after an update of versions too, and with the same versions. -/
theorem run_sync_updated (now : Running Session) (idle : now.state.store.refreshing = false)
    {version : String} (detects : detected answer now.state.store.toolchain = .ok version)
    {discovery : Discovery}
    (discovers : Discovery.discovered answer now.state.store.toolchain now.state.store.config =
      .ok discovery)
    (consistent : now.state.store.index.Consistent)
    (listed : Listed answer now.state.store.toolchain now.state.store.config)
    (documented : Documented answer now.state.store.toolchain discovery.packages)
    (paths : Std.ExtTreeSet String) :
    let responder : Responder := fun _ request => answer request
    let alone := sync.run.run responder now
    let after := sync.run.run responder ((updateVersions paths).run.run responder now).2
    after.1.isOk = true ∧
      after.2.state.store.index.packages = alone.2.state.store.index.packages ∧
      ((∀ caseSensitive text, after.2.state.store.index.find caseSensitive text =
          alone.2.state.store.index.find caseSensitive text) ↔
        (now.state.store.toolchainVersion = some version → ∀ path,
          Harmless answer now.state.store.toolchain discovery.packages
            (mergedVersions answer now.state.store paths) now.state.store.index path)) := by
  intro responder alone after
  obtain ⟨_, aloneIndex⟩ := run_sync_of_ok answer now idle detects discovers
  obtain ⟨afterOk, afterIndex⟩ := run_sync_updated_of_ok answer now idle detects discovers paths
  refine ⟨afterOk, ?_⟩
  rw [aloneIndex, afterIndex]
  exact syncedOrRebuilt_updated answer consistent (isComplete_of_listed listed discovers)
    (nodup_of_discovered discovers) documented paths

/-- An update of versions before a sync that would succeed leaves it the same versions. Queries find
the same exactly if the update is harmless for every path, or the index is rebuilt anyway because
another version of the toolchain is found. -/
theorem sync_after_updateVersions (session : Session) (calls : List Request)
    (paths : Std.ExtTreeSet String) (reachable : session.store.index.Reachable)
    (listed : Listed answer session.store.toolchain session.store.config)
    (documented : ∀ discovery, Discovery.discovered answer session.store.toolchain
      session.store.config = .ok discovery →
        Documented answer session.store.toolchain discovery.packages)
    (succeeds : (sync.run.run (fun _ request => answer request) ⟨session, calls⟩).1.isOk = true) :
    let responder : Responder := fun _ request => answer request
    let alone := sync.run.run responder ⟨session, calls⟩
    let after :=
      sync.run.run responder ((updateVersions paths).run.run responder ⟨session, calls⟩).2
    after.1.isOk = true ∧
      after.2.state.store.index.packages = alone.2.state.store.index.packages ∧
      ((∀ caseSensitive text, after.2.state.store.index.find caseSensitive text =
          alone.2.state.store.index.find caseSensitive text) ↔
        ∀ version discovery, detected answer session.store.toolchain = .ok version →
          Discovery.discovered answer session.store.toolchain session.store.config =
              .ok discovery →
            session.store.toolchainVersion = some version → ∀ path,
              Harmless answer session.store.toolchain discovery.packages
                (mergedVersions answer session.store paths) session.store.index path) := by
  intro responder alone after
  obtain fails | ⟨idle, version, discovery, detects, discovers⟩ :=
    refreshed_cases answer session.store
  case inl =>
    have yields := yields_sync answer session
    rw [(run_fixed answer sync.run ⟨session, calls⟩).1, yields.1, fails] at succeeds
    cases succeeds
  case inr =>
    obtain ⟨afterOk, packages, finds⟩ := run_sync_updated answer ⟨session, calls⟩ idle
      detects discovers reachable.consistent listed (documented discovery discovers) paths
    refine ⟨afterOk, packages, finds.trans ?_⟩
    constructor
    · intro harmless other otherDiscovery otherDetects otherDiscovers
      obtain rfl : version = other := Except.ok.inj (detects.symm.trans otherDetects)
      obtain rfl : discovery = otherDiscovery :=
        Except.ok.inj (discovers.symm.trans otherDiscovers)
      exact harmless
    · exact fun harmless => harmless version discovery detects discovers

/-! ## A dependency with a new version -/

def outdatedSession : Session :=
  exampleSession.mapStore fun store =>
    store.install (empty.replacePackage "lib.org/c" "v0.9.0" [exampleSymbol "lib.org/c"])

private theorem reachable_outdatedSession : outdatedSession.store.index.Reachable :=
  Reachable.empty.replacePackage _ _ _

theorem sync_after_updateVersions_example :
    let responder : Responder := fun _ request => exampleAnswer request
    let alone := sync.run.run responder ⟨outdatedSession, []⟩
    let after := sync.run.run responder
      ((updateVersions {"work/w"}).run.run responder ⟨outdatedSession, []⟩).2
    after.1.isOk = true ∧
      after.2.state.store.index.packages = alone.2.state.store.index.packages := by
  have succeeds := (run_sync_of_ok exampleAnswer ⟨outdatedSession, []⟩ rfl
    detected_example discovered_example).1
  obtain ⟨ok, packages, _⟩ := sync_after_updateVersions exampleAnswer outdatedSession []
    {"work/w"} reachable_outdatedSession informed_example.listed informed_example.documented
    succeeds
  exact ⟨ok, packages⟩

private theorem not_harmless_outdatedSession :
    ¬ Harmless exampleAnswer exampleToolchain examplePackages
      (mergedVersions exampleAnswer outdatedSession.store {"lib.org/c"})
      outdatedSession.store.index "lib.org/c" := by
  intro harmless
  have old : outdatedSession.store.index.records "lib.org/c" "Open" = [] := by
    simp [outdatedSession, Session.mapStore, Store.install,
      consistent_empty.records_replacePackage, isRecord, exampleSymbol]
  have current : fresh exampleAnswer exampleToolchain
      { importPath := "lib.org/c", name := "c", standard := false } "Open" ≠ [] := by
    decide +kernel
  have known : outdatedSession.store.index.version? "lib.org/c" ≠ some "v1.0.0" := by
    simp [outdatedSession, Session.mapStore, Store.install, version?]
  have kept := (harmless "v1.0.0" (by decide +kernel) known).1
    { importPath := "lib.org/c", name := "c", standard := false } (by decide +kernel) rfl
    (by decide +kernel) "Open"
  exact current (kept.symm.trans old)

/-- Once the new version of the dependency is merged, a sync keeps its old symbols. -/
theorem updateVersions_hides_symbols :
    let responder : Responder := fun _ request => exampleAnswer request
    let alone := sync.run.run responder ⟨outdatedSession, []⟩
    let after := sync.run.run responder
      ((updateVersions {"lib.org/c"}).run.run responder ⟨outdatedSession, []⟩).2
    ¬ ∀ caseSensitive text, after.2.state.store.index.find caseSensitive text =
      alone.2.state.store.index.find caseSensitive text :=
  fun same => not_harmless_outdatedSession ((run_sync_updated exampleAnswer
    ⟨outdatedSession, []⟩ rfl detected_example discovered_example
    reachable_outdatedSession.consistent informed_example.listed
    (informed_example.documented _ discovered_example) {"lib.org/c"}).2.2.mp same rfl "lib.org/c")

end SymbolCache.Refresh
