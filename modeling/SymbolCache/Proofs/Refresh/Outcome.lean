import SymbolCache.Proofs.Refresh.Application
import SymbolCache.Proofs.Store.Saving

/-!
# What a refresh comes to

Under fixed answers the index after a rebuild or a sync is a function of the store: of its index, of
the version of the toolchain that it knows, and of the answers. A refresh that fails leaves the
index as it is.
-/

set_option autoImplicit false

namespace SymbolCache.Refresh

open Extraction (extractedAll)
open Index Operation
open Job hiding run_bind

variable (answer : Request → Answer)

def detected (toolchain : Toolchain) : Except Failure String :=
  toolchain.versionOfAnswer (answer toolchain.versionRequest)

def versionsOf (toolchain : Toolchain) (toolchainVersion : Option String)
    (packages : List Package) : Versions :=
  Resolution.resolved answer toolchain (toolchainVersion.map Resolution.standardVersion)
    (pathsOf packages)

def rebuilt (toolchain : Toolchain) (toolchainVersion : Option String) (discovery : Discovery)
    (previous : Index) : Index :=
  let versions := versionsOf answer toolchain toolchainVersion discovery.packages
  replaceAll versions
    (extractedAll answer toolchain (discovery.packages.filter (isResolved versions)))
    (if discovery.isComplete then .empty else carryOver previous (pathsOf discovery.packages))

theorem rebuilt_consistent (toolchain : Toolchain) (toolchainVersion : Option String)
    (discovery : Discovery) (previous : Index) :
    (rebuilt answer toolchain toolchainVersion discovery previous).Consistent := by
  unfold rebuilt
  apply replaceAll_consistent
  split
  · exact consistent_empty
  · exact carryOver_consistent _ _

def synced (toolchain : Toolchain) (toolchainVersion : Option String) (discovery : Discovery)
    (current : Index) : Index :=
  let versions := versionsOf answer toolchain toolchainVersion discovery.packages
  let removed :=
    if discovery.isComplete then vanished current (pathsOf discovery.packages) else []
  replaceAll versions
    (extractedAll answer toolchain (discovery.packages.filter (isChanged current versions)))
    (removed.foldl removePackage current)

def syncedOrRebuilt (store : Store) (version : String) (discovery : Discovery) : Index :=
  if store.toolchainVersion ≠ some version && !store.index.isEmpty then
    rebuilt answer store.toolchain (some version) discovery store.index
  else synced answer store.toolchain (some version) discovery store.index

/-- A refresh succeeds with an index, or fails and leaves the index as it is. -/
def Yields {α : Type} (result : Except Failure α × Session) (before : Index)
    (index? : Option Index) : Prop :=
  result.1.isOk = index?.isSome ∧ result.2.store.index = index?.getD before

/-! ## Parts of a refresh -/

theorem evaluate_store (session : Session) :
    store.evaluate answer session = (session.store, session) := rfl

theorem evaluate_changeStore (change : Store → Store) (session : Session) :
    (changeStore change).evaluate answer session = ((), session.mapStore change) := rfl

theorem evaluate_discoverPackages (session : Session) :
    discover.run.evaluate answer session =
      (Discovery.discovered answer session.store.toolchain session.store.config, session) := by
  simp only [discover, run_bind, run_lift, run_mk, evaluate_bind, evaluate_store, evaluate_done,
    andThen_ok, Discovery.evaluate_discover]

theorem evaluate_resolvePaths (packages : List Package) (session : Session) :
    (resolve (pathsOf packages)).evaluate answer session =
      (versionsOf answer session.store.toolchain session.store.toolchainVersion packages,
        session) := by
  simp [resolve, evaluate_store, Resolution.evaluate_resolve, versionsOf]

theorem evaluate_extractPackages (packages : List Package) (session : Session) :
    (extractAll packages).evaluate answer session =
      (extractedAll answer session.store.toolchain packages, session) := by
  simp [extractAll, evaluate_store, Extraction.evaluate_extractAll]

theorem evaluate_detectToolchain (session : Session) :
    detectToolchain.run.evaluate answer session =
      match detected answer session.store.toolchain with
      | .ok version =>
        (.ok version, session.mapStore fun store => { store with toolchainVersion := some version })
      | .error failure => (.error failure, session) := by
  simp only [detectToolchain, run_bind, run_lift, run_mk, evaluate_bind, evaluate_store,
    evaluate_done, andThen_ok, Toolchain.detectVersion, bind_eq, evaluate_ask, pure_eq]
  unfold detected
  cases session.store.toolchain.versionOfAnswer _ <;> rfl

private theorem evaluate_persist (session : Session) :
    persist.evaluate answer session = ((), session.save.2) := by
  simp only [persist, bind_eq, pure_eq, evaluate_bind, Session.evaluate_save, evaluate_done]

theorem evaluate_installAndPersist (index : Index) (session : Session) :
    (installAndPersist index).evaluate answer session =
      ((), (session.mapStore fun store => store.install index).save.2) := by
  simp only [installAndPersist, bind_eq, evaluate_bind, evaluate_changeStore, evaluate_persist]

theorem silent_installAndPersist (index : Index) : (installAndPersist index).Silent :=
  fun _ => silent_save.bind fun _ => trivial

theorem run_installAndPersist (responder : Responder) (index : Index) (now : Running Session) :
    (installAndPersist index).run responder now =
      ((), { now with state := (now.state.mapStore fun store => store.install index).save.2 }) := by
  rw [(silent_installAndPersist index).run_eq (fun _ => .error .toolchainUnknown),
    evaluate_installAndPersist]

private theorem index_installAndPersist (index : Index) (session : Session) :
    ((installAndPersist index).evaluate answer session).2.store.index = index := by
  obtain ⟨lastSaved, saved⟩ := (session.mapStore fun store => store.install index).save_store
  rw [evaluate_installAndPersist, saved]
  rfl

/-! ## Rebuilding and syncing -/

private theorem yields_rebuildIndex (session : Session) :
    Yields (rebuildIndex.run.evaluate answer session) session.store.index
      (match detected answer session.store.toolchain,
          Discovery.discovered answer session.store.toolchain session.store.config with
        | .ok version, .ok discovery =>
          some (rebuilt answer session.store.toolchain (some version) discovery
            session.store.index)
        | _, _ => none) := by
  unfold rebuildIndex
  simp only [run_bind, evaluate_bind, evaluate_detectToolchain]
  cases detected answer session.store.toolchain with
  | error failure => exact ⟨rfl, rfl⟩
  | ok version =>
      simp only [andThen_ok, run_bind, evaluate_bind, evaluate_discoverPackages,
        Session.mapStore]
      cases Discovery.discovered answer session.store.toolchain session.store.config with
      | error failure => exact ⟨rfl, rfl⟩
      | ok discovery =>
          simp only [andThen_ok, run_bind, run_lift, evaluate_bind, evaluate_done,
            evaluate_resolvePaths, evaluate_extractPackages, evaluate_store, run_pure]
          refine ⟨rfl, ?_⟩
          rw [index_installAndPersist, apply_fst]
          rfl

/-- Without anything to change, the index is that after no change. -/
theorem yields_syncIndex (session : Session) :
    Yields (syncIndex.run.evaluate answer session) session.store.index
      (match Discovery.discovered answer session.store.toolchain session.store.config with
        | .ok discovery =>
          some (synced answer session.store.toolchain session.store.toolchainVersion discovery
            session.store.index)
        | .error _ => none) := by
  unfold syncIndex
  simp only [run_bind, run_lift, evaluate_bind, evaluate_store, evaluate_done, andThen_ok,
    evaluate_discoverPackages]
  cases Discovery.discovered answer session.store.toolchain session.store.config with
  | error failure => exact ⟨rfl, rfl⟩
  | ok discovery =>
      simp only [andThen_ok, run_bind, run_lift, run_ite, evaluate_bind, evaluate_done,
        evaluate_resolvePaths, synced]
      generalize (if discovery.isComplete = true then
        vanished session.store.index (pathsOf discovery.packages) else []) = removed
      split
      case isTrue idle =>
        rw [Bool.and_eq_true, List.isEmpty_iff, List.isEmpty_iff] at idle
        rw [idle.1, idle.2, Extraction.extractedAll_nil]
        exact ⟨rfl, rfl⟩
      case isFalse =>
        simp only [andThen_ok, run_bind, run_lift, evaluate_bind, evaluate_done,
          evaluate_extractPackages, run_pure]
        refine ⟨rfl, ?_⟩
        rw [index_installAndPersist, apply_fst]
        rfl

private theorem yields_syncOrRebuild (session : Session) :
    Yields (syncOrRebuild.run.evaluate answer session) session.store.index
      (match detected answer session.store.toolchain,
          Discovery.discovered answer session.store.toolchain session.store.config with
        | .ok version, .ok discovery =>
          some (syncedOrRebuilt answer session.store version discovery)
        | _, _ => none) := by
  unfold syncOrRebuild
  simp only [run_bind, run_lift, evaluate_bind, evaluate_store, evaluate_done, andThen_ok,
    evaluate_detectToolchain]
  cases found : detected answer session.store.toolchain with
  | error failure => exact ⟨rfl, rfl⟩
  | ok version =>
      have rebuilds := yields_rebuildIndex answer
        (session.mapStore fun store => { store with toolchainVersion := some version })
      have syncs := yields_syncIndex answer
        (session.mapStore fun store => { store with toolchainVersion := some version })
      simp only [Session.mapStore, found] at rebuilds syncs
      simp only [andThen_ok, run_bind, run_lift, run_ite, evaluate_bind, evaluate_store,
        evaluate_done, Session.mapStore]
      generalize Discovery.discovered answer session.store.toolchain session.store.config =
        discovers at rebuilds syncs ⊢
      cases discovers with
      | error failure =>
          split
          · exact rebuilds
          · exact syncs
      | ok discovery =>
          dsimp only [syncedOrRebuilt] at rebuilds syncs ⊢
          split
          · exact rebuilds
          · exact syncs

/-! ## Refreshes as a whole -/

/-- The index after a refresh that changes the index as told once it knows the version of the
toolchain and the packages. Nothing if the refresh fails. -/
def refreshed (store : Store) (change : String → Discovery → Index) : Option Index :=
  if store.refreshing then none
  else
    match detected answer store.toolchain,
        Discovery.discovered answer store.toolchain store.config with
    | .ok version, .ok discovery => some (change version discovery)
    | _, _ => none

theorem refreshed_of_ok {store : Store} (idle : store.refreshing = false) {version : String}
    (detects : detected answer store.toolchain = .ok version) {discovery : Discovery}
    (discovers : Discovery.discovered answer store.toolchain store.config = .ok discovery)
    (change : String → Discovery → Index) :
    refreshed answer store change = some (change version discovery) := by
  simp [refreshed, idle, detects, discovers]

/-- Whether a refresh succeeds does not depend on how it changes the index. -/
theorem refreshed_cases (store : Store) :
    (∀ change, refreshed answer store change = none) ∨
      store.refreshing = false ∧ ∃ version discovery,
        detected answer store.toolchain = .ok version ∧
          Discovery.discovered answer store.toolchain store.config = .ok discovery := by
  cases idle : store.refreshing with
  | true => exact .inl fun change => by simp [refreshed, idle]
  | false =>
      cases detects : detected answer store.toolchain with
      | error failure => exact .inl fun change => by simp [refreshed, detects]
      | ok version =>
          cases discovers : Discovery.discovered answer store.toolchain store.config with
          | error failure => exact .inl fun change => by simp [refreshed, detects, discovers]
          | ok discovery => exact .inr ⟨rfl, version, discovery, rfl, rfl⟩

/-- What a refresh comes to by what its body comes to once it has started. -/
theorem yields_guarded {refresh : Operation RefreshStats} {session : Session}
    {change : String → Discovery → Index}
    (yields : Yields (refresh.run.evaluate answer (begun session)) session.store.index
      (match detected answer session.store.toolchain,
          Discovery.discovered answer session.store.toolchain session.store.config with
        | .ok version, .ok discovery => some (change version discovery)
        | _, _ => none)) :
    Yields ((guarded refresh).run.evaluate answer session) session.store.index
      (refreshed answer session.store change) := by
  obtain ⟨value, state⟩ := run_fixed answer (guarded refresh).run ⟨session, []⟩
  obtain ⟨inner, between⟩ := run_fixed answer refresh.run ⟨begun session, []⟩
  unfold Yields refreshed at *
  rw [run_guarded] at value state
  rw [← value, ← state]
  rw [← inner, ← between] at yields
  split
  case isTrue => exact ⟨rfl, rfl⟩
  case isFalse =>
    generalize refresh.run.run _ ⟨begun session, []⟩ = result at yields ⊢
    obtain ⟨failure | stats, after⟩ := result
    · exact yields
    · exact yields

theorem yields_rebuild (session : Session) :
    Yields (rebuild.run.evaluate answer session) session.store.index
      (refreshed answer session.store fun version discovery =>
        rebuilt answer session.store.toolchain (some version) discovery session.store.index) :=
  yields_guarded answer (yields_rebuildIndex answer (begun session))

theorem yields_sync (session : Session) :
    Yields (sync.run.evaluate answer session) session.store.index
      (refreshed answer session.store (syncedOrRebuilt answer session.store)) :=
  yields_guarded answer (yields_syncOrRebuild answer (begun session))

/-- A sync that finds out the version of the toolchain and the packages succeeds. -/
theorem run_sync_of_ok (now : Running Session) (idle : now.state.store.refreshing = false)
    {version : String} (detects : detected answer now.state.store.toolchain = .ok version)
    {discovery : Discovery}
    (discovers : Discovery.discovered answer now.state.store.toolchain now.state.store.config =
      .ok discovery) :
    (sync.run.run (fun _ request => answer request) now).1.isOk = true ∧
      (sync.run.run (fun _ request => answer request) now).2.state.store.index =
        syncedOrRebuilt answer now.state.store version discovery := by
  have yields := yields_sync answer now.state
  rw [refreshed_of_ok answer idle detects discovers] at yields
  obtain ⟨value, state⟩ := run_fixed answer sync.run now
  rw [value, state]
  exact yields

end SymbolCache.Refresh
