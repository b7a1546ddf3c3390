import SymbolCache.Proofs.Store.Loading
import SymbolCache.Proofs.Workspace.Setup

/-!
# Starting

A new store is made ready from the snapshot on the disk, or by a rebuild if there is none that fits.
Starting again on the disk that a start has left, whether or not it could save what it built, serves
the same index as before.
-/

set_option autoImplicit false

namespace SymbolCache

open Job hiding run_bind
open Refresh (begun detected rebuilt)
open Operation

structure Store.IsNew (store : Store) : Prop where
  index : store.index = .empty
  generation : store.generation = 0
  toolchainVersion : store.toolchainVersion = none
  idle : store.refreshing = false

namespace Session

def restored? (session : Session) (version : String) : Option Index :=
  match session.readSnapshot version with
  | .error _ => none
  | .ok snapshot => snapshot.toIndex.toOption

private theorem loadWith_of_restored {session : Session} {version : String} {index : Index}
    (restored : session.restored? version = some index) :
    ∃ time, session.loadWith version = (true, session.serve index time) := by
  unfold restored? at restored
  unfold loadWith
  cases reads : session.readSnapshot version with
  | error failure => simp [reads] at restored
  | ok snapshot =>
      cases restores : snapshot.toIndex with
      | error failure => simp [reads, restores, Except.toOption] at restored
      | ok other =>
          simp only [reads, restores, Except.toOption, Option.some.injEq] at restored
          exact ⟨snapshot.timestamp, by simp [restores, restored]⟩

private theorem loadWith_of_not_restored {session : Session} {version : String}
    (restored : session.restored? version = none) :
    session.loadWith version = (false, session) := by
  unfold restored? at restored
  unfold loadWith
  cases reads : session.readSnapshot version with
  | error failure => rfl
  | ok snapshot =>
      cases restores : snapshot.toIndex with
      | error failure => simp [restores]
      | ok other => simp [reads, restores, Except.toOption] at restored

/-- What is restored depends on the disk and the place of the snapshot alone. -/
theorem restored?_congr {session later : Session} {version : String}
    (disk : later.disk = session.disk) (path : later.store.cachePath = session.store.cachePath) :
    later.restored? version = session.restored? version := by
  rw [restored?, restored?, readSnapshot, readSnapshot, disk, path]

end Session

variable (answer : Request → Answer)

/-! ## Parts of a start -/

private theorem Operation.evaluate_load {session : Session}
    (unknown : session.store.toolchainVersion = none) :
    load.evaluate answer session =
      match detected answer session.store.toolchain with
      | .ok version => (knowing version session).loadWith version
      | .error _ => (false, session) := by
  simp only [load, ensureToolchain, bind_eq, evaluate_bind, run_bind, run_lift,
    Refresh.evaluate_store, evaluate_done, andThen_ok, unknown, Refresh.evaluate_detectToolchain]
  cases detected answer session.store.toolchain with
  | error failure => rfl
  | ok version => exact evaluate_restore answer version (knowing version session)

theorem Job.evaluate_eq_run {σ α : Type} (job : Job σ α) (state : σ) :
    job.evaluate answer state =
      ((job.run (fun _ request => answer request) ⟨state, []⟩).1,
        (job.run (fun _ request => answer request) ⟨state, []⟩).2.state) :=
  (Prod.ext (run_fixed answer job ⟨state, []⟩).1 (run_fixed answer job ⟨state, []⟩).2).symm

private theorem Refresh.evaluate_guarded (refresh : Operation RefreshStats) {session : Session}
    (idle : session.store.refreshing = false) :
    (guarded refresh).run.evaluate answer session =
      match refresh.run.evaluate answer (begun session) with
      | (.ok stats, ended) =>
        (.ok { stats with duration := ended.now - session.now }, concluded .ready ended)
      | (.error failure, ended) =>
        (.error failure, concluded session.store.readiness ended) := by
  rw [evaluate_eq_run, evaluate_eq_run, run_guarded, if_neg (by simp [idle])]
  generalize refresh.run.run _ ⟨begun session, []⟩ = result
  obtain ⟨failure | stats, after⟩ := result
  · rfl
  · rfl

private theorem Refresh.evaluate_rebuildIndex (session : Session) :
    ∃ stats, rebuildIndex.run.evaluate answer session =
      match detected answer session.store.toolchain with
      | .error failure => (.error failure, session)
      | .ok version =>
        match Discovery.discovered answer session.store.toolchain session.store.config with
        | .error failure => (.error failure, knowing version session)
        | .ok discovery =>
          (.ok stats, ((knowing version session).mapStore fun store =>
            store.install (rebuilt answer store.toolchain (some version) discovery
              store.index)).save.2) := by
  unfold rebuildIndex
  simp only [run_bind, evaluate_bind, evaluate_detectToolchain]
  cases detected answer session.store.toolchain with
  | error failure => exact ⟨{}, rfl⟩
  | ok version =>
      simp only [andThen_ok, run_bind, evaluate_bind, evaluate_discoverPackages, knowing,
        Session.mapStore]
      cases Discovery.discovered answer session.store.toolchain session.store.config with
      | error failure => exact ⟨{}, rfl⟩
      | ok discovery =>
          simp only [andThen_ok, run_bind, run_lift, evaluate_bind, evaluate_done,
            evaluate_resolvePaths, evaluate_extractPackages, evaluate_store, run_pure]
          refine ⟨_, Prod.ext rfl ?_⟩
          rw [evaluate_installAndPersist, apply_fst]
          rfl

theorem Refresh.evaluate_rebuild {session : Session} (idle : session.store.refreshing = false) :
    ∃ stats, rebuild.run.evaluate answer session =
      match detected answer session.store.toolchain with
      | .error failure => (.error failure, concluded session.store.readiness (begun session))
      | .ok version =>
        match Discovery.discovered answer session.store.toolchain session.store.config with
        | .error failure =>
          (.error failure, concluded session.store.readiness (knowing version (begun session)))
        | .ok discovery =>
          (.ok stats, concluded .ready ((knowing version (begun session)).mapStore fun store =>
            store.install (rebuilt answer store.toolchain (some version) discovery
              store.index)).save.2) := by
  obtain ⟨stats, body⟩ := evaluate_rebuildIndex answer (begun session)
  have guards := evaluate_guarded answer rebuildIndex idle
  rw [body] at guards
  unfold rebuild
  rw [guards]
  simp only [begun, Session.mapStore]
  cases detected answer session.store.toolchain with
  | error failure => exact ⟨{}, rfl⟩
  | ok version =>
      dsimp only
      cases Discovery.discovered answer session.store.toolchain session.store.config with
      | error failure => exact ⟨{}, rfl⟩
      | ok discovery => exact ⟨_, rfl⟩

def Session.loading (session : Session) : Session :=
  session.mapStore fun store => { store with readiness := .loading }

section

variable (session : Session) (version : String)

@[simp] theorem Session.toolchain_loading :
    session.loading.store.toolchain = session.store.toolchain := rfl

@[simp] theorem Session.config_loading :
    session.loading.store.config = session.store.config := rfl

@[simp] theorem Operation.toolchain_knowing :
    (knowing version session).store.toolchain = session.store.toolchain := rfl

@[simp] theorem Operation.config_knowing :
    (knowing version session).store.config = session.store.config := rfl

end

/-- A start that could not load comes to what the rebuild after it comes to. -/
theorem Operation.evaluate_start (session : Session) :
    start.run.evaluate answer session =
      match load.evaluate answer session.loading with
      | (true, loaded) => (.ok .loaded, loaded)
      | (false, unloaded) =>
        match rebuild.run.evaluate answer unloaded with
        | (.ok stats, ended) => (.ok (.rebuilt stats), ended)
        | (.error failure, ended) =>
          (.error failure, if ended.store.index.isEmpty then
            ended.mapStore fun store => { store with readiness := .uninitialized } else ended) := by
  simp only [start, run_bind, run_lift, setReadiness, evaluate_bind,
    Refresh.evaluate_changeStore, evaluate_done, andThen_ok, run_ite, Session.loading]
  generalize load.evaluate answer _ = result
  obtain ⟨loaded, after⟩ := result
  cases loaded with
  | true => rfl
  | false =>
      simp only [Bool.false_eq_true, if_false, run_attempt, evaluate_bind, evaluate_done,
        andThen_ok]
      generalize rebuild.run.evaluate answer after = outcome
      obtain ⟨failure | stats, ended⟩ := outcome
      · simp only [run_bind, run_lift, evaluate_bind, Refresh.evaluate_store, evaluate_done,
          andThen_ok, run_ite]
        split <;> rfl
      · rfl

private theorem Operation.start_of_loaded {session loaded : Session}
    (loads : load.evaluate answer session.loading = (true, loaded)) :
    start.run.evaluate answer session = (.ok .loaded, loaded) := by
  rw [evaluate_start, loads]

section

variable {session unloaded ended : Session}
  (refuses : load.evaluate answer session.loading = (false, unloaded))

include refuses

private theorem Operation.start_of_rebuilt {stats : RefreshStats}
    (rebuilds : rebuild.run.evaluate answer unloaded = (.ok stats, ended)) :
    start.run.evaluate answer session = (.ok (.rebuilt stats), ended) := by
  rw [evaluate_start, refuses]
  dsimp only
  rw [rebuilds]

private theorem Operation.start_of_failed {failure : Failure}
    (fails : rebuild.run.evaluate answer unloaded = (.error failure, ended)) :
    (start.run.evaluate answer session).1 = .error failure ∧
      (start.run.evaluate answer session).2.disk = ended.disk := by
  rw [evaluate_start, refuses]
  dsimp only
  rw [fails]
  refine ⟨rfl, ?_⟩
  dsimp only
  split <;> rfl

end

/-! ## What is served -/

namespace Session

/-- What a new session serves once it is ready: the index of the snapshot on the disk if that fits,
or else the one that is built. -/
def served (session : Session) : Except Failure Index :=
  match detected answer session.store.toolchain with
  | .error failure => .error failure
  | .ok version =>
    match session.restored? version with
    | some index => .ok index
    | none =>
      (Discovery.discovered answer session.store.toolchain session.store.config).map
        fun discovery => rebuilt answer session.store.toolchain (some version) discovery .empty

/-- A session that has built an index for another one on its disk, as there was none to restore. -/
structure Built (session : Session) (version : String) (built : Session) : Prop where
  missing : session.restored? version = none
  version : built.store.toolchainVersion = some version
  cachePath : built.store.cachePath = session.store.cachePath
  disk : built.disk = session.disk
  troubles : built.troubles = session.troubles
  sound : built.Sound

/-- A session that is ready with an index, and whose disk is as it was or holds what could be saved
of the index that was built. -/
structure Ready (session : Session) (index : Index) (ended : Session) : Prop where
  serves : ended.store.index = index
  generation : ended.store.generation = session.store.generation + 1
  config : ended.store.config = session.store.config
  disk : ended.disk = session.disk ∨ ∃ version built, detected answer session.store.toolchain =
    .ok version ∧ session.Built version built ∧ built.store.index = index ∧
      ended.disk = built.save.2.disk

variable {session : Session}

theorem served_congr {later : Session} (store : later.store = session.store)
    (disk : later.disk = session.disk) : later.served answer = session.served answer := by
  have path : later.store.cachePath = session.store.cachePath := by rw [store]
  rw [served, served, store]
  simp only [restored?_congr disk path]

private theorem ready_of_built {version : String} {built : Session}
    (detects : detected answer session.store.toolchain = .ok version)
    (builds : session.Built version built)
    (generation : built.store.generation = session.store.generation + 1)
    (config : built.store.config = session.store.config) :
    session.Ready answer built.store.index (concluded .ready built.save.2) := by
  obtain ⟨lastSaved, saved⟩ := built.save_store
  refine ⟨?_, ?_, ?_, .inr ⟨version, built, detects, builds, rfl, rfl⟩⟩
  · change built.save.2.store.index = _
    rw [saved]
  · change built.save.2.store.generation = _
    rw [saved, ← generation]
  · change built.save.2.store.config = _
    rw [saved, ← config]

/-! ### The ways of a start -/

section

variable (new : session.store.IsNew)

include new

private theorem load_of_undetected {failure : Failure}
    (undetected : detected answer session.store.toolchain = .error failure) :
    load.evaluate answer session.loading = (false, session.loading) := by
  have unknown : session.loading.store.toolchainVersion = none := new.toolchainVersion
  rw [Operation.evaluate_load answer unknown, toolchain_loading, undetected]

private theorem start_of_undetected {failure : Failure}
    (undetected : detected answer session.store.toolchain = .error failure) :
    (start.run.evaluate answer session).1 = .error failure ∧
      (start.run.evaluate answer session).2.disk = session.disk := by
  have idle : session.loading.store.refreshing = false := new.idle
  obtain ⟨stats, rebuilds⟩ := Refresh.evaluate_rebuild answer idle
  rw [toolchain_loading, undetected] at rebuilds
  have fails := start_of_failed answer (load_of_undetected answer new undetected) rebuilds
  exact fails

variable {version : String} (detects : detected answer session.store.toolchain = .ok version)

include detects

private theorem load_of_detected :
    load.evaluate answer session.loading = (knowing version session.loading).loadWith version := by
  have unknown : session.loading.store.toolchainVersion = none := new.toolchainVersion
  rw [Operation.evaluate_load answer unknown, toolchain_loading, detects]

private theorem start_of_restored {index : Index}
    (restores : session.restored? version = some index) :
    (∃ outcome, (start.run.evaluate answer session).1 = .ok outcome) ∧
      session.Ready answer index (start.run.evaluate answer session).2 := by
  have restores' : (knowing version session.loading).restored? version = some index :=
    (restored?_congr rfl rfl).trans restores
  obtain ⟨time, serves⟩ := loadWith_of_restored restores'
  have loads := (load_of_detected answer new detects).trans serves
  rw [start_of_loaded answer loads]
  exact ⟨⟨.loaded, rfl⟩, rfl, rfl, rfl, .inl rfl⟩

variable (missing : session.restored? version = none)

include missing

private theorem load_of_missing :
    load.evaluate answer session.loading = (false, knowing version session.loading) := by
  have missing' : (knowing version session.loading).restored? version = none :=
    (restored?_congr rfl rfl).trans missing
  rw [load_of_detected answer new detects, loadWith_of_not_restored missing']

private theorem start_of_undiscovered {failure : Failure}
    (undiscovered : Discovery.discovered answer session.store.toolchain session.store.config =
      .error failure) :
    (start.run.evaluate answer session).1 = .error failure ∧
      (start.run.evaluate answer session).2.disk = session.disk := by
  have idle : (knowing version session.loading).store.refreshing = false := new.idle
  obtain ⟨stats, rebuilds⟩ := Refresh.evaluate_rebuild answer idle
  simp only [toolchain_knowing, toolchain_loading, config_knowing, config_loading, detects,
    undiscovered] at rebuilds
  have fails := start_of_failed answer (load_of_missing answer new detects missing) rebuilds
  exact fails

private theorem start_of_discovered {discovery : Discovery}
    (discovers : Discovery.discovered answer session.store.toolchain session.store.config =
      .ok discovery) :
    (∃ outcome, (start.run.evaluate answer session).1 = .ok outcome) ∧
      session.Ready answer
        (rebuilt answer session.store.toolchain (some version) discovery .empty)
        (start.run.evaluate answer session).2 := by
  have idle : (knowing version session.loading).store.refreshing = false := new.idle
  obtain ⟨stats, rebuilds⟩ := Refresh.evaluate_rebuild answer idle
  simp only [toolchain_knowing, toolchain_loading, config_knowing, config_loading, detects,
    discovers] at rebuilds
  rw [start_of_rebuilt answer (load_of_missing answer new detects missing) rebuilds]
  -- The session that the rebuild saves, before it does so.
  obtain ⟨built, installs⟩ : ∃ built, built =
    (knowing version (begun (knowing version session.loading))).mapStore fun store =>
      store.install (rebuilt answer store.toolchain (some version) discovery
        store.index) := ⟨_, rfl⟩
  have index : built.store.index =
      rebuilt answer session.store.toolchain (some version) discovery .empty := by
    rw [installs, ← new.index]
    rfl
  have sound : built.Sound := by
    rw [Session.Sound, index]
    exact Refresh.rebuilt_consistent answer _ _ _ _
  rw [← installs, ← index]
  refine ⟨⟨_, rfl⟩, ready_of_built answer detects ⟨missing, ?_, ?_, ?_, ?_, sound⟩ ?_ ?_⟩
  all_goals
    rw [installs]
    rfl

end

/-- A start succeeds exactly if there is something to serve, and then serves that. -/
theorem start_of_served (new : session.store.IsNew) :
    match session.served answer with
    | .error failure =>
      (start.run.evaluate answer session).1 = .error failure ∧
        (start.run.evaluate answer session).2.disk = session.disk
    | .ok index =>
      (∃ outcome, (start.run.evaluate answer session).1 = .ok outcome) ∧
        session.Ready answer index (start.run.evaluate answer session).2 := by
  rw [served]
  cases detects : detected answer session.store.toolchain with
  | error failure => exact start_of_undetected answer new detects
  | ok version =>
      dsimp only
      cases restores : session.restored? version with
      | some index => exact start_of_restored answer new detects restores
      | none =>
          cases discovers : Discovery.discovered answer session.store.toolchain
            session.store.config with
          | error failure => exact start_of_undiscovered answer new detects restores discovers
          | ok discovery => exact start_of_discovered answer new detects restores discovers

/-! ## Starting again -/

/-- A session of a workspace in a directory that is there, with the snapshot in a file of a name,
where nothing goes wrong with the file system but what follows from its state. -/
structure Housed (session : Session) (root file : String) : Prop where
  tree : session.disk.IsTree
  enters : session.disk.Enters root
  cachePath : session.store.cachePath = Path.join (Workspace.directory root) file
  plain : IsPlain file
  calm : session.troubles = []

private theorem restored?_of_save {saved later : Session} {version : String} (sound : session.Sound)
    (saves : session.save = (.ok (), saved))
    (known : session.store.toolchainVersion = some version) (disk : later.disk = saved.disk)
    (path : later.store.cachePath = session.store.cachePath) :
    later.restored? version = some session.store.index := by
  rw [restored?, readSnapshot_of_save saves known disk path]
  exact congrArg Except.toOption (Snapshot.toIndex_capture sound version session.now)

/-- A save in a directory that is made in one that is there changes nothing outside it, and in it
only the file of the snapshot and the temporary file. -/
theorem confined_save {base name file version : String}
    (lies : session.store.cachePath = Path.join (Path.join base name) file)
    (known : session.store.toolchainVersion = some version) (enters : session.disk.Enters base)
    (plain : IsPlain name) (other : IsPlain file) (calm : session.troubles = []) :
    session.disk.Confined (session.disk.place base ++ [name]) [file, file ++ ".tmp"]
      session.save.2.disk := by
  have outcome := session.saved_save known (.confined lies enters plain other _) (absurd calm) rfl
  cases saves : session.save.1 with
  | error failure =>
      rw [saves] at outcome
      obtain ⟨disk, _, _, confined, same⟩ := outcome
      rw [same]
      exact confined
  | ok done =>
      rw [saves] at outcome
      obtain ⟨_, ⟨disk, _, _, confined, rfl⟩, same⟩ := outcome
      rw [same]
      exact confined

/-- Nothing is restored from a disk on which no other snapshot is found than on one from which
nothing is. -/
theorem restored?_of_find {later : Session} {version : String}
    (missing : session.restored? version = none)
    (path : later.store.cachePath = session.store.cachePath)
    (found : ∀ bytes, later.disk.find session.store.cachePath = .ok (.file bytes) →
      session.disk.find session.store.cachePath = .ok (.file bytes)) :
    later.restored? version = none := by
  rw [restored?, readSnapshot, path]
  cases text : later.disk.readText session.store.cachePath with
  | error error => rfl
  | ok content =>
      obtain ⟨bytes, finds, decoded⟩ := Disk.readText_eq_ok_iff.mp text
      have same := Disk.readText_eq_ok_iff.mpr ⟨bytes, found bytes finds, decoded⟩
      rwa [restored?, readSnapshot, same] at missing

section

variable {root file : String} (housed : session.Housed root file) {index : Index}
  {ended : Session}

include housed

theorem Ready.confined (ready : session.Ready answer index ended) :
    session.disk.Confined (session.disk.place root ++ [Store.directoryName])
      [file, file ++ ".tmp"] ended.disk := by
  rcases ready.disk with same | ⟨version, built, _, builds, _, disk⟩
  · rw [same]
    exact .refl _ _ _
  · have enters : built.disk.Enters root := builds.disk ▸ housed.enters
    have confined := confined_save (builds.cachePath.trans housed.cachePath) builds.version enters
      Store.isPlain_directoryName housed.plain (builds.troubles.trans housed.calm)
    rwa [← disk, builds.disk] at confined

/-- A session like the one that got ready serves the same on the disk that this one has left. -/
theorem served_again (serves : session.served answer = .ok index)
    (ready : session.Ready answer index ended) {later : Session}
    (store : later.store = session.store) (disk : later.disk = ended.disk) :
    later.served answer = .ok index := by
  have path : later.store.cachePath = session.store.cachePath := by rw [store]
  rcases ready.disk with same | ⟨version, built, detects, builds, rfl, left⟩
  case inl =>
    rw [← serves]
    exact served_congr answer store (disk.trans same)
  case inr =>
    have path' := path.trans builds.cachePath.symm
    have outcome := save_cases builds.version
    cases saves : built.save.1 with
    | ok done =>
      have restores := restored?_of_save builds.sound (Prod.ext saves rfl) builds.version
        (disk.trans left) path'
      rw [served, store, detects]
      simp only [restores]
    | error failure =>
      -- The save has failed: there is still nothing to restore, and the same is built again.
      have missing : later.restored? version = none := by
        refine restored?_of_find builds.missing path fun bytes found => ?_
        rw [saves] at outcome
        obtain ⟨spared, _, _, spares, same⟩ := outcome
        rw [disk, left, same] at found
        rw [builds.cachePath, builds.disk, housed.cachePath] at spares
        rw [housed.cachePath] at found ⊢
        exact spares.find_file housed.tree housed.enters Store.isPlain_directoryName housed.plain
          found
      rw [← serves, served, served, store, detects]
      simp only [missing, builds.missing]

end

end Session

end SymbolCache
