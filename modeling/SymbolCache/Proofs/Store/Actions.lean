import SymbolCache.Proofs.Job.Interleaving
import SymbolCache.Proofs.Refresh.Outcome
import SymbolCache.Proofs.Snapshot.Restoration

/-!
# What a store may be asked

Whatever a store is asked, in any order and with any calls of one action between those of another,
its index stays consistent, and is only ever changed by serving another one.
-/

set_option autoImplicit false

namespace SymbolCache

open Job hiding run_bind
open Index (Consistent)

inductive Action where
  | start
  | load
  | rebuild
  | sync
  | refreshPackages (importPaths : List String)
  | updateVersions (importPaths : Std.ExtTreeSet String)
  | addSymbol (symbol : Symbol)
  | save
  | shutdown
  /-- Time passes, and other programs change the disk. -/
  | elapse (disk : Disk) (now : Nat)

def Job.finish {σ α : Type} (job : Job σ α) : Job σ Unit := do
  let _ ← job

def Action.job : Action → Job Session Unit
  | .start => Operation.start.run.finish
  | .load => Operation.load.finish
  | .rebuild => Operation.rebuild.run.finish
  | .sync => Operation.sync.run.finish
  | .refreshPackages importPaths => (Operation.refreshPackages importPaths).run.finish
  | .updateVersions importPaths => (Operation.updateVersions importPaths).run.finish
  | .addSymbol symbol => Operation.changeStore fun store => store.addSymbol symbol
  | .save => Operation.save.run.finish
  | .shutdown => Operation.shutdown.run.finish
  | .elapse disk now => .modify fun session => { session with disk, now }

/-! ## Asking the toolchain -/

section

variable {grain : Grain} {σ : Type} {invariant : σ → Prop} {change : σ → σ → Prop}

theorem Toolchain.keeps_detectVersion (toolchain : Toolchain) :
    (toolchain.detectVersion : Job σ _).Keeps grain invariant change Any :=
  keeps_bind (keeps_ask _) fun _ _ => keeps_done trivial

private theorem Discovery.keeps_askEach (requests : List Request) :
    (askEach requests : Job σ _).Keeps grain invariant change Any := by
  induction requests with
  | nil => exact keeps_done trivial
  | cons request requests ih =>
      exact keeps_bind (keeps_ask _) fun _ _ => keeps_bind ih fun _ _ => keeps_done trivial

def Package.Importable (config : Config) (package : Package) : Prop :=
  package.name ≠ "main" ∧
    ∃ exclude, config.excludeMatcher = .ok exclude ∧ exclude.accepts package.importPath = false

theorem Discovery.keeps_discoverImportable (toolchain : Toolchain) (config : Config) :
    (discover toolchain config : Job σ _).Keeps grain invariant change fun result =>
      ∀ discovery, result = .ok discovery →
        ∀ package ∈ discovery.packages, package.Importable config := by
  unfold discover
  cases compiled : config.excludeMatcher with
  | error failure => exact keeps_done fun _ same => nomatch same
  | ok exclude =>
      refine keeps_bind (keeps_askEach _) fun answers _ => keeps_done ?_
      intro discovery same package member
      obtain rfl := Except.ok.inj same
      have kept := (List.mem_filter.mp member).2
      simp only [Bool.and_eq_true, bne_iff_ne, Bool.not_eq_true'] at kept
      exact ⟨kept.1, exclude, compiled, kept.2⟩

theorem Discovery.keeps_discover (toolchain : Toolchain) (config : Config) :
    (discover toolchain config : Job σ _).Keeps grain invariant change Any :=
  (keeps_discoverImportable toolchain config).mono fun _ _ => trivial

theorem Package.importPath_describedAs (listed : List Package) (path : String) :
    (describedAs listed path).importPath = path := by
  unfold describedAs
  cases found : listed.find? fun package => package.importPath == path with
  | none => rfl
  | some package =>
      have kept := List.find?_some found
      exact eq_of_beq kept

/-- Packages are described at the paths that were asked for. -/
theorem Package.keeps_describeAt (toolchain : Toolchain) (paths : List String) :
    (describe toolchain paths : Job σ _).Keeps grain invariant change fun packages =>
      ∀ package ∈ packages, package.importPath ∈ paths := by
  unfold describe
  split
  case isTrue => exact keeps_done fun _ member => absurd member List.not_mem_nil
  case isFalse =>
    refine keeps_bind (keeps_ask _) fun _ _ => keeps_done ?_
    intro package member
    obtain ⟨path, inside, rfl⟩ := List.mem_map.mp member
    rwa [importPath_describedAs]

private theorem Resolution.keeps_query (toolchain : Toolchain) (path : String) :
    (query toolchain path : Job σ _).Keeps grain invariant change Any := by
  refine keeps_bind (keeps_ask _) fun line _ => ?_
  cases versionOfLine? path line with
  | some version => exact keeps_done trivial
  | none => exact keeps_bind (keeps_ask _) fun _ _ => keeps_done trivial

private theorem Resolution.keeps_queryAll (toolchain : Toolchain) (versions : Versions)
    (paths : List String) :
    (queryAll toolchain versions paths : Job σ _).Keeps grain invariant change Any := by
  induction paths generalizing versions with
  | nil => exact keeps_done trivial
  | cons path paths ih =>
      refine keeps_bind (keeps_query toolchain path) fun version _ => ?_
      cases version with
      | some version => exact ih _
      | none => exact ih _

theorem Resolution.keeps_resolve (toolchain : Toolchain) (standardVersion : Option String)
    (paths : Std.ExtTreeSet String) :
    (resolve toolchain standardVersion paths : Job σ _).Keeps grain invariant change Any :=
  keeps_bind (keeps_ask _) fun _ _ => keeps_queryAll _ _ _

theorem Extraction.keeps_extractAll (toolchain : Toolchain) (width : Nat)
    {kind : Package → Prop} {packages : List Package} (all : ∀ package ∈ packages, kind package) :
    (extractAll toolchain width packages : Job σ _).Keeps grain invariant change
      (Refresh.Gathered kind) :=
  keeps_bind (keeps_askAll _ _) fun _ _ => keeps_done (Refresh.gathered_gather all _)

end

/-! ## What actions keep -/

namespace Session

def Sound (session : Session) : Prop :=
  session.store.index.Consistent

/-- A session may come after another one if it serves the same index, or one that was served
since. -/
def Follows (before after : Session) : Prop :=
  before.store.generation < after.store.generation ∨
    after.store.generation = before.store.generation ∧ after.store.index = before.store.index

theorem Follows.refl (session : Session) : session.Follows session :=
  .inr ⟨rfl, rfl⟩

theorem Follows.trans {first second third : Session} (left : first.Follows second)
    (right : second.Follows third) : first.Follows third := by
  rcases left with earlier | ⟨sameCount, same⟩
  · rcases right with later | ⟨sameCount', _⟩
    · exact .inl (Nat.lt_trans earlier later)
    · exact .inl (sameCount' ▸ earlier)
  · rcases right with later | ⟨sameCount', same'⟩
    · exact .inl (sameCount ▸ later)
    · exact .inr ⟨sameCount'.trans sameCount, same'.trans same⟩

theorem Follows.of_reflTransGen {before after : Session}
    (changed : Relation.ReflTransGen Follows before after) : before.Follows after := by
  induction changed with
  | refl => exact .refl before
  | tail _ last ih => exact ih.trans last

theorem Follows.index_of_generation {before after : Session} (follows : before.Follows after)
    (same : after.store.generation = before.store.generation) :
    after.store.index = before.store.index := by
  rcases follows with later | ⟨_, index⟩
  · omega
  · exact index

/-- A job on a session behaves if it keeps the index consistent and changes it only by serving
another one. -/
abbrev Behaves {α : Type} (grain : Grain) (condition : α → Prop) (job : Job Session α) : Prop :=
  job.Keeps grain Sound Follows condition

end Session

open Session (Sound Follows Behaves)

namespace Operation

def IfOk {α : Type} (condition : α → Prop) (result : Except Failure α) : Prop :=
  ∀ value, result = .ok value → condition value

theorem ifOk_any {α : Type} (result : Except Failure α) : IfOk Any result :=
  fun _ _ => trivial

section

variable {grain : Grain} {α β : Type} {condition : α → Prop} {condition' : β → Prop}
  {invariant : Session → Prop} {change : Session → Session → Prop}

theorem keeps_andThen {operation : Operation α} {next : α → Operation β}
    (first : operation.run.Keeps grain invariant change (IfOk condition))
    (later : ∀ value, condition value →
      (next value).run.Keeps grain invariant change (IfOk condition')) :
    (operation >>= next).run.Keeps grain invariant change (IfOk condition') := by
  rw [run_bind]
  refine keeps_bind first fun result holds => ?_
  cases result with
  | error failure => exact keeps_done fun _ same => nomatch same
  | ok value => exact later value (holds value rfl)

theorem keeps_lift {job : Job Session α} (keeps : job.Keeps grain invariant change condition) :
    (liftM job : Operation α).run.Keeps grain invariant change (IfOk condition) := by
  rw [run_lift]
  refine keeps_bind keeps fun value holds => keeps_done ?_
  intro other same
  obtain rfl := Except.ok.inj same
  exact holds

theorem keeps_mk {job : Job Session (Except Failure α)}
    (keeps : job.Keeps grain invariant change Any) :
    (ExceptT.mk job : Operation α).run.Keeps grain invariant change (IfOk Any) :=
  keeps.mono fun result _ => ifOk_any result

theorem keeps_pure (value : α) :
    (pure value : Operation α).run.Keeps grain invariant change (IfOk Any) :=
  keeps_done (ifOk_any _)

theorem keeps_throw (failure : Failure) :
    (throw failure : Operation α).run.Keeps grain invariant change (IfOk Any) :=
  keeps_done (ifOk_any _)

theorem keeps_ite (question : Prop) [Decidable question] {first second : Operation α}
    (one : first.run.Keeps grain invariant change (IfOk Any))
    (other : second.run.Keeps grain invariant change (IfOk Any)) :
    (if question then first else second : Operation α).run.Keeps grain invariant change
      (IfOk Any) := by
  split
  · exact one
  · exact other

private theorem keeps_attempt {operation : Operation α}
    (keeps : operation.run.Keeps grain invariant change (IfOk condition)) :
    (attempt operation).run.Keeps grain invariant change (IfOk (IfOk condition)) :=
  keeps_lift keeps

theorem keeps_finish {job : Job Session α} (keeps : job.Keeps grain invariant change condition) :
    job.finish.Keeps grain invariant change Any :=
  keeps_bind keeps fun _ _ => keeps_done trivial

/-! ### Looking and asking -/

theorem keeps_store : store.Keeps grain invariant change Any :=
  fun _ holds => ⟨trivial, holds⟩

private theorem keeps_now : now.Keeps grain invariant change Any :=
  fun _ holds => ⟨trivial, holds⟩

/-- Detecting the version of the toolchain keeps what taking note of a version keeps. -/
theorem keeps_detectToolchain
    (notes : ∀ version, (changeStore fun store =>
      { store with toolchainVersion := some version }).Keeps grain invariant change Any) :
    detectToolchain.run.Keeps grain invariant change (IfOk Any) := by
  refine keeps_andThen (keeps_lift keeps_store) fun store _ => ?_
  refine keeps_andThen (keeps_mk store.toolchain.keeps_detectVersion) fun version _ => ?_
  exact keeps_andThen (keeps_lift (notes version)) fun _ _ => keeps_pure version

theorem keeps_ensureToolchain
    (notes : ∀ version, (changeStore fun store =>
      { store with toolchainVersion := some version }).Keeps grain invariant change Any) :
    ensureToolchain.run.Keeps grain invariant change (IfOk Any) := by
  refine keeps_andThen (keeps_lift keeps_store) fun store _ => ?_
  cases store.toolchainVersion with
  | some version => exact keeps_pure version
  | none => exact keeps_detectToolchain notes

/-- What is discovered is importable as far as the configuration is known. -/
theorem keeps_discoverImportable {known : Config → Prop}
    (config : ∀ session, invariant session → known session.store.config) :
    discover.run.Keeps grain invariant change (IfOk fun discovery =>
      ∃ config, known config ∧ ∀ package ∈ discovery.packages, package.Importable config) := by
  have store : store.Keeps grain invariant change fun store => known store.config :=
    fun session holds => ⟨config session holds, holds⟩
  refine keeps_andThen (keeps_lift store) fun store holds => ?_
  refine (Discovery.keeps_discoverImportable store.toolchain store.config).mono ?_
  exact fun result all discovery same => ⟨store.config, holds, all discovery same⟩

theorem keeps_discover : discover.run.Keeps grain invariant change (IfOk Any) :=
  keeps_andThen (keeps_lift keeps_store) fun _ _ => keeps_mk (Discovery.keeps_discover _ _)

theorem keeps_describeAt (paths : List String) :
    (describe paths).Keeps grain invariant change fun packages =>
      ∀ package ∈ packages, package.importPath ∈ paths :=
  keeps_bind keeps_store fun _ _ => Package.keeps_describeAt _ _

theorem keeps_describe (paths : List String) : (describe paths).Keeps grain invariant change Any :=
  (keeps_describeAt paths).mono fun _ _ => trivial

theorem keeps_resolve (paths : Std.ExtTreeSet String) :
    (resolve paths).Keeps grain invariant change Any :=
  keeps_bind keeps_store fun _ _ => Resolution.keeps_resolve _ _ _

theorem keeps_extractKind {kind : Package → Prop} {packages : List Package}
    (all : ∀ package ∈ packages, kind package) :
    (extractAll packages).Keeps grain invariant change (Refresh.Gathered kind) :=
  keeps_bind keeps_store fun _ _ => Extraction.keeps_extractAll _ _ all

theorem keeps_extractAll (packages : List Package) :
    (extractAll packages).Keeps grain invariant change Any := by
  have extracts : (extractAll packages).Keeps grain invariant change
      (Refresh.Gathered fun _ => True) := keeps_extractKind fun _ _ => trivial
  exact extracts.mono fun _ _ => trivial

end

/-! ### Refreshes -/

/-- A property of indexes that no refresh loses that extracts packages of some kind: it stays when
packages are taken over or removed, when they are replaced by what was extracted for them, and when
versions are merged. -/
structure Maintains (kind : Package → Prop) (good : Index → Prop) : Prop where
  empty : good .empty
  carryOver : ∀ {previous : Index}, good previous →
    ∀ discovered : Std.ExtTreeSet String, good (Refresh.carryOver previous discovered)
  removePackages : ∀ {index : Index}, good index →
    ∀ paths : List String, good (paths.foldl Index.removePackage index)
  replaceAll : ∀ {index : Index}, good index →
    ∀ (versions : Versions) {extracted : List Extraction.Extracted},
      Refresh.Gathered kind extracted → good (Refresh.replaceAll versions extracted index)
  mergeVersions : ∀ {index : Index}, good index →
    ∀ versions : Versions, good (index.mergeVersions versions)

/-- What is kept by the steps in which a refresh changes a session: taking note of the version of
the toolchain, and serving and saving an index with some property. All that is discovered is of some
kind. -/
structure Builds (grain : Grain) (kind : Package → Prop) (good : Index → Prop)
    (invariant : Session → Prop) (change : Session → Session → Prop) : Prop where
  index : ∀ session, invariant session → good session.store.index
  notes : ∀ version, (changeStore fun store =>
    { store with toolchainVersion := some version }).Keeps grain invariant change Any
  discovers : ∀ session, invariant session →
    ∀ package : Package, package.Importable session.store.config → kind package
  serves : ∀ index : Index, good index → (installAndPersist index).Keeps grain invariant change Any

section

variable {grain : Grain} {kind : Package → Prop} {good : Index → Prop}
  {invariant : Session → Prop} {change : Session → Session → Prop}
  (builds : Builds grain kind good invariant change)

include builds

theorem Builds.keeps_store : store.Keeps grain invariant change fun store => good store.index :=
  fun session holds => ⟨builds.index session holds, holds⟩

theorem Builds.keeps_discover : discover.run.Keeps grain invariant change (IfOk fun discovery =>
    ∀ package ∈ discovery.packages, kind package) := by
  let known (config : Config) : Prop :=
    ∀ package : Package, package.Importable config → kind package
  have all : ∀ session, invariant session → known session.store.config := builds.discovers
  refine (keeps_discoverImportable all).mono fun result importable discovery same => ?_
  obtain ⟨config, holds, kept⟩ := importable discovery same
  exact fun package member => holds package (kept package member)

theorem Builds.keeps_serves (maintains : Maintains kind good) {start : Index} (holds : good start)
    (versions : Versions) {extracted : List Extraction.Extracted}
    (gathered : Refresh.Gathered kind extracted) (stats : RefreshStats) :
    (installAndPersist (Refresh.apply versions extracted start stats).1).Keeps grain invariant
      change Any := by
  apply builds.serves
  rw [Refresh.apply_fst]
  exact maintains.replaceAll holds versions gathered

theorem Builds.keeps_rebuildIndex (maintains : Maintains kind good) :
    rebuildIndex.run.Keeps grain invariant change (IfOk Any) := by
  refine keeps_andThen (keeps_detectToolchain builds.notes) fun _ _ => ?_
  refine keeps_andThen builds.keeps_discover fun discovery discovered => ?_
  refine keeps_andThen (keeps_lift (keeps_resolve _)) fun versions _ => ?_
  refine keeps_andThen (keeps_lift (keeps_extractKind fun package member =>
    discovered package (List.mem_of_mem_filter member))) fun extracted gathered => ?_
  refine keeps_andThen (keeps_lift builds.keeps_store) fun store holds => ?_
  refine keeps_andThen (keeps_lift (builds.keeps_serves maintains ?_ versions gathered _))
    fun _ _ => keeps_pure _
  split
  · exact maintains.empty
  · exact maintains.carryOver holds _

private theorem Builds.keeps_syncIndex (maintains : Maintains kind good) :
    syncIndex.run.Keeps grain invariant change (IfOk Any) := by
  refine keeps_andThen (keeps_lift builds.keeps_store) fun store holds => ?_
  refine keeps_andThen builds.keeps_discover fun discovery discovered => ?_
  refine keeps_andThen (keeps_lift (keeps_resolve _)) fun versions _ => ?_
  refine keeps_ite _ (keeps_pure _) ?_
  refine keeps_andThen (keeps_lift (keeps_extractKind fun package member =>
    discovered package (List.mem_of_mem_filter member))) fun extracted gathered => ?_
  exact keeps_andThen (keeps_lift (builds.keeps_serves maintains
    (maintains.removePackages holds _) versions gathered _)) fun _ _ => keeps_pure _

theorem Builds.keeps_syncOrRebuild (maintains : Maintains kind good) :
    syncOrRebuild.run.Keeps grain invariant change (IfOk Any) := by
  refine keeps_andThen (keeps_lift Operation.keeps_store) fun before _ => ?_
  refine keeps_andThen (keeps_detectToolchain builds.notes) fun version _ => ?_
  refine keeps_andThen (keeps_lift Operation.keeps_store) fun store _ => ?_
  exact keeps_ite _ (builds.keeps_rebuildIndex maintains) (builds.keeps_syncIndex maintains)

/-- A targeted refresh extracts what it is asked for, of whatever kind it is. -/
theorem Builds.keeps_refreshIndex (maintains : Maintains kind good) {importPaths : List String}
    (targets : ∀ package : Package, package.importPath ∈ importPaths → kind package) :
    (refreshIndex importPaths).run.Keeps grain invariant change (IfOk Any) := by
  refine keeps_andThen (keeps_ensureToolchain builds.notes) fun _ _ => ?_
  refine keeps_andThen (keeps_lift (keeps_describeAt _)) fun packages described => ?_
  refine keeps_andThen (keeps_lift (keeps_resolve _)) fun versions _ => ?_
  have asked : ∀ package ∈ packages, kind package := fun package member =>
    targets package (by simpa using described package member)
  refine keeps_andThen (keeps_lift (keeps_extractKind fun package member =>
    asked package (List.mem_of_mem_filter member))) fun extracted gathered => ?_
  refine keeps_andThen (keeps_lift builds.keeps_store) fun store holds => ?_
  exact keeps_andThen (keeps_lift (builds.keeps_serves maintains holds versions gathered _))
    fun _ _ => keeps_pure _

end

theorem maintains_consistent (kind : Package → Prop) : Maintains kind Index.Consistent where
  empty := Index.consistent_empty
  carryOver _ := Refresh.carryOver_consistent _
  removePackages consistent paths := Refresh.foldl_removePackage_consistent consistent paths
  replaceAll consistent versions _ _ := Refresh.replaceAll_consistent versions consistent _
  mergeVersions consistent versions := consistent.mergeVersions versions

structure Admits (grain : Grain) (invariant : Session → Prop)
    (change : Session → Session → Prop) : Prop where
  sound : ∀ session, invariant session → session.Sound
  notes : ∀ version, (changeStore fun store =>
    { store with toolchainVersion := some version }).Keeps grain invariant change Any
  serves : ∀ index : Index, index.Consistent →
    (installAndPersist index).Keeps grain invariant change Any

section

variable {grain : Grain} {invariant : Session → Prop} {change : Session → Session → Prop}
  (admits : Admits grain invariant change)

include admits

theorem Admits.builds : Builds grain (fun _ => True) Index.Consistent invariant change where
  index := admits.sound
  notes := admits.notes
  discovers _ _ _ _ := trivial
  serves := admits.serves

theorem keeps_rebuildIndex : rebuildIndex.run.Keeps grain invariant change (IfOk Any) :=
  admits.builds.keeps_rebuildIndex (maintains_consistent _)

theorem keeps_syncOrRebuild : syncOrRebuild.run.Keeps grain invariant change (IfOk Any) :=
  admits.builds.keeps_syncOrRebuild (maintains_consistent _)

theorem keeps_refreshIndex (importPaths : List String) :
    (refreshIndex importPaths).run.Keeps grain invariant change (IfOk Any) :=
  admits.builds.keeps_refreshIndex (maintains_consistent _) fun _ _ => trivial

end

/-! ### All operations -/

def restore (version : String) : Job Session Bool := do
  let content ← .await fun session => (session.disk.readText session.store.cachePath, session)
  .update fun session => session.accept version content

structure Annotates (edit : Store → Store) : Prop where
  index : ∀ store, (edit store).index = store.index
  generation : ∀ store, (edit store).generation = store.generation
  cachePath : ∀ store, (edit store).cachePath = store.cachePath
  config : ∀ store, (edit store).config = store.config

/-- What is kept by all steps in which operations change a session: annotating the store, serving an
index with some property, saving it, and loading a snapshot. All that is discovered is of some
kind. -/
structure Upholds (grain : Grain) (kind : Package → Prop) (good : Index → Prop)
    (invariant : Session → Prop) (change : Session → Session → Prop) : Prop where
  index : ∀ session, invariant session → good session.store.index
  discovers : ∀ session, invariant session →
    ∀ package : Package, package.Importable session.store.config → kind package
  annotates : ∀ edit, Annotates edit →
    (changeStore edit).Keeps grain invariant change Any
  serves : ∀ index : Index, good index →
    (changeStore fun store => store.install index).Keeps grain invariant change Any
  saves : save.run.Keeps grain invariant change Any
  restores : ∀ version, (restore version).Keeps grain invariant change Any

namespace Upholds

variable {grain : Grain} {kind : Package → Prop} {good : Index → Prop}
  {invariant : Session → Prop} {change : Session → Session → Prop}
  (upholds : Upholds grain kind good invariant change)

include upholds

theorem builds : Builds grain kind good invariant change where
  index := upholds.index
  notes _ := upholds.annotates _ ⟨fun _ => rfl, fun _ => rfl, fun _ => rfl, fun _ => rfl⟩
  discovers := upholds.discovers
  serves index holds := keeps_bind (upholds.serves index holds) fun _ _ =>
    keeps_finish upholds.saves

theorem keeps_setReadiness (readiness : Readiness) :
    (setReadiness readiness).Keeps grain invariant change Any :=
  upholds.annotates _ ⟨fun _ => rfl, fun _ => rfl, fun _ => rfl, fun _ => rfl⟩

theorem keeps_endRefresh : endRefresh.Keeps grain invariant change Any :=
  upholds.annotates _ ⟨fun _ => rfl, fun _ => rfl, fun _ => rfl, fun _ => rfl⟩

private theorem keeps_beginRefresh (reflexive : ∀ session, change session session) :
    beginRefresh.run.Keeps grain invariant change (IfOk Any) := by
  refine keeps_mk (keeps_update (fun session holds => ?_) fun _ _ => trivial)
  have begins := upholds.annotates (fun store => { store with refreshing := true })
    ⟨fun _ => rfl, fun _ => rfl, fun _ => rfl, fun _ => rfl⟩
  split
  · exact ⟨reflexive session, holds⟩
  · exact (begins session holds).1

theorem keeps_guarded (reflexive : ∀ session, change session session)
    {refresh : Operation RefreshStats}
    (keeps : refresh.run.Keeps grain invariant change (IfOk Any)) :
    (guarded refresh).run.Keeps grain invariant change (IfOk Any) := by
  refine keeps_andThen (upholds.keeps_beginRefresh reflexive) fun _ _ => ?_
  refine keeps_andThen (keeps_lift keeps_store) fun store _ => ?_
  refine keeps_andThen (keeps_lift keeps_now) fun started _ => ?_
  refine keeps_andThen (keeps_lift (upholds.keeps_setReadiness _)) fun _ _ => ?_
  refine keeps_andThen (keeps_attempt keeps) fun result _ => ?_
  cases result with
  | ok stats =>
      refine keeps_andThen (keeps_lift keeps_now) fun ended _ => ?_
      refine keeps_andThen (keeps_lift (upholds.keeps_setReadiness _)) fun _ _ => ?_
      exact keeps_andThen (keeps_lift upholds.keeps_endRefresh) fun _ _ => keeps_pure _
  | error failure =>
      refine keeps_andThen (keeps_lift (upholds.keeps_setReadiness _)) fun _ _ => ?_
      exact keeps_andThen (keeps_lift upholds.keeps_endRefresh) fun _ _ => keeps_throw failure

private theorem keeps_updateVersions (reflexive : ∀ session, change session session)
    (maintains : Maintains kind good) (importPaths : Std.ExtTreeSet String) :
    (updateVersions importPaths).run.Keeps grain invariant change (IfOk Any) := by
  refine keeps_andThen (upholds.keeps_beginRefresh reflexive) fun _ _ => ?_
  refine keeps_andThen (keeps_lift (keeps_resolve _)) fun versions _ => ?_
  -- The index that is served depends on the session, so this is no step that serves a given one.
  have merges : (changeStore fun store =>
      store.install (store.index.mergeVersions versions)).Keeps grain invariant change Any := by
    refine keeps_modify fun session holds => ?_
    have merged := maintains.mergeVersions (upholds.index session holds) versions
    exact (upholds.serves _ merged session holds).1
  refine keeps_andThen (keeps_lift merges) fun _ _ => ?_
  exact keeps_andThen (keeps_lift upholds.keeps_endRefresh) fun _ _ => keeps_pure _

private theorem keeps_load : load.Keeps grain invariant change Any := by
  refine keeps_bind (keeps_ensureToolchain upholds.builds.notes) fun result _ => ?_
  cases result with
  | error failure => exact keeps_done trivial
  | ok version => exact upholds.restores version

private theorem keeps_start (reflexive : ∀ session, change session session)
    (maintains : Maintains kind good) : start.run.Keeps grain invariant change (IfOk Any) := by
  refine keeps_andThen (keeps_lift (upholds.keeps_setReadiness _)) fun _ _ => ?_
  refine keeps_andThen (keeps_lift upholds.keeps_load) fun loaded _ => ?_
  refine keeps_ite _ (keeps_pure _) ?_
  have rebuilds : rebuild.run.Keeps grain invariant change (IfOk Any) :=
    upholds.keeps_guarded reflexive (upholds.builds.keeps_rebuildIndex maintains)
  refine keeps_andThen (keeps_attempt rebuilds) fun result _ => ?_
  cases result with
  | ok stats => exact keeps_pure _
  | error failure =>
      refine keeps_andThen (keeps_lift keeps_store) fun store _ => ?_
      split
      · exact keeps_andThen (keeps_lift (upholds.keeps_setReadiness _)) fun _ _ =>
          keeps_throw failure
      · exact keeps_throw failure

/-- What all steps of operations keep is kept by every action that neither adds a symbol nor lets
others change the disk, and by those as far as they keep it themselves. The packages that are to be
refreshed have to be of the kind that is extracted. -/
theorem keeps_job (reflexive : ∀ session, change session session)
    (maintains : Maintains kind good) (action : Action)
    (targets : ∀ importPaths, action = .refreshPackages importPaths →
      ∀ package : Package, package.importPath ∈ importPaths → kind package)
    (adds : ∀ symbol, action = .addSymbol symbol →
      (changeStore fun store => store.addSymbol symbol).Keeps grain invariant change Any)
    (elapses : ∀ disk now, action = .elapse disk now →
      (Job.modify fun session : Session => { session with disk, now }).Keeps grain invariant change
        Any) :
    action.job.Keeps grain invariant change Any := by
  have guards : ∀ {refresh : Operation RefreshStats},
      refresh.run.Keeps grain invariant change (IfOk Any) →
        (guarded refresh).run.finish.Keeps grain invariant change Any :=
    fun keeps => keeps_finish (upholds.keeps_guarded reflexive keeps)
  cases action with
  | start => exact keeps_finish (upholds.keeps_start reflexive maintains)
  | load => exact keeps_finish upholds.keeps_load
  | rebuild => exact guards (upholds.builds.keeps_rebuildIndex maintains)
  | sync => exact guards (upholds.builds.keeps_syncOrRebuild maintains)
  | refreshPackages importPaths =>
      exact guards (upholds.builds.keeps_refreshIndex maintains (targets importPaths rfl))
  | updateVersions importPaths =>
      exact keeps_finish (upholds.keeps_updateVersions reflexive maintains importPaths)
  | addSymbol symbol => exact adds symbol rfl
  | save => exact keeps_finish upholds.saves
  | shutdown => exact keeps_finish upholds.saves
  | elapse disk now => exact elapses disk now rfl

end Upholds

/-! ### Consistent indexes -/

variable {grain : Grain}

theorem upholds_follows : Upholds grain (fun _ => True) Index.Consistent Sound Follows where
  index _ sound := sound
  discovers _ _ _ _ := trivial
  annotates edit annotates := by
    refine keeps_modify fun session sound =>
      ⟨.inr ⟨annotates.generation _, annotates.index _⟩, ?_⟩
    rw [Sound, Session.mapStore, annotates.index]
    exact sound
  serves _ consistent := keeps_modify fun _ _ => ⟨.inl (Nat.lt_succ_self _), consistent⟩
  saves := keeps_save (fun _ _ _ sound => ⟨.inr ⟨rfl, rfl⟩, sound⟩)
    fun _ _ sound => ⟨.inr ⟨rfl, rfl⟩, sound⟩
  restores version := by
    have reads : (Job.await fun session : Session =>
        (session.disk.readText session.store.cachePath, session)).Keeps grain Sound Follows Any :=
      keeps_await (fun session sound => ⟨.refl session, sound⟩) fun _ _ => trivial
    refine keeps_bind reads fun content _ => ?_
    refine keeps_update (fun session sound => ?_) fun _ _ => trivial
    rcases session.accept_cases version content with unchanged |
      ⟨_, snapshot, index, -, -, restored, served⟩
    · rw [unchanged]
      exact ⟨.refl session, sound⟩
    · rw [served]
      exact ⟨.inl (Nat.lt_succ_self _), (Snapshot.reachable_of_toIndex restored).consistent⟩

theorem behaves_guarded {refresh : Operation RefreshStats}
    (behaves : Behaves grain (IfOk Any) refresh.run) :
    Behaves grain (IfOk Any) (guarded refresh).run :=
  upholds_follows.keeps_guarded Follows.refl behaves

theorem behaves_rebuildIndex : Behaves grain (IfOk Any) rebuildIndex.run :=
  upholds_follows.builds.keeps_rebuildIndex (maintains_consistent _)

theorem behaves_syncOrRebuild : Behaves grain (IfOk Any) syncOrRebuild.run :=
  upholds_follows.builds.keeps_syncOrRebuild (maintains_consistent _)

private theorem behaves_addSymbol (symbol : Symbol) :
    Behaves grain Any (changeStore fun store => store.addSymbol symbol) := by
  refine keeps_modify fun session sound => ?_
  unfold Session.mapStore Store.addSymbol
  split
  · exact ⟨.inl (Nat.lt_succ_self _), sound.add symbol⟩
  · exact ⟨.refl session, sound⟩

end Operation

/-- Every action keeps the index consistent, and changes it only by serving another one. -/
theorem Action.behaves_job (grain : Grain) (action : Action) : Behaves grain Any action.job :=
  Operation.upholds_follows.keeps_job Follows.refl (Operation.maintains_consistent _) action
    (fun _ _ _ _ => trivial) (fun symbol _ => Operation.behaves_addSymbol symbol)
    fun _ _ _ => keeps_modify fun _ sound => ⟨.inr ⟨rfl, rfl⟩, sound⟩

/-! ## Runs -/

namespace Action

variable (grain : Grain) (responder : Responder) (actions : List Action) (schedule : List Nat)

/-- The pool of actions and the session after a run of actions on a new store. Each step of the
schedule lets the action at a position go on to its next suspension. -/
def run (session : Session) : List (Job Session Unit) × Running Session :=
  interleave grain responder schedule (actions.map Action.job) { state := session, calls := [] }

private theorem behaves_run {session : Session} (sound : session.Sound) :
    (∀ job ∈ (run grain responder actions schedule session).1, Behaves grain Any job) ∧
      (run grain responder actions schedule session).2.state.Sound := by
  have jobs : ∀ job ∈ actions.map Action.job, Behaves grain Any job := by
    intro job member
    obtain ⟨action, _, rfl⟩ := List.mem_map.mp member
    exact action.behaves_job grain
  obtain ⟨behave, kept, _⟩ := keeps_interleave responder schedule jobs
    { state := session, calls := [] } sound
  exact ⟨behave, kept⟩

def reached (session : Session) : Session :=
  (run grain responder actions schedule session).2.state

/-- The index of a new store is consistent, and after any run it still is. -/
theorem sound_reached {session : Session} (new : session.store.index = .empty) :
    (reached grain responder actions schedule session).Sound := by
  have sound : session.Sound := by
    rw [Sound, new]
    exact Index.consistent_empty
  exact (behaves_run grain responder actions schedule sound).2

/-- As a run goes on, the index stays the same until another one is served. -/
theorem follows_reached (later : List Nat) {session : Session}
    (new : session.store.index = .empty) :
    (reached grain responder actions schedule session).Follows
      (reached grain responder actions (schedule ++ later) session) := by
  have sound : session.Sound := by
    rw [Sound, new]
    exact Index.consistent_empty
  obtain ⟨behave, kept⟩ := behaves_run grain responder actions schedule sound
  rw [reached, reached, run, run, interleave_append]
  exact .of_reflTransGen (keeps_interleave responder later behave _ kept).2.2

end Action

end SymbolCache
