import SymbolCache.Proofs.Refresh.SyncAgreement
import SymbolCache.Proofs.Store.Carrying
import SymbolCache.Proofs.Store.Readiness

/-!
# Symbols of packages with a version

As long as no symbol is added from outside, every symbol in the index of a store belongs to a
package with a version, and so does every symbol in the snapshot on the disk. Neither can be told
without the other: an index comes from the snapshot when it is loaded, and the snapshot from an
index when it is saved.
-/

set_option autoImplicit false

namespace SymbolCache

open Job hiding run_bind

/-! ## Indexes -/

namespace Refresh

open Index

variable {index : Index}

private theorem recorded_iff :
    Recorded index ↔ ∀ path name, index.records path name ≠ [] →
      ∃ version, index.version? path = some version := by
  constructor
  · intro recorded path name filled
    obtain ⟨symbol, member, rfl⟩ := records_ne_nil_iff.mp filled
    exact recorded name symbol member
  · intro known name symbol member
    exact known _ name (records_ne_nil_iff.mpr ⟨symbol, member, rfl⟩)

theorem Recorded.removePackages (recorded : Recorded index) (consistent : index.Consistent)
    (paths : List String) : Recorded (paths.foldl removePackage index) := by
  refine recorded_iff.mpr fun path name filled => ?_
  rw [records_foldl_removePackage consistent] at filled
  rw [version?, packages_foldl_removePackage]
  split at filled
  case isTrue => exact absurd rfl filled
  case isFalse kept =>
    rw [if_neg kept]
    exact recorded_iff.mp recorded path name filled

theorem Recorded.mergeVersions (recorded : Recorded index) (versions : Versions) :
    Recorded (index.mergeVersions versions) := by
  intro name symbol member
  rw [listed_mergeVersions] at member
  rw [version?_mergeVersions]
  cases versions[symbol.packagePath]? with
  | some version => exact ⟨version, rfl⟩
  | none => exact recorded name symbol member

theorem Recorded.replaceAll (recorded : Recorded index) (consistent : index.Consistent)
    (versions : Versions) {extracted : List Extraction.Extracted} (owned : Owned extracted) :
    Recorded (replaceAll versions extracted index) := by
  let good (index : Index) : Prop := index.Consistent ∧ Recorded index
  have both : good (Refresh.replaceAll versions extracted index) := by
    refine replaceAll_keeps versions ⟨consistent, recorded⟩ fun index holds entry member version =>
      ⟨holds.1.replacePackage _ _ _, ?_⟩
    exact holds.2.replacePackage holds.1 _ version (owned entry member)
  exact both.2

private theorem recorded_carryOver (previous : Index) (discovered : Std.ExtTreeSet String) :
    Recorded (carryOver previous discovered) := by
  let good (index : Index) : Prop := index.Consistent ∧ Recorded index
  have both : good (carryOver previous discovered) := by
    refine carryOver_keeps previous discovered (fun index holds path version =>
      ⟨holds.1.replacePackage _ _ _, ?_⟩) ⟨consistent_empty, recorded_empty⟩
    exact holds.2.replacePackage holds.1 _ version (packageSymbols_owned previous path)
  exact both.2

end Refresh

/-! ## Snapshots -/

namespace Snapshot

def Recorded (snapshot : Snapshot) : Prop :=
  ∀ (name : String) (list : List Symbol), snapshot.symbols[name]? = some list →
    ∀ symbol ∈ list, ∃ version, snapshot.packages[symbol.packagePath]? = some version

variable {index : Index} {snapshot : Snapshot}

theorem Recorded.toIndex (recorded : snapshot.Recorded) (restores : snapshot.toIndex = .ok index) :
    Refresh.Recorded index := by
  intro name symbol member
  obtain ⟨list, found, inside⟩ := exists_list_of_toIndex restores member
  rw [Index.version?, packages_of_toIndex restores]
  exact recorded name list found symbol inside

private theorem recorded_capture (recorded : Refresh.Recorded index) (toolchainVersion : String)
    (time : Nat) : (capture index toolchainVersion time).Recorded := by
  intro name list found symbol member
  exact recorded name symbol (Index.listed_of_getElem? found ▸ member)

private theorem carries_recorded :
    Carries (fun index => index.Consistent ∧ Refresh.Recorded index) Recorded where
  capture both := recorded_capture both.2
  restore recorded restores :=
    ⟨(reachable_of_toIndex restores).consistent, recorded.toIndex restores⟩

end Snapshot

/-! ## Snapshots on the disk -/

namespace Disk

def Records (disk : Disk) (path : String) : Prop :=
  ∀ content, disk.node? (disk.place path) = some (.file content) →
    ∀ snapshot, Snapshot.ofContent? content = some snapshot → snapshot.Recorded

end Disk

/-! ## Sessions -/

namespace Session

structure Records (path : String) (session : Session) : Prop where
  sound : session.Sound
  recorded : Refresh.Recorded session.store.index
  cachePath : session.store.cachePath = path
  disk : session.disk.Records path

variable {path : String} {session : Session}

theorem records_eq : Records path = Carries (fun index => index.Consistent ∧ Refresh.Recorded index)
    Snapshot.Recorded (fun _ => True) path := by
  funext session
  refine propext ⟨fun records => ?_, fun carries => ?_⟩
  · exact ⟨⟨records.sound, records.recorded⟩, trivial, records.cachePath, records.disk⟩
  · exact ⟨carries.index.1, carries.index.2, carries.cachePath, carries.disk⟩

/-- Whether or not it can be written, the snapshot of such an index is such a snapshot. -/
theorem Records.save (records : session.Records path) : session.save.2.Records path := by
  have leads := leads_of_keeps (Operation.carries_save Snapshot.carries_recorded)
    (fun _ _ => .error .toolchainUnknown) ⟨session, []⟩ (records_eq ▸ records)
  rw [run_save] at leads
  exact records_eq ▸ leads

end Session

namespace Operation

open Refresh (Recorded)

private theorem maintains_recorded (kind : Package → Prop) :
    Maintains kind fun index => index.Consistent ∧ Recorded index where
  empty := ⟨Index.consistent_empty, Refresh.recorded_empty⟩
  carryOver _ discovered :=
    ⟨Refresh.carryOver_consistent _ discovered, Refresh.recorded_carryOver _ discovered⟩
  removePackages both paths :=
    ⟨Refresh.foldl_removePackage_consistent both.1 paths, both.2.removePackages both.1 paths⟩
  replaceAll both versions _ gathered :=
    ⟨Refresh.replaceAll_consistent versions both.1 _,
      both.2.replaceAll both.1 versions gathered.owned⟩
  mergeVersions both versions :=
    ⟨both.1.mergeVersions versions, both.2.mergeVersions versions⟩

end Operation

/-! ## Runs -/

namespace Action

/-- Whether an action adds no symbol from outside, and other programs leave no symbol of a package
without a version in the snapshot at a path. -/
def SparesRecords (path : String) : Action → Prop
  | .addSymbol _ => False
  | .elapse disk _ => disk.Records path
  | _ => True

private theorem records_job {path : String} {action : Action} (spares : action.SparesRecords path) :
    action.job.Keeps .calls (Session.Records path) (fun _ _ => True) Any := by
  rw [Session.records_eq]
  have sparesSnapshot : action.SparesSnapshot Snapshot.Recorded path := by
    cases action <;> exact spares
  exact carries_job Snapshot.carries_recorded (Operation.maintains_recorded fun _ => True)
    (fun _ _ _ _ => trivial) sparesSnapshot fun _ _ _ _ => trivial

/-- After any run of actions on a new store, with any answers and any calls of one action between
those of another, every symbol of the index belongs to a package with a version, and so does every
symbol of the snapshot on the disk, as long as no symbol was added from outside. -/
theorem recorded_reached (responder : Responder) (actions : List Action) (schedule : List Nat)
    (session : Session) (new : session.store.index = .empty)
    (disk : session.disk.Records session.store.cachePath)
    (spares : ∀ action ∈ actions, action.SparesRecords session.store.cachePath) :
    Refresh.Recorded (reached .calls responder actions schedule session).store.index ∧
      (reached .calls responder actions schedule session).disk.Records session.store.cachePath := by
  have start : session.Records session.store.cachePath := by
    refine ⟨?_, ?_, rfl, disk⟩
    · rw [Session.Sound, new]
      exact Index.consistent_empty
    · rw [new]
      exact Refresh.recorded_empty
  have keeps : ∀ job ∈ actions.map Action.job,
      job.Keeps .calls (Session.Records session.store.cachePath) (fun _ _ => True) Any := by
    intro job member
    obtain ⟨action, inside, rfl⟩ := List.mem_map.mp member
    exact records_job (spares action inside)
  obtain ⟨-, records, -⟩ := keeps_interleave responder schedule keeps ⟨session, []⟩ start
  exact ⟨records.recorded, records.disk⟩

/-! ### A workspace with a snapshot -/

def earlierSession : Session where
  store :=
    { waningSession.store with
      toolchainVersion := some "1.22"
      index := Index.empty.replacePackage "gone.org/x" "v0.1.0"
        [Refresh.exampleSymbol "gone.org/x"] }
  disk := {}
  now := 0

def storedSession : Session :=
  { waningSession with disk := earlierSession.save.2.disk }

private theorem records_earlierSession : earlierSession.Records storedSession.store.cachePath where
  sound := Index.consistent_empty.replacePackage _ _ _
  recorded := by
    refine Refresh.recorded_empty.replacePackage Index.consistent_empty _ _ ?_
    simp [Refresh.exampleSymbol]
  cachePath := rfl
  disk := by
    intro content there
    have nothing : ((∅ : Std.ExtTreeMap Location Node Location.order)[
        ["work", ".gosym", "symbol-cache.json"]]?) = none := Std.ExtTreeMap.getElem?_empty
    exact absurd (nothing.symm.trans there) (by simp)

private theorem records_storedSession :
    storedSession.disk.Records storedSession.store.cachePath := by
  have stored : storedSession.disk = earlierSession.save.2.disk := by
    dsimp only [storedSession]
  rw [stored]
  exact records_earlierSession.save.disk

def storedRun : Session :=
  reached .calls waningAnswer [.rebuild, .updateVersions {"lib.org/c"}, .shutdown]
    [0, 1, 0, 0, 0, 0, 2] storedSession

theorem recorded_reached_example :
    (storedSession.disk.node? (storedSession.disk.place storedSession.store.cachePath)).isSome ∧
    (∃ symbol ∈ storedRun.store.index.listed "Open",
      ∃ version, storedRun.store.index.version? symbol.packagePath = some version) ∧
    storedRun.disk.Records storedSession.store.cachePath := by
  have stored : (storedSession.disk.node?
      (storedSession.disk.place storedSession.store.cachePath)).isSome := by decide +kernel
  have filled : (storedRun.store.index.listed "Open").length = 1 := by decide +kernel
  obtain ⟨symbol, single⟩ := List.length_eq_one_iff.mp filled
  have member : symbol ∈ storedRun.store.index.listed "Open" := by
    rw [single]
    exact List.mem_singleton_self symbol
  have both : Refresh.Recorded storedRun.store.index ∧
      storedRun.disk.Records storedSession.store.cachePath := by
    unfold storedRun
    exact recorded_reached waningAnswer
      [.rebuild, .updateVersions {"lib.org/c"}, .shutdown] [0, 1, 0, 0, 0, 0, 2] storedSession rfl
      records_storedSession (by simp [SparesRecords])
  exact ⟨stored, ⟨symbol, member, both.1 "Open" symbol member⟩, both.2⟩

end Action

end SymbolCache
