import SymbolCache.Proofs.Snapshot.Acceptance
import SymbolCache.Proofs.Store.Persistence

/-!
# Loading

A load serves the whole snapshot on the disk or changes nothing that is served. Which of the two it
does depends on the content of the file and on the version of the toolchain alone, wherever in the
file something does not belong there.
-/

set_option autoImplicit false

namespace SymbolCache

open Job hiding run_bind

namespace Disk

/-- The file at a path is the text of a JSON document that decodes as a snapshot. -/
def Holds (disk : Disk) (path : String) (snapshot : Snapshot) : Prop :=
  ∃ bytes content document, disk.find path = .ok (.file bytes) ∧
    String.fromUTF8? bytes = some content ∧ Json.read? content = some document ∧
      Snapshot.ofJson? document = some snapshot

/-- A file holds one snapshot at most. -/
theorem Holds.unique {disk : Disk} {path : String} {first second : Snapshot}
    (left : disk.Holds path first) (right : disk.Holds path second) : first = second := by
  obtain ⟨bytes, content, document, found, decoded, reads, made⟩ := left
  obtain ⟨bytes', content', document', found', decoded', reads', made'⟩ := right
  obtain rfl := Node.file.inj (Except.ok.inj (found.symm.trans found'))
  obtain rfl := Option.some.inj (decoded.symm.trans decoded')
  obtain rfl := Option.some.inj (reads.symm.trans reads')
  exact Option.some.inj (made.symm.trans made')

end Disk

namespace Session

variable {session : Session} {version : String} {snapshot : Snapshot}

theorem readSnapshot_eq_ok_iff :
    session.readSnapshot version = .ok snapshot ↔
      session.disk.Holds session.store.cachePath snapshot ∧
        snapshot.schemaVersion = Snapshot.currentSchema ∧ snapshot.toolchainVersion = version := by
  rw [readSnapshot]
  constructor
  · intro accepted
    cases text : session.disk.readText session.store.cachePath with
    | error error => simp [text, Except.mapError, bind, Except.bind] at accepted
    | ok content =>
        rw [text] at accepted
        obtain ⟨⟨document, reads, decodes⟩, fits⟩ := Snapshot.read_eq_ok_iff.mp accepted
        obtain ⟨bytes, found, decoded⟩ := Disk.readText_eq_ok_iff.mp text
        exact ⟨⟨bytes, content, document, found, decoded, reads, decodes⟩, fits⟩
  · rintro ⟨⟨bytes, content, document, found, decoded, reads, decodes⟩, fits⟩
    rw [Disk.readText_eq_ok_iff.mpr ⟨bytes, found, decoded⟩]
    exact Snapshot.read_eq_ok_iff.mpr ⟨⟨document, reads, decodes⟩, fits⟩

/-- A load under a version succeeds exactly with a snapshot that fits it and can be restored. -/
theorem loadWith_eq_true_iff :
    (session.loadWith version).1 = true ↔
      ∃ snapshot, session.disk.Holds session.store.cachePath snapshot ∧
        snapshot.schemaVersion = Snapshot.currentSchema ∧ snapshot.toolchainVersion = version ∧
          snapshot.WellFiled := by
  unfold loadWith
  cases reads : session.readSnapshot version with
  | error failure =>
      refine iff_of_false Bool.false_ne_true ?_
      rintro ⟨snapshot, holds, schema, toolchain, _⟩
      rw [readSnapshot_eq_ok_iff.mpr ⟨holds, schema, toolchain⟩] at reads
      cases reads
  | ok snapshot =>
      obtain ⟨holds, schema, toolchain⟩ := readSnapshot_eq_ok_iff.mp reads
      cases restores : snapshot.toIndex with
      | error failure =>
          refine iff_of_false (by simp [restores]) ?_
          rintro ⟨other, otherHolds, _, _, wellFiled⟩
          obtain rfl := holds.unique otherHolds
          obtain ⟨index, restored⟩ := Snapshot.exists_toIndex_iff.mpr wellFiled
          rw [restores] at restored
          cases restored
      | ok index =>
          refine iff_of_true (by simp [restores]) ?_
          have filed := Snapshot.exists_toIndex_iff.mp ⟨index, restores⟩
          exact ⟨snapshot, holds, schema, toolchain, filed⟩

theorem loadWith_of_false (refused : (session.loadWith version).1 = false) :
    (session.loadWith version).2 = session := by
  unfold loadWith at refused ⊢
  cases reads : session.readSnapshot version with
  | error failure => rfl
  | ok snapshot =>
      rw [reads] at refused
      cases restores : snapshot.toIndex with
      | error failure => simp [restores]
      | ok index => simp [restores] at refused

theorem loadWith_of_true (accepted : (session.loadWith version).1 = true)
    (holds : session.disk.Holds session.store.cachePath snapshot) :
    ∃ index, snapshot.toIndex = .ok index ∧
      (session.loadWith version).2 = session.serve index snapshot.timestamp := by
  unfold loadWith at accepted ⊢
  cases reads : session.readSnapshot version with
  | error failure => simp [reads] at accepted
  | ok other =>
      obtain rfl := holds.unique (readSnapshot_eq_ok_iff.mp reads).1
      rw [reads] at accepted
      cases restores : snapshot.toIndex with
      | error failure => simp [restores] at accepted
      | ok index => exact ⟨index, rfl, by simp [restores]⟩

end Session

/-! ## Loads -/

namespace Store

/-- A store serves the content of a snapshot: its versions and its lists but for the empty ones. -/
structure Serves (store : Store) (snapshot : Snapshot) : Prop where
  packages : store.index.packages = snapshot.packages
  symbols : ∀ name : String, store.index.symbols[name]? =
    snapshot.symbols[name]?.filter fun list => !list.isEmpty
  reachable : store.index.Reachable
  readiness : store.readiness = .ready
  lastSaved : store.lastSaved = some snapshot.timestamp

structure ServesAlike (before after : Store) : Prop where
  index : after.index = before.index
  generation : after.generation = before.generation
  readiness : after.readiness = before.readiness
  lastSaved : after.lastSaved = before.lastSaved

end Store

namespace Operation

def versionInUse (responder : Responder) (now : Running Session) : Option String :=
  let toolchain := now.state.store.toolchain
  now.state.store.toolchainVersion.or
    (toolchain.versionOfAnswer (responder now.calls toolchain.versionRequest)).toOption

variable (responder : Responder) (now : Running Session)

private theorem toOption_ensureToolchain :
    (ensureToolchain.run.run responder now).1.toOption = versionInUse responder now := by
  unfold ensureToolchain detectToolchain versionInUse
  simp only [run_bind, run_lift, Job.run_bind, andThen_ok, store, Job.run]
  cases now.state.store.toolchainVersion with
  | some version => rfl
  | none =>
      simp only [run_bind, run_lift, run_mk, Job.run_bind, andThen_ok, Job.run, run_detectVersion,
        Option.none_or]
      cases now.state.store.toolchain.versionOfAnswer _ with
      | error failure => rfl
      | ok version => rfl

/-- Asking for the version of the toolchain changes nothing that is served. -/
theorem servesAlike_ensureToolchain :
    now.state.store.ServesAlike (ensureToolchain.run.run responder now).2.state.store := by
  unfold ensureToolchain detectToolchain
  simp only [run_bind, run_lift, Job.run_bind, andThen_ok, store, Job.run]
  cases now.state.store.toolchainVersion with
  | some version => exact ⟨rfl, rfl, rfl, rfl⟩
  | none =>
      simp only [run_bind, run_lift, run_mk, Job.run_bind, andThen_ok, Job.run, run_detectVersion]
      cases now.state.store.toolchain.versionOfAnswer _ with
      | error failure => exact ⟨rfl, rfl, rfl, rfl⟩
      | ok version => exact ⟨rfl, rfl, rfl, rfl⟩

private theorem run_load_of_error {failure : Failure}
    (fails : (ensureToolchain.run.run responder now).1 = .error failure) :
    load.run responder now = (false, (ensureToolchain.run.run responder now).2) := by
  unfold load
  rw [bind_eq, Job.run_bind, fails]
  rfl

/-- Loading is all or nothing, whatever the file holds. It succeeds exactly if a version of the
toolchain is in use and the file holds a snapshot of the current format and of that version all of
whose records are exported and under their own names; then that snapshot is served in place of the
index. Otherwise the same is served as before. -/
theorem load_iff :
    ((load.run responder now).1 = true ↔
      ∃ version snapshot, versionInUse responder now = some version ∧
        now.state.disk.Holds now.state.store.cachePath snapshot ∧ snapshot.schemaVersion = 1 ∧
          snapshot.toolchainVersion = version ∧ snapshot.WellFiled) ∧
    (∀ snapshot, now.state.disk.Holds now.state.store.cachePath snapshot →
      (load.run responder now).1 = true →
        (load.run responder now).2.state.store.Serves snapshot ∧
          (load.run responder now).2.state.store.generation =
            now.state.store.generation + 1) ∧
    ((load.run responder now).1 = false →
      now.state.store.ServesAlike (load.run responder now).2.state.store) := by
  have inUse := toOption_ensureToolchain responder now
  have alike := servesAlike_ensureToolchain responder now
  obtain ⟨sameDisk, samePath⟩ := run_ensureToolchain responder now
  cases detects : (ensureToolchain.run.run responder now).1 with
  | error failure =>
      rw [detects] at inUse
      rw [run_load_of_error responder now detects, ← inUse]
      refine ⟨iff_of_false Bool.false_ne_true ?_, fun _ _ accepted => ?_, fun _ => alike⟩
      · rintro ⟨_, _, known, _⟩
        cases known
      · cases accepted
  | ok version =>
      rw [detects] at inUse
      rw [run_load responder now detects, ← inUse, ← sameDisk, ← samePath, ← alike.generation]
      generalize (ensureToolchain.run.run responder now).2 = asked at alike
      refine ⟨?_, ?_, ?_⟩
      case refine_1 =>
        rw [Session.loadWith_eq_true_iff]
        constructor
        · rintro ⟨snapshot, accepted⟩
          exact ⟨version, snapshot, rfl, accepted⟩
        · rintro ⟨_, snapshot, same, accepted⟩
          obtain rfl := Option.some.inj same
          exact ⟨snapshot, accepted⟩
      case refine_2 =>
        intro snapshot holds accepted
        obtain ⟨index, restores, served⟩ := Session.loadWith_of_true accepted holds
        rw [served]
        exact ⟨⟨Snapshot.packages_of_toIndex restores, Snapshot.symbols_of_toIndex restores,
          Snapshot.reachable_of_toIndex restores, rfl, rfl⟩, rfl⟩
      case refine_3 =>
        intro refused
        rw [Session.loadWith_of_false refused]
        exact alike

end Operation

end SymbolCache
