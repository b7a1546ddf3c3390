import SymbolCache.Proofs.Disk.Interruption
import SymbolCache.Proofs.Store.Actions

/-!
# Saving and loading

What a store saves, another store on the same path loads under the same version of the toolchain,
and then serves the same index.
-/

set_option autoImplicit false

namespace SymbolCache

open Job hiding run_bind

namespace Session

variable {session saved later : Session} {version : String}

/-- What the file at the path of the snapshot comes to when it is saved: it is left alone if the
save fails, and has the new content otherwise. -/
theorem save_cases (known : session.store.toolchainVersion = some version) :
    let snapshot := Snapshot.capture session.store.index version session.now
    session.Saved (.sparing session.store.cachePath snapshot.text.toUTF8 session.disk)
      snapshot.timestamp session.save.1 session.save.2 :=
  session.saved_save known _ (fun _ => trivial) (.refl _ session.disk)

/-- A save that succeeds has written the snapshot of the index, stamped with the known version. -/
theorem save_ok (saves : session.save = (.ok (), saved)) :
    ∃ version, session.store.toolchainVersion = some version ∧
      saved.disk.readText session.store.cachePath =
        .ok (Snapshot.capture session.store.index version session.now).text := by
  cases known : session.store.toolchainVersion with
  | none => simp [session.save_unknown known] at saves
  | some version =>
      have outcome := save_cases known
      rw [saves] at outcome
      obtain ⟨_, ⟨disk, _, _, found, rfl⟩, rfl⟩ := outcome
      exact ⟨version, rfl, Disk.readText_of_find found⟩

/-- What was saved is accepted under the version that it was saved under. -/
theorem readSnapshot_of_save (saves : session.save = (.ok (), saved))
    (known : session.store.toolchainVersion = some version) (disk : later.disk = saved.disk)
    (path : later.store.cachePath = session.store.cachePath) :
    later.readSnapshot version =
      .ok (Snapshot.capture session.store.index version session.now) := by
  obtain ⟨stamp, stamped, text⟩ := save_ok saves
  obtain rfl : version = stamp := Option.some.inj (known.symm.trans stamped)
  have accepted := Snapshot.read_capture session.store.index version session.store.cachePath
    session.now
  generalize Snapshot.capture session.store.index version session.now = snapshot at text accepted ⊢
  rw [readSnapshot, disk, path, text]
  simp only [Except.mapError, bind, Except.bind, accepted]

def loadWith (session : Session) (version : String) : Bool × Session :=
  match session.readSnapshot version with
  | .error _ => (false, session)
  | .ok snapshot =>
    match snapshot.toIndex with
    | .error _ => (false, session)
    | .ok index => (true, session.serve index snapshot.timestamp)

theorem accept_readText (session : Session) (version : String) :
    session.accept version (session.disk.readText session.store.cachePath) =
      session.loadWith version := by
  unfold accept loadWith readSnapshot
  cases session.disk.readText session.store.cachePath with
  | error error => rfl
  | ok content => rfl

/-- What was saved is loaded as the index that it was made of. -/
theorem loadWith_of_save (sound : session.Sound) (saves : session.save = (.ok (), saved))
    (known : session.store.toolchainVersion = some version) (disk : later.disk = saved.disk)
    (path : later.store.cachePath = session.store.cachePath) :
    later.loadWith version =
      (true, later.serve session.store.index
        (Snapshot.capture session.store.index version session.now).timestamp) := by
  have accepted := readSnapshot_of_save saves known disk path
  have restored := Snapshot.toIndex_capture sound version session.now
  generalize Snapshot.capture session.store.index version session.now = snapshot
    at accepted restored ⊢
  simp only [loadWith, accepted, restored]

end Session

namespace Operation

/-- Asking for the version of the toolchain leaves the disk and the place of the snapshot alone. -/
theorem run_ensureToolchain (responder : Responder) (now : Running Session) :
    (ensureToolchain.run.run responder now).2.state.disk = now.state.disk ∧
      (ensureToolchain.run.run responder now).2.state.store.cachePath =
        now.state.store.cachePath := by
  unfold ensureToolchain detectToolchain
  simp only [run_bind, run_lift, Job.run_bind, andThen_ok, store, Job.run]
  cases now.state.store.toolchainVersion with
  | some version => exact ⟨rfl, rfl⟩
  | none =>
      simp only [run_bind, run_lift, run_mk, Job.run_bind, andThen_ok, Job.run, run_detectVersion]
      cases now.state.store.toolchain.versionOfAnswer _ with
      | error failure => exact ⟨rfl, rfl⟩
      | ok version => exact ⟨rfl, rfl⟩

theorem silent_restore (version : String) : (restore version).Silent :=
  (silent_await _).bind fun _ _ => trivial

theorem evaluate_restore (answer : Request → Answer) (version : String) (session : Session) :
    (restore version).evaluate answer session = session.loadWith version := by
  simp only [restore, bind_eq, evaluate_bind, evaluate_await, evaluate_update,
    Session.accept_readText]

theorem run_load (responder : Responder) (now : Running Session) {version : String}
    (detects : (ensureToolchain.run.run responder now).1 = .ok version) :
    load.run responder now =
      (((ensureToolchain.run.run responder now).2.state.loadWith version).1,
        { (ensureToolchain.run.run responder now).2 with
          state := ((ensureToolchain.run.run responder now).2.state.loadWith version).2 }) := by
  unfold load
  rw [bind_eq, Job.run_bind, detects, ← Session.accept_readText]
  rfl

/-- Saving and then loading is the identity on indexes. After any run of actions on a new store, in
which the version of the toolchain has become known, a save that succeeds is loaded by every store
on the same path for which the toolchain has that version, and what was written for the index, read
and restored, is the index again: its versions, its symbols with all of their fields, and the two
maps that are not stored. -/
theorem load_save (grain : Grain) (responder : Responder) (actions : List Action)
    (schedule : List Nat) (session : Session) (new : session.store.index = .empty)
    {version : String}
    (known : (Action.reached grain responder actions schedule session).store.toolchainVersion =
      some version)
    {saved : Session}
    (saves : (Action.reached grain responder actions schedule session).save = (.ok (), saved))
    (responder' : Responder) (fresh : Running Session) (disk : fresh.state.disk = saved.disk)
    (path : fresh.state.store.cachePath =
      (Action.reached grain responder actions schedule session).store.cachePath)
    (detects : (ensureToolchain.run.run responder' fresh).1 = .ok version) :
    ((load.run responder' fresh).1 = true ∧
      (load.run responder' fresh).2.state.store.index =
        (Action.reached grain responder actions schedule session).store.index) ∧
    ∀ path time,
      (Snapshot.read path version
        (Snapshot.capture (Action.reached grain responder actions schedule session).store.index
          version time).text).bind Snapshot.toIndex =
        .ok (Action.reached grain responder actions schedule session).store.index := by
  have sound := Action.sound_reached grain responder actions schedule new
  generalize Action.reached grain responder actions schedule session = reached at *
  obtain ⟨sameDisk, samePath⟩ := run_ensureToolchain responder' fresh
  have loads := Session.loadWith_of_save sound saves known (sameDisk.trans disk)
    (samePath.trans path)
  constructor
  · rw [run_load responder' fresh detects, loads]
    exact ⟨rfl, rfl⟩
  · intro path time
    rw [Snapshot.read_capture]
    exact Snapshot.toIndex_capture sound version time

/-! ### A symbol with unusual characters -/

def unusualSymbol : Symbol where
  name := "É\"\x01ß"
  packagePath := "lib.org/ü\\"
  packageName := ""
  kind := .var
  isExported := true
  signature := some "var É\"\x01ß\n\t= '\u2028'"

def versionAnswer (_ : List Request) (request : Request) : Answer :=
  if request.invocation.arguments = ["env", "GOVERSION"] then .ok "go1.22\n"
  else .error .toolchainUnknown

def newSession : Session where
  store := Store.create "/work" {}
  disk := {}
  now := 0

def unusualSession : Session :=
  Action.reached .calls versionAnswer [.rebuild, .addSymbol unusualSymbol] [0, 1, 0] newSession

def reopened (disk : Disk) : Running Session where
  state :=
    { store := { newSession.store with toolchainVersion := some "1.22" }
      disk
      now := 1 }
  calls := []

theorem load_save_example :
    unusualSession.store.toolchainVersion = some "1.22" ∧
      ∃ saved, unusualSession.save = (.ok (), saved) ∧
        (load.run versionAnswer (reopened saved.disk)).1 = true ∧
          (load.run versionAnswer (reopened saved.disk)).2.state.store.index =
            unusualSession.store.index := by
  have known : unusualSession.store.toolchainVersion = some "1.22" := by decide +kernel
  have done : unusualSession.save.1 = .ok () := by decide +kernel
  have path : newSession.store.cachePath = unusualSession.store.cachePath := by decide +kernel
  obtain ⟨saved, saves⟩ : ∃ saved, unusualSession.save = (.ok (), saved) :=
    ⟨unusualSession.save.2, by rw [← done]⟩
  unfold unusualSession at known saves path ⊢
  have loads := load_save .calls versionAnswer [.rebuild, .addSymbol unusualSymbol] [0, 1, 0]
    newSession rfl known saves versionAnswer (reopened saved.disk) rfl path rfl
  exact ⟨known, saved, saves, loads.1⟩

end Operation

end SymbolCache
