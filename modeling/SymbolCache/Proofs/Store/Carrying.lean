import SymbolCache.Proofs.Disk.Interruption
import SymbolCache.Proofs.Snapshot.Acceptance
import SymbolCache.Proofs.Store.Persistence

/-!
# Properties of indexes and snapshots

An index comes from the snapshot when it is loaded, and the snapshot from an index when it is saved.
So a property of the index of a store lasts if the snapshot on the disk has its counterpart, and
this in turn lasts if the index has the property. Neither can be told without the other.
-/

set_option autoImplicit false

namespace SymbolCache

open Job hiding run_bind

/-! ## Snapshots -/

namespace Snapshot

def ofContent? (content : ByteArray) : Option Snapshot := do
  ofJson? (← Json.read? (← String.fromUTF8? content))

structure Carries (good : Index → Prop) (kept : Snapshot → Prop) : Prop where
  capture : ∀ {index : Index}, good index → ∀ (toolchainVersion : String) (time : Nat),
    kept (capture index toolchainVersion time)
  restore : ∀ {snapshot : Snapshot} {index : Index}, kept snapshot →
    snapshot.toIndex = .ok index → good index

private theorem ofContent?_of_read {path toolchainVersion text : String} {content : ByteArray}
    {snapshot : Snapshot} (decodes : String.fromUTF8? content = some text)
    (reads : read path toolchainVersion text = .ok snapshot) :
    ofContent? content = some snapshot := by
  obtain ⟨⟨document, parses, restores⟩, -⟩ := read_eq_ok_iff.mp reads
  rw [ofContent?, decodes, Option.bind_eq_bind, Option.bind_some, parses, Option.bind_eq_bind,
    Option.bind_some, restores]

end Snapshot

/-! ## Snapshots on the disk -/

namespace Disk

def Stores (disk : Disk) (kept : Snapshot → Prop) (path : String) : Prop :=
  ∀ content, disk.node? (disk.place path) = some (.file content) →
    ∀ snapshot, Snapshot.ofContent? content = some snapshot → kept snapshot

variable {disk after : Disk} {kept : Snapshot → Prop} {path text : String}

/-- A text that is read is that of the file where the path leads. -/
theorem exists_content_of_readText (reads : disk.readText path = .ok text) :
    ∃ content, disk.node? (disk.place path) = some (.file content) ∧
      String.fromUTF8? content = some text := by
  unfold readText at reads
  cases found : disk.find path with
  | error error => simp [found, bind, Except.bind] at reads
  | ok node =>
      cases node with
      | directory =>
          simp [found, bind, Except.bind, throw, throwThe, MonadExceptOf.throw] at reads
      | file content =>
          obtain ⟨location, locates, there, -⟩ := find_eq_file_iff.mp found
          obtain rfl := eq_place_of_locate locates
          refine ⟨content, there, ?_⟩
          simp only [found, bind, Except.bind] at reads
          cases decodes : String.fromUTF8? content with
          | none => simp [decodes, throw, throwThe, MonadExceptOf.throw] at reads
          | some other => simpa [decodes, pure, Except.pure] using reads

private theorem Stores.of_spares (stores : disk.Stores kept path)
    (spares : disk.Spares path after) :
    after.Stores kept path := by
  intro content there
  rw [spares.directories.place path] at there
  exact stores content ((spares.file content).mp there)

private theorem stores_of_readText {toolchainVersion : String} {snapshot : Snapshot}
    (reads : disk.readText path = .ok text)
    (accepted : Snapshot.read path toolchainVersion text = .ok snapshot)
    (holds : kept snapshot) : disk.Stores kept path := by
  obtain ⟨content, there, decodes⟩ := exists_content_of_readText reads
  intro other otherThere found written
  obtain rfl : content = other := by simpa [there] using otherThere
  have read := Snapshot.ofContent?_of_read decodes accepted
  exact Option.some.inj (read.symm.trans written) ▸ holds

end Disk

/-! ## Sessions -/

namespace Session

/-- A session whose configuration is known in some respect and whose snapshot lies at a path, in
which the index and the snapshot have some properties. -/
structure Carries (good : Index → Prop) (kept : Snapshot → Prop) (known : Config → Prop)
    (path : String) (session : Session) : Prop where
  index : good session.store.index
  config : known session.store.config
  cachePath : session.store.cachePath = path
  disk : session.disk.Stores kept path

variable {good : Index → Prop} {kept : Snapshot → Prop} {known : Config → Prop}
  {path : String} {session later : Session}

private theorem Carries.of_files {holds : Disk → Prop}
    (carries : session.Carries good kept known path)
    (files : session.Files holds later) (stores : ∀ disk, holds disk → disk.Stores kept path) :
    later.Carries good kept known path := by
  obtain ⟨disk, _, _, there, rfl⟩ := files
  exact ⟨carries.index, carries.config, carries.cachePath, stores disk there⟩

end Session

namespace Operation

section

variable {good : Index → Prop} {kept : Snapshot → Prop} {known : Config → Prop} {path : String}

/-- Wherever a save stops, the snapshot on the disk is an old one or that of the index. -/
theorem carries_save (carried : Snapshot.Carries good kept) :
    save.run.Keeps .calls (Session.Carries good kept known path) (fun _ _ => True) Any := by
  intro session carries
  obtain rfl := carries.cachePath
  cases stamp : session.store.toolchainVersion with
  | none =>
      refine (obeys_save_unknown stamp).mono fun _ later ⟨_, same⟩ => ⟨trivial, ?_⟩
      rw [same]
      exact carries
  | some version =>
      let snapshot := Snapshot.capture session.store.index version session.now
      let stages := Stages.sparing session.store.cachePath snapshot.text.toUTF8 session.disk
      have unmoved : ∀ later, session.Files stages.unmoved later →
          later.Carries good kept known session.store.cachePath := fun later files =>
        carries.of_files files fun disk spares => carries.disk.of_spares spares
      have moved : ∀ later, session.Files stages.moved later →
          later.Carries good kept known session.store.cachePath := fun later files =>
        carries.of_files files fun disk found =>
          Disk.stores_of_readText (Disk.readText_of_find found)
            (Snapshot.read_capture session.store.index version session.store.cachePath session.now)
            (carried.capture carries.index version session.now)
      have stamped : ∀ (later : Session) time,
          later.Carries good kept known session.store.cachePath →
            (later.stamped time).Carries good kept known session.store.cachePath :=
        fun _ _ still => ⟨still.index, still.config, still.cachePath, still.disk⟩
      have obeys := obeys_save stamp stages (fun _ => trivial) (.refl _ session.disk) unmoved
        fun later files => ⟨moved later files, stamped later _ (moved later files)⟩
      refine obeys.mono fun result later saved => ⟨trivial, ?_⟩
      cases result with
      | error failure => exact unmoved later saved
      | ok done =>
          obtain ⟨between, files, rfl⟩ := saved
          exact stamped between _ (moved between files)

/-- A snapshot that is accepted is the one that was on the disk when it was read. -/
theorem carries_restore (carried : Snapshot.Carries good kept) (version : String) :
    (restore version).Keeps .calls (Session.Carries good kept known path) (fun _ _ => True)
      Any := by
  let reads (content : Except FileError String) : Prop := ∀ text snapshot, content = .ok text →
    Snapshot.read path version text = .ok snapshot → kept snapshot
  have reading : (Job.await fun session : Session =>
      (session.disk.readText session.store.cachePath, session)).Keeps .calls
        (Session.Carries good kept known path) (fun _ _ => True) reads := by
    refine keeps_await (fun _ carries => ⟨trivial, carries⟩) ?_
    rintro session ⟨-, -, rfl, stores⟩ text snapshot same accepted
    obtain ⟨content, there, decodes⟩ := Disk.exists_content_of_readText same
    exact stores content there snapshot (Snapshot.ofContent?_of_read decodes accepted)
  refine keeps_bind reading fun content holds => ?_
  refine keeps_update (fun session carries => ⟨trivial, ?_⟩) fun _ _ => trivial
  rcases session.accept_cases version content with unchanged |
    ⟨text, snapshot, index, same, accepted, restored, served⟩
  · rw [unchanged]
    exact carries
  · rw [served]
    rw [carries.cachePath] at accepted
    exact ⟨carried.restore (holds text snapshot same accepted) restored, carries.config,
      carries.cachePath, carries.disk⟩

end

/-- All steps of operations keep a property that snapshots carry. -/
theorem upholds_carries {kind : Package → Prop} {good : Index → Prop} {kept : Snapshot → Prop}
    (carried : Snapshot.Carries good kept) {known : Config → Prop} (path : String)
    (discovers : ∀ config, known config →
      ∀ package : Package, package.Importable config → kind package) :
    Upholds .calls kind good (Session.Carries good kept known path) fun _ _ => True where
  index _ carries := carries.index
  discovers _ carries := discovers _ carries.config
  annotates edit annotates := by
    refine keeps_modify fun session carries => ⟨trivial, ?_, ?_, ?_, carries.disk⟩
    · rw [Session.mapStore, annotates.index]
      exact carries.index
    · rw [Session.mapStore, annotates.config]
      exact carries.config
    · rw [Session.mapStore, annotates.cachePath]
      exact carries.cachePath
  serves _ holds := keeps_modify fun _ carries =>
    ⟨trivial, holds, carries.config, carries.cachePath, carries.disk⟩
  saves := carries_save carried
  restores := carries_restore carried

end Operation

/-! ## Runs -/

namespace Action

/-- An action from outside keeps to a property: no symbol is added, and other programs leave no
snapshot without it. -/
def SparesSnapshot (kept : Snapshot → Prop) (path : String) : Action → Prop
  | .addSymbol _ => False
  | .elapse disk _ => disk.Stores kept path
  | _ => True

variable {kind : Package → Prop} {good : Index → Prop} {kept : Snapshot → Prop}
  {known : Config → Prop} {path : String}

theorem carries_job (carried : Snapshot.Carries good kept)
    (maintains : Operation.Maintains kind good)
    (discovers : ∀ config, known config →
      ∀ package : Package, package.Importable config → kind package)
    {action : Action} (spares : action.SparesSnapshot kept path)
    (targets : ∀ importPaths, action = .refreshPackages importPaths →
      ∀ package : Package, package.importPath ∈ importPaths → kind package) :
    action.job.Keeps .calls (Session.Carries good kept known path) (fun _ _ => True) Any := by
  refine (Operation.upholds_carries carried path discovers).keeps_job (fun _ => trivial) maintains
    action targets ?_ ?_
  · rintro symbol rfl
    exact spares.elim
  · rintro disk now rfl
    exact keeps_modify fun _ carries =>
      ⟨trivial, carries.index, carries.config, carries.cachePath, spares⟩

/-- What snapshots carry and refreshes maintain lasts in any run of actions, with any answers and
any calls of one action between those of another. -/
theorem carries_reached (carried : Snapshot.Carries good kept)
    (maintains : Operation.Maintains kind good)
    (discovers : ∀ config, known config →
      ∀ package : Package, package.Importable config → kind package)
    (responder : Responder) {actions : List Action} (schedule : List Nat) {session : Session}
    (start : session.Carries good kept known path)
    (spares : ∀ action ∈ actions, action.SparesSnapshot kept path)
    (targets : ∀ importPaths, .refreshPackages importPaths ∈ actions →
      ∀ package : Package, package.importPath ∈ importPaths → kind package) :
    (reached .calls responder actions schedule session).Carries good kept known path := by
  have keeps : ∀ job ∈ actions.map Action.job,
      job.Keeps .calls (Session.Carries good kept known path) (fun _ _ => True) Any := by
    intro job member
    obtain ⟨action, inside, rfl⟩ := List.mem_map.mp member
    refine carries_job carried maintains discovers (spares action inside) ?_
    rintro importPaths rfl
    exact targets importPaths inside
  exact (keeps_interleave responder schedule keeps ⟨session, []⟩ start).2.1

end Action

end SymbolCache
