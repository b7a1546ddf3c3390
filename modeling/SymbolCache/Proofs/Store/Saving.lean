import SymbolCache.Proofs.Disk.Filing
import SymbolCache.Proofs.Store.Operations

/-!
# Saves step by step

A save replaces a file in five steps, each of which waits for the file system and may have trouble.
What is known of the file system at each of them is told once for every kind of file system: then
it is known wherever a save is interrupted, and when it has succeeded or failed.
-/

set_option autoImplicit false

namespace SymbolCache

open Job hiding run_bind

/-! ## Steps of the file system -/

namespace Session

variable {δ : Type}

/-- A session from which another one differs in the file system alone, of which something is
known. -/
def Files (origin : Session δ) (holds : δ → Prop) (session : Session δ) : Prop :=
  ∃ disk troubles, (origin.troubles = [] → troubles = []) ∧ holds disk ∧
    session = { origin with disk, troubles }

theorem Files.mono {origin session : Session δ} {holds holds' : δ → Prop}
    (files : origin.Files holds session) (weaker : ∀ disk, holds disk → holds' disk) :
    origin.Files holds' session := by
  obtain ⟨disk, troubles, calm, known, rfl⟩ := files
  exact ⟨disk, troubles, calm, weaker disk known, rfl⟩

end Session

namespace Operation

section

variable {δ α β : Type} {origin session : Session δ} {invariant : Session δ → Prop}
  {before failed : δ → Prop} {done : α → δ → Prop}

def Filed (origin : Session δ) (done : α → δ → Prop) (failed : δ → Prop) :
    Except Failure α → Session δ → Prop
  | .ok value => origin.Files (done value)
  | .error _ => origin.Files failed

theorem obeys_andThen {between : α → δ → Prop} {done : β → δ → Prop} {operation : OperationOn δ α}
    {next : α → OperationOn δ β}
    (first : operation.run.Obeys .calls invariant (fun _ _ => True) (Filed origin between failed)
      session)
    (later : ∀ value session, origin.Files (between value) session →
      (next value).run.Obeys .calls invariant (fun _ _ => True) (Filed origin done failed)
        session) :
    (operation >>= next).run.Obeys .calls invariant (fun _ _ => True) (Filed origin done failed)
      session := by
  rw [run_bind]
  refine first.bind fun result session filed => ?_
  cases result with
  | error failure => exact filed
  | ok value => exact later value session filed

theorem obeys_onDisk {whole : FilingOn δ α} {part : Nat → FilingOn δ Unit}
    (files : origin.Files before session) (wholly : whole.Brings before done failed)
    (partly : origin.troubles ≠ [] → ∀ count,
      (part count).Brings before (fun _ => failed) failed)
    (fails : ∀ later, origin.Files failed later → invariant later)
    (succeeds : ∀ value later, origin.Files (done value) later → invariant later) :
    (onDisk whole part).run.Obeys .calls invariant (fun _ _ => True) (Filed origin done failed)
      session := by
  obtain ⟨disk, troubles, calm, holds, rfl⟩ := files
  suffices filed : Filed origin done failed
      (Session.perform whole part { origin with disk, troubles }).1
      (Session.perform whole part { origin with disk, troubles }).2 by
    refine ⟨⟨trivial, ?_⟩, filed⟩
    generalize (Session.perform whole part { origin with disk, troubles }).1 = result at filed
    cases result with
    | error failure => exact fails _ filed
    | ok value => exact succeeds value _ filed
  have rest : origin.troubles = [] → troubles.tail = [] := by
    intro none
    rw [calm none, List.tail_nil]
  cases next : troubles.head?.join with
  | none =>
      have outcome := wholly disk holds
      simp only [Session.perform, next]
      generalize whole.run.run disk = result at outcome ⊢
      obtain ⟨error | value, after⟩ := result
      · exact ⟨after, _, rest, outcome, rfl⟩
      · exact ⟨after, _, rest, outcome, rfl⟩
  | some trouble =>
      have troubled : origin.troubles ≠ [] := fun none => by simp [calm none] at next
      have outcome := partly troubled trouble.done disk holds
      simp only [Session.perform, next]
      generalize (part trouble.done).run.run disk = result at outcome ⊢
      obtain ⟨error | value, after⟩ := result
      · exact ⟨after, _, rest, outcome, rfl⟩
      · exact ⟨after, _, rest, outcome, rfl⟩

end

/-- A step of the file system keeps what does not depend on the file system, at whatever
suspensions others may go on. -/
theorem keeps_onDisk {δ α : Type} {grain : Grain} {invariant : Session δ → Prop}
    {change : Session δ → Session δ → Prop}
    (files : ∀ session disk troubles, invariant session →
      change session { session with disk, troubles } ∧ invariant { session with disk, troubles })
    (whole : FilingOn δ α) (part : Nat → FilingOn δ Unit) :
    (onDisk whole part).run.Keeps grain invariant change Any := by
  refine keeps_await (fun session holds => ?_) fun _ _ => trivial
  unfold Session.perform
  split
  case h_1 => exact files session _ _ holds
  case h_2 => exact files session _ _ holds

end Operation

/-! ## Replacements of a file -/

namespace Stages

open Operation

variable {δ : Type} [FileSystem δ] {path : String} {content : ByteArray} {troubled : Prop}
  {origin session : Session δ} {invariant : Session δ → Prop}

/-- Wherever the replacement of a file is interrupted, the file is left alone or was moved; and it
was moved exactly if the replacement has succeeded. -/
theorem obeys_replaceFile (stages : Stages δ path content troubled)
    (trouble : origin.troubles ≠ [] → troubled) (start : origin.Files stages.starting session)
    (fails : ∀ later, origin.Files stages.unmoved later → invariant later)
    (succeeds : ∀ later, origin.Files stages.moved later → invariant later) :
    (replaceFile path content : OperationOn δ Unit).run.Obeys .calls invariant (fun _ _ => True)
      (Filed origin (fun _ => stages.moved) stages.unmoved) session := by
  have goesOn : ∀ {holds : δ → Prop}, (∀ disk, holds disk → stages.unmoved disk) →
      ∀ later, origin.Files holds later → invariant later :=
    fun weaker later files => fails later (files.mono weaker)
  have makes : (makeDirectoriesAbove path : OperationOn δ Unit).run.Obeys .calls invariant
      (fun _ _ => True) (Filed origin (fun _ => stages.made) stages.unmoved) session := by
    unfold makeDirectoriesAbove
    cases above : Path.parent? path with
    | none => exact start.mono (stages.settled above)
    | some parent =>
        exact obeys_onDisk start (stages.makes parent above)
          (fun here _ => stages.makesPart (trouble here) parent above _) fails
          fun _ => goesOn stages.unmoved_of_made
  refine obeys_andThen makes fun _ session made => ?_
  refine obeys_andThen (obeys_onDisk made stages.creates (fun _ _ => stages.unmoved_of_made) fails
    fun file => goesOn (stages.unmoved_of_created file)) fun file session created => ?_
  refine obeys_andThen (obeys_onDisk created (stages.writes file)
    (fun here => stages.writesPart (trouble here) file) fails
      fun _ => goesOn stages.unmoved_of_written) fun _ session written => ?_
  have flushes : (pure () : FilingOn δ Unit).Brings stages.written (fun _ => stages.written)
      stages.unmoved := fun _ => id
  refine obeys_andThen (obeys_onDisk written flushes (fun _ _ => stages.unmoved_of_written) fails
    fun _ => goesOn stages.unmoved_of_written) fun _ session written => ?_
  exact obeys_onDisk written stages.moves (fun _ _ => stages.unmoved_of_written) fails
    fun _ => succeeds

end Stages

/-! ## Saves -/

namespace Session

variable {δ : Type}

def stamped (time : Nat) (session : Session δ) : Session δ :=
  session.mapStore fun store => { store with lastSaved := some time }

def Saved [FileSystem δ] {content : ByteArray} {troubled : Prop} (session : Session δ)
    (stages : Stages δ session.store.cachePath content troubled) (time : Nat) :
    Except Failure Unit → Session δ → Prop
  | .ok _, after => ∃ moved, session.Files stages.moved moved ∧ after = moved.stamped time
  | .error _, after => session.Files stages.unmoved after

end Session

namespace Operation

variable {δ : Type} [FileSystem δ]

theorem obeys_save {session : Session δ} {version : String} {invariant : Session δ → Prop}
    {troubled : Prop} (known : session.store.toolchainVersion = some version)
    (stages : Stages δ session.store.cachePath
      (Snapshot.capture session.store.index version session.now).text.toUTF8 troubled)
    (trouble : session.troubles ≠ [] → troubled) (start : stages.starting session.disk)
    (fails : ∀ later, session.Files stages.unmoved later → invariant later)
    (succeeds : ∀ later, session.Files stages.moved later →
      invariant later ∧
        invariant (later.stamped (Snapshot.capture session.store.index version
          session.now).timestamp)) :
    save.run.Obeys .calls invariant (fun _ _ => True)
      (session.Saved stages (Snapshot.capture session.store.index version session.now).timestamp)
      session := by
  simp only [save, run_mk, Job.Obeys, known]
  rw [run_bind]
  refine (stages.obeys_replaceFile trouble ⟨session.disk, session.troubles, id, start, rfl⟩ fails
    fun later moved => (succeeds later moved).1).bind fun result later filed => ?_
  cases result with
  | error failure => exact filed
  | ok done => exact ⟨⟨trivial, (succeeds later filed).2⟩, later, filed, rfl⟩

theorem obeys_save_unknown {session : Session δ} {invariant : Session δ → Prop}
    (unknown : session.store.toolchainVersion = none) :
    save.run.Obeys .calls invariant (fun _ _ => True)
      (fun result later => result = .error .toolchainUnknown ∧ later = session) session := by
  simp only [save, run_mk, Job.Obeys, unknown, and_self]

/-- A save keeps what depends neither on the file system nor on the time of the snapshot. -/
theorem keeps_save {grain : Grain} {invariant : Session δ → Prop}
    {change : Session δ → Session δ → Prop}
    (files : ∀ session disk troubles, invariant session →
      change session { session with disk, troubles } ∧ invariant { session with disk, troubles })
    (stamps : ∀ session time, invariant session →
      change session (session.stamped time) ∧ invariant (session.stamped time)) :
    save.run.Keeps grain invariant change Any := by
  have andThen {α β : Type} {operation : OperationOn δ α} {next : α → OperationOn δ β}
      (first : operation.run.Keeps grain invariant change Any)
      (later : ∀ value, (next value).run.Keeps grain invariant change Any) :
      (operation >>= next).run.Keeps grain invariant change Any := by
    rw [run_bind]
    refine keeps_bind first fun result _ => ?_
    cases result with
    | error failure => exact keeps_done trivial
    | ok value => exact later value
  have stamping (time : Nat) :
      (ExceptT.lift (.modify (Session.stamped time)) : OperationOn δ Unit).run.Keeps grain invariant
        change Any :=
    keeps_bind (keeps_modify fun session => stamps session time) fun _ _ => keeps_done trivial
  intro session holds
  unfold save
  cases known : session.store.toolchainVersion with
  | none => simpa only [run_mk, Job.Obeys, known] using ⟨trivial, holds⟩
  | some version =>
      simp only [run_mk, Job.Obeys, known]
      refine andThen ?_ (fun _ => stamping _) session holds
      unfold replaceFile makeDirectoriesAbove
      refine andThen ?_ fun _ => andThen (keeps_onDisk files _ _) fun _ =>
        andThen (keeps_onDisk files _ _) fun _ => andThen (keeps_onDisk files _ _) fun _ =>
          keeps_onDisk files _ _
      split
      · exact keeps_onDisk files _ _
      · exact keeps_done trivial

/-! ### Saves that nobody interrupts -/

omit [FileSystem δ] in
theorem silent_onDisk {α : Type} (whole : FilingOn δ α) (part : Nat → FilingOn δ Unit) :
    (onDisk whole part).run.Silent :=
  silent_await _

omit [FileSystem δ] in
theorem silent_andThen {α β : Type} {operation : OperationOn δ α} {next : α → OperationOn δ β}
    (first : operation.run.Silent) (later : ∀ value, (next value).run.Silent) :
    (operation >>= next).run.Silent := by
  rw [run_bind]
  refine first.bind fun result => ?_
  cases result with
  | error failure => trivial
  | ok value => exact later value

theorem silent_save : (save.run : Job (Session δ) (Except Failure Unit)).Silent := by
  intro session
  dsimp only
  cases session.store.toolchainVersion with
  | none => trivial
  | some version =>
      refine silent_andThen ?_ fun _ (_ : Session δ) => trivial
      unfold replaceFile makeDirectoriesAbove
      refine silent_andThen ?_ fun _ => silent_andThen (silent_onDisk _ _) fun _ =>
        silent_andThen (silent_onDisk _ _) fun _ => silent_andThen (silent_onDisk _ _) fun _ =>
          silent_onDisk _ _
      split
      · exact silent_onDisk _ _
      · trivial

end Operation

namespace Session

variable {δ : Type} [FileSystem δ] (session : Session δ)

def save : Except Failure Unit × Session δ :=
  Operation.save.run.evaluate (fun _ => .error .toolchainUnknown) session

theorem run_save (responder : Responder) (now : Running (Session δ)) :
    Operation.save.run.run responder now =
      (now.state.save.1, { now with state := now.state.save.2 }) :=
  Operation.silent_save.run_eq _ responder now

theorem evaluate_save (answer : Request → Answer) :
    Operation.save.run.evaluate answer session = session.save := by
  have one := Operation.silent_save.run_eq answer (fun _ => answer) ⟨session, []⟩
  rw [run_save, Prod.mk.injEq, Running.mk.injEq] at one
  exact Prod.ext one.1.symm one.2.1.symm

/-- A save that nobody interrupts comes to what is known of the steps. -/
theorem saved_save {version : String} {troubled : Prop}
    (known : session.store.toolchainVersion = some version)
    (stages : Stages δ session.store.cachePath
      (Snapshot.capture session.store.index version session.now).text.toUTF8 troubled)
    (trouble : session.troubles ≠ [] → troubled) (start : stages.starting session.disk) :
    session.Saved stages (Snapshot.capture session.store.index version session.now).timestamp
      session.save.1 session.save.2 := by
  have obeys : Operation.save.run.Obeys .calls (fun _ => True) (fun _ _ => True)
      (session.Saved stages (Snapshot.capture session.store.index version session.now).timestamp)
      session :=
    Operation.obeys_save known stages trouble start (fun _ _ => trivial) fun _ _ =>
      ⟨trivial, trivial⟩
  have ended := (obeys.run (fun _ _ => .error .toolchainUnknown) ⟨session, []⟩ trivial).1
  rwa [run_save] at ended

theorem save_unknown (unknown : session.store.toolchainVersion = none) :
    session.save = (.error .toolchainUnknown, session) := by
  simp only [save, Operation.save, Operation.run_mk, evaluate, unknown]

/-- Saving changes nothing in the store but the time of the snapshot. -/
theorem save_store : ∃ lastSaved, session.save.2.store = { session.store with lastSaved } := by
  have keeps : Operation.save.run.Keeps .calls
      (fun after : Session δ => ∃ lastSaved, after.store = { session.store with lastSaved })
      (fun _ _ => True) Any := by
    refine Operation.keeps_save (fun _ _ _ holds => ⟨trivial, holds⟩) fun after time holds => ?_
    obtain ⟨lastSaved, same⟩ := holds
    exact ⟨trivial, some time, by rw [stamped, mapStore, same]⟩
  have start : ∃ lastSaved, session.store = { session.store with lastSaved } := ⟨_, rfl⟩
  have ended := ((keeps session start).run (fun _ _ => .error .toolchainUnknown) ⟨session, []⟩
    start).1.2
  rwa [run_save] at ended

end Session

end SymbolCache
