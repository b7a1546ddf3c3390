import Mathlib.Tactic.Common
import SymbolCache.Disk.Basic

/-!
# Sequences of changes

What a sequence of changes to a file system comes to, by what its parts come to. A part that fails
ends the sequence, but what was changed before stays changed.
-/

set_option autoImplicit false

namespace SymbolCache

namespace FilingOn

variable {δ α β : Type}

theorem run_bind (first : FilingOn δ α) (next : α → FilingOn δ β) (before : δ) :
    (first >>= next).run.run before =
      match first.run.run before with
      | (.ok value, between) => (next value).run.run between
      | (.error error, between) => (.error error, between) := by
  rw [ExceptT.run_bind, StateT.run_bind]
  generalize first.run.run before = result
  obtain ⟨error | value, between⟩ := result
  · rfl
  · rfl

theorem run_get_bind (next : δ → FilingOn δ α) (before : δ) :
    (get >>= next).run.run before = (next before).run.run before := by
  rw [run_bind]
  rfl

theorem run_tryCatch (first : FilingOn δ α) (handler : FileError → FilingOn δ α) (before : δ) :
    (tryCatch first handler).run.run before =
      match first.run.run before with
      | (.ok value, between) => (.ok value, between)
      | (.error error, between) => (handler error).run.run between := by
  rw [ExceptT.run_tryCatch]
  rw [StateT.run_bind]
  generalize first.run.run before = result
  obtain ⟨error | value, between⟩ := result
  · rfl
  · rfl

theorem run_attempt (change : δ → Except FileError (α × δ)) (before : δ) :
    (attempt change).run.run before =
      match change before with
      | .ok (value, after) => (.ok value, after)
      | .error error => (.error error, before) := by
  rw [attempt, run_get_bind]
  cases change before <;> rfl

/-! ## Conditions before and after -/

/-- In a file system that satisfies a condition, a sequence of changes gives a value and a file
system that satisfy another one, or it fails and the file system satisfies a third one. -/
def Brings (before : δ → Prop) (filing : FilingOn δ α) (done : α → δ → Prop) (failed : δ → Prop) :
    Prop :=
  ∀ system, before system →
    match filing.run.run system with
    | (.ok value, after) => done value after
    | (.error _, after) => failed after

variable {before failed : δ → Prop} {done : α → δ → Prop} {filing : FilingOn δ α}

theorem Brings.mono {before' failed' : δ → Prop} {done' : α → δ → Prop}
    (brings : Brings before filing done failed)
    (stronger : ∀ system, before' system → before system)
    (succeeds : ∀ value system, done value system → done' value system)
    (fails : ∀ system, failed system → failed' system) : Brings before' filing done' failed' := by
  intro system holds
  have outcome := brings system (stronger system holds)
  generalize filing.run.run system = result at outcome ⊢
  obtain ⟨error | value, after⟩ := result
  · exact fails after outcome
  · exact succeeds value after outcome

/-- What holds after a sequence of changes whether it fails or not. -/
theorem brings_of_forall {holds : δ → Prop}
    (all : ∀ system, before system → holds (filing.run.run system).2) :
    Brings before filing (fun _ => holds) holds := by
  intro system start
  have after := all system start
  generalize filing.run.run system = result at after ⊢
  obtain ⟨error | value, system⟩ := result
  · exact after
  · exact after

theorem brings_attempt {change : δ → Except FileError (α × δ)}
    (succeeds : ∀ system value after, before system → change system = .ok (value, after) →
      done value after)
    (fails : ∀ system, before system → failed system) :
    Brings before (attempt change) done failed := by
  intro system holds
  rw [run_attempt]
  cases changed : change system with
  | error error => exact fails system holds
  | ok result => exact succeeds system _ _ holds changed

theorem brings_modify {change : δ → δ} {done : δ → Prop}
    (holds : ∀ system, before system → done (change system)) :
    Brings before (modify change) (fun _ => done) failed :=
  holds

end FilingOn

/-! ## Replacing a file -/

/-- What is known of a file system from step to step while the file at a path is replaced: before
the directories above it are made and after, when the temporary file is there and when it is
written, and when it has been moved. Until then, wherever it stops, the file at the path is left
alone. If there may be trouble, directories may be made or content may be written in part. -/
structure Stages (δ : Type) [FileSystem δ] (path : String) (content : ByteArray)
    (troubled : Prop) where
  starting : δ → Prop
  made : δ → Prop
  created : Nat → δ → Prop
  written : δ → Prop
  moved : δ → Prop
  unmoved : δ → Prop
  settled : Path.parent? path = none → ∀ system, starting system → made system
  makes : ∀ parent, Path.parent? path = some parent →
    (FileSystem.makeDirectories parent).Brings starting (fun _ => made) unmoved
  creates : (FileSystem.create (Path.temporary path)).Brings made created unmoved
  writes : ∀ file, (FileSystem.write file content).Brings (created file) (fun _ => written) unmoved
  moves : (FileSystem.move (Path.temporary path) path).Brings written (fun _ => moved) unmoved
  makesPart : troubled → ∀ parent, Path.parent? path = some parent → ∀ levels,
    (FileSystem.makeDirectories (Path.above levels parent)).Brings starting (fun _ => unmoved)
      unmoved
  writesPart : troubled → ∀ file count,
    (FileSystem.write file (content.extract 0 count)).Brings (created file) (fun _ => unmoved)
      unmoved
  unmoved_of_made : ∀ system, made system → unmoved system
  unmoved_of_created : ∀ file system, created file system → unmoved system
  unmoved_of_written : ∀ system, written system → unmoved system

end SymbolCache
