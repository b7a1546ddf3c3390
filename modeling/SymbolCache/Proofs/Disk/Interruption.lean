import SymbolCache.Proofs.Disk.Ways

/-!
# Replacements that are interrupted

The content of a file is replaced at once: directories above it are made, a temporary file beside it
is made, written and flushed, and then takes its place. Wherever this stops, between two steps or in
the midst of one, the file is as it was, unless the temporary file has taken its place; then it has
the new content as a whole.
-/

set_option autoImplicit false

namespace SymbolCache

namespace Disk

variable {path : String} {content : ByteArray} {before disk after : Disk}

/-! ## Files that are open -/

private theorem spares_opened (path : String) (disk : Disk) (opened : List (Option Location)) :
    disk.Spares path { disk with opened } where
  directories := ⟨rfl, fun _ => id⟩
  file _ := .rfl

/-- A file that is opened is empty, and is known by a number from then on. -/
theorem openFile_ok {file : Nat} (made : disk.openFile path = .ok (file, after)) :
    disk.Writes path .empty after ∧ after.opened[file]?.join = some (disk.place path) := by
  unfold openFile at made
  cases creates : disk.createFile path with
  | error error => simp [creates, bind, Except.bind] at made
  | ok created =>
      cases located : disk.locate path with
      | error error => simp [creates, located, bind, Except.bind] at made
      | ok location =>
          simp only [creates, located, bind, Except.bind, pure, Except.pure, Except.ok.injEq,
            Prod.mk.injEq] at made
          obtain ⟨rfl, rfl⟩ := made
          obtain rfl := eq_place_of_locate located
          have writes := writes_createFile creates
          have alike := spares_opened path created (disk.opened ++ [some (disk.place path)])
          refine ⟨⟨writes.directories.trans alike.directories, alike.find writes.found,
            writes.others⟩, ?_⟩
          simp

theorem overwrite_empty (content : ByteArray) : overwrite .empty content = content := by
  rw [overwrite, ByteArray.extract_eq_empty_iff.mpr (by simp), ByteArray.append_empty]

/-- An empty file that is written by its number has what was written. -/
theorem writes_writeOpened {file : Nat} (there : disk.opened[file]?.join = some (disk.place path))
    (empty : disk.find path = .ok (.file .empty)) (content : ByteArray) :
    disk.Writes path content (disk.writeOpened file content) := by
  obtain ⟨location, located, node, slash⟩ := find_eq_file_iff.mp empty
  obtain rfl := eq_place_of_locate located
  simp only [writeOpened, there, node, overwrite_empty]
  exact writes_put located (by simp [node]) slash content

theorem move_ok {source target : String} (moved : disk.move source target = .ok after) :
    ∃ renamed opened, disk.rename source target = .ok renamed ∧
      after = { renamed with opened } := by
  unfold move at moved
  cases located : disk.locate source with
  | error error => simp [located, bind, Except.bind] at moved
  | ok origin =>
      cases located' : disk.locate target with
      | error error => simp [located, located', bind, Except.bind] at moved
      | ok goal =>
          cases renames : disk.rename source target with
          | error error => simp [located, located', renames, bind, Except.bind] at moved
          | ok renamed =>
              simp only [located, located', renames, bind, Except.bind, pure, Except.pure,
                Except.ok.injEq] at moved
              exact ⟨renamed, _, rfl, moved.symm⟩

private theorem find_of_move {source target : String}
    (found : disk.find source = .ok (.file content)) (moved : disk.move source target = .ok after) :
    after.find target = .ok (.file content) := by
  obtain ⟨renamed, opened, renames, rfl⟩ := move_ok moved
  exact (spares_opened target renamed opened).find (find_of_rename found renames)

end Disk

/-! ## Wherever it stops -/

open Disk (place_temporary)

def Stages.sparing (path : String) (content : ByteArray) (before : Disk) :
    Stages Disk path content True where
  starting := before.Spares path
  made := before.Spares path
  created file disk := before.Spares path disk ∧
    disk.opened[file]?.join = some (disk.place (Path.temporary path)) ∧
      disk.find (Path.temporary path) = .ok (.file .empty)
  written disk := before.Spares path disk ∧ disk.find (Path.temporary path) = .ok (.file content)
  moved disk := disk.find path = .ok (.file content)
  unmoved := before.Spares path
  settled _ _ := id
  makes parent _ := Filing.brings_makeDirectories parent
  creates := FilingOn.brings_attempt
    (fun disk file after spares made => by
      obtain ⟨writes, there⟩ := Disk.openFile_ok made
      refine ⟨spares.trans (writes.spares (disk.place_temporary path).symm), ?_, writes.found⟩
      rw [there, writes.directories.place])
    fun _ => id
  writes file := FilingOn.brings_modify fun disk ⟨spares, there, empty⟩ => by
    have writes := Disk.writes_writeOpened there empty content
    exact ⟨spares.trans (writes.spares (disk.place_temporary path).symm), writes.found⟩
  moves := Filing.brings_change (fun _ _ ⟨_, written⟩ => Disk.find_of_move written)
    fun _ => And.left
  makesPart _ _ _ _ := Filing.brings_makeDirectories _
  writesPart _ file count := FilingOn.brings_modify fun disk ⟨spares, there, empty⟩ =>
    spares.trans ((Disk.writes_writeOpened there empty _).spares (disk.place_temporary path).symm)
  unmoved_of_made _ := id
  unmoved_of_created _ _ := And.left
  unmoved_of_written _ := And.left

end SymbolCache
