import Mathlib.Logic.Relation
import SymbolCache.Proofs.Disk.Filing
import SymbolCache.Proofs.Disk.Replacement
import SymbolCache.Proofs.Text.Parts

/-!
# Changes beside a file

Writing a file changes nothing else. The temporary file of a path is another file than the one at
the path, so what is done to it leaves the other one as it was, if there was one, and so do
directories that are made where nothing was.
-/

set_option autoImplicit false

namespace SymbolCache

/-! ## The file beside a file -/

namespace Path

/-- A path and the one beside it have the same elements up to the last one. -/
theorem split_temporary (path : String) :
    ∃ leading last, Text.split '/' path.toList = leading ++ [last] ∧
      Text.split '/' (temporary path).toList = leading ++ [last ++ ['.', 't', 'm', 'p']] := by
  obtain ⟨leading, last, split⟩ := Text.exists_split_append '/' path.toList
  refine ⟨leading, last, ?_, ?_⟩
  · simpa using split [] List.not_mem_nil
  · rw [temporary, String.toList_append]
    exact split ".tmp".toList (by decide)

private theorem isAbsolute_temporary (path : String) :
    isAbsolute (temporary path) = isAbsolute path := by
  rw [isAbsolute, isAbsolute, temporary, String.toList_append]
  cases path.toList with
  | nil => rfl
  | cons character characters => rfl

end Path

namespace Disk

def place (disk : Disk) (path : String) : Location :=
  (names path).foldl step (if Path.isAbsolute path then [] else disk.workingDirectory)

private theorem eq_foldl_of_follow {disk : Disk} {names : List String} {start goal : Location}
    (found : disk.follow start names = .ok goal) : goal = names.foldl step start := by
  induction names generalizing start with
  | nil => exact (Except.ok.inj found).symm
  | cons name names ih =>
      cases names with
      | nil =>
          rw [follow] at found
          split at found
          · cases found
          · exact (Except.ok.inj found).symm
      | cons next names =>
          rw [follow] at found
          split at found
          case isTrue => cases found
          case isFalse =>
            split at found
            · exact ih found
            · cases found
            · cases found

theorem eq_place_of_locate {disk : Disk} {path : String} {location : Location}
    (found : disk.locate path = .ok location) : location = disk.place path := by
  unfold locate at found
  split at found
  case isTrue => cases found
  case isFalse =>
    split at found
    case isTrue => cases found
    case isFalse =>
      split at found
      case isTrue => cases found
      case isFalse => exact eq_foldl_of_follow found

private theorem length_step_le_or (location : Location) (name : String) :
    (step location name).length ≤ location.length ∨ step location name = location ++ [name] := by
  unfold step
  split
  case isTrue => exact .inl (Nat.le_refl _)
  case isFalse =>
    split
    case isTrue => exact .inl (by simp)
    case isFalse => exact .inr rfl

/-- A name with the ending of a temporary file leads neither up nor nowhere. -/
theorem step_temporary (location : Location) (last : List Char) :
    step location (String.ofList (last ++ ['.', 't', 'm', 'p'])) =
      location ++ [String.ofList (last ++ ['.', 't', 'm', 'p'])] := by
  have distinct : ∀ other, other.length < 4 →
      String.ofList (last ++ ['.', 't', 'm', 'p']) ≠ String.ofList other := by
    intro other short same
    have lengths := congrArg List.length (String.ofList_injective same)
    simp at lengths
    omega
  rw [step, if_neg (distinct ['.'] (by decide)), if_neg (distinct ['.', '.'] (by decide))]

/-- The file beside a file is not that file. -/
theorem place_temporary (disk : Disk) (path : String) :
    disk.place (Path.temporary path) ≠ disk.place path := by
  obtain ⟨leading, last, split, splitTemporary⟩ := Path.split_temporary path
  rw [place, place, names, names, Path.isAbsolute_temporary, split, splitTemporary]
  generalize (if Path.isAbsolute path then [] else disk.workingDirectory) = start
  simp only [List.filter_append, List.map_append, List.foldl_append]
  generalize List.foldl step start _ = above
  have filled : (last ++ ['.', 't', 'm', 'p']).isEmpty = false := by simp
  simp only [List.filter_cons, filled, Bool.not_false, if_true, List.filter_nil, List.map_cons,
    List.map_nil, List.foldl_cons, List.foldl_nil, step_temporary]
  split
  case isTrue =>
    intro same
    change _ = step above (String.ofList last) at same
    rcases length_step_le_or above (String.ofList last) with shorter | longer
    · rw [← same, List.length_append, List.length_singleton] at shorter
      exact Nat.not_succ_le_self _ shorter
    · simp [longer] at same
  case isFalse => simp

/-! ## Changes beside a file -/

structure Spares (path : String) (before after : Disk) : Prop where
  directories : before.KeepsDirectories after
  file : ∀ content, after.node? (before.place path) = some (.file content) ↔
    before.node? (before.place path) = some (.file content)

variable {path : String} {before after : Disk}

theorem Spares.refl (path : String) (disk : Disk) : disk.Spares path disk where
  directories := ⟨rfl, fun _ => id⟩
  file _ := .rfl

theorem KeepsDirectories.place (keeps : before.KeepsDirectories after) (path : String) :
    after.place path = before.place path := by
  rw [Disk.place, Disk.place, keeps.workingDirectory]

theorem Spares.trans {third : Disk} (left : before.Spares path after)
    (right : after.Spares path third) : before.Spares path third where
  directories := left.directories.trans right.directories
  file content := by
    rw [← left.file, ← left.directories.place path]
    exact right.file content

/-- A file that is read before is read after, with the same content. -/
theorem Spares.find (spares : before.Spares path after) {content : ByteArray}
    (found : before.find path = .ok (.file content)) :
    after.find path = .ok (.file content) := by
  obtain ⟨location, place, there, slash⟩ := find_eq_file_iff.mp found
  obtain rfl := eq_place_of_locate place
  exact find_eq_file_iff.mpr
    ⟨_, spares.directories.locate place, (spares.file content).mpr there, slash⟩

/-- A directory that is made where nothing was is in the way of no file. -/
theorem spares_put_directory {location : Location} (free : before.node? location = none) :
    before.Spares path (before.put location .directory) where
  directories := keepsDirectories_put .directory (by simp [free])
  file content := by
    by_cases root : before.place path = []
    · simp [root, node?]
    · rw [node?_put _ _ _ _ root]
      split
      case isTrue here => simp [← here, free]
      case isFalse => rfl

/-! ### Directories that are made -/

abbrev MakesDirectories : Disk → Disk → Prop :=
  Relation.ReflTransGen fun before after =>
    ∃ location, before.node? location = none ∧ after = before.put location .directory

theorem MakesDirectories.spares (makes : before.MakesDirectories after) :
    before.Spares path after := by
  induction makes with
  | refl => exact .refl path before
  | tail _ made ih =>
      obtain ⟨location, free, rfl⟩ := made
      exact ih.trans (spares_put_directory free)

theorem MakesDirectories.keepsDirectories (makes : before.MakesDirectories after) :
    before.KeepsDirectories after := by
  have spares : before.Spares "" after := makes.spares
  exact spares.directories

theorem MakesDirectories.node?_eq_or (makes : before.MakesDirectories after)
    (location : Location) :
    after.node? location = before.node? location ∨
      before.node? location = none ∧ after.node? location = some .directory := by
  induction makes with
  | refl => exact .inl rfl
  | tail _ made ih =>
      obtain ⟨place, free, rfl⟩ := made
      exact node?_put_directory free ih

private theorem makesDirectories_makeDirectory {other : String}
    (made : before.makeDirectory other = .ok after) : before.MakesDirectories after := by
  unfold makeDirectory at made
  cases place : before.locate other with
  | error error => simp [place, bind, Except.bind] at made
  | ok location =>
      cases there : before.node? location with
      | some node =>
          simp [place, there, bind, Except.bind, throw, throwThe, MonadExceptOf.throw] at made
      | none =>
          simp only [place, there, bind, Except.bind, pure, Except.pure, Except.ok.injEq] at made
          exact .single ⟨location, there, made.symm⟩

/-! ### Files that are written -/

structure Writes (path : String) (content : ByteArray) (before after : Disk) : Prop where
  directories : before.KeepsDirectories after
  found : after.find path = .ok (.file content)
  others : ∀ location, location ≠ before.place path →
    after.node? location = before.node? location

theorem Writes.of_find {content : ByteArray} (found : before.find path = .ok (.file content)) :
    before.Writes path content before where
  directories := ⟨rfl, fun _ => id⟩
  found := found
  others _ _ := rfl

theorem Writes.trans {third : Disk} {content content' : ByteArray}
    (first : before.Writes path content after) (second : after.Writes path content' third) :
    before.Writes path content' third where
  directories := first.directories.trans second.directories
  found := second.found
  others location apart := by
    rw [second.others location (by rwa [first.directories.place]), first.others location apart]

theorem Writes.spares {other : String} {content : ByteArray}
    (writes : before.Writes other content after) (apart : before.place path ≠ before.place other) :
    before.Spares path after where
  directories := writes.directories
  file bytes := by rw [writes.others _ apart]

theorem writes_put {location : Location} (located : before.locate path = .ok location)
    (other : before.node? location ≠ some .directory) (slash : Path.endsInSlash path = false)
    (content : ByteArray) :
    before.Writes path content (before.put location (.file content)) where
  directories := keepsDirectories_put _ other
  found := find_eq_file_iff.mpr
      ⟨_, (keepsDirectories_put _ other).locate located, node?_put_self _ other, slash⟩
  others other apart := by
    rw [← eq_place_of_locate located] at apart
    rw [node?_put_of_ne _ apart]

theorem writes_createFile (made : before.createFile path = .ok after) :
    before.Writes path .empty after := by
  obtain ⟨_, located, free, slash, rfl⟩ := createFile_ok made
  exact writes_put located free slash .empty

/-- A file can be made wherever a path leads, unless a directory is there. -/
theorem exists_createFile {location : Location} (located : before.locate path = .ok location)
    (free : before.node? location ≠ some .directory) (slash : Path.endsInSlash path = false) :
    ∃ after, before.createFile path = .ok after := by
  refine ⟨before.put location (.file .empty), ?_⟩
  cases there : before.node? location with
  | none => simp [createFile, located, there, slash, bind, Except.bind, pure, Except.pure]
  | some node =>
      cases node with
      | directory => exact absurd there free
      | file content =>
          simp [createFile, located, there, slash, bind, Except.bind, pure, Except.pure]

private theorem writes_setContent {content : ByteArray}
    (changed : before.setContent path content = .ok after) : before.Writes path content after := by
  obtain ⟨_, _, located, there, slash, rfl⟩ := setContent_ok changed
  exact writes_put located (by simp [there]) slash content

/-- A file that is there can be written. -/
theorem exists_setContent {bytes : ByteArray} (found : before.find path = .ok (.file bytes))
    (content : ByteArray) : ∃ after, before.setContent path content = .ok after := by
  obtain ⟨location, located, -, -⟩ := find_eq_file_iff.mp found
  refine ⟨before.put location (.file content), ?_⟩
  simp [setContent, located, found, bind, Except.bind, pure, Except.pure]

theorem exists_append {bytes : ByteArray} (found : before.find path = .ok (.file bytes))
    (added : ByteArray) :
    ∃ after, before.append path added = .ok after ∧ before.Writes path (bytes ++ added) after := by
  obtain ⟨after, changed⟩ := exists_setContent found (bytes ++ added)
  refine ⟨after, ?_, writes_setContent changed⟩
  rw [append, found]
  exact changed

end Disk

namespace Filing

open FilingOn (run_bind run_get_bind run_tryCatch)

variable {α β : Type} {path : String}

theorem run_change (changes : Disk → Except FileError Disk) (before : Disk) :
    (change changes).run.run before =
      match changes before with
      | .ok after => (.ok (), after)
      | .error error => (.error error, before) := by
  rw [change, run_get_bind]
  cases changes before <;> rfl

theorem brings_change {changes : Disk → Except FileError Disk} {before done failed : Disk → Prop}
    (succeeds : ∀ disk after, before disk → changes disk = .ok after → done after)
    (fails : ∀ disk, before disk → failed disk) :
    FilingOn.Brings before (change changes) (fun _ => done) failed := by
  intro disk holds
  rw [run_change]
  cases changed : changes disk with
  | error error => exact fails disk holds
  | ok after => exact succeeds disk after holds changed

theorem run_read (reads : Disk → Except FileError α) (before : Disk) :
    (read reads).run.run before = (reads before, before) := by
  rw [read, run_get_bind]
  cases reads before <;> rfl

/-! ### Writing a file -/

/-- A file is written if it can be made; otherwise nothing changes. -/
theorem run_writeFile (path : String) (content : ByteArray) (before : Disk) :
    (∃ error, before.createFile path = .error error ∧
      (writeFile path content).run.run before = (.error error, before)) ∨
      ∃ after, (writeFile path content).run.run before = (.ok (), after) ∧
        before.Writes path content after := by
  rw [writeFile, run_bind, run_change]
  cases made : before.createFile path with
  | error error => exact .inl ⟨error, rfl, rfl⟩
  | ok between =>
      have empties := Disk.writes_createFile made
      obtain ⟨after, changed⟩ := Disk.exists_setContent empties.found content
      refine .inr ⟨after, ?_, empties.trans (Disk.writes_setContent changed)⟩
      dsimp only
      rw [run_change, changed]

/-! ### Directories -/

def Makes (filing : Filing α) : Prop :=
  ∀ before : Disk, before.MakesDirectories (filing.run.run before).2

private theorem makes_bind {first : Filing α} {next : α → Filing β} (one : Makes first)
    (other : ∀ value, Makes (next value)) : Makes (first >>= next) := by
  intro before
  have made := one before
  rw [run_bind]
  generalize first.run.run before = result at made ⊢
  obtain ⟨error | value, between⟩ := result
  · exact made
  · exact made.trans (other value between)

private theorem makes_tryCatch {first : Filing α} {handler : FileError → Filing α}
    (one : Makes first) (other : ∀ error, Makes (handler error)) :
    Makes (tryCatch first handler) := by
  intro before
  have made := one before
  rw [run_tryCatch]
  generalize first.run.run before = result at made ⊢
  obtain ⟨error | value, between⟩ := result
  · exact made.trans (other error between)
  · exact made

theorem makes_pure (value : α) : Makes (pure value : Filing α) :=
  fun _ => .refl

private theorem makes_throw (error : FileError) : Makes (throw error : Filing α) :=
  fun _ => .refl

private theorem makes_read (reads : Disk → Except FileError α) : Makes (read reads) := by
  intro before
  rw [run_read]

private theorem makes_makeDirectory (other : String) : Makes (makeDirectory other) := by
  intro before
  rw [makeDirectory, run_get_bind]
  split
  case h_1 disk made =>
    have located : Makes (read fun disk => disk.locate other) := makes_read _
    exact (Disk.makesDirectories_makeDirectory made).trans (located disk)
  case h_2 =>
    split
    case isTrue => exact makes_read _ before
    case isFalse => exact .refl
  case h_3 => exact .refl

private theorem makes_makeDirectoryIn (location : Location) (name : String) :
    Makes (makeDirectoryIn location name) := by
  rw [makeDirectoryIn]
  split
  case isTrue => exact makes_throw _
  case isFalse =>
    intro before
    rw [run_get_bind]
    split
    case h_1 => exact .refl
    case h_2 => exact .refl
    case h_3 free => exact .single ⟨_, free, rfl⟩

private theorem makes_makeDirectoriesFrom (first : List Char) (elements : List (List Char)) :
    Makes (makeDirectoriesFrom first elements) := by
  induction elements with
  | nil =>
      rw [makeDirectoriesFrom]
      split
      case isTrue => exact makes_pure []
      case isFalse => exact makes_makeDirectory _
  | cons last above ih =>
      rw [makeDirectoriesFrom]
      split
      case isTrue => exact ih
      case isFalse =>
        refine makes_tryCatch (makes_makeDirectory _) fun error => ?_
        split
        case isTrue => exact makes_bind ih fun location => makes_makeDirectoryIn location _
        case isFalse => exact makes_throw error

theorem makes_makeDirectories (other : String) : Makes (makeDirectories other) := by
  unfold makeDirectories
  split
  case h_1 => exact makes_pure ()
  case h_2 =>
    split
    case isTrue => exact makes_pure ()
    case isFalse =>
      exact makes_bind (makes_makeDirectoriesFrom _ _) fun _ => makes_pure ()

theorem brings_makeDirectories {origin : Disk} (other : String) :
    FilingOn.Brings (origin.Spares path) (makeDirectories other) (fun _ => origin.Spares path)
      (origin.Spares path) :=
  FilingOn.brings_of_forall fun disk spares =>
    spares.trans (makes_makeDirectories other disk).spares

end Filing

end SymbolCache
