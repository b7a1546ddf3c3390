import SymbolCache.Proofs.Disk.Interruption
import SymbolCache.Proofs.Disk.Paths

/-!
# What a replacement touches

Replacing the content of a file in a directory below one that is there makes that directory if need
be, and touches nothing else but the file and the temporary one beside it, whether or not it
succeeds.
-/

set_option autoImplicit false

namespace SymbolCache

variable {base name file : String}

/-! ## The elements of a path -/

namespace Path

private theorem exists_split_join (base : String) (plain : IsPlain name) :
    ∃ leading, Text.split '/' (join base name).toList = leading ++ [name.toList] := by
  rcases join_cases base plain with ⟨_, joined⟩ | ⟨before, _, joined⟩ | ⟨_, joined⟩
  · exact ⟨[], by rw [joined, Text.split_of_not_mem plain.no_slash, List.nil_append]⟩
  · exact ⟨Text.split '/' before, by
      rw [joined, Text.split_append, Text.split_of_not_mem plain.no_slash]⟩
  · exact ⟨Text.split '/' base.toList, by
      rw [joined, Text.split_append, Text.split_of_not_mem plain.no_slash]⟩

theorem isVoid_of_plain (plain : IsPlain name) : isVoid name.toList = false := by
  have filled : name.toList ≠ [] := fun empty => plain.filled (String.toList_eq_nil_iff.mp empty)
  have notHere : name.toList ≠ ['.'] := fun here =>
    plain.not_here (String.toList_injective here)
  simp [isVoid, filled, notHere]

theorem join_ne_empty (base : String) (plain : IsPlain name) : join base name ≠ "" := by
  intro empty
  have names := Disk.names_join base plain
  rw [empty] at names
  exact List.cons_ne_nil _ _ (List.append_eq_nil_iff.mp names.symm).2

private theorem toList_join_join (base : String) (plain : IsPlain name) (other : IsPlain file) :
    (join (join base name) file).toList = (join base name).toList ++ '/' :: file.toList := by
  rcases join_cases (join base name) other with ⟨empty, _⟩ | ⟨before, parts, _⟩ | ⟨_, joined⟩
  · exact absurd empty (join_ne_empty base plain)
  · have slash := endsInSlash_join base plain
    rw [endsInSlash, parts, List.getLast?_concat] at slash
    exact absurd slash (by decide)
  · exact joined

private theorem parent?_join (base : String) (plain : IsPlain name) (other : IsPlain file) :
    parent? (join (join base name) file) = some (join base name) := by
  obtain ⟨leading, split⟩ := exists_split_join base plain
  have whole : Text.split '/' (join (join base name) file).toList =
      leading ++ [name.toList] ++ [file.toList] := by
    rw [toList_join_join base plain other, Text.split_append, split,
      Text.split_of_not_mem other.no_slash]
  have named := isVoid_of_plain plain
  have filed := isVoid_of_plain other
  have filled := join_ne_empty base plain
  rw [parent?, whole]
  cases leading with
  | nil =>
      have path : ofReversed name.toList [] = join base name := ofReversed_split split filled
      have letters : name.toList ≠ [] := fun empty =>
        plain.filled (String.toList_eq_nil_iff.mp empty)
      obtain ⟨first, rest, parts⟩ := List.exists_cons_of_ne_nil letters
      rw [parts] at path ⊢
      simpa [filed] using path
  | cons first leading =>
      have path : ofReversed first (leading ++ [name.toList]).reverse = join base name :=
        ofReversed_split split filled
      simpa [filed, named] using path

/-- The temporary file lies beside its file. -/
theorem temporary_join (base : String) (plain : IsPlain name) :
    temporary (join base name) = join base (name ++ ".tmp") := by
  have relative := isAbsolute_of_plain plain
  have filled : name.toList ≠ [] := fun empty => plain.filled (String.toList_eq_nil_iff.mp empty)
  have relative' : isAbsolute (name ++ ".tmp") = false := by
    obtain ⟨first, rest, parts⟩ := List.exists_cons_of_ne_nil filled
    rw [isAbsolute, parts] at relative
    rw [isAbsolute, String.toList_append, parts]
    exact relative
  rw [temporary, join, join, relative, relative']
  simp only [Bool.false_eq_true, if_false]
  split <;> simp [String.append_assoc]

end Path

/-- A plain name with the ending of a temporary file is plain, too. -/
theorem IsPlain.temporary (plain : IsPlain name) : IsPlain (name ++ ".tmp") where
  filled empty := by
    have lengths := congrArg (List.length ∘ String.toList) empty
    simp at lengths
  no_slash := by
    rw [String.toList_append, List.mem_append, not_or]
    exact ⟨plain.no_slash, by decide⟩
  not_here same := by
    have lengths := congrArg (List.length ∘ String.toList) same
    simp at lengths
  not_up same := by
    have lengths := congrArg (List.length ∘ String.toList) same
    simp at lengths

/-! ## Directories -/

namespace Disk

variable {disk : Disk}

/-- Behind names that lead to directories there is no way only where a name is too long. -/
theorem follow_concat_error {start : Location} {names : List String} {last : String}
    (through : disk.Through start names) {error : FileError}
    (fails : disk.follow start (names ++ [last]) = .error error) : error = .nameTooLong := by
  induction names generalizing start with
  | nil =>
      rw [List.nil_append, follow] at fails
      split at fails
      · exact (Except.error.inj fails).symm
      · cases fails
  | cons name names ih =>
      obtain ⟨next, rest, parts⟩ : ∃ next rest, names ++ [last] = next :: rest :=
        List.exists_cons_of_ne_nil (List.append_ne_nil_of_right_ne_nil names (by simp))
      rw [List.cons_append, parts, follow, through.1] at fails
      split at fails
      · exact (Except.error.inj fails).symm
      · exact ih through.2 (by rwa [parts])

private theorem locate_join_error (enters : disk.Enters base) (plain : IsPlain name)
    {error : FileError}
    (fails : disk.locate (Path.join base name) = .error error) : error ≠ .notFound := by
  have filled : (Path.join base name).isEmpty = false := by
    simpa [String.isEmpty_iff] using Path.join_ne_empty base plain
  unfold locate at fails
  rw [if_neg (by simp [filled])] at fails
  split at fails
  case isTrue => cases fails; decide
  case isFalse =>
    split at fails
    case isTrue => cases fails; decide
    case isFalse =>
      rw [names_join base plain] at fails
      have origins : disk.origin (Path.join base name) = disk.origin base := by
        rw [origin, origin, Path.isAbsolute_join base plain]
      rw [Enters, ← origins] at enters
      rw [follow_concat_error enters fails]
      decide

end Disk

namespace Filing

open Disk (KeepsDirectories)
open FilingOn (run_bind run_get_bind run_tryCatch)

section

variable {before : Disk} {path : String} {location : Location}

private theorem run_makeDirectory_of_error {error : FileError}
    (fails : before.locate path = .error error) :
    (makeDirectory path).run.run before = (.error error, before) := by
  have made : before.makeDirectory path = .error error := by
    rw [Disk.makeDirectory, fails]
    rfl
  have missing : before.isDirectory path = false := by
    rw [Disk.isDirectory, Disk.find, fails]
    rfl
  rw [makeDirectory, run_get_bind, made]
  cases error with
  | alreadyExists =>
      dsimp only
      rw [if_neg (by simp [missing])]
      rfl
  | _ => rfl

theorem run_makeDirectory_of_free (located : before.locate path = .ok location)
    (free : before.node? location = none) :
    (makeDirectory path).run.run before = (.ok location, before.put location .directory) := by
  have made : before.makeDirectory path = .ok (before.put location .directory) := by
    simp [Disk.makeDirectory, located, free, bind, Except.bind, pure, Except.pure]
  have keeps : before.KeepsDirectories (before.put location .directory) :=
    Disk.keepsDirectories_put .directory (by simp [free])
  rw [makeDirectory, run_get_bind, made]
  dsimp only
  rw [run_bind]
  change (read fun disk => disk.locate path).run.run (before.put location .directory) = _
  rw [run_read, keeps.locate located]

private theorem makeDirectory_of_some (located : before.locate path = .ok location) {node : Node}
    (there : before.node? location = some node) :
    before.makeDirectory path = .error .alreadyExists := by
  simp [Disk.makeDirectory, located, there, bind, Except.bind, throw, throwThe,
    MonadExceptOf.throw]

theorem run_makeDirectory_of_directory (located : before.locate path = .ok location)
    (there : before.node? location = some .directory) :
    (makeDirectory path).run.run before = (.ok location, before) := by
  have directory : before.isDirectory path = true := by
    rw [Disk.isDirectory_eq_true_iff, Disk.find_eq_ok_iff]
    exact ⟨location, located, there, nofun⟩
  rw [makeDirectory, run_get_bind, makeDirectory_of_some located there]
  dsimp only
  rw [if_pos directory, run_read, located]

private theorem run_makeDirectory_of_file (located : before.locate path = .ok location)
    {content : ByteArray} (there : before.node? location = some (.file content)) :
    (makeDirectory path).run.run before = (.error .alreadyExists, before) := by
  have other : before.isDirectory path = false := by
    rw [Bool.eq_false_iff]
    intro directory
    obtain ⟨location', located', there', _⟩ :=
      Disk.find_eq_ok_iff.mp (Disk.isDirectory_eq_true_iff.mp directory)
    obtain rfl := Except.ok.inj (located.symm.trans located')
    rw [there] at there'
    cases there'
  rw [makeDirectory, run_get_bind, makeDirectory_of_some located there]
  dsimp only
  rw [if_neg (by simp [other])]
  rfl

end

/-- A directory in one that is there is made without those above it. -/
theorem run_makeDirectoriesFrom_join {before : Disk} (enters : before.Enters base)
    (plain : IsPlain name) {first : List Char} {rest : List (List Char)}
    (split : Text.split '/' (Path.join base name).toList = first :: rest) :
    (makeDirectoriesFrom first rest.reverse).run.run before =
      (makeDirectory (Path.join base name)).run.run before := by
  obtain ⟨leading, split'⟩ := Path.exists_split_join base plain
  have path := Path.ofReversed_split split (Path.join_ne_empty base plain)
  rw [split] at split'
  cases leading with
  | nil =>
      obtain ⟨rfl, rfl⟩ := List.cons.inj split'
      have whole := Path.intercalate_split (Path.join base name).toList
      rw [split, List.intercalate_singleton] at whole
      have letters : ¬ name.toList.isEmpty = true := by simpa using plain.filled
      rw [List.reverse_nil, makeDirectoriesFrom, if_neg letters, whole, String.ofList_toList]
  | cons head leading =>
      rw [List.cons_append] at split'
      obtain ⟨rfl, rfl⟩ := List.cons.inj split'
      have solid : ¬ Path.isVoid name.toList = true := by simp [Path.isVoid_of_plain plain]
      rw [List.reverse_append, List.reverse_singleton, List.singleton_append] at path ⊢
      rw [makeDirectoriesFrom, if_neg solid, path, run_tryCatch]
      cases located : before.locate (Path.join base name) with
      | error error =>
          have other := Disk.locate_join_error enters plain located
          rw [run_makeDirectory_of_error located]
          dsimp only
          rw [if_neg other]
          rfl
      | ok location =>
          cases there : before.node? location with
          | none =>
              rw [run_makeDirectory_of_free located there]
          | some node =>
              cases node with
              | directory => rw [run_makeDirectory_of_directory located there]
              | file content =>
                  rw [run_makeDirectory_of_file located there]
                  rfl

private theorem run_makeDirectories_join {before : Disk} (enters : before.Enters base)
    (plain : IsPlain name) :
    (makeDirectories (Path.join base name)).run.run before =
      ((makeDirectory (Path.join base name)).run.run before).map (Except.map fun _ => ()) id := by
  have filled : ¬ (Path.join base name).isEmpty = true := by
    simpa [String.isEmpty_iff] using Path.join_ne_empty base plain
  unfold makeDirectories
  cases split : Text.split '/' (Path.join base name).toList with
  | nil => exact absurd split (Text.splitWhere_ne_nil _ _)
  | cons first rest =>
      dsimp only
      rw [if_neg filled, run_bind, run_makeDirectoriesFrom_join enters plain split]
      generalize (makeDirectory (Path.join base name)).run.run before = result
      obtain ⟨error | location, after⟩ := result
      · rfl
      · rfl

/-- In a directory that is there another one can be made, unless a file is in its place. -/
theorem exists_makeDirectories_join {before : Disk} (enters : before.Enters base)
    (plain : IsPlain name) (path : Disk.IsPath (Path.join base name))
    (noFile : ∀ content, before.node? (before.place base ++ [name]) ≠ some (.file content)) :
    ∃ made, (makeDirectories (Path.join base name)).run.run before = (.ok (), made) ∧
      made.node? (before.place base ++ [name]) = some .directory := by
  have located := (Disk.locate_join plain).mpr ⟨path, enters, rfl⟩
  rw [run_makeDirectories_join enters plain]
  cases there : before.node? (before.place base ++ [name]) with
  | none =>
      rw [run_makeDirectory_of_free located there]
      exact ⟨_, rfl, Disk.node?_put_self _ (by simp [there])⟩
  | some node =>
      cases node with
      | directory =>
          rw [run_makeDirectory_of_directory located there]
          exact ⟨_, rfl, there⟩
      | file content => exact absurd there (noFile content)

end Filing

/-! ## Replacements -/

namespace Disk

/-- Nothing is another thing than before but the things of some names in a directory, and the
directory itself if there was nothing. -/
structure Confined (directory : Location) (names : List String) (before after : Disk) : Prop where
  directories : before.KeepsDirectories after
  others : ∀ location, (∀ name ∈ names, location ≠ directory ++ [name]) →
    after.node? location = before.node? location ∨
      location = directory ∧ before.node? directory = none

variable {directory : Location} {names : List String} {before after : Disk}

theorem Confined.refl (directory : Location) (names : List String) (disk : Disk) :
    disk.Confined directory names disk where
  directories := ⟨rfl, fun _ => id⟩
  others _ _ := .inl rfl

theorem Confined.trans {third : Disk} (left : before.Confined directory names after)
    (right : after.Confined directory names third) : before.Confined directory names third where
  directories := left.directories.trans right.directories
  others location other := by
    rcases right.others location other with same | ⟨rfl, free⟩
    · rw [same]
      exact left.others location other
    · rcases left.others location other with same | made
      · exact .inr ⟨rfl, same ▸ free⟩
      · exact .inr made

private theorem confined_put_directory (names : List String)
    (free : before.node? directory = none) :
    before.Confined directory names (before.put directory .directory) where
  directories := keepsDirectories_put .directory (by simp [free])
  others location _ := by
    by_cases same : location = directory
    · exact .inr ⟨same, free⟩
    · exact .inl (node?_put_of_ne _ same)

private theorem confined_put {name : String} (member : name ∈ names) (node : Node)
    (other : before.node? (directory ++ [name]) ≠ some .directory) :
    before.Confined directory names (before.put (directory ++ [name]) node) where
  directories := keepsDirectories_put node other
  others _ apart := .inl (node?_put_of_ne _ (apart name member))

private theorem confined_remove {name : String} (member : name ∈ names)
    (other : before.node? (directory ++ [name]) ≠ some .directory) :
    before.Confined directory names (before.remove (directory ++ [name])) where
  directories := keepsDirectories_remove other
  others _ apart := .inl (node?_remove_of_ne (apart name member))

/-! ### Changes of files -/

theorem Writes.confined {path name : String} {content : ByteArray}
    (writes : before.Writes path content after) (member : name ∈ names)
    (place : before.place path = directory ++ [name]) : before.Confined directory names after where
  directories := writes.directories
  others _ apart := .inl (writes.others _ (place ▸ apart name member))

private theorem confined_rename {source target : String} {name other : String}
    (member : name ∈ names)
    (member' : other ∈ names) (place : before.place source = directory ++ [name])
    (place' : before.place target = directory ++ [other])
    (moved : before.rename source target = .ok after) :
    before.Confined directory names after := by
  obtain ⟨content, found⟩ := exists_file_of_rename moved
  obtain ⟨_, _, located, there, located', free, _, rfl⟩ := rename_ok found moved
  obtain rfl := eq_place_of_locate located
  obtain rfl := eq_place_of_locate located'
  rw [place] at there ⊢
  rw [place'] at free ⊢
  have notDirectory : before.node? (directory ++ [name]) ≠ some .directory := by simp [there]
  have removed := confined_remove member notDirectory
  exact removed.trans (confined_put member' _ (node?_remove_ne_directory _ free))

end Disk

namespace Filing

variable {names : List String} {before : Disk}

theorem confined_makeDirectories (enters : before.Enters base) (plain : IsPlain name)
    (names : List String) :
    before.Confined (before.place base ++ [name]) names
      ((makeDirectories (Path.join base name)).run.run before).2 := by
  rw [run_makeDirectories_join enters plain]
  cases located : before.locate (Path.join base name) with
  | error error =>
      rw [run_makeDirectory_of_error located]
      exact .refl _ _ before
  | ok location =>
      obtain ⟨_, _, rfl⟩ := (Disk.locate_join plain).mp located
      cases there : before.node? (before.place base ++ [name]) with
      | none =>
          rw [run_makeDirectory_of_free located there]
          exact Disk.confined_put_directory names there
      | some node =>
          cases node with
          | directory =>
              rw [run_makeDirectory_of_directory located there]
              exact .refl _ _ before
          | file content =>
              rw [run_makeDirectory_of_file located there]
              exact .refl _ _ before

end Filing

def Stages.confined {before : Disk} {path : String}
    (lies : path = Path.join (Path.join base name) file) (enters : before.Enters base)
    (plain : IsPlain name) (other : IsPlain file) (content : ByteArray) :
    Stages Disk path content False :=
  let within := before.Confined (before.place base ++ [name]) [file, file ++ ".tmp"]
  have places : ∀ disk, within disk → ∀ last, IsPlain last →
      disk.place (Path.join (Path.join base name) last) =
        before.place base ++ [name] ++ [last] := by
    intro disk confined last isPlain
    rw [Disk.place_join _ _ isPlain, Disk.place_join _ _ plain, confined.directories.place]
  have member : file ++ ".tmp" ∈ [file, file ++ ".tmp"] := by simp
  have beside : Path.temporary path = Path.join (Path.join base name) (file ++ ".tmp") := by
    rw [lies, Path.temporary_join (Path.join base name) other]
  { starting := (· = before)
    made := within
    created number disk := within disk ∧
      disk.opened[number]?.join = some (before.place base ++ [name] ++ [file ++ ".tmp"]) ∧
        disk.find (Path.temporary path) = .ok (.file .empty)
    written := within
    moved := within
    unmoved := within
    settled above _ _ := by simp [lies, Path.parent?_join base plain other] at above
    makes parent above := by
      rw [lies, Path.parent?_join base plain other, Option.some.injEq] at above
      subst above
      refine FilingOn.brings_of_forall fun disk same => ?_
      rw [same]
      exact Filing.confined_makeDirectories enters plain _
    creates := FilingOn.brings_attempt
      (fun disk number after confined made => by
        obtain ⟨writes, there⟩ := Disk.openFile_ok made
        have place := places disk confined _ other.temporary
        rw [beside] at writes there ⊢
        exact ⟨confined.trans (writes.confined member place), by rw [there, place], writes.found⟩)
      fun _ => id
    writes number := FilingOn.brings_modify fun disk ⟨confined, there, empty⟩ => by
      have place := places disk confined _ other.temporary
      rw [← place, ← beside] at there
      rw [← beside] at place
      exact confined.trans ((Disk.writes_writeOpened there empty content).confined member place)
    moves := Filing.brings_change
      (fun disk after confined moved => by
        obtain ⟨renamed, opened, renames, rfl⟩ := Disk.move_ok moved
        rw [beside, lies] at renames
        have inside := Disk.confined_rename member List.mem_cons_self
          (places disk confined _ other.temporary) (places disk confined _ other) renames
        exact confined.trans
          ⟨⟨inside.directories.workingDirectory, inside.directories.directory⟩, inside.others⟩)
      fun _ => id
    makesPart := False.elim
    writesPart := False.elim
    unmoved_of_made _ := id
    unmoved_of_created _ _ := And.left
    unmoved_of_written _ := id }

/-! ## What stays -/

namespace Disk

variable {directory : Location} {names : List String} {before after : Disk}

theorem Confined.node?_eq (confined : before.Confined directory names after) {location : Location}
    (apart : ∀ name ∈ names, location ≠ directory ++ [name]) (other : location ≠ directory) :
    after.node? location = before.node? location := by
  rcases confined.others location apart with same | ⟨same, _⟩
  · exact same
  · exact absurd same other

/-- Where the file at a path was spared, no file is found that was not there before. -/
theorem Spares.find_file (tree : before.IsTree) (enters : before.Enters base)
    (plain : IsPlain name) (other : IsPlain file)
    (spares : before.Spares (Path.join (Path.join base name) file) after) {bytes : ByteArray}
    (found : after.find (Path.join (Path.join base name) file) = .ok (.file bytes)) :
    before.find (Path.join (Path.join base name) file) = .ok (.file bytes) := by
  obtain ⟨path, _, there⟩ := (find_join other).mp found
  rw [← place_join _ _ other, spares.directories.place] at there
  have lies := (spares.file bytes).mp there
  rw [place_join _ _ other] at lies
  have above : before.node? (before.place (Path.join base name)) = some .directory :=
    tree.above _ _ lies _ (List.prefix_append _ _) (by simp)
  rw [place_join _ _ plain] at above
  have inside := (enters_join plain).mpr ⟨enters, above⟩
  exact (find_join other).mpr ⟨path, inside, lies⟩

/-- What lies outside the directory is found as before. -/
theorem Confined.find_outside (confined : before.Confined directory names after) {path : String}
    {location : Location} (located : before.locate path = .ok location)
    (outside : ¬ directory <+: location) : after.find path = before.find path := by
  have same : after.node? location = before.node? location := by
    refine confined.node?_eq (fun name _ equal => outside ?_) fun equal => outside ?_
    · rw [equal]
      exact List.prefix_append directory [name]
    · rw [equal]
  rw [find, find, confined.directories.locate located, located]
  simp only [bind, Except.bind, same]

/-- Other files of the directory are found as before. -/
theorem Confined.find_inside (tree : before.IsTree) (enters : before.Enters base)
    (plain : IsPlain name) (other : IsPlain file)
    (confined : before.Confined (before.place base ++ [name]) names after) (apart : file ∉ names)
    {node : Node} :
    after.find (Path.join (Path.join base name) file) = .ok node ↔
      before.find (Path.join (Path.join base name) file) = .ok node := by
  have same : after.node? (before.place base ++ [name] ++ [file]) =
      before.node? (before.place base ++ [name] ++ [file]) := by
    refine confined.node?_eq (fun name member equal => apart ?_) (by simp)
    obtain rfl := (List.singleton_inj.mp (List.append_cancel_left equal))
    exact member
  rw [find_join other, find_join other, enters_join plain, enters_join plain,
    confined.directories.place, confined.directories.place, place_join _ _ plain, same]
  constructor
  · rintro ⟨path, _, there⟩
    have above := tree.above _ _ there _ (List.prefix_append _ _) (by simp)
    exact ⟨path, ⟨enters, above⟩, there⟩
  · rintro ⟨path, ⟨_, above⟩, there⟩
    exact ⟨path, ⟨confined.directories.enters enters, confined.directories.directory _ above⟩,
      there⟩

end Disk

end SymbolCache
