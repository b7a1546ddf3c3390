import Mathlib.Tactic.Common
import SymbolCache.Disk.Basic
import Std.Data.ExtTreeMap.Lemmas

/-!
# Writing and moving files

A file that is written has the new content, and one that is moved keeps its content. A change that
leaves every directory in place leaves the ways of paths as they were, and neither writing a file
nor moving it touches a directory.
-/

set_option autoImplicit false

namespace SymbolCache

namespace Disk

structure KeepsDirectories (before after : Disk) : Prop where
  workingDirectory : after.workingDirectory = before.workingDirectory
  directory : ∀ location, before.node? location = some .directory →
    after.node? location = some .directory

theorem KeepsDirectories.trans {first second third : Disk}
    (left : first.KeepsDirectories second) (right : second.KeepsDirectories third) :
    first.KeepsDirectories third where
  workingDirectory := right.workingDirectory.trans left.workingDirectory
  directory location there := right.directory location (left.directory location there)

/-! ## Nodes -/

variable {disk : Disk}

theorem node?_put (disk : Disk) (location other : Location) (node : Node) (below : other ≠ []) :
    (disk.put location node).node? other =
      if location = other then some node else disk.node? other := by
  cases other with
  | nil => exact absurd rfl below
  | cons name names =>
      simp only [node?, put, Std.ExtTreeMap.getElem?_insert,
        Std.LawfulEqCmp.compare_eq_iff_eq]

theorem node?_remove (disk : Disk) (location other : Location) (below : other ≠ []) :
    (disk.remove location).node? other = if location = other then none else disk.node? other := by
  cases other with
  | nil => exact absurd rfl below
  | cons name names =>
      simp only [node?, remove, Std.ExtTreeMap.getElem?_erase,
        Std.LawfulEqCmp.compare_eq_iff_eq]

theorem node?_put_of_ne {location other : Location} (node : Node) (apart : other ≠ location) :
    (disk.put location node).node? other = disk.node? other := by
  by_cases root : other = []
  · rw [root]
    rfl
  · rw [node?_put _ _ _ _ root, if_neg apart.symm]

theorem node?_remove_of_ne {location other : Location} (apart : other ≠ location) :
    (disk.remove location).node? other = disk.node? other := by
  by_cases root : other = []
  · rw [root]
    rfl
  · rw [node?_remove _ _ _ root, if_neg apart.symm]

theorem ne_nil_of_node? {location : Location} (other : disk.node? location ≠ some .directory) :
    location ≠ [] := by
  rintro rfl
  exact other rfl

theorem node?_put_self {location : Location} (node : Node)
    (other : disk.node? location ≠ some .directory) :
    (disk.put location node).node? location = some node := by
  rw [node?_put _ _ _ _ (ne_nil_of_node? other), if_pos rfl]

/-- Where a directory is made there was nothing, and elsewhere everything is as it was. -/
theorem node?_put_directory {location other : Location} (free : disk.node? location = none)
    {was : Option Node}
    (kept : disk.node? other = was ∨ was = none ∧ disk.node? other = some .directory) :
    (disk.put location .directory).node? other = was ∨
      was = none ∧ (disk.put location .directory).node? other = some .directory := by
  by_cases same : other = location
  · rw [same] at kept ⊢
    rw [free] at kept
    rcases kept with rfl | ⟨_, ⟨⟩⟩
    exact .inr ⟨rfl, node?_put_self _ (by simp [free])⟩
  · rwa [node?_put_of_ne _ same]

theorem node?_remove_ne_directory (removed : Location) {location : Location}
    (other : disk.node? location ≠ some .directory) :
    (disk.remove removed).node? location ≠ some .directory := by
  rw [node?_remove _ _ _ (ne_nil_of_node? other)]
  split
  case isTrue => simp
  case isFalse => exact other

theorem keepsDirectories_put {location : Location} (node : Node)
    (other : disk.node? location ≠ some .directory) :
    disk.KeepsDirectories (disk.put location node) where
  workingDirectory := rfl
  directory place there := by
    cases place with
    | nil => rfl
    | cons name names =>
        rw [node?_put _ _ _ _ (List.cons_ne_nil name names), if_neg, there]
        rintro rfl
        exact other there

theorem keepsDirectories_remove {location : Location}
    (other : disk.node? location ≠ some .directory) :
    disk.KeepsDirectories (disk.remove location) where
  workingDirectory := rfl
  directory place there := by
    cases place with
    | nil => rfl
    | cons name names =>
        rw [node?_remove _ _ _ (List.cons_ne_nil name names), if_neg, there]
        rintro rfl
        exact other there

/-! ## Paths -/

theorem KeepsDirectories.follow {before after : Disk} (keeps : before.KeepsDirectories after)
    {goal : Location} (names : List String) (start : Location)
    (found : before.follow start names = .ok goal) : after.follow start names = .ok goal := by
  induction names generalizing start with
  | nil => exact found
  | cons name names ih =>
      cases names with
      | nil => exact found
      | cons next names =>
          rw [Disk.follow] at found ⊢
          split at found
          case isTrue => cases found
          case isFalse short =>
            rw [if_neg short]
            cases there : before.node? (step start name) with
            | none => simp [there] at found
            | some node =>
                cases node with
                | file content => simp [there] at found
                | directory =>
                    simp only [there] at found
                    simp only [keeps.directory _ there]
                    exact ih _ found

theorem KeepsDirectories.locate {before after : Disk} (keeps : before.KeepsDirectories after)
    {path : String} {goal : Location} (found : before.locate path = .ok goal) :
    after.locate path = .ok goal := by
  unfold Disk.locate at found ⊢
  split
  case isTrue empty => simp [empty] at found
  case isFalse filled =>
    rw [if_neg filled] at found
    split
    case isTrue invalid => simp only [invalid, if_true] at found; cases found
    case isFalse valid =>
      rw [if_neg valid] at found
      split
      case isTrue long => simp only [long, if_true] at found; cases found
      case isFalse short =>
        rw [if_neg short] at found
        rw [keeps.workingDirectory]
        exact keeps.follow _ _ found

theorem find_eq_ok_iff {path : String} {node : Node} :
    disk.find path = .ok node ↔ ∃ location, disk.locate path = .ok location ∧
      disk.node? location = some node ∧
        (node.isDirectory = false → Path.endsInSlash path = false) := by
  unfold find
  cases place : disk.locate path with
  | error error => simp [bind, Except.bind]
  | ok location =>
      cases there : disk.node? location with
      | none => simp [bind, Except.bind, there, throw, throwThe, MonadExceptOf.throw]
      | some found =>
          cases found with
          | directory =>
              cases node <;> simp [bind, Except.bind, there, pure, Except.pure, Node.isDirectory]
          | file content =>
              cases slash : Path.endsInSlash path with
              | true =>
                  cases node <;> simp [bind, Except.bind, there, throw, throwThe,
                    MonadExceptOf.throw, Node.isDirectory]
              | false => simp [bind, Except.bind, there, pure, Except.pure]

theorem find_eq_file_iff {path : String} {content : ByteArray} :
    disk.find path = .ok (.file content) ↔
      ∃ location, disk.locate path = .ok location ∧
        disk.node? location = some (.file content) ∧ Path.endsInSlash path = false := by
  simp [find_eq_ok_iff, Node.isDirectory]

private theorem fromUTF8?_toUTF8 (text : String) : String.fromUTF8? text.toUTF8 = some text := by
  have valid : text.toUTF8.IsValidUTF8 := text.isValidUTF8
  rw [String.fromUTF8?, dif_pos valid]
  rfl

theorem readText_eq_ok_iff {path content : String} :
    disk.readText path = .ok content ↔
      ∃ bytes, disk.find path = .ok (.file bytes) ∧ String.fromUTF8? bytes = some content := by
  cases found : disk.find path with
  | error error => simp [readText, found, bind, Except.bind]
  | ok node =>
      cases node with
      | directory => simp [readText, found, bind, Except.bind, throw, throwThe, MonadExceptOf.throw]
      | file bytes =>
          cases decoded : String.fromUTF8? bytes with
          | none =>
              simp [readText, found, decoded, bind, Except.bind, throw, throwThe,
                MonadExceptOf.throw]
          | some text => simp [readText, found, decoded, bind, Except.bind, pure, Except.pure]

theorem readText_of_find {path text : String}
    (found : disk.find path = .ok (.file text.toUTF8)) : disk.readText path = .ok text :=
  readText_eq_ok_iff.mpr ⟨_, found, fromUTF8?_toUTF8 text⟩

theorem find_of_readText {path text : String} (reads : disk.readText path = .ok text) :
    disk.find path = .ok (.file text.toUTF8) := by
  obtain ⟨bytes, found, decoded⟩ := readText_eq_ok_iff.mp reads
  unfold String.fromUTF8? at decoded
  split at decoded
  case isTrue =>
    obtain rfl := Option.some.inj decoded
    exact found
  case isFalse => cases decoded

/-! ## Changes -/

/-- A file that is written is the one that was there, with the new content. -/
theorem setContent_ok {after : Disk} {path : String} {content : ByteArray}
    (changed : disk.setContent path content = .ok after) :
    ∃ location before, disk.locate path = .ok location ∧
      disk.node? location = some (.file before) ∧ Path.endsInSlash path = false ∧
        after = disk.put location (.file content) := by
  unfold setContent at changed
  cases place : disk.locate path with
  | error error => simp [bind, Except.bind, place] at changed
  | ok location =>
      cases found : disk.find path with
      | error error => simp [bind, Except.bind, place, found] at changed
      | ok node =>
          cases node with
          | directory =>
              simp [bind, Except.bind, place, found, throw, throwThe, MonadExceptOf.throw]
                at changed
          | file before =>
              simp only [bind, Except.bind, place, found, pure, Except.pure,
                Except.ok.injEq] at changed
              obtain ⟨location', same, there, slash⟩ := find_eq_file_iff.mp found
              obtain rfl : location = location' := Except.ok.inj (place.symm.trans same)
              exact ⟨location, before, rfl, there, slash, changed.symm⟩

/-- A file that is made is empty, and no directory was in its place. -/
theorem createFile_ok {after : Disk} {path : String}
    (made : disk.createFile path = .ok after) :
    ∃ location, disk.locate path = .ok location ∧ disk.node? location ≠ some .directory ∧
      Path.endsInSlash path = false ∧ after = disk.put location (.file .empty) := by
  unfold createFile at made
  cases located : disk.locate path with
  | error error => simp [located, bind, Except.bind] at made
  | ok location =>
      simp only [located, bind, Except.bind] at made
      split at made
      case h_1 => cases made
      case h_2 free =>
        split at made
        case isTrue => cases made
        case isFalse slash =>
          exact ⟨location, rfl, free, Bool.eq_false_iff.mpr slash, (Except.ok.inj made).symm⟩

theorem exists_file_of_rename {after : Disk} {source target : String}
    (moved : disk.rename source target = .ok after) :
    ∃ content, disk.find source = .ok (.file content) := by
  unfold rename at moved
  cases located : disk.locate source with
  | error error => simp [located, bind, Except.bind] at moved
  | ok origin =>
      cases located' : disk.locate target with
      | error error => simp [located, located', bind, Except.bind] at moved
      | ok goal =>
          simp only [located, located', bind, Except.bind] at moved
          split at moved
          case isTrue => cases moved
          case isFalse =>
            cases found : disk.find source with
            | error error => simp [found] at moved
            | ok node =>
                cases node with
                | directory => simp [found, throw, throwThe, MonadExceptOf.throw] at moved
                | file content => exact ⟨content, rfl⟩

/-- A file that is moved takes the place of what is at its goal, which is no directory. -/
theorem rename_ok {after : Disk} {source target : String} {content : ByteArray}
    (found : disk.find source = .ok (.file content))
    (changed : disk.rename source target = .ok after) :
    ∃ origin goal, disk.locate source = .ok origin ∧ disk.node? origin = some (.file content) ∧
      disk.locate target = .ok goal ∧ disk.node? goal ≠ some .directory ∧
        Path.endsInSlash target = false ∧
          after = (disk.remove origin).put goal (.file content) := by
  obtain ⟨origin, place, there, -⟩ := find_eq_file_iff.mp found
  unfold rename at changed
  cases goalPlace : disk.locate target with
  | error error => simp [bind, Except.bind, place, goalPlace] at changed
  | ok goal =>
      simp only [bind, Except.bind, place, goalPlace, found] at changed
      split at changed
      case isTrue => cases changed
      case isFalse =>
        split at changed
        case isTrue => cases changed
        case isFalse slash =>
          split at changed
          case isTrue => cases changed
          case isFalse free =>
            refine ⟨origin, goal, place, there, rfl, ?_, Bool.eq_false_iff.mpr slash,
              (Except.ok.inj changed).symm⟩
            intro directory
            rw [directory] at free
            exact free rfl

private theorem keepsDirectories_rename {after : Disk} {source target : String}
    {content : ByteArray}
    (found : disk.find source = .ok (.file content))
    (changed : disk.rename source target = .ok after) : disk.KeepsDirectories after := by
  obtain ⟨origin, goal, _, there, _, free, _, rfl⟩ := rename_ok found changed
  have gone : (disk.remove origin).node? goal ≠ some .directory :=
    node?_remove_ne_directory origin free
  have removed : disk.KeepsDirectories (disk.remove origin) :=
    keepsDirectories_remove (by simp [there])
  exact removed.trans (keepsDirectories_put (.file content) gone)

theorem find_of_rename {after : Disk} {source target : String} {content : ByteArray}
    (found : disk.find source = .ok (.file content))
    (changed : disk.rename source target = .ok after) :
    after.find target = .ok (.file content) := by
  have keeps := keepsDirectories_rename found changed
  obtain ⟨origin, goal, _, _, place, free, slash, rfl⟩ := rename_ok found changed
  have gone : (disk.remove origin).node? goal ≠ some .directory :=
    node?_remove_ne_directory origin free
  exact find_eq_file_iff.mpr ⟨goal, keeps.locate place, node?_put_self _ gone, slash⟩

end Disk

end SymbolCache
