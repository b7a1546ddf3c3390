import SymbolCache.Proofs.Disk.Directories
import SymbolCache.Proofs.Disk.Interruption

/-!
# Replacing a file among links

A temporary file is written where no link leads and no other name stands for the same file, and then
takes the place of what a path leads to, be that a file or a link. Wherever this stops, all other
files hold what they held.
-/

set_option autoImplicit false

namespace SymbolCache.Volume

variable {volume before after : Volume} {through : Bool} {links number : Nat}
  {here place goal final : Location} {names : List String} {path : String} {content : ByteArray}

/-! ## Filling a file -/

/-- The file at a place has a number and no other name. It may have been made, and it may hold
something else than before; nothing else has changed. -/
structure Fills (place : Location) (number : Nat) (before after : Volume) : Prop where
  there : after.node? place = some (.file number)
  was : before.node? place = none ∨ before.node? place = some (.file number)
  alone : ∀ location, before.node? location = some (.file number) → location = place
  entry : ∀ location, location ≠ place → after.node? location = before.node? location
  contents : ∀ other, other ≠ number → after.contents other = before.contents other
  workingDirectory : after.workingDirectory = before.workingDirectory

namespace Fills

theorem setContent (fills : before.Fills place number after) (content : ByteArray) :
    before.Fills place number (after.setContent number content) where
  there := fills.there
  was := fills.was
  alone := fills.alone
  entry := fills.entry
  contents other apart := (if_neg apart).trans (fills.contents other apart)
  workingDirectory := fills.workingDirectory

private theorem node?_iff (fills : before.Fills place number after) (location : Location)
    {entry : Entry}
    (guides : entry.isFile = false) :
    after.node? location = some entry ↔ before.node? location = some entry := by
  by_cases same : location = place
  case neg => rw [fills.entry location same]
  case pos =>
    rw [same, fills.there]
    have other : Entry.file number ≠ entry := by
      rintro rfl
      cases guides
    rcases fills.was with free | there
    · simp [free, other]
    · simp [there, other]

private theorem stops_iff (fills : before.Fills place number after) (location : Location) :
    after.Stops through location ↔ before.Stops through location := by
  by_cases same : location = place
  case neg => rw [Stops, Stops, fills.entry location same]
  case pos =>
    rw [same, Stops, Stops, fills.there]
    rcases fills.was with free | there
    · rw [free]
    · rw [there]

theorem locate_iff (fills : before.Fills place number after) :
    after.locate through path = .ok goal ↔ before.locate through path = .ok goal := by
  rw [locate_eq_ok_iff, locate_eq_ok_iff, fills.workingDirectory]
  refine and_congr_right fun _ => ⟨fun way => ?_, fun way => ?_⟩
  · exact way.transfer (fun location _ guides => (fills.node?_iff location guides).mp)
      (fills.stops_iff goal).mp
  · exact way.transfer (fun location _ guides => (fills.node?_iff location guides).mpr)
      (fills.stops_iff goal).mpr

theorem contentAt? (fills : before.Fills place number after) (apart : goal ≠ place) :
    after.contentAt? goal = before.contentAt? goal := by
  refine Option.ext fun content => ?_
  rw [contentAt?_eq_some_iff, contentAt?_eq_some_iff, fills.entry goal apart]
  refine exists_congr fun other => and_congr_right fun there => ?_
  rw [fills.contents other]
  rintro rfl
  exact apart (fills.alone goal there)

/-- A path that leads elsewhere leads to the same. -/
theorem read? (fills : before.Fills place number after)
    (elsewhere : before.locate true path ≠ .ok place) : after.read? path = before.read? path := by
  refine Option.ext fun content => ?_
  rw [read?_eq_some_iff, read?_eq_some_iff]
  refine exists_congr fun goal => ?_
  rw [fills.locate_iff]
  refine and_congr_right fun leads => ?_
  rw [fills.contentAt?]
  rintro rfl
  exact elsewhere leads

end Fills

/-- The temporary file beside a path is not reached by a link or another name. -/
structure Apart (volume : Volume) (path : String) : Prop where
  noLink : ∀ place target, volume.locate false (Path.temporary path) = .ok place →
    volume.node? place ≠ some (.link target)
  alone : ∀ place number location, volume.locate false (Path.temporary path) = .ok place →
    volume.node? place = some (.file number) → volume.node? location = some (.file number) →
      location = place
  elsewhere : ∀ place, volume.locate false (Path.temporary path) = .ok place →
    volume.locate true path ≠ .ok place

structure Replaces (place goal : Location) (number : Nat) (before after : Volume) : Prop where
  source : before.node? place = some (.file number)
  target : before.node? goal ≠ some .directory
  apart : goal ≠ place
  gone : after.node? place = none
  there : after.node? goal = some (.file number)
  entry : ∀ location, location ≠ place → location ≠ goal →
    after.node? location = before.node? location
  contents : after.contents = before.contents
  workingDirectory : after.workingDirectory = before.workingDirectory

private theorem move_ok {source target : String} (leads : before.locate false source = .ok place)
    (there : before.node? place = some (.file number))
    (moved : before.move source target = .ok after) :
    ∃ goal, before.locate false target = .ok goal ∧ before.node? goal ≠ some .directory ∧
      (before.node? goal ≠ some (.file number) →
        after = (before.put place none).put goal (some (.file number))) := by
  unfold move at moved
  rw [leads] at moved
  cases leads' : before.locate false target with
  | error error => simp [leads', bind, Except.bind] at moved
  | ok goal =>
      simp only [leads', bind, Except.bind, there, pure, Except.pure] at moved
      split at moved
      case isTrue => cases moved
      split at moved
      case isTrue => cases moved
      split at moved
      case isTrue => cases moved
      case isFalse notDirectory =>
        refine ⟨goal, rfl, notDirectory, fun differs => ?_⟩
        rw [if_neg (by simp [differs])] at moved
        exact (Except.ok.inj moved).symm

namespace Replaces

variable (replaces : before.Replaces place goal number after)

include replaces

theorem contentAt? {location : Location} (moved : location ≠ place) (other : location ≠ goal) :
    after.contentAt? location = before.contentAt? location := by
  rw [Volume.contentAt?, Volume.contentAt?, replaces.entry location moved other,
    replaces.contents]

end Replaces

/-! ## Wherever it stops -/

/-- What may be found at a path while the file there is not replaced: what was found before, if the
path settles, and in any case what some file has held. -/
def Finds (before : Volume) (path : String) (found : Option ByteArray) : Prop :=
  (before.Settles path → found = before.read? path) ∧
    ∀ content, found = some content → ∃ location, before.contentAt? location = some content

/-- All files but the temporary one of a path hold what they held. -/
structure Keeps (path : String) (before after : Volume) : Prop where
  found : before.Finds path (after.read? path)
  others : ∀ location content, before.contentAt? location = some content →
    (before.prepared path).locate false (Path.temporary path) ≠ .ok location →
      after.contentAt? location = some content

theorem Prepares.finds (prepares : before.Prepares path after) (tree : before.IsTree) :
    before.Finds path (after.read? path) := by
  refine ⟨prepares.read? tree, fun content found => ?_⟩
  obtain ⟨location, -, holds⟩ := read?_eq_some_iff.mp found
  exact ⟨location, prepares.grows.contentAt? location ▸ holds⟩

theorem Prepares.keeps (prepares : before.Prepares path after) (tree : before.IsTree) :
    before.Keeps path after where
  found := prepares.finds tree
  others location _ holds _ := by rwa [prepares.grows.contentAt?]

section

variable (tree : before.IsTree) (apart : (before.prepared path).Apart path)

include tree apart

end

end SymbolCache.Volume

namespace SymbolCache

open Volume (Fills)

end SymbolCache
