import SymbolCache.Proofs.Disk.Filing
import SymbolCache.Proofs.Disk.Walks

/-!
# Directories that are made

A volume grows by directories that are made where nothing was. Those that are made for a path are
the path's own: without a name that leads up, there is nothing behind them yet, so no path leads to
another file than before.
-/

set_option autoImplicit false

namespace SymbolCache.Volume

structure IsTree (volume : Volume) : Prop where
  above : ∀ location name entry, volume.node? (location ++ [name]) = some entry →
    volume.node? location = some .directory
  numbered : ∀ location number, volume.node? location = some (.file number) →
    number < volume.count
  working : volume.node? volume.workingDirectory = some .directory

structure Grows (before after : Volume) : Prop where
  contents : after.contents = before.contents
  count : after.count = before.count
  workingDirectory : after.workingDirectory = before.workingDirectory
  entry : ∀ location, after.node? location = before.node? location ∨
    before.node? location = none ∧ after.node? location = some .directory

variable {volume before after : Volume} {through : Bool} {links : Nat} {here goal : Location}
  {names : List String}

/-! ## Entries -/

theorem ne_nil_of_node? {location : Location} (other : volume.node? location ≠ some .directory) :
    location ≠ [] := by
  rintro rfl
  exact other rfl

theorem node?_put_of_ne {location place : Location} (entry : Option Entry)
    (apart : location ≠ place) :
    (volume.put place entry).node? location = volume.node? location := by
  cases location with
  | nil => rfl
  | cons name names => exact if_neg apart

theorem node?_put_self {place : Location} (entry : Option Entry)
    (other : volume.node? place ≠ some .directory) :
    (volume.put place entry).node? place = entry := by
  cases place with
  | nil => exact absurd rfl other
  | cons name names => exact if_pos rfl

theorem contentAt?_eq_some_iff {location : Location} {content : ByteArray} :
    volume.contentAt? location = some content ↔
      ∃ number, volume.node? location = some (.file number) ∧ volume.contents number = content := by
  unfold contentAt?
  split
  case h_1 number there => simp [there]
  case h_2 other => simpa using fun number there => absurd there (other number)

theorem read?_eq_some_iff {path : String} {content : ByteArray} :
    volume.read? path = some content ↔
      ∃ goal, volume.locate true path = .ok goal ∧ volume.contentAt? goal = some content := by
  unfold read?
  cases volume.locate true path with
  | error error => simp
  | ok goal => simp

/-! ## Growth -/

namespace Grows

theorem refl (volume : Volume) : volume.Grows volume :=
  ⟨rfl, rfl, rfl, fun _ => .inl rfl⟩

theorem trans {third : Volume} (left : before.Grows after) (right : after.Grows third) :
    before.Grows third where
  contents := right.contents.trans left.contents
  count := right.count.trans left.count
  workingDirectory := right.workingDirectory.trans left.workingDirectory
  entry location := by
    rcases right.entry location with same | ⟨free, made⟩
    · rw [same]
      exact left.entry location
    · rcases left.entry location with same | ⟨_, there⟩
      · exact .inr ⟨same ▸ free, made⟩
      · cases free.symm.trans there

private theorem put_directory {place : Location} (free : volume.node? place = none) :
    volume.Grows (volume.put place (some .directory)) where
  contents := rfl
  count := rfl
  workingDirectory := rfl
  entry location := by
    by_cases here : location = place
    · subst here
      exact .inr ⟨free, node?_put_self _ (by simp [free])⟩
    · exact .inl (node?_put_of_ne _ here)

theorem kept (grows : before.Grows after) {location : Location} {entry : Entry}
    (there : before.node? location = some entry) : after.node? location = some entry := by
  rcases grows.entry location with same | ⟨free, -⟩
  · rwa [same]
  · cases there.symm.trans free

/-- Nothing but directories has been made. -/
theorem was (grows : before.Grows after) {location : Location} {entry : Entry}
    (there : after.node? location = some entry) (other : entry ≠ .directory) :
    before.node? location = some entry := by
  rcases grows.entry location with same | ⟨-, made⟩
  · rwa [← same]
  · exact absurd (Option.some.inj (there.symm.trans made)) other

theorem contentAt? (grows : before.Grows after) (location : Location) :
    after.contentAt? location = before.contentAt? location := by
  refine Option.ext fun content => ?_
  rw [contentAt?_eq_some_iff, contentAt?_eq_some_iff, grows.contents]
  refine exists_congr fun number => and_congr_left fun _ => ⟨fun there => ?_, grows.kept⟩
  exact grows.was there nofun

theorem numbered (grows : before.Grows after) (tree : before.IsTree) (location : Location)
    (number : Nat) (there : after.node? location = some (.file number)) : number < after.count := by
  rw [grows.count]
  exact tree.numbered location number (grows.was there nofun)

/-- A way to something that is there stays. -/
theorem way (grows : before.Grows after) {entry : Entry} (there : before.node? goal = some entry)
    (way : before.Way through links here names goal) : after.Way through links here names goal := by
  refine way.transfer (fun _ _ _ => grows.kept) fun stops => ?_
  simpa only [Stops, grows.kept there, there] using stops

/-- A way to nothing leads to the directory that is made there. -/
theorem way_to_directory (grows : before.Grows after)
    (made : after.node? goal = some .directory) (free : before.node? goal = none)
    (way : before.Way false links here names goal) : after.Way true links here names goal := by
  induction way with
  | here => exact .here
  | enter short there _ ih => exact .enter short (grows.kept there) (ih made free)
  | stop short _ => exact .enter short made .here
  | follow short there _ _ ih =>
      exact .follow short (grows.kept there) (fun _ => rfl) (ih made free)

/-- Behind a directory that was made there is nothing from before, unless a way leads up. -/
theorem fresh (grows : before.Grows after) (tree : before.IsTree)
    (down : ".." ∉ names) (free : before.node? here = none)
    (way : after.Way through links here names goal) : before.node? goal = none := by
  have below : ∀ {here : Location} {name : String}, name ≠ ".." → before.node? here = none →
      before.node? (Disk.step here name) = none := by
    intro here name down free
    unfold Disk.step
    split
    case isTrue => exact free
    case isFalse =>
      rw [Option.eq_none_iff_forall_ne_some]
      intro entry there
      cases free.symm.trans (tree.above here name entry there)
  induction way with
  | here => exact free
  | enter _ _ _ ih =>
      obtain ⟨other, rest⟩ := List.ne_and_not_mem_of_not_mem_cons down
      exact ih rest (below (Ne.symm other) free)
  | stop => exact below (fun same => down (by simp [same])) free
  | follow _ there _ _ _ =>
      obtain ⟨other, -⟩ := List.ne_and_not_mem_of_not_mem_cons down
      cases (below (Ne.symm other) free).symm.trans (grows.was there nofun)

end Grows

theorem isDirectory_eq_true_iff :
    volume.isDirectory here names = true ↔
      ∃ goal, volume.Way true linkLimit here names goal ∧ volume.node? goal = some .directory := by
  simp only [isDirectory, ← walk_eq_ok_iff]
  cases volume.walk true linkLimit here names with
  | error error => simp
  | ok goal => simp

theorem isDirectory_of_append {names' : List String} (begun : names ≠ [])
    (directory : volume.isDirectory here (names ++ names') = true) :
    volume.isDirectory here names = true := by
  cases names' with
  | nil => rwa [List.append_nil] at directory
  | cons name names' =>
      obtain ⟨goal, way, there⟩ := isDirectory_eq_true_iff.mp directory
      obtain ⟨middle, leads, -, filled⟩ := way.split (List.cons_ne_nil name names')
      exact isDirectory_eq_true_iff.mpr ⟨middle, leads, filled begun⟩

theorem Grows.isDirectory (grows : before.Grows after)
    (directory : before.isDirectory here names = true) :
    after.isDirectory here names = true := by
  obtain ⟨goal, way, there⟩ := isDirectory_eq_true_iff.mp directory
  exact isDirectory_eq_true_iff.mpr ⟨goal, grows.way there way, grows.kept there⟩

/-! ## Making one directory -/

private theorem makeDirectory_ok {made : Volume}
    (makes : volume.makeDirectory here names = .ok made) :
    ∃ goal, volume.Way false linkLimit here names goal ∧ volume.node? goal = none ∧
      made = volume.put goal (some .directory) := by
  unfold makeDirectory at makes
  cases leads : volume.walk false linkLimit here names with
  | error error => simp [leads, bind, Except.bind] at makes
  | ok goal =>
      cases there : volume.node? goal with
      | some entry => simp [leads, there, bind, Except.bind, throw, throwThe, MonadExceptOf.throw]
          at makes
      | none =>
          simp only [leads, there, bind, Except.bind, pure, Except.pure, Except.ok.injEq] at makes
          exact ⟨goal, walk_eq_ok_iff.mp leads, there, makes.symm⟩

/-- No directory is made where one is. -/
theorem makeDirectory_of_isDirectory (directory : volume.isDirectory here names = true) :
    volume.makeDirectory here names = .error .alreadyExists := by
  obtain ⟨goal, way, there⟩ := isDirectory_eq_true_iff.mp directory
  obtain ⟨place, leads, ends⟩ := way.exists_place
  have taken : ∃ entry, volume.node? place = some entry := by
    rcases ends with rfl | ⟨target, link⟩
    · exact ⟨_, there⟩
    · exact ⟨_, link⟩
  obtain ⟨entry, taken⟩ := taken
  simp [makeDirectory, walk_eq_ok_iff.mpr leads, taken, bind, Except.bind, throw, throwThe,
    MonadExceptOf.throw]

structure Makes (here : Location) (names : List String) (before after : Volume) : Prop where
  grows : before.Grows after
  same : before.isDirectory here names = true → after = before
  fresh : before.isDirectory here names = false → ".." ∉ names → ∀ goal,
    after.Way true linkLimit here names goal → after.node? goal = some .directory →
      before.node? goal = none

theorem Makes.refl (here : Location) (names : List String) (volume : Volume) :
    volume.Makes here names volume where
  grows := .refl volume
  same _ := rfl
  fresh missing _ goal way there := by
    rw [isDirectory_eq_true_iff.mpr ⟨goal, way, there⟩] at missing
    cases missing

private theorem makes_of_makeDirectory {made : Volume}
    (makes : volume.makeDirectory here names = .ok made) :
    volume.Makes here names made ∧ made.isDirectory here names = true := by
  obtain ⟨place, way, free, rfl⟩ := makeDirectory_ok makes
  have grows := Grows.put_directory free
  have there : (volume.put place (some .directory)).node? place = some .directory :=
    node?_put_self _ (by simp [free])
  have leads := grows.way_to_directory there free way
  refine ⟨⟨grows, fun directory => ?_, fun _ _ goal other _ => ?_⟩,
    isDirectory_eq_true_iff.mpr ⟨place, leads, there⟩⟩
  · rw [makeDirectory_of_isDirectory directory] at makes
    cases makes
  · rw [other.unique leads]
    exact free

private theorem brings_enter (volume : Volume) (here : Location) (names : List String) :
    (enter here names).Brings (· = volume)
      (fun _ after => volume.Makes here names after ∧ after.isDirectory here names = true)
      (· = volume) := by
  rintro volume rfl
  rw [enter, FilingOn.run_get_bind]
  cases makes : volume.makeDirectory here names with
  | ok made => exact makes_of_makeDirectory makes
  | error error =>
      dsimp only
      rw [FilingOn.run_get_bind]
      cases directory : volume.isDirectory here names with
      | true => exact ⟨.refl here names volume, directory⟩
      | false => rfl

/-! ## Making those above it, too -/

theorem isDirectory_nil (inside : volume.node? here = some .directory) :
    volume.isDirectory here [] = true :=
  isDirectory_eq_true_iff.mpr ⟨here, .here, inside⟩

/-- A directory that is made in one that was made is as new. -/
theorem Makes.below {between : Volume} {above : List String} {last : String} (tree : before.IsTree)
    (inside : before.node? here = some .directory) (makes : before.Makes here above between)
    (missing : before.isDirectory here above = false)
    (absent : before.isDirectory here (above ++ [last]) = false) (grows : between.Grows after)
    (kept : between.isDirectory here above = true ∨ after = between) :
    before.Makes here (above ++ [last]) after where
  grows := makes.grows.trans grows
  same directory := by cases directory.symm.trans absent
  fresh _ down goal way _ := by
    have filled : above ≠ [] := by
      rintro rfl
      cases (isDirectory_nil inside).symm.trans missing
    obtain ⟨middle, leads, rest, directory⟩ := way.split (List.cons_ne_nil last [])
    have was : between.Way true linkLimit here above middle ∧
        between.node? middle = some .directory := by
      rcases kept with kept | rfl
      · obtain ⟨other, way, there⟩ := isDirectory_eq_true_iff.mp kept
        obtain rfl := leads.unique (grows.way there way)
        exact ⟨way, there⟩
      · exact ⟨leads, directory filled⟩
    rw [List.mem_append, not_or] at down
    have free := makes.fresh missing down.1 middle was.1 was.2
    exact (makes.grows.trans grows).fresh tree down.2 free rest

private theorem isDirectory_of_isApart (apart : volume.isApart here names = true) :
    volume.isDirectory here names = false := by
  rw [← Bool.not_eq_true]
  intro directory
  rw [isApart, makeDirectory_of_isDirectory directory] at apart
  cases apart

private theorem brings_makeDirectoriesFrom (tree : before.IsTree)
    (inside : before.node? here = some .directory) (reversed : List String) :
    (makeDirectoriesFrom here reversed).Brings (· = before)
      (fun _ after => before.Makes here reversed.reverse after ∧
        after.isDirectory here reversed.reverse = true)
      (before.Makes here reversed.reverse) := by
  induction reversed with
  | nil =>
      rintro before rfl
      exact ⟨.refl here [] before, isDirectory_nil inside⟩
  | cons last above ih =>
      rw [List.reverse_cons]
      have stays : ∀ after, after = before → before.Makes here (above.reverse ++ [last]) after := by
        rintro _ rfl
        exact .refl here _ _
      have entering := (brings_enter before here (above.reverse ++ [last])).mono (fun _ => id)
        (fun _ _ => id) stays
      rintro before rfl
      rw [makeDirectoriesFrom, FilingOn.run_get_bind, List.reverse_cons]
      cases fails : before.isApart here (above.reverse ++ [last]) with
      | false => exact entering before rfl
      | true =>
        -- Those above are made first, and then this one is tried again.
        have first := ih before rfl
        simp only [if_true]
        rw [FilingOn.run_bind]
        generalize (makeDirectoriesFrom here above).run.run before = result at first
        cases there : before.isDirectory here above.reverse with
        | true =>
            obtain ⟨error | _, between⟩ := result
            · exact stays between (first.same there)
            · exact entering between (first.1.same there)
        | false =>
            have absent := isDirectory_of_isApart fails
            obtain ⟨error | _, between⟩ := result
            · exact first.below tree inside there absent (.refl between) (.inr rfl)
            · have unmade : ∀ after, after = between →
                  before.Makes here (above.reverse ++ [last]) after := by
                rintro _ rfl
                exact first.1.below tree inside there absent (.refl _) (.inr rfl)
              refine (brings_enter between here (above.reverse ++ [last])).mono (fun _ => id)
                (fun _ after made => ?_) unmade between rfl
              exact ⟨first.1.below tree inside there absent made.1.grows (.inl first.2), made.2⟩

/-! ## Making those above a path -/

variable {path : String}

private theorem IsTree.directory_base (tree : volume.IsTree) (path : String) :
    volume.node? (Path.base path volume.workingDirectory) = some .directory := by
  unfold Path.base
  split
  case isTrue => rfl
  case isFalse => exact tree.working

/-- Directories have been made on the way of a path, but not the last one. -/
def Prepares (path : String) (before after : Volume) : Prop :=
  ∃ leading, leading <+: (Path.elements path).dropLast ∧
    before.Makes (Path.base path before.workingDirectory) leading after

/-- A path leads nowhere up, or the directory that it leads into is there. -/
def Settles (volume : Volume) (path : String) : Prop :=
  ".." ∉ Path.elements path ∨ volume.isDirectory (Path.base path volume.workingDirectory)
    (Path.elements path).dropLast = true

def prepared (volume : Volume) (path : String) : Volume :=
  match Path.parent? path with
  | none => volume
  | some parent => ((makeDirectories parent).run.run volume).2

private theorem Grows.read?_eq_some {content : ByteArray} (grows : before.Grows after)
    (found : before.read? path = some content) : after.read? path = some content := by
  obtain ⟨goal, leads, there⟩ := read?_eq_some_iff.mp found
  obtain ⟨number, entry, -⟩ := contentAt?_eq_some_iff.mp there
  obtain ⟨allowed, way⟩ := locate_eq_ok_iff.mp leads
  rw [← grows.workingDirectory] at way
  refine read?_eq_some_iff.mpr ⟨goal, ?_, by rwa [grows.contentAt?]⟩
  exact locate_eq_ok_iff.mpr ⟨allowed, grows.way entry way⟩

namespace Prepares

theorem refl (path : String) (volume : Volume) : volume.Prepares path volume :=
  ⟨[], List.nil_prefix, .refl _ _ _⟩

theorem grows (prepares : before.Prepares path after) : before.Grows after := by
  obtain ⟨_, -, makes⟩ := prepares
  exact makes.grows

/-- Where a path does not lead up from a directory that is made for it, the same is found. -/
theorem read? (prepares : before.Prepares path after) (tree : before.IsTree)
    (settles : before.Settles path) : after.read? path = before.read? path := by
  obtain ⟨leading, within, makes⟩ := prepares
  obtain ⟨rest, more, parts, down⟩ := Path.exists_names_append within
  refine Option.ext fun content => ⟨fun found => ?_, makes.grows.read?_eq_some⟩
  obtain ⟨goal, leads, there⟩ := read?_eq_some_iff.mp found
  obtain ⟨allowed, way⟩ := locate_eq_ok_iff.mp leads
  rw [makes.grows.workingDirectory, parts] at way
  cases directory : before.isDirectory (Path.base path before.workingDirectory) leading with
  | true => rwa [← makes.same directory]
  | false =>
      obtain ⟨middle, first, second, filled⟩ := way.split more
      have begun : leading ≠ [] := by
        rintro rfl
        cases (isDirectory_nil (tree.directory_base path)).symm.trans directory
      have up : ".." ∉ Path.elements path := by
        refine settles.resolve_right fun above => ?_
        obtain ⟨between, whole⟩ := within
        rw [← whole] at above
        cases (isDirectory_of_append begun above).symm.trans directory
      have absent : ".." ∉ leading := fun member =>
        up (List.mem_of_mem_dropLast (within.subset member))
      have free := makes.grows.fresh tree (down up)
        (makes.fresh directory absent middle first (filled begun)) second
      obtain ⟨number, entry, -⟩ := contentAt?_eq_some_iff.mp there
      cases free.symm.trans (makes.grows.was entry nofun)

end Prepares

/-- Directories that are made above a path, or above one of those, are on its way. -/
theorem brings_makeDirectories (tree : before.IsTree) {parent : String} (levels : Nat)
    (above : Path.parent? path = some parent) :
    (makeDirectories (Path.above levels parent)).Brings (· = before)
      (fun _ => before.Prepares path) (before.Prepares path) := by
  rintro before rfl
  rw [makeDirectories]
  by_cases filled : (Path.above levels parent).isEmpty = true
  case pos =>
    rw [if_pos filled]
    exact .refl path before
  case neg =>
    rw [if_neg filled]
    cases Path.refused? (Path.above levels parent) with
    | some error => exact .refl path before
    | none =>
        dsimp only
        rw [FilingOn.run_get_bind]
        obtain ⟨absolute, elements⟩ := Path.elements_parent? above
        rcases Path.above_eq_or levels parent with none | ⟨absolute', within⟩
        · rw [none] at filled
          exact absurd rfl filled
        · have base : Path.base (Path.above levels parent) before.workingDirectory =
              Path.base path before.workingDirectory := by
            rw [Path.base, Path.base, absolute', absolute]
          rw [elements] at within
          rw [base]
          have makes := brings_makeDirectoriesFrom tree (tree.directory_base path)
            (Path.elements (Path.above levels parent)).reverse
          rw [List.reverse_reverse] at makes
          exact makes.mono (fun _ => id) (fun _ _ made => ⟨_, within, made.1⟩)
            (fun _ made => ⟨_, within, made⟩) before rfl

end SymbolCache.Volume
