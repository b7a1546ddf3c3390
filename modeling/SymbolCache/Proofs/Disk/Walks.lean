import SymbolCache.Proofs.Disk.Paths

/-!
# Ways through a volume

Where names lead to, links included, as a relation. What a way looks at are the directories and the
links that it goes through, so it stays the same while these do. A link that a file takes the place
of cuts the ways through it.
-/

set_option autoImplicit false

namespace SymbolCache.Volume

variable {volume : Volume} {through : Bool} {links : Nat} {here goal : Location}
  {names : List String}

def Stops (volume : Volume) (through : Bool) (location : Location) : Prop :=
  match volume.node? location with
  | some .directory => False
  | some (.link _) => through = false
  | some (.file _) | none => True

/-- Names lead from a location to another one by a number of links at most. -/
inductive Way (volume : Volume) (through : Bool) : Nat → Location → List String → Location → Prop
  | here {links : Nat} {location : Location} : Way volume through links location [] location
  | enter {links : Nat} {here goal : Location} {name : String} {names : List String}
      (short : name.utf8ByteSize ≤ Disk.nameLimit)
      (there : volume.node? (Disk.step here name) = some .directory)
      (goesOn : Way volume through links (Disk.step here name) names goal) :
      Way volume through links here (name :: names) goal
  | stop {links : Nat} {here : Location} {name : String}
      (short : name.utf8ByteSize ≤ Disk.nameLimit)
      (stops : volume.Stops through (Disk.step here name)) :
      Way volume through links here [name] (Disk.step here name)
  | follow {links : Nat} {here goal : Location} {name target : String} {names : List String}
      (short : name.utf8ByteSize ≤ Disk.nameLimit)
      (there : volume.node? (Disk.step here name) = some (.link target))
      (follows : names = [] → through = true)
      (goesOn : Way volume through links (Path.base target (Disk.step here name).dropLast)
        (Path.names target ++ names) goal) :
      Way volume through (links + 1) here (name :: names) goal

/-! ## Walks -/

private theorem way_of_last {name : String} {error : FileError}
    (short : name.utf8ByteSize ≤ Disk.nameLimit)
    (stops : volume.Stops through (Disk.step here name))
    (walks : (if names.isEmpty then .ok (Disk.step here name) else .error error) =
      (.ok goal : Except FileError Location)) :
    volume.Way through links here (name :: names) goal := by
  split at walks
  case isTrue last =>
    obtain rfl := List.isEmpty_iff.mp last
    obtain rfl := Except.ok.inj walks
    exact .stop short stops
  case isFalse => cases walks

private theorem way_of_walkWith {jump : Location → List String → Except FileError Location}
    (jumps : ∀ here names goal, jump here names = .ok goal →
      ∃ fewer, links = fewer + 1 ∧ volume.Way through fewer here names goal)
    (walks : volume.walkWith through jump here names = .ok goal) :
    volume.Way through links here names goal := by
  induction names generalizing here with
  | nil =>
      obtain rfl := Except.ok.inj walks
      exact .here
  | cons name names ih =>
      rw [walkWith] at walks
      split at walks
      case isTrue => cases walks
      case isFalse short =>
        have short := Nat.not_lt.mp short
        split at walks
        case h_1 there => exact .enter short there (ih walks)
        case h_2 target there =>
          split at walks
          case isTrue ends =>
            obtain ⟨last, stays⟩ := Bool.and_eq_true_iff.mp ends
            obtain rfl := List.isEmpty_iff.mp last
            obtain rfl := Except.ok.inj walks
            exact .stop short (by simpa [Stops, there] using stays)
          case isFalse ends =>
            obtain ⟨fewer, rfl, goesOn⟩ := jumps _ _ _ walks
            refine .follow short there (fun last => ?_) goesOn
            simpa [last] using ends
        case h_3 there => exact way_of_last short (by simp [Stops, there]) walks
        case h_4 there => exact way_of_last short (by simp [Stops, there]) walks

/-- A walk leads to a location exactly if there is a way to it. -/
theorem walk_eq_ok_iff :
    volume.walk through links here names = .ok goal ↔ volume.Way through links here names goal := by
  constructor
  · induction links generalizing here names goal with
    | zero => exact way_of_walkWith fun _ _ _ impossible => nomatch impossible
    | succ links ih => exact way_of_walkWith fun _ _ _ walks => ⟨links, rfl, ih walks⟩
  · intro way
    induction way with
    | @here links location => cases links <;> rfl
    | @enter links here goal name names short there goesOn ih =>
        have short := Nat.not_lt.mpr short
        cases links <;> simpa only [walk, walkWith, if_neg short, there] using ih
    | @stop links here name short stops =>
        have short := Nat.not_lt.mpr short
        unfold Stops at stops
        cases links <;> simp only [walk, walkWith, if_neg short] <;> split at stops <;> simp_all
    | @follow links here goal name target names short there follows goesOn ih =>
        have short := Nat.not_lt.mpr short
        have goes : (names.isEmpty && !through) = false := by
          cases names with
          | nil => simp [follows rfl]
          | cons next names => rfl
        simpa only [walk, walkWith, if_neg short, there, goes, Bool.false_eq_true, if_false]
          using ih

theorem locate_eq_ok_iff {path : String} :
    volume.locate through path = .ok goal ↔
      Path.refused? path = none ∧ volume.Way through linkLimit
        (Path.base path volume.workingDirectory) (Path.names path) goal := by
  unfold locate
  cases Path.refused? path with
  | some error => simp
  | none => simp [walk_eq_ok_iff]

/-! ## Parts of a way -/

namespace Way

theorem more (way : volume.Way through links here names goal) :
    volume.Way through (links + 1) here names goal := by
  induction way with
  | here => exact .here
  | enter short there _ ih => exact .enter short there ih
  | stop short stops => exact .stop short stops
  | follow short there follows _ ih => exact .follow short there follows ih

theorem mono {most : Nat} (way : volume.Way through links here names goal) (le : links ≤ most) :
    volume.Way through most here names goal := by
  induction le with
  | refl => exact way
  | step _ ih => exact ih.more

theorem unique {links' : Nat} {goal' : Location} (way : volume.Way through links here names goal)
    (other : volume.Way through links' here names goal') : goal = goal' := by
  have one := walk_eq_ok_iff.mpr (way.mono (Nat.le_max_left links links'))
  have two := walk_eq_ok_iff.mpr (other.mono (Nat.le_max_right links links'))
  exact Except.ok.inj (one.symm.trans two)

theorem eq_here (way : volume.Way through links here [] goal) : goal = here := by
  cases way
  rfl

/-- What comes before the last names leads to a directory. -/
theorem split {before after : List String}
    (way : volume.Way through links here (before ++ after) goal) (more : after ≠ []) :
    ∃ middle, volume.Way true links here before middle ∧
      volume.Way through links middle after goal ∧
        (before ≠ [] → volume.node? middle = some .directory) := by
  generalize whole : before ++ after = names at way
  induction way generalizing before with
  | here => exact absurd (List.append_eq_nil_iff.mp whole).2 more
  | @enter links here goal name names short there goesOn ih =>
      cases before with
      | nil =>
          obtain rfl := whole
          exact ⟨here, .here, .enter short there goesOn, fun filled => absurd rfl filled⟩
      | cons first rest =>
          obtain ⟨rfl, parts⟩ := List.cons.inj whole
          obtain ⟨middle, leads, last, directory⟩ := ih parts
          refine ⟨middle, .enter short there leads, last, fun _ => ?_⟩
          cases rest with
          | nil => rwa [leads.eq_here]
          | cons second rest => exact directory (List.cons_ne_nil _ _)
  | @stop links here name short stops =>
      cases before with
      | nil =>
          obtain rfl := whole
          exact ⟨here, .here, .stop short stops, fun filled => absurd rfl filled⟩
      | cons first rest =>
          obtain ⟨-, parts⟩ := List.cons.inj whole
          exact absurd (List.append_eq_nil_iff.mp parts).2 more
  | @follow links here goal name target names short there follows goesOn ih =>
      cases before with
      | nil =>
          obtain rfl := whole
          exact ⟨here, .here, .follow short there follows goesOn, fun filled => absurd rfl filled⟩
      | cons first rest =>
          obtain ⟨rfl, rfl⟩ := List.cons.inj whole
          obtain ⟨middle, leads, last, directory⟩ := ih (List.append_assoc _ _ _)
          refine ⟨middle, .follow short there (fun _ => rfl) leads, last.more, fun _ => ?_⟩
          exact directory (List.append_ne_nil_of_left_ne_nil (Path.names_ne_nil target) rest)

/-- Behind a directory a way goes on, if no link has to be followed any more. -/
theorem append {before after : List String} {middle : Location}
    (way : volume.Way true links here before middle)
    (directory : before ≠ [] → volume.node? middle = some .directory) (more : after ≠ [])
    (rest : volume.Way through 0 middle after goal) :
    volume.Way through links here (before ++ after) goal := by
  induction way with
  | here => exact rest.mono (Nat.zero_le _)
  | @enter links here middle name names short there goesOn ih =>
      exact .enter short there (ih (fun _ => directory (List.cons_ne_nil _ _)) rest)
  | @stop links here name short stops =>
      have there := directory (List.cons_ne_nil _ _)
      simp [Stops, there] at stops
  | @follow links here middle name target names short there follows goesOn ih =>
      rw [List.cons_append]
      refine .follow short there (fun none => ?_) ?_
      · exact absurd (List.append_eq_nil_iff.mp none).2 more
      · rw [← List.append_assoc]
        exact ih (fun _ => directory (List.cons_ne_nil _ _)) rest

/-! ## Links at the end -/

/-- Where a way ends that follows no link at the end. -/
theorem exists_place (way : volume.Way true links here names goal) :
    ∃ place, volume.Way false links here names place ∧
      (place = goal ∨ ∃ target, volume.node? place = some (.link target)) := by
  induction way with
  | here => exact ⟨_, .here, .inl rfl⟩
  | enter short there _ ih =>
      obtain ⟨place, leads, ends⟩ := ih
      exact ⟨place, .enter short there leads, ends⟩
  | @stop links here name short stops =>
      refine ⟨_, .stop short ?_, .inl rfl⟩
      unfold Stops at stops ⊢
      split at stops
      · exact stops
      · exact absurd stops (by decide)
      · trivial
      · trivial
  | @follow links here goal name target names short there follows goesOn ih =>
      cases names with
      | nil => exact ⟨_, .stop short (by simp [Stops, there]), .inr ⟨target, there⟩⟩
      | cons next names =>
          obtain ⟨place, leads, ends⟩ := ih
          exact ⟨place, .follow short there nofun leads, ends⟩

/-! ## Ways in another volume -/

variable {other : Volume}

/-- A way stays as long as all directories and links do. -/
theorem transfer (way : volume.Way through links here names goal)
    (guides : ∀ location entry, entry.isFile = false → volume.node? location = some entry →
      other.node? location = some entry)
    (stops : volume.Stops through goal → other.Stops through goal) :
    other.Way through links here names goal := by
  induction way with
  | here => exact .here
  | enter short there _ ih => exact .enter short (guides _ _ rfl there) (ih stops)
  | stop short ends => exact .stop short (stops ends)
  | follow short there follows _ ih => exact .follow short (guides _ _ rfl there) follows (ih stops)

end Way

end SymbolCache.Volume
