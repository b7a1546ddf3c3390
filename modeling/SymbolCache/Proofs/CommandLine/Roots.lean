import SymbolCache.CommandLine.Plan
import SymbolCache.Proofs.Disk.Confinement

/-!
# Roots

The root of a workspace that is looked for is the nearest directory with one of the marks of a root,
at or above the working directory. It stays the root when the snapshot in it is replaced, unless the
working directory lies beside the snapshot and the file of that is named like a mark.
-/

set_option autoImplicit false

namespace SymbolCache.CommandLine

abbrev pathTo (location : Location) : String :=
  Path.ofElements true location

private theorem isPlain_of_mem_rootMarks {mark : String} (member : mark ∈ rootMarks) :
    IsPlain mark := by
  have marks : mark = ".gosym" ∨ mark = "go.work" ∨ mark = "go.mod" := by
    simpa [rootMarks, Store.directoryName] using member
  rcases marks with rfl | rfl | rfl
  all_goals decide

theorem getLast?_temporary (name : String) : (name ++ ".tmp").toList.getLast? = some 'p' := by
  rw [String.toList_append]
  exact List.getLast?_append_of_ne_nil _ (by decide)

private theorem temporary_not_mem_rootMarks (name : String) : name ++ ".tmp" ∉ rootMarks := by
  intro member
  have marks : name ++ ".tmp" = ".gosym" ∨ name ++ ".tmp" = "go.work" ∨
      name ++ ".tmp" = "go.mod" := by
    simpa [rootMarks, Store.directoryName] using member
  have last := getLast?_temporary name
  rcases marks with same | same | same
  all_goals
    rw [same] at last
    exact absurd last (by decide)

/-! ## The nearest root -/

section

variable {disk : Disk}

/-- A directory is the nearest root of a workspace at or above the working directory, or the working
directory itself if there is none. -/
structure IsNearest (disk : Disk) (root : Location) : Prop where
  leads : root <+: disk.workingDirectory
  nearest : ∀ location, location <+: disk.workingDirectory → root.length < location.length →
    isRoot disk (pathTo location) = false
  marked : isRoot disk (pathTo root) = true ∨ root = disk.workingDirectory ∧
    ∀ location, location <+: disk.workingDirectory → location ≠ root →
      isRoot disk (pathTo location) = false

theorem IsNearest.length_le {root other : Location} (left : IsNearest disk root)
    (right : IsNearest disk other) : other.length ≤ root.length := by
  by_contra longer
  have unmarked := left.nearest other right.leads (Nat.lt_of_not_le longer)
  rcases right.marked with marked | ⟨rfl, others⟩
  · exact Bool.false_ne_true (unmarked.symm.trans marked)
  · rcases left.marked with marked | ⟨same, _⟩
    · have different : root ≠ disk.workingDirectory := fun same => longer (by rw [same])
      exact Bool.false_ne_true ((others root left.leads different).symm.trans marked)
    · exact longer (by rw [same])

theorem IsNearest.unique {root other : Location} (left : IsNearest disk root)
    (right : IsNearest disk other) : root = other :=
  (List.prefix_of_prefix_length_le left.leads right.leads (right.length_le left)).eq_of_length
    (Nat.le_antisymm (right.length_le left) (left.length_le right))

/-- What a search for a root comes to that goes up from a place. -/
inductive Finds (disk : Disk) (place : Location) : Option String → Prop where
  | none (unmarked : ∀ location, location <+: place → isRoot disk (pathTo location) = false) :
      Finds disk place none
  | root {root : Location} (leads : root <+: place) (marked : isRoot disk (pathTo root) = true)
      (nearest : ∀ location, location <+: place → root.length < location.length →
        isRoot disk (pathTo location) = false) : Finds disk place (some (pathTo root))

theorem Finds.here {place : Location} (marked : isRoot disk (pathTo place) = true) :
    Finds disk place (some (pathTo place)) :=
  .root List.prefix_rfl marked fun _ leads longer =>
    absurd leads.length_le (Nat.not_le_of_lt longer)

theorem Finds.above {place : Location} {last : String} {found : Option String}
    (unmarked : isRoot disk (pathTo (place ++ [last])) = false) (finds : Finds disk place found) :
    Finds disk (place ++ [last]) found := by
  cases finds with
  | none others =>
      refine .none fun location leads => ?_
      rcases List.prefix_concat_iff.mp leads with rfl | leads
      · exact unmarked
      · exact others location leads
  | root leads marked nearest =>
      refine .root (leads.trans (List.prefix_append _ _)) marked fun location leads longer => ?_
      rcases List.prefix_concat_iff.mp leads with rfl | leads
      · exact unmarked
      · exact nearest location leads longer

private theorem finds_nearestRoot? (disk : Disk) (elements : List String) :
    Finds disk elements.reverse (nearestRoot? disk elements) := by
  induction elements with
  | nil =>
      cases marked : isRoot disk "/" with
      | true =>
          rw [nearestRoot?, if_pos marked]
          exact .here marked
      | false =>
          rw [nearestRoot?, if_neg (by simp [marked])]
          refine .none fun location leads => ?_
          rw [List.prefix_nil.mp leads]
          exact marked
  | cons last above ih =>
      rw [nearestRoot?]
      cases marked : isRoot disk (pathTo (last :: above).reverse) with
      | true =>
          rw [if_pos rfl]
          exact .here marked
      | false =>
          rw [if_neg Bool.false_ne_true]
          rw [List.reverse_cons] at marked ⊢
          exact .above marked ih

theorem exists_isNearest (disk : Disk) :
    ∃ root, IsNearest disk root ∧ rootOf disk none = pathTo root := by
  have finds := finds_nearestRoot? disk disk.workingDirectory.reverse
  rw [List.reverse_reverse] at finds
  rw [rootOf]
  generalize nearestRoot? disk disk.workingDirectory.reverse = found at finds
  cases finds with
  | none unmarked =>
      refine ⟨disk.workingDirectory, ⟨List.prefix_rfl, ?_, .inr ⟨rfl, ?_⟩⟩, rfl⟩
      · exact fun location leads _ => unmarked location leads
      · exact fun location leads _ => unmarked location leads
  | root leads marked nearest => exact ⟨_, ⟨leads, nearest, .inl marked⟩, rfl⟩

theorem IsNearest.rootOf {root : Location} (nearest : IsNearest disk root) :
    rootOf disk none = pathTo root := by
  obtain ⟨other, isNearest, same⟩ := exists_isNearest disk
  rw [same, isNearest.unique nearest]

/-- A directory is a root if something is there under the name of a mark. -/
theorem isRoot_pathTo {location : Location} (plain : ∀ name ∈ location, IsPlain name)
    (enters : disk.Enters (pathTo location)) :
    isRoot disk (pathTo location) = true ↔
      ∃ mark ∈ rootMarks, Disk.IsPath (Path.join (pathTo location) mark) ∧
        ∃ node, disk.node? (location ++ [mark]) = some node := by
  simp only [isRoot, List.any_eq_true, Disk.contains_eq_true_iff]
  constructor
  · rintro ⟨mark, member, node, found⟩
    obtain ⟨path, _, there⟩ := (Disk.find_join (isPlain_of_mem_rootMarks member)).mp found
    rw [disk.place_ofElements plain] at there
    exact ⟨mark, member, path, node, there⟩
  · rintro ⟨mark, member, path, node, there⟩
    rw [← disk.place_ofElements plain] at there
    exact ⟨mark, member, node,
      (Disk.find_join (isPlain_of_mem_rootMarks member)).mpr ⟨path, enters, there⟩⟩

end

/-! ## The root afterwards -/

section

variable {before after : Disk} {root : Location} {file : String}
  (confined : before.Confined (root ++ [Store.directoryName]) [file, file ++ ".tmp"] after)
  (leaves : ¬ root ++ [Store.directoryName] <+: before.workingDirectory ∨ file ∉ rootMarks)

include confined leaves

/-- Something is there under the name of a mark as before, but for the directory of a workspace that
was not there. -/
theorem node?_mark {location : Location} (leads : location <+: before.workingDirectory)
    {mark : String} (member : mark ∈ rootMarks)
    (other : location = root → before.node? (location ++ [mark]) ≠ none) :
    after.node? (location ++ [mark]) = before.node? (location ++ [mark]) := by
  have apart : ∀ name ∈ [file, file ++ ".tmp"],
      location ++ [mark] ≠ root ++ [Store.directoryName] ++ [name] := by
    intro name named same
    obtain ⟨rfl, last⟩ := List.append_inj' same rfl
    obtain rfl := List.singleton_inj.mp last
    rcases List.mem_pair.mp named with rfl | rfl
    · exact leaves.elim (fun outside => outside leads) fun unmarked => unmarked member
    · exact temporary_not_mem_rootMarks file member
  rcases confined.others _ apart with same | ⟨made, free⟩
  · exact same
  · obtain ⟨rfl, _⟩ := List.append_inj' made rfl
    rw [← made] at free
    exact absurd free (other rfl)

variable (tree : before.IsTree)

include tree

private theorem isRoot_after {location : Location} (leads : location <+: before.workingDirectory) :
    (isRoot before (pathTo location) = true → isRoot after (pathTo location) = true) ∧
      (location ≠ root → isRoot after (pathTo location) = isRoot before (pathTo location)) := by
  have plain : ∀ name ∈ location, IsPlain name := fun name member =>
    tree.plain name (leads.subset member)
  have enters := tree.enters_ofElements plain (tree.directory_of_isPrefix tree.working leads)
  have marked := isRoot_pathTo plain enters
  have marked' := isRoot_pathTo plain (confined.directories.enters enters)
  refine ⟨fun isMarked => ?_, fun different => ?_⟩
  case refine_1 =>
    obtain ⟨mark, member, path, node, there⟩ := marked.mp isMarked
    have same := node?_mark confined leaves leads member fun _ => by simp [there]
    exact marked'.mpr ⟨mark, member, path, node, same.trans there⟩
  case refine_2 =>
    rw [Bool.eq_iff_iff, marked, marked']
    have same : ∀ mark ∈ rootMarks,
        after.node? (location ++ [mark]) = before.node? (location ++ [mark]) := fun mark member =>
      node?_mark confined leaves leads member fun equal => absurd equal different
    constructor
    · rintro ⟨mark, member, path, node, there⟩
      exact ⟨mark, member, path, node, (same mark member).symm.trans there⟩
    · rintro ⟨mark, member, path, node, there⟩
      exact ⟨mark, member, path, node, (same mark member).trans there⟩

/-- The nearest root stays it when the snapshot in it is replaced. -/
theorem isNearest_after (nearest : IsNearest before root) : IsNearest after root := by
  have sameAt : ∀ location, location <+: before.workingDirectory → location ≠ root →
      isRoot after (pathTo location) = isRoot before (pathTo location) := fun location leads =>
    (isRoot_after confined leaves tree leads).2
  have working := confined.directories.workingDirectory
  refine ⟨working ▸ nearest.leads, fun location leads longer => ?_, ?_⟩
  case refine_1 =>
    rw [working] at leads
    have different : location ≠ root := by
      rintro rfl
      exact Nat.lt_irrefl _ longer
    rw [sameAt location leads different]
    exact nearest.nearest location leads longer
  case refine_2 =>
    rcases nearest.marked with marked | ⟨same, others⟩
    · exact .inl ((isRoot_after confined leaves tree nearest.leads).1 marked)
    · refine .inr ⟨same.trans working.symm, fun location leads different => ?_⟩
      rw [working] at leads
      rw [sameAt location leads different]
      exact others location leads different

end

end SymbolCache.CommandLine
