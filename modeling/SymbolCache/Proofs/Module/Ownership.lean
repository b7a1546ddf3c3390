import Mathlib.Tactic.Common
import SymbolCache.Module
import SymbolCache.Proofs.Text.Parts

/-!
# The module of an import path

A module owns the import path that is its own and those below it. Of the modules that own a path the
one with the longest path provides it, and of several with that path one of the workspace, or else
the last.
-/

set_option autoImplicit false

namespace SymbolCache.Module

variable {modules : List Module} {importPath : String}

/-! ## Owning a path -/

/-- Whether an import path is a module's own or continues it after a slash. -/
def Covers (root importPath : String) : Prop :=
  importPath = root ∨ ∃ rest, importPath = root ++ "/" ++ rest

theorem owns_iff (module : Module) (importPath : String) :
    module.owns importPath = true ↔ Covers module.path importPath := by
  unfold owns Covers
  constructor
  · intro owned
    cases cut : Text.dropPrefix? module.path.toList importPath.toList with
    | none => simp [cut] at owned
    | some rest =>
        have whole := Text.dropPrefix?_eq_some_iff.mp cut
        cases rest with
        | nil => exact .inl (String.toList_injective (by simpa using whole))
        | cons next rest =>
            simp only [cut, beq_iff_eq] at owned
            subst owned
            exact .inr ⟨String.ofList rest, String.toList_injective (by simpa using whole)⟩
  · rintro (rfl | ⟨rest, rfl⟩)
    · rw [Text.dropPrefix?_eq_some_iff.mpr (List.append_nil _).symm]
    · rw [String.toList_append, String.toList_append, List.append_assoc,
        Text.dropPrefix?_eq_some_iff.mpr rfl]
      rfl

theorem Covers.isPrefix {root : String} (covers : Covers root importPath) :
    root.toList <+: importPath.toList := by
  rcases covers with rfl | ⟨rest, rfl⟩
  · exact List.prefix_rfl
  · rw [String.append_assoc, String.toList_append]
    exact List.prefix_append ..

/-- Two roots of one path that are equally long are the same. -/
theorem Covers.eq_of_length {left right : String} (covers : Covers left importPath)
    (covers' : Covers right importPath) (length : left.length = right.length) : left = right := by
  rw [← String.length_toList, ← String.length_toList] at length
  apply String.toList_injective
  rcases List.prefix_or_prefix_of_prefix covers.isPrefix covers'.isPrefix with leads | leads
  · exact leads.eq_of_length length
  · exact (leads.eq_of_length length.symm).symm

private theorem length_le_of_isPrefix {short long : String} (leads : short.toList <+: long.toList) :
    short.length ≤ long.length := by
  rw [← String.length_toList, ← String.length_toList]
  exact leads.length_le

/-- Of two roots of one path, the one with no fewer bytes is no shorter, and the same if it has no
more bytes either. -/
theorem eq_or_size_lt {left right : String} (leads : left.toList <+: importPath.toList)
    (leads' : right.toList <+: importPath.toList)
    (size : left.utf8ByteSize ≤ right.utf8ByteSize) :
    left = right ∨ left.utf8ByteSize < right.utf8ByteSize ∧ left.length ≤ right.length := by
  rcases List.prefix_or_prefix_of_prefix leads leads' with shorter | longer
  · by_cases same : left = right
    · exact .inl same
    · obtain ⟨rest, whole⟩ := shorter
      have split : right = left ++ String.ofList rest :=
        String.toList_injective (by simp [whole])
      have filled : String.ofList rest ≠ "" := by
        intro empty
        rw [empty, String.append_empty] at split
        exact same split.symm
      have positive : 0 < (String.ofList rest).utf8ByteSize :=
        Nat.pos_of_ne_zero fun zero => filled (String.utf8ByteSize_eq_zero_iff.mp zero)
      refine .inr ⟨?_, length_le_of_isPrefix ⟨rest, whole⟩⟩
      rw [split, String.utf8ByteSize_append]
      exact Nat.lt_add_of_pos_right positive
  · obtain ⟨rest, whole⟩ := longer
    have split : left = right ++ String.ofList rest :=
      String.toList_injective (by simp [whole])
    rw [split, String.utf8ByteSize_append] at size
    have zero : (String.ofList rest).utf8ByteSize = 0 :=
      Nat.eq_zero_of_le_zero (Nat.le_of_add_le_add_left size)
    rw [String.utf8ByteSize_eq_zero_iff.mp zero, String.append_empty] at split
    exact .inl split

/-! ## The closest module -/

private theorem rankAtMost_refl (rank : Nat × Bool) : rankAtMost rank rank = true := by
  simp [rankAtMost]

private theorem rankAtMost_trans {first second third : Nat × Bool}
    (left : rankAtMost first second = true) (right : rankAtMost second third = true) :
    rankAtMost first third = true := by
  obtain ⟨firstSize, firstFlag⟩ := first
  obtain ⟨secondSize, secondFlag⟩ := second
  obtain ⟨thirdSize, thirdFlag⟩ := third
  simp only [rankAtMost, Bool.or_eq_true, Bool.and_eq_true, decide_eq_true_eq, beq_iff_eq,
    Bool.not_eq_true'] at left right ⊢
  rcases left with smaller | ⟨rfl, flag⟩
  · rcases right with smaller' | ⟨rfl, _⟩
    · exact .inl (smaller.trans smaller')
    · exact .inl smaller
  · rcases right with smaller' | ⟨rfl, flag'⟩
    · exact .inl smaller'
    · refine .inr ⟨rfl, ?_⟩
      rcases flag with off | on
      · exact .inl off
      · rcases flag' with off' | on'
        · exact absurd (off'.symm.trans on) Bool.false_ne_true
        · exact .inr on'

private theorem rankAtMost_total {left right : Nat × Bool} (above : rankAtMost left right = false) :
    rankAtMost right left = true := by
  obtain ⟨leftSize, leftFlag⟩ := left
  obtain ⟨rightSize, rightFlag⟩ := right
  simp only [rankAtMost, Bool.or_eq_false_iff, Bool.and_eq_false_imp, decide_eq_false_iff_not,
    beq_iff_eq, Bool.not_eq_false', Bool.or_eq_true, Bool.and_eq_true, decide_eq_true_eq,
    Bool.not_eq_true'] at above ⊢
  rcases Nat.lt_or_eq_of_le (Nat.le_of_not_lt above.1) with smaller | same
  · exact .inl smaller
  · exact .inr ⟨same, .inl (above.2 same.symm).2⟩

private theorem fst_le_of_rankAtMost {left right : Nat × Bool}
    (atMost : rankAtMost left right = true) :
    left.1 ≤ right.1 := by
  simp only [rankAtMost, Bool.or_eq_true, Bool.and_eq_true, decide_eq_true_eq, beq_iff_eq]
    at atMost
  omega

private theorem closest?_eq_none_iff : closest? modules = none ↔ modules = [] := by
  constructor
  · intro nothing
    cases modules with
    | nil => rfl
    | cons first modules =>
        rw [closest?] at nothing
        split at nothing
        · cases nothing
        · split at nothing <;> cases nothing
  · rintro rfl
    rfl

/-- The closest of some modules is the last one of the highest rank. -/
theorem closest?_parts {module : Module} (found : closest? modules = some module) :
    ∃ before after, modules = before ++ module :: after ∧
      (∀ other ∈ modules, rankAtMost other.rank module.rank = true) ∧
        ∀ other ∈ after, rankAtMost module.rank other.rank = false := by
  induction modules generalizing module with
  | nil => cases found
  | cons first modules ih =>
      rw [closest?] at found
      cases later : closest? modules with
      | none =>
          obtain rfl : first = module := by simpa [later] using found
          obtain rfl := closest?_eq_none_iff.mp later
          exact ⟨[], [], rfl, by simp [rankAtMost_refl], by simp⟩
      | some other =>
          obtain ⟨before, after, parts, below, above⟩ := ih later
          simp only [later] at found
          split at found
          case isTrue atMost =>
            obtain rfl : other = module := Option.some.inj found
            exact ⟨first :: before, after, by rw [parts, List.cons_append],
              List.forall_mem_cons.mpr ⟨atMost, below⟩, above⟩
          case isFalse higher =>
            obtain rfl : first = module := Option.some.inj found
            have higher : rankAtMost first.rank other.rank = false := Bool.eq_false_iff.mpr higher
            refine ⟨[], modules, rfl, List.forall_mem_cons.mpr ⟨rankAtMost_refl _, ?_⟩, ?_⟩
            case refine_1 =>
              intro third member
              exact rankAtMost_trans (below third member) (rankAtMost_total higher)
            case refine_2 =>
              intro third member
              cases reached : rankAtMost first.rank third.rank with
              | false => rfl
              | true =>
                  have through := rankAtMost_trans reached (below third member)
                  exact absurd (through.symm.trans higher) Bool.noConfusion

/-! ## The owner of a path -/

theorem owner?_eq_none_iff :
    owner? modules importPath = none ↔ ∀ module ∈ modules, ¬ Covers module.path importPath := by
  rw [owner?, closest?_eq_none_iff, List.filter_eq_nil_iff]
  simp only [owns_iff]

theorem mem_of_owner? {owner : Module} (found : owner? modules importPath = some owner) :
    owner ∈ modules ∧ Covers owner.path importPath := by
  obtain ⟨before, after, parts, -⟩ := closest?_parts found
  have among : owner ∈ modules.filter fun module => module.owns importPath := by
    rw [parts]
    exact List.mem_append_right before List.mem_cons_self
  rw [List.mem_filter, owns_iff] at among
  exact among

/-- No module that covers a path is closer to it than the owner. -/
theorem rankAtMost_of_owner? {owner other : Module}
    (found : owner? modules importPath = some owner) (listed : other ∈ modules)
    (covers : Covers other.path importPath) : rankAtMost other.rank owner.rank = true := by
  obtain ⟨-, -, -, atMost, -⟩ := closest?_parts found
  refine atMost other ?_
  rw [List.mem_filter, owns_iff]
  exact ⟨listed, covers⟩

/-- No module that covers a path has a longer path than the owner. -/
theorem length_le_of_owner? {owner other : Module} (found : owner? modules importPath = some owner)
    (listed : other ∈ modules) (covers : Covers other.path importPath) :
    other.path.length ≤ owner.path.length := by
  have size := fst_le_of_rankAtMost (rankAtMost_of_owner? found listed covers)
  have leads := (mem_of_owner? found).2.isPrefix
  rcases eq_or_size_lt covers.isPrefix leads size with same | ⟨-, shorter⟩
  · exact Nat.le_of_eq (congrArg String.length same)
  · exact shorter

/-- The owner has no version if one of the modules with its path has none. -/
theorem unversioned_of_owner? {owner other : Module}
    (found : owner? modules importPath = some owner) (listed : other ∈ modules)
    (same : other.path = owner.path) (unversioned : other.version = none) :
    owner.version = none := by
  have covers : Covers other.path importPath := same ▸ (mem_of_owner? found).2
  have ranked := rankAtMost_of_owner? found listed covers
  simpa [rankAtMost, rank, same, unversioned] using ranked

/-- The owner of a path has the longest of the paths that cover it. -/
theorem path_of_owner? {owner module : Module} (found : owner? modules importPath = some owner)
    (listed : module ∈ modules) (covers : Covers module.path importPath)
    (longest : ∀ other ∈ modules, Covers other.path importPath →
      other.path.length ≤ module.path.length) : owner.path = module.path := by
  obtain ⟨ownerListed, ownerCovers⟩ := mem_of_owner? found
  exact ownerCovers.eq_of_length covers (Nat.le_antisymm (longest owner ownerListed ownerCovers)
    (length_le_of_owner? found listed covers))

/-- The owners of a path in two lists of the same modules have the same path. -/
theorem path_eq_of_owner? {others : List Module} {left right : Module}
    (same : ∀ module, module ∈ others ↔ module ∈ modules)
    (found : owner? modules importPath = some left)
    (found' : owner? others importPath = some right) : left.path = right.path := by
  obtain ⟨listed, covers⟩ := mem_of_owner? found'
  refine path_of_owner? found ((same right).mp listed) covers fun other listed covers => ?_
  exact length_le_of_owner? found' ((same other).mpr listed) covers

/-- A module that provides an import path: none that covers it has a longer path, and if one with
the same path has no version, then what it provides counts as part of the workspace. -/
structure Provides (modules : List Module) (importPath : String) (owner : Module) : Prop where
  listed : owner ∈ modules
  covers : Covers owner.path importPath
  longest : ∀ other ∈ modules, Covers other.path importPath →
    other.path.length ≤ owner.path.length
  unversioned : ∀ other ∈ modules, other.path = owner.path → other.version = none →
    owner.version = none ∧ owner.packageVersion = workspaceVersion

private theorem provides_of_owner? {owner : Module}
    (found : owner? modules importPath = some owner) :
    Provides modules importPath owner where
  listed := (mem_of_owner? found).1
  covers := (mem_of_owner? found).2
  longest := fun _ => length_le_of_owner? found
  unversioned := by
    intro other listed same unversioned
    have plain := unversioned_of_owner? found listed same unversioned
    exact ⟨plain, by rw [packageVersion, plain, Option.getD_none]⟩

/-- There is no owner of a path exactly if no module covers it. The owner is a module with the
longest path of those that do, and one of the workspace if there is one with that path. Where
modules with the same path have the same version, their order does not matter. -/
theorem owner?_longest (modules : List Module) (importPath : String) :
    (owner? modules importPath = none ↔ ∀ module ∈ modules, ¬ Covers module.path importPath) ∧
      ((∃ module ∈ modules, Covers module.path importPath) →
        ∃ owner, owner? modules importPath = some owner ∧ Provides modules importPath owner) ∧
      ((∀ left ∈ modules, ∀ right ∈ modules, left.path = right.path →
          left.version = right.version) →
        ∀ reordered : List Module, reordered.Perm modules →
          owner? reordered importPath = owner? modules importPath) := by
  refine ⟨owner?_eq_none_iff, ?_, ?_⟩
  · rintro ⟨module, listed, covers⟩
    cases found : owner? modules importPath with
    | none => exact absurd covers (owner?_eq_none_iff.mp found module listed)
    | some owner => exact ⟨owner, rfl, provides_of_owner? found⟩
  · intro agree reordered permuted
    have same : ∀ module, module ∈ reordered ↔ module ∈ modules := fun _ => permuted.mem_iff
    cases found : owner? modules importPath with
    | none =>
        rw [owner?_eq_none_iff] at found ⊢
        exact fun module listed => found module ((same module).mp listed)
    | some owner =>
        cases found' : owner? reordered importPath with
        | none =>
            obtain ⟨listed, covers⟩ := mem_of_owner? found
            exact absurd covers (owner?_eq_none_iff.mp found' owner ((same owner).mpr listed))
        | some other =>
            have path := path_eq_of_owner? same found found'
            have listed := (mem_of_owner? found).1
            have listed' := (same other).mp (mem_of_owner? found').1
            have version := agree owner listed other listed' path
            cases owner
            cases other
            cases path
            cases version
            rfl

def nestedModules : List Module :=
  [⟨"lib.org/repo/sub", none⟩, ⟨"lib.org/repo", some "v1.0.0"⟩,
    ⟨"lib.org/repo/sub", some "v2.0.0"⟩, ⟨"lib.org/repository", some "v3.0.0"⟩]

/-- The module without a version provides what is below it. Without that module every path is listed
once, and the reversed list has the same owner. -/
theorem owner?_longest_example :
    (∃ module ∈ nestedModules, Covers module.path "lib.org/repo/sub/x") ∧
      Provides nestedModules "lib.org/repo/sub/x" ⟨"lib.org/repo/sub", none⟩ ∧
      (∀ left ∈ nestedModules.tail, ∀ right ∈ nestedModules.tail, left.path = right.path →
        left.version = right.version) ∧
      nestedModules.tail.reverse.Perm nestedModules.tail ∧
      owner? nestedModules.tail.reverse "lib.org/repo/sub/x" =
        some ⟨"lib.org/repo/sub", some "v2.0.0"⟩ := by
  have covered : ∃ module ∈ nestedModules, Covers module.path "lib.org/repo/sub/x" := by
    refine ⟨⟨"lib.org/repo/sub", none⟩, List.mem_cons_self, .inr ⟨"x", ?_⟩⟩
    decide +kernel
  have agree : ∀ left ∈ nestedModules.tail, ∀ right ∈ nestedModules.tail,
      left.path = right.path → left.version = right.version := by decide +kernel
  have permuted : nestedModules.tail.reverse.Perm nestedModules.tail := List.reverse_perm _
  obtain ⟨owner, found, provides⟩ :=
    (owner?_longest nestedModules "lib.org/repo/sub/x").2.1 covered
  have known : owner? nestedModules "lib.org/repo/sub/x" = some ⟨"lib.org/repo/sub", none⟩ := by
    decide +kernel
  obtain rfl : ⟨"lib.org/repo/sub", none⟩ = owner := Option.some.inj (known.symm.trans found)
  refine ⟨covered, provides, agree, permuted, ?_⟩
  rw [(owner?_longest nestedModules.tail "lib.org/repo/sub/x").2.2 agree _ permuted]
  decide +kernel

/-! ## The version at a path -/

/-- The version of what the modules with one path provide: that of the workspace if one of them has
no version, and that of the last of them otherwise. -/
def rootVersion? (modules : List Module) (root : String) : Option String :=
  let versions := (modules.filter fun module => module.path == root).map Module.version
  if none ∈ versions then some workspaceVersion else versions.getLast?.join

/-- The modules with a path that covers an import path are among those that own it. -/
theorem filter_owned {root : String} (covers : Covers root importPath) :
    ((modules.filter fun module => module.owns importPath).filter fun module =>
        module.path == root) =
      modules.filter fun module => module.path == root := by
  rw [List.filter_filter]
  refine List.filter_congr fun module _ => ?_
  cases same : module.path == root with
  | false => rfl
  | true =>
      have owned : module.owns importPath = true := by
        rw [owns_iff, eq_of_beq same]
        exact covers
      rw [owned, Bool.and_self]

/-- The owner of a path has the version that the modules with its own path give. -/
theorem rootVersion?_of_owner? {owner : Module} (found : owner? modules importPath = some owner) :
    rootVersion? modules owner.path = some owner.packageVersion := by
  obtain ⟨before, after, parts, -, above⟩ := closest?_parts found
  unfold rootVersion? packageVersion
  rw [← filter_owned (mem_of_owner? found).2, parts, List.filter_append, List.filter_cons,
    if_pos (beq_self_eq_true _)]
  simp only [List.map_append, List.map_cons]
  cases version : owner.version with
  | none => simp
  | some version' =>
      -- The owner is no peer without a version, and a later one is not as close.
      have versioned : none ∉ (before.filter fun module => module.path == owner.path).map
          Module.version := by
        rw [List.mem_map]
        rintro ⟨other, peer, unversioned⟩
        obtain ⟨earlier, same⟩ := List.mem_filter.mp peer
        have owned : other ∈ modules.filter fun module => module.owns importPath := by
          rw [parts]
          exact List.mem_append_left _ earlier
        have plain := unversioned_of_owner? found (List.mem_of_mem_filter owned) (eq_of_beq same)
          unversioned
        exact nomatch version.symm.trans plain
      have last : (after.filter fun module => module.path == owner.path) = [] := by
        rw [List.filter_eq_nil_iff]
        intro other later same
        have lower := above other later
        simp [rankAtMost, rank, eq_of_beq same, version] at lower
      rw [last, List.map_nil, if_neg, List.getLast?_concat]
      · rfl
      · simpa using versioned

end SymbolCache.Module
