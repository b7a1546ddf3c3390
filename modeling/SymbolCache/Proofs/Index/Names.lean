import Mathlib.Tactic.Common
import SymbolCache.Index.Basic
import Std.Data.ExtTreeMap.Lemmas
import Std.Data.ExtTreeSet.Lemmas

/-!
# Names by key

The laws of the maps that lead from a key to a set of names. A map is pruned if none of its keys is
without names; pruned maps are equal as soon as every key leads to the same names.
-/

set_option autoImplicit false

namespace SymbolCache.Index

variable {names : Std.ExtTreeMap String (Std.ExtTreeSet String)}

/-! ## Maps without a value -/

section

variable {α : Type} {map : Std.ExtTreeMap String α} {blank : α}
  (filled : ∀ (key : String) (value : α), map[key]? = some value → value ≠ blank)

include filled

theorem ne_of_getElem?_insert (key : String) {value : α} (other : value ≠ blank)
    (key' : String) (value' : α) (found : (map.insert key value)[key']? = some value') :
    value' ≠ blank := by
  rw [Std.ExtTreeMap.getElem?_insert] at found
  split at found
  · cases found
    exact other
  · exact filled key' value' found

theorem ne_of_getElem?_erase (key key' : String) (value : α)
    (found : (map.erase key)[key']? = some value) : value ≠ blank := by
  rw [Std.ExtTreeMap.getElem?_erase] at found
  split at found
  · cases found
  · exact filled key' value found

end

def Pruned (names : Std.ExtTreeMap String (Std.ExtTreeSet String)) : Prop :=
  ∀ (key : String) (set : Std.ExtTreeSet String), names[key]? = some set → set ≠ ∅

theorem pruned_empty : Pruned ∅ := by
  intro key set found
  simp at found

/-! ## The names at a key -/

theorem namesAt_of_getElem? {key : String} {set : Std.ExtTreeSet String}
    (found : names[key]? = some set) : namesAt names key = set := by
  rw [namesAt, Std.ExtTreeMap.getD_eq_getD_getElem?, found, Option.getD_some]

@[simp] theorem not_mem_namesAt_empty (key name : String) : name ∉ namesAt ∅ key := by
  simp [namesAt]

theorem mem_namesAt_insertName (key name key' name' : String) :
    name' ∈ namesAt (insertName names key name) key' ↔
      (key' = key ∧ name' = name) ∨ name' ∈ namesAt names key' := by
  by_cases same : key' = key
  · subst key'
    simp [namesAt, insertName, @eq_comm _ name name']
  · have different : ¬ key = key' := fun equal => same equal.symm
    simp [namesAt, insertName, Std.ExtTreeMap.getD_insert, same, different]

theorem mem_namesAt_erase (key key' name' : String) :
    name' ∈ namesAt (names.erase key) key' ↔ key' ≠ key ∧ name' ∈ namesAt names key' := by
  by_cases same : key' = key
  · subst key'
    simp [namesAt]
  · have different : ¬ key = key' := fun equal => same equal.symm
    simp [namesAt, Std.ExtTreeMap.getD_erase, same, different]

theorem mem_namesAt_eraseName (key name key' name' : String) :
    name' ∈ namesAt (eraseName names key name) key' ↔
      name' ∈ namesAt names key' ∧ ¬ (key' = key ∧ name' = name) := by
  unfold eraseName
  dsimp only
  by_cases gone : ((namesAt names key).erase name).isEmpty = true
  · rw [if_pos gone, mem_namesAt_erase]
    have last : ∀ other, other ∈ namesAt names key → other = name := by
      intro other member
      by_contra different
      have kept : other ∈ (namesAt names key).erase name := by
        simp [member, Ne.symm different]
      rw [Std.ExtTreeSet.isEmpty_iff.mp gone] at kept
      simp at kept
    constructor
    · rintro ⟨different, member⟩
      exact ⟨member, fun both => different both.1⟩
    · rintro ⟨member, other⟩
      refine ⟨fun same => other ⟨same, last _ (same ▸ member)⟩, member⟩
  · rw [if_neg gone]
    by_cases same : key' = key
    · subst key'
      simp [namesAt, and_comm, @eq_comm _ name name']
    · have different : ¬ key = key' := fun equal => same equal.symm
      simp [namesAt, Std.ExtTreeMap.getD_insert, same, different]

theorem Pruned.insertName (pruned : Pruned names) (key name : String) :
    Pruned (insertName names key name) :=
  ne_of_getElem?_insert pruned key Std.ExtTreeSet.insert_ne_empty

theorem Pruned.erase (pruned : Pruned names) (key : String) : Pruned (names.erase key) :=
  ne_of_getElem?_erase pruned key

theorem Pruned.eraseName (pruned : Pruned names) (key name : String) :
    Pruned (eraseName names key name) := by
  unfold Index.eraseName
  dsimp only
  by_cases gone : ((namesAt names key).erase name).isEmpty = true
  · rw [if_pos gone]
    exact pruned.erase key
  · rw [if_neg gone]
    exact ne_of_getElem?_insert pruned key fun empty => gone (Std.ExtTreeSet.isEmpty_iff.mpr empty)

/-- A pruned map has a key exactly where there are names. -/
theorem Pruned.getElem?_eq (pruned : Pruned names) (key : String) :
    names[key]? = if namesAt names key = ∅ then none else some (namesAt names key) := by
  cases found : names[key]? with
  | none =>
      have absent : namesAt names key = ∅ := by
        rw [namesAt, Std.ExtTreeMap.getD_eq_getD_getElem?, found, Option.getD_none]
      rw [if_pos absent]
  | some set =>
      rw [namesAt_of_getElem? found, if_neg (pruned key set found)]

theorem Pruned.ext {other : Std.ExtTreeMap String (Std.ExtTreeSet String)}
    (pruned : Pruned names) (otherPruned : Pruned other)
    (same : ∀ key name, name ∈ namesAt names key ↔ name ∈ namesAt other key) : names = other := by
  apply Std.ExtTreeMap.ext_getElem?
  intro key
  have equal : namesAt names key = namesAt other key := Std.ExtTreeSet.ext_mem (same key)
  rw [pruned.getElem?_eq, otherPruned.getElem?_eq, equal]

/-! ## All names -/

theorem namesAt_of_mem_toList {entry : String × Std.ExtTreeSet String compare}
    (member : entry ∈ names.toList) : namesAt names entry.1 = entry.2 :=
  namesAt_of_getElem? (Std.ExtTreeMap.mem_toList_iff_getElem?_eq_some.mp member)

theorem mem_toList_of_mem_namesAt {key name : String} (member : name ∈ namesAt names key) :
    (key, namesAt names key) ∈ names.toList := by
  rw [Std.ExtTreeMap.mem_toList_iff_getElem?_eq_some]
  cases found : names[key]? with
  | none =>
      rw [namesAt, Std.ExtTreeMap.getD_eq_getD_getElem?, found, Option.getD_none] at member
      simp at member
  | some set => rw [namesAt_of_getElem? found]

theorem mem_flatMap_toList (name : String) :
    name ∈ (names.toList.flatMap fun entry => entry.2.toList) ↔
      ∃ key, name ∈ namesAt names key := by
  rw [List.mem_flatMap]
  constructor
  · rintro ⟨entry, member, inSet⟩
    refine ⟨entry.1, ?_⟩
    rw [namesAt_of_mem_toList member]
    exact Std.ExtTreeSet.mem_toList.mp inSet
  · rintro ⟨key, member⟩
    exact ⟨_, mem_toList_of_mem_namesAt member, Std.ExtTreeSet.mem_toList.mpr member⟩

end SymbolCache.Index
