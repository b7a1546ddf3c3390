import Mathlib.Tactic.Common
import Std.Data.ExtTreeMap.Lemmas

/-!
# Entries of a map

A map and the list of its entries tell the same: a key leads to the value of the one entry that has
it, and the map of the entries of a map is that map again.
-/

set_option autoImplicit false

namespace SymbolCache.Entries

variable {α : Type}

def Distinct (entries : List (String × α)) : Prop :=
  entries.Pairwise fun left right => ¬ compare left.1 right.1 = .eq

theorem distinct_of_nodup {entries : List (String × α)}
    (nodup : (entries.map Prod.fst).Nodup) : Distinct entries := by
  have pairwise := List.pairwise_map.mp nodup
  exact pairwise.imp fun different equal => different (Std.compare_eq_iff_eq.mp equal)

theorem getElem?_ofList (entries : List (String × α)) (distinct : Distinct entries)
    (key : String) :
    (Std.ExtTreeMap.ofList entries compare)[key]? =
      (entries.find? fun entry => entry.1 == key).map Prod.snd := by
  cases found : entries.find? fun entry => entry.1 == key with
  | none =>
      have absent := List.find?_eq_none.mp found
      rw [Option.map_none]
      apply Std.ExtTreeMap.getElem?_ofList_of_contains_eq_false
      rw [List.contains_eq_any_beq, List.any_eq_false]
      intro other member same
      obtain ⟨entry, inside, rfl⟩ := List.mem_map.mp member
      have equal : key = entry.1 := eq_of_beq same
      exact absent entry inside (beq_iff_eq.mpr equal.symm)
  | some entry =>
      have same := List.find?_some found
      rw [Option.map_some]
      exact Std.ExtTreeMap.getElem?_ofList_of_mem
        (Std.compare_eq_iff_eq.mpr (eq_of_beq same)) distinct
        (List.mem_of_find?_eq_some found)

theorem ofList_toList (map : Std.ExtTreeMap String α) :
    Std.ExtTreeMap.ofList map.toList compare = map := by
  apply Std.ExtTreeMap.ext_getElem?
  intro key
  cases found : map[key]? with
  | none =>
      apply Std.ExtTreeMap.getElem?_ofList_of_contains_eq_false
      rw [Std.ExtTreeMap.map_fst_toList_eq_keys, List.contains_eq_mem, decide_eq_false_iff_not,
        Std.ExtTreeMap.mem_keys, Std.ExtTreeMap.mem_iff_isSome_getElem?, found]
      exact Bool.false_ne_true
  | some value =>
      exact Std.ExtTreeMap.getElem?_ofList_of_mem (Std.compare_eq_iff_eq.mpr rfl)
        Std.ExtTreeMap.distinct_keys_toList
        (Std.ExtTreeMap.mem_toList_iff_getElem?_eq_some.mpr found)

theorem find?_toList (map : Std.ExtTreeMap String α) (key : String) :
    (map.toList.find? fun entry => entry.1 == key).map Prod.snd = map[key]? := by
  rw [← getElem?_ofList map.toList Std.ExtTreeMap.distinct_keys_toList, ofList_toList]

/-- The lists under one key, taken together, are the list of the one entry that has it. -/
theorem flatMap_at (entries : List (String × List α)) (distinct : Distinct entries)
    (key : String) :
    (entries.flatMap fun entry => if entry.1 = key then entry.2 else []) =
      ((entries.find? fun entry => entry.1 == key).map Prod.snd).getD [] := by
  induction entries with
  | nil => rfl
  | cons entry entries ih =>
      obtain ⟨others, rest⟩ := List.pairwise_cons.mp distinct
      rw [List.flatMap_cons]
      by_cases same : entry.1 = key
      · have later : ∀ other ∈ entries, (if other.1 = key then other.2 else []) = [] := by
          intro other member
          refine if_neg fun equal => others other member ?_
          exact Std.compare_eq_iff_eq.mpr (same.trans equal.symm)
        rw [List.flatMap_eq_nil_iff.mpr later]
        simp [same]
      · rw [ih rest]
        simp [same]

end SymbolCache.Entries
