import Mathlib.Tactic.Common

/-!
# Stable sorting by a key

When a list is sorted by an order whose ties are the elements of one key, the elements of a key stay
in their order. So the sorted list is determined by the elements of every key in their order,
however the keys are mixed in the list before.
-/

set_option autoImplicit false

namespace SymbolCache.StableOrder

variable {α κ : Type} {key : α → κ} {atMost : α → α → Bool}

structure Orders (key : α → κ) (atMost : α → α → Bool) : Prop where
  trans : ∀ first second third, atMost first second = true → atMost second third = true →
    atMost first third = true
  total : ∀ first second, (atMost first second || atMost second first) = true
  tie_iff : ∀ first second,
    (atMost first second = true ∧ atMost second first = true) ↔ key first = key second

private theorem Orders.head_atMost (orders : Orders key atMost) {first : α} {rest : List α}
    (sorted : (first :: rest).Pairwise fun first second => atMost first second = true) {other : α}
    (member : other ∈ first :: rest) : atMost first other = true := by
  rcases List.mem_cons.mp member with rfl | member
  · exact ((orders.tie_iff other other).mpr rfl).1
  · exact (List.pairwise_cons.mp sorted).1 other member

variable [DecidableEq κ]

/-- Sorting leaves the elements of a key as they are. -/
theorem Orders.filter_mergeSort (orders : Orders key atMost) (list : List α) (value : κ) :
    (list.mergeSort atMost).filter (fun element => key element = value) =
      list.filter fun element => key element = value := by
  have sorted : (list.filter fun element => key element = value).Pairwise
      fun first second => atMost first second = true := by
    apply List.pairwise_of_forall_mem_list
    intro first firstMember second secondMember
    have firstKey : key first = value := by simpa using (List.mem_filter.mp firstMember).2
    have secondKey : key second = value := by simpa using (List.mem_filter.mp secondMember).2
    exact ((orders.tie_iff first second).mpr (firstKey.trans secondKey.symm)).1
  have kept : (list.filter fun element => key element = value).Sublist
      (list.mergeSort atMost) :=
    List.sublist_mergeSort orders.trans orders.total sorted List.filter_sublist
  have within : (list.filter fun element => key element = value).Sublist
      ((list.mergeSort atMost).filter fun element => key element = value) := by
    have filtered := kept.filter fun element => decide (key element = value)
    rwa [List.filter_filter, List.filter_congr (fun element _ => Bool.and_self _)] at filtered
  have sameLength := ((List.mergeSort_perm list atMost).filter
    fun element => decide (key element = value)).length_eq
  exact (within.eq_of_length sameLength.symm).symm

theorem mem_iff_of_filter_eq {left right : List α}
    (same : ∀ value, left.filter (fun element => key element = value) =
      right.filter fun element => key element = value) (element : α) :
    element ∈ left ↔ element ∈ right := by
  have filtered : element ∈ left.filter (fun other => key other = key element) ↔
      element ∈ right.filter fun other => key other = key element := by
    rw [same]
  simpa using filtered

private theorem filter_eq_of_cons {first : α} {left right : List α}
    (same : ∀ value, (first :: left).filter (fun element => key element = value) =
      (first :: right).filter fun element => key element = value) (value : κ) :
    left.filter (fun element => key element = value) =
      right.filter fun element => key element = value := by
  have whole := same value
  simp only [List.filter_cons] at whole
  split at whole
  · exact List.tail_eq_of_cons_eq whole
  · exact whole

/-- Two sorted lists are equal if they have the same elements of every key in the same order. -/
theorem Orders.eq_of_filter_eq (orders : Orders key atMost) {left right : List α}
    (leftSorted : left.Pairwise fun first second => atMost first second = true)
    (rightSorted : right.Pairwise fun first second => atMost first second = true)
    (same : ∀ value, left.filter (fun element => key element = value) =
      right.filter fun element => key element = value) : left = right := by
  induction left generalizing right with
  | nil =>
      cases right with
      | nil => rfl
      | cons second right =>
          exact absurd ((mem_iff_of_filter_eq same second).mpr List.mem_cons_self) List.not_mem_nil
  | cons first left ih =>
      cases right with
      | nil =>
          exact absurd ((mem_iff_of_filter_eq same first).mp List.mem_cons_self) List.not_mem_nil
      | cons second right =>
          have mem_iff := mem_iff_of_filter_eq same
          -- Both heads are least elements of the same elements, so that they tie.
          have forward : atMost first second = true :=
            orders.head_atMost leftSorted ((mem_iff second).mpr List.mem_cons_self)
          have backward : atMost second first = true :=
            orders.head_atMost rightSorted ((mem_iff first).mp List.mem_cons_self)
          have tied : key second = key first :=
            ((orders.tie_iff first second).mp ⟨forward, backward⟩).symm
          have heads := same (key first)
          simp only [List.filter_cons, decide_true, tied, if_true, List.cons.injEq] at heads
          obtain ⟨rfl, _⟩ := heads
          rw [ih leftSorted.of_cons rightSorted.of_cons (filter_eq_of_cons same)]

/-- Sorting gives one result for lists with the same elements of every key in the same order. -/
theorem Orders.mergeSort_eq_of_filter_eq (orders : Orders key atMost) {left right : List α}
    (same : ∀ value, left.filter (fun element => key element = value) =
      right.filter fun element => key element = value) :
    left.mergeSort atMost = right.mergeSort atMost := by
  apply orders.eq_of_filter_eq
  · exact List.pairwise_mergeSort orders.trans orders.total left
  · exact List.pairwise_mergeSort orders.trans orders.total right
  · intro value
    rw [orders.filter_mergeSort, orders.filter_mergeSort, same]

/-- What is sorted after some elements are left out is what is left when all are sorted. -/
theorem Orders.mergeSort_filter (orders : Orders key atMost) (list : List α) (keeps : α → Bool) :
    (list.filter keeps).mergeSort atMost = (list.mergeSort atMost).filter keeps := by
  apply orders.eq_of_filter_eq
  · exact List.pairwise_mergeSort orders.trans orders.total _
  · exact (List.pairwise_mergeSort orders.trans orders.total list).filter _
  · intro value
    rw [orders.filter_mergeSort, List.filter_filter, List.filter_filter]
    simp only [Bool.and_comm (decide _)]
    rw [← List.filter_filter, ← List.filter_filter, orders.filter_mergeSort]

end SymbolCache.StableOrder
