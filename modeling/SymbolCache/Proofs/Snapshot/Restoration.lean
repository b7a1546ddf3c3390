import Mathlib.Data.List.Basic
import SymbolCache.Proofs.Entries
import SymbolCache.Proofs.Index.Consistency
import SymbolCache.Proofs.Snapshot.RoundTrip

/-!
# Restoring indexes

A snapshot holds the symbols and the versions of an index. From these alone the whole index comes
back if it was consistent: a consistent index is determined by its versions and the lists of its
names, and nothing in it is refused on the way.
-/

set_option autoImplicit false

namespace SymbolCache

/-! ## Indexes -/

namespace Index

theorem addAll_append (index : Index) (first second : List Symbol) :
    index.addAll (first ++ second) = (index.addAll first).addAll second :=
  List.foldl_append

theorem listed_addAll (index : Index) (symbols : List Symbol) (name : String) :
    (index.addAll symbols).listed name =
      index.listed name ++
        symbols.filter fun symbol => symbol.isExported && symbol.name == name := by
  induction symbols generalizing index with
  | nil => exact (List.append_nil _).symm
  | cons symbol symbols ih =>
      rw [addAll_cons, ih]
      cases exported : symbol.isExported with
      | false => simp [add_of_not_exported exported, exported]
      | true => by_cases same : symbol.name = name <;> simp [listed_add exported, exported, same]

private theorem Filed.symbols_ext {left right : Index} (leftFiled : left.Filed)
    (rightFiled : right.Filed)
    (listed : ∀ name, left.listed name = right.listed name) : left.symbols = right.symbols := by
  apply Std.ExtTreeMap.ext_getElem?
  intro name
  rw [leftFiled.getElem?_symbols, rightFiled.getElem?_symbols, listed]

/-- The versions and the lists of the names determine a consistent index. -/
theorem Consistent.ext {left right : Index} (leftConsistent : left.Consistent)
    (rightConsistent : right.Consistent) (packages : left.packages = right.packages)
    (listed : ∀ name, left.listed name = right.listed name) : left = right := by
  have symbols : left.symbols = right.symbols :=
    leftConsistent.toFiled.symbols_ext rightConsistent.toFiled listed
  have byPackage : left.byPackage = right.byPackage := by
    apply leftConsistent.byPackage_pruned.ext rightConsistent.byPackage_pruned
    intro path name
    rw [leftConsistent.byPackage, rightConsistent.byPackage, records, records, listed]
  have byLower : left.byLower = right.byLower := by
    apply leftConsistent.byLower_pruned.ext rightConsistent.byLower_pruned
    intro key name
    rw [leftConsistent.byLower, rightConsistent.byLower, listed]
  cases left
  cases right
  congr

/-- All symbols under names of their own, taken name by name, are those of a name once again. -/
theorem filter_flatMap_toList {symbols : Std.ExtTreeMap String (List Symbol)}
    (own : ∀ (name : String) (list : List Symbol), symbols[name]? = some list →
      ∀ symbol ∈ list, symbol.isExported = true ∧ symbol.name = name) (name : String) :
    (symbols.toList.flatMap Prod.snd).filter
        (fun symbol => symbol.isExported && symbol.name == name) = symbols[name]?.getD [] := by
  have entry : ∀ entry ∈ symbols.toList,
      entry.2.filter (fun symbol => symbol.isExported && symbol.name == name) =
        if entry.1 = name then entry.2 else [] := by
    intro entry member
    have entryOwn := own entry.1 entry.2 (Std.ExtTreeMap.mem_toList_iff_getElem?_eq_some.mp member)
    split
    case isTrue same =>
      rw [List.filter_eq_self]
      intro symbol inside
      simp [entryOwn symbol inside, same]
    case isFalse different =>
      rw [List.filter_eq_nil_iff]
      intro symbol inside
      simp [entryOwn symbol inside, different]
  rw [List.filter_flatMap, List.flatMap_congr entry,
    Entries.flatMap_at _ Std.ExtTreeMap.distinct_keys_toList, Entries.find?_toList]

theorem Filed.own {index : Index} (filed : index.Filed) (name : String) (list : List Symbol)
    (found : index.symbols[name]? = some list) :
    ∀ symbol ∈ list, symbol.isExported = true ∧ symbol.name = name := by
  intro symbol member
  rw [← listed_of_getElem? found] at member
  exact ⟨filed.exported name symbol member, filed.named name symbol member⟩

end Index

/-! ## Snapshots -/

namespace Snapshot

/-- The symbols under a name are all added, or the first one that does not belong there is
refused. -/
theorem restoreSymbols_eq_ok_iff {name : String} {symbols : List Symbol} {index restored : Index} :
    restoreSymbols name index symbols = .ok restored ↔
      (∀ symbol ∈ symbols, symbolFault? name symbol = none) ∧ restored = index.addAll symbols := by
  induction symbols generalizing index with
  | nil => simp [restoreSymbols, Index.addAll, @eq_comm _ index]
  | cons symbol symbols ih =>
      rw [restoreSymbols, List.forall_mem_cons]
      cases fault : symbolFault? name symbol with
      | some failure => simp
      | none => simpa [Index.addAll_cons] using ih

/-- The symbols under all names are added one after another, or one is refused. -/
theorem restoreNames_eq_ok_iff {entries : List (String × List Symbol)} {index restored : Index} :
    restoreNames index entries = .ok restored ↔
      (∀ entry ∈ entries, ∀ symbol ∈ entry.2, symbolFault? entry.1 symbol = none) ∧
        restored = index.addAll (entries.flatMap Prod.snd) := by
  induction entries generalizing index with
  | nil => simp [restoreNames, Index.addAll, @eq_comm _ index]
  | cons entry entries ih =>
      obtain ⟨name, symbols⟩ := entry
      rw [restoreNames, List.forall_mem_cons, List.flatMap_cons, Index.addAll_append]
      cases first : restoreSymbols name index symbols with
      | error failure =>
          have refused : ¬ ∀ symbol ∈ symbols, symbolFault? name symbol = none := by
            intro sound
            rw [restoreSymbols_eq_ok_iff.mpr ⟨sound, rfl⟩] at first
            cases first
          exact iff_of_false (by rintro ⟨⟩) fun both => refused both.1.1
      | ok between =>
          obtain ⟨sound, rfl⟩ := restoreSymbols_eq_ok_iff.mp first
          rw [and_iff_right sound]
          exact ih

/-- What a snapshot is restored to is made by adding its symbols name by name. -/
theorem toIndex_eq_ok_iff {snapshot : Snapshot} {index : Index} :
    snapshot.toIndex = .ok index ↔
      (∀ entry ∈ snapshot.symbols.toList, ∀ symbol ∈ entry.2,
        symbolFault? entry.1 symbol = none) ∧
      index = (Index.empty.mergeVersions snapshot.packages).addAll
        (snapshot.symbols.toList.flatMap Prod.snd) :=
  restoreNames_eq_ok_iff

/-- Whatever a snapshot holds, the index that is made of it is a reachable one. -/
theorem reachable_of_toIndex {snapshot : Snapshot} {index : Index}
    (restores : snapshot.toIndex = .ok index) : index.Reachable := by
  obtain ⟨_, rfl⟩ := toIndex_eq_ok_iff.mp restores
  exact (Index.Reachable.empty.mergeVersions _).addAll _

/-- An index never holds a symbol that would be refused. -/
theorem symbolFault?_of_filed {index : Index} (filed : index.Filed) :
    ∀ entry ∈ index.symbols.toList, ∀ symbol ∈ entry.2, symbolFault? entry.1 symbol = none := by
  intro entry member symbol inside
  have found := Std.ExtTreeMap.mem_toList_iff_getElem?_eq_some.mp member
  obtain ⟨exported, named⟩ := filed.own entry.1 entry.2 found symbol inside
  simp [symbolFault?, exported, named]

theorem packages_mergeVersions_empty (versions : Std.ExtTreeMap String String) :
    (Index.empty.mergeVersions versions).packages = versions := by
  apply Std.ExtTreeMap.ext_getElem?
  intro path
  have version := Index.version?_mergeVersions Index.empty versions path
  have none : Index.empty.version? path = none := by simp [Index.empty, Index.version?]
  rw [none, Option.or_none] at version
  exact version

/-- The snapshot of a consistent index gives all four maps of it back. -/
theorem toIndex_capture {index : Index} (consistent : index.Consistent)
    (toolchainVersion : String) (time : Nat) :
    (capture index toolchainVersion time).toIndex = .ok index := by
  have merged := Index.consistent_empty.mergeVersions index.packages
  refine toIndex_eq_ok_iff.mpr ⟨symbolFault?_of_filed consistent.toFiled, ?_⟩
  symm
  apply (merged.addAll _).ext consistent
  · rw [Index.packages_addAll, packages_mergeVersions_empty]
  · intro name
    have nothing : (Index.empty.mergeVersions index.packages).listed name = [] := by
      rw [Index.listed_mergeVersions, Index.listed_empty]
    rw [Index.listed_addAll, nothing, List.nil_append, Index.listed_eq_getElem?]
    exact Index.filter_flatMap_toList consistent.own name

end Snapshot

end SymbolCache
