import SymbolCache.Proofs.Index.Names

/-!
# Consistency of the index

The four maps of an index agree with each other: every name has symbols, all of them exported and of
that name, a package leads to the names of its symbols, and a lower-case form to the names that it
comes from. Every change of an index keeps it consistent, and changes the symbols of one package
under one name in the way that its name says.
-/

set_option autoImplicit false

namespace SymbolCache.Index

def listed (index : Index) (name : String) : List Symbol :=
  index.symbols.getD name []

def records (index : Index) (path name : String) : List Symbol :=
  (index.listed name).filter fun symbol => symbol.packagePath == path

/-- The names with symbols agree with the lower-case forms. This does not concern packages, so that
it holds while a package is being removed name by name. -/
structure Filed (index : Index) : Prop where
  filled : ∀ (name : String) (list : List Symbol), index.symbols[name]? = some list → list ≠ []
  exported : ∀ name, ∀ symbol ∈ index.listed name, symbol.isExported = true
  named : ∀ name, ∀ symbol ∈ index.listed name, symbol.name = name
  byLower : ∀ key name, name ∈ namesAt index.byLower key ↔
    index.listed name ≠ [] ∧ Text.lowerCase name = key
  byLower_pruned : Pruned index.byLower

structure Consistent (index : Index) : Prop extends Filed index where
  byPackage : ∀ path name, name ∈ namesAt index.byPackage path ↔ index.records path name ≠ []
  byPackage_pruned : Pruned index.byPackage

theorem listed_eq_getElem? (index : Index) (name : String) :
    index.listed name = index.symbols[name]?.getD [] :=
  Std.ExtTreeMap.getD_eq_getD_getElem?

theorem listed_of_getElem? {index : Index} {name : String} {list : List Symbol}
    (found : index.symbols[name]? = some list) : index.listed name = list := by
  rw [listed_eq_getElem?, found, Option.getD_some]

theorem mem_records {index : Index} {path name : String} {symbol : Symbol} :
    symbol ∈ index.records path name ↔
      symbol ∈ index.listed name ∧ symbol.packagePath = path := by
  simp [records]

theorem records_ne_nil_iff {index : Index} {path name : String} :
    index.records path name ≠ [] ↔
      ∃ symbol ∈ index.listed name, symbol.packagePath = path := by
  simp [records]

theorem listed_ne_nil_iff {index : Index} {name : String} :
    index.listed name ≠ [] ↔ ∃ path, index.records path name ≠ [] := by
  constructor
  · intro filled
    obtain ⟨symbol, member⟩ := List.exists_mem_of_ne_nil _ filled
    exact ⟨symbol.packagePath, records_ne_nil_iff.mpr ⟨symbol, member, rfl⟩⟩
  · rintro ⟨path, filled⟩ empty
    simp [records, empty] at filled

theorem Filed.getElem?_symbols {index : Index} (filed : index.Filed) (name : String) :
    index.symbols[name]? = if index.listed name = [] then none else some (index.listed name) := by
  rw [listed_eq_getElem?]
  cases found : index.symbols[name]? with
  | none => simp
  | some list => simp [filed.filled name list found]

@[simp] theorem listed_empty (name : String) : empty.listed name = [] := by
  simp [listed, empty]

@[simp] theorem records_empty (path name : String) : empty.records path name = [] := by
  simp [records]

theorem consistent_empty : empty.Consistent where
  filled := by simp [empty]
  exported := by simp
  named := by simp
  byLower key name := by
    rw [listed_empty]
    exact iff_of_false (not_mem_namesAt_empty key name) (fun both => both.1 rfl)
  byLower_pruned := pruned_empty
  byPackage path name := by
    rw [records_empty]
    exact iff_of_false (not_mem_namesAt_empty path name) (fun filled => filled rfl)
  byPackage_pruned := pruned_empty

/-! ## Adding symbols -/

theorem add_of_not_exported {index : Index} {symbol : Symbol}
    (hidden : symbol.isExported = false) : index.add symbol = index := by
  simp [add, hidden]

@[simp] theorem packages_add (index : Index) (symbol : Symbol) :
    (index.add symbol).packages = index.packages := by
  unfold add
  split <;> rfl

section

variable {index : Index} {symbol : Symbol} (exported : symbol.isExported = true)

include exported

private theorem symbols_add :
    (index.add symbol).symbols =
      index.symbols.insert symbol.name (index.listed symbol.name ++ [symbol]) := by
  simp [add, exported, listed]

private theorem byPackage_add :
    (index.add symbol).byPackage =
      insertName index.byPackage symbol.packagePath symbol.name := by
  simp [add, exported]

private theorem byLower_add :
    (index.add symbol).byLower =
      insertName index.byLower (Text.lowerCase symbol.name) symbol.name := by
  simp [add, exported]

theorem listed_add (name : String) :
    (index.add symbol).listed name =
      if symbol.name = name then index.listed name ++ [symbol] else index.listed name := by
  simp only [listed, symbols_add exported, Std.ExtTreeMap.getD_insert, Std.compare_eq_iff_eq]
  split
  case isTrue same => rw [same]
  case isFalse => rfl

theorem mem_listed_add {name : String} {other : Symbol} :
    other ∈ (index.add symbol).listed name ↔
      other ∈ index.listed name ∨ other = symbol ∧ symbol.name = name := by
  rw [listed_add exported]
  by_cases same : symbol.name = name <;> simp [same]

private theorem listed_add_ne_nil_iff {name : String} :
    (index.add symbol).listed name ≠ [] ↔ symbol.name = name ∨ index.listed name ≠ [] := by
  rw [listed_add exported]
  by_cases same : symbol.name = name <;> simp [same]

theorem Filed.add (filed : index.Filed) : (index.add symbol).Filed where
  filled := by
    rw [symbols_add exported]
    exact ne_of_getElem?_insert filed.filled symbol.name (by simp)
  exported name other member := by
    rcases (mem_listed_add exported).mp member with old | ⟨rfl, _⟩
    · exact filed.exported name other old
    · exact exported
  named name other member := by
    rcases (mem_listed_add exported).mp member with old | ⟨rfl, same⟩
    · exact filed.named name other old
    · exact same
  byLower key name := by
    rw [byLower_add exported, mem_namesAt_insertName, filed.byLower,
      listed_add_ne_nil_iff exported]
    constructor
    · rintro (⟨rfl, rfl⟩ | ⟨listed, lower⟩)
      · exact ⟨.inl rfl, rfl⟩
      · exact ⟨.inr listed, lower⟩
    · rintro ⟨rfl | listed, rfl⟩
      · exact .inl ⟨rfl, rfl⟩
      · exact .inr ⟨listed, rfl⟩
  byLower_pruned := by
    rw [byLower_add exported]
    exact filed.byLower_pruned.insertName _ _

end

def isRecord (path name : String) (symbol : Symbol) : Bool :=
  symbol.isExported && symbol.packagePath == path && symbol.name == name

private theorem records_add (index : Index) (symbol : Symbol) (path name : String) :
    (index.add symbol).records path name =
      index.records path name ++ [symbol].filter (isRecord path name) := by
  cases exported : symbol.isExported with
  | false => simp [add_of_not_exported exported, isRecord, exported]
  | true =>
      by_cases same : symbol.name = name
      · by_cases owned : symbol.packagePath = path <;>
          simp [records, listed_add exported, same, isRecord, exported, owned]
      · simp [records, listed_add exported, same, isRecord]

private theorem records_add_ne_nil_iff {index : Index} {symbol : Symbol}
    (exported : symbol.isExported = true) {path name : String} :
    (index.add symbol).records path name ≠ [] ↔
      (path = symbol.packagePath ∧ name = symbol.name) ∨ index.records path name ≠ [] := by
  simp only [records_ne_nil_iff, mem_listed_add exported]
  constructor
  · rintro ⟨other, old | ⟨rfl, named⟩, owned⟩
    · exact .inr ⟨other, old, owned⟩
    · exact .inl ⟨owned.symm, named.symm⟩
  · rintro (⟨rfl, rfl⟩ | ⟨other, old, owned⟩)
    · exact ⟨symbol, .inr ⟨rfl, rfl⟩, rfl⟩
    · exact ⟨other, .inl old, owned⟩

theorem Consistent.add {index : Index} (consistent : index.Consistent) (symbol : Symbol) :
    (index.add symbol).Consistent := by
  cases exported : symbol.isExported with
  | false => rwa [add_of_not_exported exported]
  | true =>
      refine ⟨consistent.toFiled.add exported, fun path name => ?_, ?_⟩
      · rw [byPackage_add exported, mem_namesAt_insertName, consistent.byPackage,
          records_add_ne_nil_iff exported]
      · rw [byPackage_add exported]
        exact consistent.byPackage_pruned.insertName _ _

theorem addAll_cons (index : Index) (symbol : Symbol) (symbols : List Symbol) :
    index.addAll (symbol :: symbols) = (index.add symbol).addAll symbols := rfl

@[simp] theorem packages_addAll (index : Index) (symbols : List Symbol) :
    (index.addAll symbols).packages = index.packages := by
  induction symbols generalizing index with
  | nil => rfl
  | cons symbol symbols ih => rw [addAll_cons, ih, packages_add]

theorem records_addAll (index : Index) (symbols : List Symbol) (path name : String) :
    (index.addAll symbols).records path name =
      index.records path name ++ symbols.filter (isRecord path name) := by
  induction symbols generalizing index with
  | nil => simp [addAll]
  | cons symbol symbols ih =>
      rw [addAll_cons, ih, records_add, List.append_assoc, ← List.filter_append,
        List.singleton_append]

theorem Consistent.addAll {index : Index} (consistent : index.Consistent)
    (symbols : List Symbol) : (index.addAll symbols).Consistent := by
  induction symbols generalizing index with
  | nil => exact consistent
  | cons symbol symbols ih =>
      rw [addAll_cons]
      exact ih (consistent.add symbol)

/-! ## Removing symbols -/

def without (path : String) (symbols : List Symbol) : List Symbol :=
  symbols.filter fun symbol => symbol.packagePath != path

/-- Removing from a name changes the list of that name alone, and drops the name from its
lower-case form exactly if nothing is left. -/
theorem removeFromName_spec (path : String) (index : Index) (name : String) :
    removeFromName path index name = index ∧ index.symbols[name]? = none ∨
    ∃ list, index.symbols[name]? = some list ∧
      (without path list = [] ∧
        removeFromName path index name =
          { index with
            symbols := index.symbols.erase name
            byLower := eraseName index.byLower (Text.lowerCase name) name } ∨
      without path list ≠ [] ∧
        removeFromName path index name =
          { index with symbols := index.symbols.insert name (without path list) }) := by
  unfold removeFromName
  cases found : index.symbols[name]? with
  | none => exact .inl ⟨rfl, rfl⟩
  | some list =>
      refine .inr ⟨list, rfl, ?_⟩
      cases rest : without path list with
      | nil =>
          unfold without at rest
          exact .inl ⟨rfl, by simp only [rest]⟩
      | cons symbol symbols =>
          unfold without at rest
          exact .inr ⟨List.cons_ne_nil _ _, by simp only [rest]⟩

private theorem packages_removeFromName (path : String) (index : Index) (name : String) :
    (removeFromName path index name).packages = index.packages := by
  obtain ⟨same, _⟩ | ⟨_, _, ⟨_, same⟩ | ⟨_, same⟩⟩ := removeFromName_spec path index name <;>
    rw [same]

private theorem byPackage_removeFromName (path : String) (index : Index) (name : String) :
    (removeFromName path index name).byPackage = index.byPackage := by
  obtain ⟨same, _⟩ | ⟨_, _, ⟨_, same⟩ | ⟨_, same⟩⟩ := removeFromName_spec path index name <;>
    rw [same]

private theorem listed_removeFromName (path : String) (index : Index) (name other : String) :
    (removeFromName path index name).listed other =
      if name = other then without path (index.listed other) else index.listed other := by
  by_cases equal : name = other
  · subst equal
    obtain ⟨same, absent⟩ | ⟨list, found, ⟨gone, same⟩ | ⟨_, same⟩⟩ :=
      removeFromName_spec path index name
    · simp [same, listed_eq_getElem?, absent, without]
    · simp [same, listed_eq_getElem?, found, gone]
    · simp [same, listed_eq_getElem?, found]
  · rw [if_neg equal]
    obtain ⟨same, _⟩ | ⟨_, _, ⟨_, same⟩ | ⟨_, same⟩⟩ := removeFromName_spec path index name
    · rw [same]
    · simp [same, listed, Std.ExtTreeMap.getD_erase, equal]
    · simp [same, listed, Std.ExtTreeMap.getD_insert, equal]

private theorem without_ne_nil {path : String} {symbols : List Symbol}
    (left : without path symbols ≠ []) :
    symbols ≠ [] := by
  rintro rfl
  exact left rfl

/-- A name leaves its lower-case form together with its last symbol. -/
theorem Filed.mem_byLower_removeFromName {index : Index} (filed : index.Filed)
    (path name : String) {key other : String} :
    other ∈ namesAt (Index.removeFromName path index name).byLower key ↔
      other ∈ namesAt index.byLower key ∧
        ¬ (name = other ∧ without path (index.listed name) = []) := by
  obtain ⟨same, absent⟩ | ⟨list, found, ⟨gone, same⟩ | ⟨left, same⟩⟩ :=
    removeFromName_spec path index name
  · have nothing : index.listed name = [] := by rw [listed_eq_getElem?, absent, Option.getD_none]
    rw [same, iff_self_and]
    rintro member ⟨rfl, _⟩
    exact ((filed.byLower key name).mp member).1 nothing
  · rw [← listed_of_getElem? found] at gone
    simp only [same, mem_namesAt_eraseName, gone, and_true]
    refine and_congr_right fun member => not_congr ⟨fun both => both.2.symm, ?_⟩
    rintro rfl
    exact ⟨((filed.byLower key name).mp member).2.symm, rfl⟩
  · rw [← listed_of_getElem? found] at left
    simp only [same, left, and_false, not_false_eq_true, and_true]

theorem Filed.removeFromName {index : Index} (filed : index.Filed) (path name : String) :
    (removeFromName path index name).Filed := by
  have listed := listed_removeFromName path index name
  have subset : ∀ other, ∀ symbol ∈ (Index.removeFromName path index name).listed other,
      symbol ∈ index.listed other := by
    intro other symbol member
    rw [listed] at member
    split at member
    · exact (List.mem_filter.mp member).1
    · exact member
  refine ⟨?_, fun other symbol member => filed.exported other symbol (subset other symbol member),
    fun other symbol member => filed.named other symbol (subset other symbol member), ?_, ?_⟩
  case refine_1 =>
    obtain ⟨same, _⟩ | ⟨_, _, ⟨_, same⟩ | ⟨left, same⟩⟩ := removeFromName_spec path index name
    · rw [same]
      exact filed.filled
    · rw [same]
      exact ne_of_getElem?_erase filed.filled name
    · rw [same]
      exact ne_of_getElem?_insert filed.filled name left
  case refine_2 =>
    intro key other
    rw [filed.mem_byLower_removeFromName, filed.byLower, listed]
    by_cases equal : name = other
    · subst equal
      rw [if_pos rfl, and_right_comm]
      refine and_congr_left fun _ => ⟨fun both gone => both.2 ⟨rfl, gone⟩, fun left => ?_⟩
      exact ⟨without_ne_nil left, fun both => left both.2⟩
    · rw [if_neg equal]
      exact and_iff_left fun both => equal both.1
  case refine_3 =>
    obtain ⟨same, _⟩ | ⟨_, _, ⟨_, same⟩ | ⟨_, same⟩⟩ := removeFromName_spec path index name
    · rw [same]
      exact filed.byLower_pruned
    · simpa only [same] using filed.byLower_pruned.eraseName _ _
    · simpa only [same] using filed.byLower_pruned

section Fold

variable (path : String) (names : List String)

private theorem packages_foldl_removeFromName (index : Index) :
    (names.foldl (removeFromName path) index).packages = index.packages := by
  induction names generalizing index with
  | nil => rfl
  | cons name names ih => rw [List.foldl_cons, ih, packages_removeFromName]

private theorem byPackage_foldl_removeFromName (index : Index) :
    (names.foldl (removeFromName path) index).byPackage = index.byPackage := by
  induction names generalizing index with
  | nil => rfl
  | cons name names ih => rw [List.foldl_cons, ih, byPackage_removeFromName]

private theorem listed_foldl_removeFromName (index : Index) (other : String) :
    (names.foldl (removeFromName path) index).listed other =
      if other ∈ names then without path (index.listed other) else index.listed other := by
  induction names generalizing index with
  | nil => simp
  | cons name names ih =>
      rw [List.foldl_cons, ih, listed_removeFromName]
      by_cases equal : name = other
      · subst equal
        simp [without]
      · simp [equal, Ne.symm equal]

private theorem Filed.foldl_removeFromName {index : Index} (filed : index.Filed) :
    (names.foldl (Index.removeFromName path) index).Filed := by
  induction names generalizing index with
  | nil => exact filed
  | cons name names ih => exact ih (filed.removeFromName path name)

end Fold

@[simp] theorem packages_removeSymbols (index : Index) (path : String) :
    (index.removeSymbols path).packages = index.packages := by
  rw [removeSymbols, packages_foldl_removeFromName]

/-- The names of a package lead to all of its symbols, so none of them is left in any list. -/
theorem Consistent.listed_removeSymbols {index : Index} (consistent : index.Consistent)
    (path name : String) :
    (index.removeSymbols path).listed name = without path (index.listed name) := by
  rw [removeSymbols, listed_foldl_removeFromName]
  simp only [Std.ExtTreeSet.mem_toList, consistent.byPackage, records_ne_nil_iff]
  split
  case isTrue => rfl
  case isFalse absent =>
    refine (List.filter_eq_self.mpr fun symbol member => ?_).symm
    simpa using fun owned => absent ⟨symbol, member, owned⟩

theorem Consistent.records_removeSymbols {index : Index} (consistent : index.Consistent)
    (path path' name : String) :
    (index.removeSymbols path).records path' name =
      if path' = path then [] else index.records path' name := by
  rw [records, consistent.listed_removeSymbols, without, List.filter_filter]
  split
  case isTrue equal => simp [equal]
  case isFalse different =>
    refine List.filter_congr fun symbol _ => ?_
    by_cases owned : symbol.packagePath = path' <;> simp [owned, different]

theorem Consistent.removeSymbols {index : Index} (consistent : index.Consistent)
    (path : String) : (index.removeSymbols path).Consistent := by
  have start : ({ index with byPackage := index.byPackage.erase path } : Index).Filed :=
    { consistent.toFiled with }
  refine ⟨start.foldl_removeFromName path _, ?_, ?_⟩
  · intro path' name
    rw [consistent.records_removeSymbols, Index.removeSymbols, byPackage_foldl_removeFromName,
      mem_namesAt_erase, consistent.byPackage]
    split <;> simp [*]
  · rw [Index.removeSymbols, byPackage_foldl_removeFromName]
    exact consistent.byPackage_pruned.erase path

/-! ## Versions -/

@[simp] theorem packages_setVersion (index : Index) (path version : String) :
    (index.setVersion path version).packages = index.packages.insert path version := rfl

@[simp] theorem records_setVersion (index : Index) (path version path' name : String) :
    (index.setVersion path version).records path' name = index.records path' name := rfl

theorem Consistent.setVersion {index : Index} (consistent : index.Consistent)
    (path version : String) : (index.setVersion path version).Consistent :=
  { consistent with }

@[simp] theorem listed_mergeVersions (index : Index) (versions : Std.ExtTreeMap String String)
    (name : String) : (index.mergeVersions versions).listed name = index.listed name := by
  unfold mergeVersions
  generalize versions.toList = entries
  induction entries generalizing index with
  | nil => rfl
  | cons entry entries ih => exact ih _

@[simp] theorem records_mergeVersions (index : Index) (versions : Std.ExtTreeMap String String)
    (path name : String) :
    (index.mergeVersions versions).records path name = index.records path name := by
  rw [records, listed_mergeVersions, records]

private theorem packages_mergeVersions (index : Index) (versions : Std.ExtTreeMap String String) :
    (index.mergeVersions versions).packages = index.packages.insertMany versions.toList := by
  unfold mergeVersions
  rw [Std.ExtTreeMap.insertMany_list_eq_foldl]
  generalize versions.toList = entries
  induction entries generalizing index with
  | nil => rfl
  | cons entry entries ih => exact ih _

theorem version?_mergeVersions (index : Index) (versions : Std.ExtTreeMap String String)
    (path : String) :
    (index.mergeVersions versions).version? path = versions[path]?.or (index.version? path) := by
  rw [version?, packages_mergeVersions]
  cases found : versions[path]? with
  | none =>
      rw [Std.ExtTreeMap.getElem?_insertMany_list_of_contains_eq_false]
      · rfl
      · rw [Std.ExtTreeMap.map_fst_toList_eq_keys, Std.ExtTreeMap.contains_keys,
          ← Std.ExtTreeMap.isSome_getElem?_eq_contains, found, Option.isSome_none]
  | some version =>
      exact Std.ExtTreeMap.getElem?_insertMany_list_of_mem Std.ReflCmp.compare_self
        Std.ExtTreeMap.distinct_keys_toList
        (Std.ExtTreeMap.mem_toList_iff_getElem?_eq_some.mpr found)

theorem Consistent.mergeVersions {index : Index} (consistent : index.Consistent)
    (versions : Std.ExtTreeMap String String) : (index.mergeVersions versions).Consistent := by
  unfold Index.mergeVersions
  generalize versions.toList = entries
  induction entries generalizing index with
  | nil => exact consistent
  | cons entry entries ih => exact ih (consistent.setVersion entry.1 entry.2)

/-! ## Replacing packages -/

@[simp] theorem packages_removePackage (index : Index) (path : String) :
    (index.removePackage path).packages = index.packages.erase path := by
  simp [removePackage]

theorem Consistent.records_removePackage {index : Index} (consistent : index.Consistent)
    (path path' name : String) :
    (index.removePackage path).records path' name =
      if path' = path then [] else index.records path' name :=
  consistent.records_removeSymbols path path' name

theorem Consistent.removePackage {index : Index} (consistent : index.Consistent)
    (path : String) : (index.removePackage path).Consistent :=
  { consistent.removeSymbols path with }

@[simp] theorem packages_replacePackage (index : Index) (path version : String)
    (symbols : List Symbol) :
    (index.replacePackage path version symbols).packages = index.packages.insert path version := by
  simp [replacePackage]

theorem Consistent.records_replacePackage {index : Index} (consistent : index.Consistent)
    (path version : String) (symbols : List Symbol) (path' name : String) :
    (index.replacePackage path version symbols).records path' name =
      (if path' = path then [] else index.records path' name) ++
        symbols.filter (isRecord path' name) := by
  rw [replacePackage, records_addAll, records_setVersion, consistent.records_removeSymbols]

/-- What is listed after a package was replaced is one of its new symbols, or was listed for another
package before. -/
theorem Consistent.mem_listed_replacePackage {index : Index} (consistent : index.Consistent)
    {path version : String} {symbols : List Symbol} {name : String} {symbol : Symbol}
    (member : symbol ∈ (index.replacePackage path version symbols).listed name) :
    symbol ∈ symbols ∨ symbol.packagePath ≠ path ∧ symbol ∈ index.listed name := by
  have filed := mem_records.mpr ⟨member, rfl⟩
  rw [consistent.records_replacePackage, List.mem_append, List.mem_filter] at filed
  rcases filed with before | ⟨added, -⟩
  · split at before
    case isTrue => exact absurd before List.not_mem_nil
    case isFalse other => exact .inr ⟨other, (mem_records.mp before).1⟩
  · exact .inl added

theorem Consistent.replacePackage {index : Index} (consistent : index.Consistent)
    (path version : String) (symbols : List Symbol) :
    (index.replacePackage path version symbols).Consistent :=
  ((consistent.removeSymbols path).setVersion path version).addAll symbols

end SymbolCache.Index

/-!
## Reachable indexes

The indexes that can be made from the empty one by changing it. All that is built from such changes
is reachable too, and every reachable index is consistent.
-/

namespace SymbolCache.Index

/-- An index that is made from the empty one by changes. -/
inductive Reachable : Index → Prop where
  | empty : Reachable empty
  | add {index : Index} (reachable : Reachable index) (symbol : Symbol) :
      Reachable (index.add symbol)
  | removeSymbols {index : Index} (reachable : Reachable index) (path : String) :
      Reachable (index.removeSymbols path)
  | removePackage {index : Index} (reachable : Reachable index) (path : String) :
      Reachable (index.removePackage path)
  | setVersion {index : Index} (reachable : Reachable index) (path version : String) :
      Reachable (index.setVersion path version)

namespace Reachable

theorem consistent {index : Index} (reachable : index.Reachable) : index.Consistent := by
  induction reachable with
  | empty => exact consistent_empty
  | add _ symbol ih => exact ih.add symbol
  | removeSymbols _ path ih => exact ih.removeSymbols path
  | removePackage _ path ih => exact ih.removePackage path
  | setVersion _ path version ih => exact ih.setVersion path version

variable {index : Index}

theorem addAll (reachable : index.Reachable) (symbols : List Symbol) :
    (index.addAll symbols).Reachable := by
  induction symbols generalizing index with
  | nil => exact reachable
  | cons symbol symbols ih => exact ih (reachable.add symbol)

theorem replacePackage (reachable : index.Reachable) (path version : String)
    (symbols : List Symbol) : (index.replacePackage path version symbols).Reachable :=
  ((reachable.removeSymbols path).setVersion path version).addAll symbols

theorem mergeVersions (reachable : index.Reachable)
    (versions : Std.ExtTreeMap String String) : (index.mergeVersions versions).Reachable := by
  unfold Index.mergeVersions
  generalize versions.toList = entries
  induction entries generalizing index with
  | nil => exact reachable
  | cons entry entries ih => exact ih (reachable.setVersion entry.1 entry.2)

end Reachable

end SymbolCache.Index
