import Mathlib.Data.List.Induction
import SymbolCache.Proofs.Snapshot.Restoration

/-!
# Runs of changes

Whatever is added, removed, replaced or restored, in whatever order, the three maps over the symbols
of an index tell the same: the lists hold exported symbols under their own names, a package leads
to exactly the names with symbols of it, and a lower-case form to exactly the names that it is the
form of. No list, no package and no form is left over once its last symbol is gone.
-/

set_option autoImplicit false

namespace SymbolCache.Index

/-- A change of an index, or a snapshot in the place of it. -/
inductive Change where
  | add (symbol : Symbol)
  | removeSymbols (path : String)
  | removePackage (path : String)
  | replacePackage (path version : String) (symbols : List Symbol)
  | setVersion (path version : String)
  | mergeVersions (versions : Std.ExtTreeMap String String)
  | restore (snapshot : Snapshot)

/-- The index after a change. A snapshot that is not accepted leaves it as it is. -/
def Change.apply (index : Index) : Change → Index
  | .add symbol => index.add symbol
  | .removeSymbols path => index.removeSymbols path
  | .removePackage path => index.removePackage path
  | .replacePackage path version symbols => index.replacePackage path version symbols
  | .setVersion path version => index.setVersion path version
  | .mergeVersions versions => index.mergeVersions versions
  | .restore snapshot =>
    match snapshot.toIndex with
    | .ok restored => restored
    | .error _ => index

def afterChanges (changes : List Change) : Index :=
  changes.foldl Change.apply empty

theorem Reachable.apply {index : Index} (reachable : index.Reachable) (change : Change) :
    (change.apply index).Reachable := by
  cases change with
  | add symbol => exact reachable.add symbol
  | removeSymbols path => exact reachable.removeSymbols path
  | removePackage path => exact reachable.removePackage path
  | replacePackage path version symbols => exact reachable.replacePackage path version symbols
  | setVersion path version => exact reachable.setVersion path version
  | mergeVersions versions => exact reachable.mergeVersions versions
  | restore snapshot =>
      rw [Change.apply]
      cases restores : snapshot.toIndex with
      | ok restored => exact Snapshot.reachable_of_toIndex restores
      | error failure => exact reachable

private theorem afterChanges_concat (changes : List Change) (change : Change) :
    afterChanges (changes ++ [change]) = change.apply (afterChanges changes) := by
  simp [afterChanges]

private theorem reachable_afterChanges (changes : List Change) :
    (afterChanges changes).Reachable := by
  induction changes using List.reverseRecOn with
  | nil => exact .empty
  | append_singleton changes change ih =>
      rw [afterChanges_concat]
      exact ih.apply change

/-! ## What the maps hold -/

/-- A map has exactly the keys to which some name belongs, each with exactly the names that belong
to it. -/
structure LeadsTo (names : Std.ExtTreeMap String (Std.ExtTreeSet String))
    (belongs : String → String → Prop) : Prop where
  filled : ∀ (key : String) (set : Std.ExtTreeSet String), names[key]? = some set → set ≠ ∅
  exact : ∀ (key : String) (set : Std.ExtTreeSet String), names[key]? = some set →
    ∀ name, name ∈ set ↔ belongs key name
  present : ∀ key name, belongs key name → key ∈ names

private theorem Pruned.leadsTo {names : Std.ExtTreeMap String (Std.ExtTreeSet String)}
    {belongs : String → String → Prop} (pruned : Pruned names)
    (member : ∀ key name, name ∈ namesAt names key ↔ belongs key name) :
    LeadsTo names belongs where
  filled := pruned
  exact key set found name := by
    rw [← namesAt_of_getElem? found]
    exact member key name
  present key name belong := by
    have entry := mem_toList_of_mem_namesAt ((member key name).mpr belong)
    rw [Std.ExtTreeMap.mem_toList_iff_getElem?_eq_some] at entry
    rw [Std.ExtTreeMap.mem_iff_isSome_getElem?, entry, Option.isSome_some]

/-- What the maps over the symbols of an index hold, in terms of the lists of symbols. -/
structure Represented (index : Index) : Prop where
  filled : ∀ (name : String) (list : List Symbol), index.symbols[name]? = some list → list ≠ []
  own : ∀ (name : String) (list : List Symbol), index.symbols[name]? = some list →
    ∀ symbol ∈ list, symbol.isExported = true ∧ symbol.name = name
  byPackage : LeadsTo index.byPackage fun path name =>
    ∃ list, index.symbols[name]? = some list ∧ ∃ symbol ∈ list, symbol.packagePath = path
  byLower : LeadsTo index.byLower fun key name =>
    name ∈ index.symbols ∧ Text.lowerCase name = key

private theorem Filed.mem_symbols_iff {index : Index} (filed : index.Filed) (name : String) :
    name ∈ index.symbols ↔ index.listed name ≠ [] := by
  rw [Std.ExtTreeMap.mem_iff_isSome_getElem?, filed.getElem?_symbols]
  split <;> simp [*]

theorem Consistent.represented {index : Index} (consistent : index.Consistent) :
    index.Represented where
  filled := consistent.filled
  own := consistent.own
  byPackage := consistent.byPackage_pruned.leadsTo fun path name => by
    rw [consistent.byPackage, records_ne_nil_iff]
    constructor
    · rintro ⟨symbol, member, owned⟩
      have filled : index.listed name ≠ [] := List.ne_nil_of_mem member
      refine ⟨index.listed name, ?_, symbol, member, owned⟩
      rw [consistent.getElem?_symbols, if_neg filled]
    · rintro ⟨list, found, symbol, member, owned⟩
      exact ⟨symbol, (listed_of_getElem? found).symm ▸ member, owned⟩
  byLower := consistent.byLower_pruned.leadsTo fun key name => by
    rw [consistent.byLower, consistent.mem_symbols_iff]

/-- After every run of changes the maps hold exactly what the lists of symbols say. -/
theorem represented_afterChanges (changes : List Change) : (afterChanges changes).Represented :=
  (reachable_afterChanges changes).consistent.represented

end SymbolCache.Index
