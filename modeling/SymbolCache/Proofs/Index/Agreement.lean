import SymbolCache.Index.Find
import SymbolCache.Proofs.Index.Consistency
import SymbolCache.Proofs.StableOrder

/-!
# Agreement of indexes

What can be asked of an index depends on the versions of its packages and on the symbols of every
package under every name, each in their order. How the symbols of several packages are mixed in the
list of a name cannot be told from outside.
-/

set_option autoImplicit false

namespace SymbolCache.Index

/-- Two indexes file the same symbols for every package under every name, in the same order. -/
def SameRecords (left right : Index) : Prop :=
  ∀ path name, left.records path name = right.records path name

/-- Two indexes answer alike: they have the same versions, the same symbols of every package, and
find the same symbols for every query. -/
structure Agrees (left right : Index) : Prop where
  packages : left.packages = right.packages
  packageSymbols : ∀ path, left.packageSymbols path = right.packageSymbols path
  find : ∀ caseSensitive text, left.find caseSensitive text = right.find caseSensitive text

theorem Agrees.refl (index : Index) : index.Agrees index where
  packages := rfl
  packageSymbols _ := rfl
  find _ _ := rfl

theorem Agrees.symm {left right : Index} (agrees : left.Agrees right) : right.Agrees left where
  packages := agrees.packages.symm
  packageSymbols path := (agrees.packageSymbols path).symm
  find caseSensitive text := (agrees.find caseSensitive text).symm

theorem Agrees.trans {first second third : Index} (left : first.Agrees second)
    (right : second.Agrees third) : first.Agrees third where
  packages := left.packages.trans right.packages
  packageSymbols path := (left.packageSymbols path).trans (right.packageSymbols path)
  find caseSensitive text := (left.find caseSensitive text).trans (right.find caseSensitive text)

/-! ## One package -/

structure SameAt (left right : Index) (path : String) : Prop where
  version : left.version? path = right.version? path
  records : ∀ name, left.records path name = right.records path name

structure Holds (index : Index) (path version : String) (symbols : List Symbol) : Prop where
  version : index.version? path = some version
  records : ∀ name, index.records path name = symbols.filter fun symbol => symbol.name == name

structure Lacks (index : Index) (path : String) : Prop where
  version : index.version? path = none
  records : ∀ name, index.records path name = []

section

variable {left right : Index} {path version : String} {symbols : List Symbol}

theorem SameAt.refl (index : Index) (path : String) : index.SameAt index path where
  version := rfl
  records _ := rfl

theorem SameAt.symm (same : left.SameAt right path) : right.SameAt left path where
  version := same.version.symm
  records name := (same.records name).symm

theorem SameAt.trans {first second third : Index} (left : first.SameAt second path)
    (right : second.SameAt third path) : first.SameAt third path where
  version := left.version.trans right.version
  records name := (left.records name).trans (right.records name)

theorem SameAt.holds (same : left.SameAt right path) (holds : right.Holds path version symbols) :
    left.Holds path version symbols where
  version := same.version.trans holds.version
  records name := (same.records name).trans (holds.records name)

theorem SameAt.lacks (same : left.SameAt right path) (lacks : right.Lacks path) :
    left.Lacks path where
  version := same.version.trans lacks.version
  records name := (same.records name).trans (lacks.records name)

theorem Holds.sameAt (first : left.Holds path version symbols)
    (second : right.Holds path version symbols) : left.SameAt right path where
  version := first.version.trans second.version.symm
  records name := (first.records name).trans (second.records name).symm

theorem Lacks.sameAt (first : left.Lacks path) (second : right.Lacks path) :
    left.SameAt right path where
  version := first.version.trans second.version.symm
  records name := (first.records name).trans (second.records name).symm

end

theorem lacks_empty (path : String) : empty.Lacks path where
  version := by simp [version?, empty]
  records := by simp

/-- No symbol of another package is filed for a package. -/
theorem filter_isRecord_of_owned {symbols : List Symbol} {owner : String}
    (owned : ∀ symbol ∈ symbols, symbol.packagePath = owner) {path : String}
    (different : owner ≠ path) (name : String) : symbols.filter (isRecord path name) = [] := by
  rw [List.filter_eq_nil_iff]
  intro symbol member
  simp [isRecord, owned symbol member, different]

/-- Replacing a package leaves every other one as it is. -/
theorem Consistent.sameAt_replacePackage {index : Index} (consistent : index.Consistent)
    {path version : String} {symbols : List Symbol}
    (owned : ∀ symbol ∈ symbols, symbol.packagePath = path) {other : String}
    (different : path ≠ other) :
    (index.replacePackage path version symbols).SameAt index other where
  version := by simp [version?, Std.ExtTreeMap.getElem?_insert, different]
  records name := by
    rw [consistent.records_replacePackage, if_neg (Ne.symm different),
      filter_isRecord_of_owned owned different, List.append_nil]

/-- A package that is replaced by symbols of its own that are exported has these alone. -/
theorem Consistent.holds_replacePackage {index : Index} (consistent : index.Consistent)
    {path : String} (version : String) {symbols : List Symbol}
    (owned : ∀ symbol ∈ symbols, symbol.packagePath = path ∧ symbol.isExported = true) :
    (index.replacePackage path version symbols).Holds path version symbols where
  version := by simp [version?]
  records name := by
    rw [consistent.records_replacePackage, if_pos rfl, List.nil_append]
    refine List.filter_congr fun symbol member => ?_
    obtain ⟨ownPath, exported⟩ := owned symbol member
    simp [isRecord, ownPath, exported]

/-! ## All packages -/

theorem packageSymbols_eq (index : Index) (path : String) :
    index.packageSymbols path =
      (namesAt index.byPackage path).toList.flatMap (index.records path) := by
  simp only [packageSymbols, List.filter_flatMap]
  rfl

theorem packageSymbols_owned (index : Index) (path : String) :
    ∀ symbol ∈ index.packageSymbols path, symbol.packagePath = path := by
  intro symbol member
  exact eq_of_beq (List.mem_filter.mp member).2

theorem exists_listed_of_mem_packageSymbols {index : Index} {path : String} {symbol : Symbol}
    (member : symbol ∈ index.packageSymbols path) : ∃ name, symbol ∈ index.listed name := by
  rw [packageSymbols_eq] at member
  obtain ⟨name, -, filed⟩ := List.mem_flatMap.mp member
  exact ⟨name, (mem_records.mp filed).1⟩

theorem flatMap_single {α : Type} {names : List String} (distinct : names.Nodup)
    (name : String) (list : List α) :
    (names.flatMap fun other => if name = other then list else []) =
      if name ∈ names then list else [] := by
  induction names with
  | nil => rfl
  | cons first names ih =>
      obtain ⟨fresh, rest⟩ := List.nodup_cons.mp distinct
      rw [List.flatMap_cons, ih rest]
      by_cases same : name = first
      · subst same
        simp [fresh]
      · simp [same]

/-- What is filed for a package under a name, out of all that is filed for the package. -/
theorem Consistent.filter_packageSymbols {index : Index} (consistent : index.Consistent)
    (path name : String) :
    (index.packageSymbols path).filter (isRecord path name) = index.records path name := by
  have single : ∀ other, (index.records path other).filter (isRecord path name) =
      if name = other then index.records path name else [] := by
    intro other
    split
    case isTrue same =>
      subst same
      refine List.filter_eq_self.mpr fun symbol member => ?_
      obtain ⟨inside, owned⟩ := mem_records.mp member
      simp [isRecord, owned, consistent.exported name symbol inside,
        consistent.named name symbol inside]
    case isFalse different =>
      refine List.filter_eq_nil_iff.mpr fun symbol member => ?_
      have named := consistent.named other symbol (mem_records.mp member).1
      simp [isRecord, named, Ne.symm different]
  have distinct : (namesAt index.byPackage path).toList.Nodup :=
    Std.ExtTreeSet.distinct_toList.imp fun different same =>
      different (Std.compare_eq_iff_eq.mpr same)
  simp only [packageSymbols_eq, List.filter_flatMap, single, flatMap_single distinct,
    Std.ExtTreeSet.mem_toList, consistent.byPackage]
  split
  case isTrue => rfl
  case isFalse empty => exact (not_not.mp empty).symm

/-- A package that is filed again with its own symbols from some index has the records that it has
there. -/
theorem Consistent.records_replacePackage_packageSymbols {index source : Index}
    (consistent : index.Consistent) (sourceConsistent : source.Consistent) {path : String}
    (version name : String) :
    (index.replacePackage path version (source.packageSymbols path)).records path name =
      source.records path name := by
  rw [consistent.records_replacePackage, if_pos rfl, List.nil_append,
    sourceConsistent.filter_packageSymbols]

section

variable {left right : Index}

theorem SameRecords.listed_ne_nil_iff (same : SameRecords left right) (name : String) :
    left.listed name ≠ [] ↔ right.listed name ≠ [] := by
  rw [Index.listed_ne_nil_iff, Index.listed_ne_nil_iff]
  exact exists_congr fun path => by rw [same]

/-- The symbols of a package depend on its own records only. -/
theorem Consistent.packageSymbols_congr (leftConsistent : left.Consistent)
    (rightConsistent : right.Consistent) {path : String}
    (same : ∀ name, left.records path name = right.records path name) :
    left.packageSymbols path = right.packageSymbols path := by
  have names : namesAt left.byPackage path = namesAt right.byPackage path := by
    apply Std.ExtTreeSet.ext_mem
    intro name
    rw [leftConsistent.byPackage, rightConsistent.byPackage, same]
  have lists : left.records path = right.records path := funext same
  rw [packageSymbols_eq, packageSymbols_eq, names, lists]

theorem SameRecords.packageSymbols (same : SameRecords left right)
    (leftConsistent : left.Consistent) (rightConsistent : right.Consistent) (path : String) :
    left.packageSymbols path = right.packageSymbols path :=
  leftConsistent.packageSymbols_congr rightConsistent (same path)

/-- The lower-case forms depend on which names have symbols. -/
theorem SameRecords.byLower_eq (same : SameRecords left right)
    (leftFiled : left.Filed) (rightFiled : right.Filed) : left.byLower = right.byLower := by
  apply leftFiled.byLower_pruned.ext rightFiled.byLower_pruned
  intro key name
  rw [leftFiled.byLower, rightFiled.byLower, same.listed_ne_nil_iff]

/-! ## Finding -/

def position (symbol : Symbol) : String × String :=
  (symbol.packagePath, symbol.name)

theorem orders_position : StableOrder.Orders position symbolAtMost where
  trans first second third firstSecond secondThird := by
    simp only [symbolAtMost, Bool.or_eq_true, Bool.and_eq_true, decide_eq_true_eq,
      beq_iff_eq] at *
    rcases firstSecond with below | ⟨same, atMost⟩
    · rcases secondThird with below' | ⟨same', _⟩
      · exact .inl (String.lt_trans below below')
      · exact .inl (same' ▸ below)
    · rcases secondThird with below' | ⟨same', atMost'⟩
      · exact .inl (same ▸ below')
      · exact .inr ⟨same.trans same', String.le_trans atMost atMost'⟩
  total first second := by
    simp only [symbolAtMost, Bool.or_eq_true, Bool.and_eq_true, decide_eq_true_eq, beq_iff_eq]
    by_cases below : first.packagePath < second.packagePath
    · exact .inl (.inl below)
    by_cases above : second.packagePath < first.packagePath
    · exact .inr (.inl above)
    have same : first.packagePath = second.packagePath :=
      String.le_antisymm (String.not_lt.mp above) (String.not_lt.mp below)
    rcases String.le_total first.name second.name with atMost | atLeast
    · exact .inl (.inr ⟨same, atMost⟩)
    · exact .inr (.inr ⟨same.symm, atLeast⟩)
  tie_iff first second := by
    simp only [symbolAtMost, Bool.or_eq_true, Bool.and_eq_true, decide_eq_true_eq, beq_iff_eq,
      position, Prod.mk.injEq]
    constructor
    · rintro ⟨below | ⟨same, atMost⟩, above | ⟨_, atLeast⟩⟩
      · exact absurd (String.lt_trans below above) (String.lt_irrefl _)
      · simp_all
      · simp_all
      · exact ⟨same, String.le_antisymm atMost atLeast⟩
    · rintro ⟨samePath, sameName⟩
      simp [samePath, sameName]

/-- The symbols of one position among those of a name. -/
theorem Filed.filter_listed {index : Index} (filed : index.Filed) (name : String)
    (value : String × String) :
    (index.listed name).filter (fun symbol => position symbol = value) =
      if value.2 = name then index.records value.1 name else [] := by
  split
  case isTrue same =>
    refine List.filter_congr fun symbol member => ?_
    have named := filed.named name symbol member
    by_cases owned : symbol.packagePath = value.1
    · simp [position, owned, named, ← same]
    · simp [owned, position, Prod.ext_iff]
  case isFalse different =>
    rw [List.filter_eq_nil_iff]
    intro symbol member
    have named := filed.named name symbol member
    simp only [position, decide_eq_true_eq, Prod.ext_iff]
    exact fun both => different (both.2.symm.trans named)

theorem filter_comm {α : Type} (list : List α) (first second : α → Bool) :
    (list.filter first).filter second = (list.filter second).filter first := by
  simp only [List.filter_filter, Bool.and_comm]

theorem SameRecords.find (same : SameRecords left right)
    (leftConsistent : left.Consistent) (rightConsistent : right.Consistent)
    (caseSensitive : Bool) (text : String) :
    left.find caseSensitive text = right.find caseSensitive text := by
  have names : left.namesWithPrefix caseSensitive (Query.ofText text).leading =
      right.namesWithPrefix caseSensitive (Query.ofText text).leading := by
    simp only [namesWithPrefix, same.byLower_eq leftConsistent.toFiled rightConsistent.toFiled]
  have candidates : ∀ (names : List String) (value : String × String),
      (names.flatMap left.listed).filter (fun symbol => position symbol = value) =
        (names.flatMap right.listed).filter fun symbol => position symbol = value := by
    intro names value
    simp only [List.filter_flatMap, leftConsistent.filter_listed, rightConsistent.filter_listed,
      same value.1]
  apply orders_position.mergeSort_eq_of_filter_eq
  intro value
  rw [names]
  calc
    _ = _ := filter_comm _ _ _
    _ = _ := congrArg (List.filter (Query.ofText text).admits) (candidates _ value)
    _ = _ := filter_comm _ _ _

theorem SameRecords.agrees (same : SameRecords left right)
    (leftConsistent : left.Consistent) (rightConsistent : right.Consistent)
    (packages : left.packages = right.packages) : left.Agrees right where
  packages
  packageSymbols := same.packageSymbols leftConsistent rightConsistent
  find := same.find leftConsistent rightConsistent

end

end SymbolCache.Index
