import SymbolCache.Proofs.Index.Search

/-!
# Replacing one package

Records of different packages share the lists of their names. Replacing or removing a package
changes no list but for its own records, and whatever is asked about other packages is answered as
before.
-/

set_option autoImplicit false

namespace SymbolCache.Index

/-! ## Other packages -/

/-- Two indexes tell the same of every package but one: its version, its records and where they
stand among those of others, and what every query finds. -/
structure SameBut (left right : Index) (path : String) : Prop where
  version : ∀ other, other ≠ path → left.version? other = right.version? other
  listed : ∀ name, without path (left.listed name) = without path (right.listed name)
  packageSymbols : ∀ other, other ≠ path → left.packageSymbols other = right.packageSymbols other
  find : ∀ caseSensitive text,
    without path (left.find caseSensitive text) = without path (right.find caseSensitive text)
  pathsForName : ∀ name other, other ≠ path →
    (other ∈ left.pathsForName name ↔ other ∈ right.pathsForName name)

private theorem without_filter_owned {path other : String} (different : other ≠ path)
    (symbols : List Symbol) :
    (without path symbols).filter (fun symbol => symbol.packagePath == other) =
      symbols.filter fun symbol => symbol.packagePath == other := by
  rw [without, List.filter_filter]
  refine List.filter_congr fun symbol _ => ?_
  by_cases owned : symbol.packagePath = other <;> simp [owned, different]

private theorem without_of_owned {path : String} {symbols : List Symbol}
    (owned : ∀ symbol ∈ symbols, symbol.packagePath = path) : without path symbols = [] :=
  List.filter_eq_nil_iff.mpr fun symbol member => by simp [owned symbol member]

private theorem without_idem (path : String) (symbols : List Symbol) :
    without path (without path symbols) = without path symbols := by
  simp [without]

section

variable {left right : Index} {path : String}

/-- The lists of the names tell the records of all other packages. -/
theorem records_of_without
    (listed : ∀ name, without path (left.listed name) = without path (right.listed name))
    {other : String} (different : other ≠ path) (name : String) :
    left.records other name = right.records other name := by
  rw [records, records, ← without_filter_owned different, listed, without_filter_owned different]

private theorem without_find_congr (leftFiled : left.Filed) (rightFiled : right.Filed)
    (records : ∀ other, other ≠ path → ∀ name, left.records other name = right.records other name)
    (caseSensitive : Bool) (text : String) :
    without path (left.find caseSensitive text) = without path (right.find caseSensitive text) := by
  have sorted : ∀ {index : Index}, index.Filed →
      (without path (index.find caseSensitive text)).Pairwise
        fun first second => symbolAtMost first second = true := by
    intro index filed
    exact ((filed.finds caseSensitive text).sorted.imp symbolAtMost_iff.mpr).filter _
  have found : ∀ {index : Index}, index.Filed → ∀ value : String × String,
      (without path (index.find caseSensitive text)).filter
          (fun symbol => position symbol = value) =
        if value.1 = path then []
        else (index.records value.1 value.2).filter fun symbol =>
          decide ((Query.ofText text).Seeks caseSensitive symbol) := by
    intro index filed value
    rw [without, filter_comm, filed.filter_find]
    split
    case isTrue same =>
      refine without_of_owned fun symbol member => ?_
      exact (mem_records.mp (List.mem_filter.mp member).1).2.trans same
    case isFalse different =>
      refine List.filter_eq_self.mpr fun symbol member => ?_
      have owned := (mem_records.mp (List.mem_filter.mp member).1).2
      simpa [owned] using different
  apply orders_position.eq_of_filter_eq (sorted leftFiled) (sorted rightFiled)
  intro value
  rw [found leftFiled, found rightFiled]
  split
  case isTrue => rfl
  case isFalse different => rw [records value.1 different]

private theorem Consistent.mem_pathsForName {index : Index} (consistent : index.Consistent)
    {name path : String} :
    path ∈ index.pathsForName name ↔
      (∃ other, index.records path other ≠ []) ∧
        (ImportPath.endsIn name path || ImportPath.assumedName path == name) = true := by
  rw [pathsForName, List.mem_filter, consistent.mem_keys_byPackage]
  refine and_congr_left fun _ => ?_
  constructor
  · rintro ⟨symbol, stored, rfl⟩
    exact ⟨symbol.name, List.ne_nil_of_mem (consistent.mem_scan.mp stored)⟩
  · rintro ⟨other, filled⟩
    obtain ⟨symbol, member, owned⟩ := records_ne_nil_iff.mp filled
    refine ⟨symbol, consistent.mem_scan.mpr (mem_records.mpr ⟨?_, rfl⟩), owned⟩
    rwa [consistent.named other symbol member]

private theorem Consistent.sameBut (leftConsistent : left.Consistent)
    (rightConsistent : right.Consistent)
    (version : ∀ other, other ≠ path → left.version? other = right.version? other)
    (listed : ∀ name, without path (left.listed name) = without path (right.listed name)) :
    left.SameBut right path := by
  have records : ∀ other, other ≠ path → ∀ name,
      left.records other name = right.records other name :=
    fun other different => records_of_without listed different
  refine ⟨version, listed, ?_, ?_, ?_⟩
  · exact fun other different =>
      leftConsistent.packageSymbols_congr rightConsistent (records other different)
  · exact without_find_congr leftConsistent.toFiled rightConsistent.toFiled records
  · intro name other different
    simp only [leftConsistent.mem_pathsForName, rightConsistent.mem_pathsForName,
      records other different]

end

/-! ## Replacing and removing -/

section

variable {index : Index} {path : String}

theorem version?_replacePackage (index : Index) (path version other : String)
    (symbols : List Symbol) :
    (index.replacePackage path version symbols).version? other =
      if other = path then some version else index.version? other := by
  rw [version?, packages_replacePackage, Std.ExtTreeMap.getElem?_insert]
  simp only [Std.compare_eq_iff_eq, @eq_comm _ path]
  rfl

/-- The symbols of the package leave their places, and the new ones come after all others. -/
theorem Consistent.listed_replacePackage (consistent : index.Consistent) (version : String)
    (symbols : List Symbol) (name : String) :
    (index.replacePackage path version symbols).listed name =
      without path (index.listed name) ++
        symbols.filter fun symbol => symbol.isExported && symbol.name == name := by
  rw [Index.replacePackage, listed_addAll, ← consistent.listed_removeSymbols]
  rfl

private theorem filter_isRecord_own {symbols : List Symbol}
    (owned : ∀ symbol ∈ symbols, symbol.packagePath = path) (name : String) :
    symbols.filter (isRecord path name) =
      symbols.filter fun symbol => symbol.isExported && symbol.name == name :=
  List.filter_congr fun symbol member => by simp [isRecord, owned symbol member]

private theorem Consistent.sameBut_replacePackage (consistent : index.Consistent) (version : String)
    {symbols : List Symbol} (owned : ∀ symbol ∈ symbols, symbol.packagePath = path) :
    (index.replacePackage path version symbols).SameBut index path := by
  refine (consistent.replacePackage path version symbols).sameBut consistent ?_ ?_
  · intro other different
    rw [version?_replacePackage, if_neg different]
  · intro name
    have added : without path
        (symbols.filter fun symbol => symbol.isExported && symbol.name == name) = [] :=
      without_of_owned fun symbol member => owned symbol (List.mem_filter.mp member).1
    rw [consistent.listed_replacePackage, without, List.filter_append, ← without, ← without, added,
      without_idem, List.append_nil]

private theorem Consistent.sameBut_removePackage (consistent : index.Consistent) :
    (index.removePackage path).SameBut index path := by
  refine (consistent.removePackage path).sameBut consistent ?_ ?_
  · intro other different
    rw [version?, packages_removePackage, Std.ExtTreeMap.getElem?_erase,
      if_neg (by simpa using different.symm)]
    rfl
  · intro name
    have removed : (index.removePackage path).listed name = without path (index.listed name) :=
      consistent.listed_removeSymbols path name
    rw [removed, without_idem]

private theorem Consistent.lacks_removePackage (consistent : index.Consistent) :
    (index.removePackage path).Lacks path where
  version := by simp [version?]
  records name := by rw [consistent.records_removePackage, if_pos rfl]

private theorem Consistent.agrees_replacePackage_packageSymbols (consistent : index.Consistent)
    {version : String} (known : index.version? path = some version) :
    (index.replacePackage path version (index.packageSymbols path)).Agrees index := by
  have again := consistent.replacePackage path version (index.packageSymbols path)
  refine SameRecords.agrees ?_ again consistent ?_
  · intro other name
    by_cases same : other = path
    · subst same
      exact consistent.records_replacePackage_packageSymbols consistent version name
    · exact records_of_without (consistent.sameBut_replacePackage version
        (packageSymbols_owned index path)).listed same name
  · apply Std.ExtTreeMap.ext_getElem?
    intro other
    have found := version?_replacePackage index path version other (index.packageSymbols path)
    rw [version?] at found
    rw [found]
    split
    case isTrue same => rw [same]; exact known.symm
    case isFalse => rfl

/-- Replacing a package gives it the version and the exported ones of the symbols, and removing it
leaves nothing of it; either leaves everything else as it was. To replace it with its own symbols
from some index is to copy it from there, and if that is the same index, no answer changes. -/
theorem Reachable.replacePackage_frame (reachable : index.Reachable) (version : String)
    {symbols : List Symbol} (owned : ∀ symbol ∈ symbols, symbol.packagePath = path) :
    (index.replacePackage path version symbols).version? path = some version ∧
      (∀ name, (index.replacePackage path version symbols).records path name =
        symbols.filter fun symbol => symbol.isExported && symbol.name == name) ∧
      (index.replacePackage path version symbols).SameBut index path ∧
      (index.removePackage path).Lacks path ∧
      (index.removePackage path).SameBut index path ∧
      (∀ source : Index, source.Reachable →
        let copied := index.replacePackage path version (source.packageSymbols path)
        (∀ name, copied.records path name = source.records path name) ∧
          copied.packageSymbols path = source.packageSymbols path) ∧
      (index.version? path = some version →
        (index.replacePackage path version (index.packageSymbols path)).Agrees index) := by
  have consistent := reachable.consistent
  refine ⟨?_, ?_, consistent.sameBut_replacePackage version owned, consistent.lacks_removePackage,
    consistent.sameBut_removePackage, ?_, consistent.agrees_replacePackage_packageSymbols⟩
  · rw [version?_replacePackage, if_pos rfl]
  · intro name
    rw [consistent.records_replacePackage, if_pos rfl, List.nil_append,
      filter_isRecord_own owned]
  · intro source sourceReachable copied
    have records : ∀ name, copied.records path name = source.records path name := fun name =>
      consistent.records_replacePackage_packageSymbols sourceReachable.consistent version name
    exact ⟨records, (consistent.replacePackage _ _ _).packageSymbols_congr
      sourceReachable.consistent records⟩

end

def sharedIndex : Index :=
  (empty.replacePackage "lib.org/c" "v1.0.0"
    [.declare "Open" (.ofImportPath "lib.org/c") .func none,
      .declare "Close" (.ofImportPath "lib.org/c") .func none]).replacePackage
        "other.org/z" "v2.0.0" [.declare "Open" (.ofImportPath "other.org/z") .func none]

def newSymbols : List Symbol :=
  [.declare "Read" (.ofImportPath "lib.org/c") .func none,
    .declare "seek" (.ofImportPath "lib.org/c") .func none,
    .declare "Open" (.ofImportPath "lib.org/c") .method none]

theorem replacePackage_frame_example :
    sharedIndex.Reachable ∧ (∀ symbol ∈ newSymbols, symbol.packagePath = "lib.org/c") ∧
      sharedIndex.version? "lib.org/c" = some "v1.0.0" ∧
      (sharedIndex.replacePackage "lib.org/c" "v1.0.0" newSymbols).SameBut sharedIndex "lib.org/c" ∧
      (sharedIndex.removePackage "lib.org/c").SameBut sharedIndex "lib.org/c" ∧
      (sharedIndex.replacePackage "lib.org/c" "v1.0.0"
        (sharedIndex.packageSymbols "lib.org/c")).Agrees sharedIndex := by
  have reachable : sharedIndex.Reachable :=
    (Reachable.empty.replacePackage _ _ _).replacePackage _ _ _
  have owned : ∀ symbol ∈ newSymbols, symbol.packagePath = "lib.org/c" := by decide +kernel
  have known : sharedIndex.version? "lib.org/c" = some "v1.0.0" := by decide +kernel
  obtain ⟨-, -, replaced, -, removed, -, again⟩ :=
    reachable.replacePackage_frame "v1.0.0" owned
  exact ⟨reachable, owned, known, replaced, removed, again known⟩

example :
    (sharedIndex.listed "Open").map Symbol.packagePath = ["lib.org/c", "other.org/z"] ∧
      ((sharedIndex.replacePackage "lib.org/c" "v1.1.0" newSymbols).listed "Open").map
        Symbol.packagePath = ["other.org/z", "lib.org/c"] := by
  decide +kernel

end SymbolCache.Index
