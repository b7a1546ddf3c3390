import SymbolCache.Proofs.Index.Agreement
import SymbolCache.Proofs.Refresh.Sources
import SymbolCache.Store.Refresh

/-!
# Taking over what was extracted

A refresh replaces packages one after the other. As no package is extracted twice, the index then
has for every package what was extracted for it, and what it had before for all others.
-/

set_option autoImplicit false

namespace SymbolCache.Refresh

open Extraction Index

/-! ## Replacing packages -/

def replaceOne (versions : Versions) (index : Index) (extracted : Extracted) : Index :=
  match versions[extracted.1.importPath]? with
  | none => index
  | some version =>
    if extracted.2.isEmpty then index
    else index.replacePackage extracted.1.importPath version extracted.2

def replaceAll (versions : Versions) (extracted : List Extracted) (index : Index) : Index :=
  extracted.foldl (replaceOne versions) index

/-- The counters do not matter for the index. -/
theorem apply_fst (versions : Versions) (extracted : List Extracted) (index : Index)
    (stats : RefreshStats) :
    (apply versions extracted index stats).1 = replaceAll versions extracted index := by
  have folded : ∀ (state : Index × RefreshStats),
      (extracted.foldl (applyOne versions) state).1 =
        extracted.foldl (replaceOne versions) state.1 := by
    induction extracted with
    | nil => exact fun _ => rfl
    | cons first extracted ih =>
        intro state
        have step : (applyOne versions state first).1 = replaceOne versions state.1 first := by
          unfold applyOne replaceOne
          cases versions[first.1.importPath]? with
          | none => rfl
          | some version => dsimp only; split <;> rfl
        rw [List.foldl_cons, ih, step, List.foldl_cons]
  exact folded (index, stats)

/-- What a refresh counts as indexed: a package with a version, for which symbols were extracted. -/
def isIndexed (versions : Versions) (extracted : Extracted) : Bool :=
  isResolved versions extracted.1 && !extracted.2.isEmpty

/-- What a refresh counts as failed: a package with a version, for which nothing was extracted. -/
def isFailed (versions : Versions) (extracted : Extracted) : Bool :=
  isResolved versions extracted.1 && extracted.2.isEmpty

/-- A package is counted once, if it has a version. -/
theorem applyOne_snd (versions : Versions) (state : Index × RefreshStats) (entry : Extracted) :
    (applyOne versions state entry).2 =
      { state.2 with
        indexed := state.2.indexed + (isIndexed versions entry).toNat
        failed := state.2.failed + (isFailed versions entry).toNat } := by
  unfold applyOne isIndexed isFailed isResolved
  rw [← Std.ExtTreeMap.isSome_getElem?_eq_contains]
  cases versions[entry.1.importPath]? with
  | none => rfl
  | some version => cases empty : entry.2.isEmpty <;> simp

/-- Applying counts the packages that are indexed or failed and all symbols in the end. The other
counters stay. -/
theorem apply_snd (versions : Versions) (extracted : List Extracted) (index : Index)
    (stats : RefreshStats) :
    (apply versions extracted index stats).2 =
      { stats with
        indexed := stats.indexed + extracted.countP (isIndexed versions)
        failed := stats.failed + extracted.countP (isFailed versions)
        symbols := (replaceAll versions extracted index).symbolCount } := by
  have folded : ∀ state : Index × RefreshStats,
      (extracted.foldl (applyOne versions) state).2 =
        { state.2 with
          indexed := state.2.indexed + extracted.countP (isIndexed versions)
          failed := state.2.failed + extracted.countP (isFailed versions) } := by
    induction extracted with
    | nil => exact fun _ => rfl
    | cons entry extracted ih =>
        intro state
        have first : ∀ counts : Extracted → Bool,
            (entry :: extracted).countP counts =
              (counts entry).toNat + extracted.countP counts := by
          intro counts
          rw [List.countP_cons, Nat.add_comm]
          cases counts entry <;> rfl
        simp only [List.foldl_cons, ih, applyOne_snd, first, Nat.add_assoc]
  have index_eq := apply_fst versions extracted index stats
  rw [apply] at index_eq ⊢
  dsimp only at index_eq ⊢
  rw [index_eq, folded]

def Owned (extracted : List Extracted) : Prop :=
  ∀ entry ∈ extracted, ∀ symbol ∈ entry.2, symbol.packagePath = entry.1.importPath

def Gathered (kind : Package → Prop) (extracted : List Extracted) : Prop :=
  ∀ entry ∈ extracted, kind entry.1 ∧ ∃ answer, entry.2 = symbolsOfAnswer entry.1 answer

theorem gathered_gather {kind : Package → Prop} {packages : List Package}
    (all : ∀ package ∈ packages, kind package) (answers : List (Nat × Answer)) :
    Gathered kind (gather packages answers) := by
  intro entry member
  obtain ⟨place, answer, -, found, extracted⟩ := mem_gather member
  exact ⟨all _ (List.mem_of_getElem? found), answer, extracted⟩

/-- Whatever the answers are, what is gathered for a package belongs to it. -/
theorem Gathered.owned {kind : Package → Prop} {extracted : List Extracted}
    (gathered : Gathered kind extracted) : Owned extracted := by
  intro entry member symbol inside
  obtain ⟨-, answer, made⟩ := gathered entry member
  rw [made] at inside
  exact (owned_of_mem_symbolsOfAnswer inside).1

theorem owned_gather (packages : List Package) (answers : List (Nat × Answer)) :
    Owned (gather packages answers) := by
  have gathered : Gathered (fun _ => True) (gather packages answers) :=
    gathered_gather (fun _ _ => trivial) answers
  exact gathered.owned

theorem owned_extractedAll (answer : Request → Answer) (toolchain : Toolchain)
    (packages : List Package) : Owned (extractedAll answer toolchain packages) := by
  intro entry member symbol found
  obtain ⟨package, _, rfl⟩ := (mem_extractedAll answer).mp member
  exact (owned_of_mem_symbolsOfAnswer found).1

section

variable (versions : Versions) {index : Index}

private theorem replaceOne_keeps {good : Index → Prop} (holds : good index) {entry : Extracted}
    (replaces : ∀ version, good (index.replacePackage entry.1.importPath version entry.2)) :
    good (replaceOne versions index entry) := by
  unfold replaceOne
  cases versions[entry.1.importPath]? with
  | none => exact holds
  | some version =>
      dsimp only
      split
      · exact holds
      · exact replaces version

/-- What replacing each of the extracted packages keeps is kept by replacing them all. -/
theorem replaceAll_keeps {good : Index → Prop} (holds : good index) {extracted : List Extracted}
    (replaces : ∀ index, good index → ∀ entry ∈ extracted, ∀ version,
      good (index.replacePackage entry.1.importPath version entry.2)) :
    good (replaceAll versions extracted index) := by
  induction extracted generalizing index with
  | nil => exact holds
  | cons first extracted ih =>
      have start := replaceOne_keeps versions holds
        (replaces index holds first List.mem_cons_self)
      exact ih start fun index holds entry member =>
        replaces index holds entry (List.mem_cons_of_mem first member)

private theorem replaceOne_consistent (consistent : index.Consistent) (entry : Extracted) :
    (replaceOne versions index entry).Consistent :=
  replaceOne_keeps versions consistent fun _ => consistent.replacePackage _ _ _

theorem replaceAll_consistent (consistent : index.Consistent) (extracted : List Extracted) :
    (replaceAll versions extracted index).Consistent :=
  replaceAll_keeps versions consistent fun _ consistent _ _ _ => consistent.replacePackage _ _ _

/-- Replacing one package leaves the others as they are, and itself if nothing was extracted. -/
theorem sameAt_replaceOne (consistent : index.Consistent) {entry : Extracted}
    (owned : ∀ symbol ∈ entry.2, symbol.packagePath = entry.1.importPath) {path : String}
    (different : entry.2 ≠ [] → entry.1.importPath ≠ path) :
    (replaceOne versions index entry).SameAt index path := by
  unfold replaceOne
  cases versions[entry.1.importPath]? with
  | none => exact .refl index path
  | some version =>
      dsimp only
      split
      case isTrue => exact .refl index path
      case isFalse filled =>
        exact consistent.sameAt_replacePackage owned (different (mt List.isEmpty_iff.mpr filled))

/-- A package for which nothing was extracted stays as it is. -/
theorem sameAt_replaceAll (consistent : index.Consistent) {extracted : List Extracted}
    (owned : Owned extracted) {path : String}
    (absent : ∀ entry ∈ extracted, entry.2 ≠ [] → entry.1.importPath ≠ path) :
    (replaceAll versions extracted index).SameAt index path := by
  induction extracted generalizing index with
  | nil => exact .refl index path
  | cons first extracted ih =>
      have start := sameAt_replaceOne versions consistent
        (owned first List.mem_cons_self) (absent first List.mem_cons_self)
      have rest := ih (replaceOne_consistent versions consistent first)
        (fun entry member => owned entry (List.mem_cons_of_mem first member))
        (fun entry member => absent entry (List.mem_cons_of_mem first member))
      exact rest.trans start

/-- A package that was extracted, with a version and symbols, has what was extracted for it. -/
theorem holds_replaceAll (consistent : index.Consistent) {extracted : List Extracted}
    (owned : Owned extracted)
    (distinct : (extracted.map fun entry => entry.1.importPath).Nodup)
    {entry : Extracted} (member : entry ∈ extracted)
    (exported : ∀ symbol ∈ entry.2, symbol.isExported = true) {version : String}
    (resolved : versions[entry.1.importPath]? = some version) (filled : entry.2 ≠ []) :
    (replaceAll versions extracted index).Holds entry.1.importPath version entry.2 := by
  have own : ∀ symbol ∈ entry.2,
      symbol.packagePath = entry.1.importPath ∧ symbol.isExported = true :=
    fun symbol inside => ⟨owned entry member symbol inside, exported symbol inside⟩
  obtain ⟨before, after, rfl⟩ := List.append_of_mem member
  have later : ∀ other ∈ after, other.2 ≠ [] → other.1.importPath ≠ entry.1.importPath := by
    intro other otherMember _ same
    rw [List.map_append, List.map_cons] at distinct
    have single := (List.nodup_append.mp distinct).2.1
    exact (List.nodup_cons.mp single).1 (same ▸ List.mem_map_of_mem otherMember)
  have start := replaceAll_consistent versions consistent before
  have replaced : replaceOne versions (replaceAll versions before index) entry =
      (replaceAll versions before index).replacePackage entry.1.importPath version entry.2 := by
    simp [replaceOne, resolved, filled]
  have split : replaceAll versions (before ++ entry :: after) index = replaceAll versions after
      ((replaceAll versions before index).replacePackage entry.1.importPath version entry.2) := by
    rw [← replaced, replaceAll, replaceAll, replaceAll, List.foldl_append, List.foldl_cons]
  have kept := sameAt_replaceAll versions
    (start.replacePackage entry.1.importPath version entry.2)
    (fun other otherMember =>
      owned other (List.mem_append_right before (List.mem_cons_of_mem entry otherMember))) later
  rw [split]
  exact kept.holds (start.holds_replacePackage version own)

end

theorem resolved_of_isResolved {versions : Versions} {package : Package}
    (resolved : isResolved versions package = true) :
    ∃ version, versions[package.importPath]? = some version := by
  rwa [isResolved, ← Std.ExtTreeMap.isSome_getElem?_eq_contains, Option.isSome_iff_exists]
    at resolved

theorem isResolved_of_resolved {versions : Versions} {package : Package} {version : String}
    (resolved : versions[package.importPath]? = some version) :
    isResolved versions package = true := by
  rw [isResolved, ← Std.ExtTreeMap.isSome_getElem?_eq_contains, resolved, Option.isSome_some]

theorem resolved_of_isChanged {index : Index} {versions : Versions} {package : Package}
    (changed : isChanged index versions package = true) :
    ∃ version, versions[package.importPath]? = some version ∧
      (version = Module.workspaceVersion ∨ index.version? package.importPath ≠ some version) := by
  unfold isChanged at changed
  cases resolved : versions[package.importPath]? with
  | none => simp [resolved] at changed
  | some version => exact ⟨version, rfl, by simpa [resolved] using changed⟩

/-! ## Removing packages -/

section

variable {index : Index}

theorem mem_vanished {discovered : Std.ExtTreeSet String} {path : String} :
    path ∈ vanished index discovered ↔
      (∃ version, index.version? path = some version) ∧ path ∉ discovered := by
  have known : path ∈ index.packages ↔ ∃ version, index.packages[path]? = some version := by
    rw [Std.ExtTreeMap.mem_iff_isSome_getElem?, Option.isSome_iff_exists]
  have absent : discovered.contains path = false ↔ path ∉ discovered := by
    rw [← Std.ExtTreeSet.contains_iff_mem, Bool.not_eq_true]
  simp [vanished, version?, known, absent]

theorem foldl_removePackage_consistent (consistent : index.Consistent) (paths : List String) :
    (paths.foldl removePackage index).Consistent := by
  induction paths generalizing index with
  | nil => exact consistent
  | cons path paths ih => exact ih (consistent.removePackage path)

theorem packages_foldl_removePackage (paths : List String) (path : String) :
    (paths.foldl removePackage index).packages[path]? =
      if path ∈ paths then none else index.packages[path]? := by
  induction paths generalizing index with
  | nil => simp
  | cons first paths ih =>
      rw [List.foldl_cons, ih, packages_removePackage, Std.ExtTreeMap.getElem?_erase]
      by_cases same : first = path
      · simp [same]
      · simp [same, Ne.symm same]

theorem records_foldl_removePackage (consistent : index.Consistent) (paths : List String)
    (path name : String) :
    (paths.foldl removePackage index).records path name =
      if path ∈ paths then [] else index.records path name := by
  induction paths generalizing index with
  | nil => simp
  | cons first paths ih =>
      rw [List.foldl_cons, ih (consistent.removePackage first),
        consistent.records_removePackage]
      by_cases same : path = first
      · simp [same]
      · simp [same]

theorem lacks_foldl_removePackage (consistent : index.Consistent) {paths : List String}
    {path : String} (member : path ∈ paths) : (paths.foldl removePackage index).Lacks path where
  version := by rw [version?, packages_foldl_removePackage, if_pos member]
  records name := by rw [records_foldl_removePackage consistent, if_pos member]

theorem sameAt_foldl_removePackage (consistent : index.Consistent) {paths : List String}
    {path : String} (other : path ∉ paths) :
    (paths.foldl removePackage index).SameAt index path where
  version := by rw [version?, version?, packages_foldl_removePackage, if_neg other]
  records name := by rw [records_foldl_removePackage consistent, if_neg other]

end

/-! ## Taking over packages -/

section

variable (previous : Index) (discovered : Std.ExtTreeSet String) {index : Index}

def takeOver (index : Index) (entry : String × String) : Index :=
  if discovered.contains entry.1 then index
  else index.replacePackage entry.1 entry.2 (previous.packageSymbols entry.1)

private theorem carryOver_eq :
    carryOver previous discovered =
      previous.packages.toList.foldl (takeOver previous discovered) .empty :=
  rfl

section

variable {good : Index → Prop} (replaces : ∀ index, good index → ∀ path version,
  good (index.replacePackage path version (previous.packageSymbols path)))

include replaces

private theorem takeOver_keeps (holds : good index) (entry : String × String) :
    good (takeOver previous discovered index entry) := by
  unfold takeOver
  split
  · exact holds
  · exact replaces index holds entry.1 entry.2

/-- What replacing a package by its previous symbols keeps is kept by taking packages over. -/
theorem foldl_takeOver_keeps (holds : good index) (entries : List (String × String)) :
    good (entries.foldl (takeOver previous discovered) index) := by
  induction entries generalizing index with
  | nil => exact holds
  | cons entry entries ih => exact ih (takeOver_keeps previous discovered replaces holds entry)

theorem carryOver_keeps (empty : good .empty) : good (carryOver previous discovered) :=
  foldl_takeOver_keeps previous discovered replaces empty _

end

private theorem takeOver_consistent (consistent : index.Consistent) (entry : String × String) :
    (takeOver previous discovered index entry).Consistent :=
  takeOver_keeps previous discovered (fun _ consistent _ _ => consistent.replacePackage _ _ _)
    consistent entry

private theorem foldl_takeOver_consistent (consistent : index.Consistent)
    (entries : List (String × String)) :
    (entries.foldl (takeOver previous discovered) index).Consistent :=
  foldl_takeOver_keeps previous discovered
    (fun _ consistent _ _ => consistent.replacePackage _ _ _) consistent entries

theorem carryOver_consistent : (carryOver previous discovered).Consistent :=
  foldl_takeOver_consistent previous discovered consistent_empty _

private theorem sameAt_takeOver (consistent : index.Consistent) {entry : String × String}
    {path : String}
    (left : entry.1 = path → path ∈ discovered) :
    (takeOver previous discovered index entry).SameAt index path := by
  unfold takeOver
  split
  case isTrue => exact .refl index path
  case isFalse outside =>
    refine consistent.sameAt_replacePackage (packageSymbols_owned previous entry.1) ?_
    rintro rfl
    exact outside (Std.ExtTreeSet.contains_iff_mem.mpr (left rfl))

/-- A package that was discovered, or of which there is no entry, stays as it is. -/
theorem sameAt_foldl_takeOver (consistent : index.Consistent) {entries : List (String × String)}
    {path : String} (left : ∀ entry ∈ entries, entry.1 = path → path ∈ discovered) :
    (entries.foldl (takeOver previous discovered) index).SameAt index path := by
  induction entries generalizing index with
  | nil => exact .refl index path
  | cons entry entries ih =>
      have first := sameAt_takeOver previous discovered consistent (left entry List.mem_cons_self)
      have rest := ih (takeOver_consistent previous discovered consistent entry)
        fun other member => left other (List.mem_cons_of_mem entry member)
      exact rest.trans first

variable {previous discovered}

theorem lacks_carryOver {path : String} (found : path ∈ discovered) :
    (carryOver previous discovered).Lacks path :=
  (sameAt_foldl_takeOver previous discovered consistent_empty fun _ _ _ => found).lacks
    (lacks_empty path)

/-- A package with a version that was not discovered is taken over as it is. -/
theorem sameAt_carryOver (consistent : previous.Consistent) {path version : String}
    (versioned : previous.version? path = some version) (outside : path ∉ discovered) :
    (carryOver previous discovered).SameAt previous path := by
  have member : (path, version) ∈ previous.packages.toList :=
    Std.ExtTreeMap.mem_toList_iff_getElem?_eq_some.mpr versioned
  have distinct : (previous.packages.toList.map Prod.fst).Nodup := by
    rw [Std.ExtTreeMap.map_fst_toList_eq_keys]
    exact Std.ExtTreeMap.nodup_keys
  obtain ⟨before, after, split⟩ := List.append_of_mem member
  rw [split, List.map_append, List.map_cons] at distinct
  have single := (List.nodup_cons.mp (List.nodup_append.mp distinct).2.1).1
  rw [carryOver_eq, split, List.foldl_append, List.foldl_cons]
  have start := foldl_takeOver_consistent previous discovered consistent_empty before
  refine (sameAt_foldl_takeOver previous discovered
    (takeOver_consistent previous discovered start _) ?_).trans ?_
  case refine_1 =>
    intro entry later same
    exact absurd (List.mem_map_of_mem later) (same ▸ single)
  case refine_2 =>
    have unfound : discovered.contains path = false := by
      rwa [← Bool.not_eq_true, Std.ExtTreeSet.contains_iff_mem]
    simp only [takeOver, unfound, Bool.false_eq_true, if_false]
    refine ⟨?_, start.records_replacePackage_packageSymbols consistent version⟩
    simp [version?, ← versioned]

end

end SymbolCache.Refresh
