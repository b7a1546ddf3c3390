import SymbolCache.Discovery
import SymbolCache.Extraction
import SymbolCache.Proofs.Job.Answers
import SymbolCache.Resolution
import Std.Data.ExtTreeMap.Lemmas
import Std.Data.ExtTreeSet.Lemmas

/-!
# What a refresh learns

Under fixed answers the packages that are discovered, their versions and the symbols extracted for
them are functions of the answers. No path is discovered twice, the version of a path does not
depend on the other paths that are resolved with it, and what is extracted for a package belongs to
it.
-/

set_option autoImplicit false

namespace SymbolCache

open Job

variable {σ : Type} (answer : Request → Answer)

/-! ## Discovery -/

theorem Package.nodup_importPath_filter {packages : List Package}
    (distinct : (packages.map Package.importPath).Nodup) (chosen : Package → Bool) :
    ((packages.filter chosen).map Package.importPath).Nodup :=
  distinct.sublist (List.filter_sublist.map Package.importPath)

namespace Discovery

private theorem evaluate_askEach (requests : List Request) (state : σ) :
    (askEach requests).evaluate answer state = (requests.map answer, state) := by
  induction requests with
  | nil => rfl
  | cons request requests ih => simp [askEach, ih]

def discovered (toolchain : Toolchain) (config : Config) : Except Failure Discovery :=
  config.excludeMatcher.map fun exclude =>
    ofAnswers exclude ((listings toolchain config).map answer)

theorem evaluate_discover (toolchain : Toolchain) (config : Config) (state : σ) :
    (discover toolchain config).evaluate answer state =
      (discovered answer toolchain config, state) := by
  unfold discover discovered
  cases config.excludeMatcher with
  | error failure => rfl
  | ok exclude => simp [evaluate_askEach, Except.map]

def Keyed (found : Std.ExtTreeMap String Package) : Prop :=
  ∀ (path : String) (package : Package), found[path]? = some package → package.importPath = path

theorem Keyed.insertIfNew {found : Std.ExtTreeMap String Package} (keyed : Keyed found)
    (package : Package) : Keyed (found.insertIfNew package.importPath package) := by
  intro path other member
  rw [Std.ExtTreeMap.getElem?_insertIfNew] at member
  split at member
  case isTrue same =>
    cases member
    exact Std.compare_eq_iff_eq.mp same.1
  case isFalse => exact keyed path other member

theorem keyed_byPath (packages : List Package) : Keyed (byPath packages) := by
  have all : ∀ (packages : List Package) (found : Std.ExtTreeMap String Package), Keyed found →
      Keyed (packages.foldl (fun found package =>
        found.insertIfNew package.importPath package) found) := by
    intro packages
    induction packages with
    | nil => exact fun _ keyed => keyed
    | cons package packages ih => exact fun _ keyed => ih _ (keyed.insertIfNew package)
  exact all packages ∅ (by simp [Keyed])

/-- No path is discovered twice. -/
theorem nodup_importPath_ofAnswers (exclude : Glob.Matcher) (answers : List Answer) :
    ((ofAnswers exclude answers).packages.map Package.importPath).Nodup := by
  have keys : ((byPath (listedPackages answers)).toList.map Prod.snd).map Package.importPath =
      (byPath (listedPackages answers)).keys := by
    rw [← Std.ExtTreeMap.map_fst_toList_eq_keys, List.map_map]
    refine List.map_congr_left fun entry member => ?_
    exact keyed_byPath _ _ _
      (Std.ExtTreeMap.mem_toList_iff_getElem?_eq_some.mp member)
  have all : (((byPath (listedPackages answers)).toList.map Prod.snd).map
      Package.importPath).Nodup := by
    rw [keys]
    exact Std.ExtTreeMap.nodup_keys
  exact Package.nodup_importPath_filter all _

end Discovery

/-! ## Resolution -/

namespace Resolution

def record (version? : String → Option String) (versions : Versions) (paths : List String) :
    Versions :=
  paths.foldl (fun versions path =>
    match version? path with
    | some version => versions.insert path version
    | none => versions) versions

theorem getElem?_record (version? : String → Option String) (versions : Versions)
    (paths : List String) (path : String) :
    (record version? versions paths)[path]? =
      if path ∈ paths then (version? path).or versions[path]? else versions[path]? := by
  induction paths generalizing versions with
  | nil => simp [record]
  | cons first paths ih =>
      rw [record, List.foldl_cons, ← record, ih]
      by_cases same : first = path
      · subst same
        cases version? first <;> simp
      · cases version? first with
        | none => simp [Ne.symm same]
        | some version => simp [Std.ExtTreeMap.getElem?_insert, same, Ne.symm same]

def asked (toolchain : Toolchain) (path : String) : Option String :=
  (versionOfLine? path (answer (lineRequest toolchain path))).or
    (versionOfRecord? (answer (recordRequest toolchain path)))

def versionOf (toolchain : Toolchain) (standardVersion : Option String) (path : String) :
    Option String :=
  (knownVersion? (modulesOfAnswer (answer (moduleListing toolchain))) standardVersion path).or
    (asked answer toolchain path)

def resolved (toolchain : Toolchain) (standardVersion : Option String)
    (paths : Std.ExtTreeSet String) : Versions :=
  record (versionOf answer toolchain standardVersion) ∅ paths.toList

theorem getElem?_resolved (toolchain : Toolchain) (standardVersion : Option String)
    (paths : Std.ExtTreeSet String) (path : String) :
    (resolved answer toolchain standardVersion paths)[path]? =
      if path ∈ paths then versionOf answer toolchain standardVersion path else none := by
  simp [resolved, getElem?_record]

private theorem evaluate_query (toolchain : Toolchain) (path : String) (state : σ) :
    (query toolchain path).evaluate answer state = (asked answer toolchain path, state) := by
  simp only [query, bind_eq, evaluate_bind, evaluate_ask, asked]
  cases versionOfLine? path (answer (lineRequest toolchain path)) <;> simp

private theorem evaluate_queryAll (toolchain : Toolchain) (versions : Versions)
    (paths : List String)
    (state : σ) :
    (queryAll toolchain versions paths).evaluate answer state =
      (record (asked answer toolchain) versions paths, state) := by
  induction paths generalizing versions with
  | nil => rfl
  | cons path paths ih =>
      simp only [queryAll, bind_eq, evaluate_bind, evaluate_query]
      cases found : asked answer toolchain path <;> simp [ih, record, found]

theorem evaluate_resolve (toolchain : Toolchain) (standardVersion : Option String)
    (paths : Std.ExtTreeSet String) (state : σ) :
    (resolve toolchain standardVersion paths).evaluate answer state =
      (resolved answer toolchain standardVersion paths, state) := by
  simp only [resolve, bind_eq, evaluate_bind, evaluate_ask, evaluate_queryAll, Prod.mk.injEq,
    and_true]
  apply Std.ExtTreeMap.ext_getElem?
  intro path
  have known : knownVersions (modulesOfAnswer (answer (moduleListing toolchain)))
      standardVersion paths.toList =
        record (knownVersion? (modulesOfAnswer (answer (moduleListing toolchain)))
          standardVersion) ∅ paths.toList := rfl
  rw [known, getElem?_record, getElem?_record, getElem?_resolved]
  by_cases member : path ∈ paths
  · cases found : knownVersion? (modulesOfAnswer (answer (moduleListing toolchain)))
      standardVersion path <;> simp [member, found, versionOf]
  · simp [member]

end Resolution

/-! ## Extraction -/

namespace Extraction

def symbolsOf (toolchain : Toolchain) (package : Package) : List Symbol :=
  symbolsOfAnswer package (answer (documentationRequest toolchain package))

def extractedAll (toolchain : Toolchain) (packages : List Package) : List Extracted :=
  (packages.map fun package => (package, symbolsOf answer toolchain package)).mergeSort pathAtMost

theorem extractedAll_nil (toolchain : Toolchain) : extractedAll answer toolchain [] = [] := by
  simp [extractedAll]

/-- The answers at the positions from that of a package on belong to it and the packages after
it. -/
theorem filterMap_position (before packages : List Package) (answers : List Answer) :
    ((List.range' before.length answers.length).zip answers).filterMap (fun (position, reply) =>
        ((before ++ packages)[position]?).map fun package =>
          (package, symbolsOfAnswer package reply)) =
      List.zipWith (fun package reply => (package, symbolsOfAnswer package reply))
        packages answers := by
  induction answers generalizing before packages with
  | nil => simp
  | cons reply answers ih =>
      cases packages with
      | nil =>
          rw [List.zipWith_nil_left, List.filterMap_eq_nil_iff]
          rintro ⟨position, other⟩ member
          have beyond := (List.mem_range'_1.mp (List.of_mem_zip member).1).1
          simp [beyond]
      | cons package packages =>
          have later := ih (before ++ [package]) packages
          simp only [List.append_assoc, List.singleton_append, List.length_append,
            List.length_singleton] at later
          simp [List.range'_succ, later]

/-- What is gathered from answers in the order of their requests is what each of the packages has by
the answer at its position. -/
theorem gather_inOrder_zipWith (packages : List Package) (answers : List Answer) :
    gather packages (inOrder answers) =
      (List.zipWith (fun package reply => (package, symbolsOfAnswer package reply))
        packages answers).mergeSort pathAtMost := by
  have placed := filterMap_position [] packages answers
  simp only [List.length_nil, List.nil_append, ← List.range_eq_range'] at placed
  rw [gather, inOrder, placed]

/-- Whatever the answers are and however they are ordered, one entry is gathered for each
package. -/
theorem gather_perm {packages : List Package} {answers : List Answer}
    {given : List (Nat × Answer)} (order : given.Perm (inOrder answers))
    (answered : answers.length = packages.length) :
    ((gather packages given).map Prod.fst).Perm packages := by
  have same : (gather packages given).Perm (gather packages (inOrder answers)) :=
    (List.mergeSort_perm _ _).trans ((order.filterMap _).trans (List.mergeSort_perm _ _).symm)
  have paired := (List.mergeSort_perm (List.zipWith (fun package reply =>
    (package, symbolsOfAnswer package reply)) packages answers) pathAtMost).map Prod.fst
  rw [List.map_zipWith] at paired
  refine (same.map Prod.fst).trans ?_
  rw [gather_inOrder_zipWith]
  refine paired.trans (.of_eq ?_)
  exact (List.map_uncurry_zip_eq_zipWith ..).symm.trans
    (List.map_fst_zip (Nat.le_of_eq answered.symm))

theorem gather_inOrder (toolchain : Toolchain) (packages : List Package) :
    gather packages (inOrder (packages.map fun package =>
        answer (documentationRequest toolchain package))) =
      extractedAll answer toolchain packages := by
  rw [gather_inOrder_zipWith, List.zipWith_map_right, List.zipWith_self]
  rfl

theorem evaluate_extractAll (toolchain : Toolchain) (width : Nat) (packages : List Package)
    (state : σ) :
    (extractAll toolchain width packages).evaluate answer state =
      (extractedAll answer toolchain packages, state) := by
  simp [extractAll, evaluate_askAll, ← gather_inOrder, Function.comp_def]

theorem mem_extractedAll {toolchain : Toolchain} {packages : List Package}
    {extracted : Extracted} :
    extracted ∈ extractedAll answer toolchain packages ↔
      ∃ package ∈ packages, (package, symbolsOf answer toolchain package) = extracted := by
  simp [extractedAll]

theorem nodup_importPath_extractedAll {toolchain : Toolchain} {packages : List Package}
    (distinct : (packages.map Package.importPath).Nodup) :
    ((extractedAll answer toolchain packages).map fun extracted =>
      extracted.1.importPath).Nodup := by
  have perm := (List.mergeSort_perm (packages.map fun package =>
    (package, symbolsOf answer toolchain package)) pathAtMost).map fun extracted =>
      extracted.1.importPath
  rw [extractedAll, perm.nodup_iff, List.map_map]
  exact distinct

/-- What is gathered goes by the answer at the position of a package. -/
theorem mem_gather {packages : List Package} {answers : List (Nat × Answer)} {entry : Extracted}
    (member : entry ∈ gather packages answers) :
    ∃ place answer, (place, answer) ∈ answers ∧ packages[place]? = some entry.1 ∧
      entry.2 = symbolsOfAnswer entry.1 answer := by
  rw [gather, List.mem_mergeSort, List.mem_filterMap] at member
  obtain ⟨⟨place, answer⟩, given, made⟩ := member
  obtain ⟨package, found, rfl⟩ := Option.map_eq_some_iff.mp made
  exact ⟨place, answer, given, found, rfl⟩

/-- What is extracted for a package is declared in it and exported. -/
theorem declared_of_mem_symbolsOfAnswer {package : Package} {reply : Answer} {symbol : Symbol}
    (member : symbol ∈ symbolsOfAnswer package reply) :
    (∃ name kind signature, symbol = .declare name package kind signature) ∧
      symbol.isExported = true := by
  cases reply with
  | error failure => simp [symbolsOfAnswer] at member
  | ok text =>
      simp only [symbolsOfAnswer, symbolsOfText, List.mem_cons, List.mem_filter,
        List.mem_map] at member
      rcases member with rfl | ⟨⟨declaration, _, rfl⟩, exported⟩
      · exact ⟨⟨_, _, _, rfl⟩, rfl⟩
      · exact ⟨⟨_, _, _, rfl⟩, exported⟩

/-- What is extracted for a package is exported and belongs to it. -/
theorem owned_of_mem_symbolsOfAnswer {package : Package} {reply : Answer} {symbol : Symbol}
    (member : symbol ∈ symbolsOfAnswer package reply) :
    symbol.packagePath = package.importPath ∧ symbol.isExported = true := by
  obtain ⟨⟨name, kind, signature, rfl⟩, exported⟩ := declared_of_mem_symbolsOfAnswer member
  exact ⟨rfl, exported⟩

/-- A package with documentation has at least its own entry. -/
theorem symbolsOf_ne_nil {toolchain : Toolchain} {package : Package} {text : String}
    (documented : answer (documentationRequest toolchain package) = .ok text) :
    symbolsOf answer toolchain package ≠ [] := by
  simp [symbolsOf, documented, symbolsOfAnswer, symbolsOfText]

/-- A package without documentation has nothing. -/
theorem documented_of_symbolsOf_ne_nil {toolchain : Toolchain} {package : Package}
    (filled : symbolsOf answer toolchain package ≠ []) :
    ∃ text, answer (documentationRequest toolchain package) = .ok text := by
  unfold symbolsOf at filled
  cases found : answer (documentationRequest toolchain package) with
  | ok text => exact ⟨text, rfl⟩
  | error failure => simp [found, symbolsOfAnswer] at filled

end Extraction

end SymbolCache
