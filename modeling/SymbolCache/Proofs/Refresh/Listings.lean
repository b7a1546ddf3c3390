import SymbolCache.Proofs.Refresh.Findings
import SymbolCache.Proofs.Text.Fields

/-!
# What listings discover

Each line of a listing gives a package or none. The packages that are discovered are those that the
lines of all listings give first for their paths, without commands and what is excluded.
-/

set_option autoImplicit false

namespace SymbolCache

open Text (HasFields)

/-! ## Lines -/

/-- A line gives a package by three fields: its path, its name, and `true` if it is standard. -/
def Package.GivenBy (line : List Char) (package : Package) : Prop :=
  ∃ standard, HasFields line [package.importPath.toList, package.name.toList, standard] ∧
    (package.standard = true ↔ standard = "true".toList)

theorem Package.ofListingLine?_eq_some_iff {line : List Char} {package : Package} :
    ofListingLine? line = some package ↔ package.GivenBy line := by
  have marked : ∀ standard : List Char,
      (standard == "true".toList) = package.standard ↔
        (package.standard = true ↔ standard = "true".toList) := by
    intro standard
    rw [Bool.eq_iff_iff, beq_iff_eq]
    exact iff_comm
  unfold ofListingLine?
  constructor
  · intro read
    split at read
    case h_1 importPath name standard fields =>
      obtain rfl := Option.some.inj read
      refine ⟨standard, ?_, ?_⟩
      · rw [String.toList_ofList, String.toList_ofList]
        exact Text.words_eq_iff.mp fields
      · exact beq_iff_eq
    case h_2 => exact nomatch read
  · rintro ⟨standard, fields, same⟩
    rw [Text.words_eq_iff.mpr fields]
    simp only [String.ofList_toList, (marked standard).mpr same]

namespace Discovery

def listedLines (answers : List Answer) : List (List Char) :=
  answers.flatMap fun
    | .ok output => Text.lines output.toList
    | .error _ => []

def FirstOn (lines : List (List Char)) (package : Package) : Prop :=
  ∃ before line after, lines = before ++ line :: after ∧ package.GivenBy line ∧
    ∀ earlier ∈ before, ∀ other : Package, other.GivenBy earlier →
      other.importPath ≠ package.importPath

private theorem listedPackages_eq (answers : List Answer) :
    listedPackages answers = (listedLines answers).filterMap Package.ofListingLine? := by
  rw [listedLines, List.filterMap_flatMap]
  refine List.flatMap_congr fun answer _ => ?_
  cases answer <;> rfl

/-! ## Packages by path -/

theorem find?_eq_some_iff {lines : List (List Char)} {package : Package} :
    ((lines.filterMap Package.ofListingLine?).find? fun other =>
      other.importPath == package.importPath) = some package ↔ FirstOn lines package := by
  rw [List.find?_filterMap, Option.bind_eq_some_iff]
  simp only [List.find?_eq_some_iff_append, Package.ofListingLine?_eq_some_iff]
  constructor
  · rintro ⟨line, ⟨-, before, after, parts, others⟩, given⟩
    refine ⟨before, line, after, parts, given, fun earlier member other read same => ?_⟩
    have unread := others earlier member
    rw [Package.ofListingLine?_eq_some_iff.mpr read] at unread
    simp [same] at unread
  · rintro ⟨before, line, after, parts, given, others⟩
    refine ⟨line, ⟨?_, before, after, parts, fun earlier member => ?_⟩, given⟩
    · rw [Package.ofListingLine?_eq_some_iff.mpr given]
      simp
    · cases read : Package.ofListingLine? earlier with
      | none => rfl
      | some other =>
          have differs := others earlier member other (Package.ofListingLine?_eq_some_iff.mp read)
          simp [differs]

theorem FirstOn.unique {lines : List (List Char)} {first second : Package}
    (left : FirstOn lines first) (right : FirstOn lines second)
    (same : first.importPath = second.importPath) : first = second := by
  have found := find?_eq_some_iff.mpr left
  rw [same, find?_eq_some_iff.mpr right] at found
  exact (Option.some.inj found).symm

/-- Of all packages that lines give for a path one is the first. -/
theorem exists_firstOn {lines : List (List Char)} {line : List Char} {package : Package}
    (member : line ∈ lines) (given : package.GivenBy line) :
    ∃ first, FirstOn lines first ∧ first.importPath = package.importPath := by
  have listed : package ∈ lines.filterMap Package.ofListingLine? :=
    List.mem_filterMap.mpr ⟨line, member, Package.ofListingLine?_eq_some_iff.mpr given⟩
  cases found : (lines.filterMap Package.ofListingLine?).find? fun other =>
      other.importPath == package.importPath with
  | none =>
      exact absurd (beq_self_eq_true package.importPath) (List.find?_eq_none.mp found _ listed)
  | some first =>
      have kept := List.find?_some found
      obtain same : first.importPath = package.importPath := eq_of_beq kept
      rw [← same] at found
      exact ⟨first, find?_eq_some_iff.mp found, same⟩

private theorem getElem?_byPath (packages : List Package) (path : String) :
    (byPath packages)[path]? = packages.find? fun package => package.importPath == path := by
  have all : ∀ (packages : List Package) (found : Std.ExtTreeMap String Package),
      (packages.foldl (fun found package =>
        found.insertIfNew package.importPath package) found)[path]? =
          found[path]?.or (packages.find? fun package => package.importPath == path) := by
    intro packages
    induction packages with
    | nil => exact fun found => Option.or_none.symm
    | cons package packages ih =>
        intro found
        rw [List.foldl_cons, ih, Std.ExtTreeMap.getElem?_insertIfNew, List.find?_cons]
        by_cases same : package.importPath = path
        · subst same
          cases held : found[package.importPath]? with
          | none => simp [Std.ExtTreeMap.mem_iff_isSome_getElem?, held]
          | some other => simp [Std.ExtTreeMap.mem_iff_isSome_getElem?, held]
        · simp [same, beq_eq_false_iff_ne.mpr same]
  rw [byPath, all]
  rfl

/-- What is discovered is what lines give first, unless it is a command or excluded. -/
theorem mem_ofAnswers {exclude : Glob.Matcher} {answers : List Answer} {package : Package} :
    package ∈ (ofAnswers exclude answers).packages ↔ FirstOn (listedLines answers) package ∧
      package.name ≠ "main" ∧ exclude.accepts package.importPath = false := by
  have found : package ∈ (byPath (listedPackages answers)).toList.map Prod.snd ↔
      FirstOn (listedLines answers) package := by
    rw [← find?_eq_some_iff, ← listedPackages_eq, ← getElem?_byPath, List.mem_map]
    constructor
    · rintro ⟨⟨path, package⟩, member, rfl⟩
      have held := Std.ExtTreeMap.mem_toList_iff_getElem?_eq_some.mp member
      rwa [keyed_byPath _ _ _ held]
    · intro held
      exact ⟨(package.importPath, package),
        Std.ExtTreeMap.mem_toList_iff_getElem?_eq_some.mpr held, rfl⟩
  rw [ofAnswers, List.mem_filter, found]
  simp

/-- What keeps a path from being discovered: it is excluded, or the package that lines give first
for it is a command, or no line gives a package for it. A line without three fields gives none, also
if it starts with the path. -/
inductive Omits (exclude : Glob.Matcher) (lines : List (List Char)) (path : String) : Prop where
  | excluded (accepted : exclude.accepts path = true)
  | command {package : Package} (first : FirstOn lines package) (same : package.importPath = path)
      (main : package.name = "main")
  | absent (none : ∀ line ∈ lines, ∀ package : Package, package.GivenBy line →
      package.importPath ≠ path)

theorem not_discovers_iff {exclude : Glob.Matcher} {answers : List Answer} {path : String} :
    (¬ ∃ package ∈ (ofAnswers exclude answers).packages, package.importPath = path) ↔
      Omits exclude (listedLines answers) path := by
  constructor
  · intro missing
    by_cases given : ∃ line ∈ listedLines answers, ∃ package : Package,
        package.GivenBy line ∧ package.importPath = path
    case neg =>
      exact .absent fun line member package read same => given ⟨line, member, package, read, same⟩
    case pos =>
      obtain ⟨line, member, package, read, rfl⟩ := given
      obtain ⟨first, isFirst, same⟩ := exists_firstOn member read
      by_cases main : first.name = "main"
      · exact .command isFirst same main
      · refine .excluded (Bool.not_eq_false _ ▸ fun accepted => missing ?_)
        exact ⟨first, mem_ofAnswers.mpr ⟨isFirst, main, same ▸ accepted⟩, same⟩
  · rintro omits ⟨package, member, rfl⟩
    obtain ⟨isFirst, named, accepted⟩ := mem_ofAnswers.mp member
    cases omits with
    | excluded excluded => exact Bool.false_ne_true (accepted.symm.trans excluded)
    | command first same main => exact named (first.unique isFirst same ▸ main)
    | absent none =>
        obtain ⟨before, line, after, parts, given, -⟩ := isFirst
        have listed : line ∈ listedLines answers := by
          rw [parts]
          exact List.mem_append_right before List.mem_cons_self
        exact none line listed package given rfl

private theorem ascending_ofAnswers (exclude : Glob.Matcher) (answers : List Answer) :
    (ofAnswers exclude answers).packages.Pairwise fun left right =>
      left.importPath < right.importPath := by
  refine List.Pairwise.filter _ (List.pairwise_map.mpr ?_)
  have keyed : ∀ entry ∈ (byPath (listedPackages answers)).toList,
      entry.2.importPath = entry.1 := fun entry member =>
    keyed_byPath _ _ _ (Std.ExtTreeMap.mem_toList_iff_getElem?_eq_some.mp member)
  refine Std.ExtTreeMap.ordered_keys_toList.imp_of_mem fun first second before => ?_
  rw [keyed _ first, keyed _ second]
  exact compareOfLessAndEq_eq_lt.mp before

/-! ## All of a discovery -/

variable {σ : Type}

/-- The listings that are enabled are made one after the other, that of the standard library first.
What they give first for each path is discovered, in ascending order of paths, unless it is a
command or excluded. A malformed pattern is found before anything is listed. -/
theorem discover_listings (responder : Responder) (toolchain : Toolchain) (config : Config)
    (now : Job.Running σ) :
    match config.excludeMatcher with
    | .error failure => (discover toolchain config).run responder now = (.error failure, now)
    | .ok exclude =>
      let standard :=
        if config.indexing.includeStandard then [standardListing toolchain] else []
      let dependencies :=
        if config.indexing.includeDependencies then [dependencyListing toolchain] else []
      let answers := standard.map (responder now.calls) ++
        dependencies.map (responder (standard ++ now.calls))
      ∃ discovery : Discovery,
        (discover toolchain config).run responder now =
          (.ok discovery, { now with calls := dependencies ++ (standard ++ now.calls) }) ∧
        (discovery.packages.Pairwise fun left right => left.importPath < right.importPath) ∧
        (∀ package, package ∈ discovery.packages ↔ FirstOn (listedLines answers) package ∧
          package.name ≠ "main" ∧ exclude.accepts package.importPath = false) ∧
        discovery.failedListings = answers.countP fun answer => !answer.isOk := by
  cases compiled : config.excludeMatcher with
  | error failure => rw [Discovery.run_discover, compiled]
  | ok exclude =>
      dsimp -zeta only
      intro standard dependencies answers
      have asked : Job.answerAll responder now.calls (listings toolchain config) =
          (answers, dependencies ++ (standard ++ now.calls)) := by
        simp only [answers, standard, dependencies, listings]
        cases config.indexing.includeStandard <;> cases config.indexing.includeDependencies <;> rfl
      refine ⟨ofAnswers exclude answers, ?_, ascending_ofAnswers exclude answers,
        fun package => mem_ofAnswers, ?_⟩
      · rw [Discovery.run_discover, compiled, asked]
      · refine List.countP_congr fun answer _ => ?_
        cases answer <;> simp [Except.isOk, Except.toBool]

end Discovery

end SymbolCache
