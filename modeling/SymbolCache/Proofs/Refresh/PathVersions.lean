import SymbolCache.Proofs.Job.Inquiry
import SymbolCache.Proofs.Module.Ownership
import SymbolCache.Proofs.Refresh.Sources

/-!
# Versions, path by path

Under fixed answers the version of an import path is that of the module that provides it, or of the
standard library, or else what is told when the path is asked for on its own. The paths that are
resolved together do not matter to each other, and only those that nothing else tells are asked for.
-/

set_option autoImplicit false

namespace SymbolCache

/-! ## What a single answer tells -/

namespace Module

private theorem listedVersion?_eq_some_iff {path listing version : String} :
    listedVersion? path listing = some version ↔
      ∃ before module after, ofListing listing = before ++ module :: after ∧
        module.path = path ∧ (∀ other ∈ before, other.path ≠ path) ∧
          module.packageVersion = version := by
  rw [listedVersion?, Option.map_eq_some_iff]
  constructor
  · rintro ⟨module, found, rfl⟩
    obtain ⟨same, before, after, parts, others⟩ := List.find?_eq_some_iff_append.mp found
    refine ⟨before, module, after, parts, eq_of_beq same, ?_, rfl⟩
    intro other member equal
    exact absurd (others other member) (by simp [equal])
  · rintro ⟨before, module, after, parts, same, others, rfl⟩
    refine ⟨module, ?_, rfl⟩
    refine List.find?_eq_some_iff_append.mpr ⟨beq_iff_eq.mpr same, before, after, parts, ?_⟩
    intro other member
    simpa using others other member

private theorem listedVersion?_eq_none_iff {path listing : String} :
    listedVersion? path listing = none ↔ ∀ module ∈ ofListing listing, module.path ≠ path := by
  simp [listedVersion?]

def statedVersion? : Option Json → Option (Option String)
  | none => some none
  | some .null => some none
  | some (.string version) => some (some version)
  | some _ => none

def statedMain? : Option Json → Option Bool
  | none => some false
  | some main => main.asBool?

def PartsState (path version main : Option Json) (stated : Option String) (isMain : Bool) : Prop :=
  (∃ text, path = some (.string text)) ∧ statedVersion? version = some stated ∧
    statedMain? main = some isMain

/-- A text is the record of a module: an object with the parts as fields, or an array of them. -/
inductive IsRecord (text : String) (stated : Option String) (isMain : Bool) : Prop where
  | object {tree : Json.Syntax} {fields : List (String × Json)} :
      Json.Syntax.read? (String.ofList (Text.trim text.toList)) = some tree →
      tree.record? ["Path", "Version", "Main"] = some (.object fields) →
      PartsState ((Json.object fields).field? "Path") ((Json.object fields).field? "Version")
        ((Json.object fields).field? "Main") stated isMain →
      IsRecord text stated isMain
  | array {tree : Json.Syntax} {parts : List Json} :
      Json.Syntax.read? (String.ofList (Text.trim text.toList)) = some tree →
      tree.record? ["Path", "Version", "Main"] = some (.array parts) →
      parts.length ≤ 3 → PartsState parts[0]? parts[1]? parts[2]? stated isMain →
      IsRecord text stated isMain

/-- The version that a record gives: that of the workspace for a main module, and else the stated
one. -/
def givenVersion? (stated : Option String) (isMain : Bool) : Option String :=
  if isMain then some workspaceVersion else stated

private theorem recordVersion?_eq (path version main : Option Json) :
    recordVersion? path version main =
      (path.bind Json.asString?).bind fun _ => (statedVersion? version).bind fun stated =>
        (statedMain? main).bind fun isMain => givenVersion? stated isMain := by
  unfold recordVersion?
  cases path with
  | none => rfl
  | some path =>
      cases version with
      | none => cases main <;> rfl
      | some version => cases version <;> cases main <;> rfl

theorem recordVersion?_eq_some_iff {path version main : Option Json} {given : String} :
    recordVersion? path version main = some given ↔
      ∃ stated isMain, PartsState path version main stated isMain ∧
        givenVersion? stated isMain = some given := by
  simp only [recordVersion?_eq, Option.bind_eq_some_iff, PartsState]
  constructor
  · rintro ⟨text, ⟨value, here, isText⟩, stated, states, isMain, tells, gives⟩
    refine ⟨stated, isMain, ⟨⟨text, ?_⟩, states, tells⟩, gives⟩
    cases value with
    | string other => rw [here, Option.some.inj isText]
    | _ => cases isText
  · rintro ⟨stated, isMain, ⟨⟨text, here⟩, states, tells⟩, gives⟩
    exact ⟨text, ⟨_, here, rfl⟩, stated, states, isMain, tells, gives⟩

/-- The text of a record gives a version exactly if it is a record that states one. -/
theorem readRecord?_eq_some_iff {text given : String} :
    readRecord? text = some given ↔
      ∃ stated isMain, IsRecord text stated isMain ∧ givenVersion? stated isMain = some given := by
  constructor
  · intro found
    simp only [readRecord?, Option.bind_eq_bind, Option.bind_eq_some_iff] at found
    obtain ⟨tree, read, record, decoded, found⟩ := found
    split at found
    · obtain ⟨stated, isMain, states, gives⟩ := recordVersion?_eq_some_iff.mp found
      exact ⟨stated, isMain, .object read decoded states, gives⟩
    · obtain ⟨stated, isMain, states, gives⟩ := recordVersion?_eq_some_iff.mp found
      exact ⟨stated, isMain, .array read decoded (by simp) states, gives⟩
    · obtain ⟨stated, isMain, states, gives⟩ := recordVersion?_eq_some_iff.mp found
      exact ⟨stated, isMain, .array read decoded (by simp) states, gives⟩
    · obtain ⟨stated, isMain, states, gives⟩ := recordVersion?_eq_some_iff.mp found
      exact ⟨stated, isMain, .array read decoded (by simp) states, gives⟩
    · cases found
  · rintro ⟨stated, isMain, record, gives⟩
    cases record with
    | object read decoded states =>
        have found := recordVersion?_eq_some_iff.mpr ⟨stated, isMain, states, gives⟩
        simp [readRecord?, read, decoded, found]
    | @array tree parts read decoded short states =>
        have found := recordVersion?_eq_some_iff.mpr ⟨stated, isMain, states, gives⟩
        match parts with
        | [] => exact absurd states.1 (by simp)
        | [path] => simpa [readRecord?, read, decoded] using found
        | [path, version] => simpa [readRecord?, read, decoded] using found
        | [path, version, main] => simpa [readRecord?, read, decoded] using found
        | _ :: _ :: _ :: _ :: _ =>
            simp only [List.length_cons] at short
            omega

end Module

namespace Resolution

open Job

variable {σ : Type} (answer : Request → Answer) (toolchain : Toolchain)

def listedModules : List Module :=
  modulesOfAnswer (answer (moduleListing toolchain))

/-! ## Asking for a path on its own -/

def IsListed (path : String) : Prop :=
  ∃ output, answer (lineRequest toolchain path) = .ok output ∧
    ∃ module ∈ Module.ofListing output, module.path = path

/-- The version that is told for a path: that of its first line, or what its record gives where no
line lists it. -/
inductive Told (path : String) : String → Prop where
  | line {output : String} {before after : List Module} {module : Module} :
      answer (lineRequest toolchain path) = .ok output →
      Module.ofListing output = before ++ module :: after →
      module.path = path → (∀ other ∈ before, other.path ≠ path) →
      Told path (module.version.getD Module.workspaceVersion)
  | main {output : String} {stated : Option String} :
      ¬ IsListed answer toolchain path → answer (recordRequest toolchain path) = .ok output →
      Module.IsRecord output stated true → Told path Module.workspaceVersion
  | record {output version : String} :
      ¬ IsListed answer toolchain path → answer (recordRequest toolchain path) = .ok output →
      Module.IsRecord output (some version) false → Told path version

private theorem versionOfLine?_eq_none_iff {path : String} :
    versionOfLine? path (answer (lineRequest toolchain path)) = none ↔
      ¬ IsListed answer toolchain path := by
  unfold versionOfLine? IsListed
  cases answer (lineRequest toolchain path) with
  | error failure => simp
  | ok output => simp [Module.listedVersion?_eq_none_iff]

private theorem versionOfLine?_eq_some_iff {path version : String} :
    versionOfLine? path (answer (lineRequest toolchain path)) = some version ↔
      ∃ output, answer (lineRequest toolchain path) = .ok output ∧
        ∃ before module after, Module.ofListing output = before ++ module :: after ∧
          module.path = path ∧ (∀ other ∈ before, other.path ≠ path) ∧
            module.packageVersion = version := by
  unfold versionOfLine?
  cases answer (lineRequest toolchain path) with
  | error failure => simp
  | ok output => simp only [Except.ok.injEq, exists_eq_left', Module.listedVersion?_eq_some_iff]

private theorem versionOfRecord?_eq_some_iff {path version : String} :
    versionOfRecord? (answer (recordRequest toolchain path)) = some version ↔
      ∃ output, answer (recordRequest toolchain path) = .ok output ∧
        ∃ stated isMain, Module.IsRecord output stated isMain ∧
          Module.givenVersion? stated isMain = some version := by
  unfold versionOfRecord?
  cases answer (recordRequest toolchain path) with
  | error failure => simp
  | ok output => simp only [Except.ok.injEq, exists_eq_left', Module.readRecord?_eq_some_iff]

private theorem asked_eq_some_iff {path version : String} :
    asked answer toolchain path = some version ↔ Told answer toolchain path version := by
  rw [asked, Option.or_eq_some_iff, versionOfLine?_eq_none_iff, versionOfLine?_eq_some_iff,
    versionOfRecord?_eq_some_iff]
  constructor
  · rintro (⟨output, reply, before, module, after, parts, same, others, rfl⟩ |
      ⟨unlisted, output, reply, stated, isMain, record, gives⟩)
    · exact .line reply parts same others
    · cases isMain with
      | true =>
          obtain rfl : Module.workspaceVersion = version := Option.some.inj gives
          exact .main unlisted reply record
      | false =>
          obtain rfl : stated = some version := gives
          exact .record unlisted reply record
  · intro told
    cases told with
    | line reply parts same others =>
        exact .inl ⟨_, reply, _, _, _, parts, same, others, rfl⟩
    | main unlisted reply record => exact .inr ⟨unlisted, _, reply, _, _, record, rfl⟩
    | record unlisted reply record => exact .inr ⟨unlisted, _, reply, _, _, record, rfl⟩

/-! ## The version of a path -/

variable (standardVersion : Option String)

def Unprovided (path : String) : Prop :=
  (∀ module ∈ listedModules answer toolchain, ¬ Module.Covers module.path path) ∧
    ¬ (ImportPath.isStandard path = true ∧ standardVersion.isSome = true)

/-- The version of a path: that of the longest root that covers it, else that of the standard
library if it is a standard one, else what is told for it. -/
inductive Resolves (path : String) : String → Prop where
  | provided {root version : String} :
      (∃ module ∈ listedModules answer toolchain, module.path = root) →
      Module.Covers root path →
      (∀ module ∈ listedModules answer toolchain, Module.Covers module.path path →
        module.path.length ≤ root.length) →
      Module.rootVersion? (listedModules answer toolchain) root = some version →
      Resolves path version
  | standard {version : String} :
      (∀ module ∈ listedModules answer toolchain, ¬ Module.Covers module.path path) →
      ImportPath.isStandard path = true → standardVersion = some version → Resolves path version
  | told {version : String} :
      Unprovided answer toolchain standardVersion path → Told answer toolchain path version →
      Resolves path version

private theorem knownVersion?_eq_none_iff {path : String} :
    knownVersion? (listedModules answer toolchain) standardVersion path = none ↔
      Unprovided answer toolchain standardVersion path := by
  unfold knownVersion? Unprovided
  rw [← Module.owner?_eq_none_iff]
  cases Module.owner? (listedModules answer toolchain) path with
  | some owner => simp
  | none => cases standardVersion <;> simp

private theorem resolves_of_knownVersion? {path version : String}
    (known : knownVersion? (listedModules answer toolchain) standardVersion path = some version) :
    Resolves answer toolchain standardVersion path version := by
  unfold knownVersion? at known
  cases owned : Module.owner? (listedModules answer toolchain) path with
  | some owner =>
      obtain rfl : owner.packageVersion = version := by simpa [owned] using known
      obtain ⟨member, covers⟩ := Module.mem_of_owner? owned
      exact .provided ⟨owner, member, rfl⟩ covers
        (fun module listed => Module.length_le_of_owner? owned listed)
        (Module.rootVersion?_of_owner? owned)
  | none =>
      simp only [owned] at known
      split at known
      case isTrue standard =>
        exact .standard (Module.owner?_eq_none_iff.mp owned) standard known
      case isFalse => cases known

private theorem knownVersion?_of_provided {path version : String} {module : Module}
    (listed : module ∈ listedModules answer toolchain) (covers : Module.Covers module.path path)
    (longest : ∀ other ∈ listedModules answer toolchain, Module.Covers other.path path →
      other.path.length ≤ module.path.length)
    (given : Module.rootVersion? (listedModules answer toolchain) module.path = some version) :
    knownVersion? (listedModules answer toolchain) standardVersion path = some version := by
  unfold knownVersion?
  cases owned : Module.owner? (listedModules answer toolchain) path with
  | none => exact absurd covers (Module.owner?_eq_none_iff.mp owned module listed)
  | some owner =>
      have gives := Module.rootVersion?_of_owner? owned
      rwa [Module.path_of_owner? owned listed covers longest, given, eq_comm] at gives

private theorem versionOf_eq_some_iff {path version : String} :
    versionOf answer toolchain standardVersion path = some version ↔
      Resolves answer toolchain standardVersion path version := by
  change (knownVersion? (listedModules answer toolchain) standardVersion path).or
    (asked answer toolchain path) = some version ↔ _
  rw [Option.or_eq_some_iff, knownVersion?_eq_none_iff, asked_eq_some_iff]
  constructor
  · rintro (known | ⟨unprovided, told⟩)
    · exact resolves_of_knownVersion? answer toolchain standardVersion known
    · exact .told unprovided told
  · intro resolves
    cases resolves with
    | provided listed covers longest given =>
        obtain ⟨module, listed, rfl⟩ := listed
        exact .inl (knownVersion?_of_provided answer toolchain standardVersion listed covers longest
          given)
    | standard uncovered isStandard given =>
        have unowned := Module.owner?_eq_none_iff.mpr uncovered
        simp [knownVersion?, unowned, isStandard, given]
    | told unprovided told => exact .inr ⟨unprovided, told⟩

/-! ## The calls -/

/-- The requests that are made for a path on its own: for a line, and for a record where no line
lists it. -/
def requestsFor (path : String) : List Request :=
  lineRequest toolchain path ::
    match versionOfLine? path (answer (lineRequest toolchain path)) with
    | some _ => []
    | none => [recordRequest toolchain path]

private theorem calls_query (path : String) (now : Running σ) :
    ((query toolchain path).run (fun _ request => answer request) now).2.calls =
      (requestsFor answer toolchain path).reverse ++ now.calls := by
  simp only [query, bind_eq, run_bind, Job.ask, run, requestsFor]
  cases versionOfLine? path (answer (lineRequest toolchain path)) <;> rfl

private theorem calls_queryAll (versions : Versions) (paths : List String) (now : Running σ) :
    ((queryAll toolchain versions paths).run (fun _ request => answer request) now).2.calls =
      (paths.flatMap (requestsFor answer toolchain)).reverse ++ now.calls := by
  induction paths generalizing versions now with
  | nil => rfl
  | cons path paths ih =>
      have first := calls_query answer toolchain path now
      rw [queryAll, bind_eq, run_bind, List.flatMap_cons, List.reverse_append, List.append_assoc,
        ← first]
      split
      · exact ih _ _
      · exact ih _ _

private theorem calls_resolve (paths : Std.ExtTreeSet String) (now : Running σ) :
    ((resolve toolchain standardVersion paths).run (fun _ request => answer request) now).2.calls =
      (moduleListing toolchain ::
        (paths.toList.filter fun path =>
          (knownVersion? (listedModules answer toolchain) standardVersion path).isNone).flatMap
            (requestsFor answer toolchain)).reverse ++ now.calls := by
  simp only [resolve, bind_eq, run_bind, Job.ask, run, calls_queryAll, List.reverse_cons,
    List.append_assoc]
  rfl

/-! ## Resolving a set of paths -/

/-- Versions are resolved path by path. A path has a version exactly if it is one of those to
resolve and its own rules give that version. After the listing of all modules, exactly the paths
that neither a module nor the standard library provides are asked for, in ascending order; nothing
else changes. Whichever of the paths are kept, resolving them alone gives the same versions. -/
theorem resolve_path_by_path (paths : Std.ExtTreeSet String) (now : Running σ) :
    let outcome := (resolve toolchain standardVersion paths).run
      (fun _ request => answer request) now
    (∀ path version, outcome.1[path]? = some version ↔
      path ∈ paths ∧ Resolves answer toolchain standardVersion path version) ∧
    (∃ queried : List String, queried.Pairwise (· < ·) ∧
      (∀ path, path ∈ queried ↔
        path ∈ paths ∧ Unprovided answer toolchain standardVersion path) ∧
      outcome.2.calls = (moduleListing toolchain ::
        queried.flatMap (requestsFor answer toolchain)).reverse ++ now.calls) ∧
    outcome.2.state = now.state ∧
    ∀ keeps : String → Bool,
      ((resolve toolchain standardVersion (paths.filter keeps)).run
        (fun _ request => answer request) now).1 = outcome.1.filter fun path _ => keeps path := by
  have outcomes : ∀ paths : Std.ExtTreeSet String,
      ((resolve toolchain standardVersion paths).run (fun _ request => answer request) now).1 =
        resolved answer toolchain standardVersion paths := by
    intro paths
    rw [(run_fixed answer _ now).1, evaluate_resolve]
  refine ⟨?versions, ⟨_, ?sorted, ?queried, calls_resolve answer toolchain standardVersion paths
    now⟩, ?unchanged, ?kept⟩
  case versions =>
    intro path version
    rw [outcomes, getElem?_resolved, ← versionOf_eq_some_iff]
    by_cases member : path ∈ paths <;> simp [member]
  case sorted =>
    have ordered := Std.ExtTreeSet.ordered_toList (t := paths)
    exact (ordered.imp fun lower => compareOfLessAndEq_eq_lt.mp lower).filter _
  case queried =>
    intro path
    rw [List.mem_filter, Std.ExtTreeSet.mem_toList, Option.isNone_iff_eq_none,
      knownVersion?_eq_none_iff]
  case unchanged => exact (run_fixed answer _ now).2.trans (by rw [evaluate_resolve])
  case kept =>
    intro keeps
    rw [outcomes, outcomes]
    apply Std.ExtTreeMap.ext_getElem?
    intro path
    rw [Std.ExtTreeMap.getElem?_filter', getElem?_resolved, getElem?_resolved]
    simp only [Std.ExtTreeSet.mem_filter, Std.ExtTreeSet.get_eq]
    by_cases member : path ∈ paths
    · cases keeps path with
      | false => simp [member]
      | true =>
          simp only [member, exists_const, if_true]
          cases versionOf answer toolchain standardVersion path <;> rfl
    · simp [member]

end Resolution

end SymbolCache
