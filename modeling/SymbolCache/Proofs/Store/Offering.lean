import SymbolCache.Proofs.Glob.Elements
import SymbolCache.Proofs.Store.Carrying

/-!
# Which packages are offered

Discovery leaves out commands and what the patterns exclude, and a targeted refresh does not. So a
symbol of such a package is offered only if a targeted refresh was asked for the path of the
package, and such a refresh does offer it.
-/

set_option autoImplicit false

namespace SymbolCache

/-! ## Indexes -/

namespace Index

variable {permitted : Symbol → Prop} {index : Index}

def Only (permitted : Symbol → Prop) (index : Index) : Prop :=
  ∀ name, ∀ symbol ∈ index.listed name, permitted symbol

theorem only_empty : Only permitted .empty := by
  intro name symbol member
  simp at member

theorem Only.packageSymbols (only : Only permitted index) (path : String) :
    ∀ symbol ∈ index.packageSymbols path, permitted symbol := by
  intro symbol member
  obtain ⟨name, listed⟩ := exists_listed_of_mem_packageSymbols member
  exact only name symbol listed

theorem Only.replacePackage (only : Only permitted index) (consistent : index.Consistent)
    (path version : String) {symbols : List Symbol} (all : ∀ symbol ∈ symbols, permitted symbol) :
    Only permitted (index.replacePackage path version symbols) := by
  intro name symbol member
  rcases consistent.mem_listed_replacePackage member with added | ⟨-, before⟩
  · exact all symbol added
  · exact only name symbol before

theorem Only.removePackages (only : Only permitted index) (consistent : index.Consistent)
    (paths : List String) : Only permitted (paths.foldl removePackage index) := by
  intro name symbol member
  have filed := mem_records.mpr ⟨member, rfl⟩
  rw [Refresh.records_foldl_removePackage consistent] at filed
  split at filed
  case isTrue => exact absurd filed List.not_mem_nil
  case isFalse => exact only name symbol (mem_records.mp filed).1

theorem Only.mergeVersions (only : Only permitted index) (versions : Versions) :
    Only permitted (index.mergeVersions versions) := by
  intro name symbol member
  rw [listed_mergeVersions] at member
  exact only name symbol member

theorem Only.carryOver (only : Only permitted index) (discovered : Std.ExtTreeSet String) :
    Only permitted (Refresh.carryOver index discovered) := by
  let good (taken : Index) : Prop := taken.Consistent ∧ Only permitted taken
  have both : good (Refresh.carryOver index discovered) := by
    refine Refresh.carryOver_keeps index discovered (fun taken holds path version =>
      ⟨holds.1.replacePackage _ _ _, ?_⟩) ⟨consistent_empty, only_empty⟩
    exact holds.2.replacePackage holds.1 path version (only.packageSymbols path)
  exact both.2

theorem Only.replaceAll (only : Only permitted index) (consistent : index.Consistent)
    (versions : Versions) {extracted : List Extraction.Extracted}
    (all : ∀ entry ∈ extracted, ∀ symbol ∈ entry.2, permitted symbol) :
    Only permitted (Refresh.replaceAll versions extracted index) := by
  let good (replaced : Index) : Prop := replaced.Consistent ∧ Only permitted replaced
  have both : good (Refresh.replaceAll versions extracted index) := by
    refine Refresh.replaceAll_keeps versions ⟨consistent, only⟩ fun replaced holds entry member
      version => ⟨holds.1.replacePackage _ _ _, ?_⟩
    exact holds.2.replacePackage holds.1 _ version (all entry member)
  exact both.2

end Index

/-! ## Refreshes -/

namespace Operation

/-- Refreshes keep a property of symbols that goes by the package, if the packages that are
extracted have it. -/
theorem maintains_only {offered : String → String → Prop} (kind : Package → Prop)
    (extracts : ∀ package, kind package → offered package.importPath package.name) :
    Maintains kind fun index => index.Consistent ∧
      index.Only fun symbol => offered symbol.packagePath symbol.packageName where
  empty := ⟨Index.consistent_empty, Index.only_empty⟩
  carryOver both discovered :=
    ⟨Refresh.carryOver_consistent _ discovered, both.2.carryOver discovered⟩
  removePackages both paths :=
    ⟨Refresh.foldl_removePackage_consistent both.1 paths, both.2.removePackages both.1 paths⟩
  replaceAll both versions extracted gathered := by
    refine ⟨Refresh.replaceAll_consistent versions both.1 _, both.2.replaceAll both.1 versions ?_⟩
    intro entry member symbol inside
    obtain ⟨asked, answer, made⟩ := gathered entry member
    rw [made] at inside
    obtain ⟨⟨name, kind, signature, rfl⟩, -⟩ := Extraction.declared_of_mem_symbolsOfAnswer inside
    exact extracts entry.1 asked
  mergeVersions both versions :=
    ⟨both.1.mergeVersions versions, both.2.mergeVersions versions⟩

end Operation

/-! ## Snapshots -/

namespace Snapshot

variable {permitted : Symbol → Prop}

def Only (permitted : Symbol → Prop) (snapshot : Snapshot) : Prop :=
  ∀ (name : String) (list : List Symbol), snapshot.symbols[name]? = some list →
    ∀ symbol ∈ list, permitted symbol

private theorem carries_only :
    Carries (fun index => index.Consistent ∧ index.Only permitted) (Only permitted) where
  capture both _ _ name list found symbol member :=
    both.2 name symbol (Index.listed_of_getElem? found ▸ member)
  restore only restores := by
    refine ⟨(reachable_of_toIndex restores).consistent, fun name symbol member => ?_⟩
    obtain ⟨list, found, inside⟩ := exists_list_of_toIndex restores member
    exact only name list found symbol inside

end Snapshot

/-! ## Runs -/

namespace Action

/-- Why a package with a path and a name is offered when some actions run: it is importable, or a
targeted refresh is asked for it. -/
inductive Offers (exclude : Glob.Matcher) (actions : List Action) (path name : String) : Prop where
  | importable (included : exclude.accepts path = false) (library : name ≠ "main")
  | targeted {importPaths : List String} (asked : .refreshPackages importPaths ∈ actions)
      (among : path ∈ importPaths)

abbrev OffersSymbol (exclude : Glob.Matcher) (actions : List Action) (symbol : Symbol) : Prop :=
  Offers exclude actions symbol.packagePath symbol.packageName

/-- After any run of actions on a new store, with any answers and any calls of one action between
those of another, each symbol in the index belongs to a package that is no command and that no
pattern excludes, or to one that a targeted refresh was asked for. So does each symbol in the
snapshot. No symbol may be added from outside, and others may leave only snapshots like that. -/
theorem offers_reached (responder : Responder) (actions : List Action) (schedule : List Nat)
    (session : Session) {exclude : Glob.Matcher}
    (compiled : session.store.config.excludeMatcher = .ok exclude)
    (new : session.store.index = .empty)
    (disk : session.disk.Stores (Snapshot.Only (OffersSymbol exclude actions))
      session.store.cachePath)
    (spares : ∀ action ∈ actions, action.SparesSnapshot
      (Snapshot.Only (OffersSymbol exclude actions)) session.store.cachePath) :
    let after := reached .calls responder actions schedule session
    after.store.index.Only (OffersSymbol exclude actions) ∧
      after.disk.Stores (Snapshot.Only (OffersSymbol exclude actions)) session.store.cachePath := by
  intro after
  let kind (package : Package) : Prop := Offers exclude actions package.importPath package.name
  have discovers : ∀ config : Config, config.excludeMatcher = .ok exclude →
      ∀ package : Package, package.Importable config → kind package := by
    rintro config compiles package ⟨library, matcher, compilesTo, included⟩
    obtain rfl := Except.ok.inj (compilesTo.symm.trans compiles)
    exact .importable included library
  have start : session.Carries
      (fun index => index.Consistent ∧ index.Only (OffersSymbol exclude actions))
      (Snapshot.Only (OffersSymbol exclude actions))
      (fun config => config.excludeMatcher = .ok exclude) session.store.cachePath := by
    refine ⟨?_, compiled, rfl, disk⟩
    rw [new]
    exact ⟨Index.consistent_empty, Index.only_empty⟩
  have carries := carries_reached Snapshot.carries_only
    (Operation.maintains_only kind fun _ asked => asked) discovers responder schedule start spares
    fun importPaths asked package among => .targeted asked among
  exact ⟨carries.index.2, carries.disk⟩

/-! ### A package that no other module can import -/

/-- What the toolchain answers in a workspace with a command, one of whose dependencies has an
internal package. -/
def internalAnswer (request : Request) : Answer :=
  match request.invocation.arguments with
  | ["env", "GOVERSION"] => .ok "go1.22"
  | ["list", "-m", "all"] => .ok "work\nlib.org/c v1.0.0\n"
  | "list" :: "-e" :: _ =>
      .ok "lib.org/c c false\nlib.org/c/internal/x x false\nwork/cmd main false\n"
  | ["doc", "-all", _] => .ok "func Open() int\n"
  | _ => .error .toolchainUnknown

def internalSession : Session where
  store := Store.create "/work" { indexing := { includeStandard := false } }
  disk := {}
  now := 0

private theorem node?_internalSession : internalSession.disk.node?
    (internalSession.disk.place internalSession.store.cachePath) = none := by
  decide +kernel

private theorem stores_internalSession (kept : Snapshot → Prop) :
    internalSession.disk.Stores kept internalSession.store.cachePath := by
  intro content there
  cases node?_internalSession.symm.trans there

def internalActions : List Action :=
  [.rebuild, .refreshPackages ["lib.org/c/internal/x"], .refreshPackages ["work/cmd"]]

def internalRun : Session :=
  reached .calls (fun _ request => internalAnswer request) internalActions
    [0, 0, 0, 0, 0, 1, 1, 1, 1, 1, 2, 2, 2, 2, 2] internalSession

/-- A symbol of each of the three packages is listed in the end. -/
theorem listed_internalRun :
    (internalRun.store.index.listed "Open").map (fun symbol =>
        (symbol.packagePath, symbol.packageName)) =
      [("lib.org/c", "c"), ("lib.org/c/internal/x", "x"), ("work/cmd", "main")] := by
  decide +kernel

theorem offers_reached_example :
    (internalRun.store.index.listed "Open").length = 3 ∧
      internalRun.store.index.Only (OffersSymbol ⟨defaultPatterns⟩ internalActions) := by
  have count := congrArg List.length listed_internalRun
  rw [List.length_map] at count
  refine ⟨count, ?_⟩
  unfold internalRun
  exact (offers_reached _ internalActions _ internalSession excludeMatcher_default rfl
    (stores_internalSession _) (by simp [internalActions, SparesSnapshot])).1

/-- The store is new, there is no snapshot, and in the end an excluded package and a command are
offered. -/
theorem refreshPackages_offers_excluded :
    let matcher : Glob.Matcher := ⟨defaultPatterns⟩
    let store := internalSession.store
    store.index = .empty ∧ internalSession.disk.node? (internalSession.disk.place store.cachePath) =
        none ∧
      store.config.excludeMatcher = .ok matcher ∧
      (∃ symbol ∈ internalRun.store.index.listed "Open",
        matcher.accepts symbol.packagePath = true) ∧
      ∃ symbol ∈ internalRun.store.index.listed "Open", symbol.packageName = "main" := by
  have offered : ∀ path name, (path, name) ∈
      [("lib.org/c", "c"), ("lib.org/c/internal/x", "x"), ("work/cmd", "main")] →
        ∃ symbol ∈ internalRun.store.index.listed "Open",
          symbol.packagePath = path ∧ symbol.packageName = name := by
    intro path name member
    rw [← listed_internalRun] at member
    obtain ⟨symbol, inside, same⟩ := List.mem_map.mp member
    exact ⟨symbol, inside, congrArg Prod.fst same, congrArg Prod.snd same⟩
  refine ⟨rfl, node?_internalSession, excludeMatcher_default, ?_, ?_⟩
  · obtain ⟨symbol, inside, path, -⟩ := offered "lib.org/c/internal/x" "x" (by simp)
    refine ⟨symbol, inside, ?_⟩
    rw [path]
    decide +kernel
  · obtain ⟨symbol, inside, -, name⟩ := offered "work/cmd" "main" (by simp)
    exact ⟨symbol, inside, name⟩

end Action

end SymbolCache
