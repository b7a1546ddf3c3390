import SymbolCache.Proofs.Job.Orders
import SymbolCache.Proofs.Refresh.Targets
import SymbolCache.Proofs.Store.Stretches

/-!
# The order in which extractions end

The documentation of many packages is asked for at once, and the answers come in any order. As
nothing is extracted twice, sorting by import path leaves one list for all of these orders; and what
a refresh does with that list does not depend on how many calls were under way at once.
-/

set_option autoImplicit false

namespace SymbolCache

open Job hiding run_bind

/-! ## Gathering in any order -/

namespace Extraction

def pathBefore (left right : Extracted) : Prop :=
  left.1.importPath < right.1.importPath

section

variable {packages : List Package} {answers : List Answer} {given : List (Nat × Answer)}
  (distinct : (packages.map Package.importPath).Nodup) (order : given.Perm (inOrder answers))
  (answered : answers.length = packages.length)

include distinct order answered

/-- Every package is gathered once, and the paths ascend. -/
theorem pairwise_gather : (gather packages given).Pairwise pathBefore := by
  have sorted :
      (gather packages given).Pairwise fun left right => pathAtMost left right = true := by
    refine List.pairwise_mergeSort (fun first second third below above => ?_)
      (fun first second => ?_) _
    · simp only [pathAtMost, decide_eq_true_eq] at *
      exact String.le_trans below above
    · simpa [pathAtMost] using String.le_total first.1.importPath second.1.importPath
  have single : ((gather packages given).map fun entry => entry.1.importPath).Nodup := by
    have paths := (gather_perm order answered).map Package.importPath
    rw [List.map_map] at paths
    exact paths.nodup_iff.mpr distinct
  refine (sorted.and (List.pairwise_map.mp single)).imp fun {left right} both => ?_
  exact Std.lt_of_le_of_ne (of_decide_eq_true both.1) both.2

/-- Gathering makes the same of the answers in whichever order they come. -/
theorem gather_eq_inOrder : gather packages given = gather packages (inOrder answers) := by
  refine List.Perm.eq_of_pairwise (fun left right _ _ below above => ?_)
    (pairwise_gather distinct order answered) (pairwise_gather distinct (.refl _) answered) ?_
  · exact absurd below (String.lt_asymm above)
  · exact (List.mergeSort_perm _ _).trans ((order.filterMap _).trans (List.mergeSort_perm _ _).symm)

end

end Extraction

/-! ## Asking one after the other -/

section

variable {σ : Type} {view : σ → σ}

private theorem Discovery.mirrors_askEach (requests : List Request) :
    Mirrors view Eq (askEach requests) (askEach requests) := by
  induction requests with
  | nil => exact mirrors_done rfl
  | cons request requests ih =>
      exact mirrors_bind_eq (mirrors_ask request) fun _ =>
        mirrors_bind_eq ih fun _ => mirrors_done rfl

private theorem Discovery.mirrors_discover (toolchain : Toolchain) {config other : Config}
    (exclusions : config.excludeMatcher = other.excludeMatcher)
    (listed : listings toolchain config = listings toolchain other) :
    Mirrors view
      (fun result result' => result = result' ∧
        Operation.IfOk (fun discovery => (discovery.packages.map Package.importPath).Nodup) result)
      (discover toolchain config) (discover toolchain other) := by
  unfold discover
  rw [exclusions, listed]
  cases other.excludeMatcher with
  | error failure => exact mirrors_done ⟨rfl, fun _ same => nomatch same⟩
  | ok exclude =>
      refine mirrors_bind_eq (mirrors_askEach _) fun answers => mirrors_done ⟨rfl, ?_⟩
      rintro _ ⟨⟩
      exact nodup_importPath_ofAnswers exclude answers

/-- What is described is at the paths that are asked about. -/
theorem Package.mirrors_describe (toolchain : Toolchain) (paths : List String) :
    Mirrors view
      (fun packages packages' => packages = packages' ∧ packages.map Package.importPath = paths)
      (describe toolchain paths) (describe toolchain paths) := by
  unfold describe
  split
  case isTrue none => exact mirrors_done ⟨rfl, (List.isEmpty_iff.mp none).symm⟩
  case isFalse =>
    refine mirrors_bind_eq (mirrors_ask _) fun answer => mirrors_done ⟨rfl, ?_⟩
    rw [List.map_map]
    exact List.map_id'' (Package.importPath_describedAs _) paths

private theorem Resolution.mirrors_query (toolchain : Toolchain) (path : String) :
    Mirrors view Eq (query toolchain path) (query toolchain path) := by
  refine mirrors_bind_eq (mirrors_ask _) fun line => ?_
  cases versionOfLine? path line with
  | some version => exact mirrors_done rfl
  | none => exact mirrors_bind_eq (mirrors_ask _) fun _ => mirrors_done rfl

private theorem Resolution.mirrors_queryAll (toolchain : Toolchain) (versions : Versions)
    (paths : List String) :
    Mirrors view Eq (queryAll toolchain versions paths) (queryAll toolchain versions paths) := by
  induction paths generalizing versions with
  | nil => exact mirrors_done rfl
  | cons path paths ih =>
      refine mirrors_bind_eq (mirrors_query toolchain path) fun version => ?_
      cases version with
      | some version => exact ih _
      | none => exact ih _

theorem Resolution.mirrors_resolve (toolchain : Toolchain) (standardVersion : Option String)
    (paths : Std.ExtTreeSet String) :
    Mirrors view Eq (resolve toolchain standardVersion paths)
      (resolve toolchain standardVersion paths) :=
  mirrors_bind_eq (mirrors_ask _) fun _ => mirrors_queryAll _ _ _

/-- What is extracted for packages at different paths depends neither on how many of the calls are
under way at once nor on the order in which they end. -/
theorem Extraction.mirrors_extractAll (toolchain : Toolchain) (width other : Nat)
    {packages : List Package} (distinct : (packages.map Package.importPath).Nodup) :
    Mirrors view Eq (extractAll toolchain width packages)
      (extractAll toolchain other packages) := by
  intro responder now ended extracted ends
  obtain ⟨answers, between, asks, ends⟩ := ends.of_bind
  obtain ⟨order, rfl⟩ := perm_of_askAll asks
  cases ends
  rw [run_extractAll, gather_eq_inOrder distinct order]
  · exact ⟨rfl, rfl⟩
  · rw [length_answerAll, List.length_map]

end

/-! ## Refreshes of any width -/

def Store.withConcurrency (extractConcurrency : Nat) (store : Store) : Store :=
  { store with config := { store.config with
    indexing := { store.config.indexing with extractConcurrency } } }

def Session.withConcurrency (extractConcurrency : Nat) : Session → Session :=
  Session.mapStore (Store.withConcurrency extractConcurrency)

namespace Operation

open Refresh

variable {α β : Type} {concurrency : Nat}

/-- With any concurrency and its calls ending in any order, an operation comes to what another one
comes to whose calls end in the order of their requests, and to a value that satisfies a
condition. -/
abbrev MirrorsWide (concurrency : Nat) (condition : α → Prop) (operation other : Operation α) :
    Prop :=
  Mirrors (Session.withConcurrency concurrency)
    (fun result result' => result = result' ∧ IfOk condition result) operation.run other.run

section

variable {condition : α → Prop} {after : β → Prop}

theorem mirrorsWide_pure {value : α} (holds : condition value) :
    MirrorsWide concurrency condition (pure value) (pure value) :=
  mirrors_done ⟨rfl, fun _ same => Except.ok.inj same ▸ holds⟩

private theorem mirrorsWide_throw (failure : Failure) :
    MirrorsWide concurrency condition (throw failure) (throw failure) :=
  mirrors_done ⟨rfl, fun _ same => nomatch same⟩

theorem mirrorsWide_bind {operation other : Operation α} {next rest : α → Operation β}
    (first : MirrorsWide concurrency condition operation other)
    (later : ∀ value, condition value → MirrorsWide concurrency after (next value) (rest value)) :
    MirrorsWide concurrency after (operation >>= next) (other >>= rest) := by
  rw [MirrorsWide, run_bind, run_bind]
  refine mirrors_bind first ?_
  rintro result _ ⟨rfl, holds⟩
  cases result with
  | error failure => exact mirrors_done ⟨rfl, fun _ same => nomatch same⟩
  | ok value => exact later value (holds value rfl)

/-- A job is a step of an operation that cannot fail. -/
theorem mirrorsWide_lift {γ δ : Type} {same : γ → δ → Prop} {job : Job Session γ}
    {other : Job Session δ} {next : γ → Operation β} {rest : δ → Operation β}
    (first : Mirrors (Session.withConcurrency concurrency) same job other)
    (later : ∀ value result, same value result →
      MirrorsWide concurrency after (next value) (rest result)) :
    MirrorsWide concurrency after (liftM job >>= next) (liftM other >>= rest) := by
  have lifted : Mirrors (Session.withConcurrency concurrency)
      (fun result result' : Except Failure _ => ∃ value value',
        result = .ok value ∧ result' = .ok value' ∧ same value value')
      (liftM job : Operation γ).run (liftM other : Operation δ).run :=
    mirrors_bind first fun value value' holds => mirrors_done ⟨value, value', rfl, rfl, holds⟩
  rw [MirrorsWide, run_bind, run_bind]
  refine mirrors_bind lifted ?_
  rintro _ _ ⟨value, value', rfl, rfl, holds⟩
  exact later value value' holds

private theorem mirrorsWide_ite {question question' : Prop} [Decidable question]
    [Decidable question']
    {first first' second second' : Operation α} (same : question ↔ question')
    (yes : MirrorsWide concurrency condition first first')
    (no : MirrorsWide concurrency condition second second') :
    MirrorsWide concurrency condition (if question then first else second)
      (if question' then first' else second') := by
  by_cases holds : question
  · rwa [if_pos holds, if_pos (same.mp holds)]
  · rwa [if_neg holds, if_neg (mt same.mpr holds)]

theorem mirrorsWide_mk {job other : Job Session (Except Failure α)}
    (mirrors : Mirrors (Session.withConcurrency concurrency) Eq job other) :
    MirrorsWide concurrency Any (ExceptT.mk job) (ExceptT.mk other) :=
  mirrors_mono mirrors fun _ _ equal => ⟨equal, fun _ _ => trivial⟩

theorem mirrors_store :
    Mirrors (Session.withConcurrency concurrency)
      (fun wide store => wide = store.withConcurrency concurrency) store store :=
  mirrors_look fun _ => mirrors_done rfl

theorem mirrorsWide_store {next rest : Store → Operation β}
    (later : ∀ store : Store,
      MirrorsWide concurrency after (next (store.withConcurrency concurrency)) (rest store)) :
    MirrorsWide concurrency after (liftM store >>= next) (liftM store >>= rest) :=
  mirrorsWide_lift mirrors_store fun _ store same => same ▸ later store

private theorem mirrors_changeStore {change : Store → Store}
    (commutes : ∀ store : Store,
      change (store.withConcurrency concurrency) = (change store).withConcurrency concurrency) :
    Mirrors (Session.withConcurrency concurrency) Eq (changeStore change) (changeStore change) :=
  mirrors_modify fun session => congrArg (fun store => { session with store }) (commutes _)

theorem mirrorsWide_changeStore {change : Store → Store} {next rest : Unit → Operation β}
    (commutes : ∀ store : Store,
      change (store.withConcurrency concurrency) = (change store).withConcurrency concurrency)
    (later : MirrorsWide concurrency after (next ()) (rest ())) :
    MirrorsWide concurrency after (liftM (changeStore change) >>= next)
      (liftM (changeStore change) >>= rest) :=
  mirrorsWide_lift (mirrors_changeStore commutes) fun _ _ _ => later

end

/-! ### The steps of a refresh -/

theorem mirrorsWide_detectToolchain :
    MirrorsWide concurrency Any detectToolchain detectToolchain := by
  refine mirrorsWide_store fun store => ?_
  refine mirrorsWide_bind (mirrorsWide_mk ?_) fun version _ => ?_
  · exact mirrors_bind_eq (mirrors_ask _) fun _ => mirrors_done rfl
  · exact mirrorsWide_changeStore (fun _ => rfl) (mirrorsWide_pure trivial)

private theorem mirrorsWide_ensureToolchain :
    MirrorsWide concurrency Any ensureToolchain ensureToolchain := by
  refine mirrorsWide_store fun store => ?_
  dsimp only [Store.withConcurrency]
  cases store.toolchainVersion with
  | some version => exact mirrorsWide_pure trivial
  | none => exact mirrorsWide_detectToolchain

private theorem mirrorsWide_discover :
    MirrorsWide concurrency
      (fun discovery => (discovery.packages.map Package.importPath).Nodup) discover discover :=
  mirrorsWide_store fun _ => Discovery.mirrors_discover _ rfl rfl

theorem mirrors_resolve (paths : Std.ExtTreeSet String) :
    Mirrors (Session.withConcurrency concurrency) Eq (resolve paths) (resolve paths) := by
  refine mirrors_bind mirrors_store ?_
  rintro _ store rfl
  exact Resolution.mirrors_resolve _ _ _

theorem mirrors_describe (paths : List String) :
    Mirrors (Session.withConcurrency concurrency)
      (fun packages packages' => packages = packages' ∧ packages.map Package.importPath = paths)
      (describe paths) (describe paths) := by
  refine mirrors_bind mirrors_store ?_
  rintro _ store rfl
  exact Package.mirrors_describe _ _

theorem mirrors_extractAll {packages : List Package}
    (distinct : (packages.map Package.importPath).Nodup) :
    Mirrors (Session.withConcurrency concurrency) Eq (extractAll packages)
      (extractAll packages) := by
  refine mirrors_bind mirrors_store ?_
  rintro _ store rfl
  exact Extraction.mirrors_extractAll _ _ _ distinct

theorem mirrorsWide_onDisk (whole : Filing α) (part : Nat → Filing Unit) :
    MirrorsWide concurrency Any (onDisk whole part) (onDisk whole part) := by
  refine mirrorsWide_mk (mirrors_await fun session => ?_)
  simp only [Session.perform, Session.withConcurrency, Session.mapStore]
  split
  case h_1 => rfl
  case h_2 => rfl

private theorem mirrorsWide_replaceFile (path : String) (content : ByteArray) :
    MirrorsWide concurrency Any (replaceFile path content : Operation Unit)
      (replaceFile path content) := by
  have makes : MirrorsWide concurrency Any (makeDirectoriesAbove path : Operation Unit)
      (makeDirectoriesAbove path) := by
    unfold makeDirectoriesAbove
    split
    · exact mirrorsWide_onDisk _ _
    · exact mirrorsWide_pure trivial
  refine mirrorsWide_bind makes fun _ _ => mirrorsWide_bind (mirrorsWide_onDisk _ _) fun _ _ => ?_
  exact mirrorsWide_bind (mirrorsWide_onDisk _ _) fun _ _ =>
    mirrorsWide_bind (mirrorsWide_onDisk _ _) fun _ _ => mirrorsWide_onDisk _ _

/-- What is saved does not depend on it. -/
theorem mirrorsWide_save : MirrorsWide concurrency Any (save : Operation Unit) save := by
  refine mirrors_look fun session => ?_
  simp only [Session.withConcurrency, Session.mapStore, Store.withConcurrency]
  cases session.store.toolchainVersion with
  | none => exact mirrors_done ⟨rfl, fun _ _ => trivial⟩
  | some version =>
      have stamps (time : Nat) : MirrorsWide concurrency Any
          (ExceptT.lift (.modify (Session.stamped time)) : Operation Unit)
          (ExceptT.lift (.modify (Session.stamped time))) :=
        mirrors_bind_eq (mirrors_modify fun _ => rfl) fun _ =>
          mirrors_done ⟨rfl, fun _ _ => trivial⟩
      exact mirrorsWide_bind (mirrorsWide_replaceFile _ _) fun _ _ => stamps _

theorem mirrors_installAndPersist (index : Index) :
    Mirrors (Session.withConcurrency concurrency) Eq (installAndPersist index)
      (installAndPersist index) := by
  refine mirrors_bind_eq (mirrors_changeStore fun _ => rfl) fun _ => ?_
  exact mirrors_bind mirrorsWide_save fun _ _ _ => mirrors_done rfl

/-! ### Refreshes -/

private theorem mirrorsWide_rebuildIndex :
    MirrorsWide concurrency Any rebuildIndex rebuildIndex := by
  refine mirrorsWide_bind mirrorsWide_detectToolchain fun _ _ => ?_
  refine mirrorsWide_bind mirrorsWide_discover fun discovery distinct => ?_
  refine mirrorsWide_lift (mirrors_resolve _) fun versions _ same => same ▸ ?_
  have chosen := Package.nodup_importPath_filter distinct (isResolved versions)
  refine mirrorsWide_lift (mirrors_extractAll chosen) fun extracted _ same => same ▸ ?_
  refine mirrorsWide_store fun store => ?_
  exact mirrorsWide_lift (mirrors_installAndPersist _) fun _ _ _ => mirrorsWide_pure trivial

private theorem mirrorsWide_syncIndex : MirrorsWide concurrency Any syncIndex syncIndex := by
  refine mirrorsWide_store fun store => ?_
  refine mirrorsWide_bind mirrorsWide_discover fun discovery distinct => ?_
  refine mirrorsWide_lift (mirrors_resolve _) fun versions _ same => same ▸ ?_
  refine mirrorsWide_ite Iff.rfl (mirrorsWide_pure trivial) ?_
  have chosen := Package.nodup_importPath_filter distinct (isChanged store.index versions)
  refine mirrorsWide_lift (mirrors_extractAll chosen) fun extracted _ same => same ▸ ?_
  exact mirrorsWide_lift (mirrors_installAndPersist _) fun _ _ _ => mirrorsWide_pure trivial

private theorem mirrorsWide_syncOrRebuild :
    MirrorsWide concurrency Any syncOrRebuild syncOrRebuild := by
  refine mirrorsWide_store fun store => ?_
  refine mirrorsWide_bind mirrorsWide_detectToolchain fun version _ => ?_
  refine mirrorsWide_store fun current => ?_
  exact mirrorsWide_ite Iff.rfl mirrorsWide_rebuildIndex mirrorsWide_syncIndex

private theorem mirrorsWide_refreshIndex (importPaths : List String) :
    MirrorsWide concurrency Any (refreshIndex importPaths) (refreshIndex importPaths) := by
  refine mirrorsWide_bind mirrorsWide_ensureToolchain fun _ _ => ?_
  refine mirrorsWide_lift (mirrors_describe _) fun packages _ same => ?_
  obtain ⟨rfl, paths⟩ := same
  have distinct : (packages.map Package.importPath).Nodup := paths ▸ nodup_targets importPaths
  refine mirrorsWide_lift (mirrors_resolve _) fun versions _ same => same ▸ ?_
  have chosen := Package.nodup_importPath_filter distinct (isResolved versions)
  refine mirrorsWide_lift (mirrors_extractAll chosen) fun extracted _ same => same ▸ ?_
  refine mirrorsWide_store fun store => ?_
  exact mirrorsWide_lift (mirrors_installAndPersist _) fun _ _ _ => mirrorsWide_pure trivial

private theorem mirrorsWide_beginRefresh :
    MirrorsWide concurrency Any beginRefresh beginRefresh := by
  refine mirrorsWide_mk (mirrors_update fun session => ?_)
  obtain ⟨⟨_, _, _, _, _, _, _, _, refreshing⟩, _, _⟩ := session
  cases refreshing with
  | true => rfl
  | false => rfl

private theorem mirrorsWide_attempt {operation : Operation α}
    (mirrors : MirrorsWide concurrency Any operation operation) :
    MirrorsWide concurrency Any (attempt operation) (attempt operation) := by
  rw [MirrorsWide, run_attempt]
  refine mirrors_bind mirrors ?_
  rintro result _ ⟨rfl, -⟩
  exact mirrors_done ⟨rfl, fun _ _ => trivial⟩

private theorem mirrorsWide_guarded {refresh : Operation RefreshStats}
    (body : MirrorsWide concurrency Any refresh refresh) :
    MirrorsWide concurrency Any (guarded refresh) (guarded refresh) := by
  have time : Mirrors (Session.withConcurrency concurrency) Eq now now :=
    mirrors_look fun _ => mirrors_done rfl
  refine mirrorsWide_bind mirrorsWide_beginRefresh fun _ _ => ?_
  refine mirrorsWide_store fun store => ?_
  refine mirrorsWide_lift time fun started _ same => same ▸ ?_
  refine mirrorsWide_changeStore (fun _ => rfl) ?_
  refine mirrorsWide_bind (mirrorsWide_attempt body) fun result _ => ?_
  cases result with
  | ok stats =>
      refine mirrorsWide_lift time fun ended _ same => same ▸ ?_
      refine mirrorsWide_changeStore (fun _ => rfl) ?_
      exact mirrorsWide_changeStore (fun _ => rfl) (mirrorsWide_pure trivial)
  | error failure =>
      refine mirrorsWide_changeStore (fun _ => rfl) ?_
      exact mirrorsWide_changeStore (fun _ => rfl) (mirrorsWide_throw failure)

private theorem mirrorsWide_operation (kind : Refresh.Kind) :
    MirrorsWide concurrency Any kind.operation kind.operation := by
  rw [kind.operation_eq]
  refine mirrorsWide_guarded ?_
  cases kind with
  | rebuild => exact mirrorsWide_rebuildIndex
  | sync => exact mirrorsWide_syncOrRebuild
  | packages importPaths => exact mirrorsWide_refreshIndex importPaths

end Operation

/-! ## All orders -/

namespace Refresh

open Extraction (documentationRequest gather pathBefore)
open Operation

/-- The order in which extractions end does not matter.

A pool of any width finishes, also one of none. In whichever order the calls for the documentation
of packages at different paths end, what is gathered is what extracting them gives: one entry for
each package, in ascending order of import paths. If all of them may be under way at once, it is
also what extracting them in any order may give. And a refresh whose calls end in any order, with
any setting of how many of them may be under way, gives the same statistics or the same failure,
serves the same index, with every list in the same order, and leaves the same snapshot on the disk
as one whose calls end in the order of their requests. -/
theorem completion_order_irrelevant (responder : Responder) :
    (∀ (width : Nat) (requests calls : List Request), ∃ pool,
      CallPool.Runs responder width (.begin requests calls) pool ∧ pool.Finished) ∧
    (∀ (toolchain : Toolchain) (packages : List Package) (width : Nat) (calls : List Request)
        (pool : CallPool),
      (packages.map Package.importPath).Nodup →
      CallPool.Runs responder width
        (.begin (packages.map (documentationRequest toolchain)) calls) pool →
      pool.Finished →
        let extracted := gather packages pool.ended
        extracted.Pairwise pathBefore ∧ (extracted.map Prod.fst).Perm packages ∧
          ∀ session : Session,
            (Extraction.extractAll toolchain width packages).run responder ⟨session, calls⟩ =
              (extracted, ⟨session, pool.calls⟩) ∧
            MayEnd responder (Extraction.extractAll toolchain packages.length packages)
              ⟨session, calls⟩ extracted ⟨session, pool.calls⟩) ∧
    (∀ (kind : Kind) (concurrency : Nat) (now ended : Running Session)
        (result : Except Failure RefreshStats),
      MayEnd responder kind.operation.run
        { now with state := now.state.withConcurrency concurrency } result ended →
        let ran := kind.operation.run.run responder now
        result = ran.1 ∧
          ended = { ran.2 with state := ran.2.state.withConcurrency concurrency }) := by
  refine ⟨fun width requests calls => CallPool.exists_finished responder width _,
    fun toolchain packages width calls pool distinct runs finished => ?gathers,
    fun kind concurrency now ended result ends => ?refreshes⟩
  case gathers =>
    obtain ⟨order, made⟩ := runs.perm_inOrder finished
    have answered : (answerAll responder calls
        (packages.map (documentationRequest toolchain))).1.length = packages.length := by
      rw [length_answerAll, List.length_map]
    refine ⟨Extraction.pairwise_gather distinct order answered,
      Extraction.gather_perm order answered, fun session => ⟨?_, ?_⟩⟩
    · rw [Extraction.run_extractAll, Extraction.gather_eq_inOrder distinct order answered, made]
    · rw [← List.length_map (documentationRequest toolchain)]
      exact MayEnd.bind (runs.mayEnd_askAll finished) .done
  case refreshes =>
    obtain ⟨⟨same, -⟩, ended_eq⟩ := mirrorsWide_operation kind responder now ended result ends
    exact ⟨same, ended_eq⟩

/-- Two packages are extracted at once and the second one ends first. And a rebuild with a setting
of no concurrency at all comes to what it comes to otherwise. -/
theorem completion_order_irrelevant_example :
    let responder : Responder := fun _ request => exampleAnswer request
    let wide := Kind.rebuild.operation.run.run responder ⟨exampleSession.withConcurrency 0, []⟩
    let narrow := Kind.rebuild.operation.run.run responder ⟨exampleSession, []⟩
    ((Extraction.extractAll exampleToolchain 2 examplePackages).run responder
        ⟨exampleSession, []⟩).1 =
      gather examplePackages [(1, .ok "func Work()\n"), (0, .ok "func Open() int\n")] ∧
    wide.1 = narrow.1 ∧ wide.2.state.disk = narrow.2.state.disk := by
  intro responder wide narrow
  obtain ⟨-, gathers, refreshes⟩ := completion_order_irrelevant responder
  have first : CallPool.Runs responder 2
      (.begin (examplePackages.map (documentationRequest exampleToolchain)) [])
      ⟨[], [(0, .ok "func Open() int\n")] ++ (1, .ok "func Work()\n") :: [], [],
        (examplePackages.map (documentationRequest exampleToolchain)).reverse⟩ :=
    .head (.start (by decide)) (.head (.start (by decide)) .refl)
  have last : CallPool.Step responder 2
      ⟨[], [] ++ (0, .ok "func Open() int\n") :: [], [(1, .ok "func Work()\n")],
        (examplePackages.map (documentationRequest exampleToolchain)).reverse⟩
      ⟨[], [], [(1, .ok "func Work()\n"), (0, .ok "func Open() int\n")],
        (examplePackages.map (documentationRequest exampleToolchain)).reverse⟩ :=
    .finish
  refine ⟨?gathers, ?refreshes⟩
  case gathers =>
    obtain ⟨-, -, extracts⟩ := gathers exampleToolchain examplePackages 2 [] _ (by decide)
      (first.trans (.head .finish (.single last))) ⟨rfl, rfl⟩
    exact congrArg Prod.fst (extracts exampleSession).1
  case refreshes =>
    -- What the session is does not matter, and its runs need not be carried out.
    revert wide narrow
    generalize exampleSession = session
    intro wide narrow
    obtain ⟨same, ended⟩ := refreshes .rebuild 0 ⟨session, []⟩ _ _
      (mayEnd_run responder Kind.rebuild.operation.run _)
    have disk := congrArg (fun ended : Running Session => ended.state.disk) ended
    exact ⟨same, disk⟩

end Refresh

end SymbolCache
