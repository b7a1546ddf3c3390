import SymbolCache.Proofs.Refresh.SyncAgreement
import SymbolCache.Proofs.Store.Actions
import SymbolCache.Proofs.Store.Disturbance

/-!
# Additions during a refresh

Symbols may be added whenever a refresh waits for the toolchain. A targeted refresh reads the index
after its last call, so that what was added meanwhile stays unless its package is extracted anew. A
sync reads the index after its first call: if it serves another index in the end, only what was
added at that call is in it, and what was added at the later ones is lost.
-/

set_option autoImplicit false

namespace SymbolCache.Refresh

open Extraction (Extracted)
open Index Operation
open Job hiding run_bind

/-! ## Adding at suspensions -/

def addSymbols (symbols : List Symbol) (session : Session) : Session :=
  session.mapStore fun store => symbols.foldl Store.addSymbol store

def adding (additions : Nat → List Symbol) (count : Nat) : Session → Session :=
  addSymbols (additions count)

def addedBy (additions : Nat → List Symbol) (count : Nat) : List Symbol :=
  (List.range count).flatMap additions

private theorem addedBy_succ (additions : Nat → List Symbol) (count : Nat) :
    addedBy additions (count + 1) = addedBy additions count ++ additions count := by
  simp [addedBy, List.range_succ]

private theorem foldl_addSymbol (store : Store) (symbols : List Symbol) :
    symbols.foldl Store.addSymbol store =
      { store with
        index := store.index.addAll symbols
        generation := store.generation + symbols.countP Symbol.isExported } := by
  induction symbols generalizing store with
  | nil => rfl
  | cons symbol symbols ih =>
      rw [List.foldl_cons, ih, Store.addSymbol, addAll_cons]
      cases exported : symbol.isExported with
      | false => simp [exported, add_of_not_exported]
      | true => simp [exported, Store.install, Nat.add_assoc, Nat.add_comm]

structure Tracks (start : Store) (additions : Nat → List Symbol) (count : Nat)
    (session : Session) : Prop where
  index : session.store.index = start.index.addAll (addedBy additions count)
  generation : session.store.generation =
    start.generation + (addedBy additions count).countP Symbol.isExported
  toolchain : session.store.toolchain = start.toolchain

abbrev Tracked (start : Store) (additions : Nat → List Symbol) (count : Nat)
    (now : Running Session) : Prop :=
  Tracks start additions count now.state

structure Quiet (before after : Session) : Prop where
  index : after.store.index = before.store.index
  generation : after.store.generation = before.store.generation
  toolchain : after.store.toolchain = before.store.toolchain

section

variable {start : Store} {additions : Nat → List Symbol}

theorem Tracks.quiet {count : Nat} {before after : Session} (quiet : Quiet before after)
    (tracks : Tracks start additions count before) : Tracks start additions count after where
  index := quiet.index.trans tracks.index
  generation := quiet.generation.trans tracks.generation
  toolchain := quiet.toolchain.trans tracks.toolchain

theorem Tracks.adding {count : Nat} {session : Session}
    (tracks : Tracks start additions count session) :
    Tracks start additions (count + 1) (adding additions count session) := by
  rw [Refresh.adding, addSymbols, Session.mapStore, foldl_addSymbol]
  refine ⟨?_, ?_, tracks.toolchain⟩
  · rw [addedBy_succ, addAll_append, ← tracks.index]
  · rw [addedBy_succ, List.countP_append, ← Nat.add_assoc, ← tracks.generation]

variable {responder : Responder} {α : Type} {condition : α → Prop} {job : Job Session α}

/-- A job that makes quiet changes only keeps track of the additions. -/
theorem passes_quiet (keeps : job.Keeps .calls (fun _ => True) Quiet condition) :
    Passes responder (adding additions) (Tracked start additions) job
      fun _ => Tracked start additions :=
  (keeps.passes (fun _ _ _ quiet tracks => tracks.quiet quiet)
    fun _ _ tracks => tracks.adding).mono (fun _ _ holds => holds) fun _ _ _ holds => holds.2

end

/-! ## Pools of one action and additions -/

theorem changeAll_addSymbol {symbols : List Symbol} {changes : List (Session → Session)}
    (allowed : ∀ change ∈ changes, ∃ symbol ∈ symbols,
      change = Session.mapStore fun store => store.addSymbol symbol) :
    ∃ added ⊆ symbols, changeAll changes = addSymbols added := by
  induction changes with
  | nil => exact ⟨[], List.nil_subset symbols, rfl⟩
  | cons change changes ih =>
      obtain ⟨⟨symbol, member, rfl⟩, rest⟩ := List.forall_mem_cons.mp allowed
      obtain ⟨added, inside, same⟩ := ih rest
      refine ⟨symbol :: added, List.cons_subset.mpr ⟨member, inside⟩, funext fun session => ?_⟩
      exact congrFun same (session.mapStore fun store => store.addSymbol symbol)

/-- However an action and additions are interleaved, once the action has ended they were made before
it started, at its suspensions or after its end. -/
theorem reached_amid_additions {responder : Responder} {action : Action} {symbols : List Symbol}
    {schedule : List Nat} {session : Session}
    (done : (Action.run .calls responder (action :: symbols.map Action.addSymbol) schedule
      session).1[0]? = some (.done ())) :
    ∃ before ⊆ symbols, ∃ additions, (∀ place, additions place ⊆ symbols) ∧ ∃ after ⊆ symbols,
      Action.reached .calls responder (action :: symbols.map Action.addSymbol) schedule session =
        addSymbols after (action.job.runAmid responder (adding additions) 0
          ⟨addSymbols before session, []⟩).now.state := by
  have changes : ∀ other ∈ (symbols.map Action.addSymbol).map Action.job,
      other = .done () ∨ ∃ change : Session → Session,
        (∃ symbol ∈ symbols, change = Session.mapStore fun store => store.addSymbol symbol) ∧
          other = .modify change := by
    intro other member
    simp only [List.mem_map] at member
    obtain ⟨_, ⟨symbol, inside, rfl⟩, rfl⟩ := member
    exact .inr ⟨_, ⟨symbol, inside, rfl⟩, rfl⟩
  obtain ⟨before, amid, after, beforeAllowed, amidAllowed, afterAllowed, final⟩ :=
    endsAmid_interleave schedule changes done
  obtain ⟨first, firstInside, sameFirst⟩ := changeAll_addSymbol beforeAllowed
  choose additions inside sameAmid using fun place => changeAll_addSymbol (amidAllowed place)
  obtain ⟨last, lastInside, sameLast⟩ := changeAll_addSymbol afterAllowed
  refine ⟨first, firstInside, additions, inside, last, lastInside, final.trans ?_⟩
  rw [sameFirst, sameLast]
  simp only [sameAmid]
  rfl

/-! ## What is extracted anew -/

/-- A package is extracted anew: its documentation was asked for and given. -/
def Reextracted (responder : Responder) (toolchain : Toolchain) (calls : List Request)
    (path : String) : Prop :=
  ∃ text, Job.Answered responder calls (toolchain.command ["doc", "-all", path]) (.ok text)

structure Extracts (responder : Responder) (toolchain : Toolchain) (calls : List Request)
    (extracted : List Extracted) : Prop where
  owned : Owned extracted
  answered : ∀ entry ∈ extracted, entry.2 ≠ [] →
    Reextracted responder toolchain calls entry.1.importPath

section

variable {responder : Responder} {start : Store} {additions : Nat → List Symbol}

/-- Extraction goes by the answers that were given on the way. -/
theorem passes_extractAll (packages : List Package) :
    Passes responder (adding additions) (Tracked start additions) (extractAll packages)
      fun extracted count now => Extracts responder start.toolchain now.calls extracted ∧
        Tracked start additions count now := by
  intro count now tracks
  refine ⟨?_, passes_quiet (keeps_extractAll packages) count now tracks⟩
  have toolchain : now.state.store.toolchain = start.toolchain := tracks.toolchain
  simp only [extractAll, bind_eq, runAmid_bind, store, runAmid, Extraction.extractAll, pure_eq,
    toolchain]
  have asked : Passes responder (adding additions) _ _ _ :=
    passes_askAll now.state.store.config.indexing.extractConcurrency
      (packages.map (Extraction.documentationRequest start.toolchain))
  have answered := asked count now trivial
  generalize (askAll now.state.store.config.indexing.extractConcurrency
    (packages.map (Extraction.documentationRequest start.toolchain))).runAmid responder
      (adding additions) count now = passage at answered ⊢
  constructor
  case owned => exact owned_gather _ _
  case answered =>
    intro entry member filled
    obtain ⟨place, answer, given, found, symbols⟩ := Extraction.mem_gather member
    obtain ⟨request, requested, reply⟩ := answered place answer given
    rw [List.getElem?_map, found, Option.map_some, Option.some.injEq] at requested
    subst requested
    cases answer with
    | error failure => exact absurd symbols filled
    | ok text => exact ⟨text, reply⟩

/-- Nothing is replaced in packages that are not extracted anew. -/
theorem sameAt_replaceAll_not_reextracted (versions : Versions) {index : Index}
    (consistent : index.Consistent) {calls : List Request} {extracted : List Extracted}
    (extracts : Extracts responder start.toolchain calls extracted) {path : String}
    (spared : ¬ Reextracted responder start.toolchain calls path) :
    (replaceAll versions extracted index).SameAt index path := by
  refine sameAt_replaceAll versions consistent extracts.owned ?_
  intro entry member filled same
  exact spared (same ▸ extracts.answered entry member filled)

end

/-! ## Targeted refreshes -/

section

variable {responder : Responder} {start : Store} {additions : Nat → List Symbol}

private theorem keeps_noteVersion (version : String) :
    (changeStore fun store => { store with toolchainVersion := some version }).Keeps .calls
      (fun _ => True) Quiet Any :=
  keeps_modify fun _ _ => ⟨⟨rfl, rfl, rfl⟩, trivial⟩

/-- An operation that makes quiet changes only keeps track of the additions. -/
theorem passes_quietly {α : Type} {operation : Operation α}
    (keeps : operation.run.Keeps .calls (fun _ => True) Quiet (IfOk Any)) :
    Passes responder (adding additions) (Tracked start additions) operation.run
      (Settles (fun _ => Tracked start additions) (Tracked start additions)) := by
  refine (passes_quiet keeps).mono (fun _ _ holds => holds) fun result count now holds => ?_
  cases result with
  | ok value => exact holds
  | error failure => exact holds

/-- A package that was not extracted anew has the records that it had, and those added since. -/
def Retained (responder : Responder) (start : Store) (additions : Nat → List Symbol) (count : Nat)
    (now : Running Session) : Prop :=
  ∀ path, ¬ Reextracted responder start.toolchain now.calls path → ∀ name,
    now.state.store.index.records path name =
      start.index.records path name ++ (addedBy additions count).filter (isRecord path name)

theorem Tracks.retained {count : Nat} {now : Running Session}
    (tracks : Tracked start additions count now) :
    Retained responder start additions count now := by
  intro path _ name
  rw [tracks.index, records_addAll]

/-- The index is read after the last call, so that it has all that was added. -/
theorem passes_refreshIndex (consistent : start.index.Consistent) (importPaths : List String) :
    Passes responder (adding additions) (Tracked start additions) (refreshIndex importPaths).run
      (Settles (fun _ => Retained responder start additions) (Tracked start additions)) := by
  unfold refreshIndex
  refine passes_andThen (passes_quietly (keeps_ensureToolchain keeps_noteVersion)) fun _ => ?_
  refine passes_andThen (passes_lift (passes_quiet (keeps_describe _))) fun packages => ?_
  refine passes_andThen (passes_lift (passes_quiet (keeps_resolve _))) fun versions => ?_
  refine passes_andThen (passes_lift (passes_extractAll _)) fun extracted => ?_
  refine passes_andThen (passes_lift passes_store) fun store => ?_
  refine passes_andThen (passes_lift (passes_installAndPersist ?_)) fun _ =>
    passes_pure fun _ _ holds => holds
  rintro count now served ⟨rfl, extracts, tracks⟩ index _ path spared name
  have current : now.state.store.index.Consistent := tracks.index ▸ consistent.addAll _
  have replaced : served.store.index = replaceAll versions extracted now.state.store.index :=
    index.trans (apply_fst versions extracted _ _)
  dsimp only
  rw [replaced, (sameAt_replaceAll_not_reextracted versions current extracts spared).records,
    tracks.index, records_addAll]

private theorem passes_refreshPackages (consistent : start.index.Consistent)
    (importPaths : List String) :
    Passes responder (adding additions) (Tracked start additions)
      (refreshPackages importPaths).run fun _ => Retained responder start additions := by
  refine passes_guarded ?_ (fun _ _ _ _ holds => holds) (fun _ _ tracks => tracks.retained) ?_
  · exact fun _ _ _ _ tracks => ⟨tracks.index, tracks.generation, tracks.toolchain⟩
  · exact (passes_refreshIndex consistent importPaths).mono (fun _ _ holds => holds)
      fun _ _ _ settled => settled.elim Tracks.retained

/-! ## Syncing -/

def Removed (before after : Index) (path : String) : Prop :=
  before.version? path ≠ none ∧ after.version? path = none

/-- Another index is served than the one that was read at first, of which it has what was neither
removed nor extracted anew. -/
structure Replaced (responder : Responder) (start : Store) (additions : Nat → List Symbol)
    (current : Index) (count : Nat) (now : Running Session) : Prop where
  generation : now.state.store.generation =
    start.generation + (addedBy additions count).countP Symbol.isExported + 1
  records : ∀ path, ¬ Reextracted responder start.toolchain now.calls path →
    ¬ Removed current now.state.store.index path → ∀ name,
      now.state.store.index.records path name = current.records path name

/-- Only packages with a version are removed. -/
theorem version_of_gone (discovery : Discovery) (index : Index) {path : String}
    (gone : path ∈ if discovery.isComplete then vanished index (pathsOf discovery.packages)
      else []) : index.version? path ≠ none := by
  split at gone
  · exact Option.ne_none_iff_exists'.mpr (mem_vanished.mp gone).1
  · exact absurd gone List.not_mem_nil

/-- The index is read before the calls, and changed after them. -/
theorem passes_syncIndex {current : Index} (consistent : current.Consistent) :
    Passes responder (adding additions)
      (fun count now =>
        now.state.store.index = current ∧ Tracked start additions count now) syncIndex.run
      (Settles
        (fun _ count now => Tracked start additions count now ∨
          Replaced responder start additions current count now)
        (Tracked start additions)) := by
  unfold syncIndex
  refine passes_andThen (passes_lift passes_store) fun store => ?_
  have same : ∀ count (now : Running Session), store = now.state.store ∧
      now.state.store.index = current ∧ Tracked start additions count now →
        store.index = current ∧ Tracked start additions count now :=
    fun _ _ ⟨read, index, tracks⟩ => ⟨read ▸ index, tracks⟩
  refine passes_knowing same fun read => ?_
  obtain rfl := read
  refine passes_andThen (passes_quietly keeps_discover) fun discovery => ?_
  refine passes_andThen (passes_lift (passes_quiet (keeps_resolve _))) fun versions => ?_
  have known := @version_of_gone discovery store.index
  dsimp only
  generalize (if discovery.isComplete then vanished store.index (pathsOf discovery.packages)
    else []) = removed at known ⊢
  rw [run_ite]
  split
  case isTrue => exact passes_pure fun _ _ tracks => .inl tracks
  case isFalse =>
    refine passes_andThen (passes_lift (passes_extractAll _)) fun extracted => ?_
    refine passes_andThen (passes_lift (passes_installAndPersist ?_)) fun _ =>
      passes_pure fun _ _ holds => .inr holds
    rintro count now served ⟨extracts, tracks⟩ index generation
    have replaced : served.store.index =
        replaceAll versions extracted (removed.foldl removePackage store.index) :=
      index.trans (apply_fst versions extracted _ _)
    refine ⟨by rw [generation, tracks.generation], fun path spared kept name => ?_⟩
    have same := sameAt_replaceAll_not_reextracted versions
      (foldl_removePackage_consistent consistent removed) extracts spared
    rw [replaced] at kept ⊢
    have left : path ∉ removed := fun gone =>
      kept ⟨known gone, (same.lacks (lacks_foldl_removePackage consistent gone)).version⟩
    exact (same.trans (sameAt_foldl_removePackage consistent left)).records name

/-- A sync does not fall back to a rebuild: the version of the toolchain that it is told is the one
already known, or no index is served when it is told. -/
def Incremental (responder : Responder) (start : Store) (additions : Nat → List Symbol) : Prop :=
  ∀ version,
    start.toolchain.versionOfAnswer (responder [] start.toolchain.versionRequest) = .ok version →
      start.toolchainVersion = some version ∨ (start.index.addAll (additions 0)).isEmpty = true

structure Unasked (start : Store) (additions : Nat → List Symbol) (count : Nat)
    (now : Running Session) : Prop where
  first : count = 0
  calls : now.calls = []
  toolchainVersion : now.state.store.toolchainVersion = start.toolchainVersion
  tracked : Tracked start additions count now

/-- The version of the toolchain is asked for at the first suspension. -/
theorem passes_detectToolchain :
    Passes responder (adding additions) (Unasked start additions) detectToolchain.run
      (Settles
        (fun version count now => start.toolchain.versionOfAnswer
            (responder [] start.toolchain.versionRequest) = .ok version ∧
          count = 1 ∧ Tracked start additions count now)
        (Tracked start additions)) := by
  rintro count ⟨session, calls⟩ ⟨rfl, rfl, _, tracks⟩
  have toolchain : session.store.toolchain = start.toolchain := tracks.toolchain
  have added := tracks.adding
  simp only [detectToolchain, run_bind, run_lift, run_mk, runAmid_bind, store, runAmid,
    andThen_ok, Toolchain.detectVersion, bind_eq, Job.ask, pure_eq, toolchain]
  cases detected : start.toolchain.versionOfAnswer
      (responder [] start.toolchain.versionRequest) with
  | error failure => exact added
  | ok version =>
      have noted : Quiet (adding additions 0 session) ((adding additions 0 session).mapStore
          fun store => { store with toolchainVersion := some version }) := ⟨rfl, rfl, rfl⟩
      exact ⟨rfl, rfl, added.quiet noted⟩

/-- If it does not fall back to a rebuild, a sync changes the index as it is after the first
suspension. -/
theorem passes_syncOrRebuild (consistent : start.index.Consistent)
    (incremental : Incremental responder start additions) :
    Passes responder (adding additions) (Unasked start additions) syncOrRebuild.run
      (Settles
        (fun _ count now => Tracked start additions count now ∨
          Replaced responder start additions (start.index.addAll (additions 0)) count now)
        (Tracked start additions)) := by
  unfold syncOrRebuild
  refine passes_andThen (passes_lift passes_store) fun before => ?_
  have version : ∀ count (now : Running Session),
      before = now.state.store ∧ Unasked start additions count now →
        before.toolchainVersion = start.toolchainVersion ∧ Unasked start additions count now :=
    fun _ _ ⟨read, unasked⟩ => ⟨read ▸ unasked.toolchainVersion, unasked⟩
  refine passes_knowing version fun previous => ?_
  refine passes_andThen passes_detectToolchain fun version => ?_
  refine passes_andThen (passes_lift passes_store) fun store => ?_
  have same : ∀ count (now : Running Session),
      store = now.state.store ∧ start.toolchain.versionOfAnswer
        (responder [] start.toolchain.versionRequest) = .ok version ∧
          count = 1 ∧ Tracked start additions count now →
        (before.toolchainVersion = some version ∨ store.index.isEmpty = true) ∧
          now.state.store.index = start.index.addAll (additions 0) ∧
            Tracked start additions count now := by
    rintro count now ⟨rfl, detected, rfl, tracks⟩
    have current : now.state.store.index = start.index.addAll (additions 0) := by
      rw [tracks.index]
      simp [addedBy]
    refine ⟨?_, current, tracks⟩
    rw [previous, current]
    exact incremental version detected
  refine passes_knowing same fun unchanged => ?_
  rw [run_ite, if_neg]
  · exact passes_syncIndex (consistent.addAll _)
  · rcases unchanged with known | empty
    · simp [known]
    · simp [empty]

private theorem passes_sync (consistent : start.index.Consistent)
    (incremental : Incremental responder start additions) :
    Passes responder (adding additions) (Unasked start additions) sync.run
      fun _ count now => Tracked start additions count now ∨
        Replaced responder start additions (start.index.addAll (additions 0)) count now := by
  refine passes_guarded ?_ ?_ (fun _ _ unasked => .inl unasked.tracked) ?_
  · rintro count now readiness refreshing ⟨first, calls, version, tracks⟩
    exact ⟨first, calls, version, ⟨tracks.index, tracks.generation, tracks.toolchain⟩⟩
  · rintro count now readiness refreshing (tracks | replaced)
    · exact .inl ⟨tracks.index, tracks.generation, tracks.toolchain⟩
    · exact .inr ⟨replaced.generation, replaced.records⟩
  · exact (passes_syncOrRebuild consistent incremental).mono (fun _ _ holds => holds)
      fun _ _ _ settled => settled.elim .inl

end

/-! ## What is left of the additions -/

/-- However an action and additions are interleaved, they are made before it starts, at its
suspensions or after its end. A targeted refresh loses no addition to a package that it does not
extract anew. If a sync serves another index than it found, which the generation tells, it loses all
additions after the first suspension. -/
theorem additions_amid_refresh (responder : Responder) (additions : Nat → List Symbol)
    (session : Session) (reachable : session.store.index.Reachable) :
    (∀ (action : Action) (symbols : List Symbol) (schedule : List Nat),
      let pool := action :: symbols.map Action.addSymbol
      (Action.run .calls responder pool schedule session).1[0]? = some (.done ()) →
        ∃ before ⊆ symbols, ∃ amid, (∀ place, amid place ⊆ symbols) ∧
          ∃ after ⊆ symbols, Action.reached .calls responder pool schedule session =
            addSymbols after (action.job.runAmid responder (adding amid) 0
              ⟨addSymbols before session, []⟩).now.state) ∧
    (∀ importPaths,
      let ended := (refreshPackages importPaths).run.runAmid responder (adding additions) 0
        ⟨session, []⟩
      Retained responder session.store additions ended.count ended.now) ∧
    (Incremental responder session.store additions →
      let ended := sync.run.runAmid responder (adding additions) 0 ⟨session, []⟩
      let added := addedBy additions ended.count
      let found := session.store.generation + added.countP Symbol.isExported
      ∀ path, ¬ Reextracted responder session.store.toolchain ended.now.calls path →
        ¬ Removed session.store.index ended.now.state.store.index path → ∀ name,
          ended.now.state.store.index.records path name =
            session.store.index.records path name ++
              (if ended.now.state.store.generation = found then added else additions 0).filter
                (isRecord path name)) := by
  have tracks : Tracks session.store additions 0 session := ⟨by simp [addedBy, addAll], rfl, rfl⟩
  refine ⟨fun _ _ _ => reached_amid_additions, fun importPaths => ?_, ?_⟩
  · exact passes_refreshPackages reachable.consistent importPaths 0 ⟨session, []⟩ tracks
  · intro incremental ended added found path spared kept name
    rcases passes_sync reachable.consistent incremental 0 ⟨session, []⟩
      ⟨rfl, rfl, rfl, tracks⟩ with tracks | replaced
    · rw [if_pos tracks.generation]
      exact tracks.retained path spared name
    · have other : ended.now.state.store.generation ≠ found := by
        rw [replaced.generation]
        exact Nat.succ_ne_self _
      rw [if_neg other, ← records_addAll]
      refine replaced.records path spared ?_ name
      simpa [Removed, version?] using kept

/-- A function of another package is added at the second suspension of a refresh. It is there after
a targeted refresh, and is not after a sync. -/
theorem additions_amid_refresh_example :
    let responder : Responder := fun _ request => exampleAnswer request
    let extra := exampleSymbol "other.org/z"
    let additions : Nat → List Symbol := fun count => if count = 1 then [extra] else []
    ((refreshPackages ["lib.org/c"]).run.runAmid responder (adding additions) 0
        ⟨exampleSession, []⟩).now.state.store.index.records "other.org/z" "Old" = [extra] ∧
      (sync.run.runAmid responder (adding additions) 0
        ⟨exampleSession, []⟩).now.state.store.index.records "other.org/z" "Old" = [] := by
  intro responder extra additions
  obtain ⟨-, retained, remains⟩ := additions_amid_refresh responder additions exampleSession
    reachable_exampleIndex
  have unversioned : exampleSession.store.index.version? "other.org/z" = none := by
    decide +kernel
  have before : exampleSession.store.index.records "other.org/z" "Old" = [] := by
    decide +kernel
  have spared : ∀ calls,
      ¬ Reextracted responder exampleSession.store.toolchain calls "other.org/z" := by
    rintro calls ⟨text, earlier, _, answered⟩
    have failed : exampleAnswer (exampleToolchain.command ["doc", "-all", "other.org/z"]) =
        .error .toolchainUnknown := by decide +kernel
    cases failed.symm.trans answered
  have incremental : Incremental responder exampleSession.store additions := by
    intro version detected
    have known : exampleToolchain.versionOfAnswer (exampleAnswer exampleToolchain.versionRequest) =
        .ok "1.22" := by decide +kernel
    exact .inl (congrArg some (Except.ok.inj (known.symm.trans detected)))
  have refreshCount : ((refreshPackages ["lib.org/c"]).run.runAmid responder (adding additions) 0
      ⟨exampleSession, []⟩).count = 3 := by decide +kernel
  have syncCount : (sync.run.runAmid responder (adding additions) 0
      ⟨exampleSession, []⟩).count = 4 := by decide +kernel
  have generation : (sync.run.runAmid responder (adding additions) 0
      ⟨exampleSession, []⟩).now.state.store.generation = 2 := by decide +kernel
  replace retained := retained ["lib.org/c"]
  replace remains := remains incremental
  -- From here on only these facts matter, and the runs are not to be computed again.
  generalize (refreshPackages ["lib.org/c"]).run.runAmid responder (adding additions) 0
    ⟨exampleSession, []⟩ = refreshed at *
  generalize sync.run.runAmid responder (adding additions) 0 ⟨exampleSession, []⟩ = synced at *
  constructor
  · rw [retained "other.org/z" (spared _) "Old", before, refreshCount]
    decide
  · rw [remains "other.org/z" (spared _) (fun removed => removed.1 unversioned) "Old", before,
      syncCount, generation]
    decide

/-- The sync is in flight when the function is added, does not fall back to a rebuild, and neither
removes nor extracts its package. Yet the function is not in the index once both have ended. -/
theorem sync_loses_addition :
    let responder : Responder := fun _ request => exampleAnswer request
    let extra := exampleSymbol "other.org/z"
    let started := Action.run .calls responder [.sync, .addSymbol extra] [0, 0] exampleSession
    let ended :=
      Action.run .calls responder [.sync, .addSymbol extra] [0, 0, 1, 0, 0, 0] exampleSession
    exampleSession.store.index.Reachable ∧
      started.1.map Job.value? = [none, none] ∧ ended.1.map Job.value? = [some (), some ()] ∧
        ended.2.calls.countP (· == exampleToolchain.versionRequest) = 1 ∧
          exampleSession.store.index.version? extra.packagePath = none ∧
            exampleToolchain.command ["doc", "-all", extra.packagePath] ∉ ended.2.calls ∧
              extra.isExported = true ∧ extra ∉ ended.2.state.store.index.listed extra.name := by
  refine ⟨reachable_exampleIndex, ?_⟩
  decide +kernel

end SymbolCache.Refresh
