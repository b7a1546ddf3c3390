import SymbolCache.Proofs.Job.Inquiry
import SymbolCache.Proofs.Refresh.Contents
import SymbolCache.Proofs.Store.Actions

/-!
# What a refresh finds out

Whatever the toolchain answers, and however its answers change from one call to the next, a refresh
first finds out which packages there are and which versions they have, and then extracts some of
them. These are functions of the answers; the index after a sync or a rebuild that succeeds is made
of them and of the index before.
-/

set_option autoImplicit false

namespace SymbolCache

open Job

/-! ## Asking -/

section

variable {σ : Type}

private theorem Resolution.asksOnly_query (toolchain : Toolchain) (path : String) :
    (query toolchain path : Job σ _).AsksOnly := by
  refine (asksOnly_ask _).bind fun line => ?_
  cases versionOfLine? path line with
  | some version => exact asksOnly_done _
  | none => exact (asksOnly_ask _).bind fun _ => asksOnly_done _

private theorem Resolution.asksOnly_queryAll (toolchain : Toolchain) (versions : Versions)
    (paths : List String) : (queryAll toolchain versions paths : Job σ _).AsksOnly := by
  induction paths generalizing versions with
  | nil => exact asksOnly_done _
  | cons path paths ih =>
      refine (asksOnly_query toolchain path).bind fun version => ?_
      cases version with
      | some version => exact ih _
      | none => exact ih _

private theorem Resolution.asksOnly_resolve (toolchain : Toolchain)
    (standardVersion : Option String)
    (paths : Std.ExtTreeSet String) :
    (resolve toolchain standardVersion paths : Job σ _).AsksOnly :=
  (asksOnly_ask _).bind fun _ => asksOnly_queryAll _ _ _

variable (responder : Responder)

private theorem Discovery.run_askEach (requests : List Request) (now : Running σ) :
    (askEach requests).run responder now =
      ((answerAll responder now.calls requests).1,
        { now with calls := (answerAll responder now.calls requests).2 }) := by
  induction requests generalizing now with
  | nil => rfl
  | cons request requests ih =>
      simp only [askEach, bind_eq, run_bind, ih, Job.ask, run, pure_eq, answerAll]

theorem Discovery.run_discover (toolchain : Toolchain) (config : Config) (now : Running σ) :
    (discover toolchain config).run responder now =
      match config.excludeMatcher with
      | .error failure => (.error failure, now)
      | .ok exclude =>
        (.ok (ofAnswers exclude
            (answerAll responder now.calls (listings toolchain config)).1),
          { now with calls := (answerAll responder now.calls (listings toolchain config)).2 }) := by
  unfold discover
  cases config.excludeMatcher with
  | error failure => rfl
  | ok exclude => simp only [bind_eq, run_bind, run_askEach, pure_eq, run]

theorem Extraction.run_extractAll (toolchain : Toolchain) (width : Nat) (packages : List Package)
    (now : Running σ) :
    let asked := answerAll responder now.calls (packages.map (documentationRequest toolchain))
    (extractAll toolchain width packages).run responder now =
      (gather packages (inOrder asked.1), { now with calls := asked.2 }) := by
  simp only [extractAll, bind_eq, run_bind, run_askAll, pure_eq, run]

end

/-! ## Documentation -/

namespace Extraction

private theorem documentationRequest_inj {toolchain : Toolchain} {left right : Package}
    (same : documentationRequest toolchain left = documentationRequest toolchain right) :
    left.importPath = right.importPath := by
  simpa [documentationRequest, Toolchain.command, Toolchain.request] using same

private theorem nodup_documentationRequest (toolchain : Toolchain) {packages : List Package}
    (distinct : (packages.map Package.importPath).Nodup) :
    (packages.map (documentationRequest toolchain)).Nodup :=
  List.pairwise_map.mpr <| (List.pairwise_map.mp distinct).imp fun different same =>
    different (documentationRequest_inj same)

/-- What is extracted for packages goes by the last answer to the request for the documentation of
each. -/
theorem exists_extracted (responder : Responder) (toolchain : Toolchain) {packages : List Package}
    (distinct : (packages.map Package.importPath).Nodup) (calls : List Request) :
    let asked := answerAll responder calls (packages.map (documentationRequest toolchain))
    ∃ answer : Request → Answer,
      gather packages (inOrder asked.1) = extractedAll answer toolchain packages ∧
        ∀ package ∈ packages,
          lastAnswer? responder (documentationRequest toolchain package) asked.2 =
            some (answer (documentationRequest toolchain package)) := by
  intro asked
  have answers := answerAll_of_nodup responder calls (nodup_documentationRequest toolchain distinct)
  -- A request that was not made may have any answer.
  let answer : Request → Answer := fun request =>
    (lastAnswer? responder request asked.2).getD (.ok "")
  have told : ∀ package ∈ packages,
      lastAnswer? responder (documentationRequest toolchain package) asked.2 =
        some (answer (documentationRequest toolchain package)) := by
    intro package member
    have given : lastAnswer? responder (documentationRequest toolchain package) asked.2 ∈
        asked.1.map some := by
      rw [answers]
      exact List.mem_map_of_mem (List.mem_map_of_mem member)
    obtain ⟨reply, _, same⟩ := List.mem_map.mp given
    simp only [answer, ← same, Option.getD_some]
  refine ⟨answer, ?_, told⟩
  have replies : asked.1 = packages.map fun package =>
      answer (documentationRequest toolchain package) := by
    have given := congrArg (List.map fun reply => reply.getD (.ok "")) answers
    rw [List.map_map, List.map_map, List.map_map] at given
    exact (List.map_id _).symm.trans given
  rw [replies, gather_inOrder]

end Extraction

namespace Refresh

open Extraction (documentationRequest gather)
open Index Operation

/-! ## Findings -/

/-- What a refresh has found out about the packages of a workspace before it extracts any. -/
structure Findings where
  /-- The answers to the listings. -/
  listed : List Answer
  discovery : Discovery
  /-- The versions that are resolved. -/
  versions : Versions
  /-- All calls made so far, the latest first. -/
  calls : List Request

def resolvedAfter (responder : Responder) (session : Session) (version : String)
    (packages : List Package) (calls : List Request) : Versions × List Request :=
  let resolved := (Resolution.resolve session.store.toolchain
    (some (Resolution.standardVersion version)) (pathsOf packages)).run responder ⟨session, calls⟩
  (resolved.1, resolved.2.calls)

def findingsExcluding (exclude : Glob.Matcher) (responder : Responder) (session : Session)
    (version : String) (calls : List Request) : Findings :=
  let asked := answerAll responder calls
    (Discovery.listings session.store.toolchain session.store.config)
  let discovery := Discovery.ofAnswers exclude asked.1
  let resolved := resolvedAfter responder session version discovery.packages asked.2
  { listed := asked.1, discovery, versions := resolved.1, calls := resolved.2 }

def findings (responder : Responder) (session : Session) (version : String)
    (calls : List Request) : Except Failure Findings :=
  session.store.config.excludeMatcher.map fun exclude =>
    findingsExcluding exclude responder session version calls

namespace Findings

abbrev packages (found : Findings) : List Package :=
  found.discovery.packages

def Complete (found : Findings) : Prop :=
  ∀ answer ∈ found.listed, ∃ output, answer = .ok output

def Discovers (found : Findings) (path : String) : Prop :=
  ∃ package ∈ found.packages, package.importPath = path

def extracted (responder : Responder) (toolchain : Toolchain) (found : Findings)
    (chosen : Package → Bool) : List Extraction.Extracted :=
  gather (found.packages.filter chosen) (inOrder (answerAll responder found.calls
    ((found.packages.filter chosen).map (documentationRequest toolchain))).1)

def replaced (responder : Responder) (toolchain : Toolchain) (found : Findings)
    (chosen : Package → Bool) (start : Index) : Index :=
  replaceAll found.versions (found.extracted responder toolchain chosen) start

def counters (responder : Responder) (toolchain : Toolchain) (found : Findings)
    (chosen : Package → Bool) (start : Index) (removed : Nat) : RefreshStats :=
  (apply found.versions (found.extracted responder toolchain chosen) start
    { RefreshStats.ofResolution found.packages (pathsOf found.packages) found.versions
        found.discovery.failedListings with removed }).2

def callsAfter (responder : Responder) (toolchain : Toolchain) (found : Findings)
    (chosen : Package → Bool) : List Request :=
  (answerAll responder found.calls
    ((found.packages.filter chosen).map (documentationRequest toolchain))).2

def removed (found : Findings) (before : Index) : List String :=
  if found.discovery.isComplete then vanished before (pathsOf found.packages) else []

def synced (found : Findings) (responder : Responder) (toolchain : Toolchain) (before : Index) :
    Index :=
  found.replaced responder toolchain (isChanged before found.versions)
    ((found.removed before).foldl removePackage before)

def syncCalls (found : Findings) (responder : Responder) (toolchain : Toolchain)
    (before : Index) : List Request :=
  found.callsAfter responder toolchain (isChanged before found.versions)

/-- The index that a rebuild starts from: an empty one, or one of what is not discovered if a
listing failed. -/
def rebuildStart (found : Findings) (before : Index) : Index :=
  if found.discovery.isComplete then .empty else carryOver before (pathsOf found.packages)

def rebuilt (found : Findings) (responder : Responder) (toolchain : Toolchain) (before : Index) :
    Index :=
  found.replaced responder toolchain (isResolved found.versions) (found.rebuildStart before)

def rebuildCalls (found : Findings) (responder : Responder) (toolchain : Toolchain) :
    List Request :=
  found.callsAfter responder toolchain (isResolved found.versions)

end Findings

section

variable {responder : Responder} {session : Session} {version : String} {calls : List Request}
  {found : Findings}

private theorem Findings.extracted_of_unchosen {toolchain : Toolchain} {chosen : Package → Bool}
    (none : found.packages.filter chosen = []) :
    found.extracted responder toolchain chosen = [] := by
  simp [extracted, none, gather]

private theorem Findings.replaced_of_unchosen {toolchain : Toolchain} {chosen : Package → Bool}
    (none : found.packages.filter chosen = []) (start : Index) :
    found.replaced responder toolchain chosen start = start := by
  rw [replaced, extracted_of_unchosen none]
  rfl

private theorem Findings.callsAfter_of_unchosen {toolchain : Toolchain} {chosen : Package → Bool}
    (none : found.packages.filter chosen = []) :
    found.callsAfter responder toolchain chosen = found.calls := by
  simp [callsAfter, none, answerAll]

/-- A package that is chosen and has a version and documentation is replaced by what the
documentation declares. -/
theorem Findings.holds_replaced {toolchain : Toolchain} {chosen : Package → Bool} {start : Index}
    (distinct : (found.packages.map Package.importPath).Nodup) (consistent : start.Consistent)
    {package : Package} (member : package ∈ found.packages) (taken : chosen package = true)
    (resolved : found.versions[package.importPath]? = some version) {text : String}
    (documented : lastAnswer? responder (documentationRequest toolchain package)
      (found.callsAfter responder toolchain chosen) = some (.ok text)) :
    (found.replaced responder toolchain chosen start).Holds package.importPath version
      (Extraction.symbolsOfText package text) := by
  obtain ⟨answer, extracted, told⟩ := Extraction.exists_extracted responder toolchain
    (Package.nodup_importPath_filter distinct chosen) found.calls
  have answered : answer (documentationRequest toolchain package) = .ok text :=
    Option.some.inj ((told package (List.mem_filter.mpr ⟨member, taken⟩)).symm.trans documented)
  have holds := holds_replaceAll_chosen answer toolchain found.versions chosen consistent distinct
    member taken answered resolved
  rwa [Extraction.symbolsOf, answered, Extraction.symbolsOfAnswer, ← extracted] at holds

/-- A package that is not chosen, or has no documentation, is left as it is. -/
theorem Findings.sameAt_replaced {toolchain : Toolchain} {chosen : Package → Bool} {start : Index}
    (distinct : (found.packages.map Package.importPath).Nodup) (consistent : start.Consistent)
    {path : String}
    (spared : ∀ package ∈ found.packages, package.importPath = path → chosen package = true →
      ∀ text, lastAnswer? responder (documentationRequest toolchain package)
        (found.callsAfter responder toolchain chosen) ≠ some (.ok text)) :
    (found.replaced responder toolchain chosen start).SameAt start path := by
  obtain ⟨answer, extracted, told⟩ := Extraction.exists_extracted responder toolchain
    (Package.nodup_importPath_filter distinct chosen) found.calls
  rw [Findings.replaced, Findings.extracted, extracted]
  refine sameAt_replaceAll_spared answer toolchain found.versions chosen consistent ?_
  intro package member same taken text answered
  exact spared package member same taken text
    (answered ▸ told package (List.mem_filter.mpr ⟨member, taken⟩))

theorem exists_of_findings (finds : findings responder session version calls = .ok found) :
    ∃ exclude, session.store.config.excludeMatcher = .ok exclude ∧
      findingsExcluding exclude responder session version calls = found := by
  unfold findings at finds
  cases matcher : session.store.config.excludeMatcher with
  | error failure => simp [matcher, Except.map] at finds
  | ok exclude => exact ⟨exclude, rfl, by simpa [matcher, Except.map] using finds⟩

theorem nodup_of_findings (finds : findings responder session version calls = .ok found) :
    (found.packages.map Package.importPath).Nodup := by
  obtain ⟨exclude, -, rfl⟩ := exists_of_findings finds
  exact Discovery.nodup_importPath_ofAnswers exclude _

private theorem complete_iff (listed : List Answer) :
    Discovery.failures listed = 0 ↔ ∀ answer ∈ listed, ∃ output, answer = .ok output := by
  rw [Discovery.failures, List.countP_eq_zero]
  refine forall₂_congr fun answer _ => ?_
  cases answer <;> simp

theorem isComplete_iff (finds : findings responder session version calls = .ok found) :
    found.discovery.isComplete = true ↔ found.Complete := by
  obtain ⟨exclude, -, rfl⟩ := exists_of_findings finds
  rw [Discovery.isComplete, beq_iff_eq]
  exact complete_iff _

/-- What is resolved does not depend on what a session serves. -/
theorem resolvedAfter_congr {other : Session}
    (toolchain : other.store.toolchain = session.store.toolchain) (packages : List Package)
    (calls : List Request) :
    resolvedAfter responder other version packages calls =
      resolvedAfter responder session version packages calls := by
  rw [resolvedAfter, resolvedAfter, toolchain,
    (Resolution.asksOnly_resolve _ _ _).run_eq responder other session]

/-- Nor does what is found out. -/
theorem findings_congr {other : Session} (config : other.store.config = session.store.config)
    (toolchain : other.store.toolchain = session.store.toolchain) :
    findings responder other version calls = findings responder session version calls := by
  simp only [findings, findingsExcluding, config, toolchain, resolvedAfter_congr toolchain]

@[simp] theorem findings_knowing {known : String} :
    findings responder (knowing known session) version calls =
      findings responder session version calls :=
  findings_congr rfl rfl

@[simp] theorem findings_begun :
    findings responder (begun session) version calls =
      findings responder session version calls :=
  findings_congr rfl rfl

/-! ## Successful refreshes -/

section

variable {now ended : Running Session} {α : Type} {value : α} {stats : RefreshStats}

private theorem run_discoverPackages (now : Running Session) :
    discover.run.run responder now =
      (Discovery.discover now.state.store.toolchain now.state.store.config).run responder now := by
  rw [discover, run_lift_bind]
  rfl

theorem run_extractPackages (packages : List Package) (now : Running Session) :
    let asked := answerAll responder now.calls
      (packages.map (documentationRequest now.state.store.toolchain))
    (extractAll packages).run responder now =
      (gather packages (inOrder asked.1), { now with calls := asked.2 }) := by
  rw [extractAll, bind_eq, Job.run_bind]
  exact Extraction.run_extractAll responder _ _ packages now

theorem run_resolvePackages (packages : List Package) (calls : List Request)
    (known : session.store.toolchainVersion = some version) :
    (resolve (pathsOf packages)).run responder ⟨session, calls⟩ =
      ((resolvedAfter responder session version packages calls).1,
        ⟨session, (resolvedAfter responder session version packages calls).2⟩) := by
  rw [resolve, bind_eq, Job.run_bind, store, Job.run, Job.run, known]
  exact (Resolution.asksOnly_resolve _ _ _).run_eq responder session session calls

/-- A refresh that discovers packages and resolves their versions goes on from its findings. -/
theorem ok_of_findings {next : Discovery → Versions → Operation α}
    (known : now.state.store.toolchainVersion = some version)
    (succeeds : (do
      let discovery ← discover
      let versions ← resolve (pathsOf discovery.packages)
      next discovery versions).run.run responder now = (.ok value, ended)) :
    ∃ found, findings responder now.state version now.calls = .ok found ∧
      (next found.discovery found.versions).run.run responder
        { now with calls := found.calls } = (.ok value, ended) := by
  obtain ⟨discovery, between, discovers, rest⟩ := ok_of_bind succeeds
  rw [run_discoverPackages, Discovery.run_discover] at discovers
  unfold findings
  cases matcher : now.state.store.config.excludeMatcher with
  | error failure => simp [matcher] at discovers
  | ok exclude =>
      simp only [matcher, Prod.mk.injEq, Except.ok.injEq] at discovers
      obtain ⟨rfl, rfl⟩ := discovers
      rw [run_lift_bind, run_resolvePackages _ _ known] at rest
      exact ⟨_, rfl, by simpa only [findingsExcluding] using rest⟩

theorem exists_installAndPersist (responder : Responder) (index : Index) (now : Running Session) :
    ∃ state lastSaved, (installAndPersist index).run responder now = ((), { now with state }) ∧
      state.store = { now.state.store.install index with lastSaved } := by
  obtain ⟨lastSaved, saved⟩ := (now.state.mapStore fun store => store.install index).save_store
  exact ⟨_, lastSaved, run_installAndPersist responder index now, saved⟩

/-- A sync that succeeds has replaced what is changed and removed what is gone, if anything is. -/
theorem ok_of_syncIndex (known : now.state.store.toolchainVersion = some version)
    (succeeds : syncIndex.run.run responder now = (.ok stats, ended)) :
    let current := now.state.store.index
    let toolchain := now.state.store.toolchain
    ∃ found, findings responder now.state version now.calls = .ok found ∧
      ended.state.store.index = found.synced responder toolchain current ∧
      ended.calls = found.syncCalls responder toolchain current ∧
      stats = found.counters responder toolchain (isChanged current found.versions)
        ((found.removed current).foldl removePackage current) (found.removed current).length := by
  intro current toolchain
  rw [syncIndex, run_lift_bind] at succeeds
  obtain ⟨found, finds, rest⟩ := ok_of_findings known succeeds
  refine ⟨found, finds, ?_⟩
  rw [Findings.synced, Findings.removed]
  simp only [run_ite, store, Job.run] at rest
  have gone : ∀ {removed : List String} {changed : List Package},
      (removed.isEmpty && changed.isEmpty) = true → removed = [] ∧ changed = [] := by
    simp
  generalize (if found.discovery.isComplete = true then
    vanished current (pathsOf found.packages) else []) = removed at rest ⊢
  split at rest
  case isTrue nothing =>
    obtain ⟨rfl, unchanged⟩ := gone nothing
    cases rest
    refine ⟨(Findings.replaced_of_unchosen unchanged current).symm,
      (Findings.callsAfter_of_unchosen unchanged).symm, ?_⟩
    rw [Findings.counters, Findings.extracted_of_unchosen unchanged]
    rfl
  case isFalse =>
    rw [run_lift_bind, run_extractPackages, run_lift_bind] at rest
    obtain ⟨state, lastSaved, ran, saved⟩ := exists_installAndPersist responder _ _
    rw [ran] at rest
    cases rest
    rw [saved]
    exact ⟨apply_fst _ _ _ _, rfl, rfl⟩

/-- A rebuild that succeeds has replaced all that is resolved in an empty index, or in one of what
is not discovered if a listing failed. -/
theorem ok_of_rebuildIndex
    (succeeds : rebuildIndex.run.run responder now = (.ok stats, ended)) :
    let toolchain := now.state.store.toolchain
    ∃ version, toolchain.versionOfAnswer (responder now.calls toolchain.versionRequest) =
        .ok version ∧
      ∃ found, findings responder now.state version (toolchain.versionRequest :: now.calls) =
          .ok found ∧
        ended.state.store.index = found.rebuilt responder toolchain now.state.store.index ∧
        ended.calls = found.rebuildCalls responder toolchain ∧
        stats = found.counters responder toolchain (isResolved found.versions)
          (found.rebuildStart now.state.store.index) 0 := by
  intro toolchain
  rw [rebuildIndex] at succeeds
  obtain ⟨version, detects, rest⟩ := ok_of_detectToolchain succeeds
  refine ⟨version, detects, ?_⟩
  obtain ⟨found, finds, rest⟩ := ok_of_findings rfl rest
  simp only [findings_knowing] at finds
  refine ⟨found, finds, ?_⟩
  rw [run_lift_bind, run_extractPackages, run_lift_bind, run_lift_bind] at rest
  obtain ⟨state, lastSaved, ran, saved⟩ := exists_installAndPersist responder _ _
  rw [ran] at rest
  cases rest
  rw [saved]
  exact ⟨apply_fst _ _ _ _, rfl, rfl⟩

end

end

end Refresh

end SymbolCache
