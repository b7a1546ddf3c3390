import SymbolCache.Proofs.Job.Interleaving
import SymbolCache.Proofs.Refresh.SyncAgreement
import SymbolCache.Proofs.Store.Persistence

/-!
# The stamps of snapshots

A snapshot is stamped with the version of the toolchain that is known when it is saved. A refresh
makes a version known as soon as it has found it out, and serves its index much later or never, so
that the index of one version can be saved under another one.
-/

set_option autoImplicit false

namespace SymbolCache

open Job hiding run_bind
open Session (Behaves)

namespace Session

variable {session saved : Session} {version : String}

/-- Where the snapshot lies does not change when it is saved. -/
theorem cachePath_of_save (saves : session.save = (.ok (), saved)) :
    saved.store.cachePath = session.store.cachePath := by
  obtain ⟨lastSaved, same⟩ := session.save_store
  rw [saves] at same
  rw [same]

/-- What was saved is loaded under the version that was known then, and no other. -/
theorem loadWith_saved_iff (sound : session.Sound) (saves : session.save = (.ok (), saved)) :
    ((saved.loadWith version).1 = true ∧
        (saved.loadWith version).2.store.index = session.store.index) ↔
      session.store.toolchainVersion = some version := by
  constructor
  · rintro ⟨loaded, -⟩
    obtain ⟨stamp, known, text⟩ := save_ok saves
    unfold loadWith at loaded
    cases accepted : saved.readSnapshot version with
    | error failure => simp [accepted] at loaded
    | ok snapshot =>
        rw [readSnapshot, cachePath_of_save saves, text] at accepted
        simp only [Except.mapError, bind, Except.bind] at accepted
        rw [known, Snapshot.toolchain_of_read accepted]
  · intro known
    rw [loadWith_of_save sound saves known rfl (cachePath_of_save saves)]
    exact ⟨rfl, rfl⟩

/-- What the stamp of an index depends on: how often another one was served, the known version, and
whether there is anything in the index. -/
def signs (session : Session) : Nat × Option String × Bool :=
  (session.store.generation, session.store.toolchainVersion, session.store.index.isEmpty)

end Session

namespace Operation

/-! ## Refreshes that run alone -/

section

variable {generation : Nat} {known : Option String}

private theorem leads_store :
    Leads (fun session => session.signs = (generation, known, false)) store fun store session =>
      (store.toolchainVersion = known ∧ store.index.isEmpty = false) ∧
        session.signs = (generation, known, false) :=
  fun _ _ holds =>
    ⟨⟨congrArg (fun signs => signs.2.1) holds, congrArg (fun signs => signs.2.2) holds⟩, holds⟩

private theorem leads_detectToolchain :
    Leads (fun session => session.signs = (generation, known, false)) detectToolchain.run
      (Outcome (fun version session => session.signs = (generation, some version, false))
        fun session => session.signs.1 = generation) := by
  refine leads_operation_bind (leads_lift (leads_of_keeps keeps_store)) fun store => ?_
  refine leads_operation_bind (leads_mk store.toolchain.keeps_detectVersion ?_) fun version => ?_
  · exact fun session holds => congrArg Prod.fst holds
  · refine leads_operation_bind (leads_lift (leads_modify ?_)) fun _ =>
      leads_pure fun _ holds => holds
    intro session holds
    obtain ⟨count, -, filled⟩ : session.store.generation = generation ∧
        session.store.toolchainVersion = known ∧ session.store.index.isEmpty = false := by
      simpa [Session.signs] using holds
    simp [Session.mapStore, Session.signs, count, filled]

private theorem leads_discover :
    Leads (fun session => session.signs = (generation, known, false)) discover.run
      (Outcome (fun _ session => session.signs = (generation, known, false))
        fun session => session.signs.1 = generation) := by
  refine leads_operation_bind (leads_lift (leads_of_keeps keeps_store)) fun store => ?_
  exact leads_mk (Discovery.keeps_discover _ _) fun session holds => congrArg Prod.fst holds

/-- An index that is installed is served, whether or not it can be saved. -/
theorem leads_installAndPersist (index : Index) :
    Leads (fun session => session.signs = (generation, known, false)) (installAndPersist index)
      fun _ session => session.signs.1 = generation + 1 := by
  have serves : Leads (fun session => session.signs = (generation, known, false))
      (changeStore fun store => store.install index)
      fun _ session => session.signs.1 = generation + 1 :=
    leads_modify fun session holds => congrArg (fun signs => signs.1 + 1) holds
  have saves : Leads (fun session => session.signs.1 = generation + 1) save.run
      fun _ session => session.signs.1 = generation + 1 := by
    have keeps : save.run.Keeps .calls (fun session => session.signs.1 = generation + 1)
        (fun _ _ => True) Any :=
      keeps_save (fun _ _ _ holds => ⟨trivial, holds⟩) fun _ _ holds => ⟨trivial, holds⟩
    exact leads_of_keeps keeps
  exact leads_bind serves fun _ => leads_bind saves fun _ => leads_done fun _ holds => holds

private theorem leads_rebuildIndex :
    Leads (fun session => session.signs = (generation, known, false)) rebuildIndex.run
      (Outcome (fun _ session => session.signs.1 = generation + 1)
        fun session => session.signs.1 = generation) := by
  refine leads_operation_bind leads_detectToolchain fun version => ?_
  refine leads_operation_bind leads_discover fun discovery => ?_
  refine leads_operation_bind (leads_lift (leads_of_keeps (keeps_resolve _))) fun versions => ?_
  refine leads_operation_bind (leads_lift (leads_of_keeps (keeps_extractAll _))) fun _ => ?_
  refine leads_operation_bind (leads_lift (leads_of_keeps keeps_store)) fun store => ?_
  exact leads_operation_bind (leads_lift (leads_installAndPersist _)) fun _ =>
    leads_pure fun _ holds => holds

/-- A sync without a rebuild serves another index, or leaves it and the known version alone. -/
theorem leads_syncIndex :
    Leads (fun session => session.signs = (generation, known, false)) syncIndex.run
      (Outcome
        (fun _ session => session.signs.1 = generation + 1 ∨ session.signs.2.1 = known)
        fun session => session.signs.1 = generation) := by
  refine leads_operation_bind (leads_lift (leads_of_keeps keeps_store)) fun store => ?_
  refine leads_operation_bind leads_discover fun discovery => ?_
  refine leads_operation_bind (leads_lift (leads_of_keeps (keeps_resolve _))) fun versions => ?_
  refine leads_ite _ (fun _ => leads_pure fun session holds => ?_) fun _ => ?_
  · exact .inr (congrArg (fun signs => signs.2.1) holds)
  · refine leads_operation_bind (leads_lift (leads_of_keeps (keeps_extractAll _))) fun _ => ?_
    exact leads_operation_bind (leads_lift (leads_installAndPersist _)) fun _ =>
      leads_pure fun _ holds => .inl holds

private theorem leads_syncOrRebuild :
    Leads (fun session => session.signs = (generation, known, false)) syncOrRebuild.run
      (Outcome
        (fun _ session => session.signs.1 = generation + 1 ∨ session.signs.2.1 = known)
        fun session => session.signs.1 = generation) := by
  refine leads_operation_bind (leads_lift leads_store) fun prior => leads_and fun prior_facts => ?_
  refine leads_operation_bind leads_detectToolchain fun version => ?_
  refine leads_operation_bind (leads_lift leads_store) fun store => leads_and fun facts => ?_
  refine leads_ite _ (fun _ => ?_) fun same => ?_
  · exact leads_weaken leads_rebuildIndex fun _ _ => .inl
  · have unchanged : known = some version := by
      simpa [prior_facts.1, facts.2] using same
    rw [unchanged]
    exact leads_syncIndex

/-- What a refresh that runs alone does to the signs of a session: it serves another index or leaves
the known version alone, and if it fails, it serves nothing. -/
def Signals (generation : Nat) (known : Option String) :
    Except Failure RefreshStats → Session → Prop :=
  Outcome (fun _ session => session.signs.1 = generation + 1 ∨ session.signs.2.1 = known)
    fun session => session.signs.1 = generation

private theorem leads_guarded {refresh : Operation RefreshStats}
    (leads : Leads (fun session => session.signs = (generation, known, false)) refresh.run
      (Signals generation known)) :
    Leads (fun session => session.signs = (generation, known, false)) (guarded refresh).run
      (Signals generation known) := by
  intro responder now holds
  rw [run_guarded]
  split
  case isTrue => exact congrArg Prod.fst holds
  case isFalse =>
    have outcome := leads responder ⟨Refresh.begun now.state, now.calls⟩ holds
    generalize refresh.run.run responder ⟨Refresh.begun now.state, now.calls⟩ = result
      at outcome ⊢
    obtain ⟨failure | stats, ended⟩ := result
    · exact outcome
    · exact outcome

private theorem signals_rebuild :
    Leads (fun session => session.signs = (generation, known, false)) rebuild.run
      (Signals generation known) :=
  leads_guarded (leads_weaken leads_rebuildIndex fun _ _ => .inl)

private theorem signals_sync :
    Leads (fun session => session.signs = (generation, known, false)) sync.run
      (Signals generation known) :=
  leads_guarded leads_syncOrRebuild

end

/-! ## False stamps -/

/-- A snapshot that was saved is loaded under a version as an index. -/
def LoadsAs (saved : Session) (version : String) (index : Index) : Prop :=
  (saved.loadWith version).1 = true ∧ (saved.loadWith version).2.store.index = index

theorem loadsAs_iff {session saved : Session} (sound : session.Sound)
    (saves : session.save = (.ok (), saved)) (version : String) :
    LoadsAs saved version session.store.index ↔ session.store.toolchainVersion = some version :=
  Session.loadWith_saved_iff sound saves

private theorem behaves_refresh {refresh : Operation RefreshStats}
    (member : refresh ∈ [rebuild, sync]) :
    Behaves .calls (IfOk Any) refresh.run := by
  simp only [List.mem_cons, List.not_mem_nil, or_false] at member
  rcases member with rfl | rfl
  · exact behaves_guarded behaves_rebuildIndex
  · exact behaves_guarded behaves_syncOrRebuild

private theorem signals_refresh {refresh : Operation RefreshStats}
    (member : refresh ∈ [rebuild, sync])
    {generation : Nat} {known : Option String} :
    Leads (fun session => session.signs = (generation, known, false)) refresh.run
      (Signals generation known) := by
  simp only [List.mem_cons, List.not_mem_nil, or_false] at member
  rcases member with rfl | rfl
  · exact signals_rebuild
  · exact signals_sync

/-- A refresh that runs alone and makes another version known fails exactly if it serves nothing. -/
theorem isOk_iff_of_signals {first second : String} (different : first ≠ second) {generation : Nat}
    {result : Except Failure RefreshStats} {session : Session}
    (signals : Signals generation (some first) result session)
    (known : session.store.toolchainVersion = some second) :
    result.isOk = false ↔ session.store.generation = generation := by
  cases result with
  | error failure =>
      have count : session.store.generation = generation := signals
      exact ⟨fun _ => count, fun _ => rfl⟩
  | ok stats =>
      have served : session.store.generation = generation + 1 := by
        rcases signals with served | same
        · exact served
        · exact absurd (Option.some.inj (same.symm.trans known)) different
      constructor
      · intro failed
        cases failed
      · intro count
        omega

/-- When the stamp of a snapshot is false. Let a session be reached in which one version of the
toolchain is known, and let the run go on. Whatever index is served then, a save writes it so that
it is loaded under another version exactly if that version has become known, and the index is the
old one as long as no other was served. A rebuild or a sync that runs alone and makes another
version known serves no other index exactly if it fails, and the old index is then saved under the
new version. -/
theorem stamp_false_iff (grain : Grain) (responder : Responder) (actions : List Action)
    (schedule later : List Nat) (session : Session) (new : session.store.index = .empty)
    {before after : Session}
    (reached : Action.reached grain responder actions schedule session = before)
    (goesOn : Action.reached grain responder actions (schedule ++ later) session = after)
    {first second : String} (different : first ≠ second)
    (known : before.store.toolchainVersion = some first) :
    (∀ saved, after.save = (.ok (), saved) →
      (LoadsAs saved second after.store.index ↔ after.store.toolchainVersion = some second)) ∧
    (after.store.generation = before.store.generation →
      after.store.index = before.store.index) ∧
    (before.store.index.isEmpty = false →
      ∀ refresh ∈ [rebuild, sync], ∀ (responder' : Responder) (calls : List Request),
        ∀ result ended, refresh.run.run responder' ⟨before, calls⟩ = (result, ended) →
          ended.state.store.toolchainVersion = some second →
            (result.isOk = false ↔ ended.state.store.generation = before.store.generation) ∧
              (result.isOk = false → ∀ saved, ended.state.save = (.ok (), saved) →
                LoadsAs saved second before.store.index)) := by
  have sound : before.Sound := reached ▸ Action.sound_reached grain responder actions schedule new
  refine ⟨fun saved saves => ?_, fun count => ?_, ?_⟩
  · have soundAfter : after.Sound := goesOn ▸ Action.sound_reached grain responder actions _ new
    exact loadsAs_iff soundAfter saves second
  · have follows : before.Follows after :=
      reached ▸ goesOn ▸ Action.follows_reached grain responder actions schedule later new
    exact follows.index_of_generation count
  · intro filled refresh member responder' calls result ended ran knows
    have signs : before.signs = (before.store.generation, some first, false) := by
      rw [Session.signs, known, filled]
    have signals := signals_refresh member responder' ⟨before, calls⟩ signs
    obtain ⟨⟨-, soundEnded⟩, changed⟩ :=
      (behaves_refresh member before sound).run responder' ⟨before, calls⟩ sound
    rw [ran] at signals soundEnded changed
    have failed := isOk_iff_of_signals different signals knows
    refine ⟨failed, fun fails saved saves => ?_⟩
    have follows := Session.Follows.of_reflTransGen changed
    rw [← follows.index_of_generation (failed.mp fails)]
    exact (loadsAs_iff soundEnded saves second).mpr knows

/-! ### A failed rebuild -/

def newerAnswer (_ : List Request) (request : Request) : Answer :=
  if request.invocation.arguments = ["env", "GOVERSION"] then .ok "go1.23\n"
  else .error .toolchainUnknown

/-- A store with a malformed exclusion pattern that serves an index of an older toolchain. -/
def olderSession : Session where
  store :=
    { Store.create "/work" { indexing := { exclude := ["["] } } with
      toolchainVersion := some "1.22"
      index := Refresh.exampleIndex }
  disk := {}
  now := 0

def emptySession : Session :=
  { olderSession with store := { olderSession.store with index := .empty } }

theorem stamp_false_iff_example :
    (Action.reached .calls newerAnswer [.addSymbol unusualSymbol, .rebuild] [0]
        emptySession).store.toolchainVersion = some "1.22" ∧
      ∃ saved, (Action.reached .calls newerAnswer [.addSymbol unusualSymbol, .rebuild]
            ([0] ++ [1, 1]) emptySession).save = (.ok (), saved) ∧
        LoadsAs saved "1.23" (Action.reached .calls newerAnswer
          [.addSymbol unusualSymbol, .rebuild] [0] emptySession).store.index := by
  have before : (Action.reached .calls newerAnswer [.addSymbol unusualSymbol, .rebuild] [0]
      emptySession).store.toolchainVersion = some "1.22" := by decide +kernel
  obtain ⟨stamps, kept, -⟩ := stamp_false_iff .calls newerAnswer
    [.addSymbol unusualSymbol, .rebuild] [0] [1, 1] emptySession rfl rfl rfl
    (show "1.22" ≠ "1.23" by decide) before
  have count : (Action.reached .calls newerAnswer [.addSymbol unusualSymbol, .rebuild]
      ([0] ++ [1, 1]) emptySession).store.generation = (Action.reached .calls newerAnswer
        [.addSymbol unusualSymbol, .rebuild] [0] emptySession).store.generation := by
    decide +kernel
  have after : (Action.reached .calls newerAnswer [.addSymbol unusualSymbol, .rebuild]
      ([0] ++ [1, 1]) emptySession).store.toolchainVersion = some "1.23" := by decide +kernel
  have done : (Action.reached .calls newerAnswer [.addSymbol unusualSymbol, .rebuild]
      ([0] ++ [1, 1]) emptySession).save.1 = .ok () := by decide +kernel
  generalize Action.reached .calls newerAnswer [.addSymbol unusualSymbol, .rebuild] ([0] ++ [1, 1])
    emptySession = ended at *
  have saves : ended.save = (.ok (), ended.save.2) := by rw [← done]
  refine ⟨before, _, saves, ?_⟩
  rw [← kept count]
  exact (stamps _ saves).mpr after

/-- A rebuild that fails leaves the older index to be saved as one of the newer toolchain. -/
theorem older_index_under_newer_stamp :
    (rebuild.run.run newerAnswer ⟨olderSession, []⟩).1.isOk = false ∧
      ∃ saved, (rebuild.run.run newerAnswer ⟨olderSession, []⟩).2.state.save = (.ok (), saved) ∧
        LoadsAs saved "1.23" olderSession.store.index := by
  have sound : olderSession.Sound := Refresh.reachable_exampleIndex.consistent
  have failed : (rebuild.run.run newerAnswer ⟨olderSession, []⟩).1.isOk = false := by
    decide +kernel
  have count : (rebuild.run.run newerAnswer ⟨olderSession, []⟩).2.state.store.generation =
      olderSession.store.generation := by decide +kernel
  have known : (rebuild.run.run newerAnswer ⟨olderSession, []⟩).2.state.store.toolchainVersion =
      some "1.23" := by decide +kernel
  have done : (rebuild.run.run newerAnswer ⟨olderSession, []⟩).2.state.save.1 = .ok () := by
    decide +kernel
  have behaves : Behaves .calls (IfOk Any) rebuild.run := behaves_guarded behaves_rebuildIndex
  obtain ⟨⟨-, soundEnded⟩, changed⟩ :=
    (behaves olderSession sound).run newerAnswer ⟨olderSession, []⟩ sound
  -- From here on only these facts matter, and the run is not to be computed again.
  generalize rebuild.run.run newerAnswer ⟨olderSession, []⟩ = ended at *
  have same := (Session.Follows.of_reflTransGen changed).index_of_generation count
  have saves : ended.2.state.save = (.ok (), ended.2.state.save.2) := by rw [← done]
  refine ⟨failed, _, saves, ?_⟩
  rw [← same]
  exact (loadsAs_iff soundEnded saves "1.23").mpr known

end Operation

end SymbolCache
