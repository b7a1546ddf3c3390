import SymbolCache.Proofs.Refresh.Counters
import SymbolCache.Proofs.Store.Loading

/-!
# What operations do from call to call

Until its last call, a refresh changes nothing but the version of the toolchain that is known. After
it, the refresh either serves and saves an index or leaves everything as it found it. If files take
no time, that is one stretch, and so it is for a load; what is between the steps of a save is told
by phases.

These lemmas give the stretches of each operation. Whatever else is known of the suspensions of a
refresh, between its start and its end, follows from `proceeds_guarded`.
-/

set_option autoImplicit false

namespace SymbolCache

open Job hiding run_bind

namespace Session

/-- Nothing has changed but that a version of the toolchain may have become known. -/
def Notes (before after : Session) : Prop :=
  ∃ toolchainVersion, after = before.mapStore fun store => { store with toolchainVersion }

theorem Notes.refl (session : Session) : session.Notes session :=
  ⟨session.store.toolchainVersion, rfl⟩

theorem Notes.trans {first second third : Session} (left : first.Notes second)
    (right : second.Notes third) : first.Notes third := by
  obtain ⟨_, rfl⟩ := left
  obtain ⟨version, rfl⟩ := right
  exact ⟨version, rfl⟩

def Installs (before after : Session) : Prop :=
  ∃ noted index, before.Notes noted ∧
    after = (noted.mapStore fun store => store.install index).save.2

theorem Installs.of_notes {first second third : Session} (left : first.Notes second)
    (right : second.Installs third) : first.Installs third := by
  obtain ⟨noted, index, notes, saved⟩ := right
  exact ⟨noted, index, left.trans notes, saved⟩

def Refreshes (before after : Session) : Prop :=
  before.Notes after ∨ before.Installs after

def Restores (before after : Session) : Prop :=
  ∃ noted snapshot index, before.Notes noted ∧
    noted.disk.Holds noted.store.cachePath snapshot ∧ snapshot.toIndex = .ok index ∧
      after = noted.serve index snapshot.timestamp

end Session

open Refresh (isResolved isChanged isResolved_of_isChanged not_idle_apply begun)
open Session (Notes Installs Refreshes Restores)

namespace Operation

variable {φ : Type} {grain : Grain}

def Ends {α : Type} (done : φ → α → Session → Session → Prop)
    (failed : φ → Session → Session → Prop) (phase : φ) :
    Except Failure α → Session → Session → Prop
  | .ok value => done phase value
  | .error _ => failed phase

section

variable {α β : Type} {pause : φ → φ → Session → Session → Prop}
  {before failed : φ → Session → Session → Prop} {after : φ → α → Session → Session → Prop}

theorem stretches_andThen {between : φ → α → Session → Session → Prop}
    {after : φ → β → Session → Session → Prop} {operation : Operation α} {next : α → Operation β}
    (first : operation.run.Stretches grain pause before (Ends between failed))
    (later : ∀ value,
      (next value).run.Stretches grain pause (fun phase => between phase value)
        (Ends after failed)) :
    (operation >>= next).run.Stretches grain pause before (Ends after failed) := by
  rw [run_bind]
  refine stretches_bind first fun result => ?_
  cases result with
  | error failure => exact stretches_done fun _ _ _ holds => holds
  | ok value => exact later value

theorem stretches_lift {job : Job Session α} (stretches : job.Stretches grain pause before after) :
    (liftM job : Operation α).run.Stretches grain pause before (Ends after failed) := by
  rw [run_lift]
  exact stretches_bind stretches fun _ => stretches_done fun _ _ _ holds => holds

theorem stretches_pure {value : α}
    (holds : ∀ phase origin state, before phase origin state → after phase value origin state) :
    (pure value : Operation α).run.Stretches grain pause before (Ends after failed) :=
  stretches_done holds

theorem stretches_throw {failure : Failure}
    (holds : ∀ phase origin state, before phase origin state → failed phase origin state) :
    (throw failure : Operation α).run.Stretches grain pause before (Ends after failed) :=
  stretches_done holds

theorem stretches_weaken {after' : φ → α → Session → Session → Prop} {operation : Operation α}
    (stretches : operation.run.Stretches grain pause before (Ends after failed))
    (weaker : ∀ phase value origin state, after phase value origin state →
      after' phase value origin state) :
    operation.run.Stretches grain pause before (Ends after' failed) := by
  refine stretches.weaken fun phase result origin state ends => ?_
  cases result with
  | error failure => exact ends
  | ok value => exact weaker phase value origin state ends

private theorem stretches_ite (question : Prop) [Decidable question] {first second : Operation α}
    (one : question → first.run.Stretches grain pause before (Ends after failed))
    (other : ¬ question → second.run.Stretches grain pause before (Ends after failed)) :
    (if question then first else second : Operation α).run.Stretches grain pause before
      (Ends after failed) := by
  split
  case isTrue holds => exact one holds
  case isFalse fails => exact other fails

end

/-! ## Asking -/

/-- What an operation has done in a stretch in which it was not more than told the version of the
toolchain, before which it may be suspended in a phase of its own. -/
structure Waiting (pause : φ → φ → Session → Session → Prop)
    (noted : φ → Session → Session → Prop) : Prop where
  notes : ∀ phase {origin state next}, noted phase origin state → Notes state next →
    noted phase origin next
  pauses : ∀ phase origin state, noted phase origin state →
    ∃ later, pause phase later origin state ∧ ∀ resumed, noted later resumed resumed

private theorem waiting_notes : Waiting (Pausing Notes) (Always Notes) where
  notes _ _ _ _ := Notes.trans
  pauses _ _ _ notes := ⟨(), notes, Notes.refl⟩

section

variable {pause : φ → φ → Session → Session → Prop} {noted : φ → Session → Session → Prop}
  {α : Type}

theorem stretches_store {before : φ → Session → Session → Prop} :
    store.Stretches grain pause before fun phase _ => before phase :=
  stretches_look fun _ _ _ holds => holds

private theorem keeps_notes (version : String) :
    (changeStore fun store => { store with toolchainVersion := some version }).Keeps grain
      (fun _ => True) Notes Any :=
  keeps_modify fun _ _ => ⟨⟨some version, rfl⟩, trivial⟩

/-- Packages that have changed are extracted, one of them at least. -/
theorem gives_extractAll_changed {current : Index} {versions : Versions}
    {packages : List Package} (some : packages.filter (isChanged current versions) ≠ []) :
    (extractAll (packages.filter (isChanged current versions))).Gives fun extracted =>
      ∃ entry ∈ extracted, isResolved versions entry.1 = true := by
  intro session
  refine (Extraction.gives_extractAll _ _ some).mono ?_
  rintro extracted ⟨entry, member, changed⟩
  exact ⟨entry, member, isResolved_of_isChanged (List.mem_filter.mp changed).2⟩

variable (waiting : Waiting pause noted)

include waiting

/-- A job that only takes note of versions does so in each stretch. -/
theorem stretches_asking {job : Job Session α}
    (keeps : job.Keeps grain (fun _ => True) Notes Any) :
    job.Stretches grain pause noted fun phase _ => noted phase :=
  (stretches_of_keeps keeps waiting.notes waiting.pauses).weaken fun _ _ _ _ holds => holds.2

theorem stretches_askingIfOk {operation : Operation α}
    (keeps : operation.run.Keeps grain (fun _ => True) Notes (IfOk Any)) :
    operation.run.Stretches grain pause noted (Ends (fun phase _ => noted phase) noted) := by
  refine (stretches_asking waiting (keeps.mono fun _ _ => trivial)).weaken ?_
  rintro phase (failure | value) origin state holds
  · exact holds
  · exact holds

private theorem stretches_detectToolchain :
    detectToolchain.run.Stretches grain pause noted (Ends (fun phase _ => noted phase) noted) :=
  stretches_askingIfOk waiting (keeps_detectToolchain keeps_notes)

theorem stretches_ensureToolchain :
    ensureToolchain.run.Stretches grain pause noted (Ends (fun phase _ => noted phase) noted) :=
  stretches_askingIfOk waiting (keeps_ensureToolchain keeps_notes)

private theorem stretches_discover :
    discover.run.Stretches grain pause noted (Ends (fun phase _ => noted phase) noted) :=
  stretches_askingIfOk waiting keeps_discover

theorem stretches_resolve (paths : Std.ExtTreeSet String) :
    (resolve paths).Stretches grain pause noted fun phase _ => noted phase :=
  stretches_asking waiting (keeps_resolve paths)

theorem stretches_extractAll (packages : List Package) :
    (extractAll packages).Stretches grain pause noted fun phase _ => noted phase :=
  stretches_asking waiting (keeps_extractAll packages)

/-! ## Refreshes -/

variable {done : φ → Session → Session → Prop}
  (installs : ∀ index : Index,
    (installAndPersist index).Stretches grain pause noted fun phase _ => done phase)

include installs

private theorem stretches_rebuildIndex :
    rebuildIndex.run.Stretches grain pause noted (Ends (fun phase _ => done phase) noted) := by
  refine stretches_andThen (stretches_detectToolchain waiting) fun _ => ?_
  refine stretches_andThen (stretches_discover waiting) fun discovery => ?_
  refine stretches_andThen (stretches_lift (stretches_resolve waiting _)) fun versions => ?_
  refine stretches_andThen (stretches_lift (stretches_extractAll waiting _)) fun extracted => ?_
  refine stretches_andThen (stretches_lift stretches_store) fun store => ?_
  exact stretches_andThen (stretches_lift (installs _)) fun _ =>
    stretches_pure fun _ _ _ holds => holds

private theorem stretches_refreshIndex (importPaths : List String) :
    (refreshIndex importPaths).run.Stretches grain pause noted
      (Ends (fun phase _ => done phase) noted) := by
  refine stretches_andThen (stretches_ensureToolchain waiting) fun _ => ?_
  refine stretches_andThen (stretches_lift (stretches_asking waiting (keeps_describe _)))
    fun packages => ?_
  refine stretches_andThen (stretches_lift (stretches_resolve waiting _)) fun versions => ?_
  refine stretches_andThen (stretches_lift (stretches_extractAll waiting _)) fun extracted => ?_
  refine stretches_andThen (stretches_lift stretches_store) fun store => ?_
  exact stretches_andThen (stretches_lift (installs _)) fun _ =>
    stretches_pure fun _ _ _ holds => holds

/-- A sync that counts nothing has served nothing. -/
theorem stretches_syncIndex :
    syncIndex.run.Stretches grain pause noted (Ends (fun phase stats origin state =>
      noted phase origin state ∨ ¬ stats.Idle ∧ done phase origin state) noted) := by
  refine stretches_andThen (stretches_lift stretches_store) fun store => ?_
  refine stretches_andThen (stretches_discover waiting) fun discovery => ?_
  refine stretches_andThen (stretches_lift (stretches_resolve waiting _)) fun versions => ?_
  refine stretches_ite _ (fun _ => stretches_pure fun _ _ _ notes => .inl notes) fun found => ?_
  rw [Bool.and_eq_true, List.isEmpty_iff, List.isEmpty_iff, not_and_or] at found
  rcases found with gone | changed
  case inl =>
    refine stretches_andThen (stretches_lift (stretches_extractAll waiting _))
      fun extracted => ?_
    refine stretches_andThen (stretches_lift (installs _)) fun _ => ?_
    refine stretches_pure fun _ _ _ holds => .inr ⟨not_idle_apply (.inl ?_), holds⟩
    exact mt List.length_eq_zero_iff.mp gone
  case inr =>
    have extracts :
        (extractAll (discovery.packages.filter (isChanged store.index versions))).Stretches
          grain pause noted fun phase _ => noted phase := stretches_extractAll waiting _
    have extracts := extracts.and (gives_extractAll_changed changed)
    refine stretches_andThen (stretches_lift extracts) fun extracted => ?_
    refine stretches_and fun resolved => ?_
    refine stretches_andThen (stretches_lift (installs _)) fun _ => ?_
    exact stretches_pure fun _ _ _ holds => .inr ⟨not_idle_apply (.inr resolved), holds⟩

private theorem stretches_syncOrRebuild :
    syncOrRebuild.run.Stretches grain pause noted
      (Ends (fun phase _ origin state => noted phase origin state ∨ done phase origin state)
        noted) := by
  refine stretches_andThen (stretches_lift stretches_store) fun before => ?_
  refine stretches_andThen (stretches_detectToolchain waiting) fun version => ?_
  refine stretches_andThen (stretches_lift stretches_store) fun store => ?_
  refine stretches_ite _ (fun _ => ?_) fun _ => ?_
  case refine_1 =>
    exact stretches_weaken (stretches_rebuildIndex waiting installs) fun _ _ _ _ => .inr
  case refine_2 =>
    exact stretches_weaken (stretches_syncIndex waiting installs) fun _ _ _ _ =>
      .imp_right And.right

end

/-! ## One refresh at a time -/

def flagged (session : Session) : Session :=
  session.mapStore fun store => { store with refreshing := true }

section

variable {α : Type} {next : Unit → Operation α} {pause : φ → φ → Session → Session → Prop}
  {final : φ → Except Failure α → Session → Session → Prop} {phase : φ} {origin session : Session}

theorem resume_beginRefresh (responder : Responder) (now : Running Session) :
    (beginRefresh >>= next).run.resume grain responder now =
      if now.state.store.refreshing then (.done (.error .refreshInProgress), now)
      else (next ()).run.resume grain responder { now with state := flagged now.state } := by
  simp only [beginRefresh, run_bind, run_mk, Job.update]
  change Job.resume grain responder (andThen next _) _ = _
  split
  case isTrue => rfl
  case isFalse => rfl

private theorem proceeds_beginRefresh
    (busy : session.store.refreshing = true →
      final phase (.error .refreshInProgress) origin session)
    (idle : session.store.refreshing = false →
      (next ()).run.Proceeds grain pause final phase origin (flagged session)) :
    (beginRefresh >>= next).run.Proceeds grain pause final phase origin session := by
  simp only [beginRefresh, run_bind, run_mk, Job.update]
  change Job.Proceeds grain pause final (andThen next _) _ _ _
  split
  case isTrue refreshing => exact busy refreshing
  case isFalse waits => exact idle (Bool.eq_false_iff.mpr waits)

end

/-- What a guarded refresh has done in its last stretch, by what its body has done: it is over, and
the store is ready, or as ready as when the refresh started if the body has failed. -/
def Concludes (before : Session) (done : φ → RefreshStats → Session → Session → Prop)
    (failed : φ → Session → Session → Prop) :
    φ → Except Failure RefreshStats → Session → Session → Prop :=
  Ends
    (fun phase stats origin state => ∃ counted ended, done phase counted origin ended ∧
      stats = { counted with duration := ended.now - before.now } ∧
        state = concluded .ready ended)
    fun phase origin state => ∃ ended, failed phase origin ended ∧
      state = concluded before.store.readiness ended

section

variable {pause : φ → φ → Session → Session → Prop} {failed : φ → Session → Session → Prop}
  {done : φ → RefreshStats → Session → Session → Prop} {refresh : Operation RefreshStats}
  {phase : φ} {origin session : Session}

/-- A guarded refresh that is not refused goes on as its body does, from a session in which it has
started. -/
theorem proceeds_guarded {final : φ → Except Failure RefreshStats → Session → Session → Prop}
    (busy : session.store.refreshing = true →
      final phase (.error .refreshInProgress) origin session)
    (idle : session.store.refreshing = false →
      refresh.run.Proceeds grain pause (Ends done failed) phase origin (begun session) ∧
        ∀ phase result origin state, Concludes session done failed phase result origin state →
          final phase result origin state) :
    (guarded refresh).run.Proceeds grain pause final phase origin session := by
  refine proceeds_beginRefresh busy fun waits => ?_
  obtain ⟨body, concludes⟩ := idle waits
  simp only [run_bind, run_lift, store, Operation.now]
  have attempted : (attempt refresh).run.Proceeds grain pause
      (fun phase tried origin state =>
        ∃ result, tried = .ok result ∧ Ends done failed phase result origin state)
      phase origin (begun session) :=
    body.bind fun result => stretches_done fun _ _ _ holds => ⟨result, rfl, holds⟩
  refine attempted.bind ?_
  rintro _ phase origin ended ⟨result, rfl, holds⟩
  cases result with
  | error failure => exact concludes _ _ _ _ ⟨ended, holds, rfl⟩
  | ok stats => exact concludes _ _ _ _ ⟨stats, ended, holds, rfl, rfl⟩

def merged (versions : Versions) (session : Session) : Session :=
  session.mapStore fun store =>
    { store.install (store.index.mergeVersions versions) with refreshing := false }

/-- An update of versions that is not refused goes on as the resolution does, from a session in
which it has started. -/
theorem proceeds_updateVersions {paths : Std.ExtTreeSet String}
    {done : φ → Session → Session → Prop}
    {final : φ → Except Failure Versions → Session → Session → Prop}
    (busy : session.store.refreshing = true →
      final phase (.error .refreshInProgress) origin session)
    (idle : session.store.refreshing = false →
      (resolve paths).Proceeds grain pause (fun phase _ => done phase) phase origin
          (flagged session) ∧
        ∀ phase versions origin state, done phase origin state →
          final phase (.ok versions) origin (merged versions state)) :
    (updateVersions paths).run.Proceeds grain pause final phase origin session := by
  refine proceeds_beginRefresh busy fun waits => ?_
  obtain ⟨resolution, merges⟩ := idle waits
  have resolved : (liftM (resolve paths) : Operation Versions).run.Proceeds grain pause
      (fun phase result origin state => ∃ versions, result = .ok versions ∧ done phase origin state)
      phase origin (flagged session) :=
    resolution.bind fun versions => stretches_done fun _ _ _ holds => ⟨versions, rfl, holds⟩
  rw [run_bind]
  refine resolved.bind ?_
  rintro _ phase origin state ⟨versions, rfl, holds⟩
  exact merges phase versions origin state holds

end

/-! ## Refreshes of all kinds -/

end Operation

inductive Refresh.Kind where
  | rebuild
  | sync
  | packages (importPaths : List String)

namespace Refresh.Kind

open Operation

def body : Kind → Operation RefreshStats
  | rebuild => rebuildIndex
  | sync => syncOrRebuild
  | packages importPaths => refreshIndex importPaths

def operation : Kind → Operation RefreshStats
  | rebuild => Operation.rebuild
  | sync => Operation.sync
  | packages importPaths => refreshPackages importPaths

theorem operation_eq (kind : Kind) : kind.operation = guarded kind.body := by
  cases kind <;> rfl

theorem stretches_body {φ : Type} {grain : Grain} {pause : φ → φ → Session → Session → Prop}
    {noted done : φ → Session → Session → Prop} (waiting : Waiting pause noted)
    (installs : ∀ index : Index,
      (installAndPersist index).Stretches grain pause noted fun phase _ => done phase)
    (kind : Kind) :
    kind.body.run.Stretches grain pause noted
      (Ends (fun phase _ origin state => noted phase origin state ∨ done phase origin state)
        noted) := by
  cases kind with
  | sync => exact stretches_syncOrRebuild waiting installs
  | rebuild =>
      exact stretches_weaken (stretches_rebuildIndex waiting installs) fun _ _ _ _ => .inr
  | packages importPaths =>
      exact stretches_weaken (stretches_refreshIndex waiting installs importPaths)
        fun _ _ _ _ => .inr

end Refresh.Kind

namespace Operation

/-! ## Between calls

If files take no time, an index is served and saved at once, and so is a snapshot that is read. -/

private theorem stretches_installAndPersist (index : Index) :
    (installAndPersist index).Stretches .calls (Pausing Notes) (Always Notes) fun _ _ =>
      Installs := by
  intro phase origin state notes
  refine (Refresh.silent_installAndPersist index).proceeds (fun _ => .error .toolchainUnknown) ?_
  rw [Refresh.evaluate_installAndPersist]
  exact ⟨state, index, notes, rfl⟩

theorem stretches_load :
    load.Stretches .calls (Pausing Notes) (Always Notes) fun _ served =>
      if served then Restores else Notes := by
  refine stretches_bind (stretches_ensureToolchain waiting_notes) fun result => ?_
  cases result with
  | error failure => exact stretches_done fun _ _ _ notes => notes
  | ok version =>
      intro _ origin state notes
      refine (silent_restore version).proceeds (fun _ => .error .toolchainUnknown) ?_
      rw [evaluate_restore]
      cases served : (state.loadWith version).1 with
      | false =>
          rw [Session.loadWith_of_false served]
          exact notes
      | true =>
          obtain ⟨snapshot, holds, _⟩ := Session.loadWith_eq_true_iff.mp served
          obtain ⟨index, restores, after⟩ := Session.loadWith_of_true served holds
          exact ⟨state, snapshot, index, notes, holds, restores, after⟩

end Operation

/-- A refresh of any kind takes note of versions until its last call, and then serves an index or
not. -/
theorem Refresh.Kind.stretches_calls (kind : Kind) :
    kind.body.run.Stretches .calls (Pausing Notes) (Always Notes)
      (Operation.Ends (fun _ _ => Refreshes) (Always Notes)) :=
  kind.stretches_body Operation.waiting_notes Operation.stretches_installAndPersist

end SymbolCache
