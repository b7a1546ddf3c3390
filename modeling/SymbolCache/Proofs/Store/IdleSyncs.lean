import SymbolCache.Proofs.Store.Serving

/-!
# Syncs that find nothing to do

A sync whose counters are all zero serves no index, unless it has fallen back to a rebuild. Whether
it has is settled when it is told the version of the toolchain, at its first suspension. One that
serves an index knows before it saves it that it has found something to do.
-/

set_option autoImplicit false

namespace SymbolCache

open Job hiding run_bind
open Operation (andThen guarded)
open Refresh (begun)
open Phase (Pauses Gathers)
open Session (Steady)

namespace Operation

def closing (readiness : Readiness) (started : Nat) :
    Except Failure RefreshStats → Job Session (Except Failure RefreshStats)
  | .ok stats => ExceptT.run do
    let ended ← Operation.now
    setReadiness .ready
    endRefresh
    return { stats with duration := ended - started }
  | .error failure => ExceptT.run do
    setReadiness readiness
    endRefresh
    throw failure

private theorem resume_guarded (responder : Responder) {refresh : Operation RefreshStats}
    {now : Running Session} (idle : now.state.store.refreshing = false)
    (suspends : refresh.run.Suspends .files (begun now.state)) :
    (guarded refresh).run.resume .files responder now =
      ((refresh.run.resume .files responder ⟨begun now.state, now.calls⟩).1.bind
          (closing now.state.store.readiness now.state.now),
        (refresh.run.resume .files responder ⟨begun now.state, now.calls⟩).2) := by
  rw [guarded, resume_beginRefresh, if_neg (by simp [idle])]
  simp only [run_bind, run_lift, store, Operation.now]
  have attempted : (attempt refresh).run.Suspends .files (begun now.state) := suspends.bind _
  change (Job.bind (attempt refresh).run _).resume .files responder ⟨begun now.state, now.calls⟩ = _
  rw [attempted.resume_bind responder, run_attempt, resume_bind_done, Job.bind_assoc]
  rfl

def syncKnowing (previous : Option String) (version : String) : Operation RefreshStats := do
  if previous ≠ some version && !(← store).index.isEmpty then rebuildIndex
  else syncIndex

private theorem syncOrRebuild_run_eq : syncOrRebuild.run = .look fun session =>
    (detectToolchain >>= syncKnowing session.store.toolchainVersion).run := by
  rw [syncOrRebuild, run_bind]
  rfl

private theorem syncKnowing_run_eq (previous : Option String) (version : String) :
    (syncKnowing previous version).run = .look fun session =>
      if previous ≠ some version && !session.store.index.isEmpty then rebuildIndex.run
      else syncIndex.run := by
  rw [syncKnowing, run_bind]
  refine congrArg Job.look (funext fun session => ?_)
  exact run_ite _ _ _

def noting (version : String) : Operation String := do
  changeStore fun store => { store with toolchainVersion := some version }
  return version

private theorem detectToolchain_run_eq : detectToolchain.run = .look fun session =>
    .call session.store.toolchain.versionRequest fun answer =>
      andThen noting (session.store.toolchain.versionOfAnswer answer) := by
  rw [detectToolchain, run_bind]
  refine congrArg Job.look (funext fun session => ?_)
  change (ExceptT.mk session.store.toolchain.detectVersion >>= _).run = _
  rw [run_bind]
  rfl

/-- A sync asks for the version of the toolchain, and goes on when it is told. -/
theorem resume_syncOrRebuild (responder : Responder) (now : Running Session) :
    (syncOrRebuild.run.resume .files responder now).2.state = now.state ∧
      ∃ detected : Except Failure String,
        (syncOrRebuild.run.resume .files responder now).1 = Job.bind (andThen noting detected)
          (andThen (syncKnowing now.state.store.toolchainVersion)) := by
  have turn : syncOrRebuild.run.resume .files responder now =
      (detectToolchain >>= syncKnowing now.state.store.toolchainVersion).run.resume .files
        responder now := by
    rw [syncOrRebuild_run_eq]
    rfl
  rw [turn, run_bind, detectToolchain_run_eq]
  exact ⟨rfl, now.state.store.toolchain.versionOfAnswer
    (responder now.calls now.state.store.toolchain.versionRequest), rfl⟩

/-- Between its start and the answer to its first request, a sync has come to know another version
of the toolchain than the one known before, and there is an index to be rebuilt. -/
structure FallsBack (before after : Session) : Prop where
  version : after.store.toolchainVersion ≠ before.store.toolchainVersion
  index : after.store.index.isEmpty = false

/-- A sync that found nothing to do has left the index alone in its last stretch, and in the earlier
ones. -/
def Spares (phase : Phase) (report : Report) (before after : Session) : Prop :=
  ∀ stats, report = .synced (.ok stats) → stats.Idle → Gathers phase before after

def syncClosing (readiness : Readiness) (started : Nat) (result : Except Failure RefreshStats) :
    Job Session Report :=
  (closing readiness started result).bind fun result => .done (.synced result)

private theorem stretches_syncClosing (readiness : Readiness) (started : Nat)
    (result : Except Failure RefreshStats) :
    (syncClosing readiness started result).Stretches .files (Pauses True)
      (fun phase => Ends (fun phase stats before after => Gathers phase before after ∨
        ¬ stats.Idle ∧ phase.Served before after) Gathers phase result) Spares := by
  intro phase before after ends
  cases result with
  | error failure =>
      intro stats impossible
      cases impossible
  | ok stats =>
      rintro _ ⟨⟩ ⟨removed, indexed, failed⟩
      rcases ends with ⟨gathers, steady⟩ | ⟨busy, -⟩
      · exact ⟨gathers, steady.trans (Session.steady_concluded .ready after)⟩
      · exact absurd ⟨removed, indexed, failed⟩ busy

def syncLeft (previous : Option String) (readiness : Readiness) (started : Nat)
    (detected : Except Failure String) : Job Session Report :=
  ((andThen noting detected).bind (andThen (syncKnowing previous))).bind
    (syncClosing readiness started)

section

variable (previous : Option String) (readiness : Readiness) (started : Nat)

private theorem value?_syncLeft (detected : Except Failure String) :
    (syncLeft previous readiness started detected).value? = none := by
  cases detected with
  | error failure => rfl
  | ok version => rfl

private theorem syncLeft_ok (version : String) :
    syncLeft previous readiness started (.ok version) = .look fun session =>
      .put (session.mapStore fun store => { store with toolchainVersion := some version })
        (.look fun session =>
          if previous ≠ some version && !session.store.index.isEmpty then
            rebuildIndex.run.bind (syncClosing readiness started)
          else syncIndex.run.bind (syncClosing readiness started)) := by
  change Job.look (fun session => Job.put _
    ((syncKnowing previous version).run.bind (syncClosing readiness started))) = _
  rw [syncKnowing_run_eq]
  refine congrArg Job.look (funext fun session => congrArg (Job.put _) ?_)
  exact congrArg Job.look (funext fun session => apply_ite (Job.bind · _) _ _ _)

/-- A sync that is told the version of the toolchain falls back to a rebuild, or serves another
index only if it counts something. -/
theorem turn_syncLeft (responder : Responder) (detected : Except Failure String)
    (now : Running Session) :
    (previous ≠ ((syncLeft previous readiness started detected).resume .files responder
          now).2.state.store.toolchainVersion ∧
        ((syncLeft previous readiness started detected).resume .files responder
          now).2.state.store.index.isEmpty = false) ∨
      (syncLeft previous readiness started detected).Proceeds .files (Pauses True) Spares .gathers
        now.state now.state := by
  cases detected with
  | error failure =>
      refine .inr fun stats impossible => ?_
      cases impossible
  | ok version =>
      rw [syncLeft_ok]
      simp only [resume, Proceeds]
      split
      case isTrue falls =>
        rw [Bool.and_eq_true, decide_eq_true_eq, Bool.not_eq_true'] at falls
        exact .inl falls
      case isFalse =>
        have installs : ∀ index : Index, (installAndPersist index).Stretches .files (Pauses True)
            Gathers fun phase _ => phase.Served := stretches_installAndPersist_served trivial
        refine .inr (Proceeds.bind ?_ (stretches_syncClosing readiness started))
        exact stretches_syncIndex Phase.waiting_gathers installs .gathers now.state _
          ⟨rfl, rfl, rfl, rfl⟩

end

end Operation

open Operation

/-- A sync that is not refused is suspended in its first turn, and leaves the index alone. In its
second one it falls back to a rebuild, or it leaves the index alone to its end if it counts
nothing. -/
theorem Action.turn_sync (responder : Responder) {first : Running Session}
    (idle : first.state.store.refreshing = false) :
    (Action.sync.report.resume .files responder first).1.value? = none ∧
      first.state.Steady (Action.sync.report.resume .files responder first).2.state ∧
      ∀ second : Running Session,
        FallsBack first.state ((Action.sync.report.resume .files responder first).1.resume .files
            responder second).2.state ∨
          (Action.sync.report.resume .files responder first).1.Proceeds .files (Pauses True) Spares
            .gathers second.state second.state := by
  have body : syncOrRebuild.run.Suspends .files (begun first.state) := trivial
  have job : Action.sync.report = (guarded syncOrRebuild).run.bind fun result =>
    .done (.synced result) := rfl
  obtain ⟨same, detected, goesOn⟩ := resume_syncOrRebuild responder ⟨begun first.state, first.calls⟩
  have left : (Action.sync.report.resume .files responder first).1 =
      syncLeft first.state.store.toolchainVersion first.state.store.readiness first.state.now
        detected := by
    rw [job, resume_bind_done, resume_guarded responder idle body, goesOn]
    exact Job.bind_assoc _ _ _
  have started : (Action.sync.report.resume .files responder first).2.state =
      begun first.state := by
    rw [job, resume_bind_done, resume_guarded responder idle body, same]
  rw [left, started]
  refine ⟨value?_syncLeft _ _ _ detected, first.state.steady_begun, fun second => ?_⟩
  refine (turn_syncLeft _ _ _ responder detected second).imp_left fun ⟨version, index⟩ => ?_
  exact ⟨version.symm, index⟩

end SymbolCache
