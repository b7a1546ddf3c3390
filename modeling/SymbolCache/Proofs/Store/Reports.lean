import SymbolCache.Proofs.Job.Stretches
import SymbolCache.Proofs.Store.Actions

/-!
# What actions tell

An action that has come to its end tells whether it succeeded. What a run of actions does to the
session does not depend on whether anyone listens.
-/

set_option autoImplicit false

namespace SymbolCache

open Job hiding run_bind

inductive Report where
  | started (result : Except Failure Operation.Start)
  | loaded (served : Bool)
  | rebuilt (result : Except Failure RefreshStats)
  | synced (result : Except Failure RefreshStats)
  | refreshed (result : Except Failure RefreshStats)
  /-- An action that brings no index has come to its end. -/
  | other
  deriving DecidableEq

/-- The action has brought an index: a snapshot was loaded, or a refresh succeeded. -/
inductive Report.Succeeds : Report → Prop where
  | started (how : Operation.Start) : Succeeds (.started (.ok how))
  | loaded : Succeeds (.loaded true)
  | rebuilt (stats : RefreshStats) : Succeeds (.rebuilt (.ok stats))
  | synced (stats : RefreshStats) : Succeeds (.synced (.ok stats))
  | refreshed (stats : RefreshStats) : Succeeds (.refreshed (.ok stats))

def Action.report : Action → Job Session Report
  | .start => do return .started (← Operation.start.run)
  | .load => do return .loaded (← Operation.load)
  | .rebuild => do return .rebuilt (← Operation.rebuild.run)
  | .sync => do return .synced (← Operation.sync.run)
  | .refreshPackages importPaths => do
    return .refreshed (← (Operation.refreshPackages importPaths).run)
  | action => do
    action.job
    return .other

/-! ## Listening changes nothing -/

namespace Job

variable {σ α β : Type}

theorem finish_map (job : Job σ α) (tell : α → β) :
    (job.bind fun value => .done (tell value)).finish = job.finish := by
  induction job with
  | done value => rfl
  | look rest ih => exact congrArg Job.look (funext ih)
  | put state rest ih => exact congrArg (Job.put state) ih
  | call request rest ih => exact congrArg (Job.call request) (funext ih)
  | callTogether requests rest ih => exact congrArg (Job.callTogether requests) (funext ih)
  | pause rest ih => exact congrArg Job.pause ih

theorem finish_unit (job : Job σ Unit) : job.finish = job := by
  induction job with
  | done value => rfl
  | look rest ih => exact congrArg Job.look (funext ih)
  | put state rest ih => exact congrArg (Job.put state) ih
  | call request rest ih => exact congrArg (Job.call request) (funext ih)
  | callTogether requests rest ih => exact congrArg (Job.callTogether requests) (funext ih)
  | pause rest ih => exact congrArg Job.pause ih

private theorem interleave_finish (grain : Grain) (responder : Responder) (schedule : List Nat)
    (jobs : List (Job σ α)) (now : Running σ) :
    interleave grain responder schedule (jobs.map finish) now =
      ((interleave grain responder schedule jobs now).1.map finish,
        (interleave grain responder schedule jobs now).2) := by
  induction schedule generalizing jobs now with
  | nil => rfl
  | cons position schedule ih =>
      rw [interleave, interleave, List.getElem?_map]
      cases jobs[position]? with
      | none => exact ih jobs now
      | some job =>
          have step : job.finish.resume grain responder now =
              ((job.resume grain responder now).1.finish, (job.resume grain responder now).2) :=
            resume_bind_done grain responder job (fun _ => ()) now
          simp only [Option.map_some, step, ← List.map_set, ih]

theorem eq_done_of_value? {job : Job σ α} {value : α}
    (ended : job.value? = some value) : job = .done value := by
  cases job with
  | done other => exact congrArg Job.done (Option.some.inj ended)
  | _ => cases ended

end Job

private theorem Action.finish_report (action : Action) : action.report.finish = action.job := by
  cases action with
  | start => exact finish_map _ _
  | load => exact finish_map _ _
  | rebuild => exact finish_map _ _
  | sync => exact finish_map _ _
  | refreshPackages importPaths => exact finish_map _ _
  | updateVersions importPaths => exact (finish_map _ _).trans (finish_unit _)
  | addSymbol symbol => exact (finish_map _ _).trans (finish_unit _)
  | save => exact (finish_map _ _).trans (finish_unit _)
  | shutdown => exact (finish_map _ _).trans (finish_unit _)
  | elapse disk now => exact (finish_map _ _).trans (finish_unit _)

/-! ## Runs -/

namespace Action

variable (grain : Grain) (responder : Responder) (actions : List Action) (schedule : List Nat)
  (session : Session)

def runReports : List (Job Session Report) × Running Session :=
  interleave grain responder schedule (actions.map Action.report) { state := session, calls := [] }

def reports : List Report :=
  (runReports grain responder actions schedule session).1.filterMap Job.value?

theorem reached_eq :
    reached grain responder actions schedule session =
      (runReports grain responder actions schedule session).2.state := by
  have jobs : actions.map Action.job = (actions.map Action.report).map finish := by
    rw [List.map_map]
    exact List.map_congr_left fun action _ => action.finish_report.symm
  rw [reached, run, runReports, jobs, interleave_finish]

def told (position : Nat) : Option Report :=
  (runReports grain responder actions schedule session).1[position]?.bind Job.value?

end Action

/-- Performs actions one after the other, each to its end, and gives what each tells and the session
after it. -/
def Action.perform (responder : Responder) : List Action → Running Session → List (Report × Session)
  | [], _ => []
  | action :: actions, now =>
    let (report, after) := action.report.run responder now
    (report, after.state) :: perform responder actions after

end SymbolCache
