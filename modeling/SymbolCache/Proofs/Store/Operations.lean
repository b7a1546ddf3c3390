import SymbolCache.Proofs.Job.Interleaving
import SymbolCache.Store.Refresh

/-!
# Operations as jobs

An operation is a job that gives a value or a failure. These equations take an operation apart into
the jobs that it is made of.
-/

set_option autoImplicit false

namespace SymbolCache.Operation

open Job

variable {δ α β : Type}

def andThen (next : α → OperationOn δ β) : Except Failure α → Job (Session δ) (Except Failure β)
  | .ok value => (next value).run
  | .error failure => .done (.error failure)

@[simp] theorem andThen_ok (next : α → OperationOn δ β) (value : α) :
    andThen next (.ok value) = (next value).run := rfl

@[simp] theorem andThen_error (next : α → OperationOn δ β) (failure : Failure) :
    andThen next (.error failure) = .done (.error failure) := rfl

@[simp] theorem run_bind (operation : OperationOn δ α) (next : α → OperationOn δ β) :
    (operation >>= next).run = operation.run.bind (andThen next) := by
  change Job.bind operation.run _ = _
  congr 1
  funext result
  cases result <;> rfl

@[simp] theorem run_pure (value : α) : (pure value : OperationOn δ α).run = .done (.ok value) := rfl

@[simp] theorem run_lift (job : Job (Session δ) α) :
    (liftM job : OperationOn δ α).run = job.bind fun value => .done (.ok value) := rfl

@[simp] theorem run_mk (job : Job (Session δ) (Except Failure α)) :
    (ExceptT.mk job : OperationOn δ α).run = job := rfl

@[simp] theorem run_attempt (operation : Operation α) :
    (attempt operation).run = operation.run.bind fun result => .done (.ok result) := rfl

@[simp] theorem run_ite (condition : Prop) [Decidable condition] (first second : OperationOn δ α) :
    (if condition then first else second : OperationOn δ α).run =
      if condition then first.run else second.run := by
  split <;> rfl

/-! ## Runs that succeed -/

section

variable {responder : Responder} {now ended : Running Session}

/-- An operation that went on after another one and succeeded has had a value of it. -/
theorem ok_of_bind {operation : Operation α} {next : α → Operation β} {value : β}
    (succeeds : (operation >>= next).run.run responder now = (.ok value, ended)) :
    ∃ first between, operation.run.run responder now = (.ok first, between) ∧
      (next first).run.run responder between = (.ok value, ended) := by
  rw [run_bind, Job.run_bind] at succeeds
  generalize operation.run.run responder now = result at succeeds
  obtain ⟨failure | first, between⟩ := result
  · cases congrArg Prod.fst succeeds
  · exact ⟨first, between, rfl, succeeds⟩

theorem run_lift_bind (job : Job Session α) (next : α → Operation β) :
    ((liftM job : Operation α) >>= next).run.run responder now =
      (next (job.run responder now).1).run.run responder (job.run responder now).2 := by
  rw [run_bind, run_lift, Job.run_bind, Job.run_bind]
  rfl

end

/-! ## Operations that run alone -/

section

/-- A condition for what an operation gives and the state after it, and one for the state if it
fails. -/
def Outcome (done : α → Session → Prop) (failed : Session → Prop) :
    Except Failure α → Session → Prop
  | .ok value => done value
  | .error _ => failed

variable {before failed : Session → Prop} {after : α → Session → Prop}

theorem leads_operation_bind {between : α → Session → Prop} {after : β → Session → Prop}
    {operation : Operation α} {next : α → Operation β}
    (first : Leads before operation.run (Outcome between failed))
    (later : ∀ value, Leads (between value) (next value).run (Outcome after failed)) :
    Leads before (operation >>= next).run (Outcome after failed) := by
  rw [run_bind]
  refine leads_bind first fun result => ?_
  cases result with
  | error failure => exact leads_done fun _ holds => holds
  | ok value => exact later value

theorem leads_lift {job : Job Session α} (leads : Leads before job after) :
    Leads before (liftM job : Operation α).run (Outcome after failed) := by
  rw [run_lift]
  exact leads_bind leads fun value => leads_done fun _ holds => holds

theorem leads_pure {value : α} (holds : ∀ session, before session → after value session) :
    Leads before (pure value : Operation α).run (Outcome after failed) :=
  leads_done holds

theorem leads_throw {failure : Failure} (holds : ∀ session, before session → failed session) :
    Leads before (throw failure : Operation α).run (Outcome after failed) :=
  leads_done holds

theorem leads_weaken {after' : α → Session → Prop} {operation : Operation α}
    (leads : Leads before operation.run (Outcome after failed))
    (weaker : ∀ value session, after value session → after' value session) :
    Leads before operation.run (Outcome after' failed) := by
  intro responder now holds
  have outcome := leads responder now holds
  generalize (operation.run.run responder now).1 = result at outcome ⊢
  cases result with
  | error failure => exact outcome
  | ok value => exact weaker value _ outcome

/-- What holds after an operation whether it fails or not. -/
theorem leads_anyway {holds : Session → Prop} {operation : Operation α}
    (leads : Leads before operation.run (Outcome (fun _ => holds) holds)) :
    Leads before operation.run fun _ => holds := by
  intro responder now start
  have outcome := leads responder now start
  generalize (operation.run.run responder now).1 = result at outcome
  cases result with
  | error failure => exact outcome
  | ok value => exact outcome

theorem leads_ite (question : Prop) [Decidable question] {first second : Operation α}
    (one : question → Leads before first.run (Outcome after failed))
    (other : ¬ question → Leads before second.run (Outcome after failed)) :
    Leads before (if question then first else second : Operation α).run (Outcome after failed) := by
  split
  case isTrue holds => exact one holds
  case isFalse fails => exact other fails

theorem leads_mk {job : Job Session (Except Failure α)}
    (keeps : job.Keeps .calls before (fun _ _ => True) Any)
    (weaker : ∀ session, before session → failed session) :
    Leads before (ExceptT.mk job : Operation α).run (Outcome (fun _ => before) failed) := by
  intro responder now holds
  have kept := leads_of_keeps keeps responder now holds
  rw [run_mk]
  cases (job.run responder now).1 with
  | error failure => exact weaker _ kept
  | ok value => exact kept

end

/-! ## The version of the toolchain -/

theorem run_detectVersion {σ : Type} (responder : Responder) (toolchain : Toolchain)
    (now : Running σ) :
    toolchain.detectVersion.run responder now =
      (toolchain.versionOfAnswer (responder now.calls toolchain.versionRequest),
        { now with calls := toolchain.versionRequest :: now.calls }) :=
  rfl

def knowing (version : String) (session : Session) : Session :=
  session.mapStore fun store => { store with toolchainVersion := some version }

theorem run_detectToolchain (responder : Responder) (now : Running Session) :
    detectToolchain.run.run responder now =
      let asked := now.state.store.toolchain.versionRequest
      match now.state.store.toolchain.versionOfAnswer (responder now.calls asked) with
      | .ok version => (.ok version, ⟨knowing version now.state, asked :: now.calls⟩)
      | .error failure => (.error failure, { now with calls := asked :: now.calls }) := by
  simp only [detectToolchain, run_bind, run_lift, run_mk, Job.run_bind, store, Job.run,
    andThen_ok, run_detectVersion]
  cases now.state.store.toolchain.versionOfAnswer _ <;> rfl

/-- An operation that has asked for the version of the toolchain and succeeded goes on with it. -/
theorem ok_of_detectToolchain {responder : Responder} {now ended : Running Session}
    {next : String → Operation α} {value : α}
    (succeeds : (detectToolchain >>= next).run.run responder now = (.ok value, ended)) :
    let asked := now.state.store.toolchain.versionRequest
    ∃ version, now.state.store.toolchain.versionOfAnswer (responder now.calls asked) =
        .ok version ∧
      (next version).run.run responder ⟨knowing version now.state, asked :: now.calls⟩ =
        (.ok value, ended) := by
  obtain ⟨version, between, detects, rest⟩ := ok_of_bind succeeds
  rw [run_detectToolchain] at detects
  cases found : now.state.store.toolchain.versionOfAnswer
      (responder now.calls now.state.store.toolchain.versionRequest) with
  | error failure => simp [found] at detects
  | ok detected =>
      simp only [found, Prod.mk.injEq, Except.ok.injEq] at detects
      obtain ⟨rfl, rfl⟩ := detects
      exact ⟨detected, found, rest⟩

end SymbolCache.Operation

/-! ## Snapshots that are accepted -/

namespace SymbolCache

/-- A snapshot is served as a whole, or nothing changes. -/
theorem Session.accept_cases (session : Session) (version : String)
    (content : Except FileError String) :
    session.accept version content = (false, session) ∨
      ∃ text snapshot index, content = .ok text ∧
        Snapshot.read session.store.cachePath version text = .ok snapshot ∧
          snapshot.toIndex = .ok index ∧
            session.accept version content = (true, session.serve index snapshot.timestamp) := by
  unfold Session.accept
  cases content with
  | error error => exact .inl rfl
  | ok text =>
      dsimp only
      cases accepted : Snapshot.read session.store.cachePath version text with
      | error failure => exact .inl rfl
      | ok snapshot =>
          dsimp only
          cases restored : snapshot.toIndex with
          | error failure => exact .inl rfl
          | ok index => exact .inr ⟨text, snapshot, index, rfl, accepted, restored, rfl⟩

end SymbolCache

/-!
## One refresh at a time

A refresh is refused while another one is under way. Otherwise it runs from a session in which it
has started, and when it is over the store is ready, or as ready as it was before if it failed.
-/

namespace SymbolCache

def Refresh.begun (session : Session) : Session :=
  session.mapStore fun store => { store with refreshing := true, readiness := .rebuilding }

namespace Operation

open Job hiding run_bind
open Refresh (begun)

def concluded (readiness : Readiness) (session : Session) : Session :=
  session.mapStore fun store => { store with readiness, refreshing := false }

/-- What a refresh that was started in a session comes to, by what its body came to. -/
def settled (before : Session) :
    Except Failure RefreshStats × Running Session → Except Failure RefreshStats × Running Session
  | (.ok stats, ended) =>
    (.ok { stats with duration := ended.state.now - before.now },
      { ended with state := concluded .ready ended.state })
  | (.error failure, ended) =>
    (.error failure, { ended with state := concluded before.store.readiness ended.state })

variable {responder : Responder} {now ended : Running Session}

theorem run_guarded (responder : Responder) (refresh : Operation RefreshStats)
    (now : Running Session) :
    (guarded refresh).run.run responder now =
      if now.state.store.refreshing then (.error .refreshInProgress, now)
      else settled now.state (refresh.run.run responder ⟨begun now.state, now.calls⟩) := by
  simp only [guarded, beginRefresh, run_bind, run_mk, Job.update, Job.run_bind, Job.run]
  split
  case isTrue => rfl
  case isFalse =>
    have started : Session.mapStore (fun store => { store with readiness := .rebuilding })
        (Session.mapStore (fun store => { store with refreshing := true }) now.state) =
          begun now.state := rfl
    simp only [andThen_ok, run_bind, run_lift, run_attempt, Job.run_bind, Job.run, store,
      Operation.now, setReadiness, changeStore, Job.modify, started]
    generalize refresh.run.run responder ⟨begun now.state, now.calls⟩ = result
    obtain ⟨failure | stats, after⟩ := result
    · rfl
    · rfl

/-- A refresh that succeeds was not refused, and its body has succeeded. -/
theorem ok_of_guarded {refresh : Operation RefreshStats} {stats : RefreshStats}
    (succeeds : (guarded refresh).run.run responder now = (.ok stats, ended)) :
    now.state.store.refreshing = false ∧ ∃ counted after,
      refresh.run.run responder ⟨begun now.state, now.calls⟩ = (.ok counted, after) ∧
        stats = { counted with duration := after.state.now - now.state.now } ∧
        ended = { after with state := concluded .ready after.state } := by
  rw [run_guarded] at succeeds
  split at succeeds
  case isTrue => cases succeeds
  case isFalse idle =>
    refine ⟨Bool.not_eq_true _ ▸ idle, ?_⟩
    generalize refresh.run.run responder ⟨begun now.state, now.calls⟩ = result at succeeds
    obtain ⟨failure | counted, after⟩ := result
    case error => cases succeeds
    case ok =>
      simp only [settled, Prod.mk.injEq, Except.ok.injEq] at succeeds
      exact ⟨counted, after, rfl, succeeds.1.symm, succeeds.2.symm⟩

end Operation

end SymbolCache
