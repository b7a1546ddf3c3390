import SymbolCache.Proofs.Store.Reports
import SymbolCache.Proofs.Store.Stretches

/-!
# A load while a refresh is under way

A load is not kept from serving a snapshot by a refresh that is under way. If the refresh then
fails, the snapshot goes on being served, but the store is as ready as it was when the refresh
started, whatever the load has made of it.
-/

set_option autoImplicit false

namespace SymbolCache

open Job hiding run_bind
open Operation (Ends Concludes concluded guarded)
open Session (Notes Installs Refreshes Restores)

namespace Session

/-- The snapshot on the disk has been served since, and nothing else. -/
structure Reloaded (before after : Session) : Prop where
  disk : after.disk = before.disk
  generation : after.store.generation = before.store.generation + 1
  restored : ∃ snapshot, before.disk.Holds before.store.cachePath snapshot ∧
    snapshot.toIndex = .ok after.store.index ∧ after.store.lastSaved = some snapshot.timestamp

theorem Reloaded.of_notes {before between after : Session} (reloaded : before.Reloaded between)
    (notes : between.Notes after) : before.Reloaded after := by
  obtain ⟨version, rfl⟩ := notes
  exact ⟨reloaded.disk, reloaded.generation, reloaded.restored⟩

theorem Restores.reloaded {session state after : Session}
    (noted : (Refresh.begun session).Notes state) (restores : state.Restores after) :
    session.Reloaded after := by
  obtain ⟨_, snapshot, index, later, holds, restored, rfl⟩ := restores
  obtain ⟨version, rfl⟩ := noted.trans later
  exact ⟨rfl, rfl, snapshot, holds, restored, rfl⟩

end Session

namespace Refresh.Kind

def action : Kind → Action
  | rebuild => .rebuild
  | sync => .sync
  | packages importPaths => .refreshPackages importPaths

def tell : Kind → Except Failure RefreshStats → Report
  | rebuild => .rebuilt
  | sync => .synced
  | packages _ => .refreshed

variable (kind : Kind)

private theorem tell_injective : Function.Injective kind.tell := by
  intro first second same
  cases kind with
  | rebuild => exact Report.rebuilt.inj same
  | sync => exact Report.synced.inj same
  | packages importPaths => exact Report.refreshed.inj same

theorem report_action :
    kind.action.report = (guarded kind.body).run.bind fun result => .done (kind.tell result) := by
  cases kind <;> rfl

def Comes (session : Session) (report : Report) (origin state : Session) : Prop :=
  ∃ result, report = kind.tell result ∧
    Concludes session (fun _ _ => Refreshes) (Always Notes) () result origin state

private theorem proceeds_report {session : Session} (idle : session.store.refreshing = false) :
    kind.action.report.Proceeds .calls (Pausing Notes) (fun _ => kind.Comes session) ()
      (begun session) session := by
  rw [report_action]
  have refused : session.store.refreshing ≠ true := Bool.eq_false_iff.mp idle
  have body := kind.stretches_calls () (begun session) (begun session) (.refl _)
  refine (Operation.proceeds_guarded (absurd · refused) fun _ => ⟨body, fun _ _ _ _ => id⟩).bind ?_
  exact fun result => stretches_done fun _ _ _ concludes => ⟨result, rfl, concludes⟩

/-- While a refresh is under way, another one ends where it starts. -/
theorem resume_report_of_refreshing (grain : Grain) (responder : Responder)
    {now : Running Session} (busy : now.state.store.refreshing = true) :
    kind.action.report.resume grain responder now =
      (.done (kind.tell (.error .refreshInProgress)), now) := by
  rw [report_action, resume_bind_done, guarded, Operation.resume_beginRefresh, if_pos busy]
  rfl

end Refresh.Kind

def Operation.Loads (report : Report) (origin state : Session) : Prop :=
  report = .loaded true ∧ Restores origin state ∨ report = .loaded false ∧ Notes origin state

open Operation (Loads newSession reopened unusualSession unusualSymbol versionAnswer)

private theorem Operation.awaits_report_load :
    Action.load.report.Awaits .calls (Pausing Notes) () fun _ => Loads := by
  refine Stretches.awaits (stretches_bind stretches_load fun served => ?_) Notes.refl
  cases served with
  | true => exact stretches_done fun _ _ _ restores => .inl ⟨rfl, restores⟩
  | false => exact stretches_done fun _ _ _ notes => .inr ⟨rfl, notes⟩

namespace Refresh.Kind

variable (kind : Kind) (session : Session)

/-- A load has served the snapshot while a refresh was under way, which may have ended since. -/
inductive Overtaken : List (Job Session Report) → Session → Prop where
  | amid {refresh : Job Session Report} {state : Session}
      (awaits : refresh.Awaits .calls (Pausing Notes) () fun _ => kind.Comes session)
      (reloaded : session.Reloaded state) :
      Overtaken [refresh, .done (.loaded true)] state
  | past {report : Report} {origin state : Session}
      (comes : kind.Comes session report origin state) (reloaded : session.Reloaded origin) :
      Overtaken [.done report, .done (.loaded true)] state

/-- A refresh and a load are under way, or the first of them has ended. -/
inductive Contends : List (Job Session Report) → Session → Prop where
  | both {refresh load : Job Session Report} {state : Session}
      (refreshes : refresh.Awaits .calls (Pausing Notes) () fun _ => kind.Comes session)
      (loads : load.Awaits .calls (Pausing Notes) () fun _ => Loads)
      (noted : (begun session).Notes state) : Contends [refresh, load] state
  | ended {report : Report} {load : Job Session Report} {state : Session} :
      Contends [.done report, load] state
  | refused {refresh : Job Session Report} {state : Session} :
      Contends [refresh, .done (.loaded false)] state
  | overtaken {jobs : List (Job Session Report)} {state : Session}
      (overtaken : kind.Overtaken session jobs state) : Contends jobs state

variable {kind session} {responder : Responder} {jobs : List (Job Session Report)}
  {now : Running Session} {position : Nat} {job : Job Session Report}

theorem getElem?_pair {first second : Job Session Report}
    (found : [first, second][position]? = some job) :
    position = 0 ∧ job = first ∨ position = 1 ∧ job = second := by
  match position, found with
  | 0, found => exact .inl ⟨rfl, (Option.some.inj found).symm⟩
  | 1, found => exact .inr ⟨rfl, (Option.some.inj found).symm⟩

theorem Overtaken.step (overtaken : kind.Overtaken session jobs now.state)
    (found : jobs[position]? = some job) :
    kind.Overtaken session (jobs.set position (job.resume .calls responder now).1)
      (job.resume .calls responder now).2.state := by
  cases overtaken with
  | amid awaits reloaded =>
      rcases getElem?_pair found with ⟨rfl, rfl⟩ | ⟨rfl, rfl⟩
      · rcases (awaits _).resume .calls responder now with
          ⟨report, same, comes⟩ | ⟨_, notes, awaits⟩
        · rw [same]
          exact .past comes reloaded
        · exact .amid awaits (reloaded.of_notes notes)
      · exact .amid awaits reloaded
  | past comes reloaded =>
      rcases getElem?_pair found with ⟨rfl, rfl⟩ | ⟨rfl, rfl⟩
      · exact .past comes reloaded
      · exact .past comes reloaded

theorem Contends.step (contends : kind.Contends session jobs now.state)
    (found : jobs[position]? = some job) :
    kind.Contends session (jobs.set position (job.resume .calls responder now).1)
      (job.resume .calls responder now).2.state := by
  cases contends with
  | both refreshes loads noted =>
      rcases getElem?_pair found with ⟨rfl, rfl⟩ | ⟨rfl, rfl⟩
      · rcases (refreshes _).resume .calls responder now with
          ⟨report, same, -⟩ | ⟨_, notes, refreshes⟩
        · rw [same]
          exact .ended
        · exact .both refreshes loads (noted.trans notes)
      · rcases (loads _).resume .calls responder now with
          ⟨report, same, served⟩ | ⟨_, notes, loads⟩
        · rw [same]
          rcases served with ⟨rfl, restores⟩ | ⟨rfl, -⟩
          · exact .overtaken (.amid refreshes (restores.reloaded noted))
          · exact .refused
        · exact .both refreshes loads (noted.trans notes)
  | ended =>
      rcases getElem?_pair found with ⟨rfl, rfl⟩ | ⟨rfl, rfl⟩
      · exact .ended
      · exact .ended
  | refused =>
      rcases getElem?_pair found with ⟨rfl, rfl⟩ | ⟨rfl, rfl⟩
      · exact .refused
      · exact .refused
  | overtaken overtaken => exact .overtaken (overtaken.step found)

/-- The refresh has its first turn before the load. -/
theorem contends_start (here : now.state = session) :
    kind.Contends session [(kind.action.report.resume .calls responder now).1, Action.load.report]
      (kind.action.report.resume .calls responder now).2.state := by
  cases refreshing : now.state.store.refreshing with
  | true =>
      rw [kind.resume_report_of_refreshing .calls responder refreshing]
      exact .ended
  | false =>
      subst here
      rcases (kind.proceeds_report refreshing).resume .calls responder now with
        ⟨report, same, -⟩ | ⟨_, noted, awaits⟩
      · rw [same]
        exact .ended
      · exact .both awaits Operation.awaits_report_load noted

private theorem contends_of_mem {first : List Nat} (starts : 0 ∈ first) (waits : 1 ∉ first)
    (here : now.state = session) :
    kind.Contends session
      (interleave .calls responder first [kind.action.report, Action.load.report] now).1
      (interleave .calls responder first [kind.action.report, Action.load.report] now).2.state := by
  induction first with
  | nil => cases starts
  | cons turn first ih =>
      match turn with
      | 0 =>
          exact interleave_invariant .calls responder (kind.Contends session)
            (fun _ _ _ _ => Contends.step) first (contends_start here)
      | 1 => exact absurd List.mem_cons_self waits
      | turn + 2 =>
          exact ih (by simpa using starts) fun member => waits (List.mem_cons_of_mem _ member)

/-- A load that has served the snapshot before the refresh has ended has overtaken it. -/
theorem Contends.overtaken_of_loaded {state : Session} (contends : kind.Contends session jobs state)
    (loads : jobs[1]?.bind Job.value? = some (.loaded true))
    (suspended : jobs[0]?.bind Job.value? = none) : kind.Overtaken session jobs state := by
  cases contends with
  | both refreshes awaits noted =>
      obtain rfl := eq_done_of_value? loads
      rcases awaits state with ⟨-, restores⟩ | ⟨impossible, -⟩
      · have raised := (restores.reloaded noted).generation
        obtain ⟨version, rfl⟩ := noted
        exact absurd raised (Nat.succ_ne_self _).symm
      · cases impossible
  | ended => cases suspended
  | refused => cases loads
  | overtaken overtaken => exact overtaken

/-- A refresh that was overtaken and fails leaves the snapshot, and writes back how ready the store
was. -/
theorem Overtaken.of_failed {state : Session} (overtaken : kind.Overtaken session jobs state)
    {failure : Failure}
    (fails : jobs[0]?.bind Job.value? = some (kind.tell (.error failure))) :
    session.Reloaded state ∧ state.store.readiness = session.store.readiness := by
  obtain ⟨origin, reloaded, result, same, concludes⟩ : ∃ origin, session.Reloaded origin ∧
      kind.Comes session (kind.tell (.error failure)) origin state := by
    cases overtaken with
    | amid awaits reloaded =>
        obtain rfl := eq_done_of_value? fails
        exact ⟨state, reloaded, awaits state⟩
    | past comes reloaded =>
        obtain rfl := Option.some.inj fails
        exact ⟨_, reloaded, comes⟩
  obtain rfl := kind.tell_injective same
  obtain ⟨ended, notes, rfl⟩ := concludes
  have kept := reloaded.of_notes notes
  exact ⟨⟨kept.disk, kept.generation, kept.restored⟩, rfl⟩

/-- A refresh of any kind is started, and while it is suspended a load is started and serves the
snapshot; then the refresh fails. In the end the snapshot is served, with the time of its save and
under the next generation, but the store is as ready as it was when the refresh started. -/
theorem load_amid (kind : Kind) (responder : Responder) (session : Session)
    (first second third : List Nat) (starts : 0 ∈ first) (waits : 1 ∉ first)
    (loads : Action.told .calls responder [kind.action, .load] (first ++ second) session 1 =
      some (.loaded true))
    (suspended :
      Action.told .calls responder [kind.action, .load] (first ++ second) session 0 = none)
    {failure : Failure}
    (fails :
      Action.told .calls responder [kind.action, .load] (first ++ second ++ third) session 0 =
        some (kind.tell (.error failure))) :
    session.Reloaded
        (Action.reached .calls responder [kind.action, .load] (first ++ second ++ third) session) ∧
      (Action.reached .calls responder [kind.action, .load]
        (first ++ second ++ third) session).store.readiness = session.store.readiness := by
  unfold Action.told Action.runReports at loads suspended fails
  rw [Action.reached_eq, Action.runReports]
  rw [interleave_append] at fails ⊢
  have met : kind.Contends session
      (interleave .calls responder (first ++ second) [kind.action.report, Action.load.report]
        { state := session, calls := [] }).1
      (interleave .calls responder (first ++ second) [kind.action.report, Action.load.report]
        { state := session, calls := [] }).2.state := by
    rw [interleave_append]
    exact interleave_invariant .calls responder (kind.Contends session)
      (fun _ _ _ _ => Contends.step) second (contends_of_mem starts waits rfl)
  simp only [List.map_cons, List.map_nil] at loads suspended fails ⊢
  generalize interleave .calls responder (first ++ second) [kind.action.report, Action.load.report]
    { state := session, calls := [] } = reached at met loads suspended fails ⊢
  have ended := interleave_invariant .calls responder (kind.Overtaken session)
    (fun _ _ _ _ => Overtaken.step) third (met.overtaken_of_loaded loads suspended)
  generalize interleave .calls responder third reached.1 reached.2 = final at ended fails ⊢
  exact ended.of_failed fails

/-! ### A rebuild that fails -/

def silentAnswer (_ : List Request) (_ : Request) : Answer :=
  .error .toolchainUnknown

/-- A rebuild is started, a load takes its turn, and the rebuild fails. -/
theorem told_reopened (disk : Disk) :
    Action.told .calls silentAnswer [.rebuild, .load] [0, 1] (reopened disk).state 0 = none ∧
      Action.told .calls silentAnswer [.rebuild, .load] [0, 1] (reopened disk).state 1 =
        some (.loaded ((begun (reopened disk).state).loadWith "1.22").1) ∧
      Action.told .calls silentAnswer [.rebuild, .load] [0, 1, 0] (reopened disk).state 0 =
        some (.rebuilt (.error .toolchainUnknown)) ∧
      Action.reached .calls silentAnswer [.rebuild, .load] [0, 1, 0] (reopened disk).state =
        concluded .uninitialized ((begun (reopened disk).state).loadWith "1.22").2 := by
  rw [← Session.accept_readText]
  exact ⟨rfl, rfl, rfl, rfl⟩

def snapshotDisk : Disk :=
  unusualSession.save.2.disk

/-- The snapshot is accepted while a refresh is under way. -/
theorem loadWith_snapshotDisk :
    (begun (reopened snapshotDisk).state).loadWith "1.22" =
      (true, (begun (reopened snapshotDisk).state).serve unusualSession.store.index
        (Snapshot.capture unusualSession.store.index "1.22" unusualSession.now).timestamp) := by
  have known : unusualSession.store.toolchainVersion = some "1.22" := by decide +kernel
  have done : unusualSession.save.1 = .ok () := by decide +kernel
  have path : newSession.store.cachePath = unusualSession.store.cachePath := by decide +kernel
  have sound : unusualSession.Sound := Action.sound_reached _ _ _ _ rfl
  obtain ⟨saved, saves⟩ : ∃ saved, unusualSession.save = (.ok (), saved) :=
    ⟨unusualSession.save.2, by rw [← done]⟩
  have same : snapshotDisk = saved.disk := congrArg (fun result => result.2.disk) saves
  rw [same]
  exact Session.loadWith_of_save sound saves known rfl path

theorem load_amid_example :
    (0 ∈ [0] ∧ 1 ∉ [0]) ∧
      Action.told .calls silentAnswer [.rebuild, .load] [0, 1] (reopened snapshotDisk).state 1 =
        some (.loaded true) ∧
      Action.told .calls silentAnswer [.rebuild, .load] [0, 1] (reopened snapshotDisk).state 0 =
        none ∧
      Action.told .calls silentAnswer [.rebuild, .load] [0, 1, 0] (reopened snapshotDisk).state 0 =
        some (.rebuilt (.error .toolchainUnknown)) ∧
      (reopened snapshotDisk).state.Reloaded
        (Action.reached .calls silentAnswer [.rebuild, .load] [0, 1, 0]
          (reopened snapshotDisk).state) := by
  obtain ⟨suspended, loads, fails, -⟩ := told_reopened snapshotDisk
  rw [loadWith_snapshotDisk] at loads
  obtain ⟨reloaded, -⟩ := load_amid .rebuild silentAnswer (reopened snapshotDisk).state [0] [1] [0]
    (by decide) (by decide) loads suspended fails
  exact ⟨by decide, loads, suspended, fails, reloaded⟩

/-- The load has told that it serves the snapshot, and the snapshot is served in the end, but the
store is not ready. -/
theorem failed_refresh_undoes_load :
    Action.told .calls silentAnswer [.rebuild, .load] [0, 1] (reopened snapshotDisk).state 0 =
        none ∧
      Action.told .calls silentAnswer [.rebuild, .load] [0, 1] (reopened snapshotDisk).state 1 =
        some (.loaded true) ∧
      Action.told .calls silentAnswer [.rebuild, .load] [0, 1, 0] (reopened snapshotDisk).state 0 =
        some (.rebuilt (.error .toolchainUnknown)) ∧
      (Action.reached .calls silentAnswer [.rebuild, .load] [0, 1, 0]
        (reopened snapshotDisk).state).store.index = unusualSession.store.index ∧
      (Action.reached .calls silentAnswer [.rebuild, .load] [0, 1, 0]
        (reopened snapshotDisk).state).store.readiness = .uninitialized := by
  obtain ⟨suspended, loads, fails, reached⟩ := told_reopened snapshotDisk
  rw [loadWith_snapshotDisk] at loads reached
  rw [reached]
  generalize unusualSession.store.index = index
  exact ⟨suspended, loads, fails, rfl, rfl⟩

end Refresh.Kind

end SymbolCache
