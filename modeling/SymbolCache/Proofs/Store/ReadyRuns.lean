import SymbolCache.Proofs.Store.Readiness

/-!
# What makes a store ready

In any run of actions on a new store, however they alternate, the store is ready only once one of
them has succeeded in bringing an index. A targeted refresh is one that does, although it looks at a
few packages only.
-/

set_option autoImplicit false

namespace SymbolCache

open Job hiding run_bind

structure Session.Waits (session : Session) : Prop where
  sound : session.Sound
  unready : session.store.readiness ≠ .ready

open Session (Waits)

namespace Operation

/-! ## Operations among others -/

section

variable {α β : Type} {condition before failed : Session → Prop}

theorem sustains_andThen {between : α → Session → Prop} {after : β → Session → Prop}
    {operation : Operation α} {next : α → Operation β}
    (first : operation.run.Sustains condition before (Outcome between failed))
    (later : ∀ value,
      (next value).run.Sustains condition (between value) (Outcome after failed)) :
    (operation >>= next).run.Sustains condition before (Outcome after failed) := by
  rw [run_bind]
  refine sustains_bind first fun result => ?_
  cases result with
  | error failure => exact sustains_done fun _ holds => holds
  | ok value => exact later value

theorem sustains_lift {job : Job Session α} {after : α → Session → Prop}
    (sustains : job.Sustains condition before after) :
    (liftM job : Operation α).run.Sustains condition before (Outcome after failed) := by
  rw [run_lift]
  exact sustains_bind sustains fun value => sustains_done fun _ holds => holds

private theorem sustains_operation {change : Session → Session → Prop} {operation : Operation α}
    (keeps : operation.run.Keeps .files condition change (IfOk Any)) :
    operation.run.Sustains condition condition (Outcome (fun _ => condition) condition) :=
  (sustains_of_keeps keeps).mono fun result _ holds => by
    cases result with
    | error failure => exact holds
    | ok value => exact holds

end

/-! ## Operations that leave a store waiting -/

theorem waits_changeStore {change : Store → Store}
    (index : ∀ store, (change store).index = store.index)
    (readiness : ∀ store, store.readiness ≠ .ready → (change store).readiness ≠ .ready) :
    (changeStore change).Keeps .files Waits (fun _ _ => True) Any :=
  keeps_modify fun session waits => by
    refine ⟨trivial, ?_, readiness session.store waits.unready⟩
    rw [Session.Sound, Session.mapStore, index]
    exact waits.sound

theorem waits_save : save.run.Keeps .files Waits (fun _ _ => True) Any :=
  keeps_save (fun _ _ _ waits => ⟨trivial, waits.sound, waits.unready⟩)
    fun _ _ waits => ⟨trivial, waits.sound, waits.unready⟩

theorem admits_waits : Admits .files Waits fun _ _ => True where
  sound _ waits := waits.sound
  notes _ := waits_changeStore (fun _ => rfl) fun _ => id
  serves index consistent := by
    have installs : (changeStore fun store => store.install index).Keeps .files Waits
        (fun _ _ => True) Any :=
      keeps_modify fun _ waits => ⟨trivial, consistent, waits.unready⟩
    exact keeps_bind installs fun _ _ => keeps_finish waits_save

private theorem waits_beginRefresh :
    beginRefresh.run.Keeps .files Waits (fun _ _ => True) (IfOk Any) := by
  refine keeps_mk (keeps_update (fun session waits => ⟨trivial, ?_⟩) fun _ _ => trivial)
  split
  · exact waits
  · exact ⟨waits.sound, waits.unready⟩

private theorem waits_updateVersions (importPaths : Std.ExtTreeSet String) :
    (updateVersions importPaths).run.Keeps .files Waits (fun _ _ => True) (IfOk Any) := by
  refine keeps_andThen waits_beginRefresh fun _ _ => ?_
  refine keeps_andThen (keeps_lift (keeps_resolve _)) fun versions _ => ?_
  refine keeps_andThen (keeps_lift (keeps_modify fun _ waits =>
    ⟨trivial, waits.sound.mergeVersions versions, waits.unready⟩)) fun _ _ => ?_
  exact keeps_andThen (keeps_lift (waits_changeStore (fun _ => rfl) fun _ => id)) fun _ _ =>
    keeps_pure _

/-! ## Operations that end the wait -/

theorem sustains_setReadiness {readiness : Readiness} (unready : readiness ≠ .ready) :
    (setReadiness readiness).Sustains Waits Waits fun _ => Waits :=
  sustains_of_keeps (waits_changeStore (fun _ => rfl) fun _ _ => unready)

/-- A store waits until a refresh succeeds. -/
theorem sustains_guarded {refresh : Operation RefreshStats}
    (keeps : refresh.run.Keeps .files Waits (fun _ _ => True) (IfOk Any)) :
    (guarded refresh).run.Sustains Waits Waits (Outcome (fun _ _ => True) Waits) := by
  have looks : store.Sustains Waits Waits
      fun store session => store.readiness ≠ .ready ∧ session.Waits :=
    sustains_look fun _ waits => ⟨waits.unready, waits⟩
  have starts : now.Sustains Waits Waits fun _ => Waits :=
    sustains_look fun _ waits => waits
  have ends : endRefresh.Sustains Waits Waits fun _ => Waits :=
    sustains_of_keeps (waits_changeStore (fun _ => rfl) fun _ => id)
  refine sustains_andThen (sustains_operation waits_beginRefresh) fun _ => ?_
  refine sustains_andThen (sustains_lift looks) fun prior => sustains_and fun unready => ?_
  refine sustains_andThen (sustains_lift starts) fun started => ?_
  refine sustains_andThen (sustains_lift (sustains_setReadiness (by decide))) fun _ => ?_
  refine sustains_andThen (sustains_lift (sustains_of_keeps keeps)) fun result => ?_
  cases result with
  | ok stats =>
      -- From here on there is no call, and nothing is asked of the session any more.
      exact fun _ _ => trivial
  | error failure =>
      refine sustains_andThen (sustains_lift (sustains_setReadiness unready)) fun _ => ?_
      exact sustains_andThen (sustains_lift ends) fun _ => sustains_done fun _ waits => waits

/-- A store waits until a snapshot is loaded. -/
theorem sustains_load :
    load.Sustains Waits Waits fun served session => served = true ∨ session.Waits := by
  have asks := keeps_ensureToolchain admits_waits.notes
  refine sustains_bind (sustains_of_keeps asks) fun result => ?_
  cases result with
  | error failure => exact sustains_done fun _ => .inr
  | ok version =>
      have reads : (Job.await fun session : Session =>
          (session.disk.readText session.store.cachePath, session)).Keeps .files Waits
            (fun _ _ => True) Any :=
        keeps_await (fun _ waits => ⟨trivial, waits⟩) fun _ _ => trivial
      refine sustains_bind (sustains_of_keeps reads) fun content => ?_
      refine sustains_update fun session waits => ?_
      rcases session.accept_cases version content with unchanged | ⟨_, _, _, -, -, -, served⟩
      · rw [unchanged]
        exact .inr waits
      · rw [served]
        exact .inl rfl

/-- A store waits until a start succeeds. -/
theorem sustains_start : start.run.Sustains Waits Waits (Outcome (fun _ _ => True) Waits) := by
  have rebuilds := sustains_guarded (keeps_rebuildIndex admits_waits)
  have looks : store.Sustains Waits Waits fun _ => Waits :=
    sustains_look fun _ waits => waits
  refine sustains_andThen (sustains_lift (sustains_setReadiness (by decide))) fun _ => ?_
  refine sustains_andThen (sustains_lift sustains_load) fun served => ?_
  cases served with
  | true => exact sustains_done fun _ _ => trivial
  | false =>
      intro session unserved
      have waits : session.Waits := unserved.resolve_left Bool.false_ne_true
      refine sustains_andThen (sustains_lift rebuilds) (fun result => ?_) session waits
      cases result with
      | ok stats => exact sustains_done fun _ _ => trivial
      | error failure =>
          refine sustains_andThen (sustains_lift looks) fun store => ?_
          split
          · refine sustains_andThen (sustains_lift (sustains_setReadiness (by decide))) fun _ => ?_
            exact sustains_done fun _ waits => waits
          · exact sustains_done fun _ waits => waits

end Operation

/-! ## Reports -/

namespace Report

/-- A refresh that ends the wait tells so. -/
theorem sustains_refresh {refresh : Operation RefreshStats}
    (keeps : refresh.run.Keeps .files Waits (fun _ _ => True) (Operation.IfOk Any))
    {tell : Except Failure RefreshStats → Report}
    (succeeds : ∀ stats, (tell (.ok stats)).Succeeds) :
    ((Operation.guarded refresh).run.bind fun result => .done (tell result)).Sustains Waits Waits
      fun report session => report.Succeeds ∨ session.Waits := by
  refine sustains_bind (Operation.sustains_guarded keeps) fun result => ?_
  cases result with
  | ok stats => exact sustains_done fun _ _ => .inl (succeeds stats)
  | error failure => exact sustains_done fun _ => .inr

theorem sustains_other {job : Job Session Unit}
    (keeps : job.Keeps .files Waits (fun _ _ => True) Any) :
    (job.bind fun _ => .done other).Sustains Waits Waits
      fun report session => report.Succeeds ∨ session.Waits :=
  sustains_bind (sustains_of_keeps keeps) fun _ => sustains_done fun _ => .inr

end Report

open Operation in
/-- A store waits until an action tells that it has brought an index. -/
theorem Action.sustains_report (action : Action) :
    action.report.Sustains Waits Waits fun report session => report.Succeeds ∨ session.Waits := by
  cases action with
  | start =>
      refine sustains_bind sustains_start fun result => ?_
      cases result with
      | ok how => exact sustains_done fun _ _ => .inl (.started how)
      | error failure => exact sustains_done fun _ => .inr
  | load =>
      refine sustains_bind sustains_load fun served => sustains_done fun session => ?_
      refine Or.imp_left fun loads => ?_
      rw [loads]
      exact .loaded
  | rebuild => exact Report.sustains_refresh (keeps_rebuildIndex admits_waits) .rebuilt
  | sync => exact Report.sustains_refresh (keeps_syncOrRebuild admits_waits) .synced
  | refreshPackages importPaths =>
      exact Report.sustains_refresh (keeps_refreshIndex admits_waits importPaths) .refreshed
  | updateVersions importPaths =>
      exact Report.sustains_other (keeps_finish (waits_updateVersions importPaths))
  | addSymbol symbol =>
      refine Report.sustains_other (keeps_modify fun session waits => ⟨trivial, ?_⟩)
      unfold Session.mapStore Store.addSymbol
      split
      · exact ⟨waits.sound.add symbol, waits.unready⟩
      · exact waits
  | save => exact Report.sustains_other (keeps_finish waits_save)
  | shutdown => exact Report.sustains_other (keeps_finish waits_save)
  | elapse disk now =>
      exact Report.sustains_other (keeps_modify fun _ waits =>
        ⟨trivial, waits.sound, waits.unready⟩)

/-! ## Runs -/

namespace Operation

private theorem readiness_refreshPackages {responder : Responder} {now ended : Running Session}
    {importPaths : List String} {stats : RefreshStats}
    (succeeds : (refreshPackages importPaths).run.run responder now = (.ok stats, ended)) :
    ended.state.store.readiness = .ready := by
  obtain ⟨-, counted, after, -, -, rfl⟩ := ok_of_guarded succeeds
  rfl

private theorem readiness_updateVersions (responder : Responder) (now : Running Session)
    (importPaths : Std.ExtTreeSet String) :
    ((updateVersions importPaths).run.run responder now).2.state.store.readiness =
      now.state.store.readiness := by
  cases refreshing : now.state.store.refreshing with
  | false => exact (rests_updateVersions importPaths responder now ⟨rfl, refreshing⟩).readiness
  | true =>
      simp only [updateVersions, beginRefresh, run_bind, run_mk, Job.update, Job.run_bind, Job.run,
        refreshing, if_true, andThen_error]

end Operation

/-- What it takes for a store to be ready. In any run of actions on a new store, whatever the
answers and in whatever order the actions go on, the store is ready only if one of them has told
that it loaded a snapshot or that a refresh succeeded, by a start or otherwise. Every refresh counts
for that, a targeted one as well, which makes every store ready when it succeeds; an update of
versions does not. -/
theorem Action.ready_of_reports (grain : Grain) (responder : Responder) (actions : List Action)
    (schedule : List Nat) (session : Session) (new : session.store.index = .empty)
    (uninitialized : session.store.readiness = .uninitialized) :
    ((reached grain responder actions schedule session).store.readiness = .ready →
      ∃ report ∈ reports grain responder actions schedule session, report.Succeeds) ∧
    (∀ importPaths now stats ended,
      (Operation.refreshPackages importPaths).run.run responder now = (.ok stats, ended) →
        ended.state.store.readiness = .ready) ∧
    (∀ importPaths now,
      ((Operation.updateVersions importPaths).run.run responder now).2.state.store.readiness =
        now.state.store.readiness) := by
  refine ⟨fun ready => ?_, fun _ _ _ _ => Operation.readiness_refreshPackages,
    fun importPaths now => Operation.readiness_updateVersions responder now importPaths⟩
  have waits : session.Waits := by
    refine ⟨?_, by simp [uninitialized]⟩
    rw [Session.Sound, new]
    exact Index.consistent_empty
  have sustain : ∀ job ∈ actions.map Action.report, job.Sustains Waits Waits
      fun report session => report.Succeeds ∨ session.Waits := by
    intro job member
    obtain ⟨action, -, rfl⟩ := List.mem_map.mp member
    exact action.sustains_report
  rcases sustains_interleave grain responder schedule sustain { state := session, calls := [] }
    waits with ⟨report, member, succeeds⟩ | waits
  · exact ⟨report, List.mem_filterMap.mpr ⟨_, member, rfl⟩, succeeds⟩
  · rw [reached_eq] at ready
    exact absurd ready waits.unready

/-! ### A targeted refresh of a new store -/

def targetedActions : List Action :=
  [.refreshPackages ["lib.org/c"]]

theorem ready_of_reports_example :
    ∃ report ∈ Action.reports .calls waningAnswer targetedActions [0, 0, 0, 0, 0] waningSession,
      report.Succeeds := by
  obtain ⟨succeeds, -⟩ := Action.ready_of_reports .calls waningAnswer targetedActions
    [0, 0, 0, 0, 0] waningSession rfl rfl
  exact succeeds (by decide +kernel)

/-- A new store is ready after a targeted refresh, although nothing else was asked of it. -/
theorem targeted_refresh_readies :
    (Action.reached .calls waningAnswer targetedActions [0, 0, 0, 0, 0]
          waningSession).store.readiness = .ready ∧
      (Action.reports .calls waningAnswer targetedActions [0, 0, 0, 0, 0] waningSession).map
          (fun | .refreshed result => result.isOk | _ => false) = [true] := by
  decide +kernel

end SymbolCache
