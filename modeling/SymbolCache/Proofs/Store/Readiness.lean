import SymbolCache.Proofs.Job.Suspensions
import SymbolCache.Proofs.Refresh.SyncAgreement
import SymbolCache.Proofs.Store.Reports

/-!
# How ready a store is

A store becomes ready when a snapshot is loaded or a refresh succeeds, whichever it is, and no
failure of either takes that back. A start that fails is the exception: it leaves a store that
serves something loading, and another one uninitialized.
-/

set_option autoImplicit false

namespace SymbolCache

open Job hiding run_bind

namespace Session

/-- Between two actions that run alone, a session is as ready as told, and no refresh is under
way. -/
structure Rests (readiness : Readiness) (session : Session) : Prop where
  readiness : session.store.readiness = readiness
  idle : session.store.refreshing = false

end Session

open Session (Rests)

namespace Report

/-- How ready a store is after an action, if the action settles that. -/
def verdict (report : Report) (after : Session) : Option Readiness :=
  match report with
  | .started (.ok _) | .loaded true | .rebuilt (.ok _) | .synced (.ok _) | .refreshed (.ok _) =>
    some .ready
  | .started (.error _) => some (if after.store.index.isEmpty then .uninitialized else .loading)
  | .loaded false | .rebuilt (.error _) | .synced (.error _) | .refreshed (.error _) | .other =>
    none

def FailsToStart (report : Report) : Prop :=
  ∃ failure, report = .started (.error failure)

private theorem verdict_eq_ready_iff {report : Report} {after : Session} :
    report.verdict after = some .ready ↔ report.Succeeds := by
  constructor
  · intro settles
    unfold verdict at settles
    split at settles
    case h_1 how => exact .started how
    case h_2 => exact .loaded
    case h_3 stats => exact .rebuilt stats
    case h_4 stats => exact .synced stats
    case h_5 stats => exact .refreshed stats
    case h_6 => split at settles <;> cases settles
    all_goals cases settles
  · rintro (_ | _)
    all_goals rfl

private theorem verdict_eq_loading_iff {report : Report} {after : Session} :
    report.verdict after = some .loading ↔
      report.FailsToStart ∧ after.store.index.isEmpty = false := by
  constructor
  · intro settles
    unfold verdict at settles
    split at settles
    case h_6 failure =>
      refine ⟨⟨failure, rfl⟩, ?_⟩
      by_contra empty
      simp [empty] at settles
    all_goals cases settles
  · rintro ⟨⟨failure, rfl⟩, filled⟩
    simp [verdict, filled]

private theorem verdict_ne_rebuilding (report : Report) (after : Session) :
    report.verdict after ≠ some .rebuilding := by
  unfold verdict
  split
  case h_6 => split <;> simp
  all_goals simp

/-- What is settled by an action that is not a failed start is that the store is ready. -/
theorem verdict_of_started {report : Report} (started : ¬ report.FailsToStart) (after : Session) :
    report.verdict after = none ∨ report.verdict after = some .ready := by
  unfold verdict
  split
  case h_6 failure => exact absurd ⟨failure, rfl⟩ started
  all_goals simp

end Report

/-! ## Operations that run alone -/

namespace Operation

variable {readiness : Readiness}

private theorem rests_changeStore {change : Store → Store}
    (same : ∀ store, (change store).readiness = store.readiness)
    (idle : ∀ store, (change store).refreshing = store.refreshing) :
    Leads (Rests readiness) (changeStore change) fun _ => Rests readiness :=
  leads_modify fun session rests =>
    ⟨(same session.store).trans rests.readiness, (idle session.store).trans rests.idle⟩

private theorem rests_setReadiness (next : Readiness) :
    Leads (Rests readiness) (setReadiness next) fun _ => Rests next :=
  leads_modify fun _ rests => ⟨rfl, rests.idle⟩

private theorem rests_save : Leads (Rests readiness) save.run fun _ => Rests readiness := by
  have keeps : save.run.Keeps .calls (Rests readiness) (fun _ _ => True) Any :=
    keeps_save (fun _ _ _ rests => ⟨trivial, rests.readiness, rests.idle⟩)
      fun _ _ rests => ⟨trivial, rests.readiness, rests.idle⟩
  exact leads_of_keeps keeps

private theorem rests_ensureToolchain :
    Leads (Rests readiness) ensureToolchain.run fun _ => Rests readiness :=
  have keeps : ensureToolchain.run.Keeps .calls (Rests readiness) (fun _ _ => True) (IfOk Any) :=
    keeps_ensureToolchain fun _ =>
      keeps_modify fun _ rests => ⟨trivial, rests.readiness, rests.idle⟩
  leads_of_keeps (keeps.mono fun _ _ => trivial)

/-- A store is ready once a snapshot has been loaded; otherwise it is as ready as before. -/
theorem rests_load :
    Leads (Rests readiness) load fun served => Rests (if served then .ready else readiness) := by
  refine leads_bind rests_ensureToolchain fun result => ?_
  cases result with
  | error failure => exact leads_done fun _ rests => rests
  | ok version =>
      have reads : Leads (Rests readiness) (Job.await fun session : Session =>
          (session.disk.readText session.store.cachePath, session)) fun _ => Rests readiness :=
        leads_await fun _ rests => rests
      refine leads_bind reads fun content => ?_
      refine leads_update fun session rests => ?_
      rcases session.accept_cases version content with unchanged | ⟨_, _, index, -, -, -, served⟩
      · rw [unchanged]
        exact rests
      · rw [served]
        exact ⟨rfl, rests.idle⟩

/-- A store is ready after a refresh that succeeds, whatever it refreshes; otherwise it is as ready
as before. -/
theorem rests_guarded (refresh : Operation RefreshStats) :
    Leads (Rests readiness) (guarded refresh).run fun result =>
      Rests (if result.isOk then .ready else readiness) := by
  intro responder now rests
  have ran := run_guarded responder refresh now
  rw [rests.idle, if_neg Bool.false_ne_true] at ran
  rw [ran]
  generalize refresh.run.run responder ⟨Refresh.begun now.state, now.calls⟩ = result
  obtain ⟨failure | stats, after⟩ := result
  · exact ⟨rests.readiness, rfl⟩
  · exact ⟨rfl, rfl⟩

theorem rests_updateVersions (importPaths : Std.ExtTreeSet String) :
    Leads (Rests readiness) (updateVersions importPaths).run fun _ => Rests readiness := by
  let stays : Session → Prop := fun session => session.store.readiness = readiness
  suffices runs : Leads (Rests readiness) (updateVersions importPaths).run
      (Outcome (fun _ => Rests readiness) (Rests readiness)) from leads_anyway runs
  have begins : Leads (Rests readiness) beginRefresh.run
      (Outcome (fun _ => stays) (Rests readiness)) := by
    refine leads_update fun session rests => ?_
    rw [if_neg (by simp [rests.idle])]
    exact rests.readiness
  have ends : Leads stays endRefresh fun _ => Rests readiness :=
    leads_modify fun _ same => ⟨same, rfl⟩
  refine leads_operation_bind begins fun _ => ?_
  refine leads_operation_bind (leads_lift (leads_of_keeps (keeps_resolve _))) fun versions => ?_
  have serves : Leads stays (changeStore fun store =>
      store.install (store.index.mergeVersions versions)) fun _ => stays :=
    leads_modify fun _ same => same
  refine leads_operation_bind (leads_lift serves) fun _ => ?_
  exact leads_operation_bind (leads_lift ends) fun _ => leads_pure fun _ rests => rests

/-- A store is ready after a start that succeeds. After one that fails it is uninitialized if it
serves nothing, and else it stays loading. -/
theorem rests_start :
    Leads (Rests readiness) start.run (Outcome (fun _ => Rests .ready)
      fun after =>
        after.Rests (if after.store.index.isEmpty then .uninitialized else .loading)) := by
  refine leads_operation_bind (leads_lift (rests_setReadiness .loading)) fun _ => ?_
  refine leads_operation_bind (leads_lift rests_load) fun served => ?_
  refine leads_ite _ (fun loads => leads_pure fun session rests => ?_) fun fails => ?_
  · rwa [if_pos loads] at rests
  rw [if_neg fails]
  refine leads_operation_bind (leads_lift (rests_guarded _)) fun result => ?_
  cases result with
  | ok stats => exact leads_pure fun _ rests => rests
  | error failure =>
      have looks : Leads (Rests .loading) store fun store session =>
          store = session.store ∧ session.Rests .loading :=
        fun _ _ rests => ⟨rfl, rests⟩
      refine leads_operation_bind (leads_lift looks) fun store => ?_
      split
      case isTrue empty =>
        have resets : Leads (fun session => store = session.store ∧ session.Rests .loading)
            (setReadiness .uninitialized) fun _ session =>
              session.store.index.isEmpty = true ∧ session.Rests .uninitialized :=
          leads_modify fun session both => by
            rw [both.1] at empty
            exact ⟨empty, rfl, both.2.idle⟩
        refine leads_operation_bind (leads_lift resets) fun _ => leads_throw fun session both => ?_
        rw [if_pos both.1]
        exact both.2
      case isFalse filled =>
        refine leads_throw fun session both => ?_
        rw [← both.1, if_neg filled]
        exact both.2

end Operation

/-- A refresh settles how ready the store is if it succeeds. -/
theorem Report.rests_refresh (readiness : Readiness) (refresh : Operation RefreshStats)
    {tell : Except Failure RefreshStats → Report}
    (succeeds : ∀ stats after, (tell (.ok stats)).verdict after = some .ready)
    (fails : ∀ failure after, (tell (.error failure)).verdict after = none) :
    Leads (Rests readiness)
      ((Operation.guarded refresh).run.bind fun result => .done (tell result))
      fun report after => after.Rests ((report.verdict after).getD readiness) := by
  refine leads_bind (Operation.rests_guarded refresh) fun result => leads_done fun after rests => ?_
  cases result with
  | ok stats =>
      rw [succeeds]
      exact rests
  | error failure =>
      rw [fails]
      exact rests

/-- An action that brings no index settles nothing. -/
theorem Report.rests_other {readiness : Readiness} {job : Job Session Unit}
    (stays : Leads (Rests readiness) job fun _ => Rests readiness) :
    Leads (Rests readiness) (job.bind fun _ => .done Report.other)
      fun report after => after.Rests ((report.verdict after).getD readiness) :=
  leads_bind stays fun _ => leads_done fun _ rests => rests

open Operation in
/-- How ready a store is after an action that runs alone. -/
theorem Action.rests_report (action : Action) (readiness : Readiness) :
    Leads (Rests readiness) action.report fun report after =>
      after.Rests ((report.verdict after).getD readiness) := by
  cases action with
  | start =>
      refine leads_bind rests_start fun result => ?_
      cases result with
      | ok how => exact leads_done fun _ rests => rests
      | error failure => exact leads_done fun _ rests => rests
  | load =>
      refine leads_bind rests_load fun served => ?_
      cases served with
      | true => exact leads_done fun _ rests => rests
      | false => exact leads_done fun _ rests => rests
  | rebuild => exact Report.rests_refresh _ _ (fun _ _ => rfl) fun _ _ => rfl
  | sync => exact Report.rests_refresh _ _ (fun _ _ => rfl) fun _ _ => rfl
  | refreshPackages importPaths =>
      exact Report.rests_refresh _ _ (fun _ _ => rfl) fun _ _ => rfl
  | updateVersions importPaths =>
      exact Report.rests_other (leads_bind (rests_updateVersions _) fun _ => leads_done fun _ => id)
  | addSymbol symbol =>
      refine Report.rests_other (rests_changeStore (fun store => ?_) fun store => ?_)
      · unfold Store.addSymbol
        split <;> rfl
      · unfold Store.addSymbol
        split <;> rfl
  | save => exact Report.rests_other (leads_bind rests_save fun _ => leads_done fun _ => id)
  | shutdown => exact Report.rests_other (leads_bind rests_save fun _ => leads_done fun _ => id)
  | elapse disk now =>
      exact Report.rests_other (leads_modify fun _ rests => ⟨rests.readiness, rests.idle⟩)

/-! ## Actions one after the other -/

/-- How ready a store is after actions that were performed one after the other: as ready as the last
of them settled that settled anything. -/
def standing (readiness : Readiness) (performed : List (Report × Session)) : Readiness :=
  (performed.filterMap fun (report, after) => report.verdict after).getLast?.getD readiness

theorem standing_cons (readiness : Readiness) (report : Report) (after : Session)
    (performed : List (Report × Session)) :
    standing readiness ((report, after) :: performed) =
      standing ((report.verdict after).getD readiness) performed := by
  unfold standing
  cases settled : report.verdict after with
  | none => simp [settled]
  | some next => simp [settled, List.getLast?_cons]

theorem standing_of_none {readiness : Readiness} {performed : List (Report × Session)}
    (silent : ∀ entry ∈ performed, entry.1.verdict entry.2 = none) :
    standing readiness performed = readiness := by
  rw [standing, List.filterMap_eq_nil_iff.mpr silent]
  rfl

/-- The last verdict counts. -/
theorem standing_append {readiness settled : Readiness} {earlier since : List (Report × Session)}
    {entry : Report × Session} (settles : entry.1.verdict entry.2 = some settled) :
    standing readiness (earlier ++ entry :: since) = standing settled since := by
  induction earlier generalizing readiness with
  | nil => rw [List.nil_append, standing_cons, settles, Option.getD_some]
  | cons first earlier ih => rw [List.cons_append, standing_cons, ih]

/-- Either nothing is settled, or the last action that settles anything does. -/
theorem standing_cases (readiness : Readiness) (performed : List (Report × Session)) :
    (∀ entry ∈ performed, entry.1.verdict entry.2 = none) ∨
      ∃ earlier entry since, performed = earlier ++ entry :: since ∧
        entry.1.verdict entry.2 = some (standing readiness performed) ∧
          ∀ other ∈ since, other.1.verdict other.2 = none := by
  induction performed generalizing readiness with
  | nil => exact .inl fun _ member => nomatch member
  | cons first performed ih =>
      rw [standing_cons]
      rcases ih ((first.1.verdict first.2).getD readiness) with
        silent | ⟨earlier, entry, since, rfl, settles, silent⟩
      · cases settled : first.1.verdict first.2 with
        | none => exact .inl (List.forall_mem_cons.mpr ⟨settled, silent⟩)
        | some next =>
            refine .inr ⟨[], first, performed, rfl, ?_, silent⟩
            rw [settled, Option.getD_some, standing_of_none silent]
      · exact .inr ⟨first :: earlier, entry, since, rfl, settles, silent⟩

private theorem standing_ready {performed : List (Report × Session)}
    (started : ∀ entry ∈ performed, ¬ entry.1.FailsToStart) :
    standing .ready performed = .ready := by
  rcases standing_cases .ready performed with silent | ⟨earlier, entry, since, same, settles, -⟩
  · exact standing_of_none silent
  · have member : entry ∈ performed := by simp [same]
    rcases Report.verdict_of_started (started entry member) entry.2 with none | ready
    · rw [none] at settles
      cases settles
    · exact (Option.some.inj (settles.symm.trans ready))

private theorem standing_eq_ready_iff {readiness : Readiness} (waits : readiness ≠ .ready)
    (performed : List (Report × Session)) :
    standing readiness performed = .ready ↔
      ∃ earlier entry since, performed = earlier ++ entry :: since ∧ entry.1.Succeeds ∧
        ∀ other ∈ since, ¬ other.1.FailsToStart := by
  constructor
  · intro ready
    rcases standing_cases readiness performed with
      silent | ⟨earlier, entry, since, same, settles, silent⟩
    · exact absurd ((standing_of_none silent).symm.trans ready) waits
    · rw [ready] at settles
      refine ⟨earlier, entry, since, same, Report.verdict_eq_ready_iff.mp settles, ?_⟩
      rintro other member ⟨failure, failed⟩
      have nothing := silent other member
      rw [failed] at nothing
      cases nothing
  · rintro ⟨earlier, entry, since, rfl, succeeds, started⟩
    rw [standing_append (Report.verdict_eq_ready_iff.mpr succeeds), standing_ready started]

private theorem standing_eq_loading_iff {readiness : Readiness} (still : readiness ≠ .loading)
    (performed : List (Report × Session)) :
    standing readiness performed = .loading ↔
      ∃ earlier entry since, performed = earlier ++ entry :: since ∧
        (entry.1.FailsToStart ∧ entry.2.store.index.isEmpty = false) ∧
          ∀ other ∈ since, other.1.verdict other.2 = none := by
  constructor
  · intro loading
    rcases standing_cases readiness performed with
      silent | ⟨earlier, entry, since, same, settles, silent⟩
    · exact absurd ((standing_of_none silent).symm.trans loading) still
    · rw [loading] at settles
      exact ⟨earlier, entry, since, same, Report.verdict_eq_loading_iff.mp settles, silent⟩
  · rintro ⟨earlier, entry, since, rfl, strands, silent⟩
    rw [standing_append (Report.verdict_eq_loading_iff.mpr strands), standing_of_none silent]

private theorem standing_ne_rebuilding {readiness : Readiness} (still : readiness ≠ .rebuilding)
    (performed : List (Report × Session)) : standing readiness performed ≠ .rebuilding := by
  intro rebuilding
  rcases standing_cases readiness performed with silent | ⟨earlier, entry, since, -, settles, -⟩
  · exact still ((standing_of_none silent).symm.trans rebuilding)
  · rw [rebuilding] at settles
    exact Report.verdict_ne_rebuilding _ _ settles

/-- The sessions after actions that are performed are as ready as the verdicts up to then say. -/
theorem Action.rests_perform (responder : Responder) {actions : List Action}
    {readiness : Readiness} {now : Running Session} (rests : now.state.Rests readiness)
    {past later : List (Report × Session)} {report : Report} {after : Session}
    (performed : perform responder actions now = past ++ (report, after) :: later) :
    after.Rests (standing readiness (past ++ [(report, after)])) := by
  induction actions generalizing readiness now past with
  | nil => simp [perform] at performed
  | cons action actions ih =>
      have first := action.rests_report readiness responder now rests
      cases past with
      | nil =>
          obtain ⟨same, -⟩ := List.cons.inj performed
          obtain ⟨rfl, rfl⟩ := Prod.mk.inj same
          rw [List.nil_append, standing_cons]
          exact first
      | cons entry past =>
          obtain ⟨rfl, rest⟩ := List.cons.inj performed
          rw [List.cons_append, standing_cons]
          exact ih first rest

/-- How ready a store is after each of any actions that were performed one after the other on a new
store, whatever the answers and whatever happens to the disk. It is never left rebuilding. It is
left loading exactly if a start has failed while something was served, and nothing was settled
since. It is ready exactly if a snapshot was loaded or a refresh succeeded, by a start or otherwise,
and no start has failed since. -/
theorem Action.readiness_perform (responder : Responder) (actions : List Action)
    (session : Session) (new : session.Rests .uninitialized)
    {past later : List (Report × Session)} {report : Report} {after : Session}
    (performed : perform responder actions ⟨session, []⟩ = past ++ (report, after) :: later) :
    after.store.readiness ≠ .rebuilding ∧
      (after.store.readiness = .loading ↔
        ∃ earlier entry since, past ++ [(report, after)] = earlier ++ entry :: since ∧
          (entry.1.FailsToStart ∧ entry.2.store.index.isEmpty = false) ∧
            ∀ other ∈ since, other.1.verdict other.2 = none) ∧
      (after.store.readiness = .ready ↔
        ∃ earlier entry since, past ++ [(report, after)] = earlier ++ entry :: since ∧
          entry.1.Succeeds ∧ ∀ other ∈ since, ¬ other.1.FailsToStart) := by
  rw [(rests_perform responder new performed).readiness]
  exact ⟨standing_ne_rebuilding (by decide) _, standing_eq_loading_iff (by decide) _,
    standing_eq_ready_iff (by decide) _⟩

/-! ### A start that fails -/

/-- The answers in a workspace with one dependency, from a toolchain that does not tell its version
a second time. -/
def waningAnswer (calls : List Request) (request : Request) : Answer :=
  match request.invocation.arguments with
  | ["env", "GOVERSION"] => if calls.isEmpty then .ok "go1.22" else .error .toolchainUnknown
  | ["list", "-m", "all"] => .ok "work\nlib.org/c v1.0.0\n"
  | "list" :: "-e" :: _ => .ok "lib.org/c c false\n"
  | ["doc", "-all", "lib.org/c"] => .ok "func Open() int\n"
  | _ => .error .toolchainUnknown

def waningSession : Session where
  store := Store.create "/work" Refresh.exampleConfig
  disk := {}
  now := 0

def waningActions : List Action :=
  [.rebuild, .elapse {} 1, .start]

theorem readiness_perform_example :
    ∃ past report after, Action.perform waningAnswer waningActions ⟨waningSession, []⟩ =
        past ++ (report, after) :: [] ∧
      after.store.readiness = .loading := by
  have told : (Action.perform waningAnswer waningActions ⟨waningSession, []⟩).map
      (fun (report, after) => (report == .started (.error .toolchainUnknown),
        after.store.index.isEmpty)) = [(false, false), (false, false), (true, false)] := by
    decide +kernel
  generalize performed : Action.perform waningAnswer waningActions ⟨waningSession, []⟩ = list
    at told ⊢
  obtain ⟨first, second, ⟨report, after⟩, rfl⟩ := List.length_eq_three.mp
    ((List.length_map _).symm.trans (congrArg List.length told))
  simp only [List.map_cons, List.map_nil, List.cons.injEq, Prod.mk.injEq, beq_iff_eq] at told
  obtain ⟨-, -, ⟨failed, filled⟩, -⟩ := told
  have split : [first, second, (report, after)] = [first, second] ++ (report, after) :: [] := rfl
  rw [split] at performed ⊢
  obtain ⟨-, loading, -⟩ := Action.readiness_perform waningAnswer waningActions waningSession
    ⟨rfl, rfl⟩ performed
  exact ⟨[first, second], report, after, rfl,
    loading.mpr ⟨[first, second], (report, after), [], rfl, ⟨⟨_, failed⟩, filled⟩, by simp⟩⟩

/-- A rebuild has succeeded, and a start that fails afterwards leaves the store loading, although it
serves the index. -/
theorem failed_start_strands :
    (Action.perform waningAnswer waningActions ⟨waningSession, []⟩).map
        (fun (report, after) => (report.verdict after, after.store.readiness)) =
      [(some .ready, .ready), (none, .ready), (some .loading, .loading)] ∧
    (Action.perform waningAnswer waningActions ⟨waningSession, []⟩).map
        (fun entry => entry.2.store.index.isEmpty) = [false, false, false] := by
  decide +kernel

end SymbolCache
