import SymbolCache.Proofs.Store.LoadAmid

/-!
# Where another index is served

While an action gathers what it needs, the index stays as it is. Another index is served in one
stretch, as a whole and under the next generation. A refresh then saves it, with the file system at
work in between, and leaves the index alone until it is over, which it is with success.
-/

set_option autoImplicit false

namespace SymbolCache

open Job hiding run_bind
open Operation (Ends guarded)
open Refresh (Kind begun)

namespace Session

structure Steady (before after : Session) : Prop where
  index : after.store.index = before.store.index
  generation : after.store.generation = before.store.generation
  config : after.store.config = before.store.config

structure Advances (before after : Session) : Prop where
  generation : after.store.generation = before.store.generation + 1
  config : after.store.config = before.store.config

theorem Steady.refl (session : Session) : session.Steady session :=
  ⟨rfl, rfl, rfl⟩

theorem Steady.trans {first second third : Session} (left : first.Steady second)
    (right : second.Steady third) : first.Steady third :=
  ⟨right.index.trans left.index, right.generation.trans left.generation,
    right.config.trans left.config⟩

theorem Steady.advances {first second third : Session} (left : first.Steady second)
    (right : second.Advances third) : first.Advances third :=
  ⟨right.generation.trans (congrArg (· + 1) left.generation), right.config.trans left.config⟩

theorem Advances.steady {first second third : Session} (left : first.Advances second)
    (right : second.Steady third) : first.Advances third :=
  ⟨right.generation.trans left.generation, right.config.trans left.config⟩

theorem Advances.not_steady {before after : Session} (advances : before.Advances after) :
    ¬ before.Steady after := by
  intro steady
  have same := advances.generation.symm.trans steady.generation
  exact absurd same (Nat.succ_ne_self _)

theorem Notes.steady {before after : Session} (notes : before.Notes after) :
    before.Steady after := by
  obtain ⟨version, rfl⟩ := notes
  exact ⟨rfl, rfl, rfl⟩

theorem steady_begun (session : Session) : session.Steady (begun session) :=
  ⟨rfl, rfl, rfl⟩

theorem steady_concluded (readiness : Readiness) (session : Session) :
    session.Steady (Operation.concluded readiness session) :=
  ⟨rfl, rfl, rfl⟩

end Session

open Session (Notes Steady Advances)

/-! ## Before and after another index is served -/

/-- Whether an action still gathers what it needs, or has served another index and saves it. -/
inductive Phase where
  | gathers
  | saves

namespace Phase

/-- What has happened in the stretch before a suspension. Another index may be served by those that
save it. -/
def Pauses (saving : Prop) : Phase → Phase → Session → Session → Prop
  | gathers, gathers => Steady
  | gathers, saves => fun before after => saving ∧ before.Advances after
  | saves, gathers => fun _ _ => False
  | saves, saves => Steady

def Gathers (phase : Phase) (before after : Session) : Prop :=
  phase = gathers ∧ before.Steady after

def Served : Phase → Session → Session → Prop
  | gathers => Advances
  | saves => Steady

variable {saving : Prop} {phase : Phase}

theorem Served.steady {first second third : Session} (served : phase.Served first second)
    (steady : second.Steady third) : phase.Served first third := by
  cases phase with
  | gathers => exact served.steady steady
  | saves => exact served.trans steady

private theorem Pauses.of_steady {later : Phase} {first second third : Session}
    (steady : first.Steady second) (pauses : Pauses saving gathers later second third) :
    Pauses saving gathers later first third := by
  cases later with
  | gathers => exact steady.trans pauses
  | saves => exact ⟨pauses.1, steady.advances pauses.2⟩

theorem waiting_gathers : Operation.Waiting (Pauses saving) Gathers where
  notes _ _ _ _ holds notes := ⟨holds.1, holds.2.trans notes.steady⟩
  pauses := by
    rintro _ before after ⟨rfl, steady⟩
    exact ⟨gathers, steady, fun resumed => ⟨rfl, .refl resumed⟩⟩

/-- A job that leaves the index alone does so in each of its stretches. -/
theorem stretches_gathering {α : Type} {job : Job Session α}
    (keeps : job.Keeps .files (fun _ => True) Steady Any) :
    job.Stretches .files (Pauses saving) Gathers fun phase _ => Gathers phase := by
  have stretches : job.Stretches .files (Pauses saving) Gathers fun phase value before after =>
      Any value ∧ Gathers phase before after :=
    stretches_of_keeps keeps (fun _ _ _ _ holds steady => ⟨holds.1, holds.2.trans steady⟩)
      waiting_gathers.pauses
  exact stretches.weaken fun _ _ _ _ => And.right

/-- So it does once another one has been served. -/
theorem stretches_saving {α : Type} (may : saving) {job : Job Session α}
    (keeps : job.Keeps .files (fun _ => True) Steady Any) :
    job.Stretches .files (Pauses saving) Served fun phase _ => phase.Served := by
  have suspends : ∀ phase before after, Served phase before after →
      ∃ later, Pauses saving phase later before after ∧
        ∀ resumed, Served later resumed resumed := by
    rintro (_ | _) before after served
    · exact ⟨saves, ⟨may, served⟩, .refl⟩
    · exact ⟨saves, served, .refl⟩
  have stretches : job.Stretches .files (Pauses saving) Served fun phase value before after =>
      Any value ∧ phase.Served before after :=
    stretches_of_keeps keeps (fun _ _ _ _ served steady => served.steady steady) suspends
  exact stretches.weaken fun _ _ _ _ => And.right

/-- What a job does from the moment it is resumed, it does after a stretch that has left the index
alone. -/
theorem stretches_of_awaits {α : Type} {job : Job Session α}
    {after : Phase → α → Session → Session → Prop}
    (awaits : job.Awaits .files (Pauses saving) gathers after)
    (ends : ∀ value first second third, first.Steady second → after gathers value second third →
      after gathers value first third) :
    job.Stretches .files (Pauses saving) Gathers after := by
  rintro _ before state ⟨rfl, steady⟩
  exact (awaits state).rebase (fun _ _ => .of_steady steady) fun value third =>
    ends value before state third steady

end Phase

open Phase (Pauses Gathers Served)

namespace Operation

variable {saving : Prop}

/-! ## Refreshes -/

theorem keeps_save_steady : save.run.Keeps .files (fun _ : Session => True) Steady Any :=
  keeps_save (fun _ _ _ _ => ⟨⟨rfl, rfl, rfl⟩, trivial⟩) fun _ _ _ => ⟨⟨rfl, rfl, rfl⟩, trivial⟩

theorem stretches_installAndPersist_served (may : saving) (index : Index) :
    (installAndPersist index).Stretches .files (Pauses saving) Gathers fun phase _ =>
      phase.Served := by
  have serves : (changeStore fun store => store.install index).Stretches .files (Pauses saving)
      Gathers fun phase _ => phase.Served := by
    refine stretches_modify ?_
    rintro _ before state ⟨rfl, steady⟩
    exact steady.advances ⟨rfl, rfl⟩
  exact stretches_bind serves fun _ => Phase.stretches_saving may (keeps_finish keeps_save_steady)

private theorem stretches_body_served (may : saving) (kind : Kind) :
    kind.body.run.Stretches .files (Pauses saving) Gathers
      (Ends (fun phase _ before after => Gathers phase before after ∨ phase.Served before after)
        Gathers) :=
  kind.stretches_body Phase.waiting_gathers (stretches_installAndPersist_served may)

/-- What a refresh has done in its last stretch, as far as the index is concerned. Once it has
served another one, it does not fail. -/
def Brings : Phase → Except Failure RefreshStats → Session → Session → Prop
  | .gathers, result, before, after =>
    before.Steady after ∨
      before.Advances after ∧ (∃ stats, result = .ok stats) ∧ after.store.refreshing = false
  | .saves, result, before, after =>
    before.Steady after ∧ (∃ stats, result = .ok stats) ∧ after.store.refreshing = false

private theorem awaits_guarded (may : saving) (kind : Kind) :
    (guarded kind.body).run.Awaits .files (Pauses saving) .gathers Brings := by
  intro session
  have body := stretches_body_served may kind .gathers session (begun session)
    ⟨rfl, session.steady_begun⟩
  refine proceeds_guarded (fun _ => .inl (.refl session)) fun _ => ⟨body, ?_⟩
  rintro phase (failure | stats) before after concludes
  · obtain ⟨ended, ⟨rfl, steady⟩, rfl⟩ := concludes
    exact .inl (steady.trans (Session.steady_concluded _ ended))
  · obtain ⟨_, ended, ⟨rfl, steady⟩ | served, -, rfl⟩ := concludes
    · exact .inl (steady.trans (Session.steady_concluded _ ended))
    · have concluded := served.steady (Session.steady_concluded .ready ended)
      cases phase with
      | gathers => exact .inr ⟨concluded, ⟨stats, rfl⟩, rfl⟩
      | saves => exact ⟨concluded, ⟨stats, rfl⟩, rfl⟩

private theorem stretches_guarded (may : saving) (kind : Kind) :
    (guarded kind.body).run.Stretches .files (Pauses saving) Gathers Brings :=
  Phase.stretches_of_awaits (awaits_guarded may kind) fun _ _ _ _ steady brings =>
    brings.imp steady.trans fun ⟨advances, ended⟩ => ⟨steady.advances advances, ended⟩

def Merges (phase : Phase) (before after : Session) : Prop :=
  phase = .gathers ∧
    (before.Steady after ∨ before.Advances after ∧ after.store.refreshing = false)

private theorem awaits_updateVersions (paths : Std.ExtTreeSet String) :
    (updateVersions paths).run.Awaits .files (Pauses saving) .gathers fun phase _ =>
      Merges phase := by
  intro session
  have resolution : (resolve paths).Proceeds .files (Pauses saving) (fun phase _ => Gathers phase)
      .gathers session (flagged session) :=
    stretches_resolve Phase.waiting_gathers paths .gathers session _ ⟨rfl, rfl, rfl, rfl⟩
  refine proceeds_updateVersions (fun _ => ⟨rfl, .inl (.refl session)⟩) fun _ => ⟨resolution, ?_⟩
  rintro _ versions before after ⟨rfl, steady⟩
  exact ⟨rfl, .inr ⟨steady.advances ⟨rfl, rfl⟩, rfl⟩⟩

/-! ## Loads and starts -/

def Loaded (phase : Phase) (served : Bool) (before after : Session) : Prop :=
  phase = .gathers ∧ if served then before.Advances after else before.Steady after

private theorem stretches_load_served :
    load.Stretches .files (Pauses saving) Gathers Loaded := by
  refine stretches_bind (stretches_ensureToolchain Phase.waiting_gathers) fun result => ?_
  cases result with
  | error failure => exact stretches_done fun _ _ _ gathers => gathers
  | ok version =>
      have reads : (Job.await fun session : Session =>
          (session.disk.readText session.store.cachePath, session)).Keeps .files (fun _ => True)
            Steady Any :=
        keeps_await (fun session _ => ⟨.refl session, trivial⟩) fun _ _ => trivial
      refine stretches_bind (Phase.stretches_gathering reads) fun content => ?_
      refine stretches_update ?_
      rintro _ before session ⟨rfl, steady⟩
      rcases session.accept_cases version content with unchanged | ⟨_, _, _, -, -, -, served⟩
      · rw [unchanged]
        exact ⟨rfl, steady⟩
      · rw [served]
        exact ⟨rfl, steady.advances ⟨rfl, rfl⟩⟩

private theorem keeps_setReadiness_steady (readiness : Readiness) :
    (setReadiness readiness).Keeps .files (fun _ => True) Steady Any :=
  keeps_modify fun _ _ => ⟨⟨rfl, rfl, rfl⟩, trivial⟩

def Starts : Phase → Start → Session → Session → Prop
  | .gathers, told, before, after =>
    before.Steady after ∨ before.Advances after ∧
      (told = .loaded ∨ (∃ stats, told = .rebuilt stats) ∧ after.store.refreshing = false)
  | .saves, _, before, after => before.Steady after

private theorem stretches_start (may : saving) :
    start.run.Stretches .files (Pauses saving) Gathers (Ends Starts Gathers) := by
  have readies (readiness : Readiness) : (setReadiness readiness).Stretches .files
      (Pauses saving) Gathers fun phase _ => Gathers phase :=
    Phase.stretches_gathering (keeps_setReadiness_steady readiness)
  refine stretches_andThen (stretches_lift (readies _)) fun _ => ?_
  refine stretches_andThen (stretches_lift stretches_load_served) fun served => ?_
  cases served with
  | true =>
      refine stretches_pure ?_
      rintro _ before after ⟨rfl, advances⟩
      exact .inr ⟨advances, .inl rfl⟩
  | false =>
      refine stretches_andThen (stretches_lift (stretches_guarded may .rebuild)) fun result => ?_
      cases result with
      | ok stats =>
          refine stretches_pure ?_
          rintro (_ | _) before after brings
          · exact brings.imp_right fun ⟨advances, _, ended⟩ =>
              ⟨advances, .inr ⟨⟨stats, rfl⟩, ended⟩⟩
          · exact brings.1
      | error failure =>
          have looks : store.Stretches .files (Pauses saving)
              (fun phase => Brings phase (.error failure)) fun phase _ => Gathers phase := by
            rintro (_ | _) before after brings
            · refine ⟨rfl, brings.resolve_right ?_⟩
              rintro ⟨-, ⟨stats, impossible⟩, -⟩
              cases impossible
            · obtain ⟨-, ⟨stats, impossible⟩, -⟩ := brings
              cases impossible
          refine stretches_andThen (stretches_lift looks) fun store => ?_
          split
          case isTrue =>
            exact stretches_andThen (stretches_lift (readies _)) fun _ =>
              stretches_throw fun _ _ _ gathers => gathers
          case isFalse => exact stretches_throw fun _ _ _ gathers => gathers

private theorem awaits_addSymbol (symbol : Symbol) :
    (changeStore fun store => store.addSymbol symbol).Awaits .files (Pauses saving) .gathers
      fun phase _ before after => phase = .gathers ∧ (before.Steady after ∨
        before.Advances after ∧ symbol.isExported = true ∧
          after.store = before.store.addSymbol symbol) := by
  refine fun session => ⟨rfl, ?_⟩
  cases exported : symbol.isExported with
  | true =>
      have added : session.store.addSymbol symbol =
          session.store.install (session.store.index.add symbol) := if_pos exported
      refine .inr ⟨⟨?_, ?_⟩, rfl, rfl⟩
      · exact (congrArg Store.generation added).trans rfl
      · exact (congrArg Store.config added).trans rfl
  | false =>
      have refused : session.store.addSymbol symbol = session.store := if_neg (by simp [exported])
      exact .inl ⟨congrArg Store.index refused, congrArg Store.generation refused,
        congrArg Store.config refused⟩

end Operation

/-! ## Actions -/

namespace Action

/-- The actions that bring the index up to date, one of which is under way at a time. -/
def IsRefresh : Action → Prop
  | .start | .rebuild | .sync | .refreshPackages _ | .updateVersions _ => True
  | .load | .addSymbol _ | .save | .shutdown | .elapse _ _ => False

/-- The ends of actions that serve another index: an exported symbol was added, a snapshot was
loaded, or a refresh has succeeded, so that none is under way any more. -/
def Serves (before after : Session) : Action → Report → Prop
  | .addSymbol symbol, _ =>
    symbol.isExported = true ∧ after.store = before.store.addSymbol symbol
  | .load, report => report = .loaded true
  | .start, report =>
    report = .started (.ok .loaded) ∨
      (∃ stats, report = .started (.ok (.rebuilt stats))) ∧ after.store.refreshing = false
  | .rebuild, report => (∃ stats, report = .rebuilt (.ok stats)) ∧ after.store.refreshing = false
  | .sync, report => (∃ stats, report = .synced (.ok stats)) ∧ after.store.refreshing = false
  | .refreshPackages _, report =>
    (∃ stats, report = .refreshed (.ok stats)) ∧ after.store.refreshing = false
  | .updateVersions _, _ => after.store.refreshing = false
  | .save, _ => False
  | .shutdown, _ => False
  | .elapse _ _, _ => False

/-- What an action has done in its last stretch: nothing to the index, or it has served another one,
unless it did so in an earlier stretch. Then it has succeeded. -/
def Closes (action : Action) : Phase → Report → Session → Session → Prop
  | .gathers, report, before, after =>
    before.Steady after ∨ before.Advances after ∧ action.Serves before after report
  | .saves, report, before, after => before.Steady after ∧ report.Succeeds

end Action

open Operation

theorem Refresh.Kind.awaits_report_action {saving : Prop} (may : saving) (kind : Kind) :
    kind.action.report.Awaits .files (Pauses saving) .gathers kind.action.Closes := by
  rw [kind.report_action]
  refine fun session => (awaits_guarded may kind session).bind fun result => stretches_done ?_
  rintro (_ | _) before after brings
  · refine brings.imp_right fun ⟨advances, ⟨stats, same⟩, ended⟩ => ⟨advances, ?_⟩
    subst same
    cases kind with
    | rebuild => exact ⟨⟨stats, rfl⟩, ended⟩
    | sync => exact ⟨⟨stats, rfl⟩, ended⟩
    | packages importPaths => exact ⟨⟨stats, rfl⟩, ended⟩
  · obtain ⟨steady, ⟨stats, rfl⟩, -⟩ := brings
    refine ⟨steady, ?_⟩
    cases kind with
    | rebuild => exact .rebuilt stats
    | sync => exact .synced stats
    | packages importPaths => exact .refreshed stats

/-- In each of its stretches an action leaves the index alone, but in one at most. -/
theorem Action.awaits_report (action : Action) :
    action.report.Awaits .files (Pauses action.IsRefresh) .gathers action.Closes := by
  have quietly : ∀ {job : Job Session Unit}, job.Keeps .files (fun _ => True) Steady Any →
      (job.bind fun _ => .done Report.other).Awaits .files (Pauses action.IsRefresh) .gathers
        action.Closes := by
    intro job keeps
    refine Stretches.awaits (stretches_bind (Phase.stretches_gathering keeps) fun _ => ?_)
      fun session => ⟨rfl, .refl session⟩
    refine stretches_done ?_
    rintro _ before after ⟨rfl, steady⟩
    exact .inl steady
  cases action with
  | start =>
      refine Stretches.awaits (stretches_bind (stretches_start trivial) fun result => ?_)
        fun session => ⟨rfl, .refl session⟩
      cases result with
      | error failure =>
          refine stretches_done ?_
          rintro _ before after ⟨rfl, steady⟩
          exact .inl steady
      | ok told =>
          refine stretches_done ?_
          rintro (_ | _) before after starts
          · refine starts.imp_right fun ⟨advances, how⟩ => ⟨advances, ?_⟩
            rcases how with rfl | ⟨⟨stats, rfl⟩, ended⟩
            · exact .inl rfl
            · exact .inr ⟨⟨stats, rfl⟩, ended⟩
          · exact ⟨starts, .started told⟩
  | load =>
      refine Stretches.awaits (stretches_bind stretches_load_served fun served => ?_)
        fun session => ⟨rfl, .refl session⟩
      refine stretches_done ?_
      rintro _ before after ⟨rfl, loaded⟩
      cases served with
      | true => exact .inr ⟨loaded, rfl⟩
      | false => exact .inl loaded
  | rebuild => exact Kind.awaits_report_action trivial .rebuild
  | sync => exact Kind.awaits_report_action trivial .sync
  | refreshPackages importPaths => exact Kind.awaits_report_action trivial (.packages importPaths)
  | updateVersions importPaths =>
      have finishes : (Operation.updateVersions importPaths).run.finish.Awaits .files
          (Pauses True) .gathers fun phase _ => Merges phase :=
        fun session => (awaits_updateVersions importPaths session).bind fun _ =>
          stretches_done fun _ _ _ merges => merges
      refine fun session => (finishes session).bind fun _ => stretches_done ?_
      rintro _ before after ⟨rfl, merges⟩
      exact merges
  | addSymbol symbol =>
      refine fun session => (awaits_addSymbol symbol session).bind fun _ => stretches_done ?_
      rintro _ before after ⟨rfl, adds⟩
      exact adds
  | save => exact quietly (keeps_finish keeps_save_steady)
  | shutdown => exact quietly (keeps_finish keeps_save_steady)
  | elapse disk now => exact quietly (keeps_modify fun _ _ => ⟨⟨rfl, rfl, rfl⟩, trivial⟩)

/-! ## First turns -/

/-- A start reads files or asks for the version of the toolchain before all else. -/
theorem Operation.steady_resume_start (responder : Responder) (now : Running Session) :
    now.state.Steady (start.run.resume .files responder now).2.state := by
  obtain ⟨⟨⟨cachePath, config, toolchain, version⟩, disk, time⟩, calls⟩ := now
  cases version with
  | none => exact ⟨rfl, rfl, rfl⟩
  | some version => exact ⟨rfl, rfl, rfl⟩

/-- A refresh that starts while another one is under way leaves the index alone in its first turn:
it is refused, or it is a start, which is not a refresh yet. -/
theorem Action.steady_resume_report (action : Action) (responder : Responder)
    (refresh : action.IsRefresh) {now : Running Session}
    (busy : now.state.store.refreshing = true) :
    now.state.Steady (action.report.resume .files responder now).2.state := by
  have refused (kind : Kind) :
      now.state.Steady (kind.action.report.resume .files responder now).2.state := by
    rw [kind.resume_report_of_refreshing .files responder busy]
    exact .refl _
  cases action with
  | start =>
      have turn := resume_bind_done .files responder Operation.start.run Report.started now
      exact (congrArg (fun result => result.2.state) turn) ▸ steady_resume_start responder now
  | rebuild => exact refused .rebuild
  | sync => exact refused .sync
  | refreshPackages importPaths => exact refused (.packages importPaths)
  | updateVersions importPaths =>
      have turn : (Operation.updateVersions importPaths).run.resume .files responder now =
          (.done (.error .refreshInProgress), now) := by
        rw [Operation.updateVersions, resume_beginRefresh, if_pos busy]
      change now.state.Steady ((((Operation.updateVersions importPaths).run.bind
        fun _ => .done ()).bind fun _ => .done Report.other).resume .files responder now).2.state
      rw [resume_bind_done, resume_bind_done, turn]
      exact .refl _
  | _ => exact refresh.elim

end SymbolCache
