import Mathlib.Data.List.Induction
import SymbolCache.Proofs.Store.IdleSyncs
import SymbolCache.Query

/-!
# Generations

In any run the index that is served changes only when another one is served as a whole, and every
time the generation is raised by one. Answers of the same generation therefore come from the same
index, whatever goes on between them.
-/

set_option autoImplicit false

namespace SymbolCache

open Job hiding run_bind
open Operation (FallsBack Spares)
open Phase (Pauses Gathers)
open Session (Steady Advances Follows)

/-! ## Questions -/

inductive Question where
  | search (limit : Nat) (query : String)
  | complete (limit : Nat) (document line : String)

namespace Store

def answer (store : Store) : Question → Answered
  | .search limit query => store.search limit query
  | .complete limit document line => store.complete limit document line

private theorem generation_complete (store : Store) (limit : Nat) (document line : String) :
    (store.complete limit document line).generation = store.generation := by
  unfold complete
  split
  · rfl
  · split
    · rfl
    · split
      · rfl
      · split
        · rfl
        · rfl

/-- Every answer carries the generation of the store that gives it. -/
theorem generation_answer (store : Store) (question : Question) :
    (store.answer question).generation = store.generation := by
  cases question with
  | search limit query => rfl
  | complete limit document line => exact store.generation_complete limit document line

end Store

/-- Answers depend on the index, its generation and the configuration only. -/
theorem Session.Steady.answer_eq {before after : Session} (steady : before.Steady after)
    (question : Question) : after.store.answer question = before.store.answer question := by
  obtain ⟨⟨_, _, _, _, _, _, _, _, _⟩, _, _⟩ := before
  obtain ⟨⟨_, _, _, _, _, _, _, _, _⟩, _, _⟩ := after
  obtain ⟨rfl, rfl, rfl⟩ := steady
  cases question with
  | search limit query => rfl
  | complete limit document line => rfl

/-! ## Runs -/

structure Setting where
  responder : Responder
  actions : List Action
  session : Session

namespace Setting

variable (setting : Setting)

def pool (schedule : List Nat) : List (Job Session Report) × Running Session :=
  Action.runReports .files setting.responder setting.actions schedule setting.session

def after (schedule : List Nat) : Session :=
  Action.reached .files setting.responder setting.actions schedule setting.session

def told (schedule : List Nat) (position : Nat) : Option Report :=
  Action.told .files setting.responder setting.actions schedule setting.session position

/-- With the turn of a position, the action there serves another index. It is over with that, or it
is a refresh that goes on to save the index, and does not fail. -/
def Serves (schedule : List Nat) (position : Nat) : Prop :=
  ∃ action, setting.actions[position]? = some action ∧
    setting.told schedule position = none ∧
    (setting.after schedule).Advances (setting.after (schedule ++ [position])) ∧
    ((∃ report, setting.told (schedule ++ [position]) position = some report ∧
        action.Serves (setting.after schedule) (setting.after (schedule ++ [position])) report) ∨
      action.IsRefresh ∧ ∀ report,
        setting.told (schedule ++ [position]) position = some report → report.Succeeds)

/-- The action at a position is a refresh that has been started and has not come to its end. -/
def IsUnderWay (schedule : List Nat) (position : Nat) : Prop :=
  ∃ action, setting.actions[position]? = some action ∧ action.IsRefresh ∧
    position ∈ schedule ∧ setting.told schedule position = none

/-- With the turn of a position a symbol is added, a snapshot is loaded, or a refresh goes on that
is under way. -/
def Interrupts (schedule : List Nat) (position : Nat) : Prop :=
  (∃ symbol, setting.actions[position]? = some (.addSymbol symbol)) ∨
    setting.actions[position]? = some .load ∨ setting.IsUnderWay schedule position

def Quiet (schedule : List Nat) (position : Nat) : Prop :=
  ∀ early late, schedule = early ++ position :: late →
    (setting.after early).Steady (setting.after (early ++ [position]))

/-- In its second turn, the sync at a position has fallen back to a rebuild. -/
def FallsBack (schedule : List Nat) (position : Nat) : Prop :=
  ∃ early amid late, schedule = early ++ position :: (amid ++ position :: late) ∧
    position ∉ early ∧ position ∉ amid ∧
    Operation.FallsBack (setting.after early)
      (setting.after (early ++ position :: (amid ++ [position])))

/-- The action at a position has nothing to serve: a load that was rejected, a symbol that is not
exported, or a sync that has found nothing to do. -/
inductive Declines (schedule : List Nat) (position : Nat) : Prop where
  | load (here : setting.actions[position]? = some .load)
      (told : setting.told schedule position = some (.loaded false))
  | symbol {symbol : Symbol} (here : setting.actions[position]? = some (.addSymbol symbol))
      (hidden : symbol.isExported = false)
  | sync {stats : RefreshStats} (here : setting.actions[position]? = some .sync)
      (told : setting.told schedule position = some (.synced (.ok stats))) (idle : stats.Idle)
      (synced : ¬ setting.FallsBack schedule position)

variable {setting} {schedule : List Nat} {position : Nat}

theorem after_eq (schedule : List Nat) : setting.after schedule = (setting.pool schedule).2.state :=
  Action.reached_eq _ _ _ _ _

theorem pool_append (schedule later : List Nat) :
    setting.pool (schedule ++ later) =
      interleave .files setting.responder later (setting.pool schedule).1
        (setting.pool schedule).2 :=
  interleave_append _ _ _ _ _

theorem told_eq_some_iff {report : Report} :
    setting.told schedule position = some report ↔
      (setting.pool schedule).1[position]? = some (.done report) := by
  unfold told pool Action.told
  constructor
  · intro told
    obtain ⟨job, there, ended⟩ := Option.bind_eq_some_iff.mp told
    rw [there, eq_done_of_value? ended]
  · intro there
    rw [there]
    rfl

private theorem told_eq_none
    (goesOn : ∀ report, (setting.pool schedule).1[position]? ≠ some (.done report)) :
    setting.told schedule position = none :=
  Option.eq_none_iff_forall_ne_some.mpr fun report told => goesOn report (told_eq_some_iff.mp told)

theorem told_append {report : Report} (told : setting.told schedule position = some report)
    (later : List Nat) : setting.told (schedule ++ later) position = some report := by
  rw [told_eq_some_iff] at told ⊢
  rw [pool_append]
  exact getElem?_done_interleave .files setting.responder later told _

/-! ## Turns -/

theorem getElem?_pool_of_not_mem {action : Action}
    (here : setting.actions[position]? = some action) (waits : position ∉ schedule) :
    (setting.pool schedule).1[position]? = some action.report := by
  rw [pool, Action.runReports, getElem?_interleave_of_not_mem _ _ waits, List.getElem?_map, here]
  rfl

/-- Where nobody is there is no turn. -/
theorem steady_of_absent (nobody : setting.actions[position]? = none) (schedule : List Nat) :
    (setting.after schedule).Steady (setting.after (schedule ++ [position])) := by
  have absent : (setting.pool schedule).1[position]? = none := by
    rw [List.getElem?_eq_none_iff] at nobody ⊢
    rw [pool, Action.runReports, length_interleave, List.length_map]
    exact nobody
  have turn := interleave_concat .files setting.responder schedule position
    (setting.actions.map Action.report) ⟨setting.session, []⟩
  have same : setting.pool (schedule ++ [position]) = setting.pool schedule := by
    unfold pool Action.runReports at absent ⊢
    rw [turn, absent]
  rw [after_eq, after_eq, same]
  exact .refl _

abbrev Awaited (setting : Setting) (action : Action) (phase : Phase) (position : Nat)
    (schedule : List Nat) : Prop :=
  Pends .files (Pauses action.IsRefresh) action.Closes phase position (setting.pool schedule).1

section

variable {action : Action} {phase : Phase}

private theorem exists_awaited (here : setting.actions[position]? = some action)
    (schedule : List Nat) :
    ∃ phase, setting.Awaited action phase position schedule := by
  have start : setting.Awaited action .gathers position [] :=
    ⟨_, getElem?_pool_of_not_mem here List.not_mem_nil, .inr action.awaits_report⟩
  have lasts : ∀ phase later before after, True → Pauses action.IsRefresh phase later before after →
      True := fun _ _ _ _ _ _ => trivial
  obtain ⟨phase, -, awaited⟩ := start.interleave .files setting.responder lasts trivial schedule
    (setting.pool []).2
  rw [← pool_append, List.nil_append] at awaited
  exact ⟨phase, awaited⟩

/-- An action that has served another index goes on to save it. -/
theorem Awaited.saves (awaited : setting.Awaited action .saves position schedule)
    (later : List Nat) : setting.Awaited action .saves position (schedule ++ later) := by
  have lasts : ∀ (phase later : Phase) (before after : Session), phase = .saves →
      Pauses action.IsRefresh phase later before after → later = .saves := by
    rintro _ (_ | _) before after rfl pauses
    · exact pauses.elim
    · rfl
  obtain ⟨_, rfl, pends⟩ := awaited.interleave .files setting.responder lasts rfl later
    (setting.pool schedule).2
  rwa [← pool_append] at pends

/-- What the turn of an action comes to. -/
theorem Awaited.turn (awaited : setting.Awaited action phase position schedule) :
    (∃ report, setting.told schedule position = some report ∧
        setting.pool (schedule ++ [position]) = setting.pool schedule) ∨
      setting.told schedule position = none ∧
        ((∃ report, setting.told (schedule ++ [position]) position = some report ∧
            action.Closes phase report (setting.after schedule)
              (setting.after (schedule ++ [position]))) ∨
          ∃ later, Pauses action.IsRefresh phase later (setting.after schedule)
              (setting.after (schedule ++ [position])) ∧
            setting.Awaited action later position (schedule ++ [position])) := by
  simp only [after_eq]
  rcases Pends.turn .files setting.responder awaited with
    ⟨report, ended, same⟩ | ⟨goesOn, ⟨report, ended, closes⟩ | ⟨later, paused, pends⟩⟩
  · exact .inl ⟨report, told_eq_some_iff.mpr ended, same⟩
  · exact .inr ⟨told_eq_none goesOn, .inl ⟨report, told_eq_some_iff.mpr ended, closes⟩⟩
  · exact .inr ⟨told_eq_none goesOn, .inr ⟨later, paused, pends⟩⟩

theorem Awaited.succeeds (awaited : setting.Awaited action .saves position schedule)
    {report : Report} (told : setting.told schedule position = some report) : report.Succeeds := by
  obtain ⟨_, _, closes⟩ := awaited.of_done .files setting.session (told_eq_some_iff.mp told)
  exact closes.2

theorem Awaited.steady (awaited : setting.Awaited action .saves position schedule) :
    (setting.after schedule).Steady (setting.after (schedule ++ [position])) := by
  rcases awaited.turn with ⟨_, -, same⟩ | ⟨-, ⟨_, -, steady, -⟩ | ⟨later, paused, -⟩⟩
  · rw [after_eq, after_eq, same]
    exact .refl _
  · exact steady
  · cases later with
    | gathers => exact paused.elim
    | saves => exact paused

end

/-- A turn leaves the index alone, or the action whose turn it is serves another one. -/
theorem steady_or_serves (schedule : List Nat) (position : Nat) :
    (setting.after schedule).Steady (setting.after (schedule ++ [position])) ∨
      setting.Serves schedule position := by
  cases here : setting.actions[position]? with
  | none => exact .inl (steady_of_absent here schedule)
  | some action =>
      obtain ⟨_ | _, awaited⟩ := exists_awaited here schedule
      case saves => exact .inl awaited.steady
      case gathers =>
        rcases awaited.turn with
          ⟨_, -, same⟩ | ⟨untold, ⟨report, told, closes⟩ | ⟨later, paused, goesOn⟩⟩
        · rw [after_eq, after_eq, same]
          exact .inl (.refl _)
        · refine closes.imp_right fun ⟨advances, serves⟩ => ?_
          exact ⟨action, here, untold, advances, .inl ⟨report, told, serves⟩⟩
        · cases later with
          | gathers => exact .inl paused
          | saves =>
              obtain ⟨refresh, advances⟩ := paused
              refine .inr ⟨action, here, untold, advances, .inr ⟨refresh, fun report told => ?_⟩⟩
              exact goesOn.succeeds told

/-- What has come to its end changes nothing any more. -/
theorem steady_of_told {report : Report} (told : setting.told schedule position = some report) :
    (setting.after schedule).Steady (setting.after (schedule ++ [position])) := by
  refine (steady_or_serves schedule position).resolve_right ?_
  rintro ⟨_, _, untold, _⟩
  cases untold.symm.trans told

/-- An action that has served another index serves no other one, and tells that it has succeeded
unless it has told so at once. -/
theorem Serves.once (serves : setting.Serves schedule position) (later : List Nat) :
    (setting.after (schedule ++ [position] ++ later)).Steady
        (setting.after (schedule ++ [position] ++ later ++ [position])) ∧
      ∀ report, setting.told (schedule ++ [position] ++ later) position = some report →
        setting.told (schedule ++ [position]) position = some report ∨ report.Succeeds := by
  obtain ⟨action, here, untold, advances, -⟩ := serves
  obtain ⟨phase, awaited⟩ := exists_awaited here schedule
  rcases awaited.turn with ⟨_, told, -⟩ | ⟨-, ⟨report, told, -⟩ | ⟨next, paused, goesOn⟩⟩
  · cases untold.symm.trans told
  · have told' := told_append told later
    refine ⟨steady_of_told told', fun _ same => .inl ?_⟩
    rw [told, ← told', same]
  · cases next with
    | gathers =>
        cases phase with
        | gathers => exact absurd paused advances.not_steady
        | saves => exact paused.elim
    | saves =>
        have saves := goesOn.saves later
        exact ⟨saves.steady, fun report told => .inr (saves.succeeds told)⟩

/-- A refresh that starts while one is under way leaves the index alone in its first turn. -/
theorem steady_first_turn (waits : position ∉ schedule)
    (busy : (setting.after schedule).store.refreshing = true) {action : Action}
    (here : setting.actions[position]? = some action) (refresh : action.IsRefresh) :
    (setting.after schedule).Steady (setting.after (schedule ++ [position])) := by
  have there := getElem?_pool_of_not_mem here waits
  have turn : (setting.pool (schedule ++ [position])).2 = _ :=
    congrArg Prod.snd (interleave_concat_of_getElem? there)
  rw [after_eq] at busy ⊢
  rw [after_eq, turn]
  exact action.steady_resume_report setting.responder refresh busy

/-- Another index is served only where it may be while a refresh is under way. -/
theorem Serves.interrupts (serves : setting.Serves schedule position)
    (busy : (setting.after schedule).store.refreshing = true) :
    setting.Interrupts schedule position := by
  obtain ⟨action, here, untold, advances, how⟩ := serves
  have goesOn (refresh : action.IsRefresh) : setting.Interrupts schedule position := by
    refine .inr (.inr ⟨action, here, refresh, ?_, untold⟩)
    by_contra waits
    exact advances.not_steady (steady_first_turn waits busy here refresh)
  rcases how with ⟨_, -, served⟩ | ⟨refresh, -⟩
  case inr => exact goesOn refresh
  case inl =>
    cases action with
    | addSymbol symbol => exact .inl ⟨symbol, here⟩
    | load => exact .inr (.inl here)
    | start => exact goesOn trivial
    | rebuild => exact goesOn trivial
    | sync => exact goesOn trivial
    | refreshPackages importPaths => exact goesOn trivial
    | updateVersions importPaths => exact goesOn trivial
    | save => exact served.elim
    | shutdown => exact served.elim
    | elapse disk now => exact served.elim

private theorem follows_append (schedule later : List Nat) :
    (setting.after schedule).Follows (setting.after (schedule ++ later)) ∧
      (setting.after (schedule ++ later)).store.config = (setting.after schedule).store.config := by
  induction later using List.reverseRecOn with
  | nil =>
      rw [List.append_nil]
      exact ⟨.refl _, rfl⟩
  | append_singleton later position ih =>
      rw [← List.append_assoc]
      obtain ⟨follows, config⟩ := ih
      rcases steady_or_serves (schedule ++ later) position with steady | ⟨_, _, _, advances, _⟩
      · exact ⟨follows.trans (.inr ⟨steady.generation, steady.index⟩), steady.config.trans config⟩
      · refine ⟨follows.trans (.inl ?_), advances.config.trans config⟩
        rw [advances.generation]
        exact Nat.lt_succ_self _

/-- While the generation is the same, so is all that answers depend on. -/
theorem steady_of_generation_eq {later : List Nat}
    (same : (setting.after schedule).store.generation =
      (setting.after (schedule ++ later)).store.generation) :
    (setting.after schedule).Steady (setting.after (schedule ++ later)) := by
  have follows : (setting.after schedule).Follows (setting.after (schedule ++ later)) ∧ _ :=
    follows_append schedule later
  obtain ⟨less | ⟨generation, index⟩, config⟩ := follows
  · exact absurd same (Nat.ne_of_lt less)
  · exact ⟨index, generation, config⟩

/-! ## Actions that serve nothing -/

/-- An action that has told something it does not tell where it serves an index has served none. -/
theorem quiet_of_not_serves {action : Action} (here : setting.actions[position]? = some action)
    (other : ¬ action.IsRefresh)
    (serves : ∀ report before after, setting.told schedule position = some report →
      ¬ action.Serves before after report) : setting.Quiet schedule position := by
  rintro early late rfl
  refine (steady_or_serves early position).resolve_right ?_
  rintro ⟨same, there, -, -, ⟨report, told, served⟩ | ⟨refresh, -⟩⟩
  · obtain rfl := Option.some.inj (here.symm.trans there)
    have ended := told_append told late
    rw [List.append_assoc] at ended
    exact serves report _ _ ended served
  · obtain rfl := Option.some.inj (here.symm.trans there)
    exact other refresh

/-- Of two turns of one position, one of which is the first, the other one is the same or comes
later. -/
theorem first_turn {early rest before late : List Nat} (waits : position ∉ early)
    (same : early ++ position :: rest = before ++ position :: late) :
    before = early ∨
      ∃ amid, before = early ++ position :: amid ∧ rest = amid ++ position :: late := by
  rcases List.append_eq_append_iff.mp same with ⟨between, rfl, turns⟩ | ⟨between, rfl, turns⟩
  · cases between with
    | nil => exact .inl (List.append_nil early)
    | cons turn amid =>
        obtain ⟨rfl, rfl⟩ := List.cons.inj turns
        exact .inr ⟨amid, rfl, rfl⟩
  · cases between with
    | nil => exact .inl (List.append_nil before).symm
    | cons turn amid =>
        obtain ⟨rfl, -⟩ := List.cons.inj turns
        exact absurd (List.mem_append_right before List.mem_cons_self) waits

section

variable {job : Job Session Report} (found : (setting.pool schedule).1[position]? = some job)

include found

/-- A turn advances the action whose turn it is. -/
theorem pool_concat :
    (setting.pool (schedule ++ [position])).1[position]? =
        some (job.resume .files setting.responder (setting.pool schedule).2).1 ∧
      (setting.pool (schedule ++ [position])).2 =
        (job.resume .files setting.responder (setting.pool schedule).2).2 := by
  have place := getElem?_interleave_concat found position
  rw [if_pos rfl] at place
  exact ⟨place, congrArg Prod.snd (interleave_concat_of_getElem? found)⟩

/-- An action keeps its place until its next turn. -/
theorem getElem?_pool_append {later : List Nat} (waits : position ∉ later) :
    (setting.pool (schedule ++ later)).1[position]? = some job := by
  rw [pool_append, getElem?_interleave_of_not_mem _ _ waits, found]

/-- An action that has told something has had a turn since it was not at its end. -/
theorem mem_of_told (goesOn : job.value? = none) {later : List Nat} {report : Report}
    (told : setting.told (schedule ++ later) position = some report) : position ∈ later := by
  by_contra waits
  have ended := told_eq_some_iff.mp told
  rw [getElem?_pool_append found waits] at ended
  obtain rfl := Option.some.inj ended
  cases goesOn

end

abbrev Synced (setting : Setting) (phase : Phase) (position : Nat) (schedule : List Nat) : Prop :=
  Pends .files (Pauses True) Spares phase position (setting.pool schedule).1

section

variable {stats : RefreshStats} {late : List Nat} (idle : stats.Idle)

include idle

/-- A sync that has served another index tells that it has found something to do. -/
theorem not_synced_saves (told : setting.told (schedule ++ late) position =
    some (.synced (.ok stats))) : ¬ setting.Synced .saves position schedule := by
  intro synced
  have lasts : ∀ (phase later : Phase) (before after : Session), phase = .saves →
      Pauses True phase later before after → later = .saves := by
    rintro _ (_ | _) before after rfl pauses
    · exact pauses.elim
    · rfl
  obtain ⟨_, rfl, pends⟩ := synced.interleave .files setting.responder lasts rfl late
    (setting.pool schedule).2
  rw [← pool_append] at pends
  obtain ⟨before, after, spares⟩ := pends.of_done .files setting.session (told_eq_some_iff.mp told)
  obtain ⟨impossible, -⟩ := spares stats rfl idle
  cases impossible

variable (told : setting.told (schedule ++ [position] ++ late) position =
  some (.synced (.ok stats)))

include told

/-- A sync that goes on to tell that it has found nothing to do leaves the index alone in a turn. -/
theorem steady_of_proceeds {job : Job Session Report}
    (found : (setting.pool schedule).1[position]? = some job)
    (proceeds : job.Proceeds .files (Pauses True) Spares .gathers (setting.after schedule)
      (setting.after schedule)) :
    (setting.after schedule).Steady (setting.after (schedule ++ [position])) ∧
      setting.Synced .gathers position (schedule ++ [position]) := by
  obtain ⟨place, reached⟩ := pool_concat found
  rw [after_eq] at proceeds
  rw [after_eq, after_eq, reached]
  rcases proceeds.resume .files setting.responder (setting.pool schedule).2 with
    ⟨report, ended, spares⟩ | ⟨later, paused, awaits⟩
  · rw [ended] at place
    have same := (told_append (told_eq_some_iff.mpr place) late).symm.trans told
    obtain rfl := Option.some.inj same
    exact ⟨(spares stats rfl idle).2, _, place, .inl ⟨_, _, _, rfl, spares⟩⟩
  · have synced : setting.Synced later position (schedule ++ [position]) :=
      ⟨_, place, .inr awaits⟩
    cases later with
    | gathers => exact ⟨paused, synced⟩
    | saves => exact absurd synced (not_synced_saves idle told)

/-- So does one in its further turns. -/
theorem steady_of_synced {phase : Phase} (synced : setting.Synced phase position schedule) :
    (setting.after schedule).Steady (setting.after (schedule ++ [position])) := by
  cases phase with
  | saves =>
      rw [List.append_assoc] at told
      exact absurd synced (not_synced_saves idle told)
  | gathers =>
      obtain ⟨job, there, ⟨report, _, _, rfl, -⟩ | awaits⟩ := synced
      · exact steady_of_told (told_eq_some_iff.mpr there)
      · exact (steady_of_proceeds idle told there (awaits _)).1

end

/-- A sync that has found nothing to do was not refused in its first turn, and was suspended. -/
theorem first_turn_of_sync (here : setting.actions[position]? = some .sync)
    (waits : position ∉ schedule) {late : List Nat} {stats : RefreshStats}
    (told : setting.told (schedule ++ [position] ++ late) position =
      some (.synced (.ok stats))) :
    ∃ job, (setting.pool (schedule ++ [position])).1[position]? = some job ∧
      job.value? = none ∧
      (setting.after schedule).Steady (setting.after (schedule ++ [position])) ∧
      ∀ now : Running Session,
        Operation.FallsBack (setting.after schedule)
            (job.resume .files setting.responder now).2.state ∨
          job.Proceeds .files (Pauses True) Spares .gathers now.state now.state := by
  obtain ⟨place, reached⟩ := pool_concat (getElem?_pool_of_not_mem here waits)
  cases refreshing : (setting.pool schedule).2.state.store.refreshing with
  | false =>
      rw [after_eq, after_eq, reached]
      exact ⟨_, place, Action.turn_sync setting.responder refreshing⟩
  | true =>
      have refused : Action.sync.report.resume .files setting.responder (setting.pool schedule).2 =
          (.done (.synced (.error .refreshInProgress)), _) :=
        Refresh.Kind.sync.resume_report_of_refreshing .files setting.responder refreshing
      rw [refused] at place
      cases (told_append (told_eq_some_iff.mpr place) late).symm.trans told

private theorem quiet_of_sync {stats : RefreshStats}
    (here : setting.actions[position]? = some .sync)
    (told : setting.told schedule position = some (.synced (.ok stats))) (idle : stats.Idle)
    (synced : ¬ setting.FallsBack schedule position) : setting.Quiet schedule position := by
  have waiting : (setting.pool []).1[position]? = some Action.sync.report :=
    getElem?_pool_of_not_mem here List.not_mem_nil
  obtain ⟨early, rest, rfl, waits⟩ :=
    List.eq_append_cons_of_mem (mem_of_told waiting rfl told)
  have told' : setting.told (early ++ [position] ++ rest) position =
      some (.synced (.ok stats)) := by
    rwa [List.append_assoc]
  obtain ⟨job, place, untold, begins, goesOn⟩ := first_turn_of_sync here waits told'
  obtain ⟨amid, late, rfl, waits'⟩ :=
    List.eq_append_cons_of_mem (mem_of_told place untold told')
  have place' := getElem?_pool_append place waits'
  have spelled : early ++ position :: (amid ++ position :: late) =
      early ++ [position] ++ amid ++ [position] ++ late := by simp
  have proceeds : job.Proceeds .files (Pauses True) Spares .gathers
      (setting.after (early ++ [position] ++ amid))
      (setting.after (early ++ [position] ++ amid)) := by
    rw [after_eq]
    refine (goesOn _).resolve_left fun falls => ?_
    rw [← (pool_concat place').2, ← after_eq] at falls
    exact synced ⟨early, amid, late, rfl, waits, waits', by simpa using falls⟩
  obtain ⟨steady, awaited⟩ := steady_of_proceeds idle (spelled ▸ told) place' proceeds
  -- A turn of the sync is its first one, its second one or a later one.
  intro before after same
  rcases first_turn waits same with rfl | ⟨between, rfl, same'⟩
  · exact begins
  rcases first_turn waits' same' with rfl | ⟨between, rfl, same''⟩
  · simpa using steady
  · have lasts : ∀ phase later before after, True → Pauses True phase later before after → True :=
      fun _ _ _ _ _ _ => trivial
    obtain ⟨_, -, later⟩ := awaited.interleave .files setting.responder lasts trivial between
      (setting.pool (early ++ [position] ++ amid ++ [position])).2
    rw [← pool_append] at later
    have final : setting.told (early ++ [position] ++ amid ++ [position] ++ between ++ [position] ++
        after) position = some (.synced (.ok stats)) := by
      rw [same''] at told
      simpa using told
    simpa using steady_of_synced idle final later

/-- An action that has nothing to serve leaves the index and the generation as they are. -/
theorem Declines.quiet (declines : setting.Declines schedule position) :
    setting.Quiet schedule position := by
  cases declines with
  | load here told =>
      refine quiet_of_not_serves here not_false fun report before after told' served => ?_
      obtain rfl : report = .loaded true := served
      cases told.symm.trans told'
  | symbol here hidden =>
      refine quiet_of_not_serves here not_false fun report before after _ ⟨exported, _⟩ => ?_
      cases hidden.symm.trans exported
  | sync here told idle synced => exact quiet_of_sync here told idle synced

/-- However the turns of actions alternate:

* A turn leaves the index and the generation alone, or the action whose turn it is serves another
  index and raises the generation by one.
* While a refresh is under way, another index is only served when a symbol is added, when a snapshot
  is loaded and by the refresh.
* An action that has served another index leaves the index alone in all its later turns, and does
  not fail. So does one that has come to its end.
* The generation never falls.
* Two answers with the same generation come from the same index, and are the same if they are
  answers to the same question.
* An action that has nothing to serve leaves the index and the generation alone in all its turns. -/
theorem generations (setting : Setting) :
    (∀ schedule position,
      (setting.after schedule).Steady (setting.after (schedule ++ [position])) ∨
        setting.Serves schedule position) ∧
    (∀ schedule position, (setting.after schedule).store.refreshing = true →
      (setting.after (schedule ++ [position])).store.index ≠ (setting.after schedule).store.index →
        setting.Interrupts schedule position) ∧
    (∀ schedule position, setting.Serves schedule position → ∀ later,
      (setting.after (schedule ++ [position] ++ later)).Steady
          (setting.after (schedule ++ [position] ++ later ++ [position])) ∧
        ∀ report, setting.told (schedule ++ [position] ++ later) position = some report →
          setting.told (schedule ++ [position]) position = some report ∨ report.Succeeds) ∧
    (∀ schedule position report, setting.told schedule position = some report → ∀ later,
      (setting.after (schedule ++ later)).Steady
        (setting.after (schedule ++ later ++ [position]))) ∧
    (∀ schedule later, (setting.after schedule).store.generation ≤
      (setting.after (schedule ++ later)).store.generation) ∧
    (∀ schedule later first second,
      ((setting.after schedule).store.answer first).generation =
          ((setting.after (schedule ++ later)).store.answer second).generation →
        (setting.after schedule).store.index = (setting.after (schedule ++ later)).store.index ∧
          (first = second → (setting.after schedule).store.answer first =
            (setting.after (schedule ++ later)).store.answer second)) ∧
    ∀ schedule position, setting.Declines schedule position → setting.Quiet schedule position := by
  refine ⟨steady_or_serves, fun schedule position busy changed => ?_,
    fun _ _ => Serves.once,
    fun schedule position report told later => steady_of_told (told_append told later),
    fun schedule later => ?_, fun schedule later first second same => ?_,
    fun _ _ => Declines.quiet⟩
  case refine_1 =>
    have serves := (steady_or_serves schedule position).resolve_left fun steady =>
      changed steady.index
    exact serves.interrupts busy
  case refine_2 =>
    rcases (follows_append schedule later).1 with less | ⟨same, -⟩
    · exact Nat.le_of_lt less
    · exact Nat.le_of_eq same.symm
  case refine_3 =>
    rw [Store.generation_answer, Store.generation_answer] at same
    have steady := steady_of_generation_eq same
    exact ⟨steady.index.symm, fun question => question ▸ (steady.answer_eq first).symm⟩

def addedAmid : Setting where
  responder := Operation.versionAnswer
  actions := [.sync, .addSymbol Operation.unusualSymbol]
  session := Operation.newSession

/-- The sync finds nothing, and has not fallen back to a rebuild as nothing was served when it was
told the version of the toolchain. The symbol is served, and answers tell so. -/
theorem generations_example :
    addedAmid.Declines [0, 0, 1, 0, 0, 0] 0 ∧ addedAmid.Quiet [0, 0, 1, 0, 0, 0] 0 ∧
      addedAmid.Serves [0, 0] 1 ∧
      ((addedAmid.after [0, 0]).store.answer (.search 5 "")).generation = 0 ∧
      ((addedAmid.after [0, 0, 1]).store.answer (.search 5 "")).generation = 1 := by
  obtain ⟨turns, -, -, -, -, -, quiet⟩ := generations addedAmid
  have counted : addedAmid.told [0, 0, 1, 0, 0, 0] 0 =
      some (.synced (.ok { failedListings := 2 })) := by decide +kernel
  have before : (addedAmid.after [0, 0]).store.generation = 0 := by decide +kernel
  have after : (addedAmid.after [0, 0, 1]).store.generation = 1 := by decide +kernel
  have unserved : (addedAmid.after [0, 0]).store.index.isEmpty = true := by decide +kernel
  have synced : ¬ addedAmid.FallsBack [0, 0, 1, 0, 0, 0] 0 := by
    rintro ⟨early, amid, late, same, waits, waits', falls⟩
    match early, amid, same with
    | [], [], _ =>
        have index := falls.index
        rw [List.nil_append, List.nil_append, unserved] at index
        cases index
    | [], turn :: amid, same =>
        obtain rfl := (List.cons.inj (List.cons.inj same).2).1
        exact waits' List.mem_cons_self
    | turn :: early, amid, same =>
        obtain rfl := (List.cons.inj same).1
        exact waits List.mem_cons_self
  have declines : addedAmid.Declines [0, 0, 1, 0, 0, 0] 0 :=
    .sync rfl counted ⟨rfl, rfl, rfl⟩ synced
  have served : addedAmid.Serves [0, 0] 1 := by
    cases turns [0, 0] 1 with
    | inr serves => exact serves
    | inl steady =>
        have same := steady.generation
        rw [before, List.cons_append, List.cons_append, List.nil_append, after] at same
        cases same
  rw [Store.generation_answer, Store.generation_answer]
  exact ⟨declines, quiet _ _ declines, served, before, after⟩

end Setting

end SymbolCache
