import Mathlib.Data.List.Induction
import SymbolCache.Proofs.Store.Stretches

/-!
# At most one refresh is under way

A flag is set exactly while one of the calls that change the index is between its start and its
end, also while files are written. A call that is started meanwhile is refused at once, and one that
is started otherwise goes on to its first command, however the calls before it have ended.
-/

set_option autoImplicit false

namespace SymbolCache

open Job hiding run_bind
open Operation (Ends)

/-! ## What the flag guards -/

inductive Refresh.Call where
  | refresh (kind : Refresh.Kind)
  | updateVersions (importPaths : Std.ExtTreeSet String)

def Operation.told {α : Type} (operation : Operation α) : Job Session (Except Failure Unit) :=
  operation.run.bind fun result => .done (result.map fun _ => ())

def Refresh.Call.job : Refresh.Call → Job Session (Except Failure Unit)
  | .refresh kind => kind.operation.told
  | .updateVersions importPaths => (Operation.updateVersions importPaths).told

namespace Operation

def KeepsFlag (before after : Session) : Prop :=
  after.store.refreshing = before.store.refreshing

/-- What is left of a call that is under way: the flag stays set at each suspension, and is cleared
at the end. -/
abbrev Holds (job : Job Session (Except Failure Unit)) : Prop :=
  job.Awaits .files (Pausing KeepsFlag) () fun _ _ _ ended => ended.store.refreshing = false

private theorem Holds.ne_done {job : Job Session (Except Failure Unit)} (holds : Holds job)
    (session : Session) (result : Except Failure Unit) : job ≠ .done result := by
  rintro rfl
  exact Bool.noConfusion (holds (flagged session))

theorem waiting_keepsFlag : Waiting (Pausing KeepsFlag) (Always KeepsFlag) where
  notes _ _ _ _ kept notes := by
    obtain ⟨version, rfl⟩ := notes
    exact kept
  pauses _ _ _ kept := ⟨(), kept, fun _ => rfl⟩

/-- While an index is saved, the refresh that serves it is still under way. -/
theorem stretches_installAndPersist_files (index : Index) :
    (installAndPersist index).Stretches .files (Pausing KeepsFlag) (Always KeepsFlag) fun _ _ =>
      KeepsFlag := by
  have saves : save.run.Keeps .files (fun _ : Session => True) KeepsFlag Any :=
    keeps_save (fun _ _ _ _ => ⟨rfl, trivial⟩) fun _ _ _ => ⟨rfl, trivial⟩
  have keeps : (installAndPersist index).Keeps .files (fun _ => True) KeepsFlag Any :=
    keeps_bind (keeps_modify fun _ _ => ⟨rfl, trivial⟩) fun _ _ => keeps_finish saves
  have stretches : (installAndPersist index).Stretches .files (Pausing KeepsFlag)
      (Always KeepsFlag) fun _ _ origin state => True ∧ KeepsFlag origin state :=
    stretches_of_keeps keeps (fun _ _ _ _ kept next => next.trans kept) waiting_keepsFlag.pauses
  exact stretches.weaken fun _ _ _ _ => And.right

private theorem proceeds_told {α : Type} {operation : Operation α} {origin session : Session}
    (proceeds : operation.run.Proceeds .files (Pausing KeepsFlag)
      (fun _ _ _ ended => ended.store.refreshing = false) () origin session) :
    operation.told.Proceeds .files (Pausing KeepsFlag)
      (fun _ _ _ ended => ended.store.refreshing = false) () origin session :=
  proceeds.bind fun _ => stretches_done fun _ _ _ cleared => cleared

/-! ## Starting -/

section

variable {α : Type} {session : Session}

private theorem suspends_beginRefresh {next : Unit → Operation α}
    (idle : session.store.refreshing = false)
    (suspends : (next ()).run.Suspends .files (flagged session)) :
    (beginRefresh >>= next).run.Suspends .files session := by
  simp only [beginRefresh, run_bind, run_mk, Job.update]
  change Job.Suspends .files (andThen next _) _
  rw [if_neg (Bool.eq_false_iff.mp idle)]
  exact suspends

/-- The versions are resolved by commands, if nothing was asked before. -/
theorem suspends_refreshIndex (importPaths : List String) (session : Session) :
    (refreshIndex importPaths).run.Suspends .files session := by
  obtain ⟨⟨cachePath, config, toolchain, version⟩, disk, now⟩ := session
  simp only [refreshIndex, ensureToolchain, run_bind, run_lift]
  cases version with
  | none => trivial
  | some version =>
      simp only [describe, Package.describe]
      generalize (Std.ExtTreeSet.ofList importPaths compare).toList = paths
      cases paths with
      | nil => trivial
      | cons path paths => trivial

end

end Operation

namespace Refresh

private theorem Kind.suspends_body (kind : Kind) (session : Session) :
    kind.body.run.Suspends .files session := by
  cases kind with
  | rebuild => trivial
  | sync => trivial
  | packages importPaths => exact Operation.suspends_refreshIndex importPaths session

namespace Call

open Operation

section

variable (responder : Responder) (call : Call)

/-- Every call looks at the flag before all else. -/
theorem job_eq : ∃ (α : Type) (next : Unit → Operation α),
    call.job = (beginRefresh >>= next).told := by
  cases call with
  | refresh kind => exact ⟨_, _, congrArg told kind.operation_eq⟩
  | updateVersions importPaths => exact ⟨_, _, rfl⟩

/-- While the flag is set, a call ends where it starts. -/
theorem resume_job_of_refreshing {now : Running Session}
    (busy : now.state.store.refreshing = true) :
    call.job.resume .files responder now = (.done (.error .refreshInProgress), now) := by
  obtain ⟨α, next, same⟩ := call.job_eq
  rw [same, told, resume_bind_done, resume_beginRefresh, if_pos busy]
  rfl

private theorem suspends_job {session : Session} (idle : session.store.refreshing = false) :
    call.job.Suspends .files session := by
  cases call with
  | updateVersions importPaths =>
      refine Suspends.bind (suspends_beginRefresh idle ?_) _
      trivial
  | refresh kind =>
      rw [job, told, kind.operation_eq]
      refine Suspends.bind (suspends_beginRefresh idle ?_) _
      simp only [run_bind, run_lift, store, Operation.now]
      have suspends : (attempt kind.body).run.Suspends .files (begun session) :=
        (kind.suspends_body _).bind _
      exact suspends.bind _

private theorem proceeds_job {session : Session} (idle : session.store.refreshing = false) :
    ∃ origin, origin.store.refreshing = true ∧ call.job.Proceeds .files (Pausing KeepsFlag)
      (fun _ _ _ ended => ended.store.refreshing = false) () origin session := by
  have refused : session.store.refreshing ≠ true := Bool.eq_false_iff.mp idle
  cases call with
  | updateVersions importPaths =>
      refine ⟨flagged session, rfl, proceeds_told ?_⟩
      have resolves : (resolve importPaths).Proceeds .files (Pausing KeepsFlag)
          (fun _ _ => KeepsFlag) () (flagged session) (flagged session) :=
        stretches_resolve waiting_keepsFlag importPaths () _ _ rfl
      exact proceeds_updateVersions (absurd · refused) fun _ => ⟨resolves, fun _ _ _ _ _ => rfl⟩
  | refresh kind =>
      rw [job, kind.operation_eq]
      refine ⟨begun session, rfl, proceeds_told ?_⟩
      have body := kind.stretches_body waiting_keepsFlag stretches_installAndPersist_files ()
        (begun session) (begun session) rfl
      refine proceeds_guarded (absurd · refused) fun _ => ⟨body, ?_⟩
      rintro _ (failure | stats) origin state concludes
      · obtain ⟨noted, -, rfl⟩ := concludes
        rfl
      · obtain ⟨_, served, -, -, rfl⟩ := concludes
        rfl

/-- While the flag is clear, a call that is started goes on to its first command. -/
theorem resume_job {now : Running Session} (idle : now.state.store.refreshing = false) :
    (call.job.resume .files responder now).2.state.store.refreshing = true ∧
      Holds (call.job.resume .files responder now).1 := by
  obtain ⟨origin, flag, proceeds⟩ := call.proceeds_job idle
  obtain ⟨_, kept, holds⟩ := proceeds.resume_of_suspends responder now (call.suspends_job idle)
  exact ⟨kept.trans flag, holds⟩

end

/-! ## Runs -/

section

variable (responder : Responder) (calls : List Call) (schedule : List Nat) (session : Session)

/-- A run of calls on a session. Each step of the schedule lets the call at a position go on to its
next suspension, be it at a command or at a step of the file system. -/
def run : List (Job Session (Except Failure Unit)) × Running Session :=
  interleave .files responder schedule (calls.map job) { state := session, calls := [] }

/-- After a run, the call at a position has been started and has not come to its end. -/
def UnderWay (position : Nat) : Prop :=
  position ∈ schedule ∧ ∃ job, (run responder calls schedule session).1[position]? = some job ∧
    ∀ result, job ≠ .done result

/-- After a run, the call at a position holds the flag if it is set, and all others that have been
started have come to their ends. -/
structure HeldBy (holder : Option Nat) : Prop where
  flag : (run responder calls schedule session).2.state.store.refreshing = holder.isSome
  holds : ∀ position, holder = some position → position ∈ schedule ∧
    ∃ job, (run responder calls schedule session).1[position]? = some job ∧ Holds job
  ended : ∀ position job, position ∈ schedule → holder ≠ some position →
    (run responder calls schedule session).1[position]? = some job → ∃ result, job = .done result

end

section

variable {responder : Responder} {calls : List Call} {schedule : List Nat} {session : Session}
  {holder : Option Nat} {position : Nat}

/-- What the turn of a call changes: it holds the flag afterwards or has come to its end, and nobody
else has got the flag. -/
theorem HeldBy.step (held : HeldBy responder calls schedule session holder)
    {job : Job Session (Except Failure Unit)}
    (found : (run responder calls schedule session).1[position]? = some job)
    {holder' : Option Nat} {job' : Job Session (Except Failure Unit)} {now : Running Session}
    (advances : job.resume .files responder (run responder calls schedule session).2 = (job', now))
    (flag : now.state.store.refreshing = holder'.isSome)
    (turn : holder' = some position ∧ Holds job' ∨
      holder' ≠ some position ∧ ∃ result, job' = .done result)
    (others : ∀ other, other ≠ position → (holder' = some other ↔ holder = some other)) :
    HeldBy responder calls (schedule ++ [position]) session holder' := by
  unfold run at found advances
  have place := getElem?_interleave_concat found
  have reached := interleave_concat_of_getElem? found
  rw [advances] at place reached
  refine ⟨?_, fun other same => ?_, fun other next started differs there => ?_⟩
  · rw [run, reached, flag]
  · rw [run, place]
    split
    case isTrue here =>
      subst here
      rcases turn with ⟨-, holds⟩ | ⟨differs, -⟩
      · exact ⟨by simp, job', rfl, holds⟩
      · exact absurd same differs
    case isFalse elsewhere =>
      obtain ⟨started, holds⟩ := held.holds other ((others other elsewhere).mp same)
      exact ⟨List.mem_append_left _ started, holds⟩
  · rw [run, place] at there
    split at there
    case isTrue here =>
      subst here
      obtain rfl := Option.some.inj there
      rcases turn with ⟨same, -⟩ | ⟨-, ended⟩
      · exact absurd same differs
      · exact ended
    case isFalse elsewhere =>
      have before : other ∈ schedule := by simpa [elsewhere] using started
      exact held.ended other next before (mt (others other elsewhere).mpr differs) there

/-- A call that has not been started is still there. -/
theorem getElem?_run_of_not_mem (waits : position ∉ schedule) :
    (run responder calls schedule session).1[position]? = calls[position]?.map job := by
  rw [run, getElem?_interleave_of_not_mem .files responder waits, List.getElem?_map]

/-- Where nobody is there is no turn. -/
theorem HeldBy.absent (held : HeldBy responder calls schedule session holder)
    (found : (run responder calls schedule session).1[position]? = none) :
    HeldBy responder calls (schedule ++ [position]) session holder := by
  have same : run responder calls (schedule ++ [position]) session =
      run responder calls schedule session := by
    unfold run at found ⊢
    rw [interleave_concat, found]
  refine ⟨same ▸ held.flag, fun other holds => ?_, fun other job started differs there => ?_⟩
  · rw [same]
    obtain ⟨started, holds⟩ := held.holds other holds
    exact ⟨List.mem_append_left _ started, holds⟩
  · rw [same] at there
    refine held.ended other job ?_ differs there
    have elsewhere : other ≠ position := by
      rintro rfl
      cases found.symm.trans there
    simpa [elsewhere] using started

section

variable (held : HeldBy responder calls schedule session holder)
  {job : Job Session (Except Failure Unit)}
  (found : (run responder calls schedule session).1[position]? = some job)

include held found

/-- A call that starts gets the flag if it is clear, and is refused otherwise. -/
theorem HeldBy.start (waits : position ∉ schedule) :
    ∃ holder', HeldBy responder calls (schedule ++ [position]) session holder' := by
  obtain ⟨call, -, rfl⟩ : ∃ call, calls[position]? = some call ∧ call.job = job := by
    rwa [getElem?_run_of_not_mem waits, Option.map_eq_some_iff] at found
  cases holder with
  | none =>
      obtain ⟨flag, holds⟩ := call.resume_job responder held.flag
      refine ⟨some position, held.step found rfl flag (.inl ⟨rfl, holds⟩) fun other elsewhere => ?_⟩
      simp [Ne.symm elsewhere]
  | some holder =>
      have elsewhere : some holder ≠ some position := by
        intro same
        exact waits (held.holds position same).1
      have refused := call.resume_job_of_refreshing responder held.flag
      exact ⟨some holder, held.step found refused held.flag (.inr ⟨elsewhere, _, rfl⟩)
        fun _ _ => .rfl⟩

/-- A call that goes on keeps the flag, or clears it at its end. -/
theorem HeldBy.resume (started : position ∈ schedule) :
    ∃ holder', HeldBy responder calls (schedule ++ [position]) session holder' := by
  by_cases holds : holder = some position
  case neg =>
    obtain ⟨result, rfl⟩ := held.ended position job started holds found
    exact ⟨holder, held.step found rfl held.flag (.inr ⟨holds, result, rfl⟩) fun _ _ => .rfl⟩
  case pos =>
    subst holds
    obtain ⟨-, job, there, awaits⟩ := held.holds position rfl
    obtain rfl := Option.some.inj (there.symm.trans found)
    have steps := (awaits _).resume .files responder (run responder calls schedule session).2
    generalize advances :
      job.resume .files responder (run responder calls schedule session).2 = result at steps
    obtain ⟨next, now⟩ := result
    rcases steps with ⟨result, rfl, cleared⟩ | ⟨_, kept, awaits⟩
    case inl =>
      refine ⟨none, held.step found advances cleared (.inr ⟨nofun, result, rfl⟩) ?_⟩
      intro other elsewhere
      simp [Ne.symm elsewhere]
    case inr =>
      exact ⟨some position, held.step found advances (kept.trans held.flag) (.inl ⟨rfl, awaits⟩)
        fun _ _ => .rfl⟩

end

/-- Whatever the schedule, nobody or one call holds the flag. -/
theorem exists_heldBy (idle : session.store.refreshing = false) (schedule : List Nat) :
    ∃ holder, HeldBy responder calls schedule session holder := by
  induction schedule using List.reverseRecOn with
  | nil => exact ⟨none, idle, fun _ nobody => (nomatch nobody), fun _ _ none => (nomatch none)⟩
  | append_singleton schedule position ih =>
      obtain ⟨holder, held⟩ := ih
      cases found : (run responder calls schedule session).1[position]? with
      | none => exact ⟨holder, held.absent found⟩
      | some job =>
          by_cases started : position ∈ schedule
          case neg => exact held.start found started
          case pos => exact held.resume found started

/-- The calls under way are those that hold the flag. -/
theorem HeldBy.underWay_iff (held : HeldBy responder calls schedule session holder) :
    UnderWay responder calls schedule session position ↔ holder = some position := by
  constructor
  · rintro ⟨started, job, there, goesOn⟩
    by_contra differs
    obtain ⟨result, rfl⟩ := held.ended position job started differs there
    exact goesOn result rfl
  · rintro rfl
    obtain ⟨started, job, there, holds⟩ := held.holds position rfl
    exact ⟨started, job, there, holds.ne_done session⟩

/-- A call that is under way after the turn of another one was under way before. -/
private theorem underWay_of_concat {job : Job Session (Except Failure Unit)} {other : Nat}
    (found : (run responder calls schedule session).1[position]? = some job)
    (elsewhere : other ≠ position)
    (underWay : UnderWay responder calls (schedule ++ [position]) session other) :
    UnderWay responder calls schedule session other := by
  obtain ⟨started, later, there, goesOn⟩ := underWay
  have kept := getElem?_interleave_concat found other
  rw [if_neg elsewhere] at kept
  exact ⟨by simpa [elsewhere] using started, later, kept.symm.trans there, goesOn⟩

end

/-- At most one call is under way, however many there are, in whichever order they take turns and
however they end. The flag is set exactly while one is. A call that is started while it is set is
told so and changes nothing: not the session, and it makes no request. A call that is started
while it is clear is then under way, so it is not refused; and the flag is clear again once the call
under way has come to its end. -/
theorem exclusive (responder : Responder) (calls : List Call) (session : Session)
    (idle : session.store.refreshing = false) (schedule : List Nat) :
    ((run responder calls schedule session).2.state.store.refreshing = true ↔
      ∃ position, UnderWay responder calls schedule session position) ∧
    (∀ position other, UnderWay responder calls schedule session position →
      UnderWay responder calls schedule session other → position = other) ∧
    (∀ position < calls.length, position ∉ schedule →
      ((run responder calls schedule session).2.state.store.refreshing = true →
        (run responder calls (schedule ++ [position]) session).1[position]? =
            some (.done (.error .refreshInProgress)) ∧
          (run responder calls (schedule ++ [position]) session).2 =
            (run responder calls schedule session).2) ∧
      ((run responder calls schedule session).2.state.store.refreshing = false →
        UnderWay responder calls (schedule ++ [position]) session position)) ∧
    (∀ position result, UnderWay responder calls schedule session position →
      (run responder calls (schedule ++ [position]) session).1[position]? = some (.done result) →
        (run responder calls (schedule ++ [position]) session).2.state.store.refreshing =
          false) := by
  obtain ⟨holder, held⟩ := exists_heldBy idle schedule
  have set : (run responder calls schedule session).2.state.store.refreshing = true ↔
      ∃ position, UnderWay responder calls schedule session position := by
    rw [held.flag, Option.isSome_iff_exists]
    exact exists_congr fun position => held.underWay_iff.symm
  refine ⟨set, fun position other first second => ?_, fun position present waits => ?_, ?_⟩
  case refine_1 =>
    exact Option.some.inj ((held.underWay_iff.mp first).symm.trans (held.underWay_iff.mp second))
  case refine_2 =>
    have found : (run responder calls schedule session).1[position]? =
        some calls[position].job := by
      rw [getElem?_run_of_not_mem waits, List.getElem?_eq_getElem present, Option.map_some]
    have next := getElem?_interleave_concat found position
    rw [if_pos rfl] at next
    constructor
    · intro busy
      have refused := calls[position].resume_job_of_refreshing responder busy
      have reached := interleave_concat_of_getElem? found
      unfold run at refused ⊢
      rw [next, reached, refused]
      exact ⟨rfl, rfl⟩
    · intro clear
      obtain ⟨-, holds⟩ := calls[position].resume_job responder clear
      exact ⟨by simp, _, next, holds.ne_done session⟩
  case refine_3 =>
    intro position result underWay ended
    obtain ⟨holder', held'⟩ := exists_heldBy idle (schedule ++ [position])
    rw [held'.flag]
    cases holder' with
    | none => rfl
    | some other =>
        -- Whoever holds the flag now has held it before, and is at this position.
        have now := held'.underWay_iff.mpr rfl
        obtain ⟨-, job, there, goesOn⟩ := id now
        have elsewhere : other ≠ position := by
          rintro rfl
          exact goesOn result (Option.some.inj (there.symm.trans ended))
        obtain ⟨-, _, found, -⟩ := id underWay
        have before := held.underWay_iff.mp (underWay_of_concat found elsewhere now)
        exact absurd (Option.some.inj (before.symm.trans (held.underWay_iff.mp underWay))) elsewhere

def exampleCalls : List Call :=
  [.refresh .rebuild, .refresh .sync, .updateVersions ∅]

/-- The rebuild is started first, and the sync while it is under way. -/
theorem exclusive_example :
    newSession.store.refreshing = false ∧
      UnderWay versionAnswer exampleCalls [0] newSession 0 ∧
      (run versionAnswer exampleCalls [0] newSession).2.state.store.refreshing = true ∧
      (run versionAnswer exampleCalls [0, 1] newSession).1[1]? =
        some (.done (.error .refreshInProgress)) := by
  have idle : newSession.store.refreshing = false := rfl
  obtain ⟨-, -, starts, -⟩ := exclusive versionAnswer exampleCalls newSession idle []
  have underWay := (starts 0 (by decide) (by decide)).2 idle
  obtain ⟨set, -, starts, -⟩ := exclusive versionAnswer exampleCalls newSession idle [0]
  have busy := set.mpr ⟨0, underWay⟩
  exact ⟨idle, underWay, busy, ((starts 1 (by decide) (by decide)).1 busy).1⟩

end Call

end Refresh

end SymbolCache
