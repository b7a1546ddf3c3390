import SymbolCache.Proofs.Job.Disturbance
import SymbolCache.Proofs.Refresh.Outcome

/-!
# Operations that are disturbed

What holds along an operation while others change the state at its suspensions, part by part. A
refresh that is guarded makes nothing of its own but a few changes of how ready the store is.
-/

set_option autoImplicit false

namespace SymbolCache.Operation

open Refresh (run_installAndPersist silent_installAndPersist)
open Job hiding run_bind

def Settles {α : Type} (succeeds : α → Nat → Running Session → Prop)
    (fails : Nat → Running Session → Prop) : Except Failure α → Nat → Running Session → Prop
  | .ok value => succeeds value
  | .error _ => fails

theorem Settles.elim {α : Type} {holds fails : Nat → Running Session → Prop}
    {result : Except Failure α} {count : Nat} {now : Running Session}
    (settled : Settles (fun _ => holds) fails result count now)
    (weaker : fails count now → holds count now) : holds count now := by
  cases result with
  | ok value => exact settled
  | error failure => exact weaker settled

section

variable {responder : Responder} {disturb : Nat → Session → Session} {α β : Type}
  {before fails : Nat → Running Session → Prop} {after : α → Nat → Running Session → Prop}

theorem passes_andThen {operation : Operation α} {next : α → Operation β}
    {after' : β → Nat → Running Session → Prop}
    (first : Passes responder disturb before operation.run (Settles after fails))
    (later : ∀ value,
      Passes responder disturb (after value) (next value).run (Settles after' fails)) :
    Passes responder disturb before (operation >>= next).run (Settles after' fails) := by
  rw [run_bind]
  refine passes_bind first fun result => ?_
  cases result with
  | ok value => exact later value
  | error failure => exact passes_done fun _ _ holds => holds

theorem passes_lift {job : Job Session α} (passes : Passes responder disturb before job after) :
    Passes responder disturb before (liftM job : Operation α).run (Settles after fails) := by
  rw [run_lift]
  exact passes_bind passes fun _ => passes_done fun _ _ holds => holds

theorem passes_pure {value : α} (holds : ∀ count now, before count now → after value count now) :
    Passes responder disturb before (pure value : Operation α).run (Settles after fails) :=
  passes_done holds

theorem passes_store :
    Passes responder disturb before store fun store count now =>
      store = now.state.store ∧ before count now :=
  fun _ _ holds => ⟨rfl, holds⟩

/-- Nothing happens between the last call of a refresh and the moment its index is served. -/
theorem passes_installAndPersist {index : Index} {holds : Nat → Running Session → Prop}
    (serves : ∀ count now served, before count now → served.store.index = index →
      served.store.generation = now.state.store.generation + 1 →
        holds count { now with state := served }) :
    Passes responder disturb before (installAndPersist index) fun _ => holds := by
  intro count now condition
  obtain ⟨lastSaved, saved⟩ := (now.state.mapStore fun store => store.install index).save_store
  rw [(silent_installAndPersist index).runAmid_eq, run_installAndPersist]
  refine serves count now _ condition ?_ ?_
  · exact congrArg Store.index saved
  · exact congrArg Store.generation saved

theorem passes_look {look : Session → α} :
    Passes responder disturb before (.look fun session => .done (look session)) fun _ => before :=
  fun _ _ holds => holds

def Unaffected (holds : Nat → Running Session → Prop) : Prop :=
  ∀ count now readiness refreshing, holds count now → holds count
    { now with state := now.state.mapStore fun store => { store with readiness, refreshing } }

theorem passes_setReadiness (unaffected : Unaffected before) (readiness : Readiness) :
    Passes responder disturb before (setReadiness readiness) fun _ => before :=
  fun count now => unaffected count now readiness now.state.store.refreshing

private theorem passes_endRefresh (unaffected : Unaffected before) :
    Passes responder disturb before endRefresh fun _ => before :=
  fun count now => unaffected count now now.state.store.readiness false

private theorem passes_beginRefresh (unaffected : Unaffected before)
    (refused : ∀ count now, before count now → fails count now) :
    Passes responder disturb before beginRefresh.run (Settles (fun _ => before) fails) := by
  intro count now holds
  rw [beginRefresh, run_mk, Job.update, runAmid, runAmid]
  split
  · exact refused count now holds
  · exact unaffected count now now.state.store.readiness true holds

/-- A refresh is refused, or runs by itself. -/
theorem passes_guarded {refresh : Operation RefreshStats} {ends : Nat → Running Session → Prop}
    (opens : Unaffected before) (closes : Unaffected ends)
    (refused : ∀ count now, before count now → ends count now)
    (passes : Passes responder disturb before refresh.run fun _ => ends) :
    Passes responder disturb before (guarded refresh).run fun _ => ends := by
  have attempts : Passes responder disturb before (attempt refresh).run
      (Settles (fun _ => ends) ends) := by
    rw [run_attempt]
    exact passes_bind passes fun _ => passes_done fun _ _ holds => holds
  suffices runs : Passes responder disturb before (guarded refresh).run
      (Settles (fun _ => ends) ends) from
    runs.mono (fun _ _ holds => holds) fun _ _ _ settled => settled.elim fun holds => holds
  unfold guarded
  refine passes_andThen (passes_beginRefresh opens refused) fun _ => ?_
  refine passes_andThen (passes_lift passes_look) fun prior => ?_
  refine passes_andThen (passes_lift passes_look) fun started => ?_
  refine passes_andThen (passes_lift (passes_setReadiness opens _)) fun _ => ?_
  refine passes_andThen attempts fun result => ?_
  cases result with
  | ok stats =>
      refine passes_andThen (passes_lift passes_look) fun ended => ?_
      refine passes_andThen (passes_lift (passes_setReadiness closes _)) fun _ => ?_
      exact passes_andThen (passes_lift (passes_endRefresh closes)) fun _ =>
        passes_pure fun _ _ holds => holds
  | error failure =>
      refine passes_andThen (passes_lift (passes_setReadiness closes _)) fun _ => ?_
      exact passes_andThen (passes_lift (passes_endRefresh closes)) fun _ =>
        passes_done fun _ _ holds => holds

end

end SymbolCache.Operation
