import SymbolCache.Proofs.Disk.Interruption
import SymbolCache.Proofs.Store.Stretches

/-!
# Refreshes and saves that fail

A refresh that fails has changed nothing that is served and nothing on the disk. One that succeeds
leaves the store ready, even if its snapshot could not be saved; then the snapshot that was there
before is still there.
-/

set_option autoImplicit false

namespace SymbolCache

open Job hiding run_bind

namespace Session

/-- The snapshot is as it was: the time that is known of it, and its file. Where there was none
there is none. -/
structure KeepsSnapshot (before after : Session) : Prop where
  lastSaved : after.store.lastSaved = before.store.lastSaved
  content : ∀ content, before.disk.find before.store.cachePath = .ok (.file content) →
    after.disk.find before.store.cachePath = .ok (.file content)
  file : before.disk.Spares before.store.cachePath after.disk

private theorem keepsSnapshot_of_save_error {session saved : Session} {failure : Failure}
    (fails : session.save = (.error failure, saved)) : session.KeepsSnapshot saved := by
  suffices kept : saved.store.lastSaved = session.store.lastSaved ∧
      session.disk.Spares session.store.cachePath saved.disk from
    ⟨kept.1, fun _ => kept.2.find, kept.2⟩
  cases known : session.store.toolchainVersion with
  | none =>
      rw [session.save_unknown known] at fails
      obtain ⟨-, rfl⟩ := Prod.mk.inj fails
      exact ⟨rfl, .refl _ _⟩
  | some version =>
      have outcome := save_cases known
      rw [fails] at outcome
      obtain ⟨disk, troubles, -, spares, rfl⟩ := outcome
      exact ⟨rfl, spares⟩

end Session

open Session (Notes Installs Refreshes)

namespace Refresh.Kind

open Operation

variable (responder : Responder) (kind : Kind) (now : Running Session)

theorem Concludes.trans {before origin between ended : Session}
    {result : Except Failure RefreshStats} (notes : Notes origin between)
    (concludes : Concludes before (fun _ _ => Refreshes) (Always Notes) () result between ended) :
    Concludes before (fun _ _ => Refreshes) (Always Notes) () result origin ended := by
  cases result with
  | error failure =>
      obtain ⟨noted, later, same⟩ := concludes
      exact ⟨noted, notes.trans later, same⟩
  | ok stats =>
      obtain ⟨counted, served, refreshes, same⟩ := concludes
      exact ⟨counted, served, refreshes.imp notes.trans (.of_notes notes), same⟩

/-- A refresh that runs alone does what it does in one stretch. -/
theorem concludes_run (idle : now.state.store.refreshing = false) :
    Concludes now.state (fun _ _ => Refreshes) (Always Notes) ()
      (kind.operation.run.run responder now).1 (begun now.state)
      (kind.operation.run.run responder now).2.state := by
  rw [operation_eq]
  have body := kind.stretches_calls () (begun now.state) (begun now.state) (.refl _)
  refine Proceeds.run responder now (proceeds_guarded ?_ fun _ => ⟨body, ?_⟩) ?_
  · simp [idle]
  · exact fun _ _ _ _ => id
  · exact fun _ _ _ _ => Concludes.trans

def serving (session : Session) (toolchainVersion : Option String) (index : Index) : Session :=
  (begun session).mapStore fun store => { store.install index with toolchainVersion }

/-- A save that fails while a refresh is under way leaves the snapshot as it was when the refresh
started. -/
theorem keepsSnapshot_serving {session : Session} {version : Option String} {index : Index}
    {failure : Failure} (fails : (serving session version index).save.1 = .error failure) :
    session.KeepsSnapshot (concluded .ready (serving session version index).save.2) := by
  have kept := Session.keepsSnapshot_of_save_error (Prod.ext fails rfl)
  exact ⟨kept.lastSaved, kept.content, kept.file⟩

/-- A refresh of any kind that runs alone, whatever the configuration and the answers: if it fails,
the index, its generation, the readiness, the time of the last save and the disk are as before. If
it succeeds, the store is ready. Either all else is as before then, or another index is served under
the next generation and was saved; if that save failed, the snapshot is as it was. -/
theorem run_operation :
    match kind.operation.run.run responder now with
    | (.error _, ended) =>
      now.state.store.ServesAlike ended.state.store ∧ ended.state.disk = now.state.disk
    | (.ok _, ended) =>
      ended.state.store.readiness = .ready ∧
        (({ now.state.store with readiness := .ready }).ServesAlike ended.state.store ∧
            ended.state.disk = now.state.disk ∨
          ∃ version index, ended.state = concluded .ready (serving now.state version index).save.2 ∧
            ∀ failure, (serving now.state version index).save.1 = .error failure →
              now.state.KeepsSnapshot ended.state) := by
  cases refreshing : now.state.store.refreshing with
  | true =>
      rw [operation_eq, run_guarded, if_pos refreshing]
      exact ⟨⟨rfl, rfl, rfl, rfl⟩, rfl⟩
  | false =>
      have concludes := kind.concludes_run responder now refreshing
      generalize kind.operation.run.run responder now = outcome at concludes ⊢
      obtain ⟨failure | stats, ended⟩ := outcome
      case error =>
        obtain ⟨_, ⟨version, rfl⟩, same⟩ := concludes
        dsimp only at same ⊢
        rw [same]
        exact ⟨⟨rfl, rfl, rfl, rfl⟩, rfl⟩
      case ok =>
        obtain ⟨_, _, refreshes, -, same⟩ := concludes
        dsimp only at same ⊢
        rw [same]
        refine ⟨rfl, ?_⟩
        rcases refreshes with ⟨version, rfl⟩ | ⟨_, index, ⟨version, rfl⟩, rfl⟩
        case inl => exact .inl ⟨⟨rfl, rfl, rfl, rfl⟩, rfl⟩
        case inr => exact .inr ⟨version, index, rfl, fun _ => keepsSnapshot_serving⟩

end Refresh.Kind

end SymbolCache
