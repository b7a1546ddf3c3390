import SymbolCache.Proofs.Job.Stretches
import SymbolCache.Proofs.Refresh.Application

/-!
# What a refresh counts

Every package that is extracted and has a version is counted, as indexed or as failed. A sync that
counts nothing has therefore found nothing to do.
-/

set_option autoImplicit false

namespace SymbolCache

structure RefreshStats.Idle (stats : RefreshStats) : Prop where
  removed : stats.removed = 0
  indexed : stats.indexed = 0
  failed : stats.failed = 0

namespace Refresh

open Extraction

section

variable (versions : Versions) (extracted : List Extracted) (index : Index) (stats : RefreshStats)

/-- A package with a version is counted as indexed or as failed. -/
theorem handled_apply :
    (apply versions extracted index stats).2.indexed +
        (apply versions extracted index stats).2.failed =
      stats.indexed + stats.failed +
        extracted.countP fun entry => isResolved versions entry.1 := by
  have parts : (extracted.countP fun entry => isResolved versions entry.1) =
      extracted.countP (isIndexed versions) + extracted.countP (isFailed versions) := by
    induction extracted with
    | nil => rfl
    | cons entry extracted ih =>
        rw [List.countP_cons, List.countP_cons, List.countP_cons, ih, isIndexed, isFailed]
        cases isResolved versions entry.1 <;> cases entry.2.isEmpty <;> simp <;> omega
  rw [apply_snd, parts]
  exact Nat.add_add_add_comm ..

end

/-- Whoever has removed packages, or extracted one with a version, is not idle. -/
theorem not_idle_apply {versions : Versions} {extracted : List Extracted} {index : Index}
    {stats : RefreshStats}
    (work : stats.removed ≠ 0 ∨ ∃ entry ∈ extracted, isResolved versions entry.1 = true) :
    ¬ (apply versions extracted index stats).2.Idle := by
  rintro ⟨removed, indexed, failed⟩
  rcases work with gone | attended
  · rw [apply_snd] at removed
    exact gone removed
  · have counted := handled_apply versions extracted index stats
    have some := List.countP_pos_iff.mpr attended
    omega

theorem isResolved_of_isChanged {index : Index} {versions : Versions} {package : Package}
    (changed : isChanged index versions package = true) : isResolved versions package = true := by
  obtain ⟨version, resolved, _⟩ := resolved_of_isChanged changed
  exact isResolved_of_resolved resolved

end Refresh

/-- Of packages that are extracted, at least one comes back. -/
theorem Extraction.gives_extractAll {σ : Type} (toolchain : Toolchain) (width : Nat)
    {packages : List Package} (some : packages ≠ []) :
    (extractAll toolchain width packages : Job σ _).Gives fun extracted =>
      ∃ entry ∈ extracted, entry.1 ∈ packages := by
  obtain ⟨package, rest, rfl⟩ := List.exists_cons_of_ne_nil some
  have asks : (Job.askAll width ((package :: rest).map (documentationRequest toolchain)) :
      Job σ _).Gives fun answers => ∃ answer, (0, answer) ∈ answers :=
    Job.gives_askAll width (List.cons_ne_nil _ _)
  refine asks.bind fun answers ⟨answer, first⟩ => ?_
  refine ⟨(package, symbolsOfAnswer package answer), ?_, List.mem_cons_self⟩
  rw [gather, List.mem_mergeSort]
  exact List.mem_filterMap.mpr ⟨(0, answer), first, rfl⟩

end SymbolCache
