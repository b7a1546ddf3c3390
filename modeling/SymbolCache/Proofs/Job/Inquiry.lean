import SymbolCache.Proofs.Job.Answers

/-!
# Jobs that only ask

A job that only asks comes to the same in every state and leaves the state as it is, so that what it
comes to depends on the answers alone. These may be any, and depend on the calls made before.
-/

set_option autoImplicit false

namespace SymbolCache.Job

variable {σ α β : Type}

def AsksOnly : Job σ α → Prop
  | .done _ => True
  | .look _ => False
  | .put _ _ => False
  | .call _ next => ∀ answer, (next answer).AsksOnly
  | .callTogether _ next => ∀ answers, (next answers).AsksOnly
  | .pause _ => False

theorem AsksOnly.bind {job : Job σ α} {next : α → Job σ β} (first : job.AsksOnly)
    (later : ∀ value, (next value).AsksOnly) : (job.bind next).AsksOnly := by
  induction job with
  | done value => exact later value
  | look rest ih => exact first.elim
  | put state rest ih => exact first.elim
  | call request rest ih => exact fun answer => ih answer (first answer)
  | callTogether requests rest ih => exact fun answers => ih answers (first answers)
  | pause rest ih => exact first.elim

theorem asksOnly_done (value : α) : (Job.done value : Job σ α).AsksOnly :=
  trivial

theorem asksOnly_ask (request : Request) : (Job.ask request : Job σ Answer).AsksOnly :=
  fun _ => trivial

theorem AsksOnly.run_eq {job : Job σ α} (asks : job.AsksOnly) (responder : Responder)
    (state other : σ) (calls : List Request) :
    job.run responder ⟨state, calls⟩ =
      ((job.run responder ⟨other, calls⟩).1,
        ⟨state, (job.run responder ⟨other, calls⟩).2.calls⟩) := by
  induction job generalizing calls with
  | done value => rfl
  | look rest ih => exact asks.elim
  | put state rest ih => exact asks.elim
  | call request rest ih => exact ih _ (asks _) _
  | callTogether requests rest ih => exact ih _ (asks _) _
  | pause rest ih => exact asks.elim

/-! ## Many requests -/

section

variable (responder : Responder)

theorem answerAll_append (calls first second : List Request) :
    answerAll responder calls (first ++ second) =
      ((answerAll responder calls first).1 ++
          (answerAll responder (answerAll responder calls first).2 second).1,
        (answerAll responder (answerAll responder calls first).2 second).2) := by
  induction first generalizing calls with
  | nil => rfl
  | cons request first ih => simp [answerAll, ih]

private theorem calls_answerAll (calls requests : List Request) :
    (answerAll responder calls requests).2 = requests.reverse ++ calls := by
  induction requests generalizing calls with
  | nil => rfl
  | cons request requests ih => simp [answerAll, ih]

theorem length_answerAll (calls requests : List Request) :
    (answerAll responder calls requests).1.length = requests.length := by
  induction requests generalizing calls with
  | nil => rfl
  | cons request requests ih => simp [answerAll, ih]

/-- In waves of any width, requests are answered as one after the other. -/
theorem run_askWaves (width fuel position : Nat) (requests : List Request)
    (enough : requests.length ≤ fuel) (now : Running σ) :
    (askWaves width fuel position requests).run responder now =
      ((inOrder (answerAll responder now.calls requests).1).map fun (place, reply) =>
          (position + place, reply),
        { now with calls := (answerAll responder now.calls requests).2 }) := by
  induction fuel generalizing position requests now with
  | zero =>
      obtain rfl : requests = [] := List.length_eq_zero_iff.mp (Nat.le_zero.mp enough)
      rfl
  | succ fuel ih =>
      cases requests with
      | nil => rfl
      | cons request requests =>
          have shorter : ((request :: requests).drop (width.max 1)).length ≤ fuel :=
            length_drop_wave_le width enough
          rw [askWaves]
          generalize wave : (request :: requests).take (width.max 1) = first
          generalize behind : (request :: requests).drop (width.max 1) = rest at shorter ⊢
          have split : request :: requests = first ++ rest := by
            rw [← wave, ← behind, List.take_append_drop]
          simp only [run, run_bind, ih _ _ shorter, split, answerAll_append, inOrder_append,
            List.map_append, List.map_map, length_answerAll]
          congr 2
          refine List.map_congr_left fun entry _ => ?_
          simp [Nat.add_assoc]

theorem run_askAll (width : Nat) (requests : List Request) (now : Running σ) :
    (askAll width requests).run responder now =
      (inOrder (answerAll responder now.calls requests).1,
        { now with calls := (answerAll responder now.calls requests).2 }) := by
  rw [askAll, run_askWaves responder width _ _ requests (Nat.le_refl _)]
  simp

/-! ## Last answers -/

/-- The answer to a request, by the calls made: that to the last of them, if there was one. -/
def lastAnswer? (request : Request) : List Request → Option Answer
  | [] => none
  | latest :: earlier =>
    if latest = request then some (responder earlier latest) else lastAnswer? request earlier

private theorem lastAnswer?_append {request : Request} {later : List Request}
    (other : request ∉ later)
    (calls : List Request) :
    lastAnswer? responder request (later ++ calls) = lastAnswer? responder request calls := by
  induction later with
  | nil => rfl
  | cons latest later ih =>
      obtain ⟨different, rest⟩ := List.ne_and_not_mem_of_not_mem_cons other
      rw [List.cons_append, lastAnswer?, if_neg (Ne.symm different), ih rest]

/-- Requests that differ from each other have been answered last when they were made together. -/
theorem answerAll_of_nodup (calls : List Request) {requests : List Request}
    (distinct : requests.Nodup) :
    (answerAll responder calls requests).1.map some = requests.map fun request =>
      lastAnswer? responder request (answerAll responder calls requests).2 := by
  induction requests generalizing calls with
  | nil => rfl
  | cons request requests ih =>
      obtain ⟨single, rest⟩ := List.nodup_cons.mp distinct
      have last : lastAnswer? responder request
          (answerAll responder (request :: calls) requests).2 =
            some (responder calls request) := by
        rw [calls_answerAll, lastAnswer?_append responder (by simpa using single), lastAnswer?,
          if_pos rfl]
      simp only [answerAll, List.map_cons, ih (request :: calls) rest, last]

end

end SymbolCache.Job
