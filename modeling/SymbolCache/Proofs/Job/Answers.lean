import Mathlib.Tactic.Common
import SymbolCache.Job

/-!
# Running under fixed answers

When the answer to a request depends on nothing but the request, a run to the end is a function of
the state: what was asked before does not matter.
-/

set_option autoImplicit false

namespace SymbolCache.Job

variable {σ α β : Type}

@[simp] theorem bind_eq (job : Job σ α) (next : α → Job σ β) : job >>= next = job.bind next := rfl

@[simp] theorem pure_eq (value : α) : (pure value : Job σ α) = .done value := rfl

theorem await_eq (step : σ → α × σ) :
    Job.await step = .pause ((Job.update step).bind fun value => .pause (.done value)) := rfl

theorem run_bind (responder : Responder) (job : Job σ α) (next : α → Job σ β)
    (now : Running σ) :
    (job.bind next).run responder now =
      (next (job.run responder now).1).run responder (job.run responder now).2 := by
  induction job generalizing now with
  | done value => rfl
  | look rest ih => exact ih now.state now
  | put state rest ih => exact ih { now with state }
  | call request rest ih => exact ih _ _
  | callTogether requests rest ih => exact ih _ _
  | pause rest ih => exact ih now

def evaluate (answer : Request → Answer) : Job σ α → σ → α × σ
  | .done value, state => (value, state)
  | .look next, state => (next state).evaluate answer state
  | .put state next, _ => next.evaluate answer state
  | .call request next, state => (next (answer request)).evaluate answer state
  | .callTogether requests next, state =>
    (next (inOrder (requests.map answer))).evaluate answer state
  | .pause next, state => next.evaluate answer state

section

variable (answer : Request → Answer)

@[simp] theorem evaluate_done (value : α) (state : σ) :
    (Job.done value).evaluate answer state = (value, state) := rfl

@[simp] theorem evaluate_ask (request : Request) (state : σ) :
    (Job.ask request).evaluate answer state = (answer request, state) := rfl

@[simp] theorem evaluate_update (change : σ → α × σ) (state : σ) :
    (Job.update change).evaluate answer state = change state := rfl

@[simp] theorem evaluate_await (step : σ → α × σ) (state : σ) :
    (Job.await step).evaluate answer state = step state := rfl

@[simp] theorem evaluate_bind (job : Job σ α) (next : α → Job σ β) (state : σ) :
    (job.bind next).evaluate answer state =
      (next (job.evaluate answer state).1).evaluate answer (job.evaluate answer state).2 := by
  induction job generalizing state with
  | done value => rfl
  | look rest ih => exact ih state state
  | put state' rest ih => exact ih state'
  | call request rest ih => exact ih _ state
  | callTogether requests rest ih => exact ih _ state
  | pause rest ih => exact ih state

private theorem answerAll_fixed (calls requests : List Request) :
    (answerAll (fun _ request => answer request) calls requests).1 = requests.map answer := by
  induction requests generalizing calls with
  | nil => rfl
  | cons request requests ih => simp [answerAll, ih]

/-- Evaluation tells what a run comes to, and in which state it ends. -/
theorem run_fixed (job : Job σ α) (now : Running σ) :
    (job.run (fun _ request => answer request) now).1 = (job.evaluate answer now.state).1 ∧
      (job.run (fun _ request => answer request) now).2.state =
        (job.evaluate answer now.state).2 := by
  induction job generalizing now with
  | done value => exact ⟨rfl, rfl⟩
  | look rest ih => exact ih now.state now
  | put state rest ih => exact ih { now with state }
  | call request rest ih => exact ih _ _
  | callTogether requests rest ih =>
      have made := answerAll_fixed answer now.calls requests
      simpa only [run, evaluate, made] using
        ih _ { now with calls := (answerAll _ now.calls requests).2 }
  | pause rest ih => exact ih now

/-! ## Many requests -/

theorem inOrder_append (first second : List Answer) :
    inOrder (first ++ second) =
      inOrder first ++
        (inOrder second).map fun (place, reply) => (first.length + place, reply) := by
  simp only [inOrder, List.length_append, List.range_add]
  rw [List.zip_append (by simp), List.zip_map_left]
  rfl

/-- Fuel that is enough for some requests is enough for those behind the first wave, with one step
less. -/
theorem length_drop_wave_le (width : Nat) {fuel : Nat} {request : Request} {requests : List Request}
    (enough : (request :: requests).length ≤ fuel + 1) :
    ((request :: requests).drop (width.max 1)).length ≤ fuel := by
  have positive : 1 ≤ width.max 1 := Nat.le_max_right width 1
  simp only [List.length_drop, List.length_cons] at enough ⊢
  omega

private theorem evaluate_askWaves (width fuel position : Nat) (requests : List Request)
    (enough : requests.length ≤ fuel) (state : σ) :
    (askWaves width fuel position requests).evaluate answer state =
      ((inOrder (requests.map answer)).map fun (place, reply) => (position + place, reply),
        state) := by
  induction fuel generalizing position requests with
  | zero =>
      obtain rfl : requests = [] := List.length_eq_zero_iff.mp (Nat.le_zero.mp enough)
      rfl
  | succ fuel ih =>
      cases requests with
      | nil => rfl
      | cons request requests =>
          have shorter : ((request :: requests).drop (width.max 1)).length ≤ fuel :=
            length_drop_wave_le width enough
          have split : (request :: requests).map answer =
              ((request :: requests).take (width.max 1)).map answer ++
                ((request :: requests).drop (width.max 1)).map answer := by
            rw [← List.map_append, List.take_append_drop]
          simp only [askWaves, evaluate, evaluate_bind, ih _ _ shorter, split, inOrder_append,
            List.map_append, List.map_map, List.length_map]
          congr 2
          refine List.map_congr_left fun entry _ => ?_
          simp [Nat.add_assoc]

/-- All requests are answered, each at its position. -/
theorem evaluate_askAll (width : Nat) (requests : List Request) (state : σ) :
    (askAll width requests).evaluate answer state =
      (inOrder (requests.map answer), state) := by
  rw [askAll, evaluate_askWaves answer width _ _ requests (Nat.le_refl _)]
  simp

end

/-! ## Jobs without calls -/

def Silent : Job σ α → Prop
  | .done _ => True
  | .look next => ∀ state, (next state).Silent
  | .put _ next => next.Silent
  | .call _ _ => False
  | .callTogether _ _ => False
  | .pause next => next.Silent

theorem Silent.bind {job : Job σ α} {next : α → Job σ β} (first : job.Silent)
    (later : ∀ value, (next value).Silent) : (job.bind next).Silent := by
  induction job with
  | done value => exact later value
  | look rest ih => exact fun state => ih state (first state)
  | put state rest ih => exact ih first
  | call request rest ih => exact first
  | callTogether requests rest ih => exact first
  | pause rest ih => exact ih first

theorem silent_await (step : σ → α × σ) : (Job.await step).Silent :=
  fun _ => trivial

section

variable (answer : Request → Answer) {job : Job σ α}

/-- A job without calls comes to the same under all answers. -/
theorem Silent.run_eq (silent : job.Silent) (responder : Responder) (now : Running σ) :
    job.run responder now =
      ((job.evaluate answer now.state).1,
        { now with state := (job.evaluate answer now.state).2 }) := by
  induction job generalizing now with
  | done value => rfl
  | look rest ih => exact ih _ (silent _) now
  | put state rest ih => exact ih silent { now with state }
  | call request rest ih => exact silent.elim
  | callTogether requests rest ih => exact silent.elim
  | pause rest ih => exact ih silent now

/-- If files take no time, a job without calls is over at once. -/
theorem Silent.resume_bind (silent : job.Silent) (responder : Responder) (next : α → Job σ β)
    (now : Running σ) :
    (job.bind next).resume .calls responder now =
      (next (job.evaluate answer now.state).1).resume .calls responder
        { now with state := (job.evaluate answer now.state).2 } := by
  induction job generalizing now with
  | done value => rfl
  | look rest ih => exact ih _ (silent _) now
  | put state rest ih => exact ih silent { now with state }
  | call request rest ih => exact silent.elim
  | callTogether requests rest ih => exact silent.elim
  | pause rest ih => exact ih silent now

end

end SymbolCache.Job
