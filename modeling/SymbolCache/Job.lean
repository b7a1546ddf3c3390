import SymbolCache.Command

/-!
# Jobs

A job reads and writes a state, calls outside programs and waits for the file system. While a call
is under way, or while the file system works, the job is suspended, and other jobs on the same state
may go on; between two suspensions a job runs without a break.

`run` lets one job run to its end. `resume` lets it run to its next suspension, from which a pool of
jobs is stepped in any order.
-/

set_option autoImplicit false

namespace SymbolCache

/-- A computation on a state of type `σ` that may be suspended. -/
inductive Job (σ α : Type) where
  | done (value : α)
  | look (next : σ → Job σ α)
  | put (state : σ) (next : Job σ α)
  | call (request : Request) (next : Answer → Job σ α)
  /-- Makes several calls at once and goes on with their answers in the order in which the calls
  ended, each with the position of its request. -/
  | callTogether (requests : List Request) (next : List (Nat × Answer) → Job σ α)
  /-- Waits for the file system. -/
  | pause (next : Job σ α)

namespace Job

variable {σ α β : Type}

protected def bind : Job σ α → (α → Job σ β) → Job σ β
  | .done value, next => next value
  | .look rest, next => .look fun state => (rest state).bind next
  | .put state rest, next => .put state (rest.bind next)
  | .call request rest, next => .call request fun answer => (rest answer).bind next
  | .callTogether requests rest, next =>
    .callTogether requests fun answers => (rest answers).bind next
  | .pause rest, next => .pause (rest.bind next)

instance : Monad (Job σ) where
  pure := .done
  bind := Job.bind

def get : Job σ σ :=
  .look .done

def modify (change : σ → σ) : Job σ Unit :=
  .look fun state => .put (change state) (.done ())

/-- Replaces the state by what a function of it gives, together with a value. -/
def update (change : σ → α × σ) : Job σ α :=
  .look fun state => .put (change state).2 (.done (change state).1)

def ask (request : Request) : Job σ Answer :=
  .call request .done

/-- Has the file system do something. Others may go on before it is done, and after it is done until
the job takes note of it. -/
def await (step : σ → α × σ) : Job σ α := do
  .pause (.done ())
  let value ← update step
  .pause (.done ())
  return value

/-- Answers to requests from the one at `position` on, in waves of `width` requests. It is fuelled
by the number of requests, as every wave has at least one. -/
def askWaves (width : Nat) : Nat → Nat → List Request → Job σ (List (Nat × Answer))
  | 0, _, _ => .done []
  | _ + 1, _, [] => .done []
  | fuel + 1, position, request :: requests =>
    let wave := (request :: requests).take (width.max 1)
    let later := (request :: requests).drop (width.max 1)
    .callTogether wave fun answers =>
      (askWaves width fuel (position + wave.length) later).bind fun laterAnswers =>
        .done (answers.map (fun (place, answer) => (position + place, answer)) ++ laterAnswers)

/-- The answers to requests, each with the position of its request. At most `width` calls are under
way at once, but always one. -/
def askAll (width : Nat) (requests : List Request) : Job σ (List (Nat × Answer)) :=
  askWaves width requests.length 0 requests

/-! ## Running -/

/-- The answers to requests that are made one after the other, and the requests made in the end. -/
def answerAll (responder : Responder) : List Request → List Request → List Answer × List Request
  | calls, [] => ([], calls)
  | calls, request :: requests =>
    let (answers, made) := answerAll responder (request :: calls) requests
    (responder calls request :: answers, made)

def inOrder (answers : List Answer) : List (Nat × Answer) :=
  (List.range answers.length).zip answers

/-- A state and the requests made so far, the latest first. -/
structure Running (σ : Type) where
  state : σ
  calls : List Request

/-- Runs a job to its end. Calls that are made together end in the order of their requests. -/
def run (responder : Responder) : Job σ α → Running σ → α × Running σ
  | .done value, now => (value, now)
  | .look next, now => (next now.state).run responder now
  | .put state next, now => next.run responder { now with state }
  | .call request next, now =>
    (next (responder now.calls request)).run responder
      { now with calls := request :: now.calls }
  | .callTogether requests next, now =>
    let (answers, calls) := answerAll responder now.calls requests
    (next (inOrder answers)).run responder { now with calls }
  | .pause next, now => next.run responder now

/-- At which suspensions others may go on. -/
inductive Grain where
  | calls
  /-- At calls and while the file system works. -/
  | files

/-- Runs a job to its next suspension: the calls are made and answered, and what is left of the job
goes on from the answers. -/
def resume (grain : Grain) (responder : Responder) : Job σ α → Running σ → Job σ α × Running σ
  | .done value, now => (.done value, now)
  | .look next, now => (next now.state).resume grain responder now
  | .put state next, now => next.resume grain responder { now with state }
  | .call request next, now =>
    (next (responder now.calls request), { now with calls := request :: now.calls })
  | .callTogether requests next, now =>
    let (answers, calls) := answerAll responder now.calls requests
    (next (inOrder answers), { now with calls })
  | .pause next, now =>
    match grain with
    | .calls => next.resume grain responder now
    | .files => (next, now)

/-- Runs a job to its next call, as if the file system took no time. -/
def advance (responder : Responder) (job : Job σ α) (now : Running σ) : Job σ α × Running σ :=
  job.resume .calls responder now

def value? : Job σ α → Option α
  | .done value => some value
  | _ => none

/-- Resumes the jobs of a pool in a given order, each time the one at a position. -/
def interleave (grain : Grain) (responder : Responder) :
    List Nat → List (Job σ α) → Running σ → List (Job σ α) × Running σ
  | [], jobs, now => (jobs, now)
  | position :: schedule, jobs, now =>
    match jobs[position]? with
    | none => interleave grain responder schedule jobs now
    | some job =>
      let (job, now) := job.resume grain responder now
      interleave grain responder schedule (jobs.set position job) now

end Job

end SymbolCache
