import SymbolCache.Proofs.Job.Interleaving

/-!
# What holds at every suspension

Between two suspensions a job runs without a break, so that what it does in the meantime is not seen
by others. A condition that every job of a pool upholds at its suspensions holds at every step of a
run, until some job has come to an end with a value that releases the others from it.
-/

set_option autoImplicit false

namespace SymbolCache.Job

variable {σ α β : Type}

section

variable (condition : σ → Prop)

/-- From a state on, a job upholds a condition: the condition holds at each suspension if it does
whenever the job is resumed, and in the end something holds of the value and the state. -/
def Upholds (after : α → σ → Prop) : Job σ α → σ → Prop
  | .done value, state => after value state
  | .look next, state => (next state).Upholds after state
  | .put state next, _ => next.Upholds after state
  | .call _ next, state =>
    condition state ∧ ∀ answer state, condition state → (next answer).Upholds after state
  | .callTogether _ next, state =>
    condition state ∧ ∀ answers state, condition state → (next answers).Upholds after state
  | .pause next, state =>
    condition state ∧ ∀ state, condition state → next.Upholds after state

def Sustains (before : σ → Prop) (job : Job σ α) (after : α → σ → Prop) : Prop :=
  ∀ state, before state → job.Upholds condition after state

end

variable {condition before : σ → Prop} {after : α → σ → Prop}

theorem Upholds.bind {between : α → σ → Prop} {after : β → σ → Prop} {job : Job σ α}
    {next : α → Job σ β} {state : σ} (first : job.Upholds condition between state)
    (later : ∀ value, (next value).Sustains condition (between value) after) :
    (job.bind next).Upholds condition after state := by
  induction job generalizing state with
  | done value => exact later value state first
  | look rest ih => exact ih _ first
  | put state rest ih => exact ih first
  | call request rest ih =>
      exact ⟨first.1, fun answer state holds => ih answer (first.2 answer state holds)⟩
  | callTogether requests rest ih =>
      exact ⟨first.1, fun answers state holds => ih answers (first.2 answers state holds)⟩
  | pause rest ih => exact ⟨first.1, fun state holds => ih (first.2 state holds)⟩

theorem sustains_bind {between : α → σ → Prop} {after : β → σ → Prop} {job : Job σ α}
    {next : α → Job σ β} (first : job.Sustains condition before between)
    (later : ∀ value, (next value).Sustains condition (between value) after) :
    (job.bind next).Sustains condition before after :=
  fun state holds => (first state holds).bind later

theorem Upholds.mono {after' : α → σ → Prop} {job : Job σ α} {state : σ}
    (upholds : job.Upholds condition after state)
    (weaker : ∀ value state, after value state → after' value state) :
    job.Upholds condition after' state := by
  induction job generalizing state with
  | done value => exact weaker value state upholds
  | look rest ih => exact ih _ upholds
  | put state rest ih => exact ih upholds
  | call request rest ih =>
      exact ⟨upholds.1, fun answer state holds => ih answer (upholds.2 answer state holds)⟩
  | callTogether requests rest ih =>
      exact ⟨upholds.1, fun answers state holds => ih answers (upholds.2 answers state holds)⟩
  | pause rest ih => exact ⟨upholds.1, fun state holds => ih (upholds.2 state holds)⟩

theorem Sustains.mono {after' : α → σ → Prop} {job : Job σ α}
    (sustains : job.Sustains condition before after)
    (weaker : ∀ value state, after value state → after' value state) :
    job.Sustains condition before after' :=
  fun state holds => (sustains state holds).mono weaker

/-- A fact that does not depend on the state may be assumed. -/
theorem sustains_and {fact : Prop} {job : Job σ α}
    (sustains : fact → job.Sustains condition before after) :
    job.Sustains condition (fun state => fact ∧ before state) after :=
  fun state holds => sustains holds.1 state holds.2

theorem sustains_done {value : α} (holds : ∀ state, before state → after value state) :
    (Job.done value).Sustains condition before after :=
  holds

theorem sustains_look {look : σ → α} (holds : ∀ state, before state → after (look state) state) :
    (Job.look fun state => .done (look state)).Sustains condition before after :=
  holds

theorem sustains_update {change : σ → α × σ}
    (holds : ∀ state, before state → after (change state).1 (change state).2) :
    (Job.update change).Sustains condition before after :=
  holds

/-- What a job keeps all the time holds at its suspensions. -/
theorem Obeys.upholds {change : σ → σ → Prop} {job : Job σ α} {state : σ}
    (obeys : job.Obeys .files condition change after state) (holds : condition state) :
    job.Upholds condition after state := by
  induction job generalizing state with
  | done value => exact obeys
  | look rest ih => exact ih _ obeys holds
  | put state rest ih => exact ih obeys.2 obeys.1.2
  | call request rest ih =>
      exact ⟨holds, fun answer state again => ih answer (obeys answer state again) again⟩
  | callTogether requests rest ih =>
      exact ⟨holds, fun answers state again => ih answers (obeys answers state again) again⟩
  | pause rest ih => exact ⟨holds, fun state again => ih (obeys state again) again⟩

theorem sustains_of_keeps {change : σ → σ → Prop} {value : α → Prop} {job : Job σ α}
    (keeps : job.Keeps .files condition change value) :
    job.Sustains condition condition fun _ => condition :=
  fun state holds => ((keeps state holds).upholds holds).mono fun _ _ => And.right

/-! ## Runs -/

variable (grain : Grain) (responder : Responder)

/-- A step of a job comes to its end, or to a suspension at which the condition holds. -/
theorem Upholds.resume {job : Job σ α} (now : Running σ)
    (upholds : job.Upholds condition after now.state) :
    (∃ value, (job.resume grain responder now).1 = .done value ∧
        after value (job.resume grain responder now).2.state) ∨
      condition (job.resume grain responder now).2.state ∧
        (job.resume grain responder now).1.Sustains condition condition after := by
  induction job generalizing now with
  | done value => exact .inl ⟨value, rfl, upholds⟩
  | look rest ih => exact ih _ now upholds
  | put state rest ih => exact ih { now with state } upholds
  | call request rest ih => exact .inr ⟨upholds.1, upholds.2 _⟩
  | callTogether requests rest ih => exact .inr ⟨upholds.1, upholds.2 _⟩
  | pause rest ih =>
      cases grain with
      | calls => exact ih now (upholds.2 _ upholds.1)
      | files => exact .inr ⟨upholds.1, upholds.2⟩

/-- A job that has come to its end stays there. -/
theorem mem_done_interleave {value : α} (schedule : List Nat) {jobs : List (Job σ α)}
    (member : .done value ∈ jobs) (now : Running σ) :
    .done value ∈ (interleave grain responder schedule jobs now).1 := by
  induction schedule generalizing jobs now with
  | nil => exact member
  | cons position schedule ih =>
      rw [interleave]
      cases found : jobs[position]? with
      | none => exact ih member now
      | some job =>
          refine ih ?_ _
          obtain ⟨place, inside, same⟩ := List.mem_iff_getElem.mp member
          by_cases here : position = place
          · subst here
            obtain rfl : .done value = job := by
              rw [List.getElem?_eq_getElem inside, same] at found
              exact Option.some.inj found
            exact List.mem_set inside _
          · refine List.mem_iff_getElem.mpr ⟨place, by simpa using inside, ?_⟩
            rw [List.getElem_set_ne here, same]

/-- In any run of a pool of jobs that uphold a condition, it holds unless a job has come to an end
with a value that releases from it. -/
theorem sustains_interleave {releases : α → Prop} (schedule : List Nat) {jobs : List (Job σ α)}
    (sustain : ∀ job ∈ jobs, job.Sustains condition condition
      fun value state => releases value ∨ condition state)
    (now : Running σ) (holds : condition now.state) :
    (∃ value, .done value ∈ (interleave grain responder schedule jobs now).1 ∧ releases value) ∨
      condition (interleave grain responder schedule jobs now).2.state := by
  induction schedule generalizing jobs now with
  | nil => exact .inr holds
  | cons position schedule ih =>
      rw [interleave]
      cases found : jobs[position]? with
      | none => exact ih sustain now holds
      | some job =>
          have inside : position < jobs.length := (List.getElem?_eq_some_iff.mp found).1
          have others {next : Job σ α} (sustains : next.Sustains condition condition
              fun value state => releases value ∨ condition state) :
              ∀ other ∈ jobs.set position next, other.Sustains condition condition
                fun value state => releases value ∨ condition state := by
            intro other member
            rcases List.mem_or_eq_of_mem_set member with old | rfl
            · exact sustain other old
            · exact sustains
          have sustains := sustain job (List.mem_of_getElem? found) now.state holds
          rcases sustains.resume grain responder now with
            ⟨value, ended, released | kept⟩ | ⟨kept, goesOn⟩
          · refine .inl ⟨value, mem_done_interleave grain responder schedule ?_ _, released⟩
            rw [ended]
            exact List.mem_set inside _
          · refine ih (others ?_) _ kept
            rw [ended]
            exact sustains_done fun _ => .inr
          · exact ih (others goesOn) _ kept

end SymbolCache.Job
