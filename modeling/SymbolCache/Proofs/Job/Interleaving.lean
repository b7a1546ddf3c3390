import Mathlib.Logic.Relation
import SymbolCache.Proofs.Job.Answers

/-!
# Interleaved jobs

Jobs on one state go on in any order, each up to its next suspension. What every job keeps and how
it may change the state is told job by job: a job is resumed in any state that satisfies the
invariant, whatever the others did to the state in the meantime.
-/

set_option autoImplicit false

namespace SymbolCache.Job

variable {σ α β : Type}

section

variable (grain : Grain) (invariant : σ → Prop) (change : σ → σ → Prop)

/-- A job obeys from a state on: it only puts states that satisfy the invariant and that the state
before may change to, and in the end something holds of the value and the state. After a suspension
the state is any that satisfies the invariant. -/
def Obeys (after : α → σ → Prop) : Job σ α → σ → Prop
  | .done value, state => after value state
  | .look next, state => (next state).Obeys after state
  | .put state next, before => (change before state ∧ invariant state) ∧ next.Obeys after state
  | .call _ next, _ => ∀ answer state, invariant state → (next answer).Obeys after state
  | .callTogether _ next, _ =>
    ∀ answers state, invariant state → (next answers).Obeys after state
  | .pause next, state =>
    match grain with
    | .calls => next.Obeys after state
    | .files => ∀ state, invariant state → next.Obeys after state

def Keeps (condition : α → Prop) (job : Job σ α) : Prop :=
  ∀ state, invariant state →
    job.Obeys grain invariant change (fun value state => condition value ∧ invariant state) state

end

abbrev Any (_ : α) : Prop := True

variable {grain : Grain} {invariant : σ → Prop} {change : σ → σ → Prop} {condition : α → Prop}

theorem Obeys.bind {between : α → σ → Prop} {after : β → σ → Prop} {next : α → Job σ β}
    {job : Job σ α} {state : σ} (first : job.Obeys grain invariant change between state)
    (later : ∀ value state, between value state →
      (next value).Obeys grain invariant change after state) :
    (job.bind next).Obeys grain invariant change after state := by
  induction job generalizing state with
  | done value => exact later value state first
  | look rest ih => exact ih _ first
  | put state rest ih => exact ⟨first.1, ih first.2⟩
  | call request rest ih => exact fun answer state holds => ih answer (first answer state holds)
  | callTogether requests rest ih =>
      exact fun answers state holds => ih answers (first answers state holds)
  | pause rest ih =>
      cases grain with
      | calls => exact ih first
      | files => exact fun state holds => ih (first state holds)

theorem Obeys.mono {after after' : α → σ → Prop} {job : Job σ α} {state : σ}
    (obeys : job.Obeys grain invariant change after state)
    (weaker : ∀ value state, after value state → after' value state) :
    job.Obeys grain invariant change after' state := by
  induction job generalizing state with
  | done value => exact weaker value state obeys
  | look rest ih => exact ih _ obeys
  | put state rest ih => exact ⟨obeys.1, ih obeys.2⟩
  | call request rest ih =>
      exact fun answer state holds => ih answer (obeys answer state holds)
  | callTogether requests rest ih =>
      exact fun answers state holds => ih answers (obeys answers state holds)
  | pause rest ih =>
      cases grain with
      | calls => exact ih obeys
      | files => exact fun state holds => ih (obeys state holds)

theorem keeps_bind {condition' : β → Prop} {job : Job σ α} {next : α → Job σ β}
    (first : job.Keeps grain invariant change condition)
    (later : ∀ value, condition value → (next value).Keeps grain invariant change condition') :
    (job.bind next).Keeps grain invariant change condition' :=
  fun state holds => (first state holds).bind fun value state ends =>
    later value ends.1 state ends.2

theorem Keeps.mono {condition' : α → Prop} {job : Job σ α}
    (keeps : job.Keeps grain invariant change condition)
    (weaker : ∀ value, condition value → condition' value) :
    job.Keeps grain invariant change condition' :=
  fun state holds => (keeps state holds).mono fun value _ => .imp_left (weaker value)

theorem keeps_done {value : α} (holds : condition value) :
    (Job.done value).Keeps grain invariant change condition :=
  fun _ kept => ⟨holds, kept⟩

private theorem keeps_call {request : Request} {next : Answer → Job σ α}
    (later : ∀ answer, (next answer).Keeps grain invariant change condition) :
    (Job.call request next).Keeps grain invariant change condition :=
  fun _ _ answer => later answer

private theorem keeps_pause {next : Job σ α} (later : next.Keeps grain invariant change condition) :
    (Job.pause next).Keeps grain invariant change condition := by
  intro state holds
  cases grain with
  | calls => exact later state holds
  | files => exact later

theorem keeps_ask (request : Request) :
    (Job.ask request : Job σ Answer).Keeps grain invariant change Any :=
  keeps_call fun _ => keeps_done trivial

theorem keeps_update {changes : σ → α × σ}
    (allowed : ∀ state, invariant state →
      change state (changes state).2 ∧ invariant (changes state).2)
    (value : ∀ state, invariant state → condition (changes state).1) :
    (Job.update changes).Keeps grain invariant change condition :=
  fun state holds => ⟨allowed state holds, value state holds, (allowed state holds).2⟩

theorem keeps_await {step : σ → α × σ}
    (allowed : ∀ state, invariant state → change state (step state).2 ∧ invariant (step state).2)
    (value : ∀ state, invariant state → condition (step state).1) :
    (Job.await step).Keeps grain invariant change condition := by
  rw [await_eq]
  exact keeps_pause <| keeps_bind (keeps_update allowed value) fun _ holds =>
    keeps_pause (keeps_done holds)

theorem keeps_modify {changes : σ → σ}
    (allowed : ∀ state, invariant state →
      change state (changes state) ∧ invariant (changes state)) :
    (Job.modify changes).Keeps grain invariant change Any :=
  fun state holds => ⟨allowed state holds, trivial, (allowed state holds).2⟩

private theorem keeps_askWaves (width fuel position : Nat) (requests : List Request) :
    (askWaves width fuel position requests : Job σ _).Keeps grain invariant change Any := by
  induction fuel generalizing position requests with
  | zero => exact keeps_done trivial
  | succ fuel ih =>
      cases requests with
      | nil => exact keeps_done trivial
      | cons request requests =>
          exact fun _ _ answers => keeps_bind (ih _ _) fun _ _ => keeps_done trivial

theorem keeps_askAll (width : Nat) (requests : List Request) :
    (askAll width requests : Job σ _).Keeps grain invariant change Any :=
  keeps_askWaves width _ _ requests

/-! ## Runs -/

variable (responder : Responder)

theorem Obeys.resume {job : Job σ α} (now : Running σ)
    (obeys : job.Obeys grain invariant change
      (fun value state => condition value ∧ invariant state) now.state)
    (holds : invariant now.state) :
    (job.resume grain responder now).1.Keeps grain invariant change condition ∧
      invariant (job.resume grain responder now).2.state ∧
        Relation.ReflTransGen change now.state (job.resume grain responder now).2.state := by
  induction job generalizing now with
  | done value => exact ⟨keeps_done obeys.1, holds, .refl⟩
  | look rest ih => exact ih _ now obeys holds
  | put state rest ih =>
      obtain ⟨keeps, after, changed⟩ := ih { now with state } obeys.2 obeys.1.2
      exact ⟨keeps, after, .head obeys.1.1 changed⟩
  | call request rest ih => exact ⟨obeys _, holds, .refl⟩
  | callTogether requests rest ih => exact ⟨obeys _, holds, .refl⟩
  | pause rest ih =>
      cases grain with
      | calls => exact ih now obeys holds
      | files => exact ⟨obeys, holds, .refl⟩

/-- After any run of a pool of jobs that keep an invariant, it holds, the state has changed as it
may, and the jobs still keep it. -/
theorem keeps_interleave (schedule : List Nat) {jobs : List (Job σ α)}
    (keeps : ∀ job ∈ jobs, job.Keeps grain invariant change condition) (now : Running σ)
    (holds : invariant now.state) :
    (∀ job ∈ (interleave grain responder schedule jobs now).1,
        job.Keeps grain invariant change condition) ∧
      invariant (interleave grain responder schedule jobs now).2.state ∧
        Relation.ReflTransGen change now.state
          (interleave grain responder schedule jobs now).2.state := by
  induction schedule generalizing jobs now with
  | nil => exact ⟨keeps, holds, .refl⟩
  | cons position schedule ih =>
      rw [interleave]
      cases found : jobs[position]? with
      | none => exact ih keeps now holds
      | some job =>
          have member : job ∈ jobs := List.mem_of_getElem? found
          obtain ⟨kept, after, changed⟩ :=
            (keeps job member now.state holds).resume responder now holds
          have others : ∀ other ∈ jobs.set position (job.resume grain responder now).1,
              other.Keeps grain invariant change condition := by
            intro other inside
            rcases List.mem_or_eq_of_mem_set inside with old | rfl
            · exact keeps other old
            · exact kept
          obtain ⟨kept, after, later⟩ := ih others _ after
          exact ⟨kept, after, changed.trans later⟩

theorem interleave_append (first second : List Nat) (jobs : List (Job σ α)) (now : Running σ) :
    interleave grain responder (first ++ second) jobs now =
      interleave grain responder second (interleave grain responder first jobs now).1
        (interleave grain responder first jobs now).2 := by
  induction first generalizing jobs now with
  | nil => rfl
  | cons position first ih =>
      rw [List.cons_append, interleave, interleave]
      cases jobs[position]? with
      | none => exact ih jobs now
      | some job => exact ih _ _

/-! ## Jobs that run alone

What a job comes to when nothing else goes on until its end, whatever the answers to its calls. -/

section

variable {before : σ → Prop} {after : α → σ → Prop}

def Leads (before : σ → Prop) (job : Job σ α) (after : α → σ → Prop) : Prop :=
  ∀ (responder : Responder) (now : Running σ), before now.state →
    after (job.run responder now).1 (job.run responder now).2.state

theorem leads_bind {between : α → σ → Prop} {after : β → σ → Prop} {job : Job σ α}
    {next : α → Job σ β} (first : Leads before job between)
    (later : ∀ value, Leads (between value) (next value) after) :
    Leads before (job.bind next) after := by
  intro responder now holds
  rw [run_bind]
  exact later _ responder _ (first responder now holds)

/-- A fact that does not depend on the state may be assumed. -/
theorem leads_and {fact : Prop} {job : Job σ α} (leads : fact → Leads before job after) :
    Leads (fun state => fact ∧ before state) job after :=
  fun responder now holds => leads holds.1 responder now holds.2

theorem leads_done {value : α} (holds : ∀ state, before state → after value state) :
    Leads before (.done value) after :=
  fun _ now start => holds now.state start

theorem leads_update {change : σ → α × σ}
    (holds : ∀ state, before state → after (change state).1 (change state).2) :
    Leads before (.update change) after :=
  fun _ now start => holds now.state start

theorem leads_await {step : σ → α × σ}
    (holds : ∀ state, before state → after (step state).1 (step state).2) :
    Leads before (.await step) after :=
  fun _ now start => holds now.state start

theorem leads_modify {change : σ → σ} {after : σ → Prop}
    (holds : ∀ state, before state → after (change state)) :
    Leads before (.modify change) fun _ => after :=
  fun _ now start => holds now.state start

theorem Obeys.run (responder : Responder) {job : Job σ α} (now : Running σ)
    (obeys : job.Obeys grain invariant change after now.state) (holds : invariant now.state) :
    after (job.run responder now).1 (job.run responder now).2.state ∧
      Relation.ReflTransGen change now.state (job.run responder now).2.state := by
  induction job generalizing now with
  | done value => exact ⟨obeys, .refl⟩
  | look rest ih => exact ih _ now obeys holds
  | put state rest ih =>
      obtain ⟨ended, changed⟩ := ih { now with state } obeys.2 obeys.1.2
      exact ⟨ended, .head obeys.1.1 changed⟩
  | call request rest ih => exact ih _ _ (obeys _ _ holds) holds
  | callTogether requests rest ih => exact ih _ _ (obeys _ _ holds) holds
  | pause rest ih =>
      cases grain with
      | calls => exact ih now obeys holds
      | files => exact ih now (obeys _ holds) holds

/-- A job ends in a state that satisfies what it keeps. -/
theorem leads_of_keeps {job : Job σ α}
    (keeps : job.Keeps .calls before (fun _ _ => True) Any) : Leads before job fun _ => before :=
  fun responder now start => ((keeps now.state start).run responder now start).1.2

end

/-! ## Jobs that are alone -/

section

def turns (grain : Grain) (responder : Responder) :
    Nat → Job σ α → Running σ → Job σ α × Running σ
  | 0, job, now => (job, now)
  | count + 1, job, now =>
    turns grain responder count (job.resume grain responder now).1
      (job.resume grain responder now).2

/-- What is known at each suspension and at the end of a job that is alone. -/
def Shows (known : σ → Prop) (after : α → σ → Prop) : Job σ α → σ → Prop
  | .done value, state => after value state
  | .look next, state => (next state).Shows known after state
  | .put state next, _ => next.Shows known after state
  | .call _ next, state => known state ∧ ∀ answer, (next answer).Shows known after state
  | .callTogether _ next, state => known state ∧ ∀ answers, (next answers).Shows known after state
  | .pause next, state => known state ∧ next.Shows known after state

variable {known : σ → Prop} {after : α → σ → Prop}

/-- What a job keeps is known at its suspensions. -/
theorem Obeys.shows {job : Job σ α} {state : σ}
    (obeys : job.Obeys .calls known change after state) (holds : known state) :
    job.Shows known after state := by
  induction job generalizing state with
  | done value => exact obeys
  | look rest ih => exact ih _ obeys holds
  | put state rest ih => exact ih obeys.2 obeys.1.2
  | call request rest ih => exact ⟨holds, fun answer => ih answer (obeys answer state holds) holds⟩
  | callTogether requests rest ih =>
      exact ⟨holds, fun answers => ih answers (obeys answers state holds) holds⟩
  | pause rest ih => exact ⟨holds, ih obeys holds⟩

theorem Shows.bind {between : α → σ → Prop} {after : β → σ → Prop} {job : Job σ α}
    {next : α → Job σ β} {state : σ} (first : job.Shows known between state)
    (later : ∀ value state, between value state → (next value).Shows known after state) :
    (job.bind next).Shows known after state := by
  induction job generalizing state with
  | done value => exact later value state first
  | look rest ih => exact ih _ first
  | put state rest ih => exact ih first
  | call request rest ih => exact ⟨first.1, fun answer => ih answer (first.2 answer)⟩
  | callTogether requests rest ih => exact ⟨first.1, fun answers => ih answers (first.2 answers)⟩
  | pause rest ih => exact ⟨first.1, ih first.2⟩

theorem Shows.resume (responder : Responder) {job : Job σ α} {now : Running σ}
    (shows : job.Shows known after now.state) :
    (job.resume grain responder now).1.Shows known after (job.resume grain responder now).2.state ∧
      (known (job.resume grain responder now).2.state ∨
        ∃ value, (job.resume grain responder now).1 = .done value) := by
  induction job generalizing now with
  | done value => exact ⟨shows, .inr ⟨value, rfl⟩⟩
  | look rest ih => exact ih _ shows
  | put state rest ih => exact @ih { now with state } shows
  | call request rest ih => exact ⟨shows.2 _, .inl shows.1⟩
  | callTogether requests rest ih => exact ⟨shows.2 _, .inl shows.1⟩
  | pause rest ih =>
      cases grain with
      | calls => exact ih shows.2
      | files => exact ⟨shows.2, .inl shows.1⟩

/-- After any number of turns, a job has come to its end or is suspended, and either is told. -/
theorem Shows.turns (grain : Grain) (responder : Responder) (count : Nat) {job : Job σ α}
    (now : Running σ) (shows : job.Shows known after now.state)
    (start : known now.state ∨ ∃ value, job = .done value) :
    (∃ value, (turns grain responder count job now).1 = .done value ∧
        after value (turns grain responder count job now).2.state) ∨
      (turns grain responder count job now).1.value? = none ∧
        known (turns grain responder count job now).2.state := by
  induction count generalizing job now with
  | zero =>
      rcases start with holds | ⟨value, rfl⟩
      case inr => exact .inl ⟨value, rfl, shows⟩
      case inl =>
        cases job with
        | done value => exact .inl ⟨value, rfl, shows⟩
        | _ => exact .inr ⟨rfl, holds⟩
  | succ count ih =>
      obtain ⟨shows, reached⟩ := shows.resume responder
      exact ih _ shows reached

end

end SymbolCache.Job
