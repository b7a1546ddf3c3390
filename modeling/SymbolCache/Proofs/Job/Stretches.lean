import Mathlib.Data.List.Induction
import SymbolCache.Proofs.Job.Inquiry
import SymbolCache.Proofs.Job.Suspensions

/-!
# From one suspension to the next

A job that is resumed runs without a break to its next suspension or to its end: that is a stretch.
What a job does is told stretch by stretch, by the state in which it was resumed and the one at the
end of the stretch, as others may do anything to the state while it is suspended. What has come
before a suspension is told by the phase that the job is in.
-/

set_option autoImplicit false

namespace SymbolCache.Job

variable {σ φ α β : Type}

section

variable (grain : Grain) (pause : φ → φ → σ → σ → Prop)

/-- A job that was resumed in a phase and a state, and has come to another state, goes on so that
`pause` relates the two ends of a stretch and the phases before and after it, and `final` those of
the last one. -/
def Proceeds (final : φ → α → σ → σ → Prop) : Job σ α → φ → σ → σ → Prop
  | .done value, phase, origin, state => final phase value origin state
  | .look next, phase, origin, state => (next state).Proceeds final phase origin state
  | .put state next, phase, origin, _ => next.Proceeds final phase origin state
  | .call _ next, phase, origin, state => ∃ later, pause phase later origin state ∧
    ∀ answer resumed, (next answer).Proceeds final later resumed resumed
  | .callTogether requests next, phase, origin, state => ∃ later, pause phase later origin state ∧
    ∀ answers : List Answer, answers.length = requests.length →
      ∀ resumed, (next (inOrder answers)).Proceeds final later resumed resumed
  | .pause next, phase, origin, state =>
    match grain with
    | .calls => next.Proceeds final phase origin state
    | .files => ∃ later, pause phase later origin state ∧
      ∀ resumed, next.Proceeds final later resumed resumed

def Stretches (before : φ → σ → σ → Prop) (job : Job σ α) (after : φ → α → σ → σ → Prop) : Prop :=
  ∀ phase origin state, before phase origin state →
    job.Proceeds grain pause after phase origin state

def Awaits (phase : φ) (job : Job σ α) (after : φ → α → σ → σ → Prop) : Prop :=
  ∀ state, job.Proceeds grain pause after phase state state

end

abbrev Always (relation : σ → σ → Prop) (_ : Unit) : σ → σ → Prop :=
  relation

abbrev Pausing (relation : σ → σ → Prop) (_ _ : Unit) : σ → σ → Prop :=
  relation

variable {grain : Grain} {pause : φ → φ → σ → σ → Prop} {before : φ → σ → σ → Prop}
  {after : φ → α → σ → σ → Prop}

theorem Proceeds.bind {between : φ → α → σ → σ → Prop} {after : φ → β → σ → σ → Prop}
    {job : Job σ α} {next : α → Job σ β} {phase : φ} {origin state : σ}
    (first : job.Proceeds grain pause between phase origin state)
    (later : ∀ value, (next value).Stretches grain pause (fun phase => between phase value) after) :
    (job.bind next).Proceeds grain pause after phase origin state := by
  induction job generalizing phase origin state with
  | done value => exact later value phase origin state first
  | look rest ih => exact ih _ first
  | put state rest ih => exact ih first
  | call request rest ih =>
      obtain ⟨phase, pauses, goesOn⟩ := first
      exact ⟨phase, pauses, fun answer resumed => ih answer (goesOn answer resumed)⟩
  | callTogether requests rest ih =>
      obtain ⟨phase, pauses, goesOn⟩ := first
      exact ⟨phase, pauses, fun answers enough resumed => ih _ (goesOn answers enough resumed)⟩
  | pause rest ih =>
      cases grain with
      | calls => exact ih first
      | files =>
          obtain ⟨phase, pauses, goesOn⟩ := first
          exact ⟨phase, pauses, fun resumed => ih (goesOn resumed)⟩

theorem bind_assoc {γ : Type} (job : Job σ α) (first : α → Job σ β) (second : β → Job σ γ) :
    (job.bind first).bind second = job.bind fun value => (first value).bind second := by
  induction job with
  | done value => rfl
  | look rest ih => exact congrArg Job.look (funext ih)
  | put state rest ih => exact congrArg (Job.put state) ih
  | call request rest ih => exact congrArg (Job.call request) (funext ih)
  | callTogether requests rest ih => exact congrArg (Job.callTogether requests) (funext ih)
  | pause rest ih => exact congrArg Job.pause ih

theorem stretches_bind {between : φ → α → σ → σ → Prop} {after : φ → β → σ → σ → Prop}
    {job : Job σ α} {next : α → Job σ β} (first : job.Stretches grain pause before between)
    (later : ∀ value, (next value).Stretches grain pause (fun phase => between phase value) after) :
    (job.bind next).Stretches grain pause before after :=
  fun phase origin state holds => (first phase origin state holds).bind later

theorem Proceeds.mono {pause' : φ → φ → σ → σ → Prop} {after' : φ → α → σ → σ → Prop}
    {job : Job σ α} {phase : φ} {origin state : σ}
    (proceeds : job.Proceeds grain pause after phase origin state)
    (pauses : ∀ phase later origin state, pause phase later origin state →
      pause' phase later origin state)
    (ends : ∀ phase value origin state, after phase value origin state →
      after' phase value origin state) :
    job.Proceeds grain pause' after' phase origin state := by
  induction job generalizing phase origin state with
  | done value => exact ends phase value origin state proceeds
  | look rest ih => exact ih _ proceeds
  | put state rest ih => exact ih proceeds
  | call request rest ih =>
      obtain ⟨phase, paused, goesOn⟩ := proceeds
      exact ⟨phase, pauses _ _ _ _ paused, fun answer resumed => ih answer (goesOn answer resumed)⟩
  | callTogether requests rest ih =>
      obtain ⟨phase, paused, goesOn⟩ := proceeds
      exact ⟨phase, pauses _ _ _ _ paused,
        fun answers enough resumed => ih _ (goesOn answers enough resumed)⟩
  | pause rest ih =>
      cases grain with
      | calls => exact ih proceeds
      | files =>
          obtain ⟨phase, paused, goesOn⟩ := proceeds
          exact ⟨phase, pauses _ _ _ _ paused, fun resumed => ih (goesOn resumed)⟩

theorem Stretches.weaken {after' : φ → α → σ → σ → Prop} {job : Job σ α}
    (stretches : job.Stretches grain pause before after)
    (ends : ∀ phase value origin state, after phase value origin state →
      after' phase value origin state) :
    job.Stretches grain pause before after' :=
  fun phase origin state holds =>
    (stretches phase origin state holds).mono (fun _ _ _ _ => id) ends

theorem Stretches.awaits {job : Job σ α} {phase : φ}
    (stretches : job.Stretches grain pause before after)
    (refl : ∀ state, before phase state state) :
    job.Awaits grain pause phase after :=
  fun state => stretches phase state state (refl state)

/-- What a job does from one state on may be told from another one, in its first stretch. -/
theorem Proceeds.rebase {job : Job σ α} {phase : φ} {base origin state : σ}
    (proceeds : job.Proceeds grain pause after phase base state)
    (pauses : ∀ later state, pause phase later base state → pause phase later origin state)
    (ends : ∀ value state, after phase value base state → after phase value origin state) :
    job.Proceeds grain pause after phase origin state := by
  induction job generalizing state with
  | done value => exact ends value state proceeds
  | look rest ih => exact ih _ proceeds
  | put state rest ih => exact ih proceeds
  | call request rest ih =>
      obtain ⟨later, paused, goesOn⟩ := proceeds
      exact ⟨later, pauses _ _ paused, goesOn⟩
  | callTogether requests rest ih =>
      obtain ⟨later, paused, goesOn⟩ := proceeds
      exact ⟨later, pauses _ _ paused, goesOn⟩
  | pause rest ih =>
      cases grain with
      | calls => exact ih proceeds
      | files =>
          obtain ⟨later, paused, goesOn⟩ := proceeds
          exact ⟨later, pauses _ _ paused, goesOn⟩

/-- A fact that does not depend on the states may be assumed. -/
theorem stretches_and {fact : Prop} {job : Job σ α}
    (stretches : fact → job.Stretches grain pause before after) :
    job.Stretches grain pause (fun phase origin state => fact ∧ before phase origin state) after :=
  fun phase origin state holds => stretches holds.1 phase origin state holds.2

theorem stretches_done {value : α}
    (holds : ∀ phase origin state, before phase origin state → after phase value origin state) :
    (Job.done value).Stretches grain pause before after :=
  holds

theorem stretches_look {look : σ → α}
    (holds : ∀ phase origin state, before phase origin state →
      after phase (look state) origin state) :
    (Job.look fun state => .done (look state)).Stretches grain pause before after :=
  holds

theorem stretches_modify {change : σ → σ} {after : φ → σ → σ → Prop}
    (holds : ∀ phase origin state, before phase origin state →
      after phase origin (change state)) :
    (Job.modify change).Stretches grain pause before fun phase _ => after phase :=
  holds

theorem stretches_update {change : σ → α × σ}
    (holds : ∀ phase origin state, before phase origin state →
      after phase (change state).1 origin (change state).2) :
    (Job.update change).Stretches grain pause before after :=
  holds

/-! ## Jobs that make changes of one kind -/

section

variable {change : σ → σ → Prop} {condition : α → Prop} {job : Job σ α}

theorem Obeys.proceeds {phase : φ} {origin state : σ}
    (obeys : job.Obeys grain (fun _ => True) change (fun value _ => condition value ∧ True) state)
    (closed : ∀ phase {origin state next}, before phase origin state → change state next →
      before phase origin next)
    (pauses : ∀ phase origin state, before phase origin state →
      ∃ later, pause phase later origin state ∧ ∀ resumed, before later resumed resumed)
    (holds : before phase origin state) :
    job.Proceeds grain pause
      (fun phase value origin state => condition value ∧ before phase origin state)
      phase origin state := by
  induction job generalizing phase origin state with
  | done value => exact ⟨obeys.1, holds⟩
  | look rest ih => exact ih _ obeys holds
  | put next rest ih => exact ih obeys.2 (closed phase holds obeys.1.1)
  | call request rest ih =>
      obtain ⟨later, paused, starts⟩ := pauses phase origin state holds
      exact ⟨later, paused, fun answer resumed =>
        ih answer (obeys answer resumed trivial) (starts resumed)⟩
  | callTogether requests rest ih =>
      obtain ⟨later, paused, starts⟩ := pauses phase origin state holds
      exact ⟨later, paused, fun answers _ resumed =>
        ih _ (obeys _ resumed trivial) (starts resumed)⟩
  | pause rest ih =>
      cases grain with
      | calls => exact ih obeys holds
      | files =>
          obtain ⟨later, paused, starts⟩ := pauses phase origin state holds
          exact ⟨later, paused, fun resumed => ih (obeys resumed trivial) (starts resumed)⟩

/-- A job that makes changes of one kind only makes changes of that kind in each stretch. -/
theorem stretches_of_keeps (keeps : job.Keeps grain (fun _ => True) change condition)
    (closed : ∀ phase {origin state next}, before phase origin state → change state next →
      before phase origin next)
    (pauses : ∀ phase origin state, before phase origin state →
      ∃ later, pause phase later origin state ∧ ∀ resumed, before later resumed resumed) :
    job.Stretches grain pause before fun phase value origin state =>
      condition value ∧ before phase origin state :=
  fun _ _ state holds => (keeps state trivial).proceeds closed pauses holds

end

/-! ## What a job gives -/

def Gives (condition : α → Prop) : Job σ α → Prop
  | .done value => condition value
  | .look next => ∀ state, (next state).Gives condition
  | .put _ next => next.Gives condition
  | .call _ next => ∀ answer, (next answer).Gives condition
  | .callTogether requests next =>
    ∀ answers : List Answer, answers.length = requests.length →
      (next (inOrder answers)).Gives condition
  | .pause next => next.Gives condition

theorem Gives.bind {between : α → Prop} {condition : β → Prop} {job : Job σ α}
    {next : α → Job σ β} (first : job.Gives between)
    (later : ∀ value, between value → (next value).Gives condition) :
    (job.bind next).Gives condition := by
  induction job with
  | done value => exact later value first
  | look rest ih => exact fun state => ih state (first state)
  | put state rest ih => exact ih first
  | call request rest ih => exact fun answer => ih answer (first answer)
  | callTogether requests rest ih => exact fun answers enough => ih _ (first answers enough)
  | pause rest ih => exact ih first

private theorem gives_any (job : Job σ α) : job.Gives Any := by
  induction job with
  | done value => trivial
  | look rest ih => exact ih
  | put state rest ih => exact ih
  | call request rest ih => exact ih
  | callTogether requests rest ih => exact fun answers _ => ih (inOrder answers)
  | pause rest ih => exact ih

/-- What is known of the value that a job gives holds of the value in its last stretch. -/
theorem Proceeds.and {condition : α → Prop} {job : Job σ α} {phase : φ} {origin state : σ}
    (proceeds : job.Proceeds grain pause after phase origin state) (gives : job.Gives condition) :
    job.Proceeds grain pause (fun phase value origin state =>
      condition value ∧ after phase value origin state) phase origin state := by
  induction job generalizing phase origin state with
  | done value => exact ⟨gives, proceeds⟩
  | look rest ih => exact ih _ proceeds (gives _)
  | put state rest ih => exact ih proceeds gives
  | call request rest ih =>
      obtain ⟨later, paused, goesOn⟩ := proceeds
      exact ⟨later, paused, fun answer resumed => ih answer (goesOn answer resumed) (gives answer)⟩
  | callTogether requests rest ih =>
      obtain ⟨later, paused, goesOn⟩ := proceeds
      exact ⟨later, paused, fun answers enough resumed =>
        ih _ (goesOn answers enough resumed) (gives answers enough)⟩
  | pause rest ih =>
      cases grain with
      | calls => exact ih proceeds gives
      | files =>
          obtain ⟨later, paused, goesOn⟩ := proceeds
          exact ⟨later, paused, fun resumed => ih (goesOn resumed) gives⟩

theorem Stretches.and {condition : α → Prop} {job : Job σ α}
    (stretches : job.Stretches grain pause before after) (gives : job.Gives condition) :
    job.Stretches grain pause before fun phase value origin state =>
      condition value ∧ after phase value origin state :=
  fun phase origin state holds => (stretches phase origin state holds).and gives

/-- Of requests that are made in waves, the first one is answered. -/
theorem gives_askAll (width : Nat) {requests : List Request} (some : requests ≠ []) :
    (askAll width requests : Job σ _).Gives fun answers => ∃ answer, (0, answer) ∈ answers := by
  obtain ⟨request, rest, rfl⟩ := List.exists_cons_of_ne_nil some
  rw [askAll, List.length_cons, askWaves]
  intro answers enough
  have wave : 0 < answers.length := by
    have positive : 1 ≤ width.max 1 := Nat.le_max_right width 1
    rw [enough, List.length_take, List.length_cons]
    omega
  obtain ⟨answer, others, rfl⟩ := List.exists_cons_of_length_pos wave
  refine (gives_any _).bind fun later _ => ?_
  refine ⟨answer, List.mem_append_left _ (List.mem_map.mpr ⟨(0, answer), ?_, rfl⟩)⟩
  simp [inOrder, List.range_succ_eq_map]

theorem Gives.mono {weaker : α → Prop} {job : Job σ α} {condition : α → Prop}
    (gives : job.Gives condition) (implies : ∀ value, condition value → weaker value) :
    job.Gives weaker := by
  induction job with
  | done value => exact implies value gives
  | look rest ih => exact fun state => ih state (gives state)
  | put state rest ih => exact ih gives
  | call request rest ih => exact fun answer => ih answer (gives answer)
  | callTogether requests rest ih => exact fun answers enough => ih _ (gives answers enough)
  | pause rest ih => exact ih gives

/-- If files take no time, a job without calls is one stretch. -/
theorem Silent.proceeds {job : Job σ α} (silent : job.Silent) (answer : Request → Answer)
    {phase : φ} {origin state : σ}
    (ends : after phase (job.evaluate answer state).1 origin (job.evaluate answer state).2) :
    job.Proceeds .calls pause after phase origin state := by
  induction job generalizing state with
  | done value => exact ends
  | look rest ih => exact ih state (silent state) ends
  | put state rest ih => exact ih silent ends
  | call request rest ih => exact silent.elim
  | callTogether requests rest ih => exact silent.elim
  | pause rest ih => exact ih silent ends

/-! ## Jobs that are suspended -/

/-- From a state, a job is suspended before it ends. -/
def Suspends (grain : Grain) : Job σ α → σ → Prop
  | .done _, _ => False
  | .look next, state => (next state).Suspends grain state
  | .put state next, _ => next.Suspends grain state
  | .call _ _, _ => True
  | .callTogether _ _, _ => True
  | .pause next, state =>
    match grain with
    | .calls => next.Suspends grain state
    | .files => True

theorem Suspends.bind {job : Job σ α} {state : σ} (suspends : job.Suspends grain state)
    (next : α → Job σ β) : (job.bind next).Suspends grain state := by
  induction job generalizing state with
  | done value => exact suspends.elim
  | look rest ih => exact ih _ suspends
  | put state rest ih => exact ih suspends
  | call request rest ih => trivial
  | callTogether requests rest ih => trivial
  | pause rest ih =>
      cases grain with
      | calls => exact ih suspends
      | files => trivial

/-! ## Runs -/

section

variable (grain : Grain) (responder : Responder)

theorem resume_bind_done (job : Job σ α) (tell : α → β) (now : Running σ) :
    (job.bind fun value => .done (tell value)).resume grain responder now =
      ((job.resume grain responder now).1.bind fun value => .done (tell value),
        (job.resume grain responder now).2) := by
  induction job generalizing now with
  | done value => rfl
  | look rest ih => exact ih _ now
  | put state rest ih => exact ih { now with state }
  | call request rest ih => rfl
  | callTogether requests rest ih => rfl
  | pause rest ih =>
      cases grain with
      | calls => exact ih now
      | files => rfl

/-- A step of a job comes to its end, or to a suspension from which the job awaits the next step. -/
theorem Proceeds.resume {job : Job σ α} {phase : φ} {origin : σ} (now : Running σ)
    (proceeds : job.Proceeds grain pause after phase origin now.state) :
    (∃ value, (job.resume grain responder now).1 = .done value ∧
        after phase value origin (job.resume grain responder now).2.state) ∨
      ∃ later, pause phase later origin (job.resume grain responder now).2.state ∧
        (job.resume grain responder now).1.Awaits grain pause later after := by
  induction job generalizing now with
  | done value => exact .inl ⟨value, rfl, proceeds⟩
  | look rest ih => exact ih _ now proceeds
  | put state rest ih => exact ih { now with state } proceeds
  | call request rest ih =>
      obtain ⟨later, paused, goesOn⟩ := proceeds
      exact .inr ⟨later, paused, goesOn _⟩
  | callTogether requests rest ih =>
      obtain ⟨later, paused, goesOn⟩ := proceeds
      exact .inr ⟨later, paused, goesOn _ (length_answerAll responder now.calls requests)⟩
  | pause rest ih =>
      cases grain with
      | calls => exact ih now proceeds
      | files =>
          obtain ⟨later, paused, goesOn⟩ := proceeds
          exact .inr ⟨later, paused, goesOn⟩

variable {grain}

theorem Suspends.resume_bind {job : Job σ α} {now : Running σ}
    (suspends : job.Suspends grain now.state) (next : α → Job σ β) :
    (job.bind next).resume grain responder now =
      ((job.resume grain responder now).1.bind next, (job.resume grain responder now).2) := by
  induction job generalizing now with
  | done value => exact suspends.elim
  | look rest ih => exact ih _ suspends
  | put state rest ih => exact ih suspends
  | call request rest ih => rfl
  | callTogether requests rest ih => rfl
  | pause rest ih =>
      cases grain with
      | calls => exact ih suspends
      | files => rfl

/-- The first turn of a job that is suspended in it ends with a pause. -/
theorem Proceeds.resume_of_suspends {job : Job σ α} {phase : φ} {origin : σ} (now : Running σ)
    (proceeds : job.Proceeds grain pause after phase origin now.state)
    (suspends : job.Suspends grain now.state) :
    ∃ later, pause phase later origin (job.resume grain responder now).2.state ∧
      (job.resume grain responder now).1.Awaits grain pause later after := by
  induction job generalizing now with
  | done value => exact suspends.elim
  | look rest ih => exact ih _ now proceeds suspends
  | put state rest ih => exact ih { now with state } proceeds suspends
  | call request rest ih =>
      obtain ⟨later, paused, goesOn⟩ := proceeds
      exact ⟨later, paused, goesOn _⟩
  | callTogether requests rest ih =>
      obtain ⟨later, paused, goesOn⟩ := proceeds
      exact ⟨later, paused, goesOn _ (length_answerAll responder now.calls requests)⟩
  | pause rest ih =>
      cases grain with
      | calls => exact ih now proceeds suspends
      | files =>
          obtain ⟨later, paused, goesOn⟩ := proceeds
          exact ⟨later, paused, goesOn⟩

/-- Of a job that runs alone all stretches are one, if stretches can be put together. -/
theorem Proceeds.run {pause : σ → σ → Prop} {after : α → σ → σ → Prop} {job : Job σ α} {origin : σ}
    (now : Running σ)
    (proceeds : job.Proceeds .calls (Pausing pause) (fun _ => after) () origin now.state)
    (joins : ∀ value origin state ended, pause origin state → after value state ended →
      after value origin ended) :
    after (job.run responder now).1 origin (job.run responder now).2.state := by
  induction job generalizing origin now with
  | done value => exact proceeds
  | look rest ih => exact ih _ now proceeds
  | put state rest ih => exact ih { now with state } proceeds
  | call request rest ih =>
      obtain ⟨_, paused, goesOn⟩ := proceeds
      exact joins _ _ _ _ paused (ih _ ⟨now.state, _⟩ (goesOn _ now.state))
  | callTogether requests rest ih =>
      obtain ⟨_, paused, goesOn⟩ := proceeds
      exact joins _ _ _ _ paused (ih _ ⟨now.state, _⟩
        (goesOn _ (length_answerAll responder now.calls requests) now.state))
  | pause rest ih => exact ih now proceeds

/-! ## Pools -/

variable (grain)

/-- One turn of a run: nobody is at the position, or the job there makes a step. -/
theorem interleave_concat (schedule : List Nat) (position : Nat) (jobs : List (Job σ α))
    (now : Running σ) :
    interleave grain responder (schedule ++ [position]) jobs now =
      match (interleave grain responder schedule jobs now).1[position]? with
      | none => interleave grain responder schedule jobs now
      | some job =>
        let (job, ended) :=
          job.resume grain responder (interleave grain responder schedule jobs now).2
        ((interleave grain responder schedule jobs now).1.set position job, ended) := by
  rw [interleave_append]
  generalize interleave grain responder schedule jobs now = reached
  cases found : reached.1[position]? with
  | none => simp only [interleave, found]
  | some job => simp only [interleave, found]

section

variable {grain} {responder} {schedule : List Nat} {position : Nat} {jobs : List (Job σ α)}
  {now : Running σ} {job : Job σ α}

theorem interleave_concat_of_getElem?
    (found : (interleave grain responder schedule jobs now).1[position]? = some job) :
    interleave grain responder (schedule ++ [position]) jobs now =
      ((interleave grain responder schedule jobs now).1.set position
          (job.resume grain responder (interleave grain responder schedule jobs now).2).1,
        (job.resume grain responder (interleave grain responder schedule jobs now).2).2) := by
  rw [interleave_concat, found]

/-- A step changes the job whose turn it is and no other one. -/
theorem getElem?_interleave_concat
    (found : (interleave grain responder schedule jobs now).1[position]? = some job) (other : Nat) :
    (interleave grain responder (schedule ++ [position]) jobs now).1[other]? =
      if other = position then
        some (job.resume grain responder (interleave grain responder schedule jobs now).2).1
      else (interleave grain responder schedule jobs now).1[other]? := by
  rw [interleave_concat_of_getElem? found]
  split
  case isTrue here =>
    rw [here]
    exact List.getElem?_set_self (List.getElem?_eq_some_iff.mp found).1
  case isFalse elsewhere => exact List.getElem?_set_ne (Ne.symm elsewhere)

end

/-- A job that has come to its end stays there, at its position. -/
theorem getElem?_done_interleave {value : α} {position : Nat} (schedule : List Nat)
    {jobs : List (Job σ α)} (done : jobs[position]? = some (.done value)) (now : Running σ) :
    (interleave grain responder schedule jobs now).1[position]? = some (.done value) := by
  induction schedule generalizing jobs now with
  | nil => exact done
  | cons turn schedule ih =>
      rw [interleave]
      cases found : jobs[turn]? with
      | none => exact ih done now
      | some job =>
          refine ih ?_ _
          by_cases here : turn = position
          · subst here
            obtain rfl := Option.some.inj (found.symm.trans done)
            exact List.getElem?_set_self (List.getElem?_eq_some_iff.mp done).1
          · rw [List.getElem?_set_ne here, done]

/-- A job whose turn has not come is as it was. -/
theorem getElem?_interleave_of_not_mem {position : Nat} {schedule : List Nat}
    (waits : position ∉ schedule) (jobs : List (Job σ α)) (now : Running σ) :
    (interleave grain responder schedule jobs now).1[position]? = jobs[position]? := by
  induction schedule generalizing jobs now with
  | nil => rfl
  | cons turn schedule ih =>
      obtain ⟨other, rest⟩ := List.ne_and_not_mem_of_not_mem_cons waits
      rw [interleave]
      cases jobs[turn]? with
      | none => exact ih rest jobs now
      | some job =>
          rw [ih rest]
          exact List.getElem?_set_ne (Ne.symm other)

/-- What every step keeps of a pool and a state, a run keeps. -/
theorem interleave_invariant (holds : List (Job σ α) → σ → Prop)
    (step : ∀ jobs (now : Running σ) position job, holds jobs now.state →
      jobs[position]? = some job →
        holds (jobs.set position (job.resume grain responder now).1)
          (job.resume grain responder now).2.state)
    (schedule : List Nat) {jobs : List (Job σ α)} {now : Running σ}
    (start : holds jobs now.state) :
    holds (interleave grain responder schedule jobs now).1
      (interleave grain responder schedule jobs now).2.state := by
  induction schedule generalizing jobs now with
  | nil => exact start
  | cons position schedule ih =>
      rw [interleave]
      cases found : jobs[position]? with
      | none => exact ih start
      | some job => exact ih (step jobs now position job start found)

/-- The job at a position has come to its end in a phase, or awaits its next turn in it. -/
def Pends (grain : Grain) (pause : φ → φ → σ → σ → Prop) (after : φ → α → σ → σ → Prop) (phase : φ)
    (position : Nat) (jobs : List (Job σ α)) : Prop :=
  ∃ job, jobs[position]? = some job ∧
    ((∃ value origin state, job = .done value ∧ after phase value origin state) ∨
      job.Awaits grain pause phase after)

theorem Pends.of_done {phase : φ} {position : Nat} {jobs : List (Job σ α)} {value : α} (state : σ)
    (pends : Pends grain pause after phase position jobs)
    (ended : jobs[position]? = some (.done value)) :
    ∃ origin state, after phase value origin state := by
  obtain ⟨job, there, holds⟩ := pends
  obtain rfl := Option.some.inj (there.symm.trans ended)
  rcases holds with ⟨_, origin, state, same, ends⟩ | awaits
  · obtain rfl := Job.done.inj same
    exact ⟨origin, state, ends⟩
  · exact ⟨state, state, awaits state⟩

/-- With its turn a job that has come to its end does nothing, or it comes to its end, or it is
suspended in a later phase. -/
theorem Pends.turn {phase : φ} {position : Nat} {schedule : List Nat} {jobs : List (Job σ α)}
    {now : Running σ}
    (pends : Pends grain pause after phase position
      (interleave grain responder schedule jobs now).1) :
    let reached := interleave grain responder schedule jobs now
    let next := interleave grain responder (schedule ++ [position]) jobs now
    (∃ value, reached.1[position]? = some (.done value) ∧ next = reached) ∨
      (∀ value, reached.1[position]? ≠ some (.done value)) ∧
        ((∃ value, next.1[position]? = some (.done value) ∧
            after phase value reached.2.state next.2.state) ∨
          ∃ later, pause phase later reached.2.state next.2.state ∧
            Pends grain pause after later position next.1) := by
  intro reached next
  obtain ⟨job, there, holds⟩ := pends
  have place := getElem?_interleave_concat there position
  have turns := interleave_concat_of_getElem? there
  rw [if_pos rfl] at place
  by_cases ended : ∃ value, job = .done value
  case pos =>
    obtain ⟨value, rfl⟩ := ended
    refine .inl ⟨value, there, turns.trans ?_⟩
    have present := (List.getElem?_eq_some_iff.mp there).1
    rw [Job.resume, ← (List.getElem?_eq_some_iff.mp there).2, List.set_getElem_self]
  case neg =>
    refine .inr ⟨fun value same => ended ⟨value, Option.some.inj (there.symm.trans same)⟩, ?_⟩
    have awaits := holds.resolve_left fun ⟨value, _, _, same, _⟩ => ended ⟨value, same⟩
    have moves : next.2 = (job.resume grain responder reached.2).2 := congrArg Prod.snd turns
    rw [moves]
    rcases (awaits reached.2.state).resume grain responder reached.2 with
      ⟨value, same, ends⟩ | ⟨later, paused, goesOn⟩
    · exact .inl ⟨value, by rw [place, same], ends⟩
    · exact .inr ⟨later, paused, _, place, .inr goesOn⟩

/-- The turns of others leave a job as it is. -/
theorem Pends.of_not_mem {phase : φ} {position : Nat} {schedule : List Nat} {jobs : List (Job σ α)}
    (pends : Pends grain pause after phase position jobs) (waits : position ∉ schedule)
    (now : Running σ) :
    Pends grain pause after phase position (interleave grain responder schedule jobs now).1 := by
  obtain ⟨job, there, holds⟩ := pends
  exact ⟨job, (getElem?_interleave_of_not_mem grain responder waits jobs now).trans there, holds⟩

/-- Whatever turns are taken, a job pends in some phase, of which holds what no suspension changes.
-/
theorem Pends.interleave {lasting : φ → Prop}
    (lasts : ∀ phase later origin state, lasting phase → pause phase later origin state →
      lasting later)
    {phase : φ} {position : Nat} {jobs : List (Job σ α)} (holds : lasting phase)
    (pends : Pends grain pause after phase position jobs) (schedule : List Nat) (now : Running σ) :
    ∃ later, lasting later ∧ Pends grain pause after later position
      (interleave grain responder schedule jobs now).1 := by
  induction schedule using List.reverseRecOn with
  | nil => exact ⟨phase, holds, pends⟩
  | append_singleton schedule turn ih =>
      obtain ⟨phase, holds, pends⟩ := ih
      by_cases here : turn = position
      case neg =>
        refine ⟨phase, holds, ?_⟩
        rw [interleave_append]
        exact pends.of_not_mem grain responder (by simp [Ne.symm here]) _
      case pos =>
        subst here
        rcases pends.turn grain responder with
          ⟨_, -, same⟩ | ⟨-, ⟨value, there, ends⟩ | ⟨later, paused, pends⟩⟩
        · exact ⟨phase, holds, same ▸ pends⟩
        · exact ⟨phase, holds, _, there, .inl ⟨value, _, _, rfl, ends⟩⟩
        · exact ⟨later, lasts _ _ _ _ holds paused, pends⟩

theorem length_interleave (schedule : List Nat) (jobs : List (Job σ α)) (now : Running σ) :
    (interleave grain responder schedule jobs now).1.length = jobs.length := by
  induction schedule generalizing jobs now with
  | nil => rfl
  | cons turn schedule ih =>
      rw [interleave]
      cases jobs[turn]? with
      | none => exact ih jobs now
      | some job => rw [ih, List.length_set]

end

end SymbolCache.Job
