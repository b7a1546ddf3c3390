import Mathlib.Tactic.Common
import SymbolCache.Proofs.Job.Interleaving

/-!
# Jobs that are disturbed

A job runs to its end while others change the state at its calls. Between two calls it is alone, so
that what happens at every one of them tells the whole run. Runs of a pool of one job and of changes
of the state are of this kind, whatever the order.
-/

set_option autoImplicit false

namespace SymbolCache.Job

variable {σ α β : Type}

/-- What a disturbed run comes to, and how many disturbances there were. -/
structure Passage (σ α : Type) where
  value : α
  count : Nat
  now : Running σ

section

variable (responder : Responder) (disturb : Nat → σ → σ)

/-- Runs a job to its end while the state is changed at each of its calls. They are counted, from
`count` on, and `disturb` tells what happens at each. -/
def runAmid : Job σ α → Nat → Running σ → Passage σ α
  | .done value, count, now => { value, count, now }
  | .look next, count, now => (next now.state).runAmid count now
  | .put state next, count, now => next.runAmid count { now with state }
  | .call request next, count, now =>
    (next (responder now.calls request)).runAmid (count + 1)
      { state := disturb count now.state, calls := request :: now.calls }
  | .callTogether requests next, count, now =>
    let (answers, calls) := answerAll responder now.calls requests
    (next (inOrder answers)).runAmid (count + 1) { state := disturb count now.state, calls }
  | .pause next, count, now => next.runAmid count now

theorem runAmid_bind (job : Job σ α) (next : α → Job σ β) (count : Nat) (now : Running σ) :
    (job.bind next).runAmid responder disturb count now =
      (next (job.runAmid responder disturb count now).value).runAmid responder disturb
        (job.runAmid responder disturb count now).count
        (job.runAmid responder disturb count now).now := by
  induction job generalizing count now with
  | done value => rfl
  | look rest ih => exact ih now.state count now
  | put state rest ih => exact ih count { now with state }
  | call request rest ih => exact ih _ _ _
  | callTogether requests rest ih => exact ih _ _ _
  | pause rest ih => exact ih count now

/-- Nobody disturbs a job without calls. -/
theorem Silent.runAmid_eq {job : Job σ α} (silent : job.Silent) (count : Nat) (now : Running σ) :
    job.runAmid responder disturb count now =
      { value := (job.run responder now).1, count, now := (job.run responder now).2 } := by
  induction job generalizing now with
  | done value => rfl
  | look rest ih => exact ih _ (silent _) now
  | put state rest ih => exact ih silent { now with state }
  | call request rest ih => exact silent.elim
  | callTogether requests rest ih => exact silent.elim
  | pause rest ih => exact ih silent now

/-! ## Pools of one job and changes -/

/-- A job ends without a call, or is disturbed for the first time at its next one. -/
theorem resume_cases (job : Job σ α) (now : Running σ) :
    (∃ value, (job.resume .calls responder now).1 = .done value ∧ ∀ disturb count,
        job.runAmid responder disturb count now =
          { value, count, now := (job.resume .calls responder now).2 }) ∨
      ∀ disturb count, job.runAmid responder disturb count now =
        (job.resume .calls responder now).1.runAmid responder disturb (count + 1)
          { (job.resume .calls responder now).2 with
            state := disturb count (job.resume .calls responder now).2.state } := by
  induction job generalizing now with
  | done value => exact .inl ⟨value, rfl, fun _ _ => rfl⟩
  | look rest ih => exact ih now.state now
  | put state rest ih => exact ih { now with state }
  | call request rest ih => exact .inr fun _ _ => rfl
  | callTogether requests rest ih => exact .inr fun _ _ => rfl
  | pause rest ih => exact ih now

private theorem runAmid_congr {first second : Nat → σ → σ} (job : Job σ α) (count : Nat)
    (same : ∀ place, count ≤ place → first place = second place) (now : Running σ) :
    job.runAmid responder first count now = job.runAmid responder second count now := by
  induction job generalizing count now with
  | done value => rfl
  | look rest ih => exact ih now.state count same now
  | put state rest ih => exact ih count same { now with state }
  | call request rest ih =>
      simp only [runAmid, same count (Nat.le_refl count)]
      exact ih _ _ (fun place later => same place (Nat.le_of_succ_le later)) _
  | callTogether requests rest ih =>
      simp only [runAmid, same count (Nat.le_refl count)]
      exact ih _ _ (fun place later => same place (Nat.le_of_succ_le later)) _
  | pause rest ih => exact ih count same now

def changeAll (changes : List (σ → σ)) (state : σ) : σ :=
  changes.foldl (fun state change => change state) state

private theorem changeAll_append (first second : List (σ → σ)) (state : σ) :
    changeAll (first ++ second) state = changeAll second (changeAll first state) :=
  List.foldl_append

/-- A job may end in a state if changes of the allowed kind are made before it starts, at its
calls and after its end. -/
def EndsAmid (allowed : (σ → σ) → Prop) (job : Job σ α) (count : Nat) (now : Running σ)
    (ended : σ) : Prop :=
  ∃ (before : List (σ → σ)) (amid : Nat → List (σ → σ)) (after : List (σ → σ)),
    (∀ change ∈ before, allowed change) ∧ (∀ place, ∀ change ∈ amid place, allowed change) ∧
      (∀ change ∈ after, allowed change) ∧
        ended = changeAll after (job.runAmid responder (fun place => changeAll (amid place)) count
          { now with state := changeAll before now.state }).now.state

variable {responder} {allowed : (σ → σ) → Prop} {job : Job σ α} {count : Nat} {now : Running σ}
  {ended : σ}

private theorem endsAmid_done (value : α) :
    EndsAmid responder allowed (.done value) count now now.state :=
  ⟨[], fun _ => [], [], by simp, by simp, by simp, rfl⟩

theorem EndsAmid.change {change : σ → σ} (isAllowed : allowed change)
    (ends : EndsAmid responder allowed job count { now with state := change now.state } ended) :
    EndsAmid responder allowed job count now ended := by
  obtain ⟨before, amid, after, beforeAllowed, amidAllowed, afterAllowed, final⟩ := ends
  exact ⟨change :: before, amid, after, List.forall_mem_cons.mpr ⟨isAllowed, beforeAllowed⟩,
    amidAllowed, afterAllowed, final⟩

/-- What is changed before a job goes on is changed at the call at which it waits, or after
its end. -/
theorem EndsAmid.of_resume
    (ends : EndsAmid responder allowed (job.resume .calls responder now).1 (count + 1)
      (job.resume .calls responder now).2 ended) :
    EndsAmid responder allowed job count now ended := by
  obtain ⟨before, amid, after, beforeAllowed, amidAllowed, afterAllowed, rfl⟩ := ends
  rcases resume_cases responder job now with ⟨value, done, alone⟩ | suspends
  · refine ⟨[], amid, before ++ after, by simp, amidAllowed,
      List.forall_mem_append.mpr ⟨beforeAllowed, afterAllowed⟩, ?_⟩
    have finished := alone (fun place => changeAll (amid place)) count
    rw [done, changeAll_append]
    exact congrArg (fun passed => changeAll after (changeAll before passed.now.state))
      finished.symm
  · refine ⟨[], fun place => if place = count then before else amid place, after, by simp, ?_,
      afterAllowed, ?_⟩
    · intro place
      dsimp only
      split
      · exact beforeAllowed
      · exact amidAllowed place
    · have later : ∀ place, count + 1 ≤ place →
          changeAll (amid place) = changeAll (if place = count then before else amid place) := by
        intro place beyond
        rw [if_neg (Nat.ne_of_gt beyond)]
      have disturbed := suspends
        (fun place => changeAll (if place = count then before else amid place)) count
      rw [if_pos rfl, ← runAmid_congr responder _ _ later] at disturbed
      exact congrArg (fun passed => changeAll after passed.now.state) disturbed.symm

/-- A pool of one job and of changes of the state: once the job has ended, the changes were made
before it started, at its calls or after its end, in whatever order the pool was stepped. -/
theorem endsAmid_interleave (schedule : List Nat) {job : Job σ Unit} {others : List (Job σ Unit)}
    (changes : ∀ other ∈ others,
      other = .done () ∨ ∃ change, allowed change ∧ other = .modify change)
    (done : (interleave .calls responder schedule (job :: others) now).1[0]? = some (.done ())) :
    EndsAmid responder allowed job count now
      (interleave .calls responder schedule (job :: others) now).2.state := by
  induction schedule generalizing job others count now with
  | nil =>
      obtain rfl : job = .done () := Option.some.inj done
      exact endsAmid_done ()
  | cons position schedule ih =>
      cases position with
      | zero => exact (ih changes done).of_resume
      | succ position =>
          rw [interleave, List.getElem?_cons_succ] at done ⊢
          cases found : others[position]? with
          | none =>
              rw [found] at done
              exact ih changes done
          | some other =>
              rw [found] at done
              have member := List.mem_of_getElem? found
              have left : ∀ rest ∈ others.set position (.done ()),
                  rest = .done () ∨ ∃ change, allowed change ∧ rest = .modify change := by
                intro rest inside
                rcases List.mem_or_eq_of_mem_set inside with old | rfl
                · exact changes rest old
                · exact .inl rfl
              rcases changes other member with rfl | ⟨change, isAllowed, rfl⟩
              · exact ih left done
              · exact (ih left done).change isAllowed

end

/-! ## What holds along a disturbed run -/

section

variable (responder : Responder) (disturb : Nat → σ → σ)

/-- From every moment that satisfies a condition, a job runs to its end so that its value and the
moment of its end satisfy another one. -/
def Passes (before : Nat → Running σ → Prop) (job : Job σ α)
    (after : α → Nat → Running σ → Prop) : Prop :=
  ∀ count now, before count now →
    after (job.runAmid responder disturb count now).value
      (job.runAmid responder disturb count now).count (job.runAmid responder disturb count now).now

variable {responder disturb} {before : Nat → Running σ → Prop} {after : α → Nat → Running σ → Prop}
  {job : Job σ α}

theorem passes_bind {after' : β → Nat → Running σ → Prop} {next : α → Job σ β}
    (first : Passes responder disturb before job after)
    (later : ∀ value, Passes responder disturb (after value) (next value) after') :
    Passes responder disturb before (job.bind next) after' := by
  intro count now holds
  rw [runAmid_bind]
  exact later _ _ _ (first count now holds)

theorem passes_done {value : α} (holds : ∀ count now, before count now → after value count now) :
    Passes responder disturb before (.done value) after :=
  holds

theorem Passes.mono {before' : Nat → Running σ → Prop} {after' : α → Nat → Running σ → Prop}
    (passes : Passes responder disturb before job after)
    (stronger : ∀ count now, before' count now → before count now)
    (weaker : ∀ value count now, after value count now → after' value count now) :
    Passes responder disturb before' job after' :=
  fun count now holds => weaker _ _ _ (passes count now (stronger count now holds))

/-- What is known at the start and does not change may be used all along. -/
theorem passes_knowing {fact : Prop} {before' : Nat → Running σ → Prop}
    (known : ∀ count now, before count now → fact ∧ before' count now)
    (passes : fact → Passes responder disturb before' job after) :
    Passes responder disturb before job after :=
  fun count now holds => passes (known count now holds).1 count now (known count now holds).2

section

variable {invariant : Nat → σ → Prop} {change : σ → σ → Prop} {condition : α → Prop}
  (kept : ∀ count before after, change before after → invariant count before →
    invariant count after)
  (disturbed : ∀ count state, invariant count state →
    invariant (count + 1) (disturb count state))

include kept disturbed

theorem Obeys.runAmid {job : Job σ α} {count : Nat} {now : Running σ}
    (obeys : job.Obeys .calls (fun _ => True) change (fun value _ => condition value ∧ True)
      now.state)
    (holds : invariant count now.state) :
    condition (job.runAmid responder disturb count now).value ∧
      invariant (job.runAmid responder disturb count now).count
        (job.runAmid responder disturb count now).now.state := by
  induction job generalizing count now with
  | done value => exact ⟨obeys.1, holds⟩
  | look rest ih => exact ih now.state obeys holds
  | put state rest ih =>
      have changed := kept count now.state state obeys.1.1 holds
      exact @ih count { now with state } obeys.2 changed
  | call request rest ih => exact ih _ (obeys _ _ trivial) (disturbed _ _ holds)
  | callTogether requests rest ih => exact ih _ (obeys _ _ trivial) (disturbed _ _ holds)
  | pause rest ih => exact ih obeys holds

/-- A job that only makes changes of one kind keeps what such changes and the disturbances keep. -/
theorem Keeps.passes (keeps : job.Keeps .calls (fun _ => True) change condition) :
    Passes responder disturb (fun count now => invariant count now.state) job
      fun value count now => condition value ∧ invariant count now.state :=
  fun _ now holds => (keeps now.state trivial).runAmid kept disturbed holds

end

/-! ## Calls -/

private theorem suffix_answerAll (responder : Responder) (calls requests : List Request) :
    calls <:+ (answerAll responder calls requests).2 := by
  induction requests generalizing calls with
  | nil => exact List.suffix_rfl
  | cons request requests ih => exact (List.suffix_cons request calls).trans (ih _)

variable (responder disturb)

private theorem suffix_runAmid (job : Job σ α) (count : Nat) (now : Running σ) :
    now.calls <:+ (job.runAmid responder disturb count now).now.calls := by
  induction job generalizing count now with
  | done value => exact List.suffix_rfl
  | look rest ih => exact ih now.state count now
  | put state rest ih => exact ih count { now with state }
  | call request rest ih =>
      have later := ih (responder now.calls request) (count + 1)
        { state := disturb count now.state, calls := request :: now.calls }
      exact (List.suffix_cons request now.calls).trans later
  | callTogether requests rest ih =>
      have later := ih (inOrder (answerAll responder now.calls requests).1) (count + 1)
        { state := disturb count now.state, calls := (answerAll responder now.calls requests).2 }
      exact (suffix_answerAll responder now.calls requests).trans later
  | pause rest ih => exact ih count now

def Answered (calls : List Request) (request : Request) (answer : Answer) : Prop :=
  ∃ earlier, request :: earlier <:+ calls ∧ responder earlier request = answer

variable {responder disturb}

theorem Answered.mono {calls later : List Request} {request : Request} {answer : Answer}
    (answered : Answered responder calls request answer) (suffix : calls <:+ later) :
    Answered responder later request answer := by
  obtain ⟨earlier, made, same⟩ := answered
  exact ⟨earlier, made.trans suffix, same⟩

private theorem answered_answerAll {calls requests : List Request} {place : Nat} {answer : Answer}
    (found : (answerAll responder calls requests).1[place]? = some answer) :
    ∃ request, requests[place]? = some request ∧
      Answered responder (answerAll responder calls requests).2 request answer := by
  induction requests generalizing calls place with
  | nil => simp [answerAll] at found
  | cons request requests ih =>
      cases place with
      | zero =>
          refine ⟨request, rfl, calls, suffix_answerAll responder _ requests, ?_⟩
          exact Option.some.inj found
      | succ place => exact ih found

private theorem getElem?_of_mem_inOrder {answers : List Answer} {place : Nat} {answer : Answer}
    (member : (place, answer) ∈ inOrder answers) : answers[place]? = some answer := by
  obtain ⟨position, inside, same⟩ := List.mem_iff_getElem.mp member
  simp only [inOrder, List.getElem_zip, List.getElem_range, Prod.mk.injEq] at same
  obtain ⟨rfl, rfl⟩ := same
  exact List.getElem?_eq_getElem _

/-- Every answer stands at the position of a request to which it was given. -/
theorem passes_askWaves (width fuel position : Nat) (requests : List Request) :
    Passes responder disturb (fun _ _ => True) (askWaves width fuel position requests)
      fun answers _ now => ∀ place answer, (place, answer) ∈ answers →
        ∃ offset request, place = position + offset ∧ requests[offset]? = some request ∧
          Answered responder now.calls request answer := by
  induction fuel generalizing position requests with
  | zero => exact passes_done fun _ _ _ _ _ member => absurd member List.not_mem_nil
  | succ fuel ih =>
      cases requests with
      | nil => exact passes_done fun _ _ _ _ _ member => absurd member List.not_mem_nil
      | cons request requests =>
          intro count now _
          rw [askWaves]
          generalize wave : (request :: requests).take (width.max 1) = first
          generalize behind : (request :: requests).drop (width.max 1) = rest
          have split : first ++ rest = request :: requests := by
            rw [← wave, ← behind, List.take_append_drop]
          simp only [runAmid, runAmid_bind]
          intro place answer member
          have later := suffix_runAmid responder disturb
            (askWaves width fuel (position + first.length) rest) (count + 1)
            { state := disturb count now.state, calls := (answerAll responder now.calls first).2 }
          rw [← split]
          rcases List.mem_append.mp member with inWave | inRest
          · obtain ⟨⟨offset, _⟩, inside, same⟩ := List.mem_map.mp inWave
            cases same
            obtain ⟨asked, found, answered⟩ :=
              answered_answerAll (getElem?_of_mem_inOrder inside)
            refine ⟨offset, asked, rfl, ?_, answered.mono later⟩
            rw [List.getElem?_append_left (List.getElem?_eq_some_iff.mp found).1, found]
          · obtain ⟨offset, asked, rfl, found, answered⟩ :=
              ih _ _ (count + 1) _ trivial place answer inRest
            refine ⟨first.length + offset, asked, Nat.add_assoc _ _ _, ?_, answered⟩
            rw [List.getElem?_append_right (Nat.le_add_right _ _), Nat.add_sub_cancel_left, found]

/-- Every answer stands at the position of a request to which it was given. -/
theorem passes_askAll (width : Nat) (requests : List Request) :
    Passes responder disturb (fun _ _ => True) (askAll width requests)
      fun answers _ now => ∀ place answer, (place, answer) ∈ answers →
        ∃ request, requests[place]? = some request ∧
          Answered responder now.calls request answer := by
  refine (passes_askWaves width _ 0 requests).mono (fun _ _ holds => holds) ?_
  intro answers count now placed place answer member
  obtain ⟨offset, request, rfl, found, answered⟩ := placed place answer member
  rw [Nat.zero_add]
  exact ⟨request, found, answered⟩

end

end SymbolCache.Job
