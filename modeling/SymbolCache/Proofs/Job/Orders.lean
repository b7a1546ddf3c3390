import Mathlib.Logic.Relation
import SymbolCache.Proofs.Job.Inquiry

/-!
# Orders in which calls end

Calls that are made together may end in any order. A pool of calls has some of them under way and
starts the next one as soon as there is room; whatever its width is, it is given the answers that
the calls have when they are made one after the other, in some order.
-/

set_option autoImplicit false

namespace SymbolCache

namespace Job

variable {σ α β γ δ : Type}

/-! ## Pools of calls -/

/-- Calls that wait, those that are under way with the answers they are going to have, and those
that have ended, in the order in which they did. Each stands with the position of its request. -/
structure CallPool where
  waiting : List (Nat × Request)
  underWay : List (Nat × Answer)
  ended : List (Nat × Answer)
  /-- The requests made so far, the latest first. -/
  calls : List Request

namespace CallPool

def begin (requests calls : List Request) : CallPool where
  waiting := (List.range requests.length).zip requests
  underWay := []
  ended := []
  calls

structure Finished (pool : CallPool) : Prop where
  waiting : pool.waiting = []
  underWay : pool.underWay = []

/-- A call is started if fewer than `width` are under way, but always if none is. Any call that is
under way may end. -/
inductive Step (responder : Responder) (width : Nat) : CallPool → CallPool → Prop where
  | start {position : Nat} {request : Request} {waiting : List (Nat × Request)}
      {underWay ended : List (Nat × Answer)} {calls : List Request}
      (room : underWay.length < width.max 1) :
      Step responder width ⟨(position, request) :: waiting, underWay, ended, calls⟩
        ⟨waiting, underWay ++ [(position, responder calls request)], ended, request :: calls⟩
  | finish {waiting : List (Nat × Request)} {before after ended : List (Nat × Answer)}
      {answer : Nat × Answer} {calls : List Request} :
      Step responder width ⟨waiting, before ++ answer :: after, ended, calls⟩
        ⟨waiting, before ++ after, ended ++ [answer], calls⟩

abbrev Runs (responder : Responder) (width : Nat) : CallPool → CallPool → Prop :=
  Relation.ReflTransGen (Step responder width)

variable {responder : Responder} {width : Nat} {pool next : CallPool}

def answers (responder : Responder) (pool : CallPool) : List (Nat × Answer) :=
  pool.ended ++ pool.underWay ++ (pool.waiting.map Prod.fst).zip
    (answerAll responder pool.calls (pool.waiting.map Prod.snd)).1

def callsAfter (responder : Responder) (pool : CallPool) : List Request :=
  (answerAll responder pool.calls (pool.waiting.map Prod.snd)).2

/-- No step changes the answers, but for their order. -/
theorem Step.answers (step : Step responder width pool next) :
    (next.answers responder).Perm (pool.answers responder) := by
  cases step with
  | start room => simp [CallPool.answers, answerAll]
  | finish =>
      refine List.Perm.append_right _ ?_
      rw [List.append_assoc, List.singleton_append]
      exact List.Perm.append_left _ List.perm_middle.symm

theorem Step.callsAfter (step : Step responder width pool next) :
    next.callsAfter responder = pool.callsAfter responder := by
  cases step with
  | start room => rfl
  | finish => rfl

private theorem Step.length_underWay (step : Step responder width pool next)
    (narrow : pool.underWay.length ≤ width.max 1) : next.underWay.length ≤ width.max 1 := by
  cases step with
  | start room => simpa [Nat.succ_le_iff] using room
  | finish =>
      simp only [List.length_append, List.length_cons] at narrow ⊢
      omega

theorem Runs.answers (runs : Runs responder width pool next) :
    (next.answers responder).Perm (pool.answers responder) ∧
      next.callsAfter responder = pool.callsAfter responder := by
  induction runs with
  | refl => exact ⟨.refl _, rfl⟩
  | tail _ step ih => exact ⟨step.answers.trans ih.1, step.callsAfter.trans ih.2⟩

/-- No more than `width` calls are under way at once, or one if `width` is zero. -/
theorem Runs.length_underWay {requests calls : List Request}
    (runs : Runs responder width (begin requests calls) pool) :
    pool.underWay.length ≤ width.max 1 := by
  induction runs with
  | refl => exact Nat.zero_le _
  | tail _ step ih => exact step.length_underWay ih

private theorem answers_begin (responder : Responder) (requests calls : List Request) :
    (begin requests calls).answers responder =
        inOrder (answerAll responder calls requests).1 ∧
      (begin requests calls).callsAfter responder = (answerAll responder calls requests).2 := by
  have positions : ((List.range requests.length).zip requests).map Prod.fst =
      List.range requests.length := List.map_fst_zip (by simp)
  have placed : ((List.range requests.length).zip requests).map Prod.snd = requests :=
    List.map_snd_zip (by simp)
  rw [CallPool.answers, CallPool.callsAfter, begin, positions, placed, inOrder, length_answerAll]
  exact ⟨rfl, rfl⟩

/-- However wide a pool is and in whichever order its calls end, it has in the end given every
answer that the requests have when they are made one after the other. -/
theorem Runs.perm_inOrder {requests calls : List Request}
    (runs : Runs responder width (begin requests calls) pool) (finished : pool.Finished) :
    pool.ended.Perm (inOrder (answerAll responder calls requests).1) ∧
      pool.calls = (answerAll responder calls requests).2 := by
  obtain ⟨given, made⟩ := runs.answers
  obtain ⟨all, asked⟩ := answers_begin responder requests calls
  rw [all, CallPool.answers, finished.waiting, finished.underWay] at given
  rw [asked, CallPool.callsAfter, finished.waiting] at made
  exact ⟨by simpa using given, made⟩

/-- A pool that has not finished can go on, also one of no width. -/
theorem exists_step (responder : Responder) (width : Nat) (unfinished : ¬ pool.Finished) :
    ∃ next, Step responder width pool next := by
  obtain ⟨waiting, underWay, ended, calls⟩ := pool
  cases underWay with
  | cons answer underWay =>
      have finish : Step responder width ⟨waiting, [] ++ answer :: underWay, ended, calls⟩ _ :=
        .finish
      exact ⟨_, finish⟩
  | nil =>
      cases waiting with
      | nil => exact absurd ⟨rfl, rfl⟩ unfinished
      | cons first waiting =>
          exact ⟨_, .start (Nat.lt_of_lt_of_le Nat.zero_lt_one (Nat.le_max_right width 1))⟩

def remaining (pool : CallPool) : Nat :=
  2 * pool.waiting.length + pool.underWay.length

theorem Step.remaining (step : Step responder width pool next) :
    next.remaining + 1 = pool.remaining := by
  cases step with
  | start room =>
      simp only [CallPool.remaining, List.length_cons, List.length_append, List.length_nil]
      omega
  | finish =>
      simp only [CallPool.remaining, List.length_cons, List.length_append]
      omega

/-- However its calls end, a pool finishes. -/
theorem exists_finished (responder : Responder) (width : Nat) (pool : CallPool) :
    ∃ last, Runs responder width pool last ∧ last.Finished := by
  by_cases finished : pool.Finished
  · exact ⟨pool, .refl, finished⟩
  · obtain ⟨next, step⟩ := exists_step responder width finished
    have fewer := step.remaining
    obtain ⟨last, runs, ends⟩ := exists_finished responder width next
    exact ⟨last, .head step runs, ends⟩
termination_by pool.remaining

end CallPool

/-! ## Runs in any order -/

/-- What a job may come to if the calls that it makes together end in any order. -/
inductive MayEnd (responder : Responder) :
    Job σ α → Running σ → α → Running σ → Prop where
  | done {value : α} {now : Running σ} : MayEnd responder (.done value) now value now
  | look {next : σ → Job σ α} {now ended : Running σ} {value : α}
      (rest : MayEnd responder (next now.state) now value ended) :
      MayEnd responder (.look next) now value ended
  | put {state : σ} {next : Job σ α} {now ended : Running σ} {value : α}
      (rest : MayEnd responder next { now with state } value ended) :
      MayEnd responder (.put state next) now value ended
  | call {request : Request} {next : Answer → Job σ α} {now ended : Running σ} {value : α}
      (rest : MayEnd responder (next (responder now.calls request))
        { now with calls := request :: now.calls } value ended) :
      MayEnd responder (.call request next) now value ended
  | callTogether {requests : List Request} {next : List (Nat × Answer) → Job σ α}
      {now ended : Running σ} {value : α} {answers : List (Nat × Answer)}
      (order : answers.Perm (inOrder (answerAll responder now.calls requests).1))
      (rest : MayEnd responder (next answers)
        { now with calls := (answerAll responder now.calls requests).2 } value ended) :
      MayEnd responder (.callTogether requests next) now value ended
  | pause {next : Job σ α} {now ended : Running σ} {value : α}
      (rest : MayEnd responder next now value ended) :
      MayEnd responder (.pause next) now value ended

section

variable {responder : Responder} {now ended : Running σ} {value : α}

/-- One of the orders is that of the requests. -/
theorem mayEnd_run (responder : Responder) (job : Job σ α) (now : Running σ) :
    MayEnd responder job now (job.run responder now).1 (job.run responder now).2 := by
  induction job generalizing now with
  | done value => exact .done
  | look rest ih => exact .look (ih _ _)
  | put state rest ih => exact .put (ih _)
  | call request rest ih => exact .call (ih _ _)
  | callTogether requests rest ih => exact .callTogether (.refl _) (ih _ _)
  | pause rest ih => exact .pause (ih _)

theorem MayEnd.of_bind {job : Job σ α} {next : α → Job σ β} {value : β}
    (ends : MayEnd responder (job.bind next) now value ended) :
    ∃ first between, MayEnd responder job now first between ∧
      MayEnd responder (next first) between value ended := by
  induction job generalizing now with
  | done first => exact ⟨first, now, .done, ends⟩
  | look rest ih =>
      cases ends with
      | look ends =>
          obtain ⟨first, between, begins, later⟩ := ih _ ends
          exact ⟨first, between, .look begins, later⟩
  | put state rest ih =>
      cases ends with
      | put ends =>
          obtain ⟨first, between, begins, later⟩ := ih ends
          exact ⟨first, between, .put begins, later⟩
  | call request rest ih =>
      cases ends with
      | call ends =>
          obtain ⟨first, between, begins, later⟩ := ih _ ends
          exact ⟨first, between, .call begins, later⟩
  | callTogether requests rest ih =>
      cases ends with
      | callTogether order ends =>
          obtain ⟨first, between, begins, later⟩ := ih _ ends
          exact ⟨first, between, .callTogether order begins, later⟩
  | pause rest ih =>
      cases ends with
      | pause ends =>
          obtain ⟨first, between, begins, later⟩ := ih ends
          exact ⟨first, between, .pause begins, later⟩

theorem MayEnd.bind {job : Job σ α} {next : α → Job σ β} {first : α} {value : β}
    {between : Running σ} (begins : MayEnd responder job now first between)
    (rest : MayEnd responder (next first) between value ended) :
    MayEnd responder (job.bind next) now value ended := by
  induction begins with
  | done => exact rest
  | look _ ih => exact .look (ih rest)
  | put _ ih => exact .put (ih rest)
  | call _ ih => exact .call (ih rest)
  | callTogether order _ ih => exact .callTogether order (ih rest)
  | pause _ ih => exact .pause (ih rest)

/-- In waves of any width, and in any order within each of them, every request is answered as if
they were made one after the other. -/
theorem perm_of_askWaves {width fuel position : Nat} {requests : List Request}
    (enough : requests.length ≤ fuel) {answers : List (Nat × Answer)}
    (ends : MayEnd responder (askWaves width fuel position requests) now answers ended) :
    answers.Perm ((inOrder (answerAll responder now.calls requests).1).map
        fun (place, reply) => (position + place, reply)) ∧
      ended = { now with calls := (answerAll responder now.calls requests).2 } := by
  induction fuel generalizing position requests now answers ended with
  | zero =>
      obtain rfl : requests = [] := List.length_eq_zero_iff.mp (Nat.le_zero.mp enough)
      cases ends
      exact ⟨.refl _, rfl⟩
  | succ fuel ih =>
      cases requests with
      | nil =>
          cases ends
          exact ⟨.refl _, rfl⟩
      | cons request requests =>
          have shorter : ((request :: requests).drop (width.max 1)).length ≤ fuel :=
            length_drop_wave_le width enough
          rw [askWaves] at ends
          generalize wave : (request :: requests).take (width.max 1) = first at ends
          generalize behind : (request :: requests).drop (width.max 1) = rest at shorter ends
          have split : request :: requests = first ++ rest := by
            rw [← wave, ← behind, List.take_append_drop]
          cases ends with
          | callTogether order ends =>
              obtain ⟨later, between, waits, ends⟩ := ends.of_bind
              obtain ⟨order', made⟩ := ih shorter waits
              cases ends
              subst made
              rw [split, answerAll_append, inOrder_append, List.map_append]
              refine ⟨(order.map _).append (order'.trans (.of_eq ?_)), rfl⟩
              rw [List.map_map, length_answerAll]
              refine List.map_congr_left fun entry _ => ?_
              simp [Nat.add_assoc]

theorem perm_of_askAll {width : Nat} {requests : List Request} {answers : List (Nat × Answer)}
    (ends : MayEnd responder (askAll width requests) now answers ended) :
    answers.Perm (inOrder (answerAll responder now.calls requests).1) ∧
      ended = { now with calls := (answerAll responder now.calls requests).2 } := by
  simpa using perm_of_askWaves (Nat.le_refl _) ends

private theorem askWaves_nil (width fuel position : Nat) :
    (askWaves width fuel position [] : Job σ _) = .done [] := by
  cases fuel <;> rfl

/-- Answers that come in one wave may come in any order. -/
theorem mayEnd_askAll {width : Nat} {requests : List Request} {answers : List (Nat × Answer)}
    (wide : requests.length ≤ width)
    (order : answers.Perm (inOrder (answerAll responder now.calls requests).1)) :
    MayEnd responder (askAll width requests) now answers
      { now with calls := (answerAll responder now.calls requests).2 } := by
  cases requests with
  | nil =>
      obtain rfl : answers = [] := order.eq_nil
      exact .done
  | cons request requests =>
      have all : (request :: requests).length ≤ width.max 1 :=
        Nat.le_trans wide (Nat.le_max_left width 1)
      rw [askAll, List.length_cons, askWaves, List.take_of_length_le all,
        List.drop_of_length_le all, askWaves_nil]
      refine .callTogether order ?_
      have same : answers.map (fun (place, reply) => (0 + place, reply)) ++ [] = answers := by
        simp
      rw [Job.bind, same]
      exact .done

/-- Whatever a pool of any width gives is what the answers to one wave may be. -/
theorem CallPool.Runs.mayEnd_askAll {width : Nat} {requests : List Request} {pool : CallPool}
    (runs : CallPool.Runs responder width (.begin requests now.calls) pool)
    (finished : pool.Finished) :
    MayEnd responder (askAll requests.length requests) now pool.ended
      { now with calls := pool.calls } := by
  obtain ⟨order, made⟩ := runs.perm_inOrder finished
  rw [made]
  exact Job.mayEnd_askAll (Nat.le_refl _) order

end

/-! ## Jobs that come to the same in any order -/

/-- Seen through a view of the state, a job whose calls end in any order comes to what another one
comes to whose calls end in the order of their requests. -/
def Mirrors (view : σ → σ) (same : α → β → Prop) (job : Job σ α) (other : Job σ β) : Prop :=
  ∀ (responder : Responder) (now ended : Running σ) (value : α),
    MayEnd responder job { now with state := view now.state } value ended →
      same value (other.run responder now).1 ∧
        ended = { (other.run responder now).2 with
          state := view (other.run responder now).2.state }

section

variable {view : σ → σ} {same : α → β → Prop} {alike : γ → δ → Prop}

theorem mirrors_done {value : α} {other : β} (holds : same value other) :
    Mirrors view same (.done value) (.done other) := by
  intro responder now ended _ ends
  cases ends
  exact ⟨holds, rfl⟩

theorem mirrors_look {next : σ → Job σ α} {other : σ → Job σ β}
    (mirrors : ∀ state, Mirrors view same (next (view state)) (other state)) :
    Mirrors view same (.look next) (.look other) := by
  intro responder now ended value ends
  cases ends with
  | look ends => exact mirrors _ responder now ended value ends

private theorem mirrors_put {state : σ} {next : Job σ α} {other : Job σ β}
    (mirrors : Mirrors view same next other) :
    Mirrors view same (.put (view state) next) (.put state other) := by
  intro responder now ended value ends
  cases ends with
  | put ends => exact mirrors responder { now with state } ended value ends

theorem mirrors_ask (request : Request) :
    Mirrors view Eq (.ask request) (.ask request) := by
  intro responder now ended value ends
  cases ends with
  | call ends =>
      cases ends
      exact ⟨rfl, rfl⟩

theorem mirrors_bind {job : Job σ α} {other : Job σ β} {next : α → Job σ γ} {rest : β → Job σ δ}
    (first : Mirrors view same job other)
    (later : ∀ value result, same value result → Mirrors view alike (next value) (rest result)) :
    Mirrors view alike (job.bind next) (other.bind rest) := by
  intro responder now ended value ends
  obtain ⟨begun, between, begins, ends⟩ := ends.of_bind
  obtain ⟨matched, rfl⟩ := first responder now between begun begins
  rw [run_bind]
  exact later _ _ matched responder _ ended value ends

/-- Goes on alike with equal values. -/
theorem mirrors_bind_eq {job other : Job σ α} {next : α → Job σ γ} {rest : α → Job σ δ}
    (first : Mirrors view Eq job other)
    (later : ∀ value, Mirrors view alike (next value) (rest value)) :
    Mirrors view alike (job.bind next) (other.bind rest) :=
  mirrors_bind first fun value _ equal => equal ▸ later value

theorem mirrors_update {change : σ → α × σ}
    (commutes : ∀ state, change (view state) = ((change state).1, view (change state).2)) :
    Mirrors view Eq (.update change) (.update change) := by
  refine mirrors_look fun state => ?_
  rw [commutes]
  exact mirrors_put (mirrors_done rfl)

theorem mirrors_modify {change : σ → σ}
    (commutes : ∀ state, change (view state) = view (change state)) :
    Mirrors view Eq (.modify change) (.modify change) := by
  refine mirrors_look fun state => ?_
  rw [commutes]
  exact mirrors_put (mirrors_done rfl)

private theorem mirrors_pause {job : Job σ α} {other : Job σ β}
    (mirrors : Mirrors view same job other) :
    Mirrors view same (.pause job) (.pause other) := by
  intro responder now ended value ends
  cases ends with
  | pause ends => exact mirrors responder now ended value ends

theorem mirrors_await {step : σ → α × σ}
    (commutes : ∀ state, step (view state) = ((step state).1, view (step state).2)) :
    Mirrors view Eq (.await step) (.await step) := by
  rw [await_eq]
  exact mirrors_pause <| mirrors_bind_eq (mirrors_update commutes) fun _ =>
    mirrors_pause (mirrors_done rfl)

theorem mirrors_mono {weaker : α → β → Prop} {job : Job σ α} {other : Job σ β}
    (mirrors : Mirrors view same job other)
    (weaken : ∀ value result, same value result → weaker value result) :
    Mirrors view weaker job other :=
  fun responder now ended value ends =>
    (mirrors responder now ended value ends).imp_left (weaken _ _)

end

end Job

end SymbolCache
