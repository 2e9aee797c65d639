import AsioBenchmark.Posting.Batch

/-!
# The drain that is on its way

While `pending_tasks_` is not empty exactly one handler is about to be posted,
is posted or has begun without having swapped yet.  While it is empty there is
none.
-/

namespace AsioBenchmark.Posting

open AsioBenchmark.Transition

namespace Batch

variable {Task : Type} {execute : Task → UInt64 → UInt64}
  {postCount : UInt64} {tasks : List Task}
  {state next : BatchState Task} {thread : Thread}

/-- The producer is in `start()`. -/
def Submitting (state : BatchState Task) : Prop :=
  ∃ rest, state.producer = .starting rest ∨ state.producer = .posting rest

/-- What holds in every state of both threads. -/
structure Coherent (state : BatchState Task) : Prop where
  tokens : unswapped state + state.producer.unposted =
    if state.pendingTasks = [] then 0 else 1
  cleared : state.consumer = .swapping → state.tempTasks = []
  inBatch : ∀ index, state.consumer = .executing index →
    index ≤ state.tempTasks.length ∧ state.tempTasks ≠ []
  working : state.service.work = true ↔ Submitting state
  returned : state.consumer = .returned →
    state.service.work = false ∧ state.service.handlers = []
  joined : state.producer = .finished → state.consumer = .returned

theorem Coherent.starting (tasks : List Task) :
    Coherent (Batch.starting tasks) where
  tokens := rfl
  cleared impossible := by cases impossible
  inBatch _ impossible := by cases impossible
  working := ⟨fun _ => ⟨tasks, .inl rfl⟩, fun _ => rfl⟩
  returned impossible := by cases impossible
  joined impossible := by cases impossible

/-- `run()` does not return while the producer is in `start()`. -/
theorem Coherent.not_returned (coherent : Coherent state)
    (submitting : Submitting state) : state.consumer ≠ .returned := by
  intro returned
  have idle := (coherent.returned returned).1
  rw [coherent.working.mpr submitting] at idle
  cases idle

/-- A handler that is about to swap finds tasks. -/
theorem Coherent.swaps_tasks (coherent : Coherent state)
    (swaps : state.consumer = .swapping) : state.pendingTasks ≠ [] := by
  intro empty
  have tokens := coherent.tokens
  rw [if_pos empty, unswapped, swaps, Consumer.unswapped] at tokens
  omega

private theorem Coherent.push {task : Task} {rest : List Task}
    (coherent : Coherent state)
    (submits : state.producer = .starting (task :: rest)) :
    Coherent (push state task rest) := by
  have submitting : Submitting state := ⟨_, .inl submits⟩
  have tokens := coherent.tokens
  have nonempty : (Batch.push state task rest).pendingTasks ≠ [] := by
    simp [Batch.push]
  have submits' : Submitting (Batch.push state task rest) := by
    by_cases empty : state.pendingTasks = []
    · exact ⟨rest, .inr (by simp [Batch.push, empty])⟩
    · exact ⟨rest, .inl (by simp [Batch.push, empty])⟩
  constructor
  · rw [if_neg nonempty]
    rw [submits] at tokens
    by_cases empty : state.pendingTasks = []
    · rw [if_pos empty] at tokens
      have posts :
          (Batch.push state task rest).producer = .posting rest := by
        simp [Batch.push, empty]
      rw [posts]
      exact congrArg (· + 1) tokens
    · rw [if_neg empty] at tokens
      have quiet :
          (Batch.push state task rest).producer = .starting rest := by
        simp [Batch.push, empty]
      rw [quiet]
      exact tokens
  · exact coherent.cleared
  · exact coherent.inBatch
  · exact ⟨fun _ => submits', fun _ => coherent.working.mpr submitting⟩
  · exact coherent.returned
  · intro finished
    obtain ⟨other, impossible | impossible⟩ := submits' <;>
      · rw [finished] at impossible
        cases impossible

private theorem Coherent.post {rest : List Task} (coherent : Coherent state)
    (posts : state.producer = .posting rest) :
    Coherent { state with
      producer := .starting rest
      service := state.service.post .drain } := by
  have submitting : Submitting state := ⟨_, .inr posts⟩
  have tokens := coherent.tokens
  constructor
  · rw [posts] at tokens
    rw [← tokens]
    simp only [unswapped, Producer.unposted, IoService.post,
      List.length_append, List.length_singleton]
    omega
  · exact coherent.cleared
  · exact coherent.inBatch
  · exact ⟨fun _ => ⟨rest, .inl rfl⟩, fun _ => coherent.working.mpr submitting⟩
  · intro returned
    exact absurd returned (coherent.not_returned submitting)
  · intro impossible
    cases impossible

private theorem Coherent.resetWork (coherent : Coherent state)
    (submitted : state.producer = .starting []) :
    Coherent { state with
      producer := .joining
      service := state.service.resetWork } := by
  have tokens := coherent.tokens
  constructor
  · rw [submitted] at tokens
    exact tokens
  · exact coherent.cleared
  · exact coherent.inBatch
  · constructor
    · intro impossible
      cases impossible
    · rintro ⟨rest, impossible | impossible⟩ <;> cases impossible
  · intro returned
    exact absurd returned (coherent.not_returned ⟨_, .inl submitted⟩)
  · intro impossible
    cases impossible

private theorem Coherent.join (coherent : Coherent state)
    (joins : state.producer = .joining)
    (returned : state.consumer = .returned) :
    Coherent { state with producer := .finished } := by
  have tokens := coherent.tokens
  have idle := (coherent.returned returned).1
  constructor
  · rw [joins] at tokens
    exact tokens
  · exact coherent.cleared
  · exact coherent.inBatch
  · constructor
    · intro works
      rw [idle] at works
      cases works
    · rintro ⟨rest, impossible | impossible⟩ <;> cases impossible
  · exact coherent.returned
  · exact fun _ => returned

private theorem Coherent.runs_on (coherent : Coherent state)
    (running : state.consumer ≠ .returned)
    (producer : next.producer = state.producer)
    (work : next.service.work = state.service.work)
    (stays : next.consumer ≠ .returned)
    (tokens : unswapped next + next.producer.unposted =
      if next.pendingTasks = [] then 0 else 1)
    (cleared : next.consumer = .swapping → next.tempTasks = [])
    (inBatch : ∀ index, next.consumer = .executing index →
      index ≤ next.tempTasks.length ∧ next.tempTasks ≠ []) :
    Coherent next := by
  refine ⟨tokens, cleared, inBatch, ?_, ?_, ?_⟩
  · rw [work, Submitting, producer]
    exact coherent.working
  · intro returned
    exact absurd returned stays
  · intro finished
    rw [producer] at finished
    exact absurd (coherent.joined finished) running

theorem Coherent.step (coherent : Coherent state)
    (taken : Step execute state thread next) : Coherent next := by
  have tokens := coherent.tokens
  cases taken with
  | push submits => exact coherent.push submits
  | post posts => exact coherent.post posts
  | resetWork submitted => exact coherent.resetWork submitted
  | join joins returned => exact coherent.join joins returned
  | begin polls queue =>
      refine coherent.runs_on (by simp [polls]) rfl rfl (by simp) ?_ ?_ ?_
      · rw [← tokens]
        simp only [unswapped, polls, queue, Consumer.unswapped,
          List.length_cons]
      · intro impossible
        cases impossible
      · intro index impossible
        cases impossible
  | exit polls queue idle =>
      refine ⟨?_, ?_, ?_, coherent.working, fun _ => ⟨idle, queue⟩,
        fun _ => rfl⟩
      · rw [← tokens]
        simp only [unswapped, polls, Consumer.unswapped]
      · intro impossible
        cases impossible
      · intro index impossible
        cases impossible
  | clear clears =>
      refine coherent.runs_on (by simp [clears]) rfl rfl (by simp) ?_ ?_ ?_
      · rw [← tokens]
        simp only [unswapped, clears, Consumer.unswapped]
      · exact fun _ => rfl
      · intro index impossible
        cases impossible
  | swap swaps =>
      have tasksWait := coherent.swaps_tasks swaps
      refine coherent.runs_on (by simp [swaps]) rfl rfl (by simp) ?_ ?_ ?_
      · rw [if_neg tasksWait] at tokens
        rw [if_pos (coherent.cleared swaps)]
        simp only [unswapped, swaps, Consumer.unswapped] at tokens ⊢
        omega
      · intro impossible
        cases impossible
      · intro index here
        cases here
        exact ⟨Nat.zero_le _, tasksWait⟩
  | @execute index task executes current =>
      obtain ⟨inside, _⟩ := List.getElem?_eq_some_iff.mp current
      have batch := coherent.inBatch index executes
      refine coherent.runs_on (by simp [executes]) rfl rfl (by simp) ?_ ?_ ?_
      · rw [← tokens]
        simp only [unswapped, executes, Consumer.unswapped]
      · intro impossible
        cases impossible
      · intro other here
        cases here
        exact ⟨inside, batch.2⟩
  | @finish index executes ended =>
      refine coherent.runs_on (by simp [executes]) rfl rfl (by simp) ?_ ?_ ?_
      · rw [← tokens]
        simp only [unswapped, executes, Consumer.unswapped]
      · intro impossible
        cases impossible
      · intro other impossible
        cases impossible

theorem run_coherent {threads : List Thread}
    (run : ((program execute postCount).system tasks).Run
      (Batch.starting tasks) threads state) : Coherent state := by
  induction run with
  | refl => exact .starting tasks
  | snoc _ taken induction =>
      exact induction.step (step_eq_some_iff.mp taken)

/-! ## Both threads come to an end -/

/-- What the producer has left to do besides the tasks it submits. -/
def producerRest : Producer Task → Nat
  | .starting _ => 2
  | .posting _ => 8
  | .joining => 1
  | .finished => 0

/-- What the consumer has left to do besides the loop it is in. -/
def consumerRest : Consumer → Nat
  | .polling => 1
  | .clearing => 4
  | .swapping => 3
  | .executing _ => 2
  | .returned => 0

def remaining (state : BatchState Task) : Nat :=
  8 * state.producer.unsubmitted.length + producerRest state.producer +
    state.pendingTasks.length + 5 * state.service.handlers.length +
    (consumerRest state.consumer + (batch state).length)

theorem Step.remaining_lt (coherent : Coherent state)
    (taken : Step execute state thread next) :
    remaining next < remaining state := by
  cases taken with
  | @push task rest submits =>
      by_cases empty : state.pendingTasks = []
      · simp [remaining, Batch.push, empty, submits, Producer.unsubmitted,
          producerRest, batch]
        omega
      · simp [remaining, Batch.push, empty, submits, Producer.unsubmitted,
          producerRest, batch]
        omega
  | post posts =>
      simp [remaining, posts, Producer.unsubmitted, producerRest,
        IoService.post, batch]
      omega
  | resetWork submitted =>
      simp [remaining, submitted, Producer.unsubmitted, producerRest,
        IoService.resetWork, batch]
  | join joins returned =>
      simp [remaining, joins, Producer.unsubmitted, producerRest, batch]
  | begin polls queue =>
      simp [remaining, polls, queue, consumerRest, batch]
      omega
  | exit polls queue idle =>
      simp [remaining, polls, consumerRest, batch]
  | clear clears =>
      simp [remaining, clears, consumerRest, batch]
  | swap swaps =>
      simp [remaining, swaps, coherent.cleared swaps, consumerRest, batch]
      omega
  | execute executes current =>
      obtain ⟨inside, _⟩ := List.getElem?_eq_some_iff.mp current
      simp [remaining, executes, consumerRest, batch]
      omega
  | finish executes ended =>
      simp [remaining, executes, consumerRest, batch]
      omega

theorem terminates (execute : Task → UInt64 → UInt64) (postCount : UInt64)
    (tasks : List Task) :
    ((program execute postCount).system tasks).Terminates
      (Batch.starting tasks) := by
  refine System.terminates_of_rank
    (fun rank state => Coherent state ∧ remaining state = rank) ?_
    ⟨.starting tasks, rfl⟩
  rintro rank state thread next ⟨coherent, rfl⟩ taken
  have moved := step_eq_some_iff.mp taken
  exact ⟨remaining next, moved.remaining_lt coherent, coherent.step moved, rfl⟩

/-- While `wait()` has not returned some thread can move. -/
theorem Coherent.halted (coherent : Coherent state)
    (halted : ((program execute postCount).system tasks).Halted state) :
    state.producer = .finished := by
  have stuck : ∀ {thread next}, ¬Step execute state thread next := by
    intro thread next taken
    have moves := step_eq_some_iff.mpr taken
    have still : Batch.step execute state thread = none := halted thread
    rw [still] at moves
    cases moves
  cases producer : state.producer with
  | starting rest =>
      cases rest with
      | nil => exact absurd (.resetWork producer) stuck
      | cons task rest => exact absurd (.push producer) stuck
  | posting rest => exact absurd (.post producer) stuck
  | joining =>
      cases consumer : state.consumer with
      | polling =>
          cases queue : state.service.handlers with
          | cons handler rest => exact absurd (.begin consumer queue) stuck
          | nil =>
              have idle : state.service.work = false := by
                by_contra works
                obtain ⟨rest, submits | submits⟩ :=
                  coherent.working.mp (by simpa using works) <;>
                  · rw [producer] at submits
                    cases submits
              exact absurd (.exit consumer queue idle) stuck
      | clearing => exact absurd (.clear consumer) stuck
      | swapping => exact absurd (.swap consumer) stuck
      | executing index =>
          cases current : state.tempTasks[index]? with
          | some task => exact absurd (.execute consumer current) stuck
          | none => exact absurd (.finish consumer current) stuck
      | returned => exact absurd (.join producer consumer) stuck
  | finished => rfl

end Batch

end AsioBenchmark.Posting
