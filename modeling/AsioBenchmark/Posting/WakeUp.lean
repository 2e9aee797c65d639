import AsioBenchmark.Posting.Delivery

/-!
# No wake-up is lost

What the count of drains on their way means for `posttask4` and `posttask5`:
no drain swaps in an empty batch, nothing is left when `wait()` returns, and
the last drain, and no other, assigns `stop_time_`.
-/

namespace AsioBenchmark.Posting

open AsioBenchmark.Transition

variable {Task : Type}

/-- `posttask4` and `posttask5` with `post_count_` tasks. -/
structure NoLostWakeUp (program : Program Task (BatchState Task))
    (tasks : List Task) (postCount : UInt64) : Prop where
  tokens : ∀ threads state,
    (program.system tasks).Run (program.starting tasks) threads state →
    Batch.unswapped state + state.producer.unposted =
      if state.pendingTasks = [] then 0 else 1
  batches : ∀ threads state events,
    ((program.system tasks).recording program.observe).Run
      (program.starting tasks, []) threads (state, events) →
    ∀ batch, Event.swapped batch ∈ events → batch ≠ []
  terminates : (program.system tasks).Terminates (program.starting tasks)
  returns : ∀ threads state,
    (program.system tasks).Run (program.starting tasks) threads state →
    (program.system tasks).Halted state → state.producer = .finished
  complete : ∀ threads state events,
    ((program.system tasks).recording program.observe).Run
      (program.starting tasks, []) threads (state, events) →
    state.producer = .finished →
    state.pendingTasks = [] ∧ executed events = tasks ∧
      state.count = postCount
  stopsOnce : ∀ threads state events,
    ((program.system tasks).recording program.observe).Run
      (program.starting tasks, []) threads (state, events) →
    state.producer = .finished → postCount ≠ 0 →
    ∃ before, events = before ++ [.stopped] ∧ .stopped ∉ before
  neverStops : ∀ threads state events,
    ((program.system tasks).recording program.observe).Run
      (program.starting tasks, []) threads (state, events) →
    postCount = 0 → .stopped ∉ events

namespace Batch

variable {execute : Task → UInt64 → UInt64} {postCount : UInt64}
  {task : Task} {state next : BatchState Task} {thread : Thread}
  {events : List (Event Task)}

/-- Where the run stands with the assignment of `stop_time_`: a drain makes it
when its loop has executed the last task. -/
inductive Stopping (total : Nat) :
    Consumer → List (Event Task) → Prop where
  | idle {consumer : Consumer} {events : List (Event Task)}
      (outside : ∀ index, consumer ≠ .executing index)
      (never : .stopped ∉ events)
      (rest : (executed events).length < total ∨ total = 0) :
      Stopping total consumer events
  | inBatch {index : Nat} {events : List (Event Task)}
      (never : .stopped ∉ events) (positive : total ≠ 0) :
      Stopping total (.executing index) events
  | stopped {consumer : Consumer} {before : List (Event Task)}
      (ended : consumer = .polling ∨ consumer = .returned)
      (never : .stopped ∉ before)
      (all : (executed before).length = total) (positive : total ≠ 0) :
      Stopping total consumer (before ++ [.stopped])

/-- At the end the assignment was made, and nothing has happened since. -/
theorem Stopping.at_end {total : Nat} {consumer : Consumer}
    (stopping : Stopping total consumer events)
    (returned : consumer = .returned)
    (all : (executed events).length = total) (positive : total ≠ 0) :
    ∃ before, events = before ++ [.stopped] ∧ .stopped ∉ before := by
  cases stopping with
  | idle outside never rest => omega
  | inBatch never some => cases returned
  | stopped ended never whole some => exact ⟨_, rfl, never⟩

theorem Stopping.not_stopped {consumer : Consumer}
    (stopping : Stopping 0 consumer events) : .stopped ∉ events := by
  cases stopping with
  | idle outside never rest => exact never
  | inBatch never positive => exact never
  | stopped ended never all positive => exact absurd rfl positive

/-- The facts about one state that the step lemma uses. -/
structure Counted (postCount : UInt64) (state : BatchState Task)
    (events : List (Event Task)) : Prop where
  coherent : Coherent state
  order : (executed events).length + (batch state).length +
    state.pendingTasks.length ≤ postCount.toNat
  count : state.count = UInt64.ofNat (executed events).length

theorem Counted.stops_iff (counted : Counted postCount state events) :
    state.count = postCount ↔
      (executed events).length = postCount.toNat := by
  have bound := counted.order
  have small : postCount.toNat < UInt64.size := postCount.toNat_lt_size
  rw [counted.count]
  constructor
  · intro same
    have value := congrArg UInt64.toNat same
    rw [UInt64.toNat_ofNat_of_lt' (by omega)] at value
    exact value
  · intro same
    rw [same, UInt64.ofNat_toNat]

/-- No handler is left when all tasks are executed. -/
theorem Counted.nothing_posted (counted : Counted postCount state events)
    (all : (executed events).length = postCount.toNat) :
    state.service.handlers = [] := by
  have order := counted.order
  have tokens := counted.coherent.tokens
  have empty : state.pendingTasks = [] :=
    List.length_eq_zero_iff.mp (by omega)
  rw [if_pos empty, unswapped] at tokens
  exact List.length_eq_zero_iff.mp (by omega)

theorem Stopping.step (counted : Counted postCount state events)
    (stopping : Stopping postCount.toNat state.consumer events)
    (taken : Step execute state thread next) :
    Stopping postCount.toNat next.consumer
      (events ++ observe postCount state thread next) := by
  cases taken with
  | push submits =>
      rw [observe, List.append_nil]
      exact stopping
  | post posts =>
      rw [observe, List.append_nil]
      exact stopping
  | resetWork submitted =>
      rw [observe, List.append_nil]
      exact stopping
  | join joins returned =>
      rw [observe, List.append_nil]
      exact stopping
  | begin polls queue =>
      simp only [observe, polls, List.append_nil]
      rw [polls] at stopping
      cases stopping with
      | idle outside never rest => exact .idle (by simp) never rest
      | @stopped _ before ended never all positive =>
          have whole : (executed (before ++ [.stopped])).length =
              postCount.toNat := by
            rw [executed_append, List.length_append, all]
            rfl
          rw [counted.nothing_posted whole] at queue
          cases queue
  | exit polls queue idle =>
      simp only [observe, polls, List.append_nil]
      rw [polls] at stopping
      cases stopping with
      | idle outside never rest => exact .idle (by simp) never rest
      | stopped ended never all positive =>
          exact .stopped (.inr rfl) never all positive
  | clear clears =>
      simp only [observe, clears, List.append_nil]
      rw [clears] at stopping
      cases stopping with
      | idle outside never rest => exact .idle (by simp) never rest
      | stopped ended never all positive =>
          rcases ended with impossible | impossible <;> cases impossible
  | swap swaps =>
      simp only [observe, swaps]
      have waiting := counted.coherent.swaps_tasks swaps
      have some := List.length_pos_iff.mpr waiting
      have order := counted.order
      rw [swaps] at stopping
      cases stopping with
      | idle outside never rest =>
          refine .inBatch ?_ (by omega)
          simp [never]
      | stopped ended never all positive =>
          rcases ended with impossible | impossible <;> cases impossible
  | execute executes current =>
      simp only [observe, executes, current]
      rw [executes] at stopping
      cases stopping with
      | idle outside never rest => exact absurd rfl (outside _)
      | inBatch never positive =>
          refine .inBatch ?_ positive
          simp [never]
      | stopped ended never all positive =>
          rcases ended with impossible | impossible <;> cases impossible
  | finish executes ended =>
      simp only [observe, executes, ended]
      rw [executes] at stopping
      cases stopping with
      | idle outside never rest => exact absurd rfl (outside _)
      | inBatch never positive =>
          by_cases last : state.count = postCount
          · rw [if_pos last]
            exact .stopped (.inl rfl) never (counted.stops_iff.mp last)
              positive
          · rw [if_neg last, List.append_nil]
            have some := mt counted.stops_iff.mpr last
            have order := counted.order
            refine .idle (by simp) never (.inl ?_)
            omega
      | stopped ended never all positive =>
          rcases ended with impossible | impossible <;> cases impossible

/-- A drain finds tasks to swap in. -/
theorem Step.swapped_ne_nil (coherent : Coherent state)
    (taken : Step execute state thread next) {batch : List Task}
    (seen : .swapped batch ∈ observe postCount state thread next) :
    batch ≠ [] := by
  cases taken with
  | push submits => cases seen
  | post posts => cases seen
  | resetWork submitted => cases seen
  | join joins returned => cases seen
  | begin polls queue => simp [observe, polls] at seen
  | exit polls queue idle => simp [observe, polls] at seen
  | clear clears => simp [observe, clears] at seen
  | swap swaps =>
      simp only [observe, swaps, List.mem_singleton,
        Event.swapped.injEq] at seen
      rw [seen]
      exact coherent.swaps_tasks swaps
  | execute executes current => simp [observe, executes, current] at seen
  | finish executes ended =>
      simp only [observe, executes, ended] at seen
      split at seen <;> simp at seen

/-! ## Every run -/

section Runs

variable {threads : List Thread}
  {recorded : BatchState Task × List (Event Task)}

theorem run_counted (increments : ∀ count, execute task count = count + 1)
    (run : (((program execute postCount).system
      (List.replicate postCount.toNat task)).recording
        (observe postCount)).Run
      (Batch.starting (List.replicate postCount.toNat task), []) threads
      recorded) : Counted postCount recorded.1 recorded.2 := by
  obtain ⟨order, count⟩ := run_order run
  have lengths := congrArg List.length order
  simp only [List.length_append, List.length_replicate] at lengths
  have increment : ∀ other ∈ executed recorded.2,
      ∀ count, execute other count = count + 1 := by
    intro other member counter
    have submitted : other ∈ List.replicate postCount.toNat task := by
      rw [← order, List.append_assoc]
      exact List.mem_append_left _ member
    rw [List.eq_of_mem_replicate submitted]
    exact increments counter
  refine ⟨run_coherent run.forget, by omega, ?_⟩
  rw [count, Program.foldl_increments increment]

theorem run_stopping (increments : ∀ count, execute task count = count + 1)
    (run : (((program execute postCount).system
      (List.replicate postCount.toNat task)).recording
        (observe postCount)).Run
      (Batch.starting (List.replicate postCount.toNat task), []) threads
      recorded) :
    Stopping postCount.toNat recorded.1.consumer recorded.2 := by
  induction run using System.Run.recorded_induction with
  | refl =>
      refine .idle ?_ ?_ ?_
      · intro index impossible
        cases impossible
      · exact List.not_mem_nil
      · simp only [executed, List.filterMap_nil, List.length_nil]
        omega
  | snoc before moved induction =>
      exact induction.step (run_counted increments before)
        (step_eq_some_iff.mp moved)

theorem run_swapped {tasks : List Task}
    (run : (((program execute postCount).system tasks).recording
      (observe postCount)).Run (Batch.starting tasks, []) threads recorded) :
    ∀ batch, .swapped batch ∈ recorded.2 → batch ≠ [] := by
  induction run using System.Run.recorded_induction with
  | refl =>
      intro batch impossible
      cases impossible
  | snoc before moved induction =>
      intro batch seen
      rcases List.mem_append.mp seen with earlier | last
      · exact induction batch earlier
      · exact (step_eq_some_iff.mp moved).swapped_ne_nil
          (run_coherent before.forget) last

end Runs

theorem noLostWakeUp (increments : ∀ count, execute task count = count + 1)
    (postCount : UInt64) :
    NoLostWakeUp (program execute postCount)
      (List.replicate postCount.toNat task) postCount := by
  have delivers := Batch.delivers execute postCount
    (List.replicate postCount.toNat task)
  refine ⟨?_, ?_, delivers.terminates, delivers.returns, ?_, ?_, ?_⟩
  · intro threads state run
    exact (run_coherent run).tokens
  · intro threads state events run
    exact run_swapped run
  · intro threads state events run finished
    have all := delivers.executed_eq _ _ _ run finished
    obtain ⟨order, _⟩ := run_order run
    rw [all] at order
    have lengths := congrArg List.length order
    simp only [List.length_append] at lengths
    refine ⟨List.length_eq_zero_iff.mp (by omega), all, ?_⟩
    exact delivers.counts_replicate increments _ _ run.forget finished
  · intro threads state events run finished positive
    have all := delivers.executed_eq _ _ _ run finished
    have some : postCount.toNat ≠ 0 := by
      intro zero
      exact positive (UInt64.toNat_inj.mp zero)
    have returned := (run_coherent run.forget).joined finished
    apply (run_stopping increments run).at_end returned ?_ some
    rw [all, List.length_replicate]
  · intro threads state events run zero
    have stopping := run_stopping increments run
    rw [zero] at stopping
    exact stopping.not_stopped

end Batch

/-- For every `post_count`, whatever the interleaving. -/
theorem no_lost_wake_up (postCount : UInt64) :
    NoLostWakeUp (PostTask4.program postCount) (PostTask4.submitted postCount)
        postCount ∧
      NoLostWakeUp (PostTask5.program postCount)
        (PostTask5.submitted postCount) postCount :=
  ⟨Batch.noLostWakeUp (fun _ => rfl) postCount,
    Batch.noLostWakeUp (fun _ => rfl) postCount⟩

end AsioBenchmark.Posting
