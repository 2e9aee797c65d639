import AsioBenchmark.Posting.Direct
import AsioBenchmark.Posting.Tokens

/-!
# Posting batches is posting tasks

Put the rest of the current batch in front of `pending_tasks_`, and the two
vectors are the queue of a program that posts every task by itself.
-/

namespace AsioBenchmark.Posting

open AsioBenchmark.Transition

variable {Task : Type} {execute : Task → UInt64 → UInt64}
  {postCount : UInt64} {tasks : List Task}
  {state next : BatchState Task} {thread : Thread}

/-- The handler that is about to be posted plays no part in direct posting. -/
def Producer.direct : Producer Task → Producer Task
  | .posting rest => .starting rest
  | producer => producer

def Consumer.running : Consumer → Bool
  | .returned => false
  | _ => true

namespace Batch

/-- The two vectors as one queue. -/
def direct (state : BatchState Task) : DirectState Task :=
  { producer := state.producer.direct
    running := state.consumer.running
    service :=
      { handlers := batch state ++ state.pendingTasks
        work := state.service.work }
    count := state.count }

private theorem direct_push {task : Task} {rest : List Task}
    (submits : state.producer = .starting (task :: rest)) :
    Direct.Step execute (direct state) .producer
      (direct (push state task rest)) := by
  have same : direct (push state task rest) =
      { direct state with
        producer := .starting rest
        service := (direct state).service.post task } := by
    have producer : (push state task rest).producer.direct =
        .starting rest := by
      simp only [push]
      split <;> rfl
    rw [direct, producer]
    simp only [direct, push, batch, IoService.post, List.append_assoc]
  rw [same]
  apply Direct.Step.post
  rw [direct, submits]
  rfl

/-- `run()` returns only with both vectors worked off: a task that waits has
its drain posted. -/
private theorem direct_exit (execute : Task → UInt64 → UInt64)
    (coherent : Coherent state) (polls : state.consumer = .polling)
    (queue : state.service.handlers = [])
    (idle : state.service.work = false) :
    (direct state).service.handlers = [] ∧
      Direct.Step execute (direct state) .consumer
        (direct { state with consumer := .returned }) := by
  have empty : state.pendingTasks = [] := by
    by_contra waits
    have tokens := coherent.tokens
    rw [if_neg waits, unswapped, queue, polls] at tokens
    cases producer : state.producer with
    | posting rest =>
        have works := coherent.working.mpr ⟨rest, .inr producer⟩
        rw [idle] at works
        cases works
    | starting rest =>
        rw [producer] at tokens
        cases tokens
    | joining =>
        rw [producer] at tokens
        cases tokens
    | finished =>
        rw [producer] at tokens
        cases tokens
  have same : direct { state with consumer := .returned } =
      { direct state with running := false } := by
    rw [direct, direct]
    simp only [batch, polls]
    rfl
  have nothing : (direct state).service.handlers = [] := by
    rw [direct, batch, polls, empty]
    rfl
  rw [same]
  refine ⟨nothing, ?_⟩
  apply Direct.Step.exit
  · rw [direct, polls]
    rfl
  · exact nothing
  · exact idle

private theorem direct_execute {index : Nat} {task : Task}
    (executes : state.consumer = .executing index)
    (current : state.tempTasks[index]? = some task) :
    (direct state).service.handlers =
        task :: (state.tempTasks.drop (index + 1) ++ state.pendingTasks) ∧
      Direct.Step execute (direct state) .consumer
        (direct
          { state with
            consumer := .executing (index + 1)
            count := execute task state.count }) := by
  obtain ⟨inside, found⟩ := List.getElem?_eq_some_iff.mp current
  have queue : (direct state).service.handlers =
      task :: (state.tempTasks.drop (index + 1) ++ state.pendingTasks) := by
    rw [direct, batch, executes]
    simp only
    rw [List.drop_eq_getElem_cons inside, found, List.cons_append]
  have running : (direct state).running = true := by
    rw [direct, executes]
    rfl
  have same : direct
      { state with
        consumer := .executing (index + 1)
        count := execute task state.count } =
      { direct state with
        service := { (direct state).service with
          handlers := state.tempTasks.drop (index + 1) ++ state.pendingTasks }
        count := execute task (direct state).count } := by
    rw [direct, direct, executes]
    rfl
  rw [same]
  exact ⟨queue, .handle running queue⟩

/-- Posting batches refines posting tasks: what is executed, in which order and
with which effect on `count_`, is the same. -/
theorem refines_direct (execute : Task → UInt64 → UInt64) (postCount : UInt64)
    (tasks : List Task) :
    System.Refinement ((program execute postCount).system tasks)
      ((Direct.program execute postCount).system tasks)
      (observe postCount) (Direct.observe postCount)
      Event.task? Event.task? Coherent direct where
  preserved _ _ _ coherent taken :=
    coherent.step (step_eq_some_iff.mp taken)
  matched state thread next coherent taken := by
    have performs : ∀ {thread : Thread} {target : DirectState Task},
        Direct.Step execute (direct state) thread target →
        ((Direct.program execute postCount).system tasks).step (direct state)
          thread = some target := Direct.step_eq_some_iff.mpr
    have moved := step_eq_some_iff.mp taken
    cases moved with
    | push submits =>
        right
        exact ⟨.producer, performs (direct_push submits), rfl⟩
    | post posts =>
        left
        refine ⟨?_, rfl⟩
        rw [direct, direct, posts]
        rfl
    | resetWork submitted =>
        right
        refine ⟨.producer, performs ?_, rfl⟩
        apply Direct.Step.resetWork
        rw [direct, submitted]
        rfl
    | join joins returned =>
        right
        refine ⟨.producer, performs ?_, rfl⟩
        apply Direct.Step.join
        · rw [direct, joins]
          rfl
        · rw [direct, returned]
          rfl
    | begin polls queue =>
        left
        constructor
        · simp only [direct, batch, polls, Consumer.running]
        · simp only [observe, polls, List.filterMap_nil]
    | exit polls queue idle =>
        right
        obtain ⟨nothing, exits⟩ :=
          direct_exit execute coherent polls queue idle
        refine ⟨.consumer, performs exits, ?_⟩
        simp only [Direct.observe, nothing, observe, polls, List.take_nil,
          List.flatMap_nil]
    | clear clears =>
        left
        constructor
        · simp only [direct, batch, clears, Consumer.running]
        · simp only [observe, clears, List.filterMap_nil]
    | swap swaps =>
        left
        constructor
        · have cleared := coherent.cleared swaps
          simp only [direct, batch, swaps, cleared, Consumer.running,
            List.drop_zero, List.append_nil, List.nil_append]
        · simp only [observe, swaps]
          rfl
    | execute executes current =>
        right
        obtain ⟨queue, handles⟩ := direct_execute executes current
        refine ⟨.consumer, performs handles, ?_⟩
        refine (Direct.executed_observe_handle _ _ queue).trans ?_
        simp only [observe, executes, current]
        rfl
    | @finish index executes ended =>
        left
        have reached : state.tempTasks.drop index = [] :=
          List.drop_eq_nil_of_le (List.getElem?_eq_none_iff.mp ended)
        constructor
        · simp only [direct, batch, executes, reached, Consumer.running]
        · simp only [observe, executes, ended]
          split <;> rfl

/-- Every run of a batching program is matched by a run of the direct one that
has executed the same tasks and counted the same. -/
theorem run_matched {threads : List Thread}
    {recorded : BatchState Task × List (Event Task)}
    (run : (((program execute postCount).system tasks).recording
      (observe postCount)).Run (Batch.starting tasks, []) threads recorded) :
    ∃ directThreads directEvents,
      (((Direct.program execute postCount).system tasks).recording
        (Direct.observe postCount)).Run (Direct.starting tasks, [])
        directThreads (direct recorded.1, directEvents) ∧
      executed directEvents = executed recorded.2 :=
  ((refines_direct execute postCount tasks).run (.starting tasks) run).2

theorem run_order {threads : List Thread}
    {recorded : BatchState Task × List (Event Task)}
    (run : (((program execute postCount).system tasks).recording
      (observe postCount)).Run (Batch.starting tasks, []) threads recorded) :
    executed recorded.2 ++ (batch recorded.1 ++ recorded.1.pendingTasks) ++
        recorded.1.producer.direct.unsubmitted = tasks ∧
      recorded.1.count =
        (executed recorded.2).foldl
          (fun count task => execute task count) 0 := by
  obtain ⟨directThreads, directEvents, matched, same⟩ := run_matched run
  have ordered := Direct.run_ordered matched
  rw [← same]
  exact ⟨ordered.order, ordered.count⟩

theorem delivers (execute : Task → UInt64 → UInt64) (postCount : UInt64)
    (tasks : List Task) :
    (program execute postCount).Delivers execute tasks := by
  have direct := Direct.delivers execute postCount tasks
  refine ⟨terminates execute postCount tasks, ?_, ?_, ?_⟩
  · intro threads state run halted
    exact (run_coherent run).halted halted
  · intro threads state events run finished
    obtain ⟨directThreads, directEvents, matched, same⟩ := run_matched run
    rw [← same]
    apply direct.executed_eq _ _ _ matched
    exact congrArg Producer.direct finished
  · intro threads state run finished
    obtain ⟨events, recorded⟩ := run.record (observe postCount) []
    obtain ⟨directThreads, directEvents, matched, _⟩ := run_matched recorded
    apply direct.counts _ _ matched.forget
    exact congrArg Producer.direct finished

end Batch

/-- Whatever the tasks are and do to `count_`, and however the steps of both
threads interleave: `posttask5`'s way of posting executes them in the order of
their submission, each once, and matches a run of `posttask3`'s way, which does
so too.  `posttask4` ends with the same `count_`, for all numbers it may add and
for its own. -/
theorem batches_deliver_in_order {Task : Type}
    (call : Task → UInt64 → UInt64) (postCount : UInt64)
    (tasks : List Task) :
    (Batch.program call postCount).Delivers call tasks ∧
      (Direct.program call postCount).Delivers call tasks ∧
      (∀ threads state events,
        (((Batch.program call postCount).system tasks).recording
          (Batch.observe postCount)).Run (Batch.starting tasks, []) threads
          (state, events) →
        ∃ directThreads directEvents,
          (((Direct.program call postCount).system tasks).recording
            (Direct.observe postCount)).Run (Direct.starting tasks, [])
            directThreads (Batch.direct state, directEvents) ∧
          executed directEvents = executed events) ∧
      (∀ value : Task → UInt32,
        (∀ task count, call task count = PostTask4.add (value task) count) →
        (PostTask4.program postCount).CountsTo (tasks.map value)
          (tasks.foldl (fun count task => call task count) 0)) ∧
      (PostTask3.program postCount).CountsTo (PostTask3.submitted postCount)
        postCount ∧
      (PostTask4.program postCount).CountsTo (PostTask4.submitted postCount)
        postCount ∧
      (PostTask5.program postCount).CountsTo (PostTask5.submitted postCount)
        postCount := by
  refine ⟨Batch.delivers call postCount tasks,
    Direct.delivers call postCount tasks, ?_, ?_, ?_, ?_, ?_⟩
  · intro threads state events run
    exact Batch.run_matched run
  · intro value adds
    have counts := (Batch.delivers PostTask4.add postCount
      (tasks.map value)).counts
    rw [List.foldl_map] at counts
    simp only [adds]
    exact counts
  · exact (Direct.delivers PostTask3.add postCount _).counts_replicate
      fun _ => rfl
  · exact (Batch.delivers PostTask4.add postCount _).counts_replicate
      fun _ => rfl
  · exact (Batch.delivers PostTask5.call postCount _).counts_replicate
      fun _ => rfl

end AsioBenchmark.Posting
