import AsioBenchmark.Posting.Program

/-!
# One post for each task

`posttask3` posts every task to the `io_service` by itself.
-/

namespace AsioBenchmark.Posting

open AsioBenchmark.Transition

variable {Task : Type}

/-- The two threads of `posttask3`; `running` is false once `run()` has
returned. -/
structure DirectState (Task : Type) where
  producer : Producer Task
  running : Bool
  service : IoService Task
  count : UInt64

namespace Direct

def starting (tasks : List Task) : DirectState Task :=
  { producer := .starting tasks
    running := true
    service := .working
    count := 0 }

/-- `start()` and then `wait()`. -/
def stepProducer (state : DirectState Task) : Option (DirectState Task) :=
  match state.producer with
  | .starting (task :: rest) =>
      some
        { state with
          producer := .starting rest
          service := state.service.post task }
  | .starting [] =>
      some
        { state with
          producer := .joining
          service := state.service.resetWork }
  | .posting _ => none
  | .joining =>
      if state.running = true then none
      else some { state with producer := .finished }
  | .finished => none

/-- `run()`: it executes the first handler, waits while there is work, or
returns. -/
def stepConsumer (execute : Task → UInt64 → UInt64)
    (state : DirectState Task) : Option (DirectState Task) :=
  if state.running = true then
    match state.service.handlers with
    | task :: rest =>
        some
          { state with
            service := { state.service with handlers := rest }
            count := execute task state.count }
    | [] =>
        if state.service.work = true then none
        else some { state with running := false }
  else none

def step (execute : Task → UInt64 → UInt64) (state : DirectState Task) :
    Thread → Option (DirectState Task)
  | .producer => stepProducer state
  | .consumer => stepConsumer execute state

/-- A handler assigns `stop_time_` when it has brought `count_` to
`post_count_`. -/
def observe (postCount : UInt64) (state : DirectState Task) :
    Thread → DirectState Task → List (Event Task)
  | .producer, _ => []
  | .consumer, next =>
      (state.service.handlers.take 1).flatMap fun task =>
        .executed task :: if next.count = postCount then [.stopped] else []

def program (execute : Task → UInt64 → UInt64) (postCount : UInt64) :
    Program Task (DirectState Task) where
  starting := starting
  step := step execute
  observe := observe postCount
  producer := DirectState.producer
  count := DirectState.count

/-! ## What a step can do -/

inductive Step (execute : Task → UInt64 → UInt64) (state : DirectState Task) :
    Thread → DirectState Task → Prop where
  | post {task : Task} {rest : List Task}
      (submits : state.producer = .starting (task :: rest)) :
      Step execute state .producer
        { state with
          producer := .starting rest
          service := state.service.post task }
  | resetWork (submitted : state.producer = .starting []) :
      Step execute state .producer
        { state with
          producer := .joining
          service := state.service.resetWork }
  | join (joins : state.producer = .joining) (ended : state.running = false) :
      Step execute state .producer { state with producer := .finished }
  | handle {task : Task} {rest : List Task} (running : state.running = true)
      (queue : state.service.handlers = task :: rest) :
      Step execute state .consumer
        { state with
          service := { state.service with handlers := rest }
          count := execute task state.count }
  | exit (running : state.running = true)
      (queue : state.service.handlers = [])
      (idle : state.service.work = false) :
      Step execute state .consumer { state with running := false }

theorem step_eq_some_iff {execute : Task → UInt64 → UInt64}
    {state next : DirectState Task} {thread : Thread} :
    step execute state thread = some next ↔
      Step execute state thread next := by
  constructor
  · intro taken
    cases thread with
    | producer =>
        simp only [step, stepProducer] at taken
        split at taken
        · rename_i task rest submits
          cases taken
          exact .post submits
        · rename_i submitted
          cases taken
          exact .resetWork submitted
        · cases taken
        · rename_i joins
          obtain ⟨ended, same⟩ := Option.ite_none_left_eq_some.mp taken
          cases same
          exact .join joins (by simpa using ended)
        · cases taken
    | consumer =>
        simp only [step, stepConsumer] at taken
        obtain ⟨running, moved⟩ := Option.ite_none_right_eq_some.mp taken
        split at moved
        · rename_i task rest queue
          cases moved
          exact .handle running queue
        · rename_i queue
          obtain ⟨idle, same⟩ := Option.ite_none_left_eq_some.mp moved
          cases same
          exact .exit running queue (by simpa using idle)
  · intro taken
    cases taken with
    | post submits => simp only [step, stepProducer, submits]
    | resetWork submitted => simp only [step, stepProducer, submitted]
    | join joins ended =>
        simp only [step, stepProducer, joins]
        rw [if_neg (by simp [ended])]
    | handle running queue =>
        simp only [step, stepConsumer, queue]
        rw [if_pos running]
    | exit running queue idle =>
        simp only [step, stepConsumer, queue]
        rw [if_pos running, if_neg (by simp [idle])]

/-! ## Every run -/

/-- The tasks executed, those posted and those to be submitted are all the
tasks, in order. -/
structure Ordered (execute : Task → UInt64 → UInt64) (tasks : List Task)
    (state : DirectState Task) (events : List (Event Task)) : Prop where
  order : executed events ++ state.service.handlers ++
    state.producer.unsubmitted = tasks
  count : state.count =
    (executed events).foldl (fun count task => execute task count) 0
  working : state.service.work = true ↔
    ∃ rest, state.producer = .starting rest
  ended : state.running = false →
    state.service.work = false ∧ state.service.handlers = []
  joined : state.producer = .finished → state.running = false
  posts : ∀ rest, state.producer ≠ .posting rest

section Runs

variable {execute : Task → UInt64 → UInt64} {tasks : List Task}
  {postCount : UInt64} {state next : DirectState Task}
  {events : List (Event Task)} {thread : Thread}

theorem Ordered.starting : Ordered execute tasks (starting tasks) [] where
  order := rfl
  count := rfl
  working := ⟨fun _ => ⟨tasks, rfl⟩, fun _ => rfl⟩
  ended impossible := by cases impossible
  joined impossible := by cases impossible
  posts _ impossible := by cases impossible

theorem executed_observe_handle (postCount : UInt64)
    (next : DirectState Task) {task : Task} {rest : List Task}
    (queue : state.service.handlers = task :: rest) :
    executed (observe postCount state .consumer next) = [task] := by
  simp only [observe, queue, List.take_succ_cons, List.take_zero,
    List.flatMap_cons, List.flatMap_nil, List.append_nil]
  split <;> rfl

theorem Ordered.step (ordered : Ordered execute tasks state events)
    (taken : Step execute state thread next) :
    Ordered execute tasks next
      (events ++ observe postCount state thread next) := by
  have order := ordered.order
  cases taken with
  | @post task rest submits =>
      have works := ordered.working.mpr ⟨_, submits⟩
      rw [observe, List.append_nil]
      refine ⟨?_, ordered.count, ?_, ?_, ?_, ?_⟩
      · rw [submits] at order
        simpa [IoService.post, Producer.unsubmitted] using order
      · exact ⟨fun _ => ⟨rest, rfl⟩, fun _ => works⟩
      · intro ended
        have impossible := (ordered.ended ended).1
        rw [works] at impossible
        cases impossible
      · intro impossible
        cases impossible
      · intro other impossible
        cases impossible
  | resetWork submitted =>
      rw [observe, List.append_nil]
      refine ⟨?_, ordered.count, ?_, ?_, ?_, ?_⟩
      · rw [submitted] at order
        exact order
      · constructor
        · intro impossible
          cases impossible
        · rintro ⟨rest, impossible⟩
          cases impossible
      · intro ended
        exact ⟨rfl, (ordered.ended ended).2⟩
      · intro impossible
        cases impossible
      · intro other impossible
        cases impossible
  | join joins ended =>
      rw [observe, List.append_nil]
      refine ⟨?_, ordered.count, ?_, ordered.ended, fun _ => ended, ?_⟩
      · rw [joins] at order
        exact order
      · have idle := (ordered.ended ended).1
        constructor
        · intro works
          rw [idle] at works
          cases works
        · rintro ⟨rest, impossible⟩
          cases impossible
      · intro other impossible
        cases impossible
  | @handle task rest running queue =>
      have shown := executed_observe_handle postCount
        { state with
          service := { state.service with handlers := rest }
          count := execute task state.count } queue
      refine ⟨?_, ?_, ordered.working, ?_, ordered.joined, ordered.posts⟩
      · rw [executed_append, shown, List.append_assoc (executed events)]
        rw [queue] at order
        exact order
      · rw [executed_append, shown, List.foldl_append, ← ordered.count]
        rfl
      · intro ended
        rw [running] at ended
        cases ended
  | exit running queue idle =>
      have quiet : observe postCount state .consumer
          { state with running := false } = [] := by
        rw [observe, queue]
        rfl
      rw [quiet, List.append_nil]
      exact ⟨order, ordered.count, ordered.working, fun _ => ⟨idle, queue⟩,
        fun _ => rfl, ordered.posts⟩

theorem run_ordered {threads : List Thread}
    {recorded : DirectState Task × List (Event Task)}
    (run : (((program execute postCount).system tasks).recording
      (observe postCount)).Run (Direct.starting tasks, []) threads recorded) :
    Ordered execute tasks recorded.1 recorded.2 := by
  induction run using System.Run.recorded_induction with
  | refl => exact .starting
  | snoc _ moved induction => exact induction.step (step_eq_some_iff.mp moved)

/-- What is left to do: two steps for a task to be submitted and one for a
task that was posted. -/
def remaining (state : DirectState Task) : Nat :=
  2 * state.producer.unsubmitted.length + state.service.handlers.length +
    (if state.running = true then 1 else 0) +
    match state.producer with
    | .starting _ => 2
    | .posting _ => 2
    | .joining => 1
    | .finished => 0

theorem Step.remaining_lt (taken : Step execute state thread next) :
    remaining next < remaining state := by
  cases taken with
  | post submits =>
      simp only [remaining, submits, Producer.unsubmitted, IoService.post,
        List.length_append, List.length_cons, List.length_nil]
      omega
  | resetWork submitted =>
      simp only [remaining, submitted, Producer.unsubmitted,
        IoService.resetWork, List.length_nil]
      omega
  | join joins ended =>
      simp only [remaining, joins, Producer.unsubmitted]
      omega
  | handle running queue =>
      simp only [remaining, queue, List.length_cons]
      omega
  | exit running queue idle =>
      simp only [remaining, running, if_true]
      simp

theorem terminates (tasks : List Task) :
    ((program execute postCount).system tasks).Terminates
      (Direct.starting tasks) := by
  refine System.terminates_of_rank
    (fun rank state => remaining state = rank) ?_ rfl
  rintro rank state thread next rfl taken
  exact ⟨remaining next, (step_eq_some_iff.mp taken).remaining_lt, rfl⟩

/-- While `wait()` has not returned some thread can move. -/
theorem Ordered.halted (ordered : Ordered execute tasks state events)
    (halted : ((program execute postCount).system tasks).Halted state) :
    state.producer = .finished := by
  have stuck : ∀ {thread next}, ¬Step execute state thread next := by
    intro thread next taken
    have moves := step_eq_some_iff.mpr taken
    have still : Direct.step execute state thread = none := halted thread
    rw [still] at moves
    cases moves
  cases producer : state.producer with
  | starting rest =>
      cases rest with
      | nil => exact absurd (.resetWork producer) stuck
      | cons task rest => exact absurd (.post producer) stuck
  | posting rest => exact absurd producer (ordered.posts rest)
  | joining =>
      cases running : state.running with
      | false => exact absurd (.join producer running) stuck
      | true =>
          cases queue : state.service.handlers with
          | cons task rest => exact absurd (.handle running queue) stuck
          | nil =>
              have idle : state.service.work = false := by
                by_contra works
                obtain ⟨rest, submits⟩ :=
                  ordered.working.mp (by simpa using works)
                rw [producer] at submits
                cases submits
              exact absurd (.exit running queue idle) stuck
  | finished => rfl

/-- `posttask3`'s way of posting executes the tasks in order. -/
theorem delivers (execute : Task → UInt64 → UInt64) (postCount : UInt64)
    (tasks : List Task) :
    (program execute postCount).Delivers execute tasks := by
  have complete : ∀ state events, Ordered execute tasks state events →
      state.producer = .finished → executed events = tasks := by
    intro state events ordered finished
    have order := ordered.order
    rw [(ordered.ended (ordered.joined finished)).2, finished] at order
    simpa [Producer.unsubmitted] using order
  refine ⟨terminates tasks, ?_, ?_, ?_⟩
  · intro threads state run halted
    obtain ⟨events, recorded⟩ := run.record (observe postCount) []
    exact (run_ordered recorded).halted halted
  · intro threads state events run finished
    exact complete state events (run_ordered run) finished
  · intro threads state run finished
    obtain ⟨events, recorded⟩ := run.record (observe postCount) []
    have ordered := run_ordered recorded
    rw [← complete state events ordered finished]
    exact ordered.count

end Runs

end Direct

/-! ## `posttask3` -/

namespace PostTask3

/-- The handler adds the `int` that it has captured. -/
def add (value : Int32) (count : UInt64) : UInt64 :=
  count + value.toInt64.toUInt64

/-- The tasks of the loop in `start()`. -/
def submitted (postCount : UInt64) : List Int32 :=
  List.replicate postCount.toNat 1

def program (postCount : UInt64) : Program Int32 (DirectState Int32) :=
  Direct.program add postCount

end PostTask3

end AsioBenchmark.Posting
