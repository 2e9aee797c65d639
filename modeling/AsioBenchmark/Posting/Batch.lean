import AsioBenchmark.Posting.Program

/-!
# One post for each batch

`posttask4` and `posttask5` keep the submitted tasks in `pending_tasks_` and
post a handler only for a task that is pushed onto the empty vector.  The
handler swaps the vector with `temp_tasks_`, both under the lock, and executes
what it got.  A section under the lock is one step.
-/

namespace AsioBenchmark.Posting

open AsioBenchmark.Transition

/-- The only handler that is ever posted. -/
inductive Handler where
  | drain
deriving DecidableEq

/-- Where the thread in `run()` is. -/
inductive Consumer where
  /-- Between two handlers. -/
  | polling
  /-- In a handler, before `temp_tasks_.clear()`. -/
  | clearing
  /-- In a handler, before the section under the lock. -/
  | swapping
  /-- In the loop over `temp_tasks_`, at this index. -/
  | executing (index : Nat)
  /-- `run()` has returned. -/
  | returned
deriving DecidableEq

/-- A handler that has begun counts until it swaps. -/
def Consumer.unswapped : Consumer → Nat
  | .polling => 0
  | .clearing => 1
  | .swapping => 1
  | .executing _ => 0
  | .returned => 0

/-- One between releasing the lock with `need_post` true and
`io_service_.post`. -/
def Producer.unposted {Task : Type} : Producer Task → Nat
  | .starting _ => 0
  | .posting _ => 1
  | .joining => 0
  | .finished => 0

structure BatchState (Task : Type) where
  producer : Producer Task
  consumer : Consumer
  pendingTasks : List Task
  tempTasks : List Task
  service : IoService Handler
  count : UInt64

namespace Batch

variable {Task : Type}

def starting (tasks : List Task) : BatchState Task :=
  { producer := .starting tasks
    consumer := .polling
    pendingTasks := []
    tempTasks := []
    service := .working
    count := 0 }

/-- The section under the lock in `post()`: `need_post` decides whether the
`io_service_.post` behind it is made. -/
def push (state : BatchState Task) (task : Task) (rest : List Task) :
    BatchState Task :=
  let needPost := state.pendingTasks.isEmpty
  { state with
    pendingTasks := state.pendingTasks ++ [task]
    producer := if needPost = true then .posting rest else .starting rest }

/-- `start()` and then `wait()`. -/
def stepProducer (state : BatchState Task) : Option (BatchState Task) :=
  match state.producer with
  | .starting (task :: rest) => some (push state task rest)
  | .posting rest =>
      some
        { state with
          producer := .starting rest
          service := state.service.post .drain }
  | .starting [] =>
      some
        { state with
          producer := .joining
          service := state.service.resetWork }
  | .joining =>
      if state.consumer = .returned then
        some { state with producer := .finished }
      else none
  | .finished => none

/-- `run()` and the handler. -/
def stepConsumer (execute : Task → UInt64 → UInt64)
    (state : BatchState Task) : Option (BatchState Task) :=
  match state.consumer with
  | .polling =>
      match state.service.handlers with
      | .drain :: rest =>
          some
            { state with
              consumer := .clearing
              service := { state.service with handlers := rest } }
      | [] =>
          if state.service.work = true then none
          else some { state with consumer := .returned }
  | .clearing =>
      some { state with consumer := .swapping, tempTasks := [] }
  | .swapping =>
      some
        { state with
          consumer := .executing 0
          tempTasks := state.pendingTasks
          pendingTasks := state.tempTasks }
  | .executing index =>
      match state.tempTasks[index]? with
      | some task =>
          some
            { state with
              consumer := .executing (index + 1)
              count := execute task state.count }
      | none => some { state with consumer := .polling }
  | .returned => none

def step (execute : Task → UInt64 → UInt64) (state : BatchState Task) :
    Thread → Option (BatchState Task)
  | .producer => stepProducer state
  | .consumer => stepConsumer execute state

/-- At the end of its loop the handler assigns `stop_time_` if `count_` is
`post_count_`. -/
def observe (postCount : UInt64) (state : BatchState Task) :
    Thread → BatchState Task → List (Event Task)
  | .producer, _ => []
  | .consumer, _ =>
      match state.consumer with
      | .swapping => [.swapped state.pendingTasks]
      | .executing index =>
          match state.tempTasks[index]? with
          | some task => [.executed task]
          | none => if state.count = postCount then [.stopped] else []
      | _ => []

def program (execute : Task → UInt64 → UInt64) (postCount : UInt64) :
    Program Task (BatchState Task) where
  starting := starting
  step := step execute
  observe := observe postCount
  producer := BatchState.producer
  count := BatchState.count

/-! ## What a step can do -/

/-- The handlers that were posted and have not swapped yet. -/
def unswapped (state : BatchState Task) : Nat :=
  state.service.handlers.length + state.consumer.unswapped

/-- The tasks of the batch that the loop has not reached. -/
def batch (state : BatchState Task) : List Task :=
  match state.consumer with
  | .executing index => state.tempTasks.drop index
  | _ => []

inductive Step (execute : Task → UInt64 → UInt64) (state : BatchState Task) :
    Thread → BatchState Task → Prop where
  | push {task : Task} {rest : List Task}
      (submits : state.producer = .starting (task :: rest)) :
      Step execute state .producer (push state task rest)
  | post {rest : List Task} (posts : state.producer = .posting rest) :
      Step execute state .producer
        { state with
          producer := .starting rest
          service := state.service.post .drain }
  | resetWork (submitted : state.producer = .starting []) :
      Step execute state .producer
        { state with
          producer := .joining
          service := state.service.resetWork }
  | join (joins : state.producer = .joining)
      (returned : state.consumer = .returned) :
      Step execute state .producer { state with producer := .finished }
  | begin {rest : List Handler} (polls : state.consumer = .polling)
      (queue : state.service.handlers = .drain :: rest) :
      Step execute state .consumer
        { state with
          consumer := .clearing
          service := { state.service with handlers := rest } }
  | exit (polls : state.consumer = .polling)
      (queue : state.service.handlers = [])
      (idle : state.service.work = false) :
      Step execute state .consumer { state with consumer := .returned }
  | clear (clears : state.consumer = .clearing) :
      Step execute state .consumer
        { state with consumer := .swapping, tempTasks := [] }
  | swap (swaps : state.consumer = .swapping) :
      Step execute state .consumer
        { state with
          consumer := .executing 0
          tempTasks := state.pendingTasks
          pendingTasks := state.tempTasks }
  | execute {index : Nat} {task : Task}
      (executes : state.consumer = .executing index)
      (current : state.tempTasks[index]? = some task) :
      Step execute state .consumer
        { state with
          consumer := .executing (index + 1)
          count := execute task state.count }
  | finish {index : Nat} (executes : state.consumer = .executing index)
      (ended : state.tempTasks[index]? = none) :
      Step execute state .consumer { state with consumer := .polling }

theorem step_eq_some_iff {execute : Task → UInt64 → UInt64}
    {state next : BatchState Task} {thread : Thread} :
    step execute state thread = some next ↔
      Step execute state thread next := by
  constructor
  · intro taken
    cases thread with
    | producer =>
        simp only [step, stepProducer] at taken
        split at taken
        · rename_i task rest submits
          cases taken
          exact .push submits
        · rename_i rest posts
          cases taken
          exact .post posts
        · rename_i submitted
          cases taken
          exact .resetWork submitted
        · rename_i joins
          obtain ⟨returned, same⟩ := Option.ite_none_right_eq_some.mp taken
          cases same
          exact .join joins returned
        · cases taken
    | consumer =>
        simp only [step, stepConsumer] at taken
        split at taken
        · rename_i polls
          split at taken
          · rename_i rest queue
            cases taken
            exact .begin polls queue
          · rename_i queue
            obtain ⟨idle, same⟩ := Option.ite_none_left_eq_some.mp taken
            cases same
            exact .exit polls queue (by simpa using idle)
        · rename_i clears
          cases taken
          exact .clear clears
        · rename_i swaps
          cases taken
          exact .swap swaps
        · rename_i index executes
          split at taken
          · rename_i task current
            cases taken
            exact .execute executes current
          · rename_i ended
            cases taken
            exact .finish executes ended
        · cases taken
  · intro taken
    cases taken with
    | push submits => simp only [step, stepProducer, submits]
    | post posts => simp only [step, stepProducer, posts]
    | resetWork submitted => simp only [step, stepProducer, submitted]
    | join joins returned =>
        simp only [step, stepProducer, joins]
        rw [if_pos returned]
    | begin polls queue => simp only [step, stepConsumer, polls, queue]
    | exit polls queue idle =>
        simp only [step, stepConsumer, polls, queue]
        rw [if_neg (by simp [idle])]
    | clear clears => simp only [step, stepConsumer, clears]
    | swap swaps => simp only [step, stepConsumer, swaps]
    | execute executes current =>
        simp only [step, stepConsumer, executes, current]
    | finish executes ended => simp only [step, stepConsumer, executes, ended]

end Batch

/-! ## `posttask4` and `posttask5` -/

namespace PostTask4

/-- A task is the number that the handler adds. -/
def add (value : UInt32) (count : UInt64) : UInt64 :=
  count + value.toUInt64

/-- The tasks of the loop in `start()`; `push_back` narrows `add`. -/
def submitted (postCount : UInt64) : List UInt32 :=
  List.replicate postCount.toNat (1 : UInt64).toUInt32

def program (postCount : UInt64) : Program UInt32 (BatchState UInt32) :=
  Batch.program add postCount

end PostTask4

namespace PostTask5

/-- A `std::function<void()>`, by what it does to `count_`. -/
abbrev Task := UInt64 → UInt64

def call (task : Task) (count : UInt64) : UInt64 :=
  task count

/-- The lambda that `post()` puts into `pending_tasks_`. -/
def increment : Task :=
  fun count => count + 1

/-- The tasks of the loop in `start()`. -/
def submitted (postCount : UInt64) : List Task :=
  List.replicate postCount.toNat increment

def program (postCount : UInt64) : Program Task (BatchState Task) :=
  Batch.program call postCount

end PostTask5

end AsioBenchmark.Posting
