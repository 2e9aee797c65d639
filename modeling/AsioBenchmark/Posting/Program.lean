import AsioBenchmark.Transition.Refinement

/-!
# The posting benchmarks

In `posttask3`, `posttask4` and `posttask5` one thread submits tasks in
`start()` and then calls `wait()`; a second thread runs the `io_service`, which
executes the posted handlers in the order in which they were posted.  A step
belongs to one of the two threads, and every interleaving of their steps is a
run.
-/

namespace AsioBenchmark.Posting

open AsioBenchmark.Transition

/-- The queue of the `io_service`, and whether `io_work_` still holds a work
object. -/
structure IoService (Handler : Type) where
  handlers : List Handler
  work : Bool

namespace IoService

variable {Handler : Type}

/-- The constructor has made the work object, and nothing is posted. -/
def working : IoService Handler :=
  { handlers := []
    work := true }

def post (service : IoService Handler) (handler : Handler) :
    IoService Handler :=
  { service with handlers := service.handlers ++ [handler] }

/-- `io_work_.reset()`. -/
def resetWork (service : IoService Handler) : IoService Handler :=
  { service with work := false }

end IoService

/-- Where the submitting thread is. -/
inductive Producer (Task : Type) where
  /-- In the loop of `start()`, with these tasks still to submit. -/
  | starting (rest : List Task)
  /-- In `post()`, with the lock released and `need_post` true. -/
  | posting (rest : List Task)
  /-- In `thread_.join()`, with the work object gone. -/
  | joining
  /-- `wait()` has returned. -/
  | finished
deriving DecidableEq

/-- The tasks that are still to be submitted. -/
def Producer.unsubmitted {Task : Type} : Producer Task → List Task
  | .starting rest => rest
  | .posting rest => rest
  | .joining => []
  | .finished => []

/-- Which thread makes a step. -/
inductive Thread where
  | producer
  | consumer
deriving DecidableEq

/-- What an observer sees of the consumer: a batch swapped in, a task executed,
and the assignment of `stop_time_`. -/
inductive Event (Task : Type) where
  | swapped (batch : List Task)
  | executed (task : Task)
  | stopped
deriving DecidableEq

def Event.task? {Task : Type} : Event Task → Option Task
  | .executed task => some task
  | _ => none

/-- The tasks executed, in order. -/
def executed {Task : Type} (events : List (Event Task)) : List Task :=
  events.filterMap Event.task?

@[simp] theorem executed_append {Task : Type} (events new : List (Event Task)) :
    executed (events ++ new) = executed events ++ executed new :=
  List.filterMap_append

/-- A program for every sequence of tasks. -/
structure Program (Task State : Type) where
  starting : List Task → State
  step : State → Thread → Option State
  observe : State → Thread → State → List (Event Task)
  producer : State → Producer Task
  count : State → UInt64

namespace Program

variable {Task State : Type}

def system (program : Program Task State) (tasks : List Task) :
    System State Thread where
  Initial state := state = program.starting tasks
  step := program.step

/-- What `count_` is when `wait()` has returned. -/
def CountsTo (program : Program Task State) (tasks : List Task)
    (total : UInt64) : Prop :=
  ∀ threads state,
    (program.system tasks).Run (program.starting tasks) threads state →
    program.producer state = .finished → program.count state = total

/-- Both threads come to an end, and when `wait()` has returned the tasks have
been executed in the order of their submission, each once. -/
structure Delivers (program : Program Task State)
    (execute : Task → UInt64 → UInt64) (tasks : List Task) : Prop where
  terminates : (program.system tasks).Terminates (program.starting tasks)
  returns : ∀ threads state,
    (program.system tasks).Run (program.starting tasks) threads state →
    (program.system tasks).Halted state → program.producer state = .finished
  executed_eq : ∀ threads state events,
    ((program.system tasks).recording program.observe).Run
      (program.starting tasks, []) threads (state, events) →
    program.producer state = .finished → executed events = tasks
  counts : program.CountsTo tasks
    (tasks.foldl (fun count task => execute task count) 0)

theorem foldl_increments {execute : Task → UInt64 → UInt64}
    {tasks : List Task}
    (increments : ∀ task ∈ tasks, ∀ count, execute task count = count + 1) :
    tasks.foldl (fun count task => execute task count) 0 =
      UInt64.ofNat tasks.length := by
  induction tasks using List.reverseRecOn with
  | nil => rfl
  | append_singleton tasks task induction =>
      have last := increments task
        (List.mem_append_right _ (List.mem_singleton.mpr rfl))
      rw [List.foldl_append, induction fun earlier member =>
        increments earlier (List.mem_append_left _ member)]
      simp only [List.foldl_cons, List.foldl_nil, last, List.length_append,
        List.length_singleton]
      rw [UInt64.ofNat_add]
      rfl

/-- Tasks that increment `count_` bring it to `post_count_`. -/
theorem Delivers.counts_replicate {program : Program Task State}
    {execute : Task → UInt64 → UInt64} {task : Task} {postCount : UInt64}
    (delivers : program.Delivers execute
      (List.replicate postCount.toNat task))
    (increments : ∀ count, execute task count = count + 1) :
    program.CountsTo (List.replicate postCount.toNat task) postCount := by
  have counts := delivers.counts
  have all : ∀ other ∈ List.replicate postCount.toNat task,
      ∀ count, execute other count = count + 1 := by
    intro other member count
    rw [List.eq_of_mem_replicate member]
    exact increments count
  rw [foldl_increments all, List.length_replicate,
    UInt64.ofNat_toNat] at counts
  exact counts

end Program

end AsioBenchmark.Posting
