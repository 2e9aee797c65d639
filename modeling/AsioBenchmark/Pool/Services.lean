import AsioBenchmark.Transition.System
import AsioBenchmark.Transition.Total

/-!
# The pool of `io_service`s

Every thread of the pool runs an `io_service` of its own.  It executes the
handlers of its queue in the order in which they were posted, and leaves
`run()` as soon as it has neither a work object nor a queued or running
handler; what is posted to it later stays in the queue.  A step is one step of
one thread.
-/

namespace AsioBenchmark.Pool

open AsioBenchmark.Transition

/-- An `io_service` and the thread that runs it.  `Body` is how far the running
handler has got. -/
structure Service (Task Body : Type) where
  queue : List Task
  running : Option Body
  work : Bool
  left : Bool

/-- What one step of a handler does to the services. -/
inductive Move (size : Nat) (Task : Type) where
  | compute
  | post (index : Nat) (task : Task)
  | resetWork (index : Fin size)

/-- A program on the pool: how the handler of a task begins, and what each of
its steps makes of the data that the threads share.  A handler without a next
step has returned. -/
structure Program (size : Nat) (Task Body Shared : Type) where
  entry : Task → Body
  advance : Body → Shared → Shared × Option Body × Move size Task

structure State (size : Nat) (Task Body Shared : Type) where
  services : Fin size → Service Task Body
  shared : Shared

namespace Service

variable {Task Body : Type}

/-- The constructor of the pool has made the work object. -/
def working : Service Task Body :=
  { queue := []
    running := none
    work := true
    left := false }

def post (service : Service Task Body) (task : Task) : Service Task Body :=
  { service with queue := service.queue ++ [task] }

/-- Without work object and handlers `run()` returns. -/
def settle (service : Service Task Body) : Service Task Body :=
  { service with
    left := service.left ||
      (!service.work && service.queue.isEmpty && service.running.isNone) }

/-- `work_[i].reset()`. -/
def resetWork (service : Service Task Body) : Service Task Body :=
  { service with work := false }.settle

/-- The handler at the front of the queue begins. -/
def poll (service : Service Task Body) (body : Body) (rest : List Task) :
    Service Task Body :=
  { service with
    queue := rest
    running := some body }

/-- The running handler gets to `next`, or returns. -/
def proceed (service : Service Task Body) (next : Option Body) :
    Service Task Body :=
  { service with running := next }.settle

variable (service : Service Task Body)

@[simp] theorem post_queue (task : Task) :
    (service.post task).queue = service.queue ++ [task] := rfl
@[simp] theorem post_running (task : Task) :
    (service.post task).running = service.running := rfl
@[simp] theorem post_work (task : Task) :
    (service.post task).work = service.work := rfl

@[simp] theorem resetWork_queue :
    service.resetWork.queue = service.queue := rfl
@[simp] theorem resetWork_running :
    service.resetWork.running = service.running := rfl
@[simp] theorem resetWork_work : service.resetWork.work = false := rfl

@[simp] theorem poll_queue (body : Body) (rest : List Task) :
    (service.poll body rest).queue = rest := rfl
@[simp] theorem poll_running (body : Body) (rest : List Task) :
    (service.poll body rest).running = some body := rfl
@[simp] theorem poll_work (body : Body) (rest : List Task) :
    (service.poll body rest).work = service.work := rfl

@[simp] theorem proceed_queue (next : Option Body) :
    (service.proceed next).queue = service.queue := rfl
@[simp] theorem proceed_running (next : Option Body) :
    (service.proceed next).running = next := rfl
@[simp] theorem proceed_work (next : Option Body) :
    (service.proceed next).work = service.work := rfl

end Service

section Pool

variable {size : Nat} [NeZero size] {Task Body Shared : Type}

def getIoService (size : Nat) [NeZero size] (index : Nat) : Fin size :=
  ⟨index % size, Nat.mod_lt index (NeZero.pos size)⟩

theorem getIoService_val (index : Fin size) :
    getIoService size index.val = index :=
  Fin.ext (Nat.mod_eq_of_lt index.isLt)

def Move.apply (services : Fin size → Service Task Body) :
    Move size Task → Fin size → Service Task Body
  | .compute => services
  | .post index task =>
      Function.update services (getIoService size index)
        ((services (getIoService size index)).post task)
  | .resetWork index =>
      Function.update services index (services index).resetWork

def State.step (program : Program size Task Body Shared)
    (state : State size Task Body Shared) (thread : Fin size) :
    Option (State size Task Body Shared) :=
  let service := state.services thread
  if service.left = true then none
  else
    match service.running with
    | none =>
        match service.queue with
        | [] => none
        | task :: rest =>
            some
              { state with
                services := Function.update state.services thread
                  (service.poll (program.entry task) rest) }
    | some body =>
        let (shared, next, move) := program.advance body state.shared
        some
          { services := move.apply
              (Function.update state.services thread (service.proceed next))
            shared := shared }

/-- What a thread can do in one step. -/
inductive Step (program : Program size Task Body Shared)
    (state : State size Task Body Shared) (thread : Fin size) :
    State size Task Body Shared → Prop where
  | poll {task : Task} {rest : List Task}
      (stays : (state.services thread).left = false)
      (idle : (state.services thread).running = none)
      (queued : (state.services thread).queue = task :: rest) :
      Step program state thread
        { state with
          services := Function.update state.services thread
            ((state.services thread).poll (program.entry task) rest) }
  | proceed {body : Body} {shared : Shared} {next : Option Body}
      {move : Move size Task}
      (stays : (state.services thread).left = false)
      (runs : (state.services thread).running = some body)
      (advances : program.advance body state.shared = (shared, next, move)) :
      Step program state thread
        { services := move.apply (Function.update state.services thread
            ((state.services thread).proceed next))
          shared := shared }

theorem step_eq_some_iff {program : Program size Task Body Shared}
    {state next : State size Task Body Shared} {thread : Fin size} :
    state.step program thread = some next ↔
      Step program state thread next := by
  constructor
  · intro taken
    unfold State.step at taken
    simp only at taken
    split at taken
    · cases taken
    · rename_i stays
      have stays : (state.services thread).left = false := by
        simpa using stays
      split at taken
      · rename_i idle
        split at taken
        · cases taken
        · rename_i task rest queued
          cases taken
          exact .poll stays idle queued
      · rename_i body runs
        cases taken
        exact .proceed stays runs rfl
  · intro taken
    cases taken with
    | poll stays idle queued => simp [State.step, stays, idle, queued]
    | proceed stays runs advances =>
        simp [State.step, stays, runs, advances]

def Program.system (program : Program size Task Body Shared)
    (start : State size Task Body Shared) :
    System (State size Task Body Shared) (Fin size) where
  Initial state := state = start
  step := State.step program

end Pool

/-! ## What a step makes of each service -/

section Fields

variable {size : Nat} {Task Body : Type}
  (services : Fin size → Service Task Body) (thread index : Fin size)

@[simp] theorem queue_begin (body : Body) (rest : List Task) :
    (Function.update services thread ((services thread).poll body rest)
      index).queue =
      if index = thread then rest else (services index).queue := by
  by_cases same : index = thread
  · simp [same]
  · rw [Function.update_of_ne same, if_neg same]

@[simp] theorem running_begin (body : Body) (rest : List Task) :
    (Function.update services thread ((services thread).poll body rest)
      index).running =
      if index = thread then some body else (services index).running := by
  by_cases same : index = thread
  · simp [same]
  · rw [Function.update_of_ne same, if_neg same]

@[simp] theorem work_begin (body : Body) (rest : List Task) :
    (Function.update services thread ((services thread).poll body rest)
      index).work = (services index).work := by
  by_cases same : index = thread
  · simp [same]
  · rw [Function.update_of_ne same]

variable [NeZero size]

/-- What a step posts to a service. -/
def Move.postedTo (move : Move size Task) (index : Fin size) : List Task :=
  match move with
  | .post target task => if index = getIoService size target then [task] else []
  | _ => []

/-- Whether a step resets the work object of a service. -/
def Move.resets (move : Move size Task) (index : Fin size) : Bool :=
  match move with
  | .resetWork target => decide (index = target)
  | _ => false

namespace Move

variable (move : Move size Task)

theorem queue_apply : (move.apply services index).queue =
    (services index).queue ++ move.postedTo index := by
  cases move with
  | compute => simp [apply, postedTo]
  | post target task =>
      by_cases same : index = getIoService size target
      · simp [apply, postedTo, same]
      · simp [apply, postedTo, same]
  | resetWork target =>
      by_cases same : index = target
      · simp [apply, postedTo, same]
      · simp [apply, postedTo, Function.update_of_ne same]

theorem running_apply : (move.apply services index).running =
    (services index).running := by
  cases move with
  | compute => rfl
  | post target task =>
      by_cases same : index = getIoService size target
      · simp [apply, same]
      · simp [apply, Function.update_of_ne same]
  | resetWork target =>
      by_cases same : index = target
      · simp [apply, same]
      · simp [apply, Function.update_of_ne same]

theorem work_apply : (move.apply services index).work =
    ((services index).work && !move.resets index) := by
  cases move with
  | compute => simp [apply, resets]
  | post target task =>
      by_cases same : index = getIoService size target
      · simp [apply, resets, same]
      · simp [apply, resets, Function.update_of_ne same]
  | resetWork target =>
      by_cases same : index = target
      · simp [apply, resets, same]
      · simp [apply, resets, same]

end Move

@[simp] theorem queue_proceed (move : Move size Task) (next : Option Body) :
    (move.apply (Function.update services thread
      ((services thread).proceed next)) index).queue =
      (services index).queue ++ move.postedTo index := by
  rw [Move.queue_apply]
  by_cases same : index = thread
  · simp [same]
  · rw [Function.update_of_ne same]

@[simp] theorem running_proceed (move : Move size Task)
    (next : Option Body) :
    (move.apply (Function.update services thread
      ((services thread).proceed next)) index).running =
      if index = thread then next else (services index).running := by
  rw [Move.running_apply]
  by_cases same : index = thread
  · simp [same]
  · rw [Function.update_of_ne same, if_neg same]

@[simp] theorem work_proceed (move : Move size Task) (next : Option Body) :
    (move.apply (Function.update services thread
      ((services thread).proceed next)) index).work =
      ((services index).work && !move.resets index) := by
  rw [Move.work_apply]
  by_cases same : index = thread
  · simp [same]
  · rw [Function.update_of_ne same]

/-- What holds of the running handlers holds of them after a step, if it holds
of the one that made the step. -/
theorem forall_running_proceed {services : Fin size → Service Task Body}
    {thread : Fin size} {move : Move size Task} {next : Option Body}
    {Holds : Fin size → Body → Prop}
    (holds : ∀ index body, (services index).running = some body →
      Holds index body)
    (own : ∀ body, next = some body → Holds thread body)
    (index : Fin size) (body : Body)
    (runs : (move.apply (Function.update services thread
      ((services thread).proceed next)) index).running = some body) :
    Holds index body := by
  rw [running_proceed] at runs
  split at runs
  · rename_i same
    subst same
    exact own body runs
  · exact holds index body runs

omit [NeZero size] in
theorem forall_running_begin {services : Fin size → Service Task Body}
    {thread : Fin size} {begun : Body} {rest : List Task}
    {Holds : Fin size → Body → Prop}
    (holds : ∀ index body, (services index).running = some body →
      Holds index body)
    (own : Holds thread begun) (index : Fin size) (body : Body)
    (runs : (Function.update services thread
      ((services thread).poll begun rest) index).running = some body) :
    Holds index body := by
  rw [running_begin] at runs
  split at runs
  · rename_i same
    cases runs
    subst same
    exact own
  · exact holds index body runs

end Fields

/-! ## Totals over the services -/

section Total

variable {size : Nat} {Task Body : Type}

/-- The weight of the tasks in the queue and of the running handler. -/
def Service.weigh (queued : Task → Nat) (running : Option Body → Nat)
    (service : Service Task Body) : Nat :=
  (service.queue.map queued).sum + running service.running

/-- The weight of what a step posts. -/
def Move.weigh (queued : Task → Nat) : Move size Task → Nat
  | .post _ task => queued task
  | _ => 0

@[simp] theorem Move.weigh_compute (queued : Task → Nat) :
    (compute : Move size Task).weigh queued = 0 := rfl
@[simp] theorem Move.weigh_resetWork (queued : Task → Nat)
    (index : Fin size) :
    (resetWork index : Move size Task).weigh queued = 0 := rfl

theorem Service.weigh_of_queue {service : Service Task Body}
    {queued : Task → Nat} {running : Option Body → Nat} {task : Task}
    {rest : List Task} (queue : service.queue = task :: rest) :
    service.weigh queued running =
      queued task + (rest.map queued).sum + running service.running := by
  rw [Service.weigh, queue]
  rfl

theorem total_weigh_begin (queued : Task → Nat)
    (running : Option Body → Nat) (body : Body)
    {services : Fin size → Service Task Body}
    {thread : Fin size} {task : Task} {rest : List Task}
    (queue : (services thread).queue = task :: rest)
    (idle : (services thread).running = none) :
    total (Service.weigh queued running)
        (Function.update services thread
          ((services thread).poll body rest)) + queued task +
        running none =
      total (Service.weigh queued running) services +
        running (some body) := by
  have changed := total_update (Service.weigh queued running) services thread
    ((services thread).poll body rest)
  rw [Service.weigh_of_queue queue, idle] at changed
  have after : ((services thread).poll body rest).weigh queued running =
      (rest.map queued).sum + running (some body) := rfl
  rw [after] at changed
  omega

theorem total_weigh_apply [NeZero size] (queued : Task → Nat)
    (running : Option Body → Nat) (services : Fin size → Service Task Body)
    (move : Move size Task) :
    total (Service.weigh queued running) (move.apply services) =
      total (Service.weigh queued running) services + move.weigh queued := by
  cases move with
  | compute => rfl
  | post target task =>
      have posted := total_update (Service.weigh queued running) services
        (getIoService size target)
        ((services (getIoService size target)).post task)
      have more : ((services (getIoService size target)).post task).weigh
          queued running =
          (services (getIoService size target)).weigh queued running +
            queued task := by
        simp only [Service.weigh, Service.post_queue, List.map_append,
          List.map_cons, List.map_nil, List.sum_append, List.sum_cons,
          List.sum_nil, Service.post_running]
        omega
      change total _ (Function.update _ _ _) = _ + queued task
      omega
  | resetWork target =>
      have reset := total_update (Service.weigh queued running) services
        target (services target).resetWork
      have kept : (services target).resetWork.weigh queued running =
          (services target).weigh queued running := rfl
      change total _ (Function.update _ _ _) = _ + 0
      omega

theorem total_weigh_proceed [NeZero size] (queued : Task → Nat)
    (running : Option Body → Nat) (services : Fin size → Service Task Body)
    (thread : Fin size) (move : Move size Task) (next : Option Body) :
    total (Service.weigh queued running)
        (move.apply (Function.update services thread
          ((services thread).proceed next))) +
        running (services thread).running =
      total (Service.weigh queued running) services + running next +
        move.weigh queued := by
  have own := total_update (Service.weigh queued running) services thread
    ((services thread).proceed next)
  have after : ((services thread).proceed next).weigh queued running =
      ((services thread).queue.map queued).sum + running next := rfl
  have before : (services thread).weigh queued running =
      ((services thread).queue.map queued).sum +
        running (services thread).running := rfl
  rw [total_weigh_apply]
  omega

end Total

/-! ## Leaving `run()` -/

section Leaving

variable {size : Nat} [NeZero size] {Task Body Shared : Type}
  {program : Program size Task Body Shared}
  {start state next finish : State size Task Body Shared}
  {thread : Fin size} {threads : List (Fin size)}

/-- A thread is in `run()` exactly as long as there is something to wait for. -/
structure Service.Settled (service : Service Task Body) : Prop where
  left : service.left = true →
    service.work = false ∧ service.running = none
  stays : service.left = false →
    service.work = true ∨ service.queue ≠ [] ∨ service.running ≠ none

namespace Service

variable {service : Service Task Body}

theorem settled_working : (working : Service Task Body).Settled where
  left impossible := by cases impossible
  stays _ := .inl rfl

theorem settled_settle
    (left : service.left = true →
      service.work = false ∧ service.running = none) :
    service.settle.Settled where
  left leaves := by
    simp only [settle, Bool.or_eq_true, Bool.and_eq_true, Bool.not_eq_true',
      Option.isNone_iff_eq_none] at leaves ⊢
    rcases leaves with already | ⟨⟨noWork, _⟩, idle⟩
    · exact left already
    · exact ⟨noWork, idle⟩
  stays remains := by
    simp only [settle, Bool.or_eq_false_iff, Bool.and_eq_false_iff,
      Bool.not_eq_false', List.isEmpty_eq_false_iff] at remains ⊢
    obtain ⟨_, (work | queued) | runs⟩ := remains
    · exact .inl work
    · exact .inr (.inl queued)
    · right
      right
      intro idle
      rw [idle] at runs
      cases runs

/-- A thread with a work object has not left. -/
theorem Settled.stays_of_work (settled : service.Settled)
    (work : service.work = true) : service.left = false := by
  cases left : service.left with
  | false => rfl
  | true =>
      have gone := (settled.left left).1
      rw [work] at gone
      cases gone

theorem Settled.post (settled : service.Settled) (task : Task) :
    (service.post task).Settled where
  left := settled.left
  stays _ := .inr (.inl (by simp [Service.post]))

theorem Settled.resetWork (settled : service.Settled) :
    service.resetWork.Settled :=
  settled_settle fun left => ⟨rfl, (settled.left left).2⟩

theorem settled_poll (stays : service.left = false) (body : Body)
    (rest : List Task) : (service.poll body rest).Settled where
  left leaves := by
    have impossible : service.left = true := leaves
    rw [stays] at impossible
    cases impossible
  stays _ := .inr (.inr (by simp))

theorem settled_proceed (stays : service.left = false)
    (next : Option Body) : (service.proceed next).Settled := by
  apply settled_settle
  intro leaves
  have impossible : service.left = true := leaves
  rw [stays] at impossible
  cases impossible

/-- `left` is never taken back. -/
theorem left_resetWork (left : service.left = true) :
    service.resetWork.left = true := by
  simp [Service.resetWork, settle, left]

end Service

theorem Move.forall_apply {Holds : Service Task Body → Prop}
    {services : Fin size → Service Task Body} {move : Move size Task}
    (posts : ∀ service task, Holds service → Holds (service.post task))
    (resets : ∀ service, Holds service → Holds service.resetWork)
    (holds : ∀ index, Holds (services index)) (index : Fin size) :
    Holds (move.apply services index) := by
  cases move with
  | compute => exact holds index
  | post target task =>
      rw [Move.apply, Function.update_apply]
      split
      · exact posts _ task (holds _)
      · exact holds index
  | resetWork target =>
      rw [Move.apply, Function.update_apply]
      split
      · exact resets _ (holds _)
      · exact holds index

theorem Move.left_apply {services : Fin size → Service Task Body}
    {move : Move size Task} {index : Fin size}
    (left : (services index).left = true) :
    (move.apply services index).left = true := by
  cases move with
  | compute => exact left
  | post target task =>
      by_cases same : index = getIoService size target
      · subst same
        rw [Move.apply, Function.update_self]
        exact left
      · rw [Move.apply, Function.update_of_ne same]
        exact left
  | resetWork target =>
      by_cases same : index = target
      · subst same
        rw [Move.apply, Function.update_self]
        exact Service.left_resetWork left
      · rw [Move.apply, Function.update_of_ne same]
        exact left

theorem Step.settled (taken : Step program state thread next)
    (settled : ∀ index, (state.services index).Settled) (index : Fin size) :
    (next.services index).Settled := by
  cases taken with
  | poll stays idle queued =>
      simp only [Function.update_apply]
      split
      · exact Service.settled_poll stays _ _
      · exact settled index
  | proceed stays runs advances =>
      refine Move.forall_apply (fun _ task holds => holds.post task)
        (fun _ holds => holds.resetWork) ?_ index
      intro other
      simp only [Function.update_apply]
      split
      · exact Service.settled_proceed stays _
      · exact settled other

theorem run_settled
    (settled : ∀ index, (start.services index).Settled)
    (run : (program.system start).Run start threads state) (index : Fin size) :
    (state.services index).Settled := by
  induction run generalizing index with
  | refl => exact settled index
  | snoc _ moved induction =>
      exact (step_eq_some_iff.mp moved).settled induction index

theorem Step.left (taken : Step program state thread next)
    {index : Fin size} (left : (state.services index).left = true) :
    thread ≠ index ∧ (next.services index).left = true := by
  have different : (state.services thread).left = false →
      index ≠ thread := by
    intro stays same
    rw [same, stays] at left
    cases left
  cases taken with
  | poll stays idle queued =>
      refine ⟨(different stays).symm, ?_⟩
      simp only [Function.update_of_ne (different stays)]
      exact left
  | proceed stays runs advances =>
      refine ⟨(different stays).symm, Move.left_apply ?_⟩
      rw [Function.update_of_ne (different stays)]
      exact left

/-- A thread that has left `run()` executes nothing any more, whatever is
posted to its `io_service`. -/
theorem run_left {index : Fin size}
    (left : (state.services index).left = true)
    (run : (program.system start).Run state threads finish) :
    index ∉ threads ∧ (finish.services index).left = true := by
  induction run with
  | refl => exact ⟨List.not_mem_nil, left⟩
  | snoc _ moved induction =>
      obtain ⟨absent, remains⟩ := induction
      obtain ⟨different, next⟩ := (step_eq_some_iff.mp moved).left remains
      refine ⟨?_, next⟩
      rw [List.mem_append, List.mem_singleton]
      rintro (earlier | last)
      · exact absent earlier
      · exact different last.symm

/-- A pool comes to rest when every thread has left or waits for a handler. -/
theorem halted_iff :
    (program.system start).Halted state ↔
      ∀ index, (state.services index).left = true ∨
        ((state.services index).running = none ∧
          (state.services index).queue = []) := by
  constructor
  · intro halted index
    have still := halted index
    cases stays : (state.services index).left with
    | true => exact .inl rfl
    | false =>
        right
        cases runs : (state.services index).running with
        | some body =>
            have taken : Step program state index _ :=
              .proceed stays runs rfl
            have moves := step_eq_some_iff.mpr taken
            exact absurd (moves.symm.trans still) (by simp)
        | none =>
            refine ⟨rfl, ?_⟩
            cases queued : (state.services index).queue with
            | nil => rfl
            | cons task rest =>
                have taken : Step program state index _ :=
                  .poll stays runs queued
                have moves := step_eq_some_iff.mpr taken
                exact absurd (moves.symm.trans still) (by simp)
  · intro rests thread
    cases moves : (program.system start).step state thread with
    | none => rfl
    | some next =>
        rcases rests thread with left | ⟨idle, empty⟩
        · exact absurd rfl ((step_eq_some_iff.mp moves).left left).1
        · cases step_eq_some_iff.mp moves with
          | poll stays _ queued =>
              rw [empty] at queued
              cases queued
          | proceed stays runs advances =>
              rw [idle] at runs
              cases runs

end Leaving

end AsioBenchmark.Pool
