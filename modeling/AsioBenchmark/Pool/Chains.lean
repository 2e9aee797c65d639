import AsioBenchmark.Pool.Services
import Mathlib.Data.List.Induction

/-!
# The chains of `posttask2`

Half as many tasks as threads are under way at a time, each between two
neighbouring threads.  All of them count in one atomic counter; the increment
and the comparison with `post_count_` are separate accesses.
-/

namespace AsioBenchmark.Pool

open AsioBenchmark.Transition

namespace Chains

/-- The lambda of `post` with the `thread_index` it has captured.  `chain` is
the round of the loop in `start()` that the task goes back to; no step depends
on it. -/
structure Task where
  threadIndex : Nat
  chain : Nat
deriving DecidableEq

/-- How far the body of a task has got. -/
inductive Stage where
  /-- At `++count_`. -/
  | incrementing
  /-- At the comparison of `count_` with `post_count_`. -/
  | testing
  /-- In `stop()`, at the assignment of `stop_time_`. -/
  | stopping
  /-- In the loop of `io_service_pool::stop()`. -/
  | resetting (index : Nat)
  /-- In the other branch: `thread_index` changes and is posted to. -/
  | posting
  /-- Behind the last statement of the body. -/
  | returning
deriving DecidableEq

structure Body where
  task : Task
  stage : Stage
deriving DecidableEq

/-- The neighbour that a task is posted to next. -/
def partner (threadIndex : Nat) : Nat :=
  if threadIndex % 2 ≠ 0 then threadIndex - 1 else threadIndex + 1

def Task.next (task : Task) : Task :=
  { task with threadIndex := partner task.threadIndex }

variable (threadCount : Nat) [NeZero threadCount]

omit [NeZero threadCount] in
/-- `post(thread_index)`. -/
def post (task : Task) : Move threadCount Task :=
  .post task.threadIndex task

def advance (postCount : UInt64) (body : Body) (count : UInt64) :
    UInt64 × Option Body × Move threadCount Task :=
  match body.stage with
  | .incrementing =>
      (count + 1, some { body with stage := .testing }, .compute)
  | .testing =>
      if postCount ≤ count then
        (count, some { body with stage := .stopping }, .compute)
      else (count, some { body with stage := .posting }, .compute)
  | .stopping => (count, some { body with stage := .resetting 0 }, .compute)
  | .resetting index =>
      if inside : index < threadCount then
        (count, some { body with stage := .resetting (index + 1) },
          .resetWork ⟨index, inside⟩)
      else (count, some { body with stage := .returning }, .compute)
  | .posting =>
      (count, some { body with stage := .returning },
        post threadCount body.task.next)
  | .returning => (count, none, .compute)

/-- `count_` is the only field that the tasks read and write. -/
def program (postCount : UInt64) : Program threadCount Task Body UInt64 where
  entry task :=
    { task := task
      stage := .incrementing }
  advance := advance threadCount postCount

/-- The task that round `chain` of the loop in `start()` posts. -/
def first (chain : Nat) : Task :=
  { threadIndex := chain * 2
    chain := chain }

/-- The services when `start()` has posted the tasks of so many rounds. -/
def startedServices : Nat → Fin threadCount → Service Task Body
  | 0 => fun _ => .working
  | rounds + 1 =>
      (post threadCount (first rounds)).apply (startedServices rounds)

def started : State threadCount Task Body UInt64 :=
  { services := startedServices threadCount (threadCount / 2)
    shared := 0 }

omit [NeZero threadCount] in
@[simp] theorem weigh_post (queued : Task → Nat) (task : Task) :
    (post threadCount task).weigh queued = queued task := rfl

/-- What an observer sees: `stop_time_` is assigned on a thread, and a work
object is reset from a thread. -/
inductive Event where
  | stopped (thread : Nat)
  | released (thread : Nat) (index : Nat)
deriving DecidableEq

def observe (state : State threadCount Task Body UInt64)
    (thread : Fin threadCount)
    (_next : State threadCount Task Body UInt64) : List Event :=
  match (state.services thread).running with
  | some ⟨_, .stopping⟩ => [.stopped thread]
  | some ⟨_, .resetting index⟩ =>
      if index < threadCount then [.released thread index] else []
  | _ => []

abbrev system (postCount : UInt64) :
    System (State threadCount Task Body UInt64) (Fin threadCount) :=
  (program threadCount postCount).system (started threadCount)

abbrev recorded (postCount : UInt64) :
    System (State threadCount Task Body UInt64 × List Event)
      (Fin threadCount) :=
  (system threadCount postCount).recording (observe threadCount)

/-- The calls of `stop()`. -/
def stops (events : List Event) : Nat :=
  events.countP fun
    | .stopped _ => true
    | .released _ _ => false

/-! ## What is counted -/

/-- A running handler of a chain that is not behind its last statement. -/
def ofChainBody (chain : Nat) : Option Body → Nat
  | none => 0
  | some ⟨_, .returning⟩ => 0
  | some ⟨task, _⟩ => if task.chain = chain then 1 else 0

/-- The tasks of one chain that are queued or in their bodies. -/
abbrev ofChain (chain : Nat) : Service Task Body → Nat :=
  Service.weigh (fun task => if task.chain = chain then 1 else 0)
    (ofChainBody chain)

def activeBody : Option Body → Nat
  | some ⟨_, .incrementing⟩ => 1
  | some ⟨_, .testing⟩ => 1
  | some ⟨_, .stopping⟩ => 1
  | some ⟨_, .posting⟩ => 1
  | _ => 0

/-- The tasks that have not called `stop()`. -/
abbrev active : Service Task Body → Nat :=
  Service.weigh (fun _ => 1) activeBody

def pendingBody : Option Body → Nat
  | some ⟨_, .incrementing⟩ => 1
  | some ⟨_, .posting⟩ => 1
  | _ => 0

/-- The tasks that increment the counter without another comparison. -/
abbrev pending : Service Task Body → Nat :=
  Service.weigh (fun _ => 1) pendingBody

def toDoBody : Option Body → Nat
  | none => 0
  | some ⟨_, .incrementing⟩ => 1
  | some ⟨_, .testing⟩ => threadCount + 4
  | some ⟨_, .stopping⟩ => threadCount + 3
  | some ⟨_, .resetting index⟩ => threadCount - index + 2
  | some ⟨_, .posting⟩ => 4
  | some ⟨_, .returning⟩ => 1

/-- Steps that the handlers still make before the next increment. -/
abbrev toDo : Service Task Body → Nat :=
  Service.weigh (fun _ => 2) (toDoBody threadCount)

/-- The value of the counter from which on a comparison succeeds. -/
def threshold (postCount : UInt64) : Nat := max postCount.toNat 1

def rank (postCount : UInt64)
    (state : State threadCount Task Body UInt64) : Nat :=
  (threshold postCount + threadCount / 2 - state.shared.toNat) *
      (threadCount + 4) +
    total (toDo threadCount) state.services

/-- One statement of a body. -/
inductive Statement (postCount : UInt64) (task : Task) (count : UInt64) :
    Stage → UInt64 → Option Body → Move threadCount Task → Prop where
  | increments :
      Statement postCount task count .incrementing (count + 1)
        (some ⟨task, .testing⟩) .compute
  | reaches (reached : postCount ≤ count) :
      Statement postCount task count .testing count
        (some ⟨task, .stopping⟩) .compute
  | misses (below : ¬postCount ≤ count) :
      Statement postCount task count .testing count
        (some ⟨task, .posting⟩) .compute
  | stops :
      Statement postCount task count .stopping count
        (some ⟨task, .resetting 0⟩) .compute
  | releases {index : Nat} (inside : index < threadCount) :
      Statement postCount task count (.resetting index) count
        (some ⟨task, .resetting (index + 1)⟩) (.resetWork ⟨index, inside⟩)
  | released {index : Nat} (outside : ¬index < threadCount) :
      Statement postCount task count (.resetting index) count
        (some ⟨task, .returning⟩) .compute
  | posts :
      Statement postCount task count .posting count
        (some ⟨task, .returning⟩) (post threadCount task.next)
  | returns :
      Statement postCount task count .returning count none .compute

section Invariants

variable {threadCount} {postCount count shared : UInt64} {task : Task}
  {stage : Stage} {next : Option Body} {move : Move threadCount Task}
  {state after : State threadCount Task Body UInt64}
  {thread : Fin threadCount} {calls : Nat}

omit [NeZero threadCount] in
theorem advance_eq_iff :
    advance threadCount postCount ⟨task, stage⟩ count =
        (shared, next, move) ↔
      Statement threadCount postCount task count stage shared next move := by
  constructor
  · intro advances
    cases stage with
    | incrementing =>
        cases advances
        exact .increments
    | testing =>
        simp only [advance] at advances
        split at advances
        · rename_i reached
          cases advances
          exact .reaches reached
        · rename_i below
          cases advances
          exact .misses below
    | stopping =>
        cases advances
        exact .stops
    | resetting index =>
        simp only [advance] at advances
        split at advances
        · rename_i inside
          cases advances
          exact .releases inside
        · rename_i outside
          cases advances
          exact .released outside
    | posting =>
        cases advances
        exact .posts
    | returning =>
        cases advances
        exact .returns
  · intro statement
    cases statement with
    | increments => rfl
    | reaches reached => exact if_pos reached
    | misses below => exact if_neg below
    | stops => rfl
    | releases inside => exact dif_pos inside
    | released outside => exact dif_neg outside
    | posts => rfl
    | returns => rfl

theorem Statement.step
    (statement : Statement threadCount postCount task state.shared stage
      shared next move)
    (stays : (state.services thread).left = false)
    (runs : (state.services thread).running = some ⟨task, stage⟩) :
    Step (program threadCount postCount) state thread
      { services := move.apply (Function.update state.services thread
          ((state.services thread).proceed next))
        shared := shared } :=
  .proceed stays runs (advance_eq_iff.mpr statement)

/-! ## Where the tasks are -/

/-- A task is on the service it was posted to, and its chain owns that
service. -/
structure Home (index : Fin threadCount) (task : Task) : Prop where
  threadIndex : task.threadIndex = index.val
  chain : task.chain = index.val / 2

structure Placed (state : State threadCount Task Body UInt64) : Prop where
  queued : ∀ index, ∀ task ∈ (state.services index).queue, Home index task
  running : ∀ index body, (state.services index).running = some body →
    Home index body.task
  single : ∀ chain, total (ofChain chain) state.services ≤ 1

omit [NeZero threadCount] in
/-- The neighbours with numbers `2 * chain` and `2 * chain + 1` post to each
other. -/
theorem partner_home {index : Fin threadCount}
    (even : threadCount % 2 = 0) (home : Home index task) :
    task.next.threadIndex < threadCount ∧
      task.next.threadIndex / 2 = index.val / 2 := by
  have inside := index.isLt
  simp only [Task.next, partner, home.threadIndex]
  split
  · omega
  · omega

theorem Home.partner (even : threadCount % 2 = 0) {index : Fin threadCount}
    (home : Home index task) :
    Home (getIoService threadCount task.next.threadIndex) task.next := by
  obtain ⟨inside, same⟩ := partner_home even home
  refine ⟨?_, ?_⟩
  · exact (Nat.mod_eq_of_lt inside).symm
  · change task.chain = task.next.threadIndex % threadCount / 2
    rw [Nat.mod_eq_of_lt inside, same, home.chain]

theorem Placed.step (even : threadCount % 2 = 0) (placed : Placed state)
    (taken : Step (program threadCount postCount) state thread after) :
    Placed after := by
  cases taken with
  | @poll task rest stays idle queued =>
      have home : Home thread task := placed.queued thread task (by
        rw [queued]
        exact List.mem_cons_self)
      refine ⟨?_, ?_, ?_⟩
      · intro index other member
        rw [queue_begin] at member
        split at member
        · rename_i same
          subst same
          apply placed.queued
          rw [queued]
          exact List.mem_cons_of_mem _ member
        · exact placed.queued index other member
      · exact forall_running_begin placed.running home
      · intro chain
        have changed := total_weigh_begin
          (fun task => if task.chain = chain then 1 else 0)
          (ofChainBody chain) ⟨task, .incrementing⟩
          queued idle
        have single := placed.single chain
        simp only [ofChain, ofChainBody, program] at changed single ⊢
        omega
  | @proceed body shared next move stays runs advances =>
      obtain ⟨task, stage⟩ := body
      have home : Home thread task := placed.running thread _ runs
      have statement := advance_eq_iff.mp advances
      refine ⟨?_, ?_, ?_⟩
      · intro index other member
        rw [queue_proceed, List.mem_append] at member
        rcases member with before | posted
        · exact placed.queued index other before
        · cases statement with
          | posts =>
              simp only [post, Move.postedTo] at posted
              split at posted
              · rename_i same
                obtain rfl := List.mem_singleton.mp posted
                rw [same]
                exact home.partner even
              · cases posted
          | _ => cases posted
      · refine forall_running_proceed placed.running ?_
        intro body same
        cases statement with
        | returns => cases same
        | _ =>
            cases same
            exact home
      · intro chain
        have changed := total_weigh_proceed
          (fun task : Task => if task.chain = chain then 1 else 0)
          (ofChainBody chain) state.services thread move next
        have single := placed.single chain
        rw [runs] at changed
        cases statement <;>
          simp only [ofChain, ofChainBody, Move.weigh_compute,
            Move.weigh_resetWork, weigh_post, Task.next]
            at changed single ⊢ <;>
          omega

/-! ## The counter -/

/-- Every increment at or above the threshold is that of a pending task, and
the comparison after it fails to make the task pending again. -/
structure Counted (postCount : UInt64)
    (state : State threadCount Task Body UInt64) (calls : Nat) : Prop where
  conserved : total active state.services + calls = threadCount / 2
  overshoot : state.shared.toNat < threshold postCount ∨
    state.shared.toNat + total pending state.services + 1 ≤
      threshold postCount + threadCount / 2
  tested : ∀ index body, (state.services index).running = some body →
    body.stage = .testing → 1 ≤ state.shared.toNat
  stopping : ∀ index body, (state.services index).running = some body →
    body.stage = .stopping → threshold postCount ≤ state.shared.toNat
  stopped : 0 < calls → threshold postCount ≤ state.shared.toNat

omit [NeZero threadCount] in
theorem le_iff_threshold (positive : 1 ≤ count.toNat) :
    postCount ≤ count ↔ threshold postCount ≤ count.toNat := by
  rw [UInt64.le_iff_toNat_le, threshold]
  omega

/-- The calls of `stop()` in a step. -/
def called : Stage → Nat
  | .stopping => 1
  | _ => 0

omit [NeZero threadCount] in
theorem stops_observe
    (runs : (state.services thread).running = some ⟨task, stage⟩) :
    stops (observe threadCount state thread after) = called stage := by
  rw [observe, runs]
  cases stage with
  | resetting index =>
      simp only
      split
      · rfl
      · rfl
  | _ => rfl

omit [NeZero threadCount] in
theorem stops_observe_idle
    (idle : (state.services thread).running = none) :
    stops (observe threadCount state thread after) = 0 := by
  rw [observe, idle]
  rfl

omit [NeZero threadCount] in
theorem Statement.active
    (statement : Statement threadCount postCount task count stage shared
      next move) :
    activeBody next + move.weigh (fun _ => 1) + called stage =
      activeBody (some ⟨task, stage⟩) := by
  cases statement <;> rfl

theorem pending_le_active (service : Service Task Body) :
    pending service ≤ active service := by
  apply Nat.add_le_add_left
  match service.running with
  | none => exact Nat.le_refl _
  | some ⟨_, stage⟩ => cases stage <;> simp [pendingBody, activeBody]

omit [NeZero threadCount] in
/-- A task that increments is below the number of tasks, so the counter does
not wrap. -/
theorem Counted.increment (counted : Counted postCount state calls)
    (room : threshold postCount + threadCount / 2 ≤ 18446744073709551616)
    (runs : (state.services thread).running =
      some ⟨task, .incrementing⟩) :
    (state.shared + 1).toNat = state.shared.toNat + 1 := by
  have isActive : 1 ≤ active (state.services thread) := by
    rw [active, Service.weigh, runs]
    exact Nat.le_add_left 1 _
  have isPending : 1 ≤ pending (state.services thread) := by
    rw [pending, Service.weigh, runs]
    exact Nat.le_add_left 1 _
  have actives := le_total active state.services thread
  have pendings := le_total pending state.services thread
  have conserved := counted.conserved
  rw [UInt64.toNat_add, UInt64.toNat_one]
  apply Nat.mod_eq_of_lt
  change _ < 18446744073709551616
  rcases counted.overshoot with below | bounded
  · omega
  · omega

omit [NeZero threadCount] in
theorem Counted.begins (counted : Counted postCount state calls)
    {rest : List Task}
    (queued : (state.services thread).queue = task :: rest)
    (idle : (state.services thread).running = none) :
    Counted postCount
      { state with
        services := Function.update state.services thread
          ((state.services thread).poll ⟨task, .incrementing⟩ rest) }
      calls := by
  have actives := total_weigh_begin (fun _ => 1) activeBody
    ⟨task, .incrementing⟩ queued idle
  have pendings := total_weigh_begin (fun _ => 1) pendingBody
    ⟨task, .incrementing⟩ queued idle
  have conserved := counted.conserved
  have overshoot := counted.overshoot
  simp only [active, pending, activeBody, pendingBody]
    at actives pendings conserved overshoot
  refine ⟨?_, ?_, ?_, ?_, counted.stopped⟩
  · simp only [active]
    omega
  · simp only [pending]
    omega
  · exact forall_running_begin counted.tested (by simp)
  · exact forall_running_begin counted.stopping (by simp)

theorem Counted.proceeds (counted : Counted postCount state calls)
    (room : threshold postCount + threadCount / 2 ≤ 18446744073709551616)
    (runs : (state.services thread).running = some ⟨task, stage⟩)
    (statement : Statement threadCount postCount task state.shared stage
      shared next move) :
    Counted postCount
      { services := move.apply (Function.update state.services thread
          ((state.services thread).proceed next))
        shared := shared }
      (calls + called stage) := by
  have actives := total_weigh_proceed (fun _ : Task => 1) activeBody
    state.services thread move next
  have pendings := total_weigh_proceed (fun _ : Task => 1) pendingBody
    state.services thread move next
  have conserved := counted.conserved
  have overshoot := counted.overshoot
  have balance := statement.active
  rw [runs] at actives pendings
  simp only [active, pending] at conserved overshoot
  have grows : state.shared.toNat ≤ shared.toNat := by
    cases statement with
    | increments =>
        rw [counted.increment room runs]
        exact Nat.le_succ _
    | _ => exact Nat.le_refl _
  refine ⟨?_, ?_, ?_, ?_, ?_⟩
  · simp only [active]
    omega
  · simp only [pending]
    cases statement with
    | increments =>
        have value := counted.increment room runs
        have fewer : total pending state.services ≤
            total active state.services :=
          total_mono fun index => pending_le_active _
        simp only [pendingBody, Move.weigh_compute] at pendings
        simp only [pending, active] at fewer
        omega
    | misses below =>
        have positive := counted.tested thread _ runs rfl
        rw [le_iff_threshold positive] at below
        exact .inl (Nat.lt_of_not_le below)
    | _ =>
        simp only [pendingBody, Move.weigh_compute, Move.weigh_resetWork,
          weigh_post] at pendings
        omega
  · refine forall_running_proceed (fun index body busy testing =>
      Nat.le_trans (counted.tested index body busy testing) grows) ?_
    intro body same testing
    cases statement with
    | increments =>
        rw [counted.increment room runs]
        exact Nat.le_add_left 1 _
    | _ => cases same <;> cases testing
  · refine forall_running_proceed (fun index body busy stopping =>
      Nat.le_trans (counted.stopping index body busy stopping) grows) ?_
    intro body same stopping
    cases statement with
    | reaches reached =>
        have positive := counted.tested thread _ runs rfl
        exact (le_iff_threshold positive).mp reached
    | _ => cases same <;> cases stopping
  · intro positive
    refine Nat.le_trans ?_ grows
    cases stage with
    | stopping => exact counted.stopping thread _ runs rfl
    | _ => exact counted.stopped positive

end Invariants

end Chains

end AsioBenchmark.Pool
