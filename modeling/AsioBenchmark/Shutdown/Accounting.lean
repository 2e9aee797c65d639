import AsioBenchmark.Shutdown.Program
import Mathlib.Data.List.Nodup

/-!
# Where the stop tasks are

A stop task is still to be posted, or queued, or executed, and a work object is
there as long as it is still to be reset.  Each step moves a task on, or leaves
it where it is.
-/

namespace AsioBenchmark.Shutdown

open AsioBenchmark.Transition

section Accounting

variable {threadCount sessionCount : Nat} [NeZero threadCount]
  {Session Event Handler : Type}

namespace Task

variable (task : Task sessionCount Handler)

def isTimer : Task sessionCount Handler → Bool
  | .timer => true
  | .stop _ => false
  | .handler _ _ => false

def stops (session : Fin sessionCount) : Task sessionCount Handler → Bool
  | .timer => false
  | .stop stopped => decide (stopped = session)
  | .handler _ _ => false

@[simp] theorem stops_timer (session : Fin sessionCount) :
    (timer : Task sessionCount Handler).stops session = false := rfl
@[simp] theorem stops_stop (stopped session : Fin sessionCount) :
    (stop stopped : Task sessionCount Handler).stops session =
      decide (stopped = session) := rfl
@[simp] theorem stops_handler (other session : Fin sessionCount)
    (handler : Handler) :
    (Task.handler other handler).stops session = false := rfl

/-- The thread that executes a task. -/
def thread : Task sessionCount Handler → Fin threadCount
  | .timer => first
  | .stop session => home session
  | .handler session _ => home session

end Task

omit [NeZero threadCount] in
private theorem timerHandler_nodup :
    (timerHandler : List (TimerAction threadCount sessionCount)).Nodup := by
  refine List.Nodup.append ?_ ?_ ?_
  · apply List.Nodup.map _ (List.nodup_finRange threadCount)
    intro left right same
    exact TimerAction.reset.inj same
  · apply List.Nodup.map _ (List.nodup_finRange sessionCount)
    intro left right same
    exact TimerAction.stop.inj same
  · intro action resets stops
    obtain ⟨thread, _, isReset⟩ := List.mem_map.mp resets
    obtain ⟨session, _, isStop⟩ := List.mem_map.mp stops
    rw [← isStop] at isReset
    cases isReset

omit [NeZero threadCount] in
/-- The timer's handler does everything once. -/
theorem count_timerHandler (action : TimerAction threadCount sessionCount) :
    timerHandler.count action = 1 := by
  apply List.count_eq_one_of_mem timerHandler_nodup
  cases action with
  | reset thread => simp [timerHandler]
  | stop session => simp [timerHandler]

namespace State

variable (client : Client Session Event Handler)
  (state : State threadCount sessionCount Session Handler)

/-- 1 until the timer's handler begins. -/
def unfired : Nat :=
  (if state.armed = true then 1 else 0) +
    (state.queues first).countP Task.isTimer

/-- How often the timer's handler will still do an action. -/
def remaining (action : TimerAction threadCount sessionCount) : Nat :=
  state.unfired + (state.timer.getD []).count action

def queued (session : Fin sessionCount) : Nat :=
  (state.queues (home session)).countP (Task.stops session)

omit [NeZero threadCount] in
theorem countP_post (count : Task sessionCount Handler → Bool)
    (target thread : Fin threadCount) (task : Task sessionCount Handler) :
    ((state.post target task).queues thread).countP count =
      (state.queues thread).countP count +
        if thread = target ∧ count task = true then 1 else 0 := by
  by_cases same : thread = target
  · subst same
    simp [post]
  · simp [post, same]

variable {state} in
omit [NeZero threadCount] in
theorem countP_pop {target : Fin threadCount}
    {task : Task sessionCount Handler} {rest : List (Task sessionCount Handler)}
    (queue : state.queues target = task :: rest)
    (count : Task sessionCount Handler → Bool) (thread : Fin threadCount) :
    ((state.pop target rest).queues thread).countP count +
        (if thread = target ∧ count task = true then 1 else 0) =
      (state.queues thread).countP count := by
  by_cases same : thread = target
  · subst same
    simp [pop, queue, List.countP_cons]
  · simp [pop, same]

/-- A queue holds only tasks of its thread. -/
def Located : Prop :=
  ∀ thread, ∀ task ∈ state.queues thread, task.thread = thread

section Front

variable {state} {thread : Fin threadCount}
  {rest : List (Task sessionCount Handler)} (located : state.Located)

include located

theorem Located.timer (queue : state.queues thread = .timer :: rest) :
    first = thread :=
  located thread .timer (queue ▸ List.mem_cons_self)

theorem Located.stop {session : Fin sessionCount}
    (queue : state.queues thread = .stop session :: rest) :
    home session = thread :=
  located thread (.stop session) (queue ▸ List.mem_cons_self)

theorem Located.handler {session : Fin sessionCount} {handler : Handler}
    (queue : state.queues thread = .handler session handler :: rest) :
    home session = thread :=
  located thread (.handler session handler) (queue ▸ List.mem_cons_self)

end Front

variable {client state} {next : State threadCount sessionCount Session Handler}
  {label : Label threadCount sessionCount Event}

theorem Located.posted (located : state.Located) {target : Fin threadCount}
    {task : Task sessionCount Handler} (place : task.thread = target) :
    (state.post target task).Located := by
  intro thread other member
  by_cases same : thread = target
  · subst same
    simp only [post, Function.update_self, List.mem_append,
      List.mem_singleton] at member
    rcases member with old | new
    · exact located thread other old
    · subst new
      exact place
  · simp only [post, Function.update_of_ne same] at member
    exact located thread other member

theorem Located.popped (located : state.Located) {target : Fin threadCount}
    {task : Task sessionCount Handler} {rest : List (Task sessionCount Handler)}
    (queue : state.queues target = task :: rest) :
    (state.pop target rest).Located := by
  intro thread other member
  by_cases same : thread = target
  · subst same
    simp only [pop, Function.update_self] at member
    apply located thread other
    rw [queue]
    exact List.mem_cons_of_mem task member
  · simp only [pop, Function.update_of_ne same] at member
    exact located thread other member

theorem located_step (step : Step client state label next)
    (located : state.Located) : next.Located := by
  cases step with
  | expire armed => exact located.posted rfl
  | @answer session event after handler runs network =>
      have moved : (state.setSession session after).Located := located
      exact moved.posted rfl
  | transfer runs network => exact located
  | reset runs timer => exact located
  | post runs timer => exact located.posted rfl
  | leave runs timer => exact located
  | enter runs free queue => exact located.popped queue
  | stop runs free queue => exact located.popped queue
  | handle runs free queue handles => exact located.popped queue
  | throws runs free queue handles => exact located.popped queue

theorem unfired_post (state : State threadCount sessionCount Session Handler)
    (target : Fin threadCount) {task : Task sessionCount Handler}
    (other : task.isTimer = false) :
    (state.post target task).unfired = state.unfired := by
  have counted := countP_post state Task.isTimer target first task
  rw [if_neg (by simp [other]), Nat.add_zero] at counted
  unfold unfired
  rw [counted]
  rfl

theorem unfired_pop {target : Fin threadCount}
    {task : Task sessionCount Handler} {rest : List (Task sessionCount Handler)}
    (queue : state.queues target = task :: rest)
    (other : task.isTimer = false) :
    (state.pop target rest).unfired = state.unfired := by
  have counted := countP_pop queue Task.isTimer first
  rw [if_neg (by simp [other]), Nat.add_zero] at counted
  unfold unfired
  rw [← counted]
  rfl

section Remaining

variable (state) (action : TimerAction threadCount sessionCount)

theorem remaining_expire (armed : state.armed = true) :
    ({ state with armed := false }.post first .timer).remaining action =
      state.remaining action := by
  have counted := countP_post state Task.isTimer first first .timer
  rw [if_pos ⟨rfl, rfl⟩] at counted
  have unfired : ({ state with armed := false }.post first .timer).unfired =
      state.unfired := by
    calc
      _ = 0 + ((state.post first .timer).queues first).countP Task.isTimer :=
        rfl
      _ = state.unfired := by
        rw [counted, State.unfired, if_pos armed]
        omega
  unfold remaining
  rw [unfired]
  rfl

theorem remaining_post (target : Fin threadCount)
    {task : Task sessionCount Handler} (other : task.isTimer = false) :
    (state.post target task).remaining action = state.remaining action := by
  unfold remaining
  rw [unfired_post state target other]
  rfl

variable {state}

theorem remaining_act {done : TimerAction threadCount sessionCount}
    {rest : List (TimerAction threadCount sessionCount)}
    (timer : state.timer = some (done :: rest)) :
    { state with timer := some rest }.remaining action +
        (if done = action then 1 else 0) = state.remaining action := by
  unfold remaining
  rw [timer]
  simp only [Option.getD_some, List.count_cons, beq_iff_eq]
  exact Nat.add_assoc _ _ _

theorem remaining_leave (timer : state.timer = some []) :
    { state with timer := none }.remaining action =
      state.remaining action := by
  unfold remaining
  rw [timer]
  rfl

theorem remaining_enter {rest : List (Task sessionCount Handler)}
    (free : state.timer = none)
    (queue : state.queues first = .timer :: rest) :
    ({ state with timer := some timerHandler }.pop first rest).remaining
        action =
      state.remaining action := by
  have counted := countP_pop queue Task.isTimer first
  rw [if_pos ⟨rfl, rfl⟩] at counted
  calc
    _ = (if state.armed = true then 1 else 0) +
          ((state.pop first rest).queues first).countP Task.isTimer +
        timerHandler.count action := rfl
    _ = state.unfired + 0 := by
      rw [count_timerHandler, State.unfired, ← counted]
      rfl
    _ = state.remaining action := by
      unfold remaining
      rw [free]
      rfl

theorem remaining_pop {target : Fin threadCount}
    {task : Task sessionCount Handler} {rest : List (Task sessionCount Handler)}
    (queue : state.queues target = task :: rest)
    (other : task.isTimer = false) :
    (state.pop target rest).remaining action = state.remaining action := by
  unfold remaining
  rw [unfired_pop queue other]
  rfl

end Remaining

variable (state) in
theorem queued_post (target : Fin threadCount)
    (task : Task sessionCount Handler) (session : Fin sessionCount) :
    (state.post target task).queued session =
      state.queued session +
        if home session = target ∧ task.stops session = true then 1 else 0 :=
  countP_post state (Task.stops session) target (home session) task

theorem queued_pop {target : Fin threadCount}
    {task : Task sessionCount Handler} {rest : List (Task sessionCount Handler)}
    (queue : state.queues target = task :: rest)
    (session : Fin sessionCount) :
    (state.pop target rest).queued session +
        (if home session = target ∧ task.stops session = true then 1 else 0) =
      state.queued session :=
  countP_pop queue (Task.stops session) (home session)

/-- One step moves a stop task on, or leaves it where it is. -/
theorem accounted_step (step : Step client state label next)
    (located : state.Located)
    (session : Fin sessionCount) :
    next.remaining (.stop session) + next.queued session +
        next.executed session =
      state.remaining (.stop session) + state.queued session +
        state.executed session := by
  cases step with
  | expire armed =>
      have queued := queued_post { state with armed := false } first .timer
        session
      rw [remaining_expire state _ armed, queued, if_neg (by simp)]
      rfl
  | @answer other event after handler runs network =>
      have queued := queued_post (state.setSession other after) (home other)
        (.handler other handler) session
      rw [remaining_post _ _ _ rfl, queued, if_neg (by simp)]
      rfl
  | transfer runs network => rfl
  | @reset thread rest runs timer =>
      have remaining := remaining_act (.stop session) timer
      rw [if_neg (by simp)] at remaining
      rw [← remaining]
      rfl
  | @post other rest runs timer =>
      have remaining := remaining_act (.stop session) timer
      have queued := queued_post { state with timer := some rest }
        (home other) (.stop other) session
      rw [remaining_post _ _ _ rfl, queued, ← remaining]
      by_cases same : other = session
      · subst same
        rw [if_pos rfl, if_pos ⟨rfl, by simp⟩]
        simp only [State.queued, State.post]
        omega
      · rw [if_neg (by simp [same]), if_neg (by simp [same])]
        rfl
  | leave runs timer =>
      rw [← remaining_leave (.stop session) timer]
      rfl
  | enter runs free queue =>
      have isFirst := located.timer queue
      subst isFirst
      have queued := queued_pop queue session
      rw [if_neg (by simp), Nat.add_zero] at queued
      rw [remaining_enter _ (free rfl) queue, ← queued]
      rfl
  | @stop thread other rest runs free queue =>
      have place : home other = thread := located.stop queue
      have remaining := remaining_pop (.stop session) queue rfl
      have queued := queued_pop queue session
      calc
        _ = (state.pop thread rest).remaining (.stop session) +
              (state.pop thread rest).queued session +
            Function.update state.executed other (state.executed other + 1)
              session := rfl
        _ = _ := by
          by_cases same : session = other
          · subst same
            rw [if_pos ⟨place, by simp⟩] at queued
            rw [Function.update_self, remaining, ← queued]
            omega
          · rw [if_neg (by simp [Ne.symm same]), Nat.add_zero] at queued
            rw [Function.update_of_ne same, remaining, queued]
  | handle runs free queue handles =>
      rw [← remaining_pop (.stop session) queue rfl, ← queued_pop queue session,
        if_neg (by simp)]
      rfl
  | throws runs free queue handles =>
      rw [← remaining_pop (.stop session) queue rfl, ← queued_pop queue session,
        if_neg (by simp)]
      rfl

theorem working_step (step : Step client state label next)
    (located : state.Located) {thread : Fin threadCount}
    (working : state.remaining (.reset thread) =
      if state.work thread = true then 1 else 0) :
    next.remaining (.reset thread) =
      if next.work thread = true then 1 else 0 := by
  cases step with
  | expire armed => exact (remaining_expire state _ armed).trans working
  | answer runs network => exact (remaining_post _ _ _ rfl).trans working
  | transfer runs network => exact working
  | @reset other rest runs timer =>
      have remaining := remaining_act (.reset thread) timer
      calc
        _ = { state with timer := some rest }.remaining (.reset thread) := rfl
        _ = if Function.update state.work other false thread = true
              then 1 else 0 := by
          by_cases same : thread = other
          · subst same
            rw [if_pos rfl] at remaining
            rw [Function.update_self, if_neg Bool.false_ne_true]
            split at working <;> omega
          · rw [if_neg (by simp [Ne.symm same]), Nat.add_zero] at remaining
            rw [Function.update_of_ne same, remaining, working]
  | post runs timer =>
      have remaining := remaining_act (.reset thread) timer
      rw [if_neg (by simp), Nat.add_zero] at remaining
      exact (remaining_post _ _ _ rfl).trans (remaining.trans working)
  | leave runs timer => exact (remaining_leave _ timer).trans working
  | @enter other rest runs free queue =>
      have place : first = other := located.timer queue
      subst place
      exact (remaining_enter _ (free rfl) queue).trans working
  | stop runs free queue => exact (remaining_pop _ queue rfl).trans working
  | handle runs free queue handles =>
      exact (remaining_pop _ queue rfl).trans working
  | throws runs free queue handles =>
      exact (remaining_pop _ queue rfl).trans working

end State

end Accounting

end AsioBenchmark.Shutdown
