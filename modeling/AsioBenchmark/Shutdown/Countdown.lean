import AsioBenchmark.Shutdown.Turns

/-!
# The timer's handler returns

When the timer has expired, its handler waits behind finitely many tasks of the
first thread and has finitely many actions.  Nothing that the other threads do
makes it wait longer.
-/

namespace AsioBenchmark.Shutdown

open AsioBenchmark.Transition

section Countdown

variable {threadCount sessionCount : Nat} [NeZero threadCount]
  {Session Event Handler : Type}

def Label.runs (thread : Fin threadCount) :
    Label threadCount sessionCount Event → Bool
  | .expire => false
  | .network _ _ => false
  | .run other => decide (other = thread)

/-- The tasks in front of each timer of the queue, and `amount` for the timer
itself. -/
def ahead (amount : Nat) : List (Task sessionCount Handler) → Nat
  | [] => 0
  | task :: rest =>
      (if task.isTimer = true then amount else 0) +
        rest.countP Task.isTimer + ahead amount rest

theorem ahead_snoc {amount : Nat} {task : Task sessionCount Handler}
    (other : task.isTimer = false) (tasks : List (Task sessionCount Handler)) :
    ahead amount (tasks ++ [task]) = ahead amount tasks := by
  induction tasks with
  | nil => simp [ahead, other]
  | cons head rest induction => simp [ahead, induction, other]

theorem ahead_eq_zero_iff {amount : Nat} (positive : 0 < amount)
    {tasks : List (Task sessionCount Handler)} :
    ahead amount tasks = 0 ↔ tasks.countP Task.isTimer = 0 := by
  induction tasks with
  | nil => simp [ahead]
  | cons head rest induction =>
      simp only [ahead, Nat.add_eq_zero_iff, induction, List.countP_cons]
      split
      · omega
      · simp

theorem ahead_cons {amount : Nat} (positive : 0 < amount)
    {task : Task sessionCount Handler} {rest : List (Task sessionCount Handler)}
    (other : task.isTimer = false) :
    ahead amount rest ≤ ahead amount (task :: rest) - 1 := by
  have empty : ahead amount rest = 0 ↔ rest.countP Task.isTimer = 0 :=
    ahead_eq_zero_iff positive
  simp only [ahead, other, Bool.false_eq_true, if_false]
  omega

namespace State

variable {client : Client Session Event Handler}
  {state next : State threadCount sessionCount Session Handler}
  {label : Label threadCount sessionCount Event}

variable (state) in
/-- How many steps of the first thread are left until the timer's handler has
returned. -/
def distance : Nat :=
  (state.timer.elim 0 fun rest => rest.length + 1) +
    ahead (threadCount + sessionCount + 2) (state.queues first)

theorem posted_of_distance (unarmed : state.armed = false)
    (arrived : state.distance = 0) : state.Posted := by
  obtain ⟨idle, empty⟩ := Nat.add_eq_zero_iff.mp arrived
  constructor
  · rw [State.unfired, if_neg (by simp [unarmed]),
      (ahead_eq_zero_iff (by omega)).mp empty]
  · cases timer : state.timer with
    | none => rfl
    | some rest => simp [timer] at idle

theorem distance_post (target : Fin threadCount)
    {task : Task sessionCount Handler} (other : task.isTimer = false) :
    (state.post target task).distance = state.distance := by
  unfold distance
  by_cases same : first = target
  · subst same
    simp [post, ahead_snoc other]
  · simp [post, same]

theorem distance_pop {target : Fin threadCount}
    {task : Task sessionCount Handler} {rest : List (Task sessionCount Handler)}
    (queue : state.queues target = task :: rest)
    (free : target = first → state.timer = none)
    (other : task.isTimer = false) :
    (state.pop target rest).distance ≤
      state.distance - if target = first then 1 else 0 := by
  unfold distance
  by_cases same : target = first
  · subst same
    have shorter : ahead (threadCount + sessionCount + 2) rest ≤
        ahead (threadCount + sessionCount + 2) (task :: rest) - 1 :=
      ahead_cons (by omega) other
    simpa [pop, queue, free rfl] using shorter
  · simp [pop, same, Ne.symm same]

theorem distance_act {action : TimerAction threadCount sessionCount}
    {rest : List (TimerAction threadCount sessionCount)}
    (timer : state.timer = some (action :: rest)) :
    { state with timer := some rest }.distance < state.distance := by
  simp [distance, timer]

theorem distance_leave (timer : state.timer = some []) :
    { state with timer := none }.distance < state.distance := by
  simp [distance, timer]

omit [NeZero threadCount] in
theorem length_timerHandler :
    (timerHandler : List (TimerAction threadCount sessionCount)).length =
      threadCount + sessionCount := by
  simp [timerHandler]

theorem distance_enter {rest : List (Task sessionCount Handler)}
    (free : state.timer = none)
    (queue : state.queues first = .timer :: rest) :
    ({ state with timer := some timerHandler }.pop first rest).distance <
      state.distance := by
  simp [distance, free, queue, pop, ahead, Task.isTimer, length_timerHandler]
  omega

theorem distance_step (step : Step client state label next)
    (located : state.Located)
    (unarmed : state.armed = false) :
    next.armed = false ∧
      next.distance ≤
        state.distance - if label.runs first = true then 1 else 0 := by
  cases step with
  | expire armed => simp [armed] at unarmed
  | answer runs network =>
      exact ⟨unarmed, Nat.le_of_eq (distance_post _ rfl)⟩
  | transfer runs network => exact ⟨unarmed, Nat.le_refl _⟩
  | reset runs timer =>
      have acted := distance_act timer
      refine ⟨unarmed, ?_⟩
      simp only [Label.runs, decide_true, if_true]
      exact Nat.le_sub_one_of_lt acted
  | @post session rest runs timer =>
      have acted := distance_act timer
      have posted : ({ state with timer := some rest }.post (home session)
          (.stop session)).distance = { state with timer := some rest }.distance
        := distance_post (home session) rfl
      refine ⟨unarmed, ?_⟩
      rw [posted]
      simp only [Label.runs, decide_true, if_true]
      exact Nat.le_sub_one_of_lt acted
  | leave runs timer =>
      refine ⟨unarmed, ?_⟩
      simp only [Label.runs, decide_true, if_true]
      exact Nat.le_sub_one_of_lt (distance_leave timer)
  | @enter target rest runs free queue =>
      have place : first = target := located.timer queue
      subst place
      refine ⟨unarmed, ?_⟩
      simp only [Label.runs, decide_true, if_true]
      exact Nat.le_sub_one_of_lt (distance_enter (free rfl) queue)
  | stop runs free queue =>
      refine ⟨unarmed, ?_⟩
      simp only [Label.runs, decide_eq_true_eq]
      exact distance_pop queue free rfl
  | handle runs free queue handles =>
      refine ⟨unarmed, ?_⟩
      simp only [Label.runs, decide_eq_true_eq]
      exact distance_pop queue free rfl
  | throws runs free queue handles =>
      refine ⟨unarmed, ?_⟩
      simp only [Label.runs, decide_eq_true_eq]
      exact distance_pop queue free rfl

end State

section Run

variable {client : Client Session Event Handler}
  {sessions : Fin sessionCount → Session}
  {start finish : State threadCount sessionCount Session Handler}
  {labels : List (Label threadCount sessionCount Event)}
  (located : start.Located) (unarmed : start.armed = false)
  (run : (client.system sessions).Run start labels finish)

include located unarmed run

theorem distance_run :
    finish.Located ∧ finish.armed = false ∧
      finish.distance ≤
        start.distance - labels.countP (Label.runs first) := by
  induction run with
  | refl => exact ⟨located, unarmed, by simp⟩
  | snoc before taken induction =>
      obtain ⟨locatedBefore, unarmedBefore, near⟩ := induction
      have step := State.step_cases taken
      obtain ⟨unarmedAfter, nearer⟩ :=
        State.distance_step step locatedBefore unarmedBefore
      refine ⟨State.located_step step locatedBefore, unarmedAfter, ?_⟩
      rw [List.countP_append, List.countP_singleton]
      omega

/-- Once the timer has expired, its handler returns within a bounded number of
steps of the first thread. -/
theorem posted_of_runs
    (enough : start.distance ≤ labels.countP (Label.runs first)) :
    finish.Posted := by
  obtain ⟨_, unarmedFinish, near⟩ := distance_run located unarmed run
  exact State.posted_of_distance unarmedFinish (by omega)

end Run

end Countdown

end AsioBenchmark.Shutdown
