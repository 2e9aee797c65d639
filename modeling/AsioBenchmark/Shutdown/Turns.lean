import AsioBenchmark.Shutdown.Accounting

/-!
# The turns of one session

Once the timer's handler has posted the stop tasks, every step is a turn of one
session: an event on its socket, or the first task that its thread holds for
it.  The other sessions do not see it.  A turn lowers the rank of the session,
so that there are finitely many of them.
-/

namespace AsioBenchmark.Shutdown

open AsioBenchmark.Transition

/-- A task as its session sees it. -/
inductive Call (Handler : Type) where
  | stop
  | handler (handler : Handler)

section Turns

variable {threadCount sessionCount : Nat} [NeZero threadCount]
  {Session Event Handler : Type}

/-- A session and the tasks that wait for it. -/
inductive Turn (client : Client Session Event Handler) :
    Session × List (Call Handler) → Session × List (Call Handler) → Prop where
  | answer {session next : Session} {event : Event} {handler : Handler}
      (calls : List (Call Handler))
      (network : client.network session event = some (next, some handler)) :
      Turn client (session, calls) (next, calls ++ [.handler handler])
  | transfer {session next : Session} {event : Event}
      (calls : List (Call Handler))
      (network : client.network session event = some (next, none)) :
      Turn client (session, calls) (next, calls)
  | stop (session : Session) (calls : List (Call Handler)) :
      Turn client (session, .stop :: calls) (client.stop session, calls)
  | handle {session next : Session} {handler : Handler}
      (calls : List (Call Handler))
      (handles : client.handle handler session = some next) :
      Turn client (session, .handler handler :: calls) (next, calls)
  | throws (session : Session) (handler : Handler)
      (calls : List (Call Handler)) :
      Turn client (session, .handler handler :: calls) (session, calls)

/-! ## The rank -/

section Rank

variable (failed : Handler → Bool) (bound : Nat)

/-- An event on an open socket may be answered by a success, whose handler
starts operations that fail. -/
def price (isOpen : Bool) : Nat :=
  if isOpen = true then 2 * bound + 2 else 2

def cost : Bool → List (Call Handler) → Nat
  | _, [] => 0
  | _, .stop :: calls => cost false calls + 1
  | true, .handler _ :: calls =>
      cost true calls + (bound * price bound true + 1)
  | false, .handler handler :: calls =>
      cost false calls + if failed handler = true then 1 else 2 * bound + 1

def rank (client : Client Session Event Handler) (effort : Session → Nat)
    (place : Session × List (Call Handler)) : Nat :=
  effort place.1 * price bound (client.isOpen place.1) +
    cost failed bound (client.isOpen place.1) place.2

theorem cost_snoc {isOpen : Bool} {calls : List (Call Handler)}
    {handler : Handler}
    (stops : isOpen = true → Call.stop ∈ calls) :
    cost failed bound isOpen (calls ++ [.handler handler]) =
      cost failed bound isOpen calls +
        if failed handler = true then 1 else 2 * bound + 1 := by
  induction calls generalizing isOpen with
  | nil =>
      cases isOpen with
      | true => exact absurd (stops rfl) List.not_mem_nil
      | false => simp [cost]
  | cons call calls induction =>
      cases call with
      | stop =>
          have rest := @induction false (by simp)
          simp only [List.cons_append, cost, rest]
          omega
      | handler other =>
          have stopsRest : isOpen = true → Call.stop ∈ calls := by
            intro opened
            simpa using stops opened
          have rest := induction stopsRest
          cases isOpen with
          | true =>
              simp only [List.cons_append, cost, rest]
              omega
          | false =>
              simp only [List.cons_append, cost, rest]
              omega

variable {failed bound} {client : Client Session Event Handler}
  {effort : Session → Nat} (laws : client.Laws effort failed bound)
  {before after : Session × List (Call Handler)}

include laws

/-- As long as its stop task waits in front of it or was executed, a turn
lowers the rank of a session. -/
theorem rank_turn (turn : Turn client before after)
    (stops : client.isOpen before.1 = true → Call.stop ∈ before.2) :
    rank failed bound client effort after <
      rank failed bound client effort before := by
  have price_pos : ∀ isOpen, 2 ≤ price bound isOpen := by
    intro isOpen
    cases isOpen <;> simp [price]
  cases turn with
  | @answer session next event handler calls network =>
      have less := laws.network_effort network
      have dearer : (effort next + 1) * price bound (client.isOpen session) ≤
          effort session * price bound (client.isOpen session) :=
        Nat.mul_le_mul_right _ less
      have answered : (if failed handler = true then 1 else 2 * bound + 1) <
          price bound (client.isOpen session) := by
        cases opened : client.isOpen session with
        | true =>
            simp only [price, if_true]
            split <;> omega
        | false =>
            rw [if_pos (laws.network_closed network opened)]
            simp [price]
      rw [Nat.add_mul] at dearer
      simp only [rank, laws.network_isOpen network,
        cost_snoc failed bound stops]
      omega
  | @transfer session next event calls network =>
      have less := laws.network_effort network
      have dearer : (effort next + 1) * price bound (client.isOpen session) ≤
          effort session * price bound (client.isOpen session) :=
        Nat.mul_le_mul_right _ less
      have positive := price_pos (client.isOpen session)
      rw [Nat.add_mul] at dearer
      simp only [rank, laws.network_isOpen network]
      omega
  | stop session calls =>
      have cheaper : effort (client.stop session) * 2 ≤
          effort session * price bound (client.isOpen session) :=
        Nat.mul_le_mul (laws.stop_effort session) (price_pos _)
      simp only [rank, laws.stop_isOpen, cost, price, Bool.false_eq_true,
        if_false] at cheaper ⊢
      omega
  | @handle session next handler calls handles =>
      have more := laws.handle_effort handles
      simp only [rank, laws.handle_isOpen handles]
      cases opened : client.isOpen session with
      | true =>
          have dearer := Nat.mul_le_mul_right (price bound true) more
          rw [Nat.add_mul] at dearer
          simp only [cost]
          omega
      | false =>
          simp only [cost, price, Bool.false_eq_true, if_false]
          split
          · rename_i isFailed
            have same := laws.handle_failed isFailed handles
            omega
          · omega
  | throws session handler calls =>
      simp only [rank]
      cases client.isOpen session with
      | true =>
          simp only [cost]
          omega
      | false =>
          simp only [cost]
          split <;> omega

end Rank

/-! ## Steps are turns -/

/-- The call that a task is for the session. -/
def Task.call (session : Fin sessionCount) :
    Task sessionCount Handler → Option (Call Handler)
  | .timer => none
  | .stop stopped => if stopped = session then some .stop else none
  | .handler other completion =>
      if other = session then some (.handler completion) else none

theorem Task.call_stop (session : Fin sessionCount) :
    ∀ other, (Task.stop session : Task sessionCount Handler).call other =
      if session = other then some .stop else none :=
  fun _ => rfl

theorem Task.call_handler (session : Fin sessionCount)
    (completion : Handler) :
    ∀ other, (Task.handler session completion).call other =
      if session = other then some (.handler completion) else none :=
  fun _ => rfl

namespace State

variable (state : State threadCount sessionCount Session Handler)

/-- Each session with the tasks that wait for it. -/
def view (session : Fin sessionCount) : Session × List (Call Handler) :=
  (state.sessions session,
    (state.queues (home session)).filterMap (Task.call session))

/-- The timer's handler has returned. -/
def Posted : Prop :=
  state.unfired = 0 ∧ state.timer = none

theorem view_setSession (session : Fin sessionCount) (next : Session) :
    (state.setSession session next).view =
      Function.update state.view session (next, (state.view session).2) := by
  funext other
  by_cases same : other = session
  · subst same
    simp [view, setSession]
  · simp [view, setSession, same]

theorem view_post {session : Fin sessionCount}
    {task : Task sessionCount Handler} {call : Call Handler}
    (calls : ∀ other, task.call other =
      if session = other then some call else none) :
    (state.post (home session) task).view =
      Function.update state.view session
        (state.sessions session, (state.view session).2 ++ [call]) := by
  funext other
  by_cases same : other = session
  · subst same
    simp [view, post, calls]
  · rw [Function.update_of_ne same]
    by_cases together : (home other : Fin threadCount) = home session
    · simp [view, post, calls, together, Ne.symm same]
    · simp [view, post, together]

variable {state} in
theorem view_pop {session : Fin sessionCount}
    {task : Task sessionCount Handler} {call : Call Handler}
    {rest : List (Task sessionCount Handler)}
    (calls : ∀ other, task.call other =
      if session = other then some call else none)
    (queue : state.queues (home session) = task :: rest) :
    state.view session =
        (state.sessions session, call :: rest.filterMap (Task.call session)) ∧
      (state.pop (home session) rest).view =
        Function.update state.view session
          (state.sessions session, rest.filterMap (Task.call session)) := by
  constructor
  · simp [view, queue, calls]
  · funext other
    by_cases same : other = session
    · subst same
      simp [view, pop]
    · rw [Function.update_of_ne same]
      by_cases together : (home other : Fin threadCount) = home session
      · simp [view, pop, calls, together, queue, Ne.symm same]
      · simp [view, pop, together]

/-- The network moves a session on and queues a handler. -/
theorem view_answer (session : Fin sessionCount) (after : Session)
    (handler : Handler) :
    ((state.setSession session after).post (home session)
        (.handler session handler)).view =
      Function.update state.view session
        (after, (state.view session).2 ++ [.handler handler]) := by
  rw [view_post _ (Task.call_handler session handler), view_setSession,
    Function.update_self, Function.update_idem]
  simp only [setSession, Function.update_self]

variable {state} in
theorem view_execute {session : Fin sessionCount}
    {task : Task sessionCount Handler} {call : Call Handler}
    {rest : List (Task sessionCount Handler)}
    (calls : ∀ other, task.call other =
      if session = other then some call else none)
    (queue : state.queues (home session) = task :: rest) (after : Session) :
    ((state.pop (home session) rest).setSession session after).view =
      Function.update state.view session
        (after, rest.filterMap (Task.call session)) := by
  rw [view_setSession, (view_pop calls queue).2, Function.update_self,
    Function.update_idem]

variable {client : Client Session Event Handler} {state}
  {next : State threadCount sessionCount Session Handler}
  {label : Label threadCount sessionCount Event}

/-- A step after the stop tasks have been posted is a turn of one session. -/
theorem turn_step (step : Step client state label next)
    (located : state.Located)
    (posted : state.Posted) :
    next.Posted ∧ ∃ session after, Turn client (state.view session) after ∧
      next.view = Function.update state.view session after := by
  obtain ⟨unfired, idle⟩ := posted
  cases step with
  | expire armed => simp [State.unfired, armed] at unfired
  | @answer session event after handler runs network =>
      refine ⟨⟨?_, idle⟩, session, _, .answer _ network, ?_⟩
      · exact (unfired_post _ _ rfl).trans unfired
      · exact view_answer state session after handler
  | @transfer session event after runs network =>
      exact ⟨⟨unfired, idle⟩, session, _, .transfer _ network,
        view_setSession state session after⟩
  | reset runs timer => simp [idle] at timer
  | post runs timer => simp [idle] at timer
  | leave runs timer => simp [idle] at timer
  | @enter target rest runs free queue =>
      have place : first = target := located.timer queue
      subst place
      simp [State.unfired, queue, Task.isTimer] at unfired
  | @stop target session rest runs free queue =>
      have place : home session = target := located.stop queue
      subst place
      have calls := @Task.call_stop sessionCount Handler session
      have waits := (view_pop calls queue).1
      refine ⟨⟨?_, idle⟩, session, _, waits.symm ▸ Turn.stop _ _, ?_⟩
      · exact (unfired_pop queue rfl).trans unfired
      · exact view_execute calls queue (client.stop (state.sessions session))
  | @handle target session handler rest after runs free queue handles =>
      have place : home session = target := located.handler queue
      subst place
      have calls := Task.call_handler session handler
      have waits := (view_pop calls queue).1
      refine ⟨⟨?_, idle⟩, session, _, waits.symm ▸ Turn.handle _ handles, ?_⟩
      · exact (unfired_pop queue rfl).trans unfired
      · exact view_execute calls queue after
  | @throws target session handler rest runs free queue handles =>
      have place : home session = target := located.handler queue
      subst place
      obtain ⟨waits, popped⟩ :=
        view_pop (Task.call_handler session handler) queue
      refine ⟨⟨?_, idle⟩, session, _, waits.symm ▸ Turn.throws _ _ _, popped⟩
      exact (unfired_pop queue rfl).trans unfired

end State

end Turns

end AsioBenchmark.Shutdown
