import AsioBenchmark.Shutdown.Turns

/-!
# What was executed for a session

The threads write down which stop task or completion handler they execute.  A
session sees of a step that a call is added behind its calls, that the first of
them is executed, that the network moves it, or nothing.
-/

namespace AsioBenchmark.Shutdown

open AsioBenchmark.Transition

section History

variable {threadCount sessionCount : Nat} [NeZero threadCount]
  {Session Event Handler : Type}

/-- A call that was executed, with its session. -/
abbrev Executed (sessionCount : Nat) (Handler : Type) :=
  Fin sessionCount × Call Handler

namespace State

variable (state : State threadCount sessionCount Session Handler)

/-- What the thread executes next, if it is for a session. -/
def executes (thread : Fin threadCount) :
    List (Executed sessionCount Handler) :=
  match if thread = first then state.timer else none with
  | some _ => []
  | none =>
      match state.queues thread with
      | .stop session :: _ => [(session, .stop)]
      | .handler session handler :: _ => [(session, .handler handler)]
      | .timer :: _ => []
      | [] => []

def observe : Label threadCount sessionCount Event →
    State threadCount sessionCount Session Handler →
    List (Executed sessionCount Handler)
  | .expire, _ => []
  | .network _ _, _ => []
  | .run thread, _ => state.executes thread

end State

/-- The runs of the threads with the calls that they have executed. -/
abbrev Client.recorded (client : Client Session Event Handler)
    (sessions : Fin sessionCount → Session) :
    System (State threadCount sessionCount Session Handler ×
      List (Executed sessionCount Handler))
      (Label threadCount sessionCount Event) :=
  (client.system sessions).recording State.observe

/-- The calls that were executed for the session, in their order. -/
def history (session : Fin sessionCount)
    (events : List (Executed sessionCount Handler)) : List (Call Handler) :=
  events.filterMap fun event =>
    if event.1 = session then some event.2 else none

omit [NeZero threadCount] in
theorem history_append (session : Fin sessionCount)
    (events new : List (Executed sessionCount Handler)) :
    history session (events ++ new) =
      history session events ++ history session new :=
  List.filterMap_append

/-- One step as one session sees it: the session and its calls before and after
the step, and the calls that the step executes for it. -/
inductive Seen (client : Client Session Event Handler) :
    Session × List (Call Handler) → Session × List (Call Handler) →
      List (Call Handler) → Prop where
  | nothing (place : Session × List (Call Handler)) : Seen client place place []
  | posted (session : Session) (calls : List (Call Handler)) :
      Seen client (session, calls) (session, calls ++ [.stop]) []
  | answer {session next : Session} {event : Event} {handler : Handler}
      (calls : List (Call Handler))
      (network : client.network session event = some (next, some handler)) :
      Seen client (session, calls) (next, calls ++ [.handler handler]) []
  | transfer {session next : Session} {event : Event}
      (calls : List (Call Handler))
      (network : client.network session event = some (next, none)) :
      Seen client (session, calls) (next, calls) []
  | stop (session : Session) (calls : List (Call Handler)) :
      Seen client (session, .stop :: calls) (client.stop session, calls) [.stop]
  | handle {session next : Session} {handler : Handler}
      (calls : List (Call Handler))
      (handles : client.handle handler session = some next) :
      Seen client (session, .handler handler :: calls) (next, calls)
        [.handler handler]
  | throws {session : Session} {handler : Handler}
      (calls : List (Call Handler))
      (handles : client.handle handler session = none) :
      Seen client (session, .handler handler :: calls) (session, calls)
        [.handler handler]

namespace State

variable {client : Client Session Event Handler}
  {state next : State threadCount sessionCount Session Handler}
  {label : Label threadCount sessionCount Event}

section Executes

variable {thread : Fin threadCount} {rest : List (Task sessionCount Handler)}

theorem executes_timer {actions : List (TimerAction threadCount sessionCount)}
    (timer : state.timer = some actions) : state.executes first = [] := by
  simp [executes, timer]

private theorem free_timer (free : thread = first → state.timer = none) :
    (if thread = first then state.timer else none) = none := by
  split
  · rename_i isFirst
    exact free isFirst
  · rfl

theorem executes_enter (free : thread = first → state.timer = none)
    (queue : state.queues thread = .timer :: rest) :
    state.executes thread = [] := by
  simp only [executes, free_timer free, queue]

theorem executes_stop {session : Fin sessionCount}
    (free : thread = first → state.timer = none)
    (queue : state.queues thread = .stop session :: rest) :
    state.executes thread = [(session, .stop)] := by
  simp only [executes, free_timer free, queue]

theorem executes_handler {session : Fin sessionCount} {handler : Handler}
    (free : thread = first → state.timer = none)
    (queue : state.queues thread = .handler session handler :: rest) :
    state.executes thread = [(session, .handler handler)] := by
  simp only [executes, free_timer free, queue]

end Executes

/-- No session sees the timer's handler being queued, or taken. -/
private theorem view_postTimer
    (state : State threadCount sessionCount Session Handler) :
    (state.post first .timer).view = state.view := by
  funext other
  by_cases together : (home other : Fin threadCount) = first
  · simp [view, post, Task.call, together]
  · simp [view, post, together]

private theorem view_popTimer {rest : List (Task sessionCount Handler)}
    (queue : state.queues first = .timer :: rest) :
    (state.pop first rest).view = state.view := by
  funext other
  by_cases together : (home other : Fin threadCount) = first
  · simp [view, pop, List.filterMap_cons, Task.call, together, queue]
  · simp [view, pop, together]

/-- A step that does something for one session only. -/
private theorem seen_update {session : Fin sessionCount}
    {after : Session × List (Call Handler)} {calls : List (Call Handler)}
    (seen : Seen client (state.view session) after calls)
    (moved : next.view = Function.update state.view session after)
    (other : Fin sessionCount) :
    Seen client (state.view other) (next.view other)
      (history other (calls.map fun call => (session, call))) := by
  rw [moved]
  by_cases same : other = session
  · subst same
    rw [Function.update_self]
    have own : history other (calls.map fun call => (other, call)) = calls := by
      simp [history, List.filterMap_map]
    rw [own]
    exact seen
  · rw [Function.update_of_ne same]
    have foreign :
        history other (calls.map fun call => (session, call)) = [] := by
      simp [history, Ne.symm same]
    rw [foreign]
    exact .nothing _

/-- What each session sees of a step. -/
theorem seen_step (step : Step client state label next)
    (located : state.Located) (session : Fin sessionCount) :
    Seen client (state.view session) (next.view session)
      (history session (state.observe label next)) := by
  have unseen : ∀ thread (after : State threadCount sessionCount Session
      Handler), state.executes thread = [] → after.view = state.view →
      Seen client (state.view session) (after.view session)
        (history session (state.executes thread)) := by
    intro thread after quiet same
    rw [quiet, same]
    exact .nothing _
  cases step with
  | expire armed =>
      have same : ({ state with armed := false }.post first .timer).view =
          state.view :=
        view_postTimer _
      rw [same]
      exact .nothing _
  | @answer other event after handler runs network =>
      exact seen_update (.answer _ network)
        (view_answer state other after handler) session
  | @transfer other event after runs network =>
      exact seen_update (.transfer _ network)
        (view_setSession state other after) session
  | reset runs timer => exact unseen first _ (executes_timer timer) rfl
  | @post other rest runs timer =>
      simp only [observe, executes_timer timer]
      have moved := view_post { state with timer := some rest }
        (Task.call_stop other)
      exact seen_update (.posted _ _) moved session
  | leave runs timer => exact unseen first _ (executes_timer timer) rfl
  | @enter thread rest runs free queue =>
      have isFirst := located.timer queue
      subst isFirst
      have same :
          ({ state with timer := some timerHandler }.pop first rest).view =
            state.view :=
        view_popTimer queue
      exact unseen first _ (executes_enter free queue) same
  | @stop thread other rest runs free queue =>
      have place : home other = thread := located.stop queue
      subst place
      have calls := @Task.call_stop sessionCount Handler other
      have moved := view_execute calls queue
        (client.stop (state.sessions other))
      have seen : Seen client (state.view other)
          (client.stop (state.sessions other),
            rest.filterMap (Task.call other)) [.stop] := by
        rw [(view_pop calls queue).1]
        exact .stop _ _
      simp only [observe, executes_stop free queue]
      exact seen_update seen moved session
  | @handle thread other handler rest after runs free queue handles =>
      have place : home other = thread := located.handler queue
      subst place
      have calls := Task.call_handler other handler
      have seen : Seen client (state.view other)
          (after, rest.filterMap (Task.call other)) [.handler handler] := by
        rw [(view_pop calls queue).1]
        exact .handle _ handles
      simp only [observe, executes_handler free queue]
      exact seen_update seen (view_execute calls queue after) session
  | @throws thread other handler rest runs free queue handles =>
      have place : home other = thread := located.handler queue
      subst place
      obtain ⟨waits, popped⟩ :=
        view_pop (Task.call_handler other handler) queue
      have seen : Seen client (state.view other)
          (state.sessions other, rest.filterMap (Task.call other))
          [.handler handler] := by
        rw [waits]
        exact .throws _ handles
      simp only [observe, executes_handler free queue]
      exact seen_update seen popped session

end State

/-- What each session sees of a run: `Holds` is kept by all that a session can
see of a step. -/
theorem seen_run {client : Client Session Event Handler}
    {sessions : Fin sessionCount → Session}
    (Holds : Session × List (Call Handler) → List (Call Handler) → Prop)
    (kept : ∀ {before after past calls}, Holds before past →
      Seen client before after calls → Holds after (past ++ calls))
    (initial : ∀ session, Holds (sessions session, []) [])
    {labels : List (Label threadCount sessionCount Event)}
    {recorded : State threadCount sessionCount Session Handler ×
      List (Executed sessionCount Handler)}
    (run : (client.recorded sessions).Run (started sessions, []) labels
      recorded) :
    recorded.1.Located ∧ ∀ session,
      Holds (recorded.1.view session) (history session recorded.2) := by
  induction run using System.Run.recorded_induction with
  | refl =>
      refine ⟨fun thread task member => absurd member List.not_mem_nil, ?_⟩
      intro session
      exact initial session
  | snoc _ taken induction =>
      obtain ⟨located, holds⟩ := induction
      have step := State.step_cases taken
      refine ⟨State.located_step step located, ?_⟩
      intro session
      rw [history_append]
      exact kept (holds session) (State.seen_step step located session)

end History

end AsioBenchmark.Shutdown
