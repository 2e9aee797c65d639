import AsioBenchmark.Transition.System
import AsioBenchmark.Transition.Total

/-!
# The threads of `client1` and `client2`

Both programs run one `io_service` on each thread, give the sessions to the
threads in turn, and end with a timer on the first thread: its handler resets
the work objects one by one, and then posts the stop task of one session after
the other.  The sessions are a parameter.  A run begins when `client::start`
has started all of them.
-/

namespace AsioBenchmark.Shutdown

open AsioBenchmark.Transition

/-- A session as its thread sees it.  `network` is an event on the socket; when
it ends an operation, the handler of that operation is queued.  A handler that
throws has no successor. -/
structure Client (Session Event Handler : Type) where
  network : Session → Event → Option (Session × Option Handler)
  handle : Handler → Session → Option Session
  stop : Session → Session
  isOpen : Session → Bool
  idle : Session → Bool
  connects : Handler → Bool

/-- What the sessions promise.  `effort` bounds what the network has still to
do for a session, `failed` are the handlers of failed operations, and a handler
starts operations of no more than `bound`. -/
structure Client.Laws {Session Event Handler : Type}
    (client : Client Session Event Handler)
    (effort : Session → Nat) (failed : Handler → Bool) (bound : Nat) :
    Prop where
  idle_iff : ∀ session, client.idle session = true ↔ effort session = 0
  network_isOpen : ∀ {session event next answer},
    client.network session event = some (next, answer) →
    client.isOpen next = client.isOpen session
  network_effort : ∀ {session event next answer},
    client.network session event = some (next, answer) →
    effort next < effort session
  network_none : ∀ {session event next},
    client.network session event = some (next, none) → effort next ≠ 0
  network_closed : ∀ {session event next handler},
    client.network session event = some (next, some handler) →
    client.isOpen session = false → failed handler = true
  network_exists : ∀ session, effort session ≠ 0 →
    ∃ event outcome, client.network session event = some outcome
  handle_isOpen : ∀ {session handler next},
    client.handle handler session = some next →
    client.isOpen next = client.isOpen session
  handle_effort : ∀ {session handler next},
    client.handle handler session = some next →
    effort next ≤ effort session + bound
  handle_failed : ∀ {session handler next}, failed handler = true →
    client.handle handler session = some next → effort next ≤ effort session
  handle_none : ∀ {session handler}, client.handle handler session = none ↔
    client.connects handler = true ∧ client.isOpen session = false
  connects_failed : ∀ {handler}, failed handler = true →
    client.connects handler = false
  stop_isOpen : ∀ session, client.isOpen (client.stop session) = false
  stop_effort : ∀ session, effort (client.stop session) ≤ effort session

inductive Task (sessionCount : Nat) (Handler : Type) where
  | timer
  | stop (session : Fin sessionCount)
  | handler (session : Fin sessionCount) (handler : Handler)

/-- One round of one of the two loops of the timer's handler. -/
inductive TimerAction (threadCount sessionCount : Nat) where
  | reset (thread : Fin threadCount)
  | stop (session : Fin sessionCount)
deriving DecidableEq

/-- `timer` is what the timer's handler has still to do while it runs, and
`executed` a history: how often the stop task of a session has run. -/
structure State (threadCount sessionCount : Nat)
    (Session Handler : Type) where
  sessions : Fin sessionCount → Session
  queues : Fin threadCount → List (Task sessionCount Handler)
  work : Fin threadCount → Bool
  returned : Fin threadCount → Bool
  threw : Fin threadCount → Bool
  armed : Bool
  timer : Option (List (TimerAction threadCount sessionCount))
  executed : Fin sessionCount → Nat

/-- A step: the timer expires, the network does something, or a thread runs
the next handler (of the timer's handler, one action). -/
inductive Label (threadCount sessionCount : Nat) (Event : Type) where
  | expire
  | network (session : Fin sessionCount) (event : Event)
  | run (thread : Fin threadCount)

section Program

variable {threadCount sessionCount : Nat} [NeZero threadCount]
  {Session Event Handler : Type}

/-- `io_services_[0]`. -/
def first : Fin threadCount := ⟨0, NeZero.pos threadCount⟩

/-- `i % thread_count_`. -/
def home (session : Fin sessionCount) : Fin threadCount :=
  ⟨session.val % threadCount, Nat.mod_lt _ (NeZero.pos threadCount)⟩

/-- The two loops of the timer's handler. -/
def timerHandler : List (TimerAction threadCount sessionCount) :=
  (List.finRange threadCount).map .reset ++
    (List.finRange sessionCount).map .stop

namespace State

variable (client : Client Session Event Handler)
  (state : State threadCount sessionCount Session Handler)

/-- Nothing keeps `run()` of a thread from returning. -/
def drained (thread : Fin threadCount) : Bool :=
  !state.work thread && (state.queues thread).isEmpty &&
    !(decide (thread = first) && (state.armed || state.timer.isSome)) &&
    (List.finRange sessionCount).all fun session =>
      !decide (home session = thread) || client.idle (state.sessions session)

/-- `run()` returns as soon as nothing is left to wait for. -/
def settle (thread : Fin threadCount) :
    State threadCount sessionCount Session Handler :=
  { state with
    returned := Function.update state.returned thread
      (state.returned thread || state.drained client thread) }

def post (thread : Fin threadCount) (task : Task sessionCount Handler) :
    State threadCount sessionCount Session Handler :=
  { state with
    queues := Function.update state.queues thread
      (state.queues thread ++ [task]) }

def pop (thread : Fin threadCount) (rest : List (Task sessionCount Handler)) :
    State threadCount sessionCount Session Handler :=
  { state with queues := Function.update state.queues thread rest }

def setSession (session : Fin sessionCount) (next : Session) :
    State threadCount sessionCount Session Handler :=
  { state with sessions := Function.update state.sessions session next }

/-- `io_work.reset()`. -/
def resetWork (thread : Fin threadCount) :
    State threadCount sessionCount Session Handler :=
  { state with work := Function.update state.work thread false }.settle client
    thread

/-- One action of the timer's handler. -/
def act (rest : List (TimerAction threadCount sessionCount)) :
    TimerAction threadCount sessionCount →
      State threadCount sessionCount Session Handler
  | .reset thread => { state with timer := some rest }.resetWork client thread
  | .stop session =>
      { state with timer := some rest }.post (home session) (.stop session)

/-- An exception leaves `run()`, and the thread catches it. -/
def throw (thread : Fin threadCount) :
    State threadCount sessionCount Session Handler :=
  { state with
    returned := Function.update state.returned thread true
    threw := Function.update state.threw thread true }

/-- The task at the front of the queue of a thread. -/
def execute (thread : Fin threadCount)
    (rest : List (Task sessionCount Handler)) :
    Task sessionCount Handler →
      State threadCount sessionCount Session Handler
  | .timer => { state with timer := some timerHandler }.pop thread rest
  | .stop session =>
      (({ state with
        executed := Function.update state.executed session
          (state.executed session + 1) }.pop thread rest).setSession session
            (client.stop (state.sessions session))).settle client thread
  | .handler session handler =>
      match client.handle handler (state.sessions session) with
      | some next =>
          ((state.pop thread rest).setSession session next).settle client thread
      | none => (state.pop thread rest).throw thread

def step : Label threadCount sessionCount Event →
    Option (State threadCount sessionCount Session Handler)
  | .expire =>
      if state.armed = true then
        some ({ state with armed := false }.post first .timer)
      else none
  | .network session event =>
      if state.returned (home session) = true then none
      else
        match client.network (state.sessions session) event with
        | some (next, some handler) =>
            some ((state.setSession session next).post (home session)
              (.handler session handler))
        | some (next, none) => some (state.setSession session next)
        | none => none
  | .run thread =>
      if state.returned thread = true then none
      else
        match if thread = first then state.timer else none with
        | some (action :: rest) => some (state.act client rest action)
        | some [] => some ({ state with timer := none }.settle client thread)
        | none =>
            match state.queues thread with
            | [] => none
            | task :: rest => some (state.execute client thread rest task)

/-- Everything that can happen in one step. -/
inductive Step : Label threadCount sessionCount Event →
    State threadCount sessionCount Session Handler → Prop where
  | expire (armed : state.armed = true) :
      Step .expire ({ state with armed := false }.post first .timer)
  | answer {session : Fin sessionCount} {event : Event} {next : Session}
      {handler : Handler} (runs : state.returned (home session) = false)
      (network : client.network (state.sessions session) event =
        some (next, some handler)) :
      Step (.network session event)
        ((state.setSession session next).post (home session)
          (.handler session handler))
  | transfer {session : Fin sessionCount} {event : Event} {next : Session}
      (runs : state.returned (home session) = false)
      (network : client.network (state.sessions session) event =
        some (next, none)) :
      Step (.network session event) (state.setSession session next)
  | reset {thread : Fin threadCount}
      {rest : List (TimerAction threadCount sessionCount)}
      (runs : state.returned first = false)
      (timer : state.timer = some (.reset thread :: rest)) :
      Step (.run first) ({ state with timer := some rest }.resetWork client
        thread)
  | post {session : Fin sessionCount}
      {rest : List (TimerAction threadCount sessionCount)}
      (runs : state.returned first = false)
      (timer : state.timer = some (.stop session :: rest)) :
      Step (.run first) ({ state with timer := some rest }.post (home session)
        (.stop session))
  | leave (runs : state.returned first = false)
      (timer : state.timer = some []) :
      Step (.run first) ({ state with timer := none }.settle client first)
  | enter {thread : Fin threadCount} {rest : List (Task sessionCount Handler)}
      (runs : state.returned thread = false)
      (free : thread = first → state.timer = none)
      (queue : state.queues thread = .timer :: rest) :
      Step (.run thread)
        ({ state with timer := some timerHandler }.pop thread rest)
  | stop {thread : Fin threadCount} {session : Fin sessionCount}
      {rest : List (Task sessionCount Handler)}
      (runs : state.returned thread = false)
      (free : thread = first → state.timer = none)
      (queue : state.queues thread = .stop session :: rest) :
      Step (.run thread)
        ((({ state with
          executed := Function.update state.executed session
            (state.executed session + 1) }.pop thread rest).setSession session
              (client.stop (state.sessions session))).settle client thread)
  | handle {thread : Fin threadCount} {session : Fin sessionCount}
      {handler : Handler} {rest : List (Task sessionCount Handler)}
      {next : Session} (runs : state.returned thread = false)
      (free : thread = first → state.timer = none)
      (queue : state.queues thread = .handler session handler :: rest)
      (handles : client.handle handler (state.sessions session) = some next) :
      Step (.run thread)
        (((state.pop thread rest).setSession session next).settle client thread)
  | throws {thread : Fin threadCount} {session : Fin sessionCount}
      {handler : Handler} {rest : List (Task sessionCount Handler)}
      (runs : state.returned thread = false)
      (free : thread = first → state.timer = none)
      (queue : state.queues thread = .handler session handler :: rest)
      (handles : client.handle handler (state.sessions session) = none) :
      Step (.run thread) ((state.pop thread rest).throw thread)

variable {client state} {next : State threadCount sessionCount Session Handler}
  {label : Label threadCount sessionCount Event}

private theorem execute_step {thread : Fin threadCount}
    {task : Task sessionCount Handler} {rest : List (Task sessionCount Handler)}
    (runs : state.returned thread = false)
    (free : thread = first → state.timer = none)
    (queue : state.queues thread = task :: rest) :
    Step client state (.run thread)
      (state.execute client thread rest task) := by
  cases task with
  | timer => exact .enter runs free queue
  | stop session => exact .stop runs free queue
  | handler session handler =>
      simp only [execute]
      split
      · rename_i next handles
        exact .handle runs free queue handles
      · rename_i handles
        exact .throws runs free queue handles

theorem step_cases (taken : state.step client label = some next) :
    Step client state label next := by
  cases label with
  | expire =>
      obtain ⟨armed, same⟩ := Option.ite_none_right_eq_some.mp taken
      cases same
      exact .expire armed
  | network session event =>
      simp only [step] at taken
      split at taken
      · cases taken
      · rename_i stays
        have runs : state.returned (home session) = false := by
          simpa using stays
        split at taken
        · rename_i after handler network
          cases taken
          exact .answer runs network
        · rename_i after network
          cases taken
          exact .transfer runs network
        · cases taken
  | run thread =>
      simp only [step] at taken
      split at taken
      · cases taken
      · rename_i stays
        have runs : state.returned thread = false := by simpa using stays
        split at taken
        · rename_i action rest running
          obtain ⟨isFirst, timer⟩ := Option.ite_none_right_eq_some.mp running
          subst isFirst
          cases taken
          cases action with
          | reset thread => exact .reset runs timer
          | stop session => exact .post runs timer
        · rename_i running
          obtain ⟨isFirst, timer⟩ := Option.ite_none_right_eq_some.mp running
          subst isFirst
          cases taken
          exact .leave runs timer
        · rename_i running
          have free : thread = first → state.timer = none := by
            intro isFirst
            rw [if_pos isFirst] at running
            exact running
          split at taken
          · cases taken
          · rename_i task rest queue
            cases taken
            exact execute_step runs free queue

/-- A thread that has not returned is stuck only without a task. -/
theorem run_enabled {thread : Fin threadCount}
    (runs : state.returned thread = false)
    (busy : (thread = first ∧ state.timer.isSome = true) ∨
      state.queues thread ≠ []) :
    state.step client (.run thread) ≠ none := by
  simp only [step, runs, Bool.false_eq_true, if_false]
  split
  · simp
  · simp
  · rename_i free
    split
    · rename_i empty
      rcases busy with ⟨isFirst, running⟩ | queued
      · rw [if_pos isFirst] at free
        rw [free] at running
        cases running
      · exact absurd empty queued
    · simp

theorem network_enabled {session : Fin sessionCount} {event : Event}
    {outcome : Session × Option Handler}
    (runs : state.returned (home session) = false)
    (moves : client.network (state.sessions session) event = some outcome) :
    state.step client (.network session event) ≠ none := by
  obtain ⟨next, answer⟩ := outcome
  cases answer <;> simp [step, runs, moves]

end State

/-- All sessions are connecting and the timer is set. -/
def started (sessions : Fin sessionCount → Session) :
    State threadCount sessionCount Session Handler :=
  { sessions := sessions
    queues := fun _ => []
    work := fun _ => true
    returned := fun _ => false
    threw := fun _ => false
    armed := true
    timer := none
    executed := fun _ => 0 }

def Client.system (client : Client Session Event Handler)
    (sessions : Fin sessionCount → Session) :
    System (State threadCount sessionCount Session Handler)
      (Label threadCount sessionCount Event) where
  Initial state := state = started sessions
  step := State.step client

end Program

end AsioBenchmark.Shutdown
