import AsioBenchmark.Pooled.Session
import Mathlib.Algebra.Order.Ring.Nat
import Mathlib.Algebra.Order.BigOperators.Group.List

/-!
# What is left of a closed session

On a closed socket no operation succeeds any more, but the handlers of the
operations that had succeeded before still run, and start others.  Each
operation is given a weight for all the handlers that may come of it: three for
a read that has succeeded, two for such a write, one for the rest.
-/

namespace AsioBenchmark.Pooled

open AsioBenchmark.Bytes AsioBenchmark.Transition

variable {blockSize : Nat} {Data : Type}

/-- The handler of a read or of a write. -/
def Action.isHandler : Action → Bool
  | .readHandler => true
  | .writeHandler => true
  | _ => false

def handlersRun (actions : List Action) : Nat :=
  actions.countP Action.isHandler

/-- A step costs 1 if it runs a handler; `price` if the network performs an
operation. -/
def Action.cost (price : Nat) : Action → Nat
  | .readHandler => 1
  | .writeHandler => 1
  | .stop => 0
  | _ => price

/-- The handler of a read that succeeded starts a read and a write. -/
def Completion.readWeight (price : Nat) (completion : Completion) : Nat :=
  match completion.result with
  | some _ => 3 + 2 * price
  | none => 1

/-- The handler of a write that succeeded may start a read. -/
def Completion.writeWeight (price : Nat) (completion : Completion) : Nat :=
  match completion.result with
  | some _ => 2 + price
  | none => 1

namespace Session

variable (session next : Session blockSize Data)

/-- What the steps of a closed session may still cost. -/
def remaining (price : Nat) : Nat :=
  (session.readDone.map (Completion.readWeight price)).sum +
    (1 + price) * session.readQueue.length +
    (session.writeDone.map (Completion.writeWeight price)).sum +
    (1 + price) * session.writeQueue.length

/-- A connected session whose socket is closed. -/
structure Closed : Prop where
  started : session.starting = false
  closed : session.isOpen = false
  runs : session.threw = false

/-- A handler has started no more than the given numbers of operations, and
keeps the rest of the session as far as it matters. -/
structure Starts (reads writes : Nat) : Prop where
  readQueue : next.readQueue.length ≤ session.readQueue.length + reads
  writeQueue : next.writeQueue.length ≤ session.writeQueue.length + writes
  readDone : next.readDone = session.readDone
  writeDone : next.writeDone = session.writeDone
  closed : session.Closed → next.Closed

end Session

/-- How many operations the handlers of a closed session start. -/
structure Subsides (handlers : Handlers blockSize Data) : Prop where
  read : ∀ buffer count (session : Session blockSize Data),
    session.Starts (handlers.readHandler buffer (some count) session) 1 1
  readError : ∀ buffer (session : Session blockSize Data),
    session.Starts (handlers.readHandler buffer none session) 0 0
  write : ∀ buffer count (session : Session blockSize Data),
    session.Starts (handlers.writeHandler buffer (some count) session) 1 0
  writeError : ∀ buffer (session : Session blockSize Data),
    session.Starts (handlers.writeHandler buffer none session) 0 0
  stop : ∀ (session next : Session blockSize Data),
    handlers.stop session = some next → session.Starts next 0 0

section Steps

variable {handlers : Handlers blockSize Data}
  {session next : Session blockSize Data} {action : Action}

theorem Session.Starts.remaining_le {reads writes : Nat}
    (starts : session.Starts next reads writes) (price : Nat) :
    next.remaining price ≤
      session.remaining price + (1 + price) * reads +
        (1 + price) * writes := by
  have readQueue := Nat.mul_le_mul_left (1 + price) starts.readQueue
  have writeQueue := Nat.mul_le_mul_left (1 + price) starts.writeQueue
  rw [Nat.mul_add] at readQueue writeQueue
  simp only [Session.remaining, starts.readDone, starts.writeDone]
  omega

/-- An operation that fails keeps its weight, less the price. -/
theorem Session.remaining_readError {buffer : BufferId}
    {rest : List BufferId} (queue : session.readQueue = buffer :: rest)
    (price : Nat) :
    price + Session.remaining
        { session with
          readQueue := rest
          readDone := session.readDone ++ [⟨buffer, none⟩] } price =
      session.remaining price := by
  simp only [remaining, queue, List.map_append, List.map_cons, List.map_nil,
    List.sum_append, List.sum_singleton, List.length_cons, Nat.mul_succ,
    Completion.readWeight]
  omega

theorem Session.remaining_writeError {request : WriteRequest}
    {rest : List WriteRequest} (queue : session.writeQueue = request :: rest)
    (price : Nat) :
    price + Session.remaining
        { session with
          writeQueue := rest
          writeDone := session.writeDone ++ [⟨request.buffer, none⟩] } price =
      session.remaining price := by
  simp only [remaining, queue, List.map_append, List.map_cons, List.map_nil,
    List.sum_append, List.sum_singleton, List.length_cons, Nat.mul_succ,
    Completion.writeWeight]
  omega

theorem Session.remaining_readDone {completion : Completion}
    {rest : List Completion} (done : session.readDone = completion :: rest)
    (price : Nat) :
    completion.readWeight price +
        { session with readDone := rest }.remaining price =
      session.remaining price := by
  simp only [remaining, done, List.map_cons, List.sum_cons]
  omega

theorem Session.remaining_writeDone {completion : Completion}
    {rest : List Completion} (done : session.writeDone = completion :: rest)
    (price : Nat) :
    completion.writeWeight price +
        { session with writeDone := rest }.remaining price =
      session.remaining price := by
  simp only [remaining, done, List.map_cons, List.sum_cons]
  omega

/-- The weight of an operation pays for its handler and what that starts. -/
theorem Session.Starts.paid {reads writes price total : Nat}
    (starts : session.Starts next reads writes) (closed : session.Closed)
    (weight : 1 + (1 + price) * reads + (1 + price) * writes +
      session.remaining price ≤ total) :
    next.Closed ∧ 1 + next.remaining price ≤ total := by
  have added := starts.remaining_le price
  exact ⟨starts.closed closed, by omega⟩

/-- A step of a closed session leaves it closed, and its cost was accounted
for. -/
theorem Session.Step.remaining (subsides : Subsides handlers)
    (taken : Session.Step handlers session action next)
    (closed : session.Closed) (price : Nat) :
    next.Closed ∧
      action.cost price + next.remaining price ≤ session.remaining price := by
  have refused : session.isOpen ≠ true := by simp [closed.closed]
  cases taken with
  | started starting => exact absurd starting (by simp [closed.started])
  | notStarted starting => exact absurd starting (by simp [closed.started])
  | recv queue fits isOpen arrives => exact absurd isOpen refused
  | send queue isOpen moves room content => exact absurd isOpen refused
  | readError queue =>
      exact ⟨⟨closed.started, closed.closed, closed.runs⟩,
        Nat.le_of_eq (remaining_readError queue price)⟩
  | writeError queue =>
      exact ⟨⟨closed.started, closed.closed, closed.runs⟩,
        Nat.le_of_eq (remaining_writeError queue price)⟩
  | @readHandler completion rest done =>
      have popped : { session with readDone := rest }.Closed :=
        ⟨closed.started, closed.closed, closed.runs⟩
      obtain ⟨buffer, result⟩ := completion
      cases result with
      | none =>
          have weight : 1 + _ = _ := remaining_readDone done price
          have starts :=
            subsides.readError buffer { session with readDone := rest }
          exact starts.paid popped (by omega)
      | some count =>
          have weight : 3 + 2 * price + _ = _ := remaining_readDone done price
          have starts :=
            subsides.read buffer count { session with readDone := rest }
          exact starts.paid popped (by omega)
  | @writeHandler completion rest done =>
      have popped : { session with writeDone := rest }.Closed :=
        ⟨closed.started, closed.closed, closed.runs⟩
      obtain ⟨buffer, result⟩ := completion
      cases result with
      | none =>
          have weight : 1 + _ = _ := remaining_writeDone done price
          have starts :=
            subsides.writeError buffer { session with writeDone := rest }
          exact starts.paid popped (by omega)
      | some count =>
          have weight : 2 + price + _ = _ := remaining_writeDone done price
          have starts :=
            subsides.write buffer count { session with writeDone := rest }
          exact starts.paid popped (by omega)
  | stop stopped =>
      have starts := subsides.stop session next stopped
      have added := starts.remaining_le price
      refine ⟨starts.closed closed, ?_⟩
      simp only [Action.cost]
      omega

/-- On a closed socket each outstanding operation can fail, and each handler of
an operation that was performed can run. -/
theorem Session.Closed.drained (closed : session.Closed)
    (stuck : ∀ action, action ≠ .stop → session.step handlers action = none) :
    session.reads = [] ∧ session.writes = [] := by
  have impossible : ∀ {action next}, action ≠ .stop →
      ¬ Session.Step handlers session action next := by
    intro action next other taken
    have moves := Session.step_eq_some_iff.mpr ⟨closed.runs, taken⟩
    rw [stuck action other] at moves
    cases moves
  have readDone : session.readDone = [] := by
    cases done : session.readDone with
    | nil => rfl
    | cons completion rest =>
        exact absurd (.readHandler done) (impossible (by simp))
  have readQueue : session.readQueue = [] := by
    cases queue : session.readQueue with
    | nil => rfl
    | cons buffer rest =>
        exact absurd (.readError queue) (impossible (by simp))
  have writeDone : session.writeDone = [] := by
    cases done : session.writeDone with
    | nil => rfl
    | cons completion rest =>
        exact absurd (.writeHandler done) (impossible (by simp))
  have writeQueue : session.writeQueue = [] := by
    cases queue : session.writeQueue with
    | nil => rfl
    | cons request rest =>
        exact absurd (.writeError queue) (impossible (by simp))
  rw [Session.reads, Session.writes, readDone, readQueue, writeDone,
    writeQueue]
  exact ⟨rfl, rfl⟩

end Steps

/-! ## Runs of a closed session -/

section Runs

variable {handlers : Handlers blockSize Data}
  {system : System (Session blockSize Data) Action}
  {session finish : Session blockSize Data} {actions : List Action}

theorem sum_weight_le {weight : Completion → Nat} {bound : Nat}
    (bounded : ∀ completion, weight completion ≤ bound)
    (done : List Completion) :
    (done.map weight).sum ≤ bound * done.length := by
  have total : (done.map weight).sum ≤ (done.map weight).length • bound := by
    apply List.sum_le_card_nsmul
    intro value mapped
    obtain ⟨completion, -, rfl⟩ := List.mem_map.1 mapped
    exact bounded completion
  rwa [List.length_map, Nat.nsmul_eq_mul, Nat.mul_comm] at total

theorem Session.remaining_le (session : Session blockSize Data)
    (price : Nat) :
    session.remaining price ≤
      (3 + 2 * price) * session.reads.length +
        (2 + price) * session.writes.length := by
  have readDone : (session.readDone.map (Completion.readWeight price)).sum ≤
      (3 + 2 * price) * session.readDone.length := by
    apply sum_weight_le
    intro completion
    unfold Completion.readWeight
    split <;> omega
  have writeDone :
      (session.writeDone.map (Completion.writeWeight price)).sum ≤
        (2 + price) * session.writeDone.length := by
    apply sum_weight_le
    intro completion
    unfold Completion.writeWeight
    split <;> omega
  have readQueue : (1 + price) * session.readQueue.length ≤
      (3 + 2 * price) * session.readQueue.length :=
    Nat.mul_le_mul_right _ (by omega)
  have writeQueue : (1 + price) * session.writeQueue.length ≤
      (2 + price) * session.writeQueue.length :=
    Nat.mul_le_mul_right _ (by omega)
  simp only [remaining, reads, writes, List.length_append, List.length_map,
    Nat.mul_add]
  omega

theorem run_remaining (subsides : Subsides handlers)
    (steps : system.step = Session.step handlers)
    (run : system.Run session actions finish) (closed : session.Closed)
    (price : Nat) :
    finish.Closed ∧
      (actions.map (Action.cost price)).sum + finish.remaining price ≤
        session.remaining price := by
  induction run with
  | refl => exact ⟨closed, by simp⟩
  | snoc _ taken induction =>
      obtain ⟨still, accounted⟩ := induction
      rw [steps] at taken
      obtain ⟨_, step⟩ := Session.step_eq_some_iff.mp taken
      obtain ⟨after, cost⟩ := step.remaining subsides still price
      refine ⟨after, ?_⟩
      rw [List.map_append, List.sum_append, List.map_singleton,
        List.sum_singleton]
      omega

private theorem sum_cost_zero (actions : List Action) :
    (actions.map (Action.cost 0)).sum = handlersRun actions := by
  induction actions with
  | nil => rfl
  | cons action actions induction =>
      rw [List.map_cons, List.sum_cons, induction, handlersRun, handlersRun,
        List.countP_cons, Nat.add_comm]
      cases action <;> rfl

private theorem sum_cost_one (actions : List Action) :
    (actions.map (Action.cost 1)).sum = actions.countP (· ≠ .stop) := by
  induction actions with
  | nil => rfl
  | cons action actions induction =>
      rw [List.map_cons, List.sum_cons, induction, List.countP_cons,
        Nat.add_comm]
      cases action <;> rfl

/-- A closed session comes to rest after a bounded number of steps, and then
nothing is outstanding. -/
theorem run_drains (subsides : Subsides handlers)
    (steps : system.step = Session.step handlers)
    (run : system.Run session actions finish) (closed : session.Closed) :
    handlersRun actions ≤
        3 * session.reads.length + 2 * session.writes.length ∧
      actions.countP (· ≠ .stop) ≤
        5 * session.reads.length + 3 * session.writes.length ∧
      ((∀ action, action ≠ .stop → system.step finish action = none) →
        finish.reads = [] ∧ finish.writes = []) := by
  obtain ⟨after, handled⟩ := run_remaining subsides steps run closed 0
  have moved := (run_remaining subsides steps run closed 1).2
  have few := session.remaining_le 0
  have some := session.remaining_le 1
  rw [sum_cost_zero] at handled
  rw [sum_cost_one] at moved
  refine ⟨by omega, by omega, ?_⟩
  intro stuck
  rw [steps] at stuck
  exact after.drained stuck

end Runs

/-- Every run of `system` from `session` runs at most three handlers for each
outstanding read and two for each outstanding write, and takes a bounded number
of steps; when only the stop task is left, no operation is outstanding. -/
def Session.Drains (system : System (Session blockSize Data) Action)
    (session : Session blockSize Data) : Prop :=
  ∀ actions finish, system.Run session actions finish →
    handlersRun actions ≤
        3 * session.reads.length + 2 * session.writes.length ∧
      actions.countP (· ≠ .stop) ≤
        5 * session.reads.length + 3 * session.writes.length ∧
      ((∀ action, action ≠ .stop → system.step finish action = none) →
        finish.reads = [] ∧ finish.writes = [])

/-! ## The two programs -/

section Starts

variable {session middle next : Session blockSize Data}

theorem Session.Starts.more {reads writes : Nat}
    (starts : session.Starts next reads writes) :
    session.Starts next (reads + 1) writes :=
  ⟨Nat.le_succ_of_le starts.readQueue, starts.writeQueue, starts.readDone,
    starts.writeDone, starts.closed⟩

theorem Session.Starts.trans {reads writes moreReads moreWrites : Nat}
    (first : session.Starts middle reads writes)
    (second : middle.Starts next moreReads moreWrites) :
    session.Starts next (reads + moreReads) (writes + moreWrites) where
  readQueue := by
    have before := first.readQueue
    have after := second.readQueue
    omega
  writeQueue := by
    have before := first.writeQueue
    have after := second.writeQueue
    omega
  readDone := second.readDone.trans first.readDone
  writeDone := second.writeDone.trans first.writeDone
  closed closed := second.closed (first.closed closed)

theorem Session.starts_read (session : Session blockSize Data) :
    session.Starts session.read 1 0 := by
  unfold read
  split
  · exact ⟨Nat.le_succ _, Nat.le_refl _, rfl, rfl, fun closed => closed⟩
  · refine ⟨by simp [asyncReadSome], Nat.le_refl _, rfl, rfl, ?_⟩
    rintro ⟨started, closed, runs⟩
    exact ⟨started, closed, runs⟩

theorem Session.starts_write (session : Session blockSize Data)
    (buffer : BufferId) (length : Nat) :
    session.Starts (session.write buffer length) 0 1 := by
  refine ⟨Nat.le_refl _, ?_, rfl, rfl, ?_⟩
  · simp [write, asyncWriteSome]
  · rintro ⟨started, closed, runs⟩
    exact ⟨started, closed, runs⟩

theorem Session.starts_push (session : Session blockSize Data)
    (buffer : BufferId) : session.Starts (session.push buffer) 0 0 := by
  refine ⟨Nat.le_refl _, Nat.le_refl _, rfl, rfl, ?_⟩
  rintro ⟨started, closed, runs⟩
  exact ⟨started, closed, runs⟩

theorem Session.starts_close (session : Session blockSize Data) :
    session.Starts session.close 0 0 := by
  refine ⟨Nat.le_refl _, Nat.le_refl _, rfl, rfl, ?_⟩
  rintro ⟨started, _, runs⟩
  exact ⟨started, rfl, runs⟩

theorem Session.starts_data (session : Session blockSize Data)
    (data : Data) : session.Starts { session with data := data } 0 0 := by
  refine ⟨Nat.le_refl _, Nat.le_refl _, rfl, rfl, ?_⟩
  rintro ⟨started, closed, runs⟩
  exact ⟨started, closed, runs⟩

end Starts

theorem Server2.subsides (blockSize : Nat) : Subsides (handlers blockSize) where
  read buffer count session :=
    (session.starts_write buffer count).trans (Session.starts_read _)
  readError buffer session := session.starts_close
  write buffer count session := by
    have pushed := session.starts_push buffer
    simp only [handlers, writeHandler, Option.isNone_some, Bool.false_eq_true,
      if_false]
    split
    · exact pushed.trans (Session.starts_read _)
    · exact pushed.more
  writeError buffer session := by
    have pushed := session.starts_push buffer
    simp only [handlers, writeHandler, Option.isSome_none, Bool.false_eq_true,
      and_false, if_false, Option.isNone_none, if_true]
    exact pushed.trans (Session.starts_close _)
  stop session next stopped := by cases stopped

theorem Client2.starts_noteError (session : ClientSession blockSize) :
    session.Starts (noteError session) 0 0 := by
  unfold noteError
  split
  · exact session.starts_data session.data
  · exact session.starts_data _

theorem Client2.subsides (blockSize : Nat) : Subsides (handlers blockSize) where
  read buffer count session :=
    ((session.starts_data _).trans (Session.starts_write _ buffer count)).trans
      (Session.starts_read _)
  readError buffer session := starts_noteError session
  write buffer count session := by
    have pushed := session.starts_push buffer
    simp only [handlers, writeHandler]
    split
    · exact (pushed.trans (Session.starts_data _ _)).trans
        (Session.starts_read _)
    · exact (pushed.trans (Session.starts_data _ _)).more
  writeError buffer session :=
    (session.starts_push buffer).trans (starts_noteError _)
  stop session next stopped := by
    cases stopped
    exact (session.starts_data _).trans (Session.starts_close _)

theorem Client2.data_read (session : ClientSession blockSize) :
    (read session).data = session.data :=
  (session.read_frame).2.2.2.2.2.2.2

theorem Client2.data_noteError (session : ClientSession blockSize)
    (wants : session.data.wantClose = true) :
    (noteError session).data = session.data := by
  rw [noteError, if_pos wants]

/-- `session` wants to close, as `before` does, and `error_` is the same. -/
structure Client2.KeepsError (before session : ClientSession blockSize) :
    Prop where
  wantClose : session.data.wantClose = true
  error : session.data.error = before.data.error

theorem Client2.KeepsError.of_data {session next : ClientSession blockSize}
    (wants : session.data.wantClose = true)
    (same : next.data = session.data) : KeepsError session next :=
  ⟨by rw [same, wants], by rw [same]⟩

/-- Once a session wants to close, `error_` keeps its value. -/
theorem Client2.keepsError_step {session next : ClientSession blockSize}
    {action : Action}
    (taken : Session.Step (handlers blockSize) session action next)
    (wants : session.data.wantClose = true) :
    KeepsError session next := by
  cases taken with
  | started starting =>
      apply KeepsError.of_data wants
      simp only [handlers, start]
      split
      · split
        · exact data_read _
        · exact data_read _
      · rfl
  | notStarted starting => exact .of_data wants rfl
  | recv queue fits isOpen arrives => exact .of_data wants rfl
  | readError queue => exact .of_data wants rfl
  | @readHandler completion rest done =>
      obtain ⟨buffer, result⟩ := completion
      cases result with
      | none =>
          apply KeepsError.of_data wants
          exact data_noteError { session with readDone := rest } wants
      | some count =>
          simp only [handlers, readHandler]
          exact ⟨by rw [data_read]; exact wants, by rw [data_read]; rfl⟩
  | send queue isOpen moves room content => exact .of_data wants rfl
  | writeError queue => exact .of_data wants rfl
  | @writeHandler completion rest done =>
      obtain ⟨buffer, result⟩ := completion
      cases result with
      | none =>
          apply KeepsError.of_data wants
          exact data_noteError
            ({ session with writeDone := rest }.push buffer) wants
      | some count =>
          simp only [handlers, writeHandler]
          split
          · exact ⟨by rw [data_read]; exact wants, by rw [data_read]; rfl⟩
          · exact ⟨wants, rfl⟩
  | stop stopped =>
      cases stopped
      exact ⟨rfl, rfl⟩

theorem Client2.keepsError_run {session finish : ClientSession blockSize}
    {actions : List Action}
    (run : (clientSystem blockSize).Run session actions finish)
    (wants : session.data.wantClose = true) : KeepsError session finish := by
  induction run with
  | refl => exact ⟨wants, rfl⟩
  | snoc _ taken induction =>
      obtain ⟨_, step⟩ := Session.step_eq_some_iff.mp taken
      obtain ⟨still, same⟩ := keepsError_step step induction.wantClose
      exact ⟨still, same.trans induction.error⟩

/-- From the first `close()` of a connected `server2` session, and from the stop
task of a connected `client2` session. -/
theorem closed_sessions_drain (blockSize : Nat) :
    (∀ session : Server2.ServerSession blockSize, session.Closed →
      session.Drains (serverSystem blockSize)) ∧
    ∀ session : Client2.ClientSession blockSize,
      session.starting = false → session.threw = false →
      (Client2.stop session).Drains (clientSystem blockSize) ∧
        ∀ actions finish,
          (clientSystem blockSize).Run (Client2.stop session) actions finish →
          finish.data.error = session.data.error := by
  constructor
  · intro session closed actions finish run
    exact run_drains (Server2.subsides blockSize) rfl run closed
  · intro session started runs
    have closed : (Client2.stop session).Closed := ⟨started, rfl, runs⟩
    refine ⟨?_, ?_⟩
    · intro actions finish run
      exact run_drains (Client2.subsides blockSize) rfl run closed
    · intro actions finish run
      exact (Client2.keepsError_run run rfl).error

/-- A server whose write has failed while a read has succeeded: the handlers of
three operations run, as many as there may be.  A client that stops when a read
and a write have succeeded. -/
theorem closed_sessions_drain_reached :
    (∃ session finish : Server2.ServerSession 1,
      (serverSystem 1).Run (Server2.accepting fun _ => .filled 1 0)
        [.started true, .recv [7], .readHandler, .recv [8], .writeError,
          .writeHandler] session ∧
      (serverSystem 1).Run session
        [.readHandler, .writeError, .writeHandler, .readError, .readHandler]
        finish ∧
      (session.reads.length, session.writes.length) = (1, 0) ∧
      3 ≤ 3 * session.reads.length + 2 * session.writes.length) ∧
    ∃ session finish : Client2.ClientSession 1,
      (clientSystem 1).Run (Client2.connecting fun _ => .filled 1 0)
        [.started true, .recv [7], .send [0]] session ∧
      (clientSystem 1).Run (Client2.stop session)
        [.writeHandler, .readHandler, .writeError, .writeHandler, .readError,
          .readHandler] finish ∧
      finish.data.error = false := by
  constructor
  · have ends : ∃ session finish : Server2.ServerSession 1,
        (serverSystem 1).exec (Server2.accepting fun _ => .filled 1 0)
          [.started true, .recv [7], .readHandler, .recv [8], .writeError,
            .writeHandler] = some session ∧
        (serverSystem 1).exec session
          [.readHandler, .writeError, .writeHandler, .readError, .readHandler] =
            some finish ∧
        (session.reads.length, session.writes.length) = (1, 0) ∧
        session.starting = false ∧ session.isOpen = false ∧
        session.threw = false :=
      ⟨_, _, rfl, rfl, rfl, rfl, rfl, rfl⟩
    obtain ⟨session, finish, before, after, counts, started, closed, runs⟩ :=
      ends
    have run := System.run_iff_exec.mpr after
    exact ⟨session, finish, System.run_iff_exec.mpr before, run, counts,
      ((closed_sessions_drain 1).1 session ⟨started, closed, runs⟩ _ _ run).1⟩
  · have ends : ∃ session finish : Client2.ClientSession 1,
        (clientSystem 1).exec (Client2.connecting fun _ => .filled 1 0)
          [.started true, .recv [7], .send [0]] = some session ∧
        (clientSystem 1).exec (Client2.stop session)
          [.writeHandler, .readHandler, .writeError, .writeHandler, .readError,
            .readHandler] = some finish ∧
        session.data.error = false ∧ session.starting = false ∧
        session.threw = false :=
      ⟨_, _, rfl, rfl, rfl, rfl, rfl⟩
    obtain ⟨session, finish, before, after, fine, started, runs⟩ := ends
    have run := System.run_iff_exec.mpr after
    exact ⟨session, finish, System.run_iff_exec.mpr before, run,
      (((closed_sessions_drain 1).2 session started runs).2 _ _ run).trans
        fine⟩

end AsioBenchmark.Pooled
