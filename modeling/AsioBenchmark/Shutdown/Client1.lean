import AsioBenchmark.Block.Session
import AsioBenchmark.Shutdown.Program

/-!
# The sessions of `client1` on a thread

The network ends an operation and queues its handler with the result in one
step.  Closing the socket does not change what is queued; an operation on a
closed socket can only fail.  `set_option` throws on a closed socket.
-/

namespace AsioBenchmark.Shutdown

open AsioBenchmark.Stream

namespace Client1

/-- The queued handler of an operation with its result. -/
inductive Completion where
  | success (handler : Block.Handler) (count : Nat)
  | failure (handler : Block.Handler)

variable {blockSize : Nat}

/-- An operation that has moved all its bytes has succeeded. -/
def conclude (session : Block.Client1.ClientSession blockSize) :
    Block.Client1.ClientSession blockSize × Option Completion :=
  match session.operation with
  | none => (session, none)
  | some operation =>
      if operation.transferred = operation.length then
        ({ session with operation := none },
          some (.success operation.handler operation.transferred))
      else (session, none)

def network (session : Block.Client1.ClientSession blockSize)
    (action : Action) :
    Option (Block.Client1.ClientSession blockSize × Option Completion) :=
  session.operation.bind fun operation =>
    match action with
    | .recv chunk => (session.recv operation chunk).map conclude
    | .send chunk => (session.send operation chunk).map conclude
    | .complete =>
        if session.isOpen = true ∧
            operation.transferred = operation.length then
          some (conclude session)
        else none
    | .fail direction =>
        if operation.direction = direction then
          some ({ session with operation := none },
            some (.failure operation.handler))
        else none

def handle (completion : Completion)
    (session : Block.Client1.ClientSession blockSize) :
    Option (Block.Client1.ClientSession blockSize) :=
  match completion with
  | .success handler count =>
      if handler = .start ∧ session.isOpen = false then none
      else
        some ((Block.Client1.callbacks blockSize).success handler count session)
  | .failure handler =>
      some ((Block.Client1.callbacks blockSize).failure handler session)

def connects : Completion → Bool
  | .success handler _ => decide (handler = .start)
  | .failure _ => false

def failed : Completion → Bool
  | .success _ _ => false
  | .failure _ => true

/-- The bytes that the outstanding operation has still to move, and its end. -/
def effort (session : Block.Client1.ClientSession blockSize) : Nat :=
  session.operation.elim 0 fun operation =>
    operation.length - operation.transferred + 1

end Client1

def client1 (blockSize : Nat) :
    Client (Block.Client1.ClientSession blockSize) Action
      Client1.Completion where
  network := Client1.network
  handle := Client1.handle
  stop := Block.Client1.Session.stop
  isOpen := Connection.isOpen
  idle session := session.operation.isNone
  connects := Client1.connects

namespace Client1

variable {blockSize : Nat}
  {session next : Block.Client1.ClientSession blockSize} {action : Action}
  {answer : Option Completion}

/-- What `conclude` makes of an operation. -/
theorem conclude_cases {operation : Operation Block.Handler}
    (outstanding : session.operation = some operation) :
    (conclude session = ({ session with operation := none },
        some (.success operation.handler operation.transferred)) ∧
      operation.transferred = operation.length) ∨
    (conclude session = (session, none) ∧
      operation.transferred ≠ operation.length) := by
  simp only [conclude, outstanding]
  split
  · rename_i whole
    exact .inl ⟨rfl, whole⟩
  · rename_i short
    exact .inr ⟨rfl, short⟩

/-- What the network does to a session. -/
structure Moved (session next : Block.Client1.ClientSession blockSize)
    (answer : Option Completion) : Prop where
  isOpen : next.isOpen = session.isOpen
  less : effort next < effort session
  answered : (answer = none ∧ effort next ≠ 0) ∨
    (∃ handler count, answer = some (.success handler count) ∧
      session.isOpen = true) ∨
    ∃ handler, answer = some (.failure handler)

private theorem moved_of_advance {operation : Operation Block.Handler}
    (outstanding : session.operation = some operation)
    (isOpen : session.isOpen = true) {count : Nat} (positive : 0 < count)
    (room : operation.transferred + count ≤ operation.length)
    {moving : Block.Client1.ClientSession blockSize}
    (concluded : conclude moving = (next, answer))
    (same : moving.isOpen = session.isOpen)
    (further : moving.operation =
      some { operation with transferred := operation.transferred + count }) :
    Moved session next answer := by
  rcases conclude_cases further with ⟨success, _⟩ | ⟨continues, _⟩
  · rw [success] at concluded
    cases concluded
    refine ⟨same, ?_, .inr (.inl ⟨_, _, rfl, isOpen⟩)⟩
    simp [effort, outstanding]
  · rw [continues] at concluded
    cases concluded
    refine ⟨same, ?_, .inl ⟨rfl, ?_⟩⟩
    · simp only [effort, further, outstanding, Option.elim_some]
      omega
    · simp [effort, further]

theorem network_moved (moves : network session action = some (next, answer)) :
    Moved session next answer := by
  obtain ⟨operation, outstanding, moves⟩ := Option.bind_eq_some_iff.mp moves
  have positive : 0 < effort session := by
    simp [effort, outstanding]
  cases action with
  | recv chunk =>
      obtain ⟨moving, received, concluded⟩ := Option.map_eq_some_iff.mp moves
      obtain ⟨_, _, isOpen, nonempty, room, rfl⟩ :=
        Connection.recv_eq_some_iff.mp received
      exact moved_of_advance outstanding isOpen
        (List.length_pos_iff.mpr nonempty) room concluded rfl rfl
  | send chunk =>
      obtain ⟨moving, sent, concluded⟩ := Option.map_eq_some_iff.mp moves
      obtain ⟨_, isOpen, nonempty, room, _, _, rfl⟩ :=
        Connection.send_eq_some_iff.mp sent
      exact moved_of_advance outstanding isOpen
        (List.length_pos_iff.mpr nonempty) room concluded rfl rfl
  | complete =>
      obtain ⟨⟨isOpen, whole⟩, same⟩ := Option.ite_none_right_eq_some.mp moves
      have concluded : conclude session = (next, answer) :=
        Option.some.inj same
      rcases conclude_cases outstanding with ⟨success, _⟩ | ⟨_, short⟩
      · rw [success] at concluded
        cases concluded
        exact ⟨rfl, positive, .inr (.inl ⟨_, _, rfl, isOpen⟩)⟩
      · exact absurd whole short
  | fail direction =>
      obtain ⟨_, same⟩ := Option.ite_none_right_eq_some.mp moves
      cases same
      exact ⟨rfl, positive, .inr (.inr ⟨_, rfl⟩)⟩

/-- The handlers keep the socket, and start no more than one operation on the
buffer. -/
theorem success_cases (handler : Block.Handler) (count : Nat)
    (defined : ¬ (handler = .start ∧ session.isOpen = false)) :
    ((Block.Client1.callbacks blockSize).success handler count
        session).isOpen = session.isOpen ∧
      effort ((Block.Client1.callbacks blockSize).success handler count
        session) = blockSize + 1 := by
  cases handler with
  | start =>
      have isOpen : session.isOpen = true := by simpa using defined
      simp only [Block.Client1.callbacks, Block.Client1.Session.connected,
        if_pos isOpen]
      exact ⟨rfl, rfl⟩
  | write => exact ⟨rfl, rfl⟩
  | read => exact ⟨rfl, rfl⟩

theorem failure_cases (handler : Block.Handler) :
    ((Block.Client1.callbacks blockSize).failure handler session).isOpen =
        session.isOpen ∧
      effort ((Block.Client1.callbacks blockSize).failure handler session) =
        effort session := by
  have failed : (Block.Client1.Session.failed session).isOpen =
        session.isOpen ∧
      effort (Block.Client1.Session.failed session) = effort session := by
    unfold Block.Client1.Session.failed
    split
    · exact ⟨rfl, rfl⟩
    · exact ⟨rfl, rfl⟩
  cases handler with
  | start => exact ⟨rfl, rfl⟩
  | write => exact failed
  | read => exact failed

theorem handle_cases {completion : Completion}
    (handles : handle completion session = some next) :
    next.isOpen = session.isOpen ∧
      effort next ≤ effort session + (blockSize + 1) ∧
      (failed completion = true → effort next ≤ effort session) := by
  cases completion with
  | success handler count =>
      obtain ⟨defined, same⟩ := Option.ite_none_left_eq_some.mp handles
      cases same
      obtain ⟨kept, works⟩ := success_cases handler count defined
      refine ⟨kept, ?_, fun isFailed => absurd isFailed (by simp [failed])⟩
      rw [works]
      exact Nat.le_add_left _ _
  | failure handler =>
      cases handles
      obtain ⟨kept, works⟩ := failure_cases handler
      exact ⟨kept, by omega, fun _ => Nat.le_of_eq works⟩

theorem handle_none {completion : Completion} :
    handle completion session = none ↔
      connects completion = true ∧ session.isOpen = false := by
  cases completion with
  | success handler count => simp [handle, connects]
  | failure handler => simp [handle, connects]

theorem laws (blockSize : Nat) :
    (client1 blockSize).Laws effort failed (blockSize + 1) where
  idle_iff session := by
    cases outstanding : session.operation with
    | none => simp [client1, effort, outstanding]
    | some operation => simp [client1, effort, outstanding]
  network_isOpen moves := (network_moved moves).isOpen
  network_effort moves := (network_moved moves).less
  network_none moves := by
    rcases (network_moved moves).answered with
      ⟨_, works⟩ | ⟨_, _, answer, _⟩ | ⟨_, answer⟩
    · exact works
    · cases answer
    · cases answer
  network_closed moves closed := by
    rcases (network_moved moves).answered with
      ⟨answer, _⟩ | ⟨_, _, _, isOpen⟩ | ⟨_, answer⟩
    · cases answer
    · exact absurd (isOpen.symm.trans closed) (by simp)
    · cases answer
      rfl
  network_exists session works := by
    cases outstanding : session.operation with
    | none => simp [effort, outstanding] at works
    | some operation =>
        refine ⟨.fail operation.direction, ({ session with operation := none },
          some (.failure operation.handler)), ?_⟩
        simp [client1, network, outstanding]
  handle_isOpen handles := (handle_cases handles).1
  handle_effort handles := (handle_cases handles).2.1
  handle_failed isFailed handles := (handle_cases handles).2.2 isFailed
  handle_none := handle_none
  connects_failed := by
    intro completion isFailed
    cases completion with
    | success handler count => cases isFailed
    | failure handler => rfl
  stop_isOpen session := rfl
  stop_effort session := Nat.le_refl _

end Client1

end AsioBenchmark.Shutdown
