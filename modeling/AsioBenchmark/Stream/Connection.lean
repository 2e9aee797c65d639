import AsioBenchmark.Bytes.Memory
import AsioBenchmark.Transition.System

/-!
# Connections with one composed operation

A connection owns one block of memory and keeps at most one composed
operation outstanding.  The operation moves its range of the block in chunks
of any size and completes after its full length; its completion handler then
runs and may start the next operation.  The program behind the connection is
a parameter: what its handlers do after a success and after a failure.
-/

namespace AsioBenchmark.Stream

open AsioBenchmark.Bytes AsioBenchmark.Transition

/-- What an operation does with the peer.  `establish` stands for accepting
and connecting, which move no bytes. -/
inductive Direction where
  | establish
  | read
  | write
deriving DecidableEq, Repr

/-- An outstanding operation over `[offset, offset + length)`. -/
structure Operation (Handler : Type) where
  direction : Direction
  offset : Nat
  length : Nat
  transferred : Nat
  handler : Handler
deriving DecidableEq

/-- An operation that has moved its full length can no longer fail; one that
moves no bytes can. -/
def Operation.Unfinished {Handler : Type} (operation : Operation Handler) :
    Prop :=
  operation.transferred ≠ operation.length ∨ operation.length = 0

instance {Handler : Type} (operation : Operation Handler) :
    Decidable operation.Unfinished :=
  inferInstanceAs (Decidable (_ ∨ _))

/-- The block of memory, the other fields of the program, the outstanding
operation and the socket. -/
structure Connection (size : Nat) (Handler Data : Type) where
  buffer : Memory size
  data : Data
  operation : Option (Operation Handler)
  isOpen : Bool

/-- One step of a connection. -/
inductive Action where
  | recv (chunk : List UInt8)
  | send (chunk : List UInt8)
  | complete
  | fail (direction : Direction)
deriving DecidableEq

/-- The handlers of a program; `success` is told the bytes transferred. -/
structure Callbacks (size : Nat) (Handler Data : Type) where
  success : Handler → Nat → Connection size Handler Data →
    Connection size Handler Data
  failure : Handler → Connection size Handler Data →
    Connection size Handler Data

/-- What an observer of the handlers sees: the range an operation covered
when its handler ran, and the range a new operation starts with. -/
inductive Event (Handler : Type) where
  | finished (handler : Handler) (bytes : List UInt8)
  | started (handler : Handler) (bytes : List UInt8)
deriving DecidableEq

namespace Connection

variable {size : Nat} {Handler Data : Type}

/-- `asio::async_read` on `count` bytes from `offset`. -/
def asyncRead (connection : Connection size Handler Data)
    (offset count : Nat) (handler : Handler) : Connection size Handler Data :=
  { connection with operation := some ⟨.read, offset, count, 0, handler⟩ }

/-- `asio::async_write` of `count` bytes from `offset`. -/
def asyncWrite (connection : Connection size Handler Data)
    (offset count : Nat) (handler : Handler) : Connection size Handler Data :=
  { connection with operation := some ⟨.write, offset, count, 0, handler⟩ }

def close (connection : Connection size Handler Data) :
    Connection size Handler Data :=
  { connection with isOpen := false }

/-- The connection after its operation moved `count` more bytes. -/
def advance (connection : Connection size Handler Data)
    (operation : Operation Handler) (count : Nat) :
    Connection size Handler Data :=
  { connection with
    operation := some
      { operation with transferred := operation.transferred + count } }

/-- A read stores the chunk behind the bytes read before.  A chunk that does
not fit into the block has no successor: the program's behaviour is
undefined from there on. -/
def recv (connection : Connection size Handler Data)
    (operation : Operation Handler) (chunk : List UInt8) :
    Option (Connection size Handler Data) :=
  if fits : operation.offset + operation.transferred + chunk.length ≤ size then
    if operation.direction = .read ∧ connection.isOpen = true ∧ chunk ≠ [] ∧
        operation.transferred + chunk.length ≤ operation.length then
      some
        { connection.advance operation chunk.length with
          buffer := connection.buffer.store
            (operation.offset + operation.transferred) chunk fits }
    else none
  else none

/-- A write hands over the bytes behind those written before. -/
def send (connection : Connection size Handler Data)
    (operation : Operation Handler) (chunk : List UInt8) :
    Option (Connection size Handler Data) :=
  if operation.direction = .write ∧ connection.isOpen = true ∧ chunk ≠ [] ∧
      operation.transferred + chunk.length ≤ operation.length ∧
      operation.offset + operation.transferred + chunk.length ≤ size ∧
      connection.buffer.slice (operation.offset + operation.transferred)
        chunk.length = chunk then
    some (connection.advance operation chunk.length)
  else none

def step (callbacks : Callbacks size Handler Data)
    (connection : Connection size Handler Data) (action : Action) :
    Option (Connection size Handler Data) :=
  connection.operation.bind fun operation =>
    let idle := { connection with operation := none }
    match action with
    | .recv chunk => connection.recv operation chunk
    | .send chunk => connection.send operation chunk
    | .complete =>
        if operation.transferred = operation.length then
          some (callbacks.success operation.handler operation.transferred idle)
        else none
    | .fail direction =>
        if operation.direction = direction ∧ operation.Unfinished then
          some (callbacks.failure operation.handler idle)
        else none

/-- The events of a step: a completion shows the range of the operation that
ended and the range of the one its handler started, if any. -/
def observe (connection : Connection size Handler Data) :
    Action → Connection size Handler Data → List (Event Handler)
  | .complete, next =>
      (connection.operation.toList.map fun operation =>
        .finished operation.handler
          (connection.buffer.slice operation.offset operation.length)) ++
      (next.operation.toList.map fun operation =>
        .started operation.handler
          (next.buffer.slice operation.offset operation.length))
  | _, _ => []

variable {callbacks : Callbacks size Handler Data}
  {connection next : Connection size Handler Data}
  {operation : Operation Handler} {action : Action}

theorem step_idle (idle : connection.operation = none) :
    connection.step callbacks action = none := by
  simp [step, idle]

theorem recv_eq_some_iff {chunk : List UInt8} :
    connection.recv operation chunk = some next ↔
      ∃ fits : operation.offset + operation.transferred + chunk.length ≤ size,
        operation.direction = .read ∧ connection.isOpen = true ∧ chunk ≠ [] ∧
        operation.transferred + chunk.length ≤ operation.length ∧
        next =
          { connection.advance operation chunk.length with
            buffer := connection.buffer.store
              (operation.offset + operation.transferred) chunk fits } := by
  unfold recv
  split
  · rename_i fits
    split
    · rename_i guard
      simp [fits, guard, eq_comm]
    · rename_i guard
      constructor
      · intro impossible
        cases impossible
      · rintro ⟨_, direction, isOpen, nonempty, room, _⟩
        exact absurd ⟨direction, isOpen, nonempty, room⟩ guard
  · rename_i tooLong
    simp [tooLong]

theorem send_eq_some_iff {chunk : List UInt8} :
    connection.send operation chunk = some next ↔
      operation.direction = .write ∧ connection.isOpen = true ∧ chunk ≠ [] ∧
        operation.transferred + chunk.length ≤ operation.length ∧
        operation.offset + operation.transferred + chunk.length ≤ size ∧
        connection.buffer.slice (operation.offset + operation.transferred)
          chunk.length = chunk ∧
        next = connection.advance operation chunk.length := by
  unfold send
  split
  · rename_i guard
    simp [guard, eq_comm]
  · rename_i guard
    constructor
    · intro impossible
      cases impossible
    · rintro ⟨direction, isOpen, nonempty, room, fits, content, _⟩
      exact absurd ⟨direction, isOpen, nonempty, room, fits, content⟩ guard

/-- Everything a connection with an outstanding operation can do. -/
theorem step_cases (outstanding : connection.operation = some operation)
    (taken : connection.step callbacks action = some next) :
    (∃ chunk, action = .recv chunk ∧
      connection.recv operation chunk = some next) ∨
    (∃ chunk, action = .send chunk ∧
      connection.send operation chunk = some next) ∨
    (action = .complete ∧ operation.transferred = operation.length ∧
      next = callbacks.success operation.handler operation.transferred
        { connection with operation := none }) ∨
    (action = .fail operation.direction ∧ operation.Unfinished ∧
      next = callbacks.failure operation.handler
        { connection with operation := none }) := by
  simp only [step, outstanding, Option.bind_some] at taken
  cases action with
  | recv chunk => exact .inl ⟨chunk, rfl, taken⟩
  | send chunk => exact .inr (.inl ⟨chunk, rfl, taken⟩)
  | complete =>
      obtain ⟨whole, same⟩ := Option.ite_none_right_eq_some.mp taken
      exact .inr (.inr (.inl ⟨rfl, whole, (Option.some.inj same).symm⟩))
  | fail direction =>
      obtain ⟨⟨same, unfinished⟩, rest⟩ :=
        Option.ite_none_right_eq_some.mp taken
      exact .inr (.inr (.inr
        ⟨by rw [same], unfinished, (Option.some.inj rest).symm⟩))

theorem step_establish_cases
    (outstanding : connection.operation = some operation)
    (direction : operation.direction = .establish)
    (taken : connection.step callbacks action = some next) :
    (action = .complete ∧ operation.transferred = operation.length ∧
      next = callbacks.success operation.handler operation.transferred
        { connection with operation := none }) ∨
    (action = .fail .establish ∧ operation.Unfinished ∧
      next = callbacks.failure operation.handler
        { connection with operation := none }) := by
  rcases step_cases outstanding taken with
    ⟨chunk, rfl, moved⟩ | ⟨chunk, rfl, moved⟩ | completed | ⟨rfl, failed⟩
  · have wrong := (recv_eq_some_iff.mp moved).2.1
    rw [direction] at wrong
    cases wrong
  · have wrong := (send_eq_some_iff.mp moved).1
    rw [direction] at wrong
    cases wrong
  · exact .inl completed
  · exact .inr ⟨by rw [direction], failed⟩

theorem step_read_cases
    (outstanding : connection.operation = some operation)
    (direction : operation.direction = .read)
    (taken : connection.step callbacks action = some next) :
    (∃ chunk, ∃ fits : operation.offset + operation.transferred +
        chunk.length ≤ size,
      action = .recv chunk ∧ connection.isOpen = true ∧ chunk ≠ [] ∧
      operation.transferred + chunk.length ≤ operation.length ∧
      next =
        { connection.advance operation chunk.length with
          buffer := connection.buffer.store
            (operation.offset + operation.transferred) chunk fits }) ∨
    (action = .complete ∧ operation.transferred = operation.length ∧
      next = callbacks.success operation.handler operation.transferred
        { connection with operation := none }) ∨
    (action = .fail .read ∧ operation.Unfinished ∧
      next = callbacks.failure operation.handler
        { connection with operation := none }) := by
  rcases step_cases outstanding taken with
    ⟨chunk, rfl, moved⟩ | ⟨chunk, rfl, moved⟩ | completed | ⟨rfl, failed⟩
  · obtain ⟨fits, _, isOpen, nonempty, room, same⟩ := recv_eq_some_iff.mp moved
    exact .inl ⟨chunk, fits, rfl, isOpen, nonempty, room, same⟩
  · have wrong := (send_eq_some_iff.mp moved).1
    rw [direction] at wrong
    cases wrong
  · exact .inr (.inl completed)
  · exact .inr (.inr ⟨by rw [direction], failed⟩)

theorem step_write_cases
    (outstanding : connection.operation = some operation)
    (direction : operation.direction = .write)
    (taken : connection.step callbacks action = some next) :
    (∃ chunk, action = .send chunk ∧ connection.isOpen = true ∧ chunk ≠ [] ∧
      operation.transferred + chunk.length ≤ operation.length ∧
      connection.buffer.slice (operation.offset + operation.transferred)
        chunk.length = chunk ∧
      next = connection.advance operation chunk.length) ∨
    (action = .complete ∧ operation.transferred = operation.length ∧
      next = callbacks.success operation.handler operation.transferred
        { connection with operation := none }) ∨
    (action = .fail .write ∧ operation.Unfinished ∧
      next = callbacks.failure operation.handler
        { connection with operation := none }) := by
  rcases step_cases outstanding taken with
    ⟨chunk, rfl, moved⟩ | ⟨chunk, rfl, moved⟩ | completed | ⟨rfl, failed⟩
  · have wrong := (recv_eq_some_iff.mp moved).2.1
    rw [direction] at wrong
    cases wrong
  · obtain ⟨_, isOpen, nonempty, room, _, content, same⟩ :=
      send_eq_some_iff.mp moved
    exact .inl ⟨chunk, rfl, isOpen, nonempty, room, content, same⟩
  · exact .inr (.inl completed)
  · exact .inr (.inr ⟨by rw [direction], failed⟩)

/-- On a closed socket no bytes move. -/
theorem step_closed_cases
    (outstanding : connection.operation = some operation)
    (closed : connection.isOpen = false)
    (taken : connection.step callbacks action = some next) :
    (action = .complete ∧ operation.transferred = operation.length ∧
      next = callbacks.success operation.handler operation.transferred
        { connection with operation := none }) ∨
    (action = .fail operation.direction ∧ operation.Unfinished ∧
      next = callbacks.failure operation.handler
        { connection with operation := none }) := by
  rcases step_cases outstanding taken with
    ⟨chunk, rfl, moved⟩ | ⟨chunk, rfl, moved⟩ | ended
  · have wrong := (recv_eq_some_iff.mp moved).2.2.1
    rw [closed] at wrong
    cases wrong
  · have wrong := (send_eq_some_iff.mp moved).2.1
    rw [closed] at wrong
    cases wrong
  · exact ended

theorem step_complete (outstanding : connection.operation = some operation)
    (whole : operation.transferred = operation.length) :
    connection.step callbacks .complete =
      some (callbacks.success operation.handler operation.transferred
        { connection with operation := none }) := by
  simp [step, outstanding, whole]

theorem step_recv (outstanding : connection.operation = some operation)
    (chunk : List UInt8) :
    connection.step callbacks (.recv chunk) =
      connection.recv operation chunk := by
  simp [step, outstanding]

theorem step_send (outstanding : connection.operation = some operation)
    (chunk : List UInt8) :
    connection.step callbacks (.send chunk) =
      connection.send operation chunk := by
  simp [step, outstanding]

theorem step_fail (outstanding : connection.operation = some operation)
    (unfinished : operation.Unfinished) :
    connection.step callbacks (.fail operation.direction) =
      some (callbacks.failure operation.handler
        { connection with operation := none }) := by
  simp [step, outstanding, unfinished]

section Enabled

variable (outstanding : connection.operation = some operation)
  (isOpen : connection.isOpen = true)
  (short : operation.transferred < operation.length)
  (inside : operation.offset + operation.length ≤ size)

include outstanding isOpen short inside

/-- A write that lacks bytes can hand over its next one. -/
theorem exists_send (writing : operation.direction = .write) :
    ∃ chunk next, connection.step callbacks (.send chunk) = some next := by
  have fits : operation.offset + operation.transferred + 1 ≤ size := by omega
  have single := connection.buffer.length_slice fits
  let chunk :=
    connection.buffer.slice (operation.offset + operation.transferred) 1
  have sends : connection.send operation chunk =
      some (connection.advance operation chunk.length) := by
    refine send_eq_some_iff.mpr ⟨writing, isOpen, ?_, ?_, ?_, ?_, rfl⟩
    · apply List.ne_nil_of_length_pos
      exact Nat.lt_of_lt_of_eq Nat.zero_lt_one single.symm
    · rw [single]
      exact short
    · rw [single]
      exact fits
    · rw [single]
  exact ⟨chunk, _, (step_send outstanding chunk).trans sends⟩

/-- A read that lacks bytes can take any byte. -/
theorem exists_recv (reading : operation.direction = .read) (byte : UInt8) :
    ∃ next, connection.step callbacks (.recv [byte]) = some next := by
  have fits : operation.offset + operation.transferred +
      [byte].length ≤ size := by
    simp only [List.length_singleton]
    omega
  have receives := recv_eq_some_iff.mpr
    ⟨fits, reading, isOpen, by simp, short, rfl⟩
  exact ⟨_, (step_recv outstanding [byte]).trans receives⟩

end Enabled

end Connection

end AsioBenchmark.Stream
