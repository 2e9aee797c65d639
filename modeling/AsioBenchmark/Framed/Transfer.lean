import AsioBenchmark.Framed.RangeSafety
import AsioBenchmark.Stream.Window

/-!
# One message on its way between two sessions

A session that writes a message, or reads one, is described by how far it has
got.  Together with the window of the bytes in flight this determines what the
next step of the session on a healthy network can be.
-/

namespace AsioBenchmark.Framed

open AsioBenchmark.Bytes AsioBenchmark.Stream

/-- A header with a body of the length it announces. -/
structure Message where
  header : Header
  body : List UInt8
  announced : header.getBodySize.toNat = body.length
  nonempty : 0 < body.length
  fits : body.length ≤ 10000

namespace Message

def size (message : Message) : Nat :=
  sizeofHeader + message.body.length

def bytes (message : Message) : List UInt8 :=
  message.header.bytes ++ message.body

@[simp] theorem length_bytes (message : Message) :
    message.bytes.length = message.size := by
  simp only [bytes, size, List.length_append, Header.length_bytes]

theorem size_le (message : Message) : message.size ≤ maxBlockSize := by
  have fits := message.fits
  simp only [size, maxBlockSize]
  omega

theorem header_fits (message : Message) : message.header.Fits := by
  simp only [Header.Fits, message.announced]
  exact message.fits

theorem take_header (message : Message) :
    message.bytes.take sizeofHeader = message.header.bytes :=
  List.take_left' (Header.length_bytes _)

theorem drop_header (message : Message) :
    message.bytes.drop sizeofHeader = message.body :=
  List.drop_left' (Header.length_bytes _)

theorem bufferRange (message : Message) :
    bufferRange message.header.getFullSize.toNat = message.size := by
  rw [message.header_fits.bufferRange, message.announced, size]

end Message

variable {Data : Type} {session next : Session Data} {message : Message}

/-- The buffer starts with `message`. -/
def Holds (session : Session Data) (message : Message) : Prop :=
  session.buffer.bytes.take message.size = message.bytes

/-- `session` is writing `message` and has handed over `sent` bytes of it. -/
structure Writing (session : Session Data) (message : Message)
    (sent : Nat) : Prop where
  outstanding : session.operation =
    some ⟨.write, 0, message.size, sent, .write⟩
  bounded : sent ≤ message.size
  content : Holds session message
  isOpen : session.isOpen = true

/-- `session` is reading the header of `message`. -/
structure ReadingHead (session : Session Data) (message : Message)
    (received : Nat) : Prop where
  outstanding : session.operation =
    some ⟨.read, 0, sizeofHeader, received, .readHead⟩
  bounded : received ≤ sizeofHeader
  content : session.buffer.bytes.take received = message.bytes.take received
  isOpen : session.isOpen = true

/-- `session` has the header of `message` and is reading its body. -/
structure ReadingBody (session : Session Data) (message : Message)
    (done : Nat) : Prop where
  outstanding : session.operation =
    some ⟨.read, sizeofHeader, message.body.length, done, .readBody⟩
  bounded : done ≤ message.body.length
  content : session.buffer.bytes.take (sizeofHeader + done) =
    message.bytes.take (sizeofHeader + done)
  isOpen : session.isOpen = true

/-- The session waits for the first byte of a message. -/
structure Waiting (session : Session Data) : Prop where
  outstanding : session.operation =
    some ⟨.read, 0, sizeofHeader, 0, .readHead⟩
  isOpen : session.isOpen = true

/-- The session has closed its socket and does nothing any more. -/
structure Closed (session : Session Data) : Prop where
  idle : session.operation = none
  isClosed : session.isOpen = false

theorem Waiting.reading (waiting : Waiting session) (message : Message) :
    ReadingHead session message 0 :=
  { outstanding := waiting.outstanding
    bounded := Nat.zero_le _
    content := by simp
    isOpen := waiting.isOpen }

theorem Holds.header (holds : Holds session message) :
    session.header = message.header := by
  have covered : sizeofHeader ≤ message.size := Nat.le_add_right _ _
  rw [Session.header, ← Header.view_take _ _ covered, holds, Message.bytes,
    Header.view_bytes_append]

theorem Holds.body (holds : Holds session message) :
    session.buffer.slice sizeofHeader message.body.length = message.body := by
  have whole : session.buffer.bytes.take message.size = message.bytes := holds
  have body := congrArg (List.drop sizeofHeader) whole
  rw [Message.drop_header, List.drop_take, Message.size,
    Nat.add_sub_cancel_left] at body
  exact body

/-- Overwriting the header leaves the body. -/
theorem Holds.setHeader (session : Session Data) {header : Header}
    {written : Message} (sameHeader : written.header = header)
    (sameBody : session.buffer.slice sizeofHeader written.body.length =
      written.body) :
    Holds (session.setHeader header) written := by
  rw [Holds, Session.setHeader_bytes, Message.size, Message.bytes, sameHeader,
    ← Header.length_bytes header, List.take_length_add_append]
  exact congrArg _ sameBody

/-- The weights make up for the operations that a handler starts. -/
def Handler.ahead : Handler → Nat
  | .readBody => 1
  | .readHead => 10010
  | .write => 10020
  | .start => 10020

/-- What is left to do for the outstanding operation of a session. -/
def effort (session : Session Data) : Nat :=
  match session.operation with
  | none => 0
  | some operation =>
      operation.length - operation.transferred + operation.handler.ahead

theorem effort_some {operation : Operation Handler}
    (outstanding : session.operation = some operation) :
    effort session =
      operation.length - operation.transferred + operation.handler.ahead := by
  simp only [effort, outstanding]

theorem effort_none (idle : session.operation = none) :
    effort session = 0 := by
  simp only [effort, idle]

theorem effort_le (inside : RangesInside session) :
    effort session ≤ 20028 := by
  cases outstanding : session.operation with
  | none =>
      rw [effort_none outstanding]
      exact Nat.zero_le _
  | some operation =>
      have bound := (inside operation outstanding).1
      simp only [maxBlockSize, sizeofHeader] at bound
      rw [effort_some outstanding]
      cases operation.handler <;> simp only [Handler.ahead] <;> omega

theorem Writing.rangesInside {sent : Nat}
    (writing : Writing session message sent) : RangesInside session := by
  have same := writing.content.header
  refine rangesInside_write sent ?_ ?_
  · rw [writing.outstanding, same, message.announced, Message.size]
  · rw [same]
    exact message.header_fits

theorem ReadingHead.rangesInside {received : Nat}
    (reading : ReadingHead session message received) :
    RangesInside session :=
  rangesInside_head received reading.outstanding

theorem ReadingBody.rangesInside {done : Nat}
    (reading : ReadingBody session message done) : RangesInside session := by
  intro operation same
  rw [reading.outstanding] at same
  cases same
  exact ⟨message.size_le, by intro impossible; cases impossible⟩

theorem Closed.rangesInside (closed : Closed session) :
    RangesInside session :=
  rangesInside_idle closed.idle

/-! ## Steps on a healthy network -/

/-- A step of a session with its effect on the queues. -/
structure Moves (callbacks : Callbacks maxBlockSize Handler Data)
    (session : Session Data) (action : Action) (next : Session Data)
    (peerOpen : Bool) (queues after : Queues) : Prop where
  taken : session.step callbacks action = some next
  carried : (traffic action).carry session.isOpen peerOpen queues = some after

variable {callbacks : Callbacks maxBlockSize Handler Data} {action : Action}
  {peerOpen : Bool} {queues after : Queues}

theorem Closed.not_moves (closed : Closed session) :
    ¬Moves callbacks session action next peerOpen queues after := by
  intro moves
  have taken := moves.taken
  rw [Connection.step_idle closed.idle] at taken
  cases taken

/-- A session that writes hands over the next bytes, completes, or finds that
its peer has closed. -/
theorem Writing.moves {sent : Nat} (writing : Writing session message sent)
    (moves : Moves callbacks session action next peerOpen queues after) :
    (∃ later, sent < later ∧ action ≠ .complete ∧
      Writing next message later ∧ next.data = session.data ∧
      next.buffer = session.buffer ∧ after.incoming = queues.incoming ∧
      ∀ received, Window message.bytes received sent queues.outgoing →
        Window message.bytes received later after.outgoing) ∨
    (action = .complete ∧ sent = message.size ∧ after = queues ∧
      next = callbacks.success .write message.size
        { session with operation := none }) ∨
    (action ≠ .complete ∧ peerOpen = false ∧ sent < message.size ∧
      after = queues ∧
      next = callbacks.failure .write { session with operation := none }) := by
  have carried := moves.carried
  have bounded := writing.bounded
  rcases Connection.step_write_cases writing.outstanding rfl moves.taken with
    ⟨chunk, rfl, _, nonempty, room, content, rfl⟩ | ⟨rfl, whole, same⟩ |
      ⟨rfl, unfinished, same⟩
  · left
    have positive := List.length_pos_iff.mpr nonempty
    change sent + chunk.length ≤ message.size at room
    change session.buffer.slice (0 + sent) chunk.length = chunk at content
    simp only [traffic, Traffic.carry_send, Option.some.injEq] at carried
    subst after
    have inMessage : (message.bytes.drop sent).take chunk.length = chunk := by
      rw [← writing.content, List.drop_take, List.take_take,
        Nat.min_eq_left (by omega), ← Nat.zero_add sent]
      exact content
    refine ⟨sent + chunk.length, by omega, by simp, ⟨rfl, room,
      writing.content, writing.isOpen⟩, rfl, rfl, rfl, ?_⟩
    intro received window
    exact window.send (by rw [Message.length_bytes]; exact room) inMessage
  · right
    left
    change sent = message.size at whole
    subst whole
    simp only [traffic, Traffic.carry_quiet, Option.some.injEq] at carried
    exact ⟨rfl, rfl, carried.symm, same⟩
  · right
    right
    obtain ⟨allowed, unchanged⟩ :=
      Traffic.carry_writeError_eq_some_iff.mp carried
    rw [writing.isOpen] at allowed
    have positive : 0 < message.size := Nat.add_pos_left (by decide) _
    simp only [Operation.Unfinished] at unfinished
    refine ⟨by simp, ?_, by omega, unchanged, same⟩
    rcases allowed with impossible | peer
    · cases impossible
    · exact peer

/-- What a session that reads `message` finds in the queue. -/
private theorem recv_window {chunk : List UInt8} {received sent : Nat}
    {memory : Memory maxBlockSize}
    (carried : (Traffic.recv chunk).carry true peerOpen queues = some after)
    (window : Window message.bytes received sent queues.incoming)
    (content : memory.bytes.take received = message.bytes.take received)
    (fits : received + chunk.length ≤ maxBlockSize) :
    (message.bytes.drop received).take chunk.length = chunk ∧
      Window message.bytes (received + chunk.length) sent after.incoming ∧
      after.outgoing = queues.outgoing ∧
      (memory.store received chunk fits).bytes.take
          (received + chunk.length) =
        message.bytes.take (received + chunk.length) := by
  obtain ⟨incoming, outgoing⟩ :=
    Traffic.carry_recv_eq_some_iff.mp carried
  rw [incoming] at window
  obtain ⟨_, found, moved⟩ := window.recv
  refine ⟨found, moved, outgoing, ?_⟩
  calc
    (memory.store received chunk fits).bytes.take (received + chunk.length) =
        memory.bytes.take received ++ chunk := memory.take_store _ _ _
    _ = message.bytes.take received ++
          (message.bytes.drop received).take chunk.length := by
      rw [content, found]
    _ = message.bytes.take (received + chunk.length) := List.take_add.symm

/-- A read fails only when the peer has closed and nothing is in flight. -/
private theorem readError_window {received sent : Nat}
    (carried : Traffic.readError.carry true peerOpen queues = some after)
    (window : Window message.bytes received sent queues.incoming) :
    peerOpen = false ∧ received = sent ∧ after = queues := by
  obtain ⟨allowed, unchanged⟩ :=
    Traffic.carry_readError_eq_some_iff.mp carried
  rcases allowed with impossible | ⟨peer, drained⟩
  · cases impossible
  · rw [drained] at window
    exact ⟨peer, window.eq_of_nil, unchanged⟩

/-- A session that reads a header stores the next bytes, goes on to the body,
or finds the end of the stream. -/
theorem ReadingHead.moves {received sent : Nat}
    (program : FramedCallbacks callbacks)
    (reading : ReadingHead session message received)
    (moves : Moves callbacks session action next peerOpen queues after)
    (window : Window message.bytes received sent queues.incoming) :
    (∃ later, received < later ∧ action ≠ .complete ∧
      ReadingHead next message later ∧ next.data = session.data ∧
      next.buffer.bytes.drop sizeofHeader =
        session.buffer.bytes.drop sizeofHeader ∧
      after.outgoing = queues.outgoing ∧
      Window message.bytes later sent after.incoming) ∨
    (action = .complete ∧ received = sizeofHeader ∧ after = queues ∧
      ReadingBody next message 0 ∧ next.data = session.data ∧
      next.buffer = session.buffer) ∨
    (action ≠ .complete ∧ peerOpen = false ∧ received = sent ∧
      received < message.size ∧ after = queues ∧
      next = callbacks.failure .readHead
        { session with operation := none }) := by
  have carried := moves.carried
  rw [reading.isOpen] at carried
  rcases Connection.step_read_cases reading.outstanding rfl moves.taken with
    ⟨chunk, fits, rfl, _, nonempty, room, rfl⟩ | ⟨rfl, whole, rfl⟩ |
      ⟨rfl, unfinished, same⟩
  · left
    have positive := List.length_pos_iff.mpr nonempty
    change received + chunk.length ≤ sizeofHeader at room
    simp only [Nat.zero_add] at fits
    obtain ⟨_, moved, outgoing, stored⟩ :=
      recv_window carried window reading.content fits
    refine ⟨received + chunk.length, by omega, by simp, ⟨rfl, room, ?_,
      reading.isOpen⟩, rfl, ?_, outgoing, moved⟩
    · simp only [Nat.zero_add]
      exact stored
    · simp only [Nat.zero_add]
      have untouched := session.buffer.drop_store received chunk fits
      have split : sizeofHeader = received + chunk.length +
          (sizeofHeader - (received + chunk.length)) := by omega
      rw [split, ← List.drop_drop, untouched, List.drop_drop]
  · right
    left
    change received = sizeofHeader at whole
    subst whole
    simp only [traffic, Traffic.carry_quiet, Option.some.injEq] at carried
    have content := reading.content
    have same : session.header = message.header := by
      rw [Session.header, ← Header.view_take _ _ (Nat.le_refl _), content,
        message.take_header, ← List.append_nil message.header.bytes,
        Header.view_bytes_append]
    have announced : Session.header { session with operation := none } =
        message.header := same
    rw [program.afterHead]
    refine ⟨rfl, rfl, carried.symm, ⟨?_, Nat.zero_le _, content,
      reading.isOpen⟩, rfl, rfl⟩
    simp only [Connection.asyncRead, announced, message.announced]
  · right
    right
    obtain ⟨peer, drained, unchanged⟩ := readError_window carried window
    have bounded := reading.bounded
    have body := message.nonempty
    have short : received < message.size := by
      simp only [Message.size]
      omega
    exact ⟨by simp, peer, drained, short, unchanged, same⟩

/-- A session that reads a body stores the next bytes, has the message, or
finds the end of the stream. -/
theorem ReadingBody.moves {done sent : Nat}
    (reading : ReadingBody session message done)
    (moves : Moves callbacks session action next peerOpen queues after)
    (window : Window message.bytes (sizeofHeader + done) sent
      queues.incoming) :
    (∃ later, done < later ∧ action ≠ .complete ∧
      ReadingBody next message later ∧ next.data = session.data ∧
      (session.buffer.slice sizeofHeader message.body.length =
        message.body → next.buffer = session.buffer) ∧
      after.outgoing = queues.outgoing ∧
      Window message.bytes (sizeofHeader + later) sent after.incoming) ∨
    (action = .complete ∧ done = message.body.length ∧ after = queues ∧
      Holds session message ∧
      next = callbacks.success .readBody message.body.length
        { session with operation := none }) ∨
    (action ≠ .complete ∧ peerOpen = false ∧ sizeofHeader + done = sent ∧
      done < message.body.length ∧ after = queues ∧
      next = callbacks.failure .readBody
        { session with operation := none }) := by
  have carried := moves.carried
  rw [reading.isOpen] at carried
  rcases Connection.step_read_cases reading.outstanding rfl moves.taken with
    ⟨chunk, fits, rfl, _, nonempty, room, rfl⟩ | ⟨rfl, whole, same⟩ |
      ⟨rfl, unfinished, same⟩
  · left
    have positive := List.length_pos_iff.mpr nonempty
    change done + chunk.length ≤ message.body.length at room
    obtain ⟨found, moved, outgoing, stored⟩ :=
      recv_window carried window reading.content fits
    rw [Nat.add_assoc] at moved stored
    refine ⟨done + chunk.length, by omega, by simp, ⟨rfl, room, stored,
      reading.isOpen⟩, rfl, ?_, outgoing, moved⟩
    intro present
    refine Memory.store_slice _ _ _ fits ?_
    change (session.buffer.bytes.drop (sizeofHeader + done)).take
      chunk.length = chunk
    calc
      (session.buffer.bytes.drop (sizeofHeader + done)).take chunk.length =
          ((session.buffer.slice sizeofHeader message.body.length).drop
            done).take chunk.length := by
        rw [Memory.slice, List.drop_take, List.take_take, List.drop_drop,
          Nat.min_eq_left (by omega)]
      _ = (message.body.drop done).take chunk.length := by rw [present]
      _ = (message.bytes.drop (sizeofHeader + done)).take chunk.length := by
        rw [← message.drop_header, List.drop_drop]
      _ = chunk := found
  · right
    left
    change done = message.body.length at whole
    subst whole
    simp only [traffic, Traffic.carry_quiet, Option.some.injEq] at carried
    refine ⟨rfl, rfl, carried.symm, ?_, same⟩
    rw [Holds, Message.size, reading.content]
    apply List.take_of_length_le
    simp [Message.size]
  · right
    right
    obtain ⟨peer, drained, unchanged⟩ := readError_window carried window
    have body := message.nonempty
    have bounded := reading.bounded
    simp only [Operation.Unfinished] at unfinished
    exact ⟨by simp, peer, drained, by omega, unchanged, same⟩

/-! ## Enabled steps -/

/-- Some step of the session is enabled. -/
def CanMove (callbacks : Callbacks maxBlockSize Handler Data)
    (session : Session Data) (peerOpen : Bool) (queues : Queues) : Prop :=
  ∃ action next after,
    Moves callbacks session action next peerOpen queues after

theorem canMove_complete {operation : Operation Handler}
    (outstanding : session.operation = some operation)
    (whole : operation.transferred = operation.length) :
    CanMove callbacks session peerOpen queues :=
  ⟨.complete, _, queues, Connection.step_complete outstanding whole, rfl⟩

theorem Writing.canMove {sent : Nat} (writing : Writing session message sent) :
    CanMove callbacks session peerOpen queues := by
  have bounded := writing.bounded
  by_cases whole : sent = message.size
  · exact canMove_complete writing.outstanding whole
  · have short : sent < message.size := by omega
    have inside : 0 + message.size ≤ maxBlockSize := by
      rw [Nat.zero_add]
      exact message.size_le
    obtain ⟨chunk, next, sends⟩ := Connection.exists_send
      writing.outstanding writing.isOpen short inside rfl
    exact ⟨.send chunk, next, _, sends, rfl⟩

/-- A read that lacks bytes can take one that is in flight. -/
theorem canMove_recv {operation : Operation Handler}
    (outstanding : session.operation = some operation)
    (reading : operation.direction = .read)
    (isOpen : session.isOpen = true)
    (short : operation.transferred < operation.length)
    (inside : operation.offset + operation.length ≤ maxBlockSize)
    (arriving : queues.incoming ≠ []) :
    CanMove callbacks session peerOpen queues := by
  obtain ⟨incoming, outgoing⟩ := queues
  obtain ⟨byte, rest, rfl⟩ := List.exists_cons_of_ne_nil arriving
  obtain ⟨next, receives⟩ := Connection.exists_recv outstanding isOpen short
    inside reading byte
  exact ⟨.recv [byte], next, ⟨rest, outgoing⟩, receives,
    Traffic.carry_recv_eq_some_iff.mpr ⟨rfl, rfl⟩⟩

theorem ReadingHead.canMove {received sent : Nat}
    (reading : ReadingHead session message received)
    (window : Window message.bytes received sent queues.incoming)
    (whole : sent = message.size) :
    CanMove callbacks session peerOpen queues := by
  have bounded := reading.bounded
  by_cases complete : received = sizeofHeader
  · exact canMove_complete reading.outstanding complete
  · refine canMove_recv reading.outstanding rfl reading.isOpen ?_ ?_ ?_
    · change received < sizeofHeader
      omega
    · change 0 + sizeofHeader ≤ maxBlockSize
      decide
    · intro drained
      rw [drained] at window
      have same := window.eq_of_nil
      have body := message.nonempty
      simp only [Message.size] at whole
      omega

theorem ReadingBody.canMove {done sent : Nat}
    (reading : ReadingBody session message done)
    (window : Window message.bytes (sizeofHeader + done) sent
      queues.incoming)
    (whole : sent = message.size) :
    CanMove callbacks session peerOpen queues := by
  have bounded := reading.bounded
  by_cases complete : done = message.body.length
  · exact canMove_complete reading.outstanding complete
  · refine canMove_recv reading.outstanding rfl reading.isOpen ?_
      message.size_le ?_
    · change done < message.body.length
      omega
    · intro drained
      rw [drained] at window
      have same := window.eq_of_nil
      simp only [Message.size] at whole
      omega

end AsioBenchmark.Framed
