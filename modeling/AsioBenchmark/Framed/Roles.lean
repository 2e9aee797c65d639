import AsioBenchmark.Framed.Exchange

/-!
# Sender and receiver

While one session sends a message the other one receives it.  The file says
what a step of either role can be, and what the observer of a session has seen
of the messages after it.
-/

namespace AsioBenchmark.Framed

open AsioBenchmark.Bytes AsioBenchmark.Stream AsioBenchmark.Transition

/-! ## What a session has shown so far -/

/-- A session that exchanges `mine` for `theirs` has started to write
`written` messages and has read `heads` headers and `bodies` bodies. -/
structure Log (mine theirs : Nat → Message) (events : List (Event Handler))
    (written heads bodies : Nat) : Prop where
  written : messagesWritten events =
    (List.range written).map fun round => (mine round).bytes
  heads : headersRead events =
    (List.range heads).map fun round => (theirs round).header
  bodies : bodiesRead events =
    (List.range bodies).map fun round => (theirs round).body

section Logs

variable {Data : Type} {session next : Session Data} {action : Action}
  {operation : Operation Handler} {mine theirs : Nat → Message}
  {events new : List (Event Handler)} {written heads bodies : Nat}

theorem Log.empty : Log mine theirs [] 0 0 0 :=
  { written := rfl
    heads := rfl
    bodies := rfl }

private theorem range_map_append {α : Type} (value : Nat → α) (count : Nat)
    (more : Bool) :
    (List.range count).map value ++ (if more then [value count] else []) =
      (List.range (count + more.toNat)).map value := by
  cases more <;> simp [List.range_succ]

/-- At most one message, one header and one body are new. -/
theorem Log.append (log : Log mine theirs events written heads bodies)
    (wrote readHead readBody : Bool)
    (newWritten : messagesWritten new =
      if wrote then [(mine written).bytes] else [])
    (newHeads : headersRead new =
      if readHead then [(theirs heads).header] else [])
    (newBodies : bodiesRead new =
      if readBody then [(theirs bodies).body] else []) :
    Log mine theirs (events ++ new) (written + wrote.toNat)
      (heads + readHead.toNat) (bodies + readBody.toNat) := by
  have writtenSplit : messagesWritten (events ++ new) =
      messagesWritten events ++ messagesWritten new := List.filterMap_append
  have headsSplit : headersRead (events ++ new) =
      headersRead events ++ headersRead new := List.filterMap_append
  have bodiesSplit : bodiesRead (events ++ new) =
      bodiesRead events ++ bodiesRead new := List.filterMap_append
  constructor
  · rw [writtenSplit, newWritten, log.written]
    exact range_map_append (fun round => (mine round).bytes) written wrote
  · rw [headsSplit, newHeads, log.heads]
    exact range_map_append (fun round => (theirs round).header) heads readHead
  · rw [bodiesSplit, newBodies, log.bodies]
    exact range_map_append (fun round => (theirs round).body) bodies readBody

theorem Log.quiet (log : Log mine theirs events written heads bodies)
    (quiet : action ≠ .complete) :
    Log mine theirs (events ++ session.observe action next) written heads
      bodies := by
  have nothing : session.observe action next = [] := by
    cases action with
    | complete => exact absurd rfl quiet
    | recv chunk => rfl
    | send chunk => rfl
    | fail direction => rfl
  rw [nothing, List.append_nil]
  exact log

theorem observe_complete (outstanding : session.operation = some operation) :
    session.observe .complete next =
      .finished operation.handler
          (session.buffer.slice operation.offset operation.length) ::
        next.operation.toList.map fun started =>
          .started started.handler
            (next.buffer.slice started.offset started.length) := by
  simp [Connection.observe, outstanding]

/-- The handler of a connection or of a write starts no write. -/
theorem Log.rests (log : Log mine theirs events written heads bodies)
    (outstanding : session.operation = some operation)
    (other : operation.handler = .start ∨ operation.handler = .write)
    (rests : next.operation = none ∨ Waiting next) :
    Log mine theirs (events ++ session.observe .complete next) written heads
      bodies := by
  rw [observe_complete outstanding]
  apply log.append false false false <;>
    rcases other with handler | handler <;>
    rcases rests with idle | waiting <;>
    simp [messagesWritten, headersRead, bodiesRead, *, Waiting.outstanding]

theorem slice_written (writing : Writing session (mine written) 0) :
    session.buffer.slice 0 (mine written).size = (mine written).bytes :=
  writing.content

theorem Log.opens (log : Log mine theirs events written heads bodies)
    (outstanding : session.operation = some operation)
    (handler : operation.handler = .start)
    (writing : Writing next (mine written) 0) :
    Log mine theirs (events ++ session.observe .complete next) (written + 1)
      heads bodies := by
  rw [observe_complete outstanding, writing.outstanding]
  have content := slice_written writing
  apply log.append true false false <;>
    simp [messagesWritten, headersRead, bodiesRead, handler, content]

theorem Log.parses (log : Log mine theirs events written heads bodies)
    (reading : ReadingHead session (theirs heads) sizeofHeader)
    (goesOn : ReadingBody next (theirs heads) 0) :
    Log mine theirs (events ++ session.observe .complete next) written
      (heads + 1) bodies := by
  rw [observe_complete reading.outstanding, goesOn.outstanding]
  have content : Header.view (session.buffer.slice 0 sizeofHeader) =
      (theirs heads).header := by
    rw [Memory.slice_zero, reading.content, Message.take_header,
      ← List.append_nil (theirs heads).header.bytes,
      Header.view_bytes_append]
  apply log.append false true false <;>
    simp [messagesWritten, headersRead, bodiesRead, content]

theorem Log.ends (log : Log mine theirs events written heads bodies)
    (reading : ReadingBody session (theirs bodies)
      (theirs bodies).body.length)
    (holds : Holds session (theirs bodies)) (idle : next.operation = none) :
    Log mine theirs (events ++ session.observe .complete next) written heads
      (bodies + 1) := by
  rw [observe_complete reading.outstanding, idle]
  have content := holds.body
  apply log.append false false true <;>
    simp [messagesWritten, headersRead, bodiesRead, content]

/-- A message that is answered by the next one. -/
theorem Log.turns (log : Log mine theirs events written heads bodies)
    (reading : ReadingBody session (theirs bodies)
      (theirs bodies).body.length)
    (holds : Holds session (theirs bodies))
    (writing : Writing next (mine written) 0) :
    Log mine theirs (events ++ session.observe .complete next) (written + 1)
      heads (bodies + 1) := by
  rw [observe_complete reading.outstanding, writing.outstanding]
  have content := holds.body
  have started := slice_written writing
  apply log.append true false true <;>
    simp [messagesWritten, headersRead, bodiesRead, content, started]

end Logs

/-! ## Sender and receiver of one message -/

/-- A session that still writes `message`, or what becomes of it after. -/
inductive Sending {Data : Type} (session : Session Data) (message : Message)
    (After : Session Data → Prop) : Nat → Prop where
  | writing {sent : Nat} (writing : Writing session message sent) :
      Sending session message After sent
  | written (after : After session) :
      Sending session message After message.size

/-- A session that has yet to start reading `message`, or is reading it; the
last index counts the headers parsed. -/
inductive Receiving {Data : Type} (session : Session Data)
    (message : Message) (Before : Session Data → Prop) (Ready : Prop) :
    Nat → Nat → Prop where
  | before (before : Before session) :
      Receiving session message Before Ready 0 0
  | head {received : Nat} (ready : Ready)
      (reading : ReadingHead session message received) :
      Receiving session message Before Ready received 0
  | body {done : Nat} (ready : Ready)
      (reading : ReadingBody session message done) :
      Receiving session message Before Ready (sizeofHeader + done) 1

section Roles

variable {Data : Type} {session next : Session Data} {message : Message}
  {callbacks : Callbacks maxBlockSize Handler Data} {action : Action}
  {peerOpen : Bool} {queues after : Queues}

theorem Writing.effort {sent : Nat}
    (writing : Writing session message sent) :
    effort session = message.size - sent + 10020 :=
  effort_some writing.outstanding

theorem ReadingHead.effort {received : Nat}
    (reading : ReadingHead session message received) :
    effort session = sizeofHeader - received + 10010 :=
  effort_some reading.outstanding

theorem ReadingBody.effort {done : Nat}
    (reading : ReadingBody session message done) :
    effort session = message.body.length - done + 1 :=
  effort_some reading.outstanding

theorem Waiting.effort (waiting : Waiting session) :
    effort session = 10018 :=
  effort_some waiting.outstanding

theorem Closed.effort (closed : Closed session) : effort session = 0 :=
  effort_none closed.idle

/-- A session that waits for an open peer that has sent nothing is stuck. -/
theorem Waiting.not_moves (program : FramedCallbacks callbacks)
    (waiting : Waiting session) (message : Message)
    (listening : peerOpen = true) (drained : queues.incoming = []) :
    ¬Moves callbacks session action next peerOpen queues after := by
  intro moves
  have window : Window message.bytes 0 0 queues.incoming := by
    rw [drained]
    exact .empty (Nat.zero_le _)
  rcases (waiting.reading message).moves program moves window with
    ⟨later, more, _, _, _, _, _, moved⟩ | ⟨_, impossible, _⟩ |
      ⟨_, closed, _⟩
  · have ordered := moved.ordered
    omega
  · cases impossible
  · rw [listening] at closed
    cases closed

theorem Sending.moves {After : Session Data → Prop} {sent : Nat}
    (sending : Sending session message After sent)
    (moves : Moves callbacks session action next peerOpen queues after)
    (heard : peerOpen = true ∨ sent = message.size)
    (resting : ¬After session) :
    (∃ later, Sending next message After later ∧
      effort next < effort session ∧ action ≠ .complete ∧
      next.data = session.data ∧ next.buffer = session.buffer ∧
      after.incoming = queues.incoming ∧
      ∀ received, Window message.bytes received sent queues.outgoing →
        Window message.bytes received later after.outgoing) ∨
    (Writing session message message.size ∧ sent = message.size ∧
      action = .complete ∧ after = queues ∧
      next = callbacks.success .write message.size
        { session with operation := none }) := by
  cases sending with
  | written after => exact absurd after resting
  | writing writing =>
      rcases writing.moves moves with
        ⟨later, more, quiet, goesOn, data, buffer, incoming, window⟩ |
          ⟨completes, whole, unchanged, same⟩ | ⟨_, closed, short, _⟩
      · left
        have decreases : effort next < effort session := by
          have bounded := goesOn.bounded
          rw [goesOn.effort, writing.effort]
          omega
        exact ⟨later, .writing goesOn, decreases, quiet, data, buffer,
          incoming, window⟩
      · right
        subst whole
        exact ⟨writing, rfl, completes, unchanged, same⟩
      · rcases heard with listening | whole
        · rw [listening] at closed
          cases closed
        · omega

theorem Receiving.moves {Before : Session Data → Prop} {Ready : Prop}
    {mine theirs : Nat → Message} {events : List (Event Handler)}
    {round written bodies received heads sent : Nat}
    (program : FramedCallbacks callbacks)
    (receiving : Receiving session (theirs round) Before Ready received heads)
    (moves : Moves callbacks session action next peerOpen queues after)
    (heard : peerOpen = true ∨ sent = (theirs round).size)
    (window : Window (theirs round).bytes received sent queues.incoming)
    (log : Log mine theirs events written (round + heads) bodies) :
    (∃ later parsed,
      Receiving next (theirs round) Before Ready later parsed ∧
      effort next < effort session ∧ next.data = session.data ∧
      (session.buffer.slice sizeofHeader (theirs round).body.length =
          (theirs round).body →
        next.buffer.bytes.drop sizeofHeader =
          session.buffer.bytes.drop sizeofHeader) ∧
      after.outgoing = queues.outgoing ∧
      Window (theirs round).bytes later sent after.incoming ∧
      Log mine theirs (events ++ session.observe action next) written
        (round + parsed) bodies) ∨
    (Before session ∧ received = 0 ∧ heads = 0) ∨
    (Ready ∧ ReadingBody session (theirs round) (theirs round).body.length ∧
      Holds session (theirs round) ∧ received = (theirs round).size ∧
      heads = 1 ∧ action = .complete ∧ after = queues ∧
      next = callbacks.success .readBody (theirs round).body.length
        { session with operation := none }) := by
  cases receiving with
  | before before => exact .inr (.inl ⟨before, rfl, rfl⟩)
  | head ready reading =>
      left
      rcases reading.moves program moves window with
        ⟨later, more, quiet, goesOn, data, region, outgoing, moved⟩ |
          ⟨rfl, whole, rfl, goesOn, data, buffer⟩ |
            ⟨_, closed, drained, short, _⟩
      · have decreases : effort next < effort session := by
          have bounded := goesOn.bounded
          rw [goesOn.effort, reading.effort]
          omega
        exact ⟨later, 0, .head ready goesOn, decreases, data,
          fun _ => region, outgoing, moved, log.quiet quiet⟩
      · subst whole
        have decreases : effort next < effort session := by
          have fits := (theirs round).fits
          rw [goesOn.effort, reading.effort]
          omega
        exact ⟨_, 1, .body ready goesOn, decreases, data,
          fun _ => by rw [buffer], rfl, window, log.parses reading goesOn⟩
      · exfalso
        rcases heard with listening | whole
        · rw [listening] at closed
          cases closed
        · omega
  | body ready reading =>
      rcases reading.moves moves window with
        ⟨later, more, quiet, goesOn, data, region, outgoing, moved⟩ |
          ⟨completes, whole, unchanged, holds, same⟩ |
            ⟨_, closed, drained, short, _⟩
      · left
        have decreases : effort next < effort session := by
          have bounded := goesOn.bounded
          rw [goesOn.effort, reading.effort]
          omega
        exact ⟨_, 1, .body ready goesOn, decreases, data,
          fun present => by rw [region present], outgoing, moved,
          log.quiet quiet⟩
      · right
        right
        subst whole
        exact ⟨ready, reading, holds, rfl, rfl, completes, unchanged, same⟩
      · exfalso
        rcases heard with listening | whole
        · rw [listening] at closed
          cases closed
        · simp only [Message.size] at whole
          omega

end Roles

end AsioBenchmark.Framed
