import AsioBenchmark.Block.Session
import AsioBenchmark.Stream.Cycle

/-!
# What a block session sends and receives

The invariants of each program alone, with any peer: `server1` sends back what
it has received, and `client1` repeats its pattern as long as it gets its own
bytes back.
-/

namespace AsioBenchmark.Block

open AsioBenchmark.Bytes AsioBenchmark.Stream AsioBenchmark.Transition

/-! ## The bytes of one step -/

section Bytes

variable (chunk : List UInt8) (direction : Direction)

theorem sent_recv : Traffic.sent [Framed.traffic (.recv chunk)] = [] := rfl

theorem received_recv :
    Traffic.received [Framed.traffic (.recv chunk)] = chunk :=
  List.append_nil chunk

theorem sent_send : Traffic.sent [Framed.traffic (.send chunk)] = chunk :=
  List.append_nil chunk

theorem received_send :
    Traffic.received [Framed.traffic (.send chunk)] = [] := rfl

theorem sent_complete : Traffic.sent [Framed.traffic .complete] = [] := rfl

theorem received_complete :
    Traffic.received [Framed.traffic .complete] = [] := rfl

theorem sent_fail : Traffic.sent [Framed.traffic (.fail direction)] = [] := by
  cases direction with
  | establish => rfl
  | read => rfl
  | write => rfl

theorem received_fail :
    Traffic.received [Framed.traffic (.fail direction)] = [] := by
  cases direction with
  | establish => rfl
  | read => rfl
  | write => rfl

end Bytes

/-! ## The blocks of one step -/

section Events

variable {size : Nat} {Data : Type}
  {connection next : Connection size Handler Data}
  {operation : Operation Handler}

theorem blocksWritten_append (events new : List (Event Handler)) :
    blocksWritten (events ++ new) =
      blocksWritten events ++ blocksWritten new :=
  List.filterMap_append

theorem blocksRead_append (events new : List (Event Handler)) :
    blocksRead (events ++ new) = blocksRead events ++ blocksRead new :=
  List.filterMap_append

private theorem started_nothing (operations : List (Operation Handler))
    (content : Operation Handler → List UInt8) :
    blocksWritten (operations.map fun operation =>
        .started operation.handler (content operation)) = [] ∧
      blocksRead (operations.map fun operation =>
        .started operation.handler (content operation)) = [] := by
  constructor
  · unfold blocksWritten
    rw [List.filterMap_map]
    exact List.filterMap_eq_nil_iff.mpr fun _ _ => rfl
  · unfold blocksRead
    rw [List.filterMap_map]
    exact List.filterMap_eq_nil_iff.mpr fun _ _ => rfl

theorem blocksWritten_complete
    (outstanding : connection.operation = some operation) :
    blocksWritten (connection.observe .complete next) =
      blocksWritten [.finished operation.handler
        (connection.buffer.slice operation.offset operation.length)] := by
  rw [Connection.observe, outstanding, blocksWritten_append,
    (started_nothing _ _).1, List.append_nil]
  rfl

theorem blocksRead_complete
    (outstanding : connection.operation = some operation) :
    blocksRead (connection.observe .complete next) =
      blocksRead [.finished operation.handler
        (connection.buffer.slice operation.offset operation.length)] := by
  rw [Connection.observe, outstanding, blocksRead_append,
    (started_nothing _ _).2, List.append_nil]
  rfl

end Events

/-! ## `server1` -/

namespace Server1

section Stages

variable {blockSize rounds transferred : Nat} {sent received : List UInt8}

/-- Where a server is: what it has sent, and which part of `buffer_` it has
received beyond that. -/
inductive Stage (blockSize : Nat) (buffer : Memory blockSize) :
    Option (Operation Handler) → List UInt8 → List UInt8 → Prop where
  | accepting :
      Stage blockSize buffer (some ⟨.establish, 0, 0, 0, .start⟩) [] []
  | reading {rounds transferred : Nat} {sent received : List UInt8}
      (fits : transferred ≤ blockSize)
      (whole : sent.length = rounds * blockSize)
      (holds : received = sent ++ buffer.bytes.take transferred) :
      Stage blockSize buffer (some ⟨.read, 0, blockSize, transferred, .read⟩)
        sent received
  | writing {rounds transferred : Nat} {sent received : List UInt8}
      (fits : transferred ≤ blockSize)
      (partly : sent.length = rounds * blockSize + transferred)
      (holds : received = sent ++ buffer.bytes.drop transferred) :
      Stage blockSize buffer (some ⟨.write, 0, blockSize, transferred, .write⟩)
        sent received
  | ended {rounds : Nat} {sent received : List UInt8}
      (echoed : sent <+: received)
      (atMost : sent.length ≤ rounds * blockSize)
      (complete : rounds * blockSize ≤ received.length) :
      Stage blockSize buffer none sent received

theorem Stage.echoed {buffer : Memory blockSize}
    {operation : Option (Operation Handler)}
    (stage : Stage blockSize buffer operation sent received) :
    sent <+: received := by
  cases stage with
  | accepting => exact List.prefix_refl _
  | reading _ _ holds =>
      rw [holds]
      exact List.prefix_append _ _
  | writing _ _ holds =>
      rw [holds]
      exact List.prefix_append _ _
  | ended echoed => exact echoed

/-- The server sends from blocks that it has received as a whole. -/
theorem Stage.blocks {buffer : Memory blockSize}
    {operation : Option (Operation Handler)}
    (stage : Stage blockSize buffer operation sent received) :
    ∃ rounds, sent.length ≤ rounds * blockSize ∧
      rounds * blockSize ≤ received.length := by
  have size := buffer.length_eq
  cases stage with
  | accepting => exact ⟨0, Nat.zero_le _, by simp⟩
  | @reading rounds _ _ _ fits whole holds =>
      refine ⟨rounds, Nat.le_of_eq whole, ?_⟩
      rw [holds, List.length_append, whole]
      exact Nat.le_add_right _ _
  | @writing rounds transferred _ _ fits partly holds =>
      refine ⟨rounds + 1, ?_, ?_⟩
      · rw [partly, Nat.succ_mul]
        omega
      · rw [holds, List.length_append, partly, List.length_drop, size,
          Nat.succ_mul]
        omega
  | @ended rounds _ _ _ atMost complete => exact ⟨rounds, atMost, complete⟩

theorem Stage.step {session next : ServerSession blockSize} {action : Action}
    (stage : Stage blockSize session.buffer session.operation sent received)
    (taken : session.step (callbacks blockSize) action = some next) :
    Stage blockSize next.buffer next.operation
      (sent ++ Traffic.sent [Framed.traffic action])
      (received ++ Traffic.received [Framed.traffic action]) := by
  have failed : ∀ direction, Stage blockSize session.buffer none
      (sent ++ Traffic.sent [Framed.traffic (.fail direction)])
      (received ++ Traffic.received [Framed.traffic (.fail direction)]) := by
    intro direction
    obtain ⟨rounds, atMost, complete⟩ := stage.blocks
    rw [sent_fail, received_fail, List.append_nil, List.append_nil]
    exact .ended stage.echoed atMost complete
  generalize outstanding : session.operation = operation at stage
  cases stage with
  | accepting =>
      rcases Connection.step_establish_cases outstanding rfl taken with
        ⟨rfl, _, rfl⟩ | ⟨rfl, _, rfl⟩
      · exact .reading (Nat.zero_le _) (Nat.zero_mul _).symm rfl
      · exact failed _
  | @reading rounds transferred _ _ fits whole holds =>
      rcases Connection.step_read_cases outstanding rfl taken with
        ⟨chunk, inside, rfl, _, _, room, rfl⟩ | ⟨rfl, done, rfl⟩ |
        ⟨rfl, _, rfl⟩
      · rw [sent_recv, received_recv]
        rw [List.append_nil]
        refine .reading room whole ?_
        rw [holds, List.append_assoc]
        congr 1
        exact (session.buffer.take_store_zero_add transferred chunk
          inside).symm
      · rw [sent_complete, received_complete, List.append_nil,
          List.append_nil]
        have full : transferred = blockSize := done
        have partly : sent.length = rounds * blockSize + 0 := whole
        refine .writing (Nat.zero_le _) partly ?_
        rw [holds, full]
        exact congrArg _ session.buffer.take_size
      · exact failed _
  | @writing rounds transferred _ _ fits partly holds =>
      rcases Connection.step_write_cases outstanding rfl taken with
        ⟨chunk, rfl, _, _, room, content, rfl⟩ | ⟨rfl, done, rfl⟩ |
        ⟨rfl, _, rfl⟩
      · rw [sent_send, received_send]
        have further : (sent ++ chunk).length =
            rounds * blockSize + (transferred + chunk.length) := by
          rw [List.length_append, partly, Nat.add_assoc]
        refine .writing room further ?_
        rw [holds, List.append_nil, List.append_assoc]
        congr 1
        rw [Nat.zero_add] at content
        exact session.buffer.drop_eq_of_slice content
      · rw [sent_complete, received_complete, List.append_nil,
          List.append_nil]
        have full : transferred = blockSize := done
        have whole : sent.length = (rounds + 1) * blockSize := by
          rw [partly, full, Nat.succ_mul]
        refine .reading (Nat.zero_le _) whole ?_
        rw [holds, full]
        exact congrArg _ session.buffer.drop_size
      · exact failed _
  | ended echoed =>
      rw [Connection.step_idle outstanding] at taken
      cases taken

end Stages

end Server1

/-! ## `client1` -/

namespace Client1

section Steps

variable {blockSize transferred : Nat}
  {session next : ClientSession blockSize} {label : Label}

/-- The operations a client starts, by the bytes they have transferred. -/
inductive Starts (blockSize : Nat) : Option (Operation Handler) → Prop where
  | connecting : Starts blockSize (some ⟨.establish, 0, 0, 0, .start⟩)
  | writing (transferred : Nat) :
      Starts blockSize (some ⟨.write, 0, blockSize, transferred, .write⟩)
  | reading (transferred : Nat) :
      Starts blockSize (some ⟨.read, 0, blockSize, transferred, .read⟩)
  | ended : Starts blockSize none

def idle (session : ClientSession blockSize) : ClientSession blockSize :=
  { session with operation := none }

/-- Everything a client can do. -/
inductive Change (session : ClientSession blockSize) :
    Label → ClientSession blockSize → Prop where
  | stop : Change session .stop (Session.stop session)
  | connect
      (outstanding : session.operation = some ⟨.establish, 0, 0, 0, .start⟩) :
      Change session (.io .complete) (Session.connected (idle session))
  | send {transferred : Nat} {chunk : List UInt8}
      (outstanding : session.operation =
        some ⟨.write, 0, blockSize, transferred, .write⟩)
      (nonempty : chunk ≠ [])
      (room : transferred + chunk.length ≤ blockSize)
      (content : session.buffer.slice transferred chunk.length = chunk) :
      Change session (.io (.send chunk))
        { session with
          operation := some
            ⟨.write, 0, blockSize, transferred + chunk.length, .write⟩ }
  | written
      (outstanding : session.operation =
        some ⟨.write, 0, blockSize, blockSize, .write⟩) :
      Change session (.io .complete) (Session.written (idle session) blockSize)
  | recv {transferred : Nat} {chunk : List UInt8}
      (outstanding : session.operation =
        some ⟨.read, 0, blockSize, transferred, .read⟩)
      (nonempty : chunk ≠ [])
      (fits : transferred + chunk.length ≤ blockSize) :
      Change session (.io (.recv chunk))
        { session with
          operation := some
            ⟨.read, 0, blockSize, transferred + chunk.length, .read⟩
          buffer := session.buffer.store transferred chunk fits }
  | received
      (outstanding : session.operation =
        some ⟨.read, 0, blockSize, blockSize, .read⟩) :
      Change session (.io .complete)
        (Session.received (idle session) blockSize)
  | fail {operation : Operation Handler}
      (outstanding : session.operation = some operation) :
      Change session (.io (.fail operation.direction))
        ((callbacks blockSize).failure operation.handler (idle session))

theorem step_cases (starts : Starts blockSize session.operation)
    (taken : step session label = some next) : Change session label next := by
  cases label with
  | stop =>
      cases taken
      exact .stop
  | io action =>
      have moved : session.step (callbacks blockSize) action = some next :=
        taken
      generalize outstanding : session.operation = operation at starts
      cases starts with
      | connecting =>
          rcases Connection.step_establish_cases outstanding rfl moved with
            ⟨rfl, _, rfl⟩ | ⟨rfl, _, rfl⟩
          · exact .connect outstanding
          · exact .fail outstanding
      | writing transferred =>
          rcases Connection.step_write_cases outstanding rfl moved with
            ⟨chunk, rfl, _, nonempty, room, content, rfl⟩ |
            ⟨rfl, done, rfl⟩ | ⟨rfl, _, rfl⟩
          · rw [Nat.zero_add] at content
            exact .send outstanding nonempty room content
          · have full : transferred = blockSize := done
            subst full
            exact .written outstanding
          · exact .fail outstanding
      | reading transferred =>
          rcases Connection.step_read_cases outstanding rfl moved with
            ⟨chunk, fits, rfl, _, nonempty, room, rfl⟩ |
            ⟨rfl, done, rfl⟩ | ⟨rfl, _, rfl⟩
          · have stored := Change.recv outstanding nonempty room
            simpa only [Connection.advance, Nat.zero_add] using stored
          · have full : transferred = blockSize := done
            subst full
            exact .received outstanding
          · exact .fail outstanding
      | ended =>
          rw [Connection.step_idle outstanding] at moved
          cases moved

end Steps

section Accounting

variable {blockSize writes reads sent received handled : Nat}
  {session next : ClientSession blockSize} {label : Label}

/-- Where a client is, by the numbers of blocks and bytes. -/
inductive Stage (blockSize : Nat) :
    Option (Operation Handler) → Nat → Nat → Nat → Nat → Prop where
  | connecting :
      Stage blockSize (some ⟨.establish, 0, 0, 0, .start⟩) 0 0 0 0
  | writing {rounds transferred : Nat} (fits : transferred ≤ blockSize) :
      Stage blockSize (some ⟨.write, 0, blockSize, transferred, .write⟩)
        rounds rounds (rounds * blockSize + transferred) (rounds * blockSize)
  | reading {rounds transferred : Nat} (fits : transferred ≤ blockSize) :
      Stage blockSize (some ⟨.read, 0, blockSize, transferred, .read⟩)
        (rounds + 1) rounds ((rounds + 1) * blockSize)
        (rounds * blockSize + transferred)
  | ended {writes reads sent received : Nat} (behind : reads ≤ writes)
      (close : writes ≤ reads + 1) (returned : received ≤ sent) :
      Stage blockSize none writes reads sent received

/-- The counters of a client as numbers, and its operations against the
handlers that have run. -/
structure Accounts (session : ClientSession blockSize)
    (writes reads sent received handled : Nat) : Prop where
  stage : Stage blockSize session.operation writes reads sent received
  countWritten : session.data.countWritten = UInt64.ofNat writes
  bytesWritten : session.data.bytesWritten = UInt64.ofNat (writes * blockSize)
  countRead : session.data.countRead = UInt64.ofNat reads
  bytesRead : session.data.bytesRead = UInt64.ofNat (reads * blockSize)
  started : session.data.started =
    handled + session.operation.toList.length

theorem Stage.starts {operation : Option (Operation Handler)}
    (stage : Stage blockSize operation writes reads sent received) :
    Starts blockSize operation := by
  cases stage with
  | connecting => exact .connecting
  | writing => exact .writing _
  | reading => exact .reading _
  | ended => exact .ended

theorem Stage.bounds {operation : Option (Operation Handler)}
    (stage : Stage blockSize operation writes reads sent received) :
    reads ≤ writes ∧ writes ≤ reads + 1 ∧ received ≤ sent := by
  cases stage with
  | connecting => omega
  | writing => omega
  | reading =>
      rw [Nat.succ_mul]
      omega
  | ended behind close returned => exact ⟨behind, close, returned⟩

/-- A client that goes on sends at most the block of its round. -/
theorem Stage.sent_le {operation : Option (Operation Handler)}
    (stage : Stage blockSize operation writes reads sent received)
    (busy : operation ≠ none) : sent ≤ (reads + 1) * blockSize := by
  cases stage with
  | connecting => exact Nat.zero_le _
  | writing fits =>
      rw [Nat.succ_mul]
      omega
  | reading => exact Nat.le_refl _
  | ended => exact absurd rfl busy

theorem ofNat_succ (count : Nat) :
    UInt64.ofNat count + 1 = UInt64.ofNat (count + 1) := by
  rw [UInt64.ofNat_add]
  rfl

theorem ofNat_succ_mul (count : Nat) :
    UInt64.ofNat (count * blockSize) + UInt64.ofNat blockSize =
      UInt64.ofNat ((count + 1) * blockSize) := by
  rw [Nat.succ_mul, UInt64.ofNat_add]

theorem failure_fields (handler : Handler) (session : ClientSession blockSize) :
    ((callbacks blockSize).failure handler (idle session)).operation = none ∧
      ((callbacks blockSize).failure handler (idle session)).buffer =
        session.buffer ∧
      ((callbacks blockSize).failure handler (idle session)).data =
        { session.data with
          error := ((callbacks blockSize).failure handler
            (idle session)).data.error } := by
  have kept : (Session.failed (idle session)).operation = none ∧
      (Session.failed (idle session)).buffer = session.buffer ∧
      (Session.failed (idle session)).data =
        { session.data with
          error := (Session.failed (idle session)).data.error } := by
    unfold Session.failed
    split
    · exact ⟨rfl, rfl, rfl⟩
    · exact ⟨rfl, rfl, rfl⟩
  cases handler with
  | start => exact ⟨rfl, rfl, rfl⟩
  | write => exact kept
  | read => exact kept

theorem Accounts.fails {operation : Operation Handler}
    (accounts : Accounts session writes reads sent received handled)
    (outstanding : session.operation = some operation) :
    Accounts ((callbacks blockSize).failure operation.handler (idle session))
      writes reads sent received (handled + 1) := by
  obtain ⟨noOperation, _, data⟩ := failure_fields operation.handler session
  obtain ⟨behind, close, returned⟩ := accounts.stage.bounds
  have started := accounts.started
  rw [outstanding] at started
  refine ⟨?_, ?_, ?_, ?_, ?_, ?_⟩
  · rw [noOperation]
    exact .ended behind close returned
  · rw [data]
    exact accounts.countWritten
  · rw [data]
    exact accounts.bytesWritten
  · rw [data]
    exact accounts.countRead
  · rw [data]
    exact accounts.bytesRead
  · rw [data, noOperation]
    exact started

theorem Accounts.step
    (accounts : Accounts session writes reads sent received handled)
    (change : Change session label next) :
    Accounts next
      (writes + (blocksWritten (observe session label next)).length)
      (reads + (blocksRead (observe session label next)).length)
      (sent + (Traffic.sent [label.traffic]).length)
      (received + (Traffic.received [label.traffic]).length)
      (handled + handlersRun (clientActions [label])) := by
  have ⟨stage, countWritten, bytesWritten, countRead, bytesRead, started⟩ :=
    accounts
  cases change with
  | stop =>
      exact ⟨stage, countWritten, bytesWritten, countRead, bytesRead, started⟩
  | connect outstanding =>
      rw [observe, blocksWritten_complete outstanding,
        blocksRead_complete outstanding]
      rw [outstanding] at stage started
      cases stage with
      | connecting =>
          unfold Session.connected
          split
          · have begun : Stage blockSize
                (some ⟨.write, 0, blockSize, 0, .write⟩) 0 0 0 0 := by
              have first := @Stage.writing blockSize 0 0 (Nat.zero_le _)
              rw [Nat.zero_mul] at first
              exact first
            exact ⟨begun, countWritten, bytesWritten, countRead, bytesRead,
              congrArg (· + 1) started⟩
          · exact ⟨.ended (Nat.le_refl 0) (Nat.zero_le 1) (Nat.le_refl 0),
              countWritten, bytesWritten, countRead, bytesRead, started⟩
  | @send transferred chunk outstanding _ room _ =>
      have carried : Traffic.sent [Label.traffic (.io (.send chunk))] =
          chunk :=
        sent_send chunk
      rw [carried]
      rw [outstanding] at stage started
      cases stage with
      | writing fits =>
          have further : Stage blockSize
              (some ⟨.write, 0, blockSize, transferred + chunk.length,
                .write⟩) writes writes
              (writes * blockSize + transferred + chunk.length)
              (writes * blockSize) := by
            rw [Nat.add_assoc]
            exact .writing room
          exact ⟨further, countWritten, bytesWritten, countRead, bytesRead,
            started⟩
  | written outstanding =>
      rw [observe, blocksWritten_complete outstanding,
        blocksRead_complete outstanding]
      rw [outstanding] at stage started
      cases stage with
      | writing fits =>
          have whole : Stage blockSize
              (some ⟨.read, 0, blockSize, 0, .read⟩) (writes + 1) writes
              (writes * blockSize + blockSize) (writes * blockSize) := by
            rw [← Nat.succ_mul]
            exact .reading (Nat.zero_le _)
          refine ⟨whole, ?_, ?_, countRead, bytesRead,
            congrArg (· + 1) started⟩
          · exact (congrArg (· + 1) countWritten).trans (ofNat_succ writes)
          · exact (congrArg (· + _) bytesWritten).trans
              (ofNat_succ_mul writes)
  | @recv transferred chunk outstanding _ fits =>
      have carried : Traffic.received [Label.traffic (.io (.recv chunk))] =
          chunk :=
        received_recv chunk
      rw [carried]
      rw [outstanding] at stage started
      cases stage with
      | reading =>
          have further : Stage blockSize
              (some ⟨.read, 0, blockSize, transferred + chunk.length, .read⟩)
              (reads + 1) reads ((reads + 1) * blockSize)
              (reads * blockSize + transferred + chunk.length) := by
            rw [Nat.add_assoc]
            exact .reading fits
          exact ⟨further, countWritten, bytesWritten, countRead, bytesRead,
            started⟩
  | received outstanding =>
      rw [observe, blocksWritten_complete outstanding,
        blocksRead_complete outstanding]
      rw [outstanding] at stage started
      cases stage with
      | reading fits =>
          have whole : Stage blockSize
              (some ⟨.write, 0, blockSize, 0, .write⟩) (reads + 1)
              (reads + 1) ((reads + 1) * blockSize)
              (reads * blockSize + blockSize) := by
            rw [← Nat.succ_mul]
            exact .writing (Nat.zero_le _)
          refine ⟨whole, countWritten, bytesWritten, ?_, ?_,
            congrArg (· + 1) started⟩
          · exact (congrArg (· + 1) countRead).trans (ofNat_succ reads)
          · exact (congrArg (· + _) bytesRead).trans (ofNat_succ_mul reads)
  | @fail operation outstanding =>
      have carried : Traffic.sent [Label.traffic
            (.io (.fail operation.direction))] = [] ∧
          Traffic.received [Label.traffic
            (.io (.fail operation.direction))] = [] :=
        ⟨sent_fail _, received_fail _⟩
      rw [carried.1, carried.2]
      exact accounts.fails outstanding

end Accounting

section Contents

variable {blockSize writes reads handled : Nat}
  {session next : ClientSession blockSize} {label : Label}
  {labels : List Label} {sent received : List UInt8}
  {blocks : List (List UInt8)}

/-- The pattern is in `buffer_`, on the wire, and in every block read. -/
structure Content (session : ClientSession blockSize) (sent : List UInt8)
    (blocks : List (List UInt8)) : Prop where
  intact : session.buffer = pattern blockSize
  repeats : sent = cycled (pattern blockSize).bytes sent.length
  blocks : ∀ block ∈ blocks, block = (pattern blockSize).bytes

theorem Content.quiet (content : Content session sent blocks)
    {moreSent : List UInt8} {moreBlocks : List (List UInt8)}
    (same : next.buffer = session.buffer) (noBytes : moreSent = [])
    (noBlocks : moreBlocks = []) :
    Content next (sent ++ moreSent) (blocks ++ moreBlocks) := by
  subst noBytes
  subst noBlocks
  rw [List.append_nil, List.append_nil]
  exact ⟨same.trans content.intact, content.repeats, content.blocks⟩

theorem length_pattern : (pattern blockSize).bytes.length = blockSize :=
  (pattern blockSize).length_eq

/-- A client that holds the pattern sends its repetition. -/
theorem Content.send {transferred : Nat} {chunk : List UInt8}
    (content : Content session sent blocks)
    (cut : sent.length = writes * blockSize + transferred)
    (room : transferred + chunk.length ≤ blockSize)
    (next : session.buffer.slice transferred chunk.length = chunk) :
    sent ++ chunk =
      cycled (pattern blockSize).bytes (sent ++ chunk).length := by
  rw [content.intact] at next
  have cut : sent.length =
      writes * (pattern blockSize).bytes.length + transferred := by
    rw [length_pattern]
    exact cut
  have room : transferred + chunk.length ≤
      (pattern blockSize).bytes.length := by
    rw [length_pattern]
    exact room
  exact extend_cycled cut room content.repeats next

/-- What comes back is stored where it is already. -/
theorem Content.recv {transferred : Nat} {chunk : List UInt8}
    (content : Content session sent blocks)
    (cut : received.length = reads * blockSize + transferred)
    (fits : transferred + chunk.length ≤ blockSize)
    (echoed : received ++ chunk <+: sent) :
    session.buffer.store transferred chunk fits = pattern blockSize := by
  have isPrefix : received ++ chunk <+:
      cycled (pattern blockSize).bytes sent.length := by
    rw [← content.repeats]
    exact echoed
  have cut : received.length =
      reads * (pattern blockSize).bytes.length + transferred := by
    rw [length_pattern]
    exact cut
  have room : transferred + chunk.length ≤
      (pattern blockSize).bytes.length := by
    rw [length_pattern]
    exact fits
  have present : session.buffer.slice transferred chunk.length = chunk := by
    rw [content.intact]
    exact chunk_of_cycled cut room (front_of_cycled isPrefix)
  rw [Memory.store_slice _ _ _ _ present]
  exact content.intact

/-- As long as it gets its own bytes back, a client keeps its pattern. -/
theorem Content.step (content : Content session sent blocks)
    (accounts : Accounts session writes reads sent.length received.length
      handled)
    (change : Change session label next)
    (echoed : received ++ Traffic.received [label.traffic] <+:
      sent ++ Traffic.sent [label.traffic]) :
    Content next (sent ++ Traffic.sent [label.traffic])
      (blocks ++ blocksRead (observe session label next)) := by
  have stage := accounts.stage
  cases change with
  | stop => exact content.quiet rfl rfl rfl
  | connect outstanding =>
      have same : (Session.connected (idle session)).buffer =
          session.buffer := by
        unfold Session.connected
        split
        · rfl
        · rfl
      exact content.quiet same rfl (blocksRead_complete outstanding)
  | @send transferred chunk outstanding _ room present =>
      have carried : Traffic.sent [Label.traffic (.io (.send chunk))] =
          chunk :=
        sent_send chunk
      have nothing : ∀ after, blocksRead
          (observe session (.io (.send chunk)) after) = [] := fun _ => rfl
      rw [carried, nothing, List.append_nil]
      rw [outstanding] at stage
      generalize length : sent.length = count at stage
      generalize received.length = other at stage
      cases stage with
      | writing =>
          exact ⟨content.intact, content.send length room present,
            content.blocks⟩
  | written outstanding =>
      exact content.quiet rfl rfl (blocksRead_complete outstanding)
  | @recv transferred chunk outstanding _ fits =>
      have carried : Traffic.received [Label.traffic (.io (.recv chunk))] =
          chunk :=
        received_recv chunk
      have silent : Traffic.sent [Label.traffic (.io (.recv chunk))] = [] :=
        sent_recv chunk
      have nothing : ∀ after, blocksRead
          (observe session (.io (.recv chunk)) after) = [] := fun _ => rfl
      rw [carried, silent, List.append_nil] at echoed
      rw [silent, nothing, List.append_nil, List.append_nil]
      rw [outstanding] at stage
      generalize length : received.length = count at stage
      generalize sent.length = other at stage
      cases stage with
      | reading =>
          exact ⟨content.recv length fits echoed, content.repeats,
            content.blocks⟩
  | received outstanding =>
      have silent : Traffic.sent [Label.traffic (.io .complete)] = [] := rfl
      rw [observe, blocksRead_complete outstanding, silent, List.append_nil]
      refine ⟨content.intact, content.repeats, ?_⟩
      intro block member
      rcases List.mem_append.mp member with earlier | last
      · exact content.blocks block earlier
      · have whole : block = session.buffer.slice 0 blockSize :=
          List.mem_singleton.mp last
        rw [whole, content.intact]
        exact Memory.take_size _
  | @fail operation outstanding =>
      exact content.quiet (failure_fields operation.handler session).2.1
        (sent_fail _) rfl

end Contents

end Client1

end AsioBenchmark.Block
