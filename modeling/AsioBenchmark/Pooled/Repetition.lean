import AsioBenchmark.Pooled.Progress
import AsioBenchmark.Stream.Cycle

/-!
# What circulates between `client2` and `server2`

A client session writes its first packet and then, like the server, every chunk
it has read, in the order of the reads.  As long as no write is cut short, the
bytes on the wire are therefore the first packet, repeated without end.
-/

namespace AsioBenchmark.Pooled

open AsioBenchmark.Bytes AsioBenchmark.Stream AsioBenchmark.Transition

variable {blockSize : Nat}

namespace Client2

/-- `start` takes the top of the stack for the first read. -/
def readBuffer : BufferId :=
  ⟨9, by decide⟩

/-- The next buffer of the stack holds the first packet. -/
def packetBuffer : BufferId :=
  ⟨8, by decide⟩

def firstPacket (heap : BufferId → Memory blockSize) : Chunk :=
  ⟨packetBuffer, (heap packetBuffer).bytes⟩

theorem length_firstPacket (heap : BufferId → Memory blockSize) :
    (firstPacket heap).bytes.length = blockSize :=
  (heap packetBuffer).length_eq

/-! ## One session -/

/-- A session that has not started, or never will, has no operation on a
buffer.  Once it has, its chunks are in order, with the first packet in front of
what it reads. -/
inductive Order (heap : BufferId → Memory blockSize)
    (session : ClientSession blockSize) (events : List Event) : Prop where
  | idle
      (fresh : session.starting = true →
        session.Fresh ∧ session.heap = heap)
      (readQueue : session.readQueue = [])
      (readDone : session.readDone = [])
      (writeQueue : session.writeQueue = [])
      (writeDone : session.writeDone = [])
      (nothing : events = []) : Order heap session events
  | sending {finished performed pending waiting : List Chunk}
      (started : session.starting = false)
      (inOrder : InOrder session (.received (firstPacket heap) :: events)
        finished performed pending waiting) : Order heap session events

section Steps

variable {heap : BufferId → Memory blockSize}
  {session next : ClientSession blockSize} {events : List Event}
  {action : Action} {finished performed pending waiting : List Chunk}

/-- The buffers and operations that a handler leaves alone. -/
structure Keeps (before after : ClientSession blockSize) : Prop where
  heap : after.heap = before.heap
  readDone : after.readDone = before.readDone
  writeQueue : after.writeQueue = before.writeQueue
  writeDone : after.writeDone = before.writeDone
  starting : after.starting = before.starting

theorem keeps_read (session : ClientSession blockSize) :
    Keeps session session.read := by
  obtain ⟨heap, readDone, writeQueue, writeDone, starting, _⟩ :=
    session.read_frame
  exact ⟨heap, readDone, writeQueue, writeDone, starting⟩

theorem keeps_noteError (session : ClientSession blockSize) :
    Keeps session (noteError session) := by
  unfold noteError
  split
  · exact ⟨rfl, rfl, rfl, rfl, rfl⟩
  · exact ⟨rfl, rfl, rfl, rfl, rfl⟩

theorem keeps_writeHandler (buffer : BufferId) (result : Option Nat)
    (session : ClientSession blockSize) :
    Keeps session (writeHandler buffer result session) := by
  cases result with
  | none =>
      obtain ⟨heap, readDone, writeQueue, writeDone, starting⟩ :=
        keeps_noteError (session.push buffer)
      exact ⟨heap, readDone, writeQueue, writeDone, starting⟩
  | some count =>
      simp only [writeHandler]
      split
      · obtain ⟨heap, readDone, writeQueue, writeDone, starting⟩ :=
          keeps_read { session.push buffer with
            data := { (session.push buffer).data with
              bytesWritten :=
                (session.push buffer).data.bytesWritten + UInt64.ofNat count
              countWritten := (session.push buffer).data.countWritten + 1 } }
        exact ⟨heap, readDone, writeQueue, writeDone, starting⟩
      · exact ⟨rfl, rfl, rfl, rfl, rfl⟩

private theorem stack_eq : (List.finRange kMaxStackSize).reverse =
    readBuffer :: packetBuffer ::
      (List.finRange kMaxStackSize).reverse.drop 2 := by
  decide

theorem start_eq (fresh : session.Fresh) (isOpen : session.isOpen = true) :
    start session =
      { session with
        buffers := (List.finRange kMaxStackSize).reverse.drop 2
        readQueue := [readBuffer]
        writeQueue := [⟨packetBuffer, blockSize⟩] } := by
  have stack := fresh.buffers
  rw [stack_eq] at stack
  have reading : session.read =
      { session with
        buffers := packetBuffer :: (List.finRange kMaxStackSize).reverse.drop 2
        readQueue := [readBuffer] } := by
    simp only [Session.read, stack, Session.asyncReadSome, fresh.readQueue,
      List.nil_append]
  rw [start, if_pos isOpen]
  simp only [read, reading, write, Session.write, Session.asyncWriteSome,
    fresh.writeQueue, List.nil_append]

theorem order_started (fresh : session.Fresh) (same : session.heap = heap)
    (started : session.starting = false) (nothing : events = [])
    (nodup : (start session).places.Nodup) :
    Order heap (start session)
      (events ++ session.writesAdded (start session)) := by
  subst same
  by_cases isOpen : session.isOpen = true
  · rw [start_eq fresh isOpen] at nodup ⊢
    have whole : (session.heap packetBuffer).slice 0 blockSize =
        (session.heap packetBuffer).bytes :=
      Memory.take_size _
    have shown : session.writesAdded
        { session with
          buffers := (List.finRange kMaxStackSize).reverse.drop 2
          readQueue := [readBuffer]
          writeQueue := [⟨packetBuffer, blockSize⟩] } =
        [.writing (firstPacket session.heap)] := by
      simp [Session.writesAdded, fresh.writeQueue, whole, firstPacket]
    rw [nothing, shown]
    refine @Order.sending blockSize _ _ _ [] [] [firstPacket session.heap] []
      started ?_
    constructor
    · exact nodup
    · rfl
    · rfl
    · simp [fresh.readDone]
    · simp [fresh.writeDone]
    · simp [firstPacket, (session.heap packetBuffer).length_eq]
    · intro chunk member
      have only : chunk = firstPacket session.heap := by simpa using member
      subst only
      rw [Present, length_firstPacket]
      exact whole
    · rfl
    · exact List.Forall₂.nil
  · have throws : start session = { session with threw := true } :=
      if_neg isOpen
    rw [throws]
    refine .idle ?_ fresh.readQueue fresh.readDone fresh.writeQueue
      fresh.writeDone ?_
    · intro impossible
      exact absurd (started.symm.trans impossible) (by simp)
    · rw [nothing]
      exact Session.writesAdded_same rfl

theorem order_sending (started : session.starting = false)
    (inOrder : InOrder session (.received (firstPacket heap) :: events)
      finished performed pending waiting)
    (taken : Session.Step (handlers blockSize) session action next)
    (nodup : next.places.Nodup) :
    Order heap next (events ++ session.observe action next) := by
  cases taken with
  | started starting => exact absurd (starting.symm.trans started) (by simp)
  | notStarted starting => exact absurd (starting.symm.trans started) (by simp)
  | recv queue fits isOpen arrives =>
      simp only [Session.observe, queue, List.take_succ_cons, List.take_zero,
        List.map_cons, List.map_nil]
      exact .sending started (inOrder.recv queue fits nodup)
  | readError queue =>
      rw [Session.observe, List.append_nil]
      refine .sending started (inOrder.frame nodup rfl ?_ rfl rfl)
      simp
  | @readHandler completion rest done =>
      obtain ⟨buffer, result⟩ := completion
      cases result with
      | none =>
          obtain ⟨heapKept, readDone, writeQueue, writeDone, starting⟩ :=
            keeps_noteError { session with readDone := rest }
          have quiet : session.observe .readHandler
              ((handlers blockSize).readHandler buffer none
                { session with readDone := rest }) =
              [.readFailed buffer] := by
            have added : session.writesAdded
                ((handlers blockSize).readHandler buffer none
                  { session with readDone := rest }) = [] :=
              Session.writesAdded_same writeQueue
            simp only [Session.observe, done]
            rw [added]
            rfl
          rw [quiet]
          refine .sending (starting.trans started) (InOrder.frame
            (inOrder.silent rfl rfl rfl rfl) nodup heapKept ?_ writeDone
            writeQueue)
          have dropped : (⟨buffer, none⟩ :: rest).filter
              (fun completion : Completion => completion.result.isSome) =
                rest.filter fun completion => completion.result.isSome :=
            rfl
          rw [done, dropped]
          exact congrArg (List.filter _) readDone
      | some count =>
          obtain ⟨heapKept, readDone, writeQueue, writeDone, starting⟩ :=
            keeps_read (write
              { session with
                readDone := rest
                data := { session.data with
                  bytesRead := session.data.bytesRead + UInt64.ofNat count
                  countRead := session.data.countRead + 1 } } buffer count)
          obtain ⟨chunk, left, _, added, after⟩ := inOrder.handRead done
            nodup heapKept readDone writeDone writeQueue
          have shown : session.observe .readHandler
              ((handlers blockSize).readHandler buffer (some count)
                { session with readDone := rest }) = [.writing chunk] := by
            simp only [Session.observe, done]
            rw [added]
            rfl
          rw [shown]
          exact .sending (starting.trans started) after
  | send queue isOpen moves room content =>
      simp only [Session.observe, queue, List.take_succ_cons, List.take_zero,
        List.map_cons, List.map_nil]
      obtain ⟨chunk, left, _, after⟩ := inOrder.transmit _ queue room content
      exact .sending started after
  | writeError queue =>
      simp only [Session.observe, queue, List.take_succ_cons, List.take_zero,
        List.map_cons, List.map_nil]
      obtain ⟨chunk, left, _, after⟩ := inOrder.transmit [] queue
        (Nat.zero_le _) List.take_zero
      exact .sending started after
  | @writeHandler completion rest done =>
      obtain ⟨heapKept, readDone, writeQueue, writeDone, starting⟩ :=
        keeps_writeHandler completion.buffer completion.result
          { session with writeDone := rest }
      obtain ⟨chunk, left, _, after⟩ := inOrder.handWrite done nodup heapKept
        readDone writeDone writeQueue
      exact .sending (starting.trans started) after
  | stop stopped =>
      cases stopped
      rw [Session.observe, List.append_nil]
      exact .sending started (inOrder.frame nodup rfl rfl rfl rfl)

theorem Order.step (order : Order heap session events)
    (taken : Session.Step (handlers blockSize) session action next)
    (nodup : next.places.Nodup) :
    Order heap next (events ++ session.observe action next) := by
  cases order with
  | sending started inOrder => exact order_sending started inOrder taken nodup
  | idle fresh readQueue readDone writeQueue writeDone nothing =>
      cases taken with
      | started starting =>
          obtain ⟨isFresh, same⟩ := fresh starting
          exact order_started
            ⟨isFresh.buffers, readQueue, readDone, writeQueue, writeDone⟩ same
            rfl nothing nodup
      | notStarted starting =>
          have quiet : session.observe (.started false)
              { session with starting := false } = [] :=
            Session.writesAdded_same rfl
          rw [quiet, List.append_nil]
          refine .idle ?_ readQueue readDone writeQueue writeDone nothing
          intro impossible
          cases impossible
      | recv queue => rw [readQueue] at queue; cases queue
      | readError queue => rw [readQueue] at queue; cases queue
      | readHandler done => rw [readDone] at done; cases done
      | send queue => rw [writeQueue] at queue; cases queue
      | writeError queue => rw [writeQueue] at queue; cases queue
      | writeHandler done => rw [writeDone] at done; cases done
      | stop stopped =>
          cases stopped
          rw [Session.observe, List.append_nil]
          refine .idle ?_ readQueue readDone writeQueue writeDone nothing
          intro starting
          obtain ⟨isFresh, same⟩ := fresh starting
          exact ⟨⟨isFresh.buffers, readQueue, readDone, writeQueue,
            writeDone⟩, same⟩

end Steps

theorem run_order {heap : BufferId → Memory blockSize}
    {actions : List Action}
    {recorded : ClientSession blockSize × List Event}
    (run : ((clientSystem blockSize).recording Session.observe).Run
      (connecting heap, []) actions recorded) :
    Order heap recorded.1 recorded.2 := by
  induction run using System.Run.recorded_induction with
  | refl =>
      refine .idle ?_ rfl rfl rfl rfl rfl
      intro starting
      exact ⟨⟨rfl, rfl, rfl, rfl, rfl⟩, rfl⟩
  | snoc before moved induction =>
      have all := run_places_perm (keepsBuffers blockSize) rfl
        (Session.places_constructed heap initialFields)
        (before.snoc_recorded moved)
      have whole := all.nodup_iff.mpr (List.nodup_finRange _)
      exact induction.step (Session.step_eq_some_iff.mp moved).2
        (List.nodup_append.mp whole).1

/-- For every run of a `client2` session, with any read sizes, short writes and
failures: no buffer is in two places, the writes are started with the first
packet and then with the chunks of the reads, in order, the chunk of an
outstanding write lies unchanged in its buffer, and what the peer gets is one
front part of each. -/
theorem client_writes_in_order (blockSize : Nat)
    (heap : BufferId → Memory blockSize) (actions : List Action)
    (session : ClientSession blockSize) (events : List Event)
    (run : ((clientSystem blockSize).recording Session.observe).Run
      (connecting heap, []) actions (session, events)) :
    (∀ buffer, session.buffers.count buffer + session.reads.count buffer +
      session.writes.count buffer ≤ 1) ∧
    writesStarted events <+: firstPacket heap :: receivedChunks events ∧
    ((writesStarted events).drop (writesHandled events)).map Chunk.buffer =
      session.writes ∧
    (∀ chunk ∈ (writesStarted events).drop (writesHandled events),
      (session.heap chunk.buffer).slice 0 chunk.bytes.length =
        chunk.bytes) ∧
    ∃ prefixes,
      List.Forall₂ (· <+: ·) prefixes
        ((firstPacket heap :: receivedChunks events).map Chunk.bytes) ∧
      bytesSent events = prefixes.flatten := by
  have all := run_places_perm (keepsBuffers blockSize) rfl
    (Session.places_constructed heap initialFields) run
  have whole := (all.nodup_iff.mpr (List.nodup_finRange _)).of_append_left
  have apart : ∀ buffer, session.buffers.count buffer +
      session.reads.count buffer + session.writes.count buffer ≤ 1 := by
    intro buffer
    have once := List.nodup_iff_count_le_one.mp whole buffer
    rwa [Session.places, List.count_append, List.count_append] at once
  have order : Order heap session events := run_order run
  cases order with
  | idle fresh readQueue readDone writeQueue writeDone nothing =>
      subst nothing
      refine ⟨apart, List.nil_prefix, ?_, ?_, ?_⟩
      · rw [Session.writes, writeDone, writeQueue]
        rfl
      · intro chunk impossible
        cases impossible
      · exact exists_prefixes [firstPacket heap] List.Forall₂.nil
  | @sending finished performed pending waiting started inOrder =>
      have received : firstPacket heap :: receivedChunks events =
          finished ++ performed ++ pending ++ waiting := inOrder.received
      have begun : writesStarted events = finished ++ performed ++ pending :=
        inOrder.started
      have ended : writesHandled events = finished.length := by
        have handled := inOrder.handled
        rwa [writesHandled, List.count_cons_of_ne (by simp)] at handled
      have outstanding : (writesStarted events).drop (writesHandled events) =
          performed ++ pending := by
        rw [begun, ended, List.append_assoc]
        exact List.drop_left
      refine ⟨apart, ?_, ?_, ?_, ?_⟩
      · rw [begun, received]
        exact List.prefix_append _ _
      · rw [outstanding, Session.writes, inOrder.writeDone,
          inOrder.writeQueue, List.map_append, List.map_map]
        rfl
      · rw [outstanding]
        intro chunk member
        exact inOrder.present chunk (List.mem_append_left _ member)
      · rw [received, List.append_assoc _ pending]
        exact exists_prefixes (pending ++ waiting) inOrder.transmitted

/-- The first packet, cut short, and then the chunk of a read. -/
theorem client_writes_in_order_cut :
    ∃ session events,
      ((clientSystem 2).recording Session.observe).Run
        (connecting fun _ => .filled 2 7, [])
        [.started true, .recv [1], .readHandler, .send [7], .writeHandler,
          .send [1]] (session, events) ∧
      bytesSent events = [7, 1] ∧
      writesStarted events <+:
        firstPacket (fun _ => .filled 2 7) :: receivedChunks events := by
  obtain ⟨recorded, run, sent⟩ : ∃ recorded,
      ((clientSystem 2).recording Session.observe).Run
        (connecting fun _ => .filled 2 7, [])
        [.started true, .recv [1], .readHandler, .send [7], .writeHandler,
          .send [1]] recorded ∧ bytesSent recorded.2 = [7, 1] :=
    ⟨_, System.run_iff_exec.mpr rfl, rfl⟩
  exact ⟨recorded.1, recorded.2, run, sent,
    (client_writes_in_order 2 _ _ recorded.1 recorded.2 run).2.1⟩

/-- As long as only the last write is cut short, the bytes sent are a front of
the first packet and the bytes received after it. -/
theorem bytesSent_prefix {heap : BufferId → Memory blockSize}
    {actions : List Action} {session : ClientSession blockSize}
    {events : List Event}
    (run : ((clientSystem blockSize).recording Session.observe).Run
      (connecting heap, []) actions (session, events))
    (full : ∀ transmission ∈ (transmissions events).dropLast,
      transmission.2.length = transmission.1) :
    bytesSent events <+: (firstPacket heap).bytes ++ bytesReceived events := by
  have order : Order heap session events := run_order run
  cases order with
  | idle fresh readQueue readDone writeQueue writeDone nothing =>
      rw [nothing]
      exact List.nil_prefix
  | @sending finished performed pending waiting started inOrder =>
      have received : firstPacket heap :: receivedChunks events =
          finished ++ performed ++ pending ++ waiting := inOrder.received
      have sent := flatten_prefix inOrder.transmitted full
      refine List.IsPrefix.trans sent ?_
      rw [bytesReceived, ← List.flatten_cons, ← List.map_cons, received,
        List.append_assoc _ pending,
        @List.map_append _ _ _ (finished ++ performed), List.flatten_append]
      exact List.prefix_append _ _

end Client2

/-! ## The pair -/

end AsioBenchmark.Pooled
