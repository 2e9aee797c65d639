import AsioBenchmark.Pooled.Conservation
import Mathlib.Data.List.Forall2

/-!
# What `server2` writes

The server writes each buffer it has read, in the order of the reads, and a
buffer stays as it is until its write is over.  Since a write may transmit
less than it was given, the peer receives one front part of each chunk.
-/

namespace AsioBenchmark.Pooled

open AsioBenchmark.Bytes AsioBenchmark.Transition

/-! ## What an observer has seen -/

/-- The chunks of the successful reads. -/
def receivedChunks : List Event → List Chunk :=
  List.filterMap fun
    | .received chunk => some chunk
    | _ => none

/-- The buffers and bytes that writes were started with. -/
def writesStarted : List Event → List Chunk :=
  List.filterMap fun
    | .writing chunk => some chunk
    | _ => none

/-- For every write that was performed, its length and what it transmitted. -/
def transmissions : List Event → List (Nat × List UInt8) :=
  List.filterMap fun
    | .transmitted length bytes => some (length, bytes)
    | _ => none

/-- The number of writes whose handler has run. -/
def writesHandled (events : List Event) : Nat :=
  events.count .wrote

def bytesReceived (events : List Event) : List UInt8 :=
  ((receivedChunks events).map Chunk.bytes).flatten

def bytesSent (events : List Event) : List UInt8 :=
  ((transmissions events).map Prod.snd).flatten

section Append

variable (events new : List Event)

theorem receivedChunks_append : receivedChunks (events ++ new) =
    receivedChunks events ++ receivedChunks new := List.filterMap_append

theorem writesStarted_append : writesStarted (events ++ new) =
    writesStarted events ++ writesStarted new := List.filterMap_append

theorem transmissions_append : transmissions (events ++ new) =
    transmissions events ++ transmissions new := List.filterMap_append

theorem writesHandled_append : writesHandled (events ++ new) =
    writesHandled events + writesHandled new := List.count_append

end Append

/-! ## The order of the chunks -/

variable {blockSize : Nat} {Data : Type}

/-- The bytes of a chunk lie at the front of its buffer. -/
def Present (session : Session blockSize Data) (chunk : Chunk) : Prop :=
  (session.heap chunk.buffer).slice 0 chunk.bytes.length = chunk.bytes

/-- A write of `chunk` has transmitted a front part of it. -/
def Cut (transmission : Nat × List UInt8) (chunk : Chunk) : Prop :=
  transmission.1 = chunk.bytes.length ∧ transmission.2 <+: chunk.bytes

/-- The chunks that were received are, in order: those whose write is over,
those whose write was performed, those whose write is pending, and those whose
read handler has yet to run. -/
structure InOrder (session : Session blockSize Data) (events : List Event)
    (finished performed pending waiting : List Chunk) : Prop where
  nodup : session.places.Nodup
  received : receivedChunks events =
    finished ++ performed ++ pending ++ waiting
  started : writesStarted events = finished ++ performed ++ pending
  readDone : session.readDone.filter (·.result.isSome) =
    waiting.map fun chunk => ⟨chunk.buffer, some chunk.bytes.length⟩
  writeDone : session.writeDone.map Completion.buffer =
    performed.map Chunk.buffer
  writeQueue : session.writeQueue =
    pending.map fun chunk => ⟨chunk.buffer, chunk.bytes.length⟩
  present : ∀ chunk ∈ performed ++ pending ++ waiting,
    Present session chunk
  handled : writesHandled events = finished.length
  transmitted :
    List.Forall₂ Cut (transmissions events) (finished ++ performed)

section Steps

variable {session next : Session blockSize Data} {events new : List Event}
  {finished performed pending waiting : List Chunk}

theorem InOrder.frame
    (inOrder : InOrder session events finished performed pending waiting)
    (nodup : next.places.Nodup) (heap : next.heap = session.heap)
    (readDone : next.readDone.filter (·.result.isSome) =
      session.readDone.filter (·.result.isSome))
    (writeDone : next.writeDone = session.writeDone)
    (writeQueue : next.writeQueue = session.writeQueue) :
    InOrder next events finished performed pending waiting :=
  { nodup := nodup
    received := inOrder.received
    started := inOrder.started
    readDone := readDone.trans inOrder.readDone
    writeDone := by rw [writeDone, inOrder.writeDone]
    writeQueue := writeQueue.trans inOrder.writeQueue
    present := by
      intro chunk member
      rw [Present, heap]
      exact inOrder.present chunk member
    handled := inOrder.handled
    transmitted := inOrder.transmitted }

/-- The chunks of outstanding operations are not in the buffer of a read that
was not performed. -/
theorem InOrder.buffer_ne
    (inOrder : InOrder session events finished performed pending waiting)
    {buffer : BufferId} {rest : List BufferId}
    (queue : session.readQueue = buffer :: rest) {chunk : Chunk}
    (member : chunk ∈ performed ++ pending ++ waiting) :
    chunk.buffer ≠ buffer := by
  intro same
  have nodup := inOrder.nodup
  rw [Session.places, Session.reads, Session.writes, queue,
    inOrder.writeDone, inOrder.writeQueue, List.map_map] at nodup
  rcases List.mem_append.mp member with outstanding | waits
  · have held : buffer ∈ performed.map Chunk.buffer ++
        pending.map (WriteRequest.buffer ∘ fun chunk =>
          ⟨chunk.buffer, chunk.bytes.length⟩) := by
      rw [← same, List.mem_append]
      rcases List.mem_append.mp outstanding with isPerformed | isPending
      · exact .inl (List.mem_map_of_mem isPerformed)
      · exact .inr (List.mem_map_of_mem (f := WriteRequest.buffer ∘
          fun chunk : Chunk => ⟨chunk.buffer, chunk.bytes.length⟩) isPending)
    have disjoint := (List.nodup_append.mp nodup).2.2
    exact disjoint buffer (by simp) buffer held rfl
  · have listed : Completion.mk buffer (some chunk.bytes.length) ∈
        session.readDone := by
      have kept : Completion.mk buffer (some chunk.bytes.length) ∈
          session.readDone.filter (·.result.isSome) := by
        rw [inOrder.readDone, ← same]
        exact List.mem_map_of_mem (f := fun chunk : Chunk =>
          Completion.mk chunk.buffer (some chunk.bytes.length)) waits
      exact (List.mem_filter.mp kept).1
    have front := (List.nodup_append.mp nodup).1
    have reads := (List.nodup_append.mp front).2.1
    have disjoint := (List.nodup_append.mp reads).2.2
    exact disjoint buffer (List.mem_map_of_mem (f := Completion.buffer)
      listed) buffer (by simp) rfl

theorem InOrder.silent
    (inOrder : InOrder session events finished performed pending waiting)
    (noChunk : receivedChunks new = []) (noWrite : writesStarted new = [])
    (noTransmission : transmissions new = [])
    (noHandler : writesHandled new = 0) :
    InOrder session (events ++ new) finished performed pending waiting := by
  refine { inOrder with received := ?_, started := ?_, handled := ?_,
                        transmitted := ?_ }
  · rw [receivedChunks_append, noChunk, List.append_nil, inOrder.received]
  · rw [writesStarted_append, noWrite, List.append_nil, inOrder.started]
  · rw [writesHandled_append, noHandler, inOrder.handled, Nat.add_zero]
  · rw [transmissions_append, noTransmission, List.append_nil]
    exact inOrder.transmitted

theorem InOrder.recv {buffer : BufferId} {rest : List BufferId}
    {chunk : List UInt8}
    (inOrder : InOrder session events finished performed pending waiting)
    (queue : session.readQueue = buffer :: rest)
    (fits : 0 + chunk.length ≤ blockSize)
    (nodup : Session.places
      { session with
        heap := Function.update session.heap buffer
          ((session.heap buffer).store 0 chunk fits)
        readQueue := rest
        readDone := session.readDone ++ [⟨buffer, some chunk.length⟩] }
      |>.Nodup) :
    InOrder
      { session with
        heap := Function.update session.heap buffer
          ((session.heap buffer).store 0 chunk fits)
        readQueue := rest
        readDone := session.readDone ++ [⟨buffer, some chunk.length⟩] }
      (events ++ [.received ⟨buffer, chunk⟩]) finished performed pending
      (waiting ++ [⟨buffer, chunk⟩]) := by
  constructor
  · exact nodup
  · rw [receivedChunks_append, inOrder.received, List.append_assoc]
    rfl
  · rw [writesStarted_append, inOrder.started]
    exact List.append_nil _
  · simp [inOrder.readDone]
  · exact inOrder.writeDone
  · exact inOrder.writeQueue
  · intro other member
    change (Function.update session.heap buffer
      ((session.heap buffer).store 0 chunk fits) other.buffer).slice 0
      other.bytes.length = other.bytes
    rw [← List.append_assoc, List.mem_append, List.mem_singleton] at member
    rcases member with earlier | last
    · rw [Function.update_of_ne (inOrder.buffer_ne queue earlier)]
      exact inOrder.present other earlier
    · subst last
      rw [Function.update_self]
      have stored := (session.heap buffer).take_store 0 chunk fits
      rw [Nat.zero_add, List.take_zero, List.nil_append] at stored
      exact stored
  · rw [writesHandled_append, inOrder.handled]
    rfl
  · have nothing : transmissions [.received ⟨buffer, chunk⟩] = [] := rfl
    rw [transmissions_append, nothing, List.append_nil]
    exact inOrder.transmitted

/-- A write that is performed, or fails, transmits a front part of the oldest
pending chunk. -/
theorem InOrder.transmit {request : WriteRequest} {rest : List WriteRequest}
    {result : Option Nat}
    (inOrder : InOrder session events finished performed pending waiting)
    (bytes : List UInt8) (queue : session.writeQueue = request :: rest)
    (front : bytes.length ≤ request.length)
    (content :
      (session.heap request.buffer).slice 0 bytes.length = bytes) :
    ∃ chunk left, pending = chunk :: left ∧
      InOrder
        { session with
          writeQueue := rest
          writeDone := session.writeDone ++ [⟨request.buffer, result⟩] }
        (events ++ [.transmitted request.length bytes]) finished
        (performed ++ [chunk]) left waiting := by
  have written := inOrder.writeQueue
  rw [queue] at written
  cases pending with
  | nil => cases written
  | cons chunk left =>
      rw [List.map_cons, List.cons.injEq] at written
      obtain ⟨rfl, restQueue⟩ := written
      refine ⟨chunk, left, rfl, ?_⟩
      constructor
      · have nodup := inOrder.nodup
        simp only [Session.places, Session.reads, Session.writes, queue,
          List.map_cons] at nodup
        simpa [Session.places, Session.reads, Session.writes] using nodup
      · rw [receivedChunks_append, inOrder.received]
        simp [receivedChunks]
      · rw [writesStarted_append, inOrder.started]
        simp [writesStarted]
      · exact inOrder.readDone
      · simp [inOrder.writeDone]
      · exact restQueue
      · intro other member
        apply inOrder.present other
        simpa using member
      · rw [writesHandled_append, inOrder.handled]
        rfl
      · have cut : Cut (chunk.bytes.length, bytes) chunk := by
          refine ⟨rfl, ?_⟩
          have whole := inOrder.present chunk (by simp)
          rw [Present, Memory.slice_zero] at whole
          have same : chunk.bytes.take bytes.length = bytes := by
            rw [← whole, List.take_take, Nat.min_eq_left front]
            exact content
          rw [← same]
          exact List.take_prefix _ _
        rw [transmissions_append, ← List.append_assoc]
        exact List.rel_append inOrder.transmitted
          (List.Forall₂.cons cut List.Forall₂.nil)

/-- The handler of a successful read starts the write of its chunk. -/
theorem InOrder.handRead {buffer : BufferId} {count : Nat}
    {rest : List Completion}
    (inOrder : InOrder session events finished performed pending waiting)
    (done : session.readDone = ⟨buffer, some count⟩ :: rest)
    (nodup : next.places.Nodup) (heap : next.heap = session.heap)
    (readDone : next.readDone = rest)
    (writeDone : next.writeDone = session.writeDone)
    (writeQueue : next.writeQueue =
      session.writeQueue ++ [⟨buffer, count⟩]) :
    ∃ chunk left, waiting = chunk :: left ∧
      session.writesAdded next = [.writing chunk] ∧
      InOrder next (events ++ [.writing chunk]) finished performed
        (pending ++ [chunk]) left := by
  have listed := inOrder.readDone
  rw [done, List.filter_cons_of_pos rfl] at listed
  cases waiting with
  | nil => cases listed
  | cons chunk left =>
      rw [List.map_cons, List.cons.injEq, Completion.mk.injEq,
        Option.some.injEq] at listed
      obtain ⟨⟨rfl, rfl⟩, restListed⟩ := listed
      have present : Present session chunk := inOrder.present chunk (by simp)
      refine ⟨chunk, left, rfl, ?_, ?_⟩
      · rw [Session.writesAdded_append writeQueue]
        simp only [List.map_cons, List.map_nil, heap]
        rw [present]
      · constructor
        · exact nodup
        · rw [receivedChunks_append, inOrder.received]
          simp [receivedChunks]
        · rw [writesStarted_append, inOrder.started]
          simp [writesStarted]
        · rw [readDone, restListed]
        · rw [writeDone, inOrder.writeDone]
        · rw [writeQueue, inOrder.writeQueue]
          simp
        · intro other member
          rw [Present, heap]
          apply inOrder.present other
          simpa using member
        · rw [writesHandled_append, inOrder.handled]
          rfl
        · have nothing : transmissions [.writing chunk] = [] := rfl
          rw [transmissions_append, nothing, List.append_nil]
          exact inOrder.transmitted

theorem InOrder.handWrite {completion : Completion} {rest : List Completion}
    (inOrder : InOrder session events finished performed pending waiting)
    (done : session.writeDone = completion :: rest)
    (nodup : next.places.Nodup) (heap : next.heap = session.heap)
    (readDone : next.readDone = session.readDone)
    (writeDone : next.writeDone = rest)
    (writeQueue : next.writeQueue = session.writeQueue) :
    ∃ chunk left, performed = chunk :: left ∧
      InOrder next (events ++ [.wrote]) (finished ++ [chunk]) left pending
        waiting := by
  have listed := inOrder.writeDone
  rw [done] at listed
  cases performed with
  | nil => cases listed
  | cons chunk left =>
      rw [List.map_cons, List.map_cons, List.cons.injEq] at listed
      refine ⟨chunk, left, rfl, ?_⟩
      constructor
      · exact nodup
      · rw [receivedChunks_append, inOrder.received]
        simp [receivedChunks]
      · rw [writesStarted_append, inOrder.started]
        simp [writesStarted]
      · rw [readDone, inOrder.readDone]
      · rw [writeDone, listed.2]
      · rw [writeQueue, inOrder.writeQueue]
      · intro other member
        rw [Present, heap]
        apply inOrder.present other
        rw [List.append_assoc, List.cons_append]
        rw [List.append_assoc] at member
        exact List.mem_cons_of_mem chunk member
      · rw [writesHandled_append, inOrder.handled, List.length_append]
        rfl
      · have nothing : transmissions [.wrote] = [] := rfl
        rw [transmissions_append, nothing, List.append_nil,
          List.append_assoc]
        exact inOrder.transmitted

end Steps

/-! ## The runs of `server2` -/

section Server

variable {session next : Server2.ServerSession blockSize} {action : Action}
  {events : List Event}

theorem Server2.writeHandler_frame (buffer : BufferId) (result : Option Nat)
    (session : Server2.ServerSession blockSize) :
    (Server2.writeHandler buffer result session).heap = session.heap ∧
      (Server2.writeHandler buffer result session).readDone =
        session.readDone ∧
      (Server2.writeHandler buffer result session).writeQueue =
        session.writeQueue ∧
      (Server2.writeHandler buffer result session).writeDone =
        session.writeDone := by
  obtain ⟨heap, readDone, writeQueue, writeDone, _⟩ :=
    Session.read_frame (session.push buffer)
  simp only [Server2.writeHandler, Server2.read]
  split
  · split
    · exact ⟨heap, readDone, writeQueue, writeDone⟩
    · exact ⟨rfl, rfl, rfl, rfl⟩
  · split
    · exact ⟨heap, readDone, writeQueue, writeDone⟩
    · exact ⟨rfl, rfl, rfl, rfl⟩

theorem InOrder.step {finished performed pending waiting : List Chunk}
    (inOrder : InOrder session events finished performed pending waiting)
    (taken : Session.Step (Server2.handlers blockSize) session action next)
    (nodup : next.places.Nodup) :
    ∃ finished performed pending waiting,
      InOrder next (events ++ session.observe action next) finished performed
        pending waiting := by
  cases taken with
  | started starting =>
      obtain ⟨heap, readDone, writeQueue, writeDone, _⟩ :=
        Session.read_frame { session with starting := false }
      have quiet : session.observe (.started true)
          ((Server2.handlers blockSize).started
            { session with starting := false }) = [] :=
        Session.writesAdded_same writeQueue
      rw [quiet, List.append_nil]
      exact ⟨_, _, _, _, inOrder.frame nodup heap
        (congrArg (List.filter _) readDone) writeDone writeQueue⟩
  | notStarted starting =>
      have quiet : session.observe (.started false)
          { session with starting := false } = [] :=
        Session.writesAdded_same rfl
      rw [quiet, List.append_nil]
      exact ⟨_, _, _, _, inOrder.frame nodup rfl rfl rfl rfl⟩
  | recv queue fits isOpen arrives =>
      simp only [Session.observe, queue, List.take_succ_cons, List.take_zero,
        List.map_cons, List.map_nil]
      exact ⟨_, _, _, _, inOrder.recv queue fits nodup⟩
  | readError queue =>
      refine ⟨_, _, _, _, InOrder.frame (inOrder.silent rfl rfl rfl rfl)
        nodup rfl ?_ rfl rfl⟩
      simp
  | @readHandler completion rest done =>
      obtain ⟨buffer, result⟩ := completion
      cases result with
      | none =>
          have quiet : session.observe .readHandler
              ((Server2.handlers blockSize).readHandler buffer none
                { session with readDone := rest }) =
              [.readFailed buffer] := by
            have added : session.writesAdded
                ((Server2.handlers blockSize).readHandler buffer none
                  { session with readDone := rest }) = [] :=
              Session.writesAdded_same rfl
            simp only [Session.observe, done]
            rw [added]
            rfl
          rw [quiet]
          refine ⟨_, _, _, _, InOrder.frame (inOrder.silent rfl rfl rfl rfl)
            nodup rfl ?_ rfl rfl⟩
          rw [done]
          rfl
      | some count =>
          obtain ⟨heap, readDone, writeQueue, writeDone, _⟩ :=
            Session.read_frame (Session.write
              { session with readDone := rest } buffer count)
          obtain ⟨chunk, left, _, added, after⟩ := inOrder.handRead done
            nodup heap readDone writeDone writeQueue
          have shown : session.observe .readHandler
              ((Server2.handlers blockSize).readHandler buffer (some count)
                { session with readDone := rest }) = [.writing chunk] := by
            simp only [Session.observe, done]
            rw [added]
            rfl
          rw [shown]
          exact ⟨_, _, _, _, after⟩
  | send queue isOpen moves room content =>
      simp only [Session.observe, queue, List.take_succ_cons, List.take_zero,
        List.map_cons, List.map_nil]
      obtain ⟨chunk, left, _, after⟩ := inOrder.transmit _ queue room content
      exact ⟨_, _, _, _, after⟩
  | writeError queue =>
      simp only [Session.observe, queue, List.take_succ_cons, List.take_zero,
        List.map_cons, List.map_nil]
      obtain ⟨chunk, left, _, after⟩ := inOrder.transmit [] queue
        (Nat.zero_le _) List.take_zero
      exact ⟨_, _, _, _, after⟩
  | @writeHandler completion rest done =>
      obtain ⟨heap, readDone, writeQueue, writeDone⟩ :=
        Server2.writeHandler_frame completion.buffer completion.result
          { session with writeDone := rest }
      obtain ⟨chunk, left, _, after⟩ := inOrder.handWrite done nodup heap
        readDone writeDone writeQueue
      exact ⟨_, _, _, _, after⟩
  | stop stopped => cases stopped

theorem run_inOrder {heap : BufferId → Memory blockSize}
    {actions : List Action}
    {recorded : Server2.ServerSession blockSize × List Event}
    (run : ((serverSystem blockSize).recording Session.observe).Run
      (Server2.accepting heap, []) actions recorded) :
    ∃ finished performed pending waiting,
      InOrder recorded.1 recorded.2 finished performed pending waiting := by
  have nodup : ∀ {actions recorded},
      ((serverSystem blockSize).recording Session.observe).Run
        (Server2.accepting heap, []) actions recorded →
      recorded.1.places.Nodup := by
    intro actions recorded run
    have all := run_places_perm (Server2.keepsBuffers blockSize) rfl
      (Session.places_constructed heap ()) run
    have whole := all.nodup_iff.mpr (List.nodup_finRange _)
    exact (List.nodup_append.mp whole).1
  induction run using System.Run.recorded_induction with
  | refl =>
      refine ⟨[], [], [], [], ?_⟩
      exact
        { nodup := nodup .refl
          received := rfl
          started := rfl
          readDone := rfl
          writeDone := rfl
          writeQueue := rfl
          present := by simp
          handled := rfl
          transmitted := List.Forall₂.nil }
  | snoc before moved induction =>
      obtain ⟨finished, performed, pending, waiting, inOrder⟩ := induction
      have step := (Session.step_eq_some_iff.mp moved).2
      exact inOrder.step step (nodup (before.snoc_recorded moved))

end Server

/-- Front parts of the first chunks are front parts of all chunks, the rest
being empty. -/
theorem exists_prefixes {sent : List (Nat × List UInt8)}
    {chunks : List Chunk} (rest : List Chunk)
    (cut : List.Forall₂ Cut sent chunks) :
    ∃ prefixes,
      List.Forall₂ (· <+: ·) prefixes
        ((chunks ++ rest).map Chunk.bytes) ∧
      (sent.map Prod.snd).flatten = prefixes.flatten := by
  induction cut with
  | nil =>
      induction rest with
      | nil => exact ⟨[], List.Forall₂.nil, rfl⟩
      | cons chunk rest induction =>
          obtain ⟨prefixes, fronts, same⟩ := induction
          exact ⟨[] :: prefixes,
            List.Forall₂.cons (List.nil_prefix) fronts, same⟩
  | cons head _ induction =>
      obtain ⟨prefixes, fronts, same⟩ := induction
      refine ⟨_ :: prefixes, List.Forall₂.cons head.2 fronts, ?_⟩
      rw [List.map_cons, List.flatten_cons, List.flatten_cons, same]

/-- For every run of a `server2` session, with any read sizes, short writes and
failures: no buffer is in two places, the writes are started with the chunks of
the reads, in order, the chunk of an outstanding write lies unchanged in its
buffer, and what the peer gets is one front part of each chunk. -/
theorem server_writes_in_order (blockSize : Nat)
    (heap : BufferId → Memory blockSize) (actions : List Action)
    (session : Server2.ServerSession blockSize) (events : List Event)
    (run : ((serverSystem blockSize).recording Session.observe).Run
      (Server2.accepting heap, []) actions (session, events)) :
    (∀ buffer, session.buffers.count buffer + session.reads.count buffer +
      session.writes.count buffer ≤ 1) ∧
    writesStarted events <+: receivedChunks events ∧
    ((writesStarted events).drop (writesHandled events)).map Chunk.buffer =
      session.writes ∧
    (∀ chunk ∈ (writesStarted events).drop (writesHandled events),
      (session.heap chunk.buffer).slice 0 chunk.bytes.length =
        chunk.bytes) ∧
    ∃ prefixes,
      List.Forall₂ (· <+: ·) prefixes
        ((receivedChunks events).map Chunk.bytes) ∧
      bytesSent events = prefixes.flatten := by
  obtain ⟨finished, performed, pending, waiting, inOrder⟩ := run_inOrder run
  have outstanding : (writesStarted events).drop (writesHandled events) =
      performed ++ pending := by
    rw [inOrder.started, inOrder.handled, List.append_assoc]
    exact List.drop_left
  refine ⟨?_, ?_, ?_, ?_, ?_⟩
  · intro buffer
    have once := List.nodup_iff_count_le_one.mp inOrder.nodup buffer
    rwa [Session.places, List.count_append, List.count_append] at once
  · rw [inOrder.started, inOrder.received]
    exact List.prefix_append _ _
  · rw [outstanding, Session.writes, inOrder.writeDone, inOrder.writeQueue,
      List.map_append, List.map_map]
    rfl
  · rw [outstanding]
    intro chunk member
    exact inOrder.present chunk (List.mem_append_left _ member)
  · obtain ⟨prefixes, fronts, same⟩ :=
      exists_prefixes (pending ++ waiting) inOrder.transmitted
    refine ⟨prefixes, ?_, same⟩
    rw [inOrder.received, List.append_assoc _ pending]
    exact fronts

/-- Two reads whose writes overlap, the first of them cut short. -/
theorem server_writes_in_order_cut :
    ∃ session events,
      ((serverSystem 2).recording Session.observe).Run
        (Server2.accepting fun _ => .filled 2 0, [])
        [.started true, .recv [1, 2], .readHandler, .recv [3], .readHandler,
          .send [1], .writeHandler] (session, events) ∧
      writesStarted events <+: receivedChunks events ∧
      session.writes.length = 1 := by
  obtain ⟨recorded, run, held⟩ : ∃ recorded,
      ((serverSystem 2).recording Session.observe).Run
        (Server2.accepting fun _ => .filled 2 0, [])
        [.started true, .recv [1, 2], .readHandler, .recv [3], .readHandler,
          .send [1], .writeHandler] recorded ∧
      recorded.1.writes.length = 1 :=
    ⟨_, System.run_iff_exec.mpr rfl, rfl⟩
  exact ⟨recorded.1, recorded.2, run,
    (server_writes_in_order 2 _ _ recorded.1 recorded.2 run).2.1, held⟩

/-! ## The echo -/

/-- As long as only the last write is cut short, the transmitted bytes are the
bytes of the chunks. -/
theorem flatten_prefix {sent : List (Nat × List UInt8)}
    {chunks : List Chunk} (cut : List.Forall₂ Cut sent chunks)
    (full : ∀ entry ∈ sent.dropLast, entry.2.length = entry.1) :
    (sent.map Prod.snd).flatten <+: (chunks.map Chunk.bytes).flatten := by
  induction cut with
  | nil => exact List.prefix_refl _
  | @cons entry chunk sent chunks head tail induction =>
      rw [List.map_cons, List.map_cons, List.flatten_cons, List.flatten_cons]
      cases sent with
      | nil =>
          rw [List.map_nil, List.flatten_nil, List.append_nil]
          exact head.2.trans (List.prefix_append _ _)
      | cons second sent =>
          rw [List.dropLast_cons_of_ne_nil (List.cons_ne_nil _ _)] at full
          have whole : entry.2 = chunk.bytes := by
            apply head.2.eq_of_length
            rw [full entry List.mem_cons_self, head.1]
          rw [whole, List.prefix_append_right_inj]
          exact induction fun other member =>
            full other (List.mem_cons_of_mem _ member)

theorem Server2.bytesSent_prefix {blockSize : Nat}
    {heap : BufferId → Memory blockSize} {actions : List Action}
    {session : Server2.ServerSession blockSize} {events : List Event}
    (run : ((serverSystem blockSize).recording Session.observe).Run
      (Server2.accepting heap, []) actions (session, events))
    (full : ∀ transmission ∈ (transmissions events).dropLast,
      transmission.2.length = transmission.1) :
    bytesSent events <+: bytesReceived events := by
  obtain ⟨finished, performed, pending, waiting, inOrder⟩ := run_inOrder run
  have sent := flatten_prefix inOrder.transmitted full
  refine List.IsPrefix.trans sent ?_
  rw [bytesReceived, inOrder.received, List.append_assoc _ pending,
    @List.map_append _ _ _ (finished ++ performed), List.flatten_append]
  exact List.prefix_append _ _

/-- In every run in which each write but the last transmits all of its bytes,
the bytes sent are a prefix of the bytes received. -/
theorem server_echoes_of_full_writes (blockSize : Nat)
    (heap : BufferId → Memory blockSize) (actions : List Action)
    (session : Server2.ServerSession blockSize) (events : List Event)
    (run : ((serverSystem blockSize).recording Session.observe).Run
      (Server2.accepting heap, []) actions (session, events))
    (full : ∀ transmission ∈ (transmissions events).dropLast,
      transmission.2.length = transmission.1) :
    bytesSent events <+: bytesReceived events :=
  Server2.bytesSent_prefix run full

/-- Two full writes. -/
theorem server_echoes_two :
    ∃ session events,
      ((serverSystem 2).recording Session.observe).Run
        (Server2.accepting fun _ => .filled 2 0, [])
        [.started true, .recv [1, 2], .readHandler, .send [1, 2], .recv [3],
          .readHandler, .send [3]] (session, events) ∧
      bytesSent events = [1, 2, 3] ∧
      bytesSent events <+: bytesReceived events := by
  obtain ⟨recorded, run, full, sent⟩ : ∃ recorded,
      ((serverSystem 2).recording Session.observe).Run
        (Server2.accepting fun _ => .filled 2 0, [])
        [.started true, .recv [1, 2], .readHandler, .send [1, 2], .recv [3],
          .readHandler, .send [3]] recorded ∧
      (∀ transmission ∈ (transmissions recorded.2).dropLast,
        transmission.2.length = transmission.1) ∧
      bytesSent recorded.2 = [1, 2, 3] :=
    ⟨_, System.run_iff_exec.mpr rfl, by decide, rfl⟩
  exact ⟨recorded.1, recorded.2, run, sent,
    server_echoes_of_full_writes 2 _ _ recorded.1 recorded.2 run full⟩

/-- One byte of two is transmitted, then the next chunk: the second byte is
lost. -/
theorem server_drops_byte :
    ∃ session events,
      ((serverSystem 2).recording Session.observe).Run
        (Server2.accepting fun _ => .filled 2 0, [])
        [.started true, .recv [1, 2], .readHandler, .send [1], .recv [3],
          .readHandler, .send [3]] (session, events) ∧
      bytesReceived events = [1, 2, 3] ∧ bytesSent events = [1, 3] ∧
      ¬bytesSent events <+: bytesReceived events := by
  obtain ⟨recorded, run, received, sent⟩ : ∃ recorded,
      ((serverSystem 2).recording Session.observe).Run
        (Server2.accepting fun _ => .filled 2 0, [])
        [.started true, .recv [1, 2], .readHandler, .send [1], .recv [3],
          .readHandler, .send [3]] recorded ∧
      bytesReceived recorded.2 = [1, 2, 3] ∧
      bytesSent recorded.2 = [1, 3] :=
    ⟨_, System.run_iff_exec.mpr rfl, rfl, rfl⟩
  refine ⟨recorded.1, recorded.2, run, received, sent, ?_⟩
  rw [received, sent]
  decide

end AsioBenchmark.Pooled
