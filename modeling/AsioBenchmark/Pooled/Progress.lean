import AsioBenchmark.Pooled.Circulation

/-!
# A `client2` session and its `server2` session

The two sessions are joined by two unbounded streams.  In a run without failed
operations the bytes of the client's first packet circulate until short writes
have cut all of them off, and as long as some are left the pair can move.
-/

namespace AsioBenchmark.Pooled

open AsioBenchmark.Bytes AsioBenchmark.Stream AsioBenchmark.Transition

variable {blockSize clientBlock serverBlock : Nat} {Data : Type}

def serverEndpoint (blockSize : Nat) :
    Endpoint (Server2.ServerSession blockSize) Action where
  step := Session.step (Server2.handlers blockSize)
  traffic := traffic
  isOpen := Session.isOpen

def clientEndpoint (blockSize : Nat) :
    Endpoint (Client2.ClientSession blockSize) Action where
  step := Session.step (Client2.handlers blockSize)
  traffic := traffic
  isOpen := Session.isOpen

abbrev Pair (clientBlock serverBlock : Nat) :=
  Joined (Client2.ClientSession clientBlock)
    (Server2.ServerSession serverBlock)

/-- Neither the connect handler nor the accept handler has run. -/
def Pair.connecting (clientHeap : BufferId → Memory clientBlock)
    (serverHeap : BufferId → Memory serverBlock) :
    Pair clientBlock serverBlock :=
  { left := Client2.connecting clientHeap
    right := Server2.accepting serverHeap
    toRight := []
    toLeft := [] }

def pairSystem (clientBlock serverBlock : Nat) :
    System (Pair clientBlock serverBlock) (Side Action Action) where
  Initial pair := ∃ clientHeap serverHeap,
    pair = Pair.connecting clientHeap serverHeap
  step := Joined.step (clientEndpoint clientBlock) (serverEndpoint serverBlock)

abbrev PairEvent := Side Event Event

def Pair.observe : Pair clientBlock serverBlock → Side Action Action →
    Pair clientBlock serverBlock → List PairEvent :=
  Joined.observe Session.observe Session.observe

/-- The action of either side. -/
def Pair.action : Side Action Action → Action
  | .left action => action
  | .right action => action

/-- The bytes that outstanding writes of both sessions still hold. -/
def Pair.held (pair : Pair clientBlock serverBlock) : Nat :=
  pair.left.held + pair.right.held

/-- The bytes in flight in both directions: in the stream, or in the buffer of
a read whose handler has not run. -/
def Pair.inFlight (pair : Pair clientBlock serverBlock) : Nat :=
  pair.toRight.length + pair.right.arrived +
    (pair.toLeft.length + pair.left.arrived)

/-- The bytes that short writes of both sessions have cut off so far. -/
def Pair.cutOff (events : List PairEvent) : Nat :=
  Pooled.cutOff (Side.lefts events) + Pooled.cutOff (Side.rights events)

/-- A read or a write is performed, or its handler runs. -/
def Action.IsCompletion : Action → Prop
  | .started _ => False
  | .stop => False
  | _ => True

/-- The start handler of the client has returned. -/
def Client2.Started (session : Client2.ClientSession clientBlock) : Prop :=
  session.starting = false ∧ session.threw = false

/-! ## What one session can do -/

section Moves

variable {handlers : Handlers blockSize Data}
  {session : Session blockSize Data} {incoming outgoing : List UInt8}
  {peerOpen : Bool}

/-- Some operation of the session can be performed, or a handler can run. -/
def Session.Busy (session : Session blockSize Data)
    (incoming : List UInt8) : Prop :=
  session.readDone ≠ [] ∨ session.writeDone ≠ [] ∨
    session.writeQueue ≠ [] ∨ session.readQueue ≠ [] ∧ incoming ≠ []

theorem Session.counts_of_idle (idle : ¬session.Busy incoming) :
    session.held = 0 ∧ session.arrived = 0 := by
  simp only [Busy, not_or, not_not] at idle
  obtain ⟨readDone, _, writeQueue, _⟩ := idle
  rw [held, arrived, readDone, writeQueue]
  exact ⟨rfl, rfl⟩

/-- An attentive session has something to do with bytes that arrive: if it
pauses, all its buffers are in writes. -/
theorem Session.Attentive.busy (attentive : session.Attentive)
    (full : session.places.Perm (List.finRange kMaxStackSize))
    (arrives : incoming ≠ []) : session.Busy incoming := by
  by_cases noReads : session.reads = []
  · rcases attentive with listening | paused
    · exact absurd noReads listening
    · have writes : session.writes ≠ [] := by
        intro noWrites
        rw [Session.places, paused, noReads, noWrites] at full
        have impossible := full.length_eq
        rw [List.length_finRange] at impossible
        cases impossible
      by_cases done : session.writeDone = []
      · rw [Session.writes, done] at writes
        refine .inr (.inr (.inl ?_))
        intro none
        rw [none] at writes
        exact writes rfl
      · exact .inr (.inl done)
  · by_cases done : session.readDone = []
    · refine .inr (.inr (.inr ⟨?_, arrives⟩))
      intro none
      rw [Session.reads, done, none] at noReads
      exact noReads rfl
    · exact .inl done

/-- A busy session can complete something, and without a failure while its
socket is open. -/
theorem Session.Busy.moves (busy : session.Busy incoming)
    (positive : 1 ≤ blockSize) (runs : session.threw = false)
    (handlers : Handlers blockSize Data) (outgoing : List UInt8)
    (peerOpen : Bool) :
    ∃ action next queues, action.IsCompletion ∧
      (session.isOpen = true → action.Healthy) ∧
      session.step handlers action = some next ∧
      (traffic action).carry session.isOpen peerOpen ⟨incoming, outgoing⟩ =
        some queues := by
  rcases busy with readDone | writeDone | writing | ⟨reading, arrives⟩
  · obtain ⟨completion, rest, done⟩ := List.exists_cons_of_ne_nil readDone
    exact ⟨.readHandler, _, _, trivial, fun _ => trivial,
      step_eq_some_iff.mpr ⟨runs, .readHandler done⟩, rfl⟩
  · obtain ⟨completion, rest, done⟩ := List.exists_cons_of_ne_nil writeDone
    exact ⟨.writeHandler, _, _, trivial, fun _ => trivial,
      step_eq_some_iff.mpr ⟨runs, .writeHandler done⟩, rfl⟩
  · obtain ⟨request, rest, queue⟩ := List.exists_cons_of_ne_nil writing
    cases isOpen : session.isOpen with
    | true =>
        let chunk := (session.heap request.buffer).slice 0 request.length
        have size : chunk.length = min request.length blockSize :=
          Memory.length_slice_zero _ _
        have content :
            (session.heap request.buffer).slice 0 chunk.length = chunk :=
          Memory.slice_length_slice _ _
        have moves : chunk ≠ [] ∨ request.length = 0 := by
          by_cases empty : request.length = 0
          · exact .inr empty
          · left
            intro none
            rw [none, List.length_nil] at size
            omega
        exact ⟨.send chunk, _, _, trivial, fun _ => trivial,
          step_eq_some_iff.mpr ⟨runs, .send queue isOpen moves
            (by omega) content⟩, rfl⟩
    | false =>
        refine ⟨.writeError, _, _, trivial, ?_,
          step_eq_some_iff.mpr ⟨runs, .writeError queue⟩, rfl⟩
        intro impossible
        cases impossible
  · obtain ⟨buffer, rest, queue⟩ := List.exists_cons_of_ne_nil reading
    cases isOpen : session.isOpen with
    | true =>
        obtain ⟨byte, later, stream⟩ := List.exists_cons_of_ne_nil arrives
        refine ⟨.recv [byte], _, ⟨later, outgoing⟩, trivial,
          fun _ => trivial, step_eq_some_iff.mpr ⟨runs, .recv queue ?_ isOpen
            (.inl (List.cons_ne_nil byte []))⟩, ?_⟩
        · rw [List.length_singleton]
          omega
        · exact Traffic.carry_recv_eq_some_iff.mpr ⟨stream, rfl⟩
    | false =>
        refine ⟨.readError, _, _, trivial, ?_,
          step_eq_some_iff.mpr ⟨runs, .readError queue⟩, rfl⟩
        intro impossible
        cases impossible

theorem Session.Step.busy {next : Session blockSize Data} {action : Action}
    {queues : Queues}
    (taken : Session.Step handlers session action next)
    (positive : 0 < blockSize) (isOpen : session.isOpen = true)
    (otherOpen : peerOpen = true)
    (carried : (traffic action).carry session.isOpen peerOpen
      ⟨incoming, outgoing⟩ = some queues)
    (completes : action.IsCompletion) : session.Busy incoming := by
  cases taken with
  | started starting => cases completes
  | notStarted starting => cases completes
  | recv queue fits ownOpen arrives =>
      obtain ⟨stream, _⟩ := Traffic.carry_recv_eq_some_iff.mp carried
      refine .inr (.inr (.inr ⟨?_, ?_⟩))
      · rw [queue]
        exact List.cons_ne_nil _ _
      · rcases arrives with bytes | empty
        · intro none
          rw [none] at stream
          exact bytes (List.append_eq_nil_iff.mp stream.symm).1
        · omega
  | readError queue =>
      obtain ⟨fails, _⟩ := Traffic.carry_readError_eq_some_iff.mp carried
      rw [isOpen, otherOpen] at fails
      rcases fails with impossible | ⟨impossible, _⟩ <;> cases impossible
  | readHandler done =>
      left
      rw [done]
      exact List.cons_ne_nil _ _
  | send queue ownOpen moves room content =>
      refine .inr (.inr (.inl ?_))
      rw [queue]
      exact List.cons_ne_nil _ _
  | writeError queue =>
      refine .inr (.inr (.inl ?_))
      rw [queue]
      exact List.cons_ne_nil _ _
  | writeHandler done =>
      refine .inr (.inl ?_)
      rw [done]
      exact List.cons_ne_nil _ _
  | stop stopped => cases completes

end Moves

/-! ## The server session stays open -/

private theorem Server2.step_open
    {session next : ServerSession blockSize} {events : List Event}
    {action : Action} (flowing : Flowing supply session events)
    (taken : Session.Step (handlers blockSize) session action next)
    (running : session.isOpen = true ∧ session.threw = false) :
    next.isOpen = true ∧ next.threw = false := by
  have reading : ∀ other : ServerSession blockSize,
      other.isOpen = true ∧ other.threw = false →
      other.read.isOpen = true ∧ other.read.threw = false := by
    rintro other ⟨isOpen, runs⟩
    obtain ⟨_, _, _, _, _, sameOpen, sameThrew, _⟩ := other.read_frame
    exact ⟨sameOpen.trans isOpen, sameThrew.trans runs⟩
  cases taken with
  | started starting => exact reading _ running
  | notStarted starting => exact running
  | recv queue fits isOpen arrives => exact running
  | readError queue => exact running
  | @readHandler completion rest done =>
      have succeeded := flowing.readsSucceeded completion
        (by rw [done]; exact List.mem_cons_self)
      obtain ⟨buffer, result⟩ := completion
      cases result with
      | none => cases succeeded
      | some count => exact reading _ running
  | send queue isOpen moves room content => exact running
  | writeError queue => exact running
  | @writeHandler completion rest done =>
      have succeeded := flowing.writesSucceeded completion
        (by rw [done]; exact List.mem_cons_self)
      obtain ⟨buffer, result⟩ := completion
      cases result with
      | none => cases succeeded
      | some count =>
          simp only [handlers, writeHandler_some]
          split
          · exact reading _ running
          · exact running
  | stop stopped => cases stopped

theorem Server2.run_open {heap : BufferId → Memory blockSize}
    {actions : List Action}
    {recorded : ServerSession blockSize × List Event}
    (run : ((serverSystem blockSize).recording Session.observe).Run
      (accepting heap, []) actions recorded)
    (healthy : ∀ action ∈ actions, action.Healthy) :
    recorded.1.isOpen = true ∧ recorded.1.threw = false := by
  induction run using System.Run.recorded_induction with
  | refl => exact ⟨rfl, rfl⟩
  | @snoc actions _ _ _ _ before moved induction =>
      have earlier : ∀ action ∈ actions, action.Healthy :=
        fun action member => healthy action (List.mem_append_left _ member)
      obtain ⟨flowing, _⟩ := run_flowing (keepsBuffers blockSize)
        (circulating blockSize) rfl
        (Session.flowing_constructed (circulating blockSize) heap ())
        (Session.places_constructed heap ()) before earlier
      exact step_open flowing (Session.step_eq_some_iff.mp moved).2
        (induction earlier)

/-! ## The pair -/

section Pairs

variable {clientHeap : BufferId → Memory clientBlock}
  {serverHeap : BufferId → Memory serverBlock}
  {labels : List (Side Action Action)}
  {pair : Pair clientBlock serverBlock} {events : List PairEvent}

private theorem healthy_lefts
    (healthy : ∀ label ∈ labels, (Pair.action label).Healthy) :
    ∀ action ∈ Side.lefts labels, action.Healthy := by
  intro action member
  obtain ⟨label, inside, own⟩ := List.mem_filterMap.mp member
  cases label with
  | left own' =>
      cases own
      exact healthy _ inside
  | right other => cases own

private theorem healthy_rights
    (healthy : ∀ label ∈ labels, (Pair.action label).Healthy) :
    ∀ action ∈ Side.rights labels, action.Healthy := by
  intro action member
  obtain ⟨label, inside, own⟩ := List.mem_filterMap.mp member
  cases label with
  | left other => cases own
  | right own' =>
      cases own
      exact healthy _ inside

theorem session_runs
    (run : ((pairSystem clientBlock serverBlock).recording Pair.observe).Run
      (Pair.connecting clientHeap serverHeap, []) labels (pair, events)) :
    ((clientSystem clientBlock).recording Session.observe).Run
        (Client2.connecting clientHeap, []) (Side.lefts labels)
        (pair.left, Side.lefts events) ∧
      ((serverSystem serverBlock).recording Session.observe).Run
        (Server2.accepting serverHeap, []) (Side.rights labels)
        (pair.right, Side.rights events) :=
  ⟨Joined.run_left rfl rfl run, Joined.run_right rfl rfl run⟩

private theorem sessions_flowing
    (run : ((pairSystem clientBlock serverBlock).recording Pair.observe).Run
      (Pair.connecting clientHeap serverHeap, []) labels (pair, events))
    (healthy : ∀ label ∈ labels, (Pair.action label).Healthy) :
    (Flowing (Client2.supply clientBlock) pair.left (Side.lefts events) ∧
        pair.left.places.Perm (List.finRange kMaxStackSize)) ∧
      (Flowing Server2.supply pair.right (Side.rights events) ∧
        pair.right.places.Perm (List.finRange kMaxStackSize)) ∧
      pair.right.isOpen = true ∧ pair.right.threw = false := by
  obtain ⟨client, server⟩ := session_runs run
  exact ⟨run_flowing (Client2.keepsBuffers clientBlock)
      (Client2.circulating clientBlock) rfl
      (Session.flowing_constructed (Client2.circulating clientBlock) _ _)
      (Session.places_constructed _ _) client (healthy_lefts healthy),
    run_flowing (Server2.keepsBuffers serverBlock)
      (Server2.circulating serverBlock) rfl
      (Session.flowing_constructed (Server2.circulating serverBlock) _ _)
      (Session.places_constructed _ _) server (healthy_rights healthy),
    Server2.run_open server (healthy_rights healthy)⟩

theorem bytes_in_transit
    (run : ((pairSystem clientBlock serverBlock).recording Pair.observe).Run
      (Pair.connecting clientHeap serverHeap, []) labels (pair, events)) :
    bytesSent (Side.lefts events) =
        bytesReceived (Side.rights events) ++ pair.toRight ∧
      bytesSent (Side.rights events) =
        bytesReceived (Side.lefts events) ++ pair.toLeft := by
  obtain ⟨client, server⟩ := session_runs run
  obtain ⟨clientSent, clientReceived⟩ := run_bytes_eq rfl client
  obtain ⟨serverSent, serverReceived⟩ := run_bytes_eq rfl server
  obtain ⟨toRight, toLeft⟩ := Joined.run_in_transit rfl run.forget
  rw [clientSent, clientReceived, serverSent, serverReceived]
  exact ⟨toRight, toLeft⟩

/-- Nothing of the first packet is lost or added. -/
private theorem Pair.conserved
    (run : ((pairSystem clientBlock serverBlock).recording Pair.observe).Run
      (Pair.connecting clientHeap serverHeap, []) labels (pair, events))
    (healthy : ∀ label ∈ labels, (Pair.action label).Healthy)
    (started : Client2.Started pair.left) :
    pair.held + pair.inFlight + Pair.cutOff events = clientBlock := by
  obtain ⟨⟨client, _⟩, ⟨server, _⟩, _⟩ := sessions_flowing run healthy
  obtain ⟨toRight, toLeft⟩ := bytes_in_transit run
  have clientCounts := client.balanced
  have serverCounts := server.balanced
  have rightLength := congrArg List.length toRight
  have leftLength := congrArg List.length toLeft
  have supply : Client2.supply clientBlock pair.left.starting
      pair.left.threw = clientBlock := by
    rw [started.1, started.2]
    rfl
  have nothing : Server2.supply pair.right.starting pair.right.threw = 0 :=
    rfl
  rw [List.length_append] at rightLength leftLength
  rw [supply] at clientCounts
  rw [nothing] at serverCounts
  rw [held, inFlight, cutOff]
  omega

/-- If neither session is busy although bytes are left, they wait for the
accept handler. -/
private theorem Pair.waits_for_accept
    (run : ((pairSystem clientBlock serverBlock).recording Pair.observe).Run
      (Pair.connecting clientHeap serverHeap, []) labels (pair, events))
    (healthy : ∀ label ∈ labels, (Pair.action label).Healthy)
    (started : Client2.Started pair.left)
    (left : pair.held + pair.inFlight ≠ 0)
    (clientIdle : ¬pair.left.Busy pair.toLeft)
    (serverIdle : ¬pair.right.Busy pair.toRight) :
    pair.right.starting = true := by
  obtain ⟨⟨client, clientPlaces⟩, ⟨server, serverPlaces⟩, _, runs⟩ :=
    sessions_flowing run healthy
  obtain ⟨clientHeld, clientArrived⟩ := Session.counts_of_idle clientIdle
  obtain ⟨serverHeld, serverArrived⟩ := Session.counts_of_idle serverIdle
  -- All that is left is in the streams, and no session reads it.
  have noReply : pair.toLeft = [] := by
    by_contra arrives
    apply clientIdle
    exact (client.attentive started.1 started.2).busy clientPlaces arrives
  by_contra accepted
  have attentive := server.attentive (by simpa using accepted) runs
  have noPacket : pair.toRight = [] := by
    by_contra arrives
    apply serverIdle
    exact attentive.busy serverPlaces arrives
  apply left
  rw [held, inFlight, noReply, noPacket, clientHeld, clientArrived,
    serverHeld, serverArrived]
  rfl

/-- After the client's start handler, in a run without failed operations, the
bytes in writes, in flight and cut off are those of the first packet.  While
some are in writes or in flight, a read or a write can complete on one side, or
the accept handler of the server is still to run; and no failure is needed
unless the client was stopped. -/
theorem first_packet_circulates (clientPositive : 1 ≤ clientBlock)
    (serverPositive : 1 ≤ serverBlock)
    (run : ((pairSystem clientBlock serverBlock).recording Pair.observe).Run
      (Pair.connecting clientHeap serverHeap, []) labels (pair, events))
    (healthy : ∀ label ∈ labels, (Pair.action label).Healthy)
    (started : Client2.Started pair.left) :
    pair.held + pair.inFlight + Pair.cutOff events = clientBlock ∧
      (pair.held + pair.inFlight ≠ 0 →
        ∃ label next,
          (pairSystem clientBlock serverBlock).step pair label = some next ∧
          ((Pair.action label).IsCompletion ∨
            label = .right (.started true)) ∧
          (pair.left.isOpen = true → (Pair.action label).Healthy)) := by
  refine ⟨Pair.conserved run healthy started, ?_⟩
  intro left
  obtain ⟨_, _, isOpen, runs⟩ := sessions_flowing run healthy
  by_cases clientBusy : pair.left.Busy pair.toLeft
  · obtain ⟨action, next, queues, completes, fine, taken, carried⟩ :=
      clientBusy.moves clientPositive started.2
        (Client2.handlers clientBlock) pair.toRight pair.right.isOpen
    exact ⟨.left action, ⟨next, pair.right, queues.outgoing,
      queues.incoming⟩, Joined.stepLeft_eq_some_iff.mpr
        ⟨taken, carried, rfl⟩, .inl completes, fine⟩
  · by_cases serverBusy : pair.right.Busy pair.toRight
    · obtain ⟨action, next, queues, completes, fine, taken, carried⟩ :=
        serverBusy.moves serverPositive runs
          (Server2.handlers serverBlock) pair.toLeft pair.left.isOpen
      exact ⟨.right action, ⟨pair.left, next, queues.incoming,
        queues.outgoing⟩, Joined.stepRight_eq_some_iff.mpr
          ⟨taken, carried, rfl⟩, .inl completes, fun _ => fine isOpen⟩
    · have waits := Pair.waits_for_accept run healthy started left clientBusy
        serverBusy
      have accepts : Session.step (Server2.handlers serverBlock) pair.right
          (.started true) = some (Server2.start
            { pair.right with starting := false }) :=
        Session.step_eq_some_iff.mpr ⟨runs, .started waits⟩
      exact ⟨.right (.started true), ⟨pair.left, _, pair.toRight,
        pair.toLeft⟩, Joined.stepRight_eq_some_iff.mpr
          ⟨accepts, rfl, rfl⟩, .inr rfl, fun _ => rfl⟩

/-- Two sessions between which a short write has cut off one byte of two. -/
theorem first_packet_circulates_cut :
    ∃ (pair : Pair 2 1) (events : List PairEvent),
      ((pairSystem 2 1).recording Pair.observe).Run
        (Pair.connecting (fun _ => .filled 2 7) (fun _ => .filled 1 0), [])
        [.left (.started true), .right (.started true), .left (.send [7]),
          .right (.recv [7]), .right .readHandler] (pair, events) ∧
      pair.held + pair.inFlight + Pair.cutOff events = 2 ∧
      pair.held = 1 ∧
      ∃ label next, (pairSystem 2 1).step pair label = some next ∧
        ((Pair.action label).IsCompletion ∨ label = .right (.started true)) ∧
        (pair.left.isOpen = true → (Pair.action label).Healthy) := by
  obtain ⟨recorded, run, started, holds⟩ :
      ∃ recorded, ((pairSystem 2 1).recording Pair.observe).Run
        (Pair.connecting (fun _ => .filled 2 7) (fun _ => .filled 1 0), [])
        [.left (.started true), .right (.started true), .left (.send [7]),
          .right (.recv [7]), .right .readHandler] recorded ∧
        Client2.Started recorded.1.left ∧ recorded.1.held = 1 :=
    ⟨_, System.run_iff_exec.mpr rfl, ⟨rfl, rfl⟩, rfl⟩
  obtain ⟨conserved, moves⟩ := first_packet_circulates (by decide)
    (by decide) run (by decide) started
  exact ⟨recorded.1, recorded.2, run, conserved, holds, moves (by omega)⟩

/-- The first packet waits in the stream until the accept handler has run. -/
theorem first_packet_waits_for_accept :
    ∃ (labels : List (Side Action Action)) (pair : Pair 1 1)
      (events : List PairEvent),
      ((pairSystem 1 1).recording Pair.observe).Run
        (Pair.connecting (fun _ => .filled 1 7) (fun _ => .filled 1 0), [])
        labels (pair, events) ∧
      (∀ label ∈ labels, (Pair.action label).Healthy) ∧
      Client2.Started pair.left ∧ pair.inFlight = 1 ∧
      ∀ label, (Pair.action label).IsCompletion →
        (pairSystem 1 1).step pair label = none := by
  obtain ⟨recorded, run, started, waits, clientIdle, serverIdle, isOpen,
      accepting⟩ :
      ∃ recorded, ((pairSystem 1 1).recording Pair.observe).Run
        (Pair.connecting (fun _ => .filled 1 7) (fun _ => .filled 1 0), [])
        [.left (.started true), .left (.send [7]), .left .writeHandler]
        recorded ∧
        Client2.Started recorded.1.left ∧ recorded.1.inFlight = 1 ∧
        ¬recorded.1.left.Busy recorded.1.toLeft ∧
        ¬recorded.1.right.Busy recorded.1.toRight ∧
        recorded.1.left.isOpen = true ∧ recorded.1.right.isOpen = true := by
    refine ⟨_, System.run_iff_exec.mpr rfl, ⟨rfl, rfl⟩, rfl, ?_, ?_, rfl, rfl⟩
    · rintro (read | wrote | writing | ⟨_, arrives⟩)
      · exact read rfl
      · exact wrote rfl
      · exact writing rfl
      · exact arrives rfl
    · rintro (read | wrote | writing | ⟨reading, _⟩)
      · exact read rfl
      · exact wrote rfl
      · exact writing rfl
      · exact reading rfl
  refine ⟨_, recorded.1, recorded.2, run, by decide, started, waits, ?_⟩
  intro label completes
  by_contra enabled
  obtain ⟨next, taken⟩ := Option.ne_none_iff_exists'.mp enabled
  cases label with
  | left action =>
      obtain ⟨moved, carried, _⟩ := Joined.stepLeft_eq_some_iff.mp taken
      apply clientIdle
      exact (Session.step_eq_some_iff.mp moved).2.busy Nat.one_pos isOpen
        accepting carried completes
  | right action =>
      obtain ⟨moved, carried, _⟩ := Joined.stepRight_eq_some_iff.mp taken
      apply serverIdle
      exact (Session.step_eq_some_iff.mp moved).2.busy Nat.one_pos accepting
        isOpen carried completes

end Pairs

end AsioBenchmark.Pooled
