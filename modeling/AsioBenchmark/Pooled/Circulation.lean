import AsioBenchmark.Pooled.Echo
import Mathlib.Algebra.GroupWithZero.Nat

/-!
# The bytes that circulate

Between a `client2` session and its `server2` session circulate as many bytes
as the client puts in when it starts.  A session counts what it holds; a run of
the pair adds the counts of both sides and the two streams.
-/

namespace AsioBenchmark.Pooled

open AsioBenchmark.Bytes AsioBenchmark.Stream AsioBenchmark.Transition

variable {blockSize : Nat} {Data : Type}

/-! ## The counts of one session -/

/-- The bytes of the writes that were not performed. -/
def Session.held (session : Session blockSize Data) : Nat :=
  (session.writeQueue.map WriteRequest.length).sum

/-- The bytes of the reads whose completion has not been handled. -/
def Session.arrived (session : Session blockSize Data) : Nat :=
  (session.readDone.map fun completion => completion.result.getD 0).sum

/-- The bytes that writes were given and did not transmit. -/
def cutOff (events : List Event) : Nat :=
  ((transmissions events).map fun transmission =>
    transmission.1 - transmission.2.length).sum

/-- No failed operation. -/
def Action.Healthy : Action → Prop
  | .readError => False
  | .writeError => False
  | .started succeeded => succeeded = true
  | _ => True

instance (action : Action) : Decidable action.Healthy := by
  cases action <;> simp only [Action.Healthy] <;> infer_instance

/-- A session that listens, or whose buffers are all in use. -/
def Session.Attentive (session : Session blockSize Data) : Prop :=
  session.reads ≠ [] ∨ session.buffers = []

/-- A session whose accept or connect handler has not run. -/
structure Session.Fresh (session : Session blockSize Data) : Prop where
  buffers : session.buffers = (List.finRange kMaxStackSize).reverse
  readQueue : session.readQueue = []
  readDone : session.readDone = []
  writeQueue : session.writeQueue = []
  writeDone : session.writeDone = []

/-- The invariant of a session without failed operations.  `supply` is what the
session has put into the stream of its own accord; it depends on whether the
start handler is still to run and whether it threw. -/
structure Flowing (supply : Bool → Bool → Nat)
    (session : Session blockSize Data) (events : List Event) : Prop where
  fresh : session.starting = true → session.Fresh
  balanced : session.held + session.arrived + (bytesSent events).length +
    cutOff events = (bytesReceived events).length +
      supply session.starting session.threw
  attentive : session.starting = false → session.threw = false →
    session.Attentive
  readsSucceeded : ∀ completion ∈ session.readDone,
    completion.result.isSome = true
  writesSucceeded : ∀ completion ∈ session.writeDone,
    completion.result.isSome = true

/-- What a handler leaves alone, and how many more bytes it makes the session
hold. -/
structure Effect (before after : Session blockSize Data) (more : Nat) :
    Prop where
  held : after.held = before.held + more
  readDone : after.readDone = before.readDone
  writeDone : after.writeDone = before.writeDone
  starting : after.starting = before.starting
  threw : after.threw = before.threw

/-- What the circulation needs to know about the handlers. -/
structure Circulating (handlers : Handlers blockSize Data)
    (supply : Bool → Bool → Nat) : Prop where
  supply_starting : ∀ threw, supply true threw = 0
  started : ∀ session, session.Fresh → session.starting = false →
    session.threw = false →
    let next := handlers.started session
    next.held = supply false next.threw ∧ next.readDone = [] ∧
      next.writeDone = [] ∧ next.starting = false ∧
      (next.threw = false → next.Attentive)
  readDone : ∀ buffer count session,
    let next := handlers.readHandler buffer (some count) session
    Effect session next count ∧ next.Attentive
  written : ∀ buffer count session,
    let next := handlers.writeHandler buffer (some count) session
    Effect session next 0 ∧ (session.Attentive → next.Attentive)
  stopped : ∀ session next, handlers.stop session = some next →
    ∃ isOpen data, next = { session with isOpen := isOpen, data := data }

theorem cutOff_append (events new : List Event) :
    cutOff (events ++ new) = cutOff events + cutOff new := by
  rw [cutOff, transmissions_append, List.map_append, List.sum_append]
  rfl

theorem bytesSent_append (events new : List Event) :
    bytesSent (events ++ new) = bytesSent events ++ bytesSent new := by
  rw [bytesSent, transmissions_append, List.map_append, List.flatten_append]
  rfl

theorem bytesReceived_append (events new : List Event) :
    bytesReceived (events ++ new) =
      bytesReceived events ++ bytesReceived new := by
  rw [bytesReceived, receivedChunks_append, List.map_append,
    List.flatten_append]
  rfl

section Steps

variable {handlers : Handlers blockSize Data}
  {supply : Bool → Bool → Nat}
  {session next : Session blockSize Data} {events : List Event}
  {action : Action}

theorem Attentive.of_listening {completion : Completion}
    (listed : completion ∈ session.readDone) : session.Attentive := by
  left
  intro none
  have member : completion.buffer ∈ session.reads :=
    List.mem_append_left _ (List.mem_map_of_mem listed)
  rw [none] at member
  cases member

private theorem quiet_counts (session next : Session blockSize Data) :
    bytesSent (session.writesAdded next) = [] ∧
      bytesReceived (session.writesAdded next) = [] ∧
      cutOff (session.writesAdded next) = 0 := by
  have noTransmission : transmissions (session.writesAdded next) = [] := by
    rw [transmissions, Session.writesAdded, List.filterMap_map]
    exact List.filterMap_eq_nil_iff.mpr fun _ _ => rfl
  have noChunk : receivedChunks (session.writesAdded next) = [] := by
    rw [receivedChunks, Session.writesAdded, List.filterMap_map]
    exact List.filterMap_eq_nil_iff.mpr fun _ _ => rfl
  simp [bytesSent, bytesReceived, cutOff, noTransmission, noChunk]

/-- The start handler puts the supply into the write queue. -/
theorem Flowing.opens (circulating : Circulating handlers supply)
    (flowing : Flowing supply session events) (runs : session.threw = false)
    (starting : session.starting = true) :
    let next := handlers.started { session with starting := false }
    Flowing supply next (events ++ session.writesAdded next) := by
  intro next
  have balanced := flowing.balanced
  have fresh := flowing.fresh starting
  have before := circulating.supply_starting session.threw
  have outcome :
      next.held = supply false next.threw ∧ next.readDone = [] ∧
        next.writeDone = [] ∧ next.starting = false ∧
        (next.threw = false → next.Attentive) :=
    circulating.started { session with starting := false }
      ⟨fresh.buffers, fresh.readQueue, fresh.readDone, fresh.writeQueue,
        fresh.writeDone⟩ rfl runs
  obtain ⟨held, readDone, writeDone, started, attentive⟩ := outcome
  obtain ⟨sent, received, cut⟩ := quiet_counts session next
  constructor
  · intro impossible
    rw [started] at impossible
    cases impossible
  · rw [bytesSent_append, bytesReceived_append, cutOff_append,
      List.length_append, List.length_append, sent, received, cut, held,
      Session.arrived, readDone, started]
    rw [starting, before] at balanced
    simp only [Session.held, Session.arrived, fresh.writeQueue,
      fresh.readDone, List.map_nil, List.sum_nil,
      List.length_nil] at balanced ⊢
    omega
  · exact fun _ => attentive
  · intro completion member
    rw [readDone] at member
    cases member
  · intro completion member
    rw [writeDone] at member
    cases member

theorem Flowing.recv
    (flowing : Flowing supply session events) {buffer : BufferId}
    {rest : List BufferId} {chunk : List UInt8}
    (queue : session.readQueue = buffer :: rest)
    (fits : 0 + chunk.length ≤ blockSize) :
    Flowing supply
      { session with
        heap := Function.update session.heap buffer
          ((session.heap buffer).store 0 chunk fits)
        readQueue := rest
        readDone := session.readDone ++ [⟨buffer, some chunk.length⟩] }
      (events ++ [.received ⟨buffer, chunk⟩]) := by
  have balanced := flowing.balanced
  have sent : bytesSent [.received ⟨buffer, chunk⟩] = [] := rfl
  have received : bytesReceived [.received ⟨buffer, chunk⟩] = chunk := by
    simp [bytesReceived, receivedChunks]
  have cut : cutOff [.received ⟨buffer, chunk⟩] = 0 := rfl
  constructor
  · intro starting
    have none := (flowing.fresh starting).readQueue
    rw [queue] at none
    cases none
  · rw [bytesSent_append, bytesReceived_append, cutOff_append,
      List.length_append, List.length_append, sent, received, cut]
    simp only [Session.held, Session.arrived, List.map_append,
      List.map_cons, List.map_nil, List.sum_append, List.sum_cons,
      List.sum_nil, Option.getD_some, List.length_nil] at balanced ⊢
    omega
  · intro _ _
    exact Attentive.of_listening (List.mem_append_right _
      (List.mem_singleton.mpr rfl))
  · intro completion member
    rcases List.mem_append.mp member with earlier | last
    · exact flowing.readsSucceeded completion earlier
    · rw [List.mem_singleton.mp last]
      rfl
  · exact flowing.writesSucceeded

/-- What a write transmits leaves the session, the rest is cut off. -/
theorem Flowing.send
    (flowing : Flowing supply session events) {request : WriteRequest}
    {rest : List WriteRequest} {chunk : List UInt8}
    (queue : session.writeQueue = request :: rest)
    (room : chunk.length ≤ request.length) :
    Flowing supply
      { session with
        writeQueue := rest
        writeDone := session.writeDone ++
          [⟨request.buffer, some chunk.length⟩] }
      (events ++ [.transmitted request.length chunk]) := by
  have balanced := flowing.balanced
  have sent : bytesSent [.transmitted request.length chunk] = chunk := by
    simp [bytesSent, transmissions]
  have received : bytesReceived [.transmitted request.length chunk] = [] := rfl
  have cut : cutOff [.transmitted request.length chunk] =
      request.length - chunk.length := by
    simp [cutOff, transmissions]
  constructor
  · intro starting
    have none := (flowing.fresh starting).writeQueue
    rw [queue] at none
    cases none
  · rw [bytesSent_append, bytesReceived_append, cutOff_append,
      List.length_append, List.length_append, sent, received, cut]
    simp only [Session.held, Session.arrived, queue, List.map_cons,
      List.sum_cons, List.length_nil] at balanced ⊢
    omega
  · exact flowing.attentive
  · exact flowing.readsSucceeded
  · intro completion member
    rcases List.mem_append.mp member with earlier | last
    · exact flowing.writesSucceeded completion earlier
    · rw [List.mem_singleton.mp last]
      rfl

/-- The handler of a read passes its bytes on to a write. -/
theorem Flowing.handRead (circulating : Circulating handlers supply)
    (flowing : Flowing supply session events) {buffer : BufferId}
    {count : Nat} {rest : List Completion}
    (done : session.readDone = ⟨buffer, some count⟩ :: rest) :
    let next := handlers.readHandler buffer (some count)
      { session with readDone := rest }
    Flowing supply next (events ++ session.writesAdded next) := by
  intro next
  have balanced := flowing.balanced
  obtain ⟨effect, attentive⟩ := circulating.readDone buffer count
    { session with readDone := rest }
  obtain ⟨sent, received, cut⟩ := quiet_counts session next
  constructor
  · intro starting
    rw [effect.starting] at starting
    have none := (flowing.fresh starting).readDone
    rw [done] at none
    cases none
  · rw [effect.starting, effect.threw, bytesSent_append,
      bytesReceived_append, cutOff_append, List.length_append,
      List.length_append, sent, received, cut,
      effect.held, Session.arrived, effect.readDone]
    simp only [Session.held, Session.arrived, done, List.map_cons,
      List.sum_cons, Option.getD_some, List.length_nil] at balanced ⊢
    omega
  · exact fun _ _ => attentive
  · intro other member
    rw [effect.readDone] at member
    apply flowing.readsSucceeded other
    rw [done]
    exact List.mem_cons_of_mem _ member
  · intro other member
    rw [effect.writeDone] at member
    exact flowing.writesSucceeded other member

/-- The handler of a write moves no bytes; it resumes the reads if they
paused. -/
theorem Flowing.handWrite (circulating : Circulating handlers supply)
    (flowing : Flowing supply session events) {buffer : BufferId}
    {count : Nat} {rest : List Completion}
    (done : session.writeDone = ⟨buffer, some count⟩ :: rest) :
    Flowing supply
      (handlers.writeHandler buffer (some count)
        { session with writeDone := rest })
      (events ++ [.wrote]) := by
  have balanced := flowing.balanced
  obtain ⟨effect, attentive⟩ := circulating.written buffer count
    { session with writeDone := rest }
  have sent : bytesSent [.wrote] = [] := rfl
  have received : bytesReceived [.wrote] = [] := rfl
  have cut : cutOff [.wrote] = 0 := rfl
  constructor
  · intro starting
    rw [effect.starting] at starting
    have none := (flowing.fresh starting).writeDone
    rw [done] at none
    cases none
  · rw [effect.starting, effect.threw, bytesSent_append,
      bytesReceived_append, cutOff_append, List.length_append,
      List.length_append, sent, received, cut,
      effect.held, Session.arrived, effect.readDone]
    exact balanced
  · intro started runs
    rw [effect.starting] at started
    rw [effect.threw] at runs
    exact attentive (flowing.attentive started runs)
  · intro other member
    rw [effect.readDone] at member
    exact flowing.readsSucceeded other member
  · intro other member
    rw [effect.writeDone] at member
    apply flowing.writesSucceeded other
    rw [done]
    exact List.mem_cons_of_mem _ member

theorem Flowing.step (circulating : Circulating handlers supply)
    (flowing : Flowing supply session events) (runs : session.threw = false)
    (taken : Session.Step handlers session action next)
    (healthy : action.Healthy) :
    Flowing supply next (events ++ session.observe action next) := by
  cases taken with
  | notStarted starting => cases healthy
  | readError queue => cases healthy
  | writeError queue => cases healthy
  | started starting => exact flowing.opens circulating runs starting
  | recv queue fits isOpen arrives =>
      simp only [Session.observe, queue, List.take_succ_cons, List.take_zero,
        List.map_cons, List.map_nil]
      exact flowing.recv queue fits
  | @readHandler completion rest done =>
      obtain ⟨buffer, result⟩ := completion
      have succeeded := flowing.readsSucceeded ⟨buffer, result⟩
        (by rw [done]; exact List.mem_cons_self)
      cases result with
      | none => cases succeeded
      | some count =>
          simp only [Session.observe, done]
          exact flowing.handRead circulating done
  | send queue isOpen moves room content =>
      simp only [Session.observe, queue, List.take_succ_cons, List.take_zero,
        List.map_cons, List.map_nil]
      exact flowing.send queue room
  | @writeHandler completion rest done =>
      obtain ⟨buffer, result⟩ := completion
      have succeeded := flowing.writesSucceeded ⟨buffer, result⟩
        (by rw [done]; exact List.mem_cons_self)
      cases result with
      | none => cases succeeded
      | some count => exact flowing.handWrite circulating done
  | stop stopped =>
      obtain ⟨isOpen, data, rfl⟩ := circulating.stopped session _ stopped
      rw [Session.observe, List.append_nil]
      refine ⟨?_, ?_, flowing.attentive, flowing.readsSucceeded,
        flowing.writesSucceeded⟩
      · intro starting
        have fresh := flowing.fresh starting
        exact ⟨fresh.buffers, fresh.readQueue, fresh.readDone,
          fresh.writeQueue, fresh.writeDone⟩
      · exact flowing.balanced

theorem Session.Step.bytes_eq
    (taken : Session.Step handlers session action next) :
    bytesSent (session.observe action next) = Traffic.sent [traffic action] ∧
      bytesReceived (session.observe action next) =
        Traffic.received [traffic action] := by
  cases taken with
  | started starting =>
      obtain ⟨sent, received, _⟩ := quiet_counts session
        (handlers.started { session with starting := false })
      exact ⟨sent, received⟩
  | notStarted starting =>
      obtain ⟨sent, received, _⟩ := quiet_counts session
        { session with starting := false }
      exact ⟨sent, received⟩
  | recv queue fits isOpen arrives =>
      simp [Session.observe, queue, bytesSent, bytesReceived, transmissions,
        receivedChunks, traffic, Traffic.sent, Traffic.received]
  | readError queue => exact ⟨rfl, rfl⟩
  | @readHandler completion rest done =>
      obtain ⟨sent, received, _⟩ := quiet_counts session
        (handlers.readHandler completion.buffer completion.result
          { session with readDone := rest })
      rw [Session.observe, done]
      obtain ⟨buffer, result⟩ := completion
      cases result <;> exact ⟨sent, received⟩
  | send queue isOpen moves room content =>
      simp [Session.observe, queue, bytesSent, bytesReceived, transmissions,
        receivedChunks, traffic, Traffic.sent, Traffic.received]
  | writeError queue =>
      simp [Session.observe, queue, bytesSent, bytesReceived, transmissions,
        receivedChunks, traffic, Traffic.sent, Traffic.received]
  | writeHandler done => exact ⟨rfl, rfl⟩
  | stop stopped => exact ⟨rfl, rfl⟩

end Steps

section Runs

variable {handlers : Handlers blockSize Data}
  {supply : Bool → Bool → Nat}
  {system : System (Session blockSize Data) Action}
  {start : Session blockSize Data} {actions : List Action}
  {recorded : Session blockSize Data × List Event}

theorem Session.flowing_constructed (circulating : Circulating handlers supply)
    (heap : BufferId → Memory blockSize) (data : Data) :
    Flowing supply (Session.constructed heap data) [] where
  fresh _ := ⟨rfl, rfl, rfl, rfl, rfl⟩
  balanced := by
    change 0 = 0 + supply true false
    rw [circulating.supply_starting]
  attentive impossible := by cases impossible
  readsSucceeded _ impossible := by cases impossible
  writesSucceeded _ impossible := by cases impossible

private theorem Flowing.nothing_lost {session next : Session blockSize Data}
    {events : List Event} {action : Action}
    (flowing : Flowing supply session events)
    (taken : Session.Step handlers session action next) :
    lostBuffers (session.observe action next) = [] := by
  cases taken with
  | started starting => exact lostBuffers_writesAdded _ _
  | notStarted starting => exact lostBuffers_writesAdded _ _
  | recv queue fits isOpen arrives =>
      simp [Session.observe, queue, lostBuffers]
  | readError queue => rfl
  | @readHandler completion rest done =>
      have succeeded := flowing.readsSucceeded completion
        (by rw [done]; exact List.mem_cons_self)
      obtain ⟨buffer, result⟩ := completion
      rw [Session.observe, done]
      cases result with
      | none => cases succeeded
      | some count => exact lostBuffers_writesAdded _ _
  | send queue isOpen moves room content =>
      simp [Session.observe, queue, lostBuffers]
  | writeError queue => simp [Session.observe, queue, lostBuffers]
  | writeHandler done => rfl
  | stop stopped => rfl

/-- Bytes are conserved, and every buffer keeps its place. -/
theorem run_flowing (keeps : KeepsBuffers handlers)
    (circulating : Circulating handlers supply)
    (steps : system.step = Session.step handlers)
    (initial : Flowing supply start [])
    (full : start.places.Perm (List.finRange kMaxStackSize))
    (run : (system.recording Session.observe).Run (start, []) actions
      recorded)
    (healthy : ∀ action ∈ actions, action.Healthy) :
    Flowing supply recorded.1 recorded.2 ∧
      recorded.1.places.Perm (List.finRange kMaxStackSize) := by
  induction run using System.Run.recorded_induction with
  | refl => exact ⟨initial, full⟩
  | @snoc actions session next events action _ moved induction =>
      obtain ⟨flowing, places⟩ := induction fun earlier member =>
        healthy earlier (List.mem_append_left _ member)
      have last := healthy action
        (List.mem_append_right _ (List.mem_singleton.mpr rfl))
      rw [steps] at moved
      obtain ⟨runs, step⟩ := Session.step_eq_some_iff.mp moved
      refine ⟨?_, ?_⟩
      · exact flowing.step circulating runs step last
      · have kept := step.places_perm keeps
        rw [flowing.nothing_lost step, List.append_nil] at kept
        exact kept.trans places

theorem run_bytes_eq (steps : system.step = Session.step handlers)
    (run : (system.recording Session.observe).Run (start, []) actions
      recorded) :
    bytesSent recorded.2 = Traffic.sent (actions.map traffic) ∧
      bytesReceived recorded.2 =
        Traffic.received (actions.map traffic) := by
  induction run using System.Run.recorded_induction with
  | refl => exact ⟨rfl, rfl⟩
  | snoc _ moved induction =>
      obtain ⟨sent, received⟩ := induction
      rw [steps] at moved
      obtain ⟨lastSent, lastReceived⟩ :=
        (Session.step_eq_some_iff.mp moved).2.bytes_eq
      rw [List.map_append, bytesSent_append, bytesReceived_append, sent,
        received, lastSent, lastReceived]
      simp only [Traffic.sent, Traffic.received, List.flatMap_append,
        List.map_cons, List.map_nil]
      exact ⟨trivial, trivial⟩

end Runs

/-! ## The two programs -/

theorem Session.attentive_read (session : Session blockSize Data) :
    session.read.Attentive := by
  unfold read
  split
  · rename_i empty
    exact .inr empty
  · left
    simp [reads, asyncReadSome]

theorem Session.effect_read (session : Session blockSize Data) :
    Effect session session.read 0 := by
  obtain ⟨_, readDone, writeQueue, writeDone, starting, _, threw, _⟩ :=
    session.read_frame
  refine ⟨?_, readDone, writeDone, starting, threw⟩
  rw [held, writeQueue]
  rfl

theorem Session.held_write (session : Session blockSize Data)
    (buffer : BufferId) (length : Nat) :
    (session.write buffer length).held = session.held + length := by
  simp [held, write, asyncWriteSome]

/-- A session that pauses has an empty stack; a session that does not keeps
its read. -/
theorem Session.Attentive.push {session : Session blockSize Data}
    (attentive : session.Attentive) (stacked : session.buffers ≠ [])
    (buffer : BufferId) : (session.push buffer).Attentive := by
  rcases attentive with listening | paused
  · exact .inl listening
  · exact absurd paused stacked

/-- A server session puts nothing into the stream of its own accord. -/
def Server2.supply (_starting _threw : Bool) : Nat := 0

/-- The first packet of a client session, once the start handler has
returned. -/
def Client2.supply (blockSize : Nat) (starting threw : Bool) : Nat :=
  if starting = true ∨ threw = true then 0 else blockSize

/-- A session that paused reads again after a write. -/
theorem Server2.writeHandler_some (buffer : BufferId) (count : Nat)
    (session : ServerSession blockSize) :
    writeHandler buffer (some count) session =
      if session.buffers = [] then (session.push buffer).read
      else session.push buffer := by
  simp [writeHandler, read]

theorem Server2.circulating (blockSize : Nat) :
    Circulating (handlers blockSize) supply where
  supply_starting _ := rfl
  started session fresh started runs := by
    intro next
    have effect : Effect session next 0 := session.effect_read
    have none : session.held = 0 := by
      rw [Session.held, fresh.writeQueue]
      rfl
    refine ⟨?_, ?_, ?_, ?_, fun _ => session.attentive_read⟩
    · rw [effect.held, none]
      rfl
    · rw [effect.readDone, fresh.readDone]
    · rw [effect.writeDone, fresh.writeDone]
    · rw [effect.starting, started]
  readDone buffer count session := by
    intro next
    have effect : Effect (session.write buffer count) next 0 :=
      Session.effect_read _
    refine ⟨?_, Session.attentive_read _⟩
    refine ⟨?_, effect.readDone, effect.writeDone, effect.starting,
      effect.threw⟩
    rw [effect.held, Session.held_write, Nat.add_zero]
  written buffer count session := by
    intro next
    by_cases paused : session.buffers = []
    · have resumed : next = (session.push buffer).read :=
        (writeHandler_some buffer count session).trans (if_pos paused)
      rw [resumed]
      have effect := (session.push buffer).effect_read
      exact ⟨⟨effect.held, effect.readDone, effect.writeDone,
        effect.starting, effect.threw⟩, fun _ => Session.attentive_read _⟩
    · have pushed : next = session.push buffer :=
        (writeHandler_some buffer count session).trans (if_neg paused)
      rw [pushed]
      exact ⟨⟨rfl, rfl, rfl, rfl, rfl⟩,
        fun attentive => attentive.push paused buffer⟩
  stopped _ _ impossible := by cases impossible

/-- `start` takes two of the ten buffers. -/
theorem Client2.start_fresh {session : ClientSession blockSize}
    (fresh : session.Fresh) (isOpen : session.isOpen = true) :
    ∃ buffer rest, start session =
      ({ session.read with buffers := rest }.write buffer blockSize) := by
  have stack : session.read.buffers =
      ((List.finRange kMaxStackSize).reverse).tail := by
    rw [Session.read, fresh.buffers]
    rfl
  obtain ⟨buffer, rest, remaining⟩ : ∃ buffer rest,
      session.read.buffers = buffer :: rest := by
    rw [stack]
    exact ⟨_, _, rfl⟩
  refine ⟨buffer, rest, ?_⟩
  rw [start, if_pos isOpen]
  simp only [read, remaining, write]

theorem Client2.circulating (blockSize : Nat) :
    Circulating (handlers blockSize) (supply blockSize) where
  supply_starting _ := rfl
  started session fresh started runs := by
    intro next
    by_cases isOpen : session.isOpen = true
    · obtain ⟨buffer, rest, starts⟩ := start_fresh fresh isOpen
      have effect := session.effect_read
      have begins : next =
          { session.read with buffers := rest }.write buffer blockSize := starts
      have none : session.held = 0 := by
        rw [Session.held, fresh.writeQueue]
        rfl
      have listening : session.read.reads ≠ [] := by
        rcases session.attentive_read with listening | paused
        · exact listening
        · rw [Session.read, fresh.buffers] at paused
          cases paused
      have nextRuns : next.threw = false := by
        rw [begins]
        exact effect.threw.trans runs
      rw [nextRuns, begins]
      refine ⟨?_, ?_, ?_, ?_, fun _ => .inl listening⟩
      · rw [Session.held_write]
        change session.read.held + blockSize = blockSize
        rw [effect.held, none]
        omega
      · exact effect.readDone.trans fresh.readDone
      · exact effect.writeDone.trans fresh.writeDone
      · exact effect.starting.trans started
    · have throws : next = { session with threw := true } := if_neg isOpen
      rw [throws]
      refine ⟨?_, fresh.readDone, fresh.writeDone, started, ?_⟩
      · rw [Session.held]
        change (session.writeQueue.map WriteRequest.length).sum = 0
        rw [fresh.writeQueue]
        rfl
      · intro impossible
        cases impossible
  readDone buffer count session := by
    intro next
    have effect := Session.effect_read (Session.write
      { session with
        data := { session.data with
          bytesRead := session.data.bytesRead + UInt64.ofNat count
          countRead := session.data.countRead + 1 } } buffer count)
    refine ⟨?_, Session.attentive_read _⟩
    refine ⟨?_, effect.readDone, effect.writeDone, effect.starting,
      effect.threw⟩
    exact effect.held.trans (Session.held_write _ buffer count)
  written buffer count session := by
    intro next
    let counted := { session.push buffer with
      data := { session.data with
        bytesWritten := session.data.bytesWritten + UInt64.ofNat count
        countWritten := session.data.countWritten + 1 } }
    by_cases paused : session.buffers = []
    · have resumed : next = counted.read := by
        simp [next, handlers, writeHandler, read, paused, counted,
          Session.push]
      rw [resumed]
      have effect := counted.effect_read
      exact ⟨⟨effect.held, effect.readDone, effect.writeDone,
        effect.starting, effect.threw⟩, fun _ => Session.attentive_read _⟩
    · have pushed : next = counted := by
        simp [next, handlers, writeHandler, paused, counted, Session.push]
      rw [pushed]
      exact ⟨⟨rfl, rfl, rfl, rfl, rfl⟩,
        fun attentive => attentive.push paused buffer⟩
  stopped session next stopped := by
    cases stopped
    exact ⟨_, _, rfl⟩

end AsioBenchmark.Pooled
