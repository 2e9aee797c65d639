import AsioBenchmark.Framed.Lockstep
import Mathlib.Algebra.Group.Nat.Even
import Mathlib.Order.Bounds.Defs

/-!
# What a session of `client3` and `server3` comes to

The pair never loses step with the rounds, and its limits decide how it ends.
-/

namespace AsioBenchmark.Framed

open AsioBenchmark.Bytes AsioBenchmark.Stream AsioBenchmark.Transition

section Runs

variable {clientCount serverCount : UInt32}
  {clientBuffer serverBuffer : Memory maxBlockSize}
  {pair : Pair} {client server : List (Event Handler)} {phase : Phase}
  {labels : List (Side Action Action)} {events : List PairEvent}

/-! ## Ranges -/

theorem Waiting.rangesInside {Data : Type} {session : Session Data}
    (waiting : Waiting session) : RangesInside session :=
  rangesInside_head 0 waiting.outstanding

theorem Sending.rangesInside {Data : Type} {session : Session Data}
    {message : Message} {After : Session Data → Prop} {sent : Nat}
    (sending : Sending session message After sent)
    (rests : After session → RangesInside session) :
    RangesInside session := by
  cases sending with
  | writing writing => exact writing.rangesInside
  | written after => exact rests after

theorem Receiving.rangesInside {Data : Type} {session : Session Data}
    {message : Message} {Before : Session Data → Prop} {Ready : Prop}
    {received heads : Nat}
    (receiving : Receiving session message Before Ready received heads)
    (waits : Before session → RangesInside session) :
    RangesInside session := by
  cases receiving with
  | before before => exact waits before
  | head _ reading => exact reading.rangesInside
  | body _ reading => exact reading.rangesInside

theorem Busy.rangesInside {region : Memory maxBlockSize} {round : Nat}
    {session : Server3.ServerSession} (busy : Busy region round session) :
    RangesInside session := by
  cases busy with
  | accepting outstanding _ => exact rangesInside_establish outstanding
  | writing writing => exact writing.rangesInside

theorem Rests.rangesInside {round : Nat} {session : Server3.ServerSession}
    (rests : Rests serverCount round session) : RangesInside session := by
  simp only [Rests] at rests
  split at rests
  · exact rests.rangesInside
  · exact rests.rangesInside

theorem Stage.rangesInside {region : Memory maxBlockSize}
    (stage : Stage clientCount serverCount region pair client server phase) :
    RangesInside pair.left ∧ RangesInside pair.right := by
  cases stage with
  | connecting clientSide _ waits =>
      constructor
      · rw [clientSide]
        exact rangesInside_establish rfl
      · rcases waits with busy | waiting
        · exact busy.rangesInside
        · exact waiting.rangesInside
  | request _ sending _ receiving =>
      exact ⟨sending.rangesInside Waiting.rangesInside,
        receiving.rangesInside Busy.rangesInside⟩
  | reply _ receiving _ sending =>
      exact ⟨receiving.rangesInside Writing.rangesInside,
        sending.rangesInside Rests.rangesInside⟩
  | refused _ left closed =>
      refine ⟨?_, closed.rangesInside⟩
      rcases left with ⟨sent, writing⟩ | waiting | idle
      · exact writing.rangesInside
      · exact waiting.rangesInside
      · exact rangesInside_idle idle
  | finished _ closed _ right =>
      refine ⟨closed.rangesInside, ?_⟩
      rcases right with writing | waiting | ended
      · exact writing.rangesInside
      · exact waiting.rangesInside
      · exact ended.rangesInside

/-! ## Runs -/

/-- A recorded state of the pair in some phase, with what is left to do. -/
def Ranked (clientCount serverCount : UInt32) (region : Memory maxBlockSize)
    (rank : Nat) (recorded : Pair × List PairEvent) : Prop :=
  ∃ phase : Phase, phase.Valid clientCount.toNat serverCount.toNat ∧
    Stage clientCount serverCount region recorded.1
      (clientEvents recorded.2) (serverEvents recorded.2) phase ∧
    rank = phase.index * 50000 +
      (effort recorded.1.left + effort recorded.1.right)

theorem Ranked.step {region : Memory maxBlockSize} {rank : Nat}
    {recorded next : Pair × List PairEvent} {label : Side Action Action}
    (ranked : Ranked clientCount serverCount region rank recorded)
    (taken : ((pairSystem clientCount serverCount).recording
      Pair.observe).step recorded label = some next) :
    ∃ smaller, smaller < rank ∧
      Ranked clientCount serverCount region smaller next := by
  obtain ⟨phase, valid, stage, rfl⟩ := ranked
  obtain ⟨moved, history⟩ := System.recording_step_iff.mp taken
  obtain ⟨newClient, newServer, observed, follows⟩ :=
    stage.follows valid moved
  have clientHistory : clientEvents next.2 =
      clientEvents recorded.2 ++ newClient := by
    simp [history, observed, Side.lefts_append]
  have serverHistory : serverEvents next.2 =
      serverEvents recorded.2 ++ newServer := by
    simp [history, observed, Side.rights_append]
  rw [← clientHistory, ← serverHistory] at follows
  rcases follows with ⟨same, decreases⟩ | ⟨later, forward, stageLater⟩
  · exact ⟨_, Nat.add_lt_add_left decreases _, phase, valid, same, rfl⟩
  · have lower := forward.index_lt valid serverCount.toNat_lt
    obtain ⟨left, right⟩ := stageLater.rangesInside
    have leftBound := effort_le left
    have rightBound := effort_le right
    refine ⟨_, ?_, later, valid.step forward, stageLater, rfl⟩
    omega

theorem Ranked.starting :
    Ranked clientCount serverCount clientBuffer
      (Phase.connecting.index * 50000 +
        (effort (Pair.starting clientCount serverCount clientBuffer
            serverBuffer).left +
          effort (Pair.starting clientCount serverCount clientBuffer
            serverBuffer).right))
      (Pair.starting clientCount serverCount clientBuffer serverBuffer,
        []) :=
  ⟨.connecting, trivial, .connecting rfl rfl (.inl (.accepting rfl rfl)) rfl
    rfl .empty .empty, rfl⟩

/-- Every state of every run belongs to a phase. -/
theorem run_stage
    (run : ((pairSystem clientCount serverCount).recording Pair.observe).Run
      (Pair.starting clientCount serverCount clientBuffer serverBuffer, [])
      labels (pair, events)) :
    ∃ phase : Phase, phase.Valid clientCount.toNat serverCount.toNat ∧
      Stage clientCount serverCount clientBuffer pair (clientEvents events)
        (serverEvents events) phase := by
  obtain ⟨_, ⟨phase, valid, stage, _⟩, _⟩ := run.length_add_rank_le
    (fun _ _ _ _ ranked taken => Ranked.step ranked taken) Ranked.starting
  exact ⟨phase, valid, stage⟩

theorem pair_terminates (clientCount serverCount : UInt32)
    (clientBuffer serverBuffer : Memory maxBlockSize) :
    (pairSystem clientCount serverCount).Terminates
      (Pair.starting clientCount serverCount clientBuffer serverBuffer) :=
  System.recording_terminates_iff.mp (System.terminates_of_rank
    (Ranked clientCount serverCount clientBuffer)
    (fun _ _ _ _ ranked taken => ranked.step taken) Ranked.starting)

/-! ## Ends -/

theorem not_halted_of_client
    (moves : CanMove Client3.callbacks pair.left pair.right.isOpen
      (clientQueues pair)) :
    ¬(pairSystem clientCount serverCount).Halted pair := by
  obtain ⟨action, next, after, moves⟩ := moves
  intro halted
  have taken : (pairSystem clientCount serverCount).step pair (.left action) =
      some (clientMoved pair next after) :=
    Joined.stepLeft_eq_some_iff.mpr ⟨moves.taken, moves.carried, rfl⟩
  rw [halted] at taken
  cases taken

theorem not_halted_of_server
    (moves : CanMove Server3.callbacks pair.right pair.left.isOpen
      (serverQueues pair)) :
    ¬(pairSystem clientCount serverCount).Halted pair := by
  obtain ⟨action, next, after, moves⟩ := moves
  intro halted
  have taken : (pairSystem clientCount serverCount).step pair
      (.right action) = some (serverMoved pair next after) :=
    Joined.stepRight_eq_some_iff.mpr ⟨moves.taken, moves.carried, rfl⟩
  rw [halted] at taken
  cases taken

theorem Stage.halted {region : Memory maxBlockSize}
    (stage : Stage clientCount serverCount region pair client server phase)
    (halted : (pairSystem clientCount serverCount).Halted pair) :
    (∃ round received, phase = .refused round received) ∨
      ∃ round, phase = .finished round := by
  cases stage with
  | connecting clientSide =>
      exfalso
      have outstanding : pair.left.operation =
          some ⟨.establish, 0, 0, 0, .start⟩ := by
        rw [clientSide]
        rfl
      exact not_halted_of_client (canMove_complete outstanding rfl) halted
  | request _ sending _ receiving window =>
      exfalso
      cases sending with
      | writing writing => exact not_halted_of_client writing.canMove halted
      | written _ =>
          refine not_halted_of_server ?_ halted
          cases receiving with
          | before busy =>
              cases busy with
              | accepting outstanding _ =>
                  exact canMove_complete outstanding rfl
              | writing writing => exact writing.canMove
          | head _ reading => exact reading.canMove window rfl
          | body _ reading => exact reading.canMove window rfl
  | reply _ receiving _ sending window =>
      exfalso
      cases sending with
      | writing writing => exact not_halted_of_server writing.canMove halted
      | written _ =>
          refine not_halted_of_client ?_ halted
          cases receiving with
          | before requesting => exact Writing.canMove requesting
          | head _ reading => exact reading.canMove window rfl
          | body _ reading => exact reading.canMove window rfl
  | refused => exact .inl ⟨_, _, rfl⟩
  | finished => exact .inr ⟨_, rfl⟩

end Runs

/-! ## Frame synchronisation -/

/-- What both sides have shown of the messages fits together.  The counts are
natural numbers, so no increment has wrapped. -/
structure InStep (client server : List (Event Handler)) : Prop where
  requestHeaders :
    headersRead server <+: (messagesWritten client).map Header.view
  replyHeaders :
    headersRead client <+: (messagesWritten server).map Header.view
  requestBodies : bodiesRead server <+:
    (messagesWritten client).map (List.drop sizeofHeader)
  replyBodies : bodiesRead client <+:
    (messagesWritten server).map (List.drop sizeofHeader)
  echoedBodies : (messagesWritten server).map (List.drop sizeofHeader) <+:
    (messagesWritten client).map (List.drop sizeofHeader)
  requestCounts : ∀ round message,
    (messagesWritten client)[round]? = some message →
      (ntohl (Header.view message).packetCount).toNat = 2 * round + 1 ∧
      (Header.view message).getBodySize.toNat = 100 + round % 9901
  replyCounts : ∀ round message,
    (messagesWritten server)[round]? = some message →
      (ntohl (Header.view message).packetCount).toNat = 2 * round + 2 ∧
      (Header.view message).getBodySize.toNat = 100 + round % 9901

theorem Message.view_bytes (message : Message) :
    Header.view message.bytes = message.header := by
  rw [Message.bytes, Header.view_bytes_append]

private theorem range_prefix {α : Type} {less more : Nat} (value : Nat → α)
    (below : less ≤ more) :
    (List.range less).map value <+: (List.range more).map value := by
  apply List.IsPrefix.map
  rw [List.prefix_iff_eq_take, List.take_range, List.length_range,
    Nat.min_eq_left below]

private theorem counts_of_written {region : Memory maxBlockSize}
    {events : List (Event Handler)} {written offset : Nat}
    (shown : messagesWritten events = (List.range written).map
      fun round => (message region round (2 * round + offset)).bytes)
    (bounded : ∀ round, round < written → 2 * round + offset < 4294967296)
    (round : Nat) (bytes : List UInt8)
    (found : (messagesWritten events)[round]? = some bytes) :
    (ntohl (Header.view bytes).packetCount).toNat = 2 * round + offset ∧
      (Header.view bytes).getBodySize.toNat = 100 + round % 9901 := by
  rw [shown, List.getElem?_map, Option.map_eq_some_iff] at found
  obtain ⟨index, at_index, rfl⟩ := found
  obtain ⟨inside, rfl⟩ := List.getElem?_eq_some_iff.mp at_index
  rw [List.length_range] at inside
  have small := bounded round inside
  rw [List.getElem_range, Message.view_bytes]
  constructor
  · simp only [message, ntohl_htonl, UInt32.toNat_ofNat',
      Nat.mod_eq_of_lt small]
  · rw [Message.announced, length_message_body, roundSize]

theorem Log.inStep {region : Memory maxBlockSize}
    {client server : List (Event Handler)}
    {asked parsedReplies readReplies answered parsed read : Nat}
    (clientLog : Log (request region) (reply region) client asked
      parsedReplies readReplies)
    (serverLog : Log (reply region) (request region) server answered parsed
      read)
    (parsedAsked : parsed ≤ asked) (readAsked : read ≤ asked)
    (parsedAnswered : parsedReplies ≤ answered)
    (readAnswered : readReplies ≤ answered)
    (answeredAsked : answered ≤ asked)
    (askedBounded : 2 * asked ≤ 4294967296)
    (answeredBounded : 2 * answered < 4294967296) :
    InStep client server := by
  have requestViews : (messagesWritten client).map Header.view =
      (List.range asked).map fun round => (request region round).header := by
    simp [clientLog.written, Message.view_bytes, Function.comp_def]
  have replyViews : (messagesWritten server).map Header.view =
      (List.range answered).map fun round => (reply region round).header := by
    simp [serverLog.written, Message.view_bytes, Function.comp_def]
  have requestBodies : (messagesWritten client).map (List.drop sizeofHeader) =
      (List.range asked).map fun round => (request region round).body := by
    simp [clientLog.written, Message.drop_header, Function.comp_def]
  have replyBodies : (messagesWritten server).map (List.drop sizeofHeader) =
      (List.range answered).map fun round => (reply region round).body := by
    simp [serverLog.written, Message.drop_header, Function.comp_def]
  constructor
  · rw [requestViews, serverLog.heads]
    exact range_prefix _ parsedAsked
  · rw [replyViews, clientLog.heads]
    exact range_prefix _ parsedAnswered
  · rw [requestBodies, serverLog.bodies]
    exact range_prefix _ readAsked
  · rw [replyBodies, clientLog.bodies]
    exact range_prefix _ readAnswered
  · rw [requestBodies, replyBodies]
    exact range_prefix (fun round => (request region round).body)
      answeredAsked
  · exact counts_of_written clientLog.written fun round inside => by omega
  · exact counts_of_written serverLog.written fun round inside => by omega

theorem Stage.inStep {clientCount serverCount : UInt32}
    {region : Memory maxBlockSize} {pair : Pair}
    {client server : List (Event Handler)} {phase : Phase}
    (valid : phase.Valid clientCount.toNat serverCount.toNat)
    (stage : Stage clientCount serverCount region pair client server phase) :
    InStep client server := by
  have clientLimit : clientCount.toNat < 4294967296 := clientCount.toNat_lt
  have serverLimit : serverCount.toNat < 4294967296 := serverCount.toNat_lt
  cases stage with
  | connecting _ _ _ _ _ clientLog serverLog =>
      apply clientLog.inStep serverLog <;> omega
  | @request _ _ _ heads _ _ _ receiving _ _ clientLog serverLog =>
      simp only [Phase.Valid] at valid
      have atMost : heads ≤ 1 := by cases receiving <;> omega
      apply clientLog.inStep serverLog <;> omega
  | @reply _ _ _ heads _ receiving _ _ _ _ clientLog serverLog =>
      simp only [Phase.Valid] at valid
      have atMost : heads ≤ 1 := by cases receiving <;> omega
      apply clientLog.inStep serverLog <;> omega
  | @refused _ received _ _ _ _ clientLog serverLog =>
      have atMost := received.toNat_le
      cases received <;> simp only [Phase.Valid] at valid <;>
        apply clientLog.inStep serverLog <;> omega
  | finished _ _ _ _ _ clientLog serverLog =>
      simp only [Phase.Valid] at valid
      apply clientLog.inStep serverLog <;> omega

/-- Whatever the limits, the chunks and the interleaving, in every state
reached both sides agree about every message shown so far and stay inside their
buffers. -/
theorem pair_in_step (clientCount serverCount : UInt32)
    (clientBuffer serverBuffer : Memory maxBlockSize)
    (labels : List (Side Action Action)) (pair : Pair)
    (events : List PairEvent)
    (run : ((pairSystem clientCount serverCount).recording Pair.observe).Run
      (Pair.starting clientCount serverCount clientBuffer serverBuffer, [])
      labels (pair, events)) :
    InStep (clientEvents events) (serverEvents events) ∧
      RangesInside pair.left ∧ RangesInside pair.right := by
  obtain ⟨phase, valid, stage⟩ := run_stage run
  exact ⟨stage.inStep valid, stage.rangesInside⟩

/-- The whole exchange of a pair that allows two messages. -/
theorem pair_in_step_two :
    ∃ labels pair events,
      ((pairSystem 2 2).recording Pair.observe).Run
        (Pair.starting 2 2 (.filled maxBlockSize 1) (.filled maxBlockSize 0),
          []) labels (pair, events) ∧
      messagesWritten (clientEvents events) =
        [[0, 0, 0, 100, 0, 0, 0, 1] ++ List.replicate 100 1] ∧
      messagesWritten (serverEvents events) =
        [[0, 0, 0, 100, 0, 0, 0, 2] ++ List.replicate 100 1] ∧
      pair.left.data.finished = true ∧
      InStep (clientEvents events) (serverEvents events) := by
  let body : List UInt8 := List.replicate 100 1
  let labels : List (Side Action Action) :=
    [.right .complete, .left .complete,
      .left (.send ([0, 0, 0, 100, 0, 0, 0, 1] ++ body)), .left .complete,
      .right (.recv [0, 0, 0, 100, 0, 0, 0, 1]), .right .complete,
      .right (.recv body), .right .complete,
      .right (.send ([0, 0, 0, 100, 0, 0, 0, 2] ++ body)), .right .complete,
      .left (.recv [0, 0, 0, 100, 0, 0, 0, 2]), .left .complete,
      .left (.recv body), .left .complete]
  have ends : (((pairSystem 2 2).recording Pair.observe).exec
      (Pair.starting 2 2 (.filled maxBlockSize 1) (.filled maxBlockSize 0),
        []) labels).map (fun recorded =>
          (messagesWritten (clientEvents recorded.2),
            messagesWritten (serverEvents recorded.2),
            recorded.1.left.data.finished)) =
        some ([[0, 0, 0, 100, 0, 0, 0, 1] ++ body],
          [[0, 0, 0, 100, 0, 0, 0, 2] ++ body], true) := by
    decide +kernel
  obtain ⟨⟨pair, events⟩, moved, shown⟩ := Option.map_eq_some_iff.mp ends
  obtain ⟨requests, rest⟩ := Prod.mk.inj shown
  obtain ⟨replies, finished⟩ := Prod.mk.inj rest
  have run := System.run_iff_exec.mpr moved
  exact ⟨labels, pair, events, run, requests, replies, finished,
    (pair_in_step 2 2 _ _ labels pair events run).1⟩

/-! ## How the exchange ends -/

section Ends

variable {clientCount serverCount : UInt32}
  {clientBuffer serverBuffer region : Memory maxBlockSize}
  {pair : Pair} {client server : List (Event Handler)} {phase : Phase}
  {labels : List (Side Action Action)} {events : List PairEvent}

theorem Log.lengths {mine theirs : Nat → Message}
    {events : List (Event Handler)} {written heads bodies : Nat}
    (log : Log mine theirs events written heads bodies) :
    (messagesWritten events).length = written ∧
      (bodiesRead events).length = bodies := by
  rw [log.written, log.bodies]
  simp

/-- A server that stops before the client can finish stops at its own limit:
after reading that message if it is a request, after sending it if it is a
reply. -/
theorem Stage.closes
    (valid : phase.Valid clientCount.toNat serverCount.toNat)
    (stage : Stage clientCount serverCount region pair client server phase)
    (short : serverCount.toNat < Phase.lastEven clientCount.toNat)
    (closed : pair.right.isOpen = false) :
    (bodiesRead server).length = (max serverCount.toNat 1 + 1) / 2 ∧
      (messagesWritten server).length = max serverCount.toNat 1 / 2 := by
  cases stage with
  | connecting _ _ waits =>
      have isOpen : pair.right.isOpen = true := by
        rcases waits with busy | waiting
        · cases busy with
          | accepting _ isOpen => exact isOpen
        · exact waiting.isOpen
      rw [isOpen] at closed
      cases closed
  | request _ _ _ receiving =>
      rw [receiving.busy_isOpen] at closed
      cases closed
  | reply _ _ _ sending _ _ _ serverLog =>
      obtain ⟨written, bodies⟩ := serverLog.lengths
      rw [written, bodies]
      simp only [Phase.Valid] at valid
      cases sending with
      | writing writing =>
          rw [writing.isOpen] at closed
          cases closed
      | written rests =>
          simp only [Rests] at rests
          split at rests
          · omega
          · rw [rests.isOpen] at closed
            cases closed
  | refused _ _ _ _ _ serverLog =>
      obtain ⟨written, bodies⟩ := serverLog.lengths
      rw [written, bodies]
      have stopped := valid.refused_lastEven.2
      split at stopped <;> simp_all <;> omega
  | finished _ _ _ _ _ _ _ =>
      have reached := valid.finished_lastEven.2
      omega

theorem Stage.ends
    (valid : phase.Valid clientCount.toNat serverCount.toNat)
    (stage : Stage clientCount serverCount region pair client server phase)
    (halted : (pairSystem clientCount serverCount).Halted pair) :
    (pair.left.data.finished = true ↔
      Phase.lastEven clientCount.toNat ≤ serverCount.toNat) ∧
    (Phase.lastEven clientCount.toNat ≤ serverCount.toNat →
      (messagesWritten client).length =
          Phase.lastEven clientCount.toNat / 2 ∧
        (bodiesRead server).length =
          Phase.lastEven clientCount.toNat / 2 ∧
        (messagesWritten server).length =
          Phase.lastEven clientCount.toNat / 2 ∧
        (bodiesRead client).length =
          Phase.lastEven clientCount.toNat / 2) ∧
    (serverCount.toNat < Phase.lastEven clientCount.toNat →
      pair.right.isOpen = false) := by
  rcases stage.halted halted with ⟨round, received, rfl⟩ | ⟨round, rfl⟩
  · cases stage with
    | refused clientSide _ closed =>
        have short := valid.refused_lastEven.1
        refine ⟨?_, by omega, fun _ => closed.isClosed⟩
        rw [clientSide.data]
        simp
        omega
  · cases stage with
    | finished clientSide _ _ _ _ clientLog serverLog =>
        obtain ⟨same, reached⟩ := valid.finished_lastEven
        obtain ⟨asked, readReplies⟩ := clientLog.lengths
        obtain ⟨answered, readRequests⟩ := serverLog.lengths
        refine ⟨?_, ?_, by omega⟩
        · rw [clientSide.data]
          simp [reached]
        · intro _
          rw [asked, readReplies, answered, readRequests, same]
          omega

end Ends

/-- The exact outcome for every pair of limits, where `last` is the least even
number that reaches both the client's limit and 2. -/
theorem pair_outcome (clientCount serverCount : UInt32)
    (clientBuffer serverBuffer : Memory maxBlockSize) (last : Nat)
    (least : IsLeast
      {number | Even number ∧ max clientCount.toNat 2 ≤ number} last) :
    (pairSystem clientCount serverCount).Terminates
      (Pair.starting clientCount serverCount clientBuffer serverBuffer) ∧
    ∀ labels pair events,
      ((pairSystem clientCount serverCount).recording Pair.observe).Run
        (Pair.starting clientCount serverCount clientBuffer serverBuffer, [])
        labels (pair, events) →
      let client := clientEvents events
      let server := serverEvents events
      ((pairSystem clientCount serverCount).Halted pair →
        (pair.left.data.finished = true ↔ last ≤ serverCount.toNat) ∧
        (last ≤ serverCount.toNat →
          (messagesWritten client).length = last / 2 ∧
          (bodiesRead server).length = last / 2 ∧
          (messagesWritten server).length = last / 2 ∧
          (bodiesRead client).length = last / 2) ∧
        (serverCount.toNat < last → pair.right.isOpen = false)) ∧
      (serverCount.toNat < last → pair.right.isOpen = false →
        (bodiesRead server).length = (max serverCount.toNat 1 + 1) / 2 ∧
        (messagesWritten server).length = max serverCount.toNat 1 / 2) := by
  have same : last = Phase.lastEven clientCount.toNat := by
    obtain ⟨even, above, smallest⟩ :=
      Phase.lastEven_isLeast clientCount.toNat
    obtain ⟨⟨lastEven, lastAbove⟩, lower⟩ := least
    apply Nat.le_antisymm
    · exact lower ⟨Nat.even_iff.mpr even, above⟩
    · exact smallest last (Nat.even_iff.mp lastEven) lastAbove
  subst same
  refine ⟨pair_terminates _ _ _ _, ?_⟩
  intro labels pair events run
  obtain ⟨phase, valid, stage⟩ := run_stage run
  exact ⟨stage.ends valid, stage.closes valid⟩

/-- A client that wants three messages from a server that allows three gets
two. -/
theorem pair_outcome_three :
    ∃ labels pair events,
      ((pairSystem 3 3).recording Pair.observe).Run
        (Pair.starting 3 3 (.filled maxBlockSize 1) (.filled maxBlockSize 0),
          []) labels (pair, events) ∧
      pair.left.data.finished = false ∧ pair.right.isOpen = false ∧
      (bodiesRead (serverEvents events)).length = 2 ∧
      (messagesWritten (serverEvents events)).length = 1 := by
  have least : IsLeast
      {number | Even number ∧ max (3 : UInt32).toNat 2 ≤ number} 4 := by
    refine ⟨⟨⟨2, rfl⟩, by decide⟩, ?_⟩
    rintro number ⟨even, above⟩
    have parity := Nat.even_iff.mp even
    change 3 ≤ number at above
    omega
  obtain ⟨terminates, outcome⟩ := pair_outcome 3 3 (.filled maxBlockSize 1)
    (.filled maxBlockSize 0) 4 least
  obtain ⟨labels, pair, run, halted⟩ := terminates.exists_halted
  obtain ⟨events, recorded⟩ := run.record Pair.observe []
  obtain ⟨ended, stopped⟩ := outcome labels pair events recorded
  obtain ⟨finished, _, closes⟩ := ended halted
  have closed := closes (by decide)
  obtain ⟨read, written⟩ := stopped (by decide) closed
  refine ⟨labels, pair, events, recorded, ?_, closed, read, written⟩
  cases value : pair.left.data.finished with
  | false => rfl
  | true => exact absurd (finished.mp value) (by decide)

/-! ## Equal limits -/

/-- Every run of the pair with one limit for both sides ends, with a client
that counts as finished. -/
def AlwaysFinishes (totalCount : UInt32) : Prop :=
  ∀ clientBuffer serverBuffer,
    (pairSystem totalCount totalCount).Terminates
      (Pair.starting totalCount totalCount clientBuffer serverBuffer) ∧
    ∀ labels pair,
      (pairSystem totalCount totalCount).Run
        (Pair.starting totalCount totalCount clientBuffer serverBuffer)
        labels pair →
      (pairSystem totalCount totalCount).Halted pair →
      pair.left.data.finished = true ∧ Client3.report [pair.left] = (0, 1)

theorem halted_finished_iff {totalCount : UInt32}
    {clientBuffer serverBuffer : Memory maxBlockSize}
    {labels : List (Side Action Action)} {pair : Pair}
    (run : (pairSystem totalCount totalCount).Run
      (Pair.starting totalCount totalCount clientBuffer serverBuffer) labels
      pair)
    (halted : (pairSystem totalCount totalCount).Halted pair) :
    pair.left.data.finished = true ↔
      Phase.lastEven totalCount.toNat ≤ totalCount.toNat := by
  obtain ⟨events, recorded⟩ := run.record Pair.observe []
  obtain ⟨phase, valid, stage⟩ := run_stage recorded
  exact (stage.ends valid halted).1

/-- With one limit for both sides, the client always finishes exactly when the
limit is even: the server refuses a request that reaches the limit. -/
theorem always_finishes_iff (totalCount : UInt32)
    (positive : 1 ≤ totalCount.toNat) :
    AlwaysFinishes totalCount ↔ Even totalCount.toNat := by
  rw [Nat.even_iff]
  constructor
  · intro always
    obtain ⟨terminates, finishes⟩ :=
      always (.filled maxBlockSize 0) (.filled maxBlockSize 0)
    obtain ⟨labels, pair, run, halted⟩ := terminates.exists_halted
    have finished := (finishes labels pair run halted).1
    have reached := (halted_finished_iff run halted).mp finished
    simp only [Phase.lastEven] at reached
    omega
  · intro even clientBuffer serverBuffer
    refine ⟨pair_terminates _ _ _ _, ?_⟩
    intro labels pair run halted
    have reached : Phase.lastEven totalCount.toNat ≤ totalCount.toNat := by
      simp only [Phase.lastEven]
      omega
    have finished := (halted_finished_iff run halted).mpr reached
    exact ⟨finished, by simp [Client3.report, finished]⟩

theorem always_finishes_two : AlwaysFinishes 2 :=
  (always_finishes_iff 2 (by decide)).mpr ⟨1, rfl⟩

/-- With the limit 1 the client sends one request, which the server refuses. -/
theorem one_not_finished :
    ¬AlwaysFinishes 1 ∧
      ∃ labels pair,
        (pairSystem 1 1).Run
          (Pair.starting 1 1 (.filled maxBlockSize 0)
            (.filled maxBlockSize 0)) labels pair ∧
        (pairSystem 1 1).Halted pair ∧
        Client3.report [pair.left] = (1, 0) := by
  obtain ⟨labels, pair, run, halted⟩ :=
    (pair_terminates 1 1 (.filled maxBlockSize 0)
      (.filled maxBlockSize 0)).exists_halted
  have notFinished : ¬pair.left.data.finished = true := by
    intro finished
    exact absurd ((halted_finished_iff run halted).mp finished) (by decide)
  constructor
  · intro always
    exact notFinished ((always _ _).2 labels pair run halted).1
  · exact ⟨labels, pair, run, halted, by simp [Client3.report, notFinished]⟩

end AsioBenchmark.Framed
