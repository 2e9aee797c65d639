import AsioBenchmark.Framed.Roles
import AsioBenchmark.Framed.Rounds

/-!
# The pair follows the rounds

Every state the pair can reach on a healthy network belongs to a phase of the
abstract exchange.  A step of either session stays in the phase and leaves it
less to do, or is a step of the exchange.
-/

namespace AsioBenchmark.Framed

open AsioBenchmark.Bytes AsioBenchmark.Stream AsioBenchmark.Transition

/-- The server before it listens in a round: not yet accepted, or with the
handler of its last reply still to run. -/
inductive Busy (region : Memory maxBlockSize) :
    Nat → Server3.ServerSession → Prop where
  | accepting {session : Server3.ServerSession}
      (outstanding : session.operation =
        some ⟨.establish, 0, 0, 0, .start⟩)
      (isOpen : session.isOpen = true) : Busy region 0 session
  | writing {round : Nat} {session : Server3.ServerSession}
      (writing : Writing session (reply region round)
        (reply region round).size) : Busy region (round + 1) session

/-- The server after the handler of a reply. -/
def Rests (serverCount : UInt32) (round : Nat)
    (session : Server3.ServerSession) : Prop :=
  if serverCount.toNat ≤ 2 * round + 2 then Closed session
  else Waiting session

/-- The client still writes its request. -/
def Requesting (region : Memory maxBlockSize) (round : Nat)
    (session : Client3.ClientSession) : Prop :=
  Writing session (request region round) (request region round).size

/-- The states of the pair in each phase of the exchange, with what both sides
have shown by then. -/
inductive Stage (clientCount serverCount : UInt32)
    (region : Memory maxBlockSize) (pair : Pair)
    (client server : List (Event Handler)) : Phase → Prop where
  | connecting
      (clientSide : pair.left = Client3.connecting clientCount region)
      (count : pair.right.data.totalCount = serverCount)
      (waits : Busy region 0 pair.right ∨ Waiting pair.right)
      (toRight : pair.toRight = [])
      (toLeft : pair.toLeft = [])
      (clientLog : Log (request region) (reply region) client 0 0 0)
      (serverLog : Log (reply region) (request region) server 0 0 0) :
      Stage clientCount serverCount region pair client server .connecting
  | request {round sent received heads : Nat}
      (clientSide : ClientSide clientCount region round false pair.left)
      (sending : Sending pair.left (request region round) Waiting sent)
      (count : pair.right.data.totalCount = serverCount)
      (receiving : Receiving pair.right (request region round)
        (Busy region round) (round = 0 ∨ 2 * round < serverCount.toNat)
        received heads)
      (window : Window (request region round).bytes received sent
        pair.toRight)
      (toLeft : pair.toLeft = [])
      (clientLog : Log (request region) (reply region) client
        (round + 1) round round)
      (serverLog : Log (reply region) (request region) server
        round (round + heads) round) :
      Stage clientCount serverCount region pair client server (.request round)
  | reply {round sent received heads : Nat}
      (clientSide : ClientSide clientCount region round false pair.left)
      (receiving : Receiving pair.left (reply region round)
        (Requesting region round) True received heads)
      (count : pair.right.data.totalCount = serverCount)
      (sending : Sending pair.right (reply region round)
        (Rests serverCount round) sent)
      (window : Window (reply region round).bytes received sent pair.toLeft)
      (toRight : pair.toRight = [])
      (clientLog : Log (request region) (reply region) client
        (round + 1) (round + heads) round)
      (serverLog : Log (reply region) (request region) server
        (round + 1) (round + 1) (round + 1)) :
      Stage clientCount serverCount region pair client server (.reply round)
  | refused {round : Nat} {received : Bool}
      (clientSide : ClientSide clientCount region round false pair.left)
      (left : (∃ sent, Writing pair.left (request region round) sent) ∨
        Waiting pair.left ∨ pair.left.operation = none)
      (closed : Closed pair.right)
      (toLeft : pair.toLeft = [])
      (clientLog : Log (request region) (reply region) client
        (round + 1) round round)
      (serverLog : Log (reply region) (request region) server
        round (round + received.toNat) (round + received.toNat)) :
      Stage clientCount serverCount region pair client server
        (.refused round received)
  | finished {round : Nat}
      (clientSide : ClientSide clientCount region round true pair.left)
      (closed : Closed pair.left)
      (count : pair.right.data.totalCount = serverCount)
      (right : Writing pair.right (reply region round)
          (reply region round).size ∨ Waiting pair.right ∨ Closed pair.right)
      (toRight : pair.toRight = [])
      (clientLog : Log (request region) (reply region) client
        (round + 1) (round + 1) (round + 1))
      (serverLog : Log (reply region) (request region) server
        (round + 1) (round + 1) (round + 1)) :
      Stage clientCount serverCount region pair client server
        (.finished round)

/-- A step of the pair stays in its phase and leaves less to do, or follows a
step of the exchange. -/
def Follows (clientCount serverCount : UInt32) (region : Memory maxBlockSize)
    (pair next : Pair) (client server : List (Event Handler))
    (phase : Phase) : Prop :=
  (Stage clientCount serverCount region next client server phase ∧
    effort next.left + effort next.right <
      effort pair.left + effort pair.right) ∨
  ∃ later, Phase.Step clientCount.toNat serverCount.toNat phase later ∧
    Stage clientCount serverCount region next client server later

section Steps

variable {clientCount serverCount : UInt32} {region : Memory maxBlockSize}
  {pair : Pair} {client server : List (Event Handler)} {phase : Phase}
  {round sent received heads : Nat} {action : Action} {after : Queues}

/-! ### Steps of the client -/

/-- The queues as the client sees them. -/
def clientQueues (pair : Pair) : Queues :=
  ⟨pair.toLeft, pair.toRight⟩

/-- The pair after a step of the client. -/
def clientMoved (pair : Pair) (next : Client3.ClientSession)
    (after : Queues) : Pair :=
  { pair with
    left := next
    toLeft := after.incoming
    toRight := after.outgoing }

/-- The queues as the server sees them. -/
def serverQueues (pair : Pair) : Queues :=
  ⟨pair.toRight, pair.toLeft⟩

/-- The pair after a step of the server. -/
def serverMoved (pair : Pair) (next : Server3.ServerSession)
    (after : Queues) : Pair :=
  { pair with
    right := next
    toRight := after.incoming
    toLeft := after.outgoing }

theorem Receiving.busy_isOpen {session : Server3.ServerSession}
    {message : Message} {Ready : Prop}
    (receiving : Receiving session message (Busy region round) Ready
      received heads) : session.isOpen = true := by
  cases receiving with
  | before busy =>
      cases busy with
      | accepting _ isOpen => exact isOpen
      | writing writing => exact writing.isOpen
  | head _ reading => exact reading.isOpen
  | body _ reading => exact reading.isOpen

theorem Receiving.requesting_isOpen {session : Client3.ClientSession}
    {message : Message} {Ready : Prop}
    (receiving : Receiving session message (Requesting region round) Ready
      received heads) : session.isOpen = true := by
  cases receiving with
  | before requesting => exact requesting.isOpen
  | head _ reading => exact reading.isOpen
  | body _ reading => exact reading.isOpen

/-- Bytes that are still to be sent are sent by an open session. -/
theorem Sending.heard {Data : Type} {session : Session Data}
    {message : Message} {After : Session Data → Prop}
    (sending : Sending session message After sent) :
    session.isOpen = true ∨ sent = message.size := by
  cases sending with
  | writing writing => exact .inl writing.isOpen
  | written _ => exact .inr rfl

theorem Window.drained {message : Message} {channel : List UInt8}
    (window : Window message.bytes message.size sent channel) :
    sent = message.size ∧ channel = [] := by
  have ordered := window.ordered
  have bounded := window.bounded
  have length := window.length_eq
  rw [Message.length_bytes] at bounded
  refine ⟨by omega, List.length_eq_zero_iff.mp (by omega)⟩

theorem Window.fresh {message : Message} {channel : List UInt8}
    (nothing : channel = []) : Window message.bytes 0 0 channel := by
  rw [nothing]
  exact .empty (Nat.zero_le _)

theorem client_rests {session : Client3.ClientSession}
    (writing : Writing session (request region round)
      (request region round).size) :
    let next := Client3.callbacks.success .write (request region round).size
      { session with operation := none }
    Waiting next ∧ effort next < effort session := by
  intro next
  have waiting : Waiting next :=
    ⟨Client3.Session.readHead_operation _, writing.isOpen⟩
  refine ⟨waiting, ?_⟩
  rw [waiting.effort, writing.effort]
  omega

theorem accepting_moves {session next : Server3.ServerSession}
    {peerOpen : Bool} {queues : Queues}
    (outstanding : session.operation = some ⟨.establish, 0, 0, 0, .start⟩)
    (isOpen : session.isOpen = true)
    (moves : Moves Server3.callbacks session action next peerOpen queues
      after) :
    action = .complete ∧ after = queues ∧ Waiting next ∧
      next.data = session.data ∧ effort next < effort session := by
  have carried := moves.carried
  rcases Connection.step_establish_cases outstanding rfl moves.taken with
    ⟨rfl, _, rfl⟩ | ⟨rfl, _, _⟩
  · simp only [traffic, Traffic.carry_quiet, Option.some.injEq] at carried
    have waiting : Waiting (Server3.callbacks.success .start 0
        { session with operation := none }) :=
      ⟨Server3.Session.readHead_operation _, isOpen⟩
    refine ⟨rfl, carried.symm, waiting, rfl, ?_⟩
    rw [effort_some outstanding]
    exact Nat.lt_of_le_of_lt (Nat.le_of_eq waiting.effort) (by decide)
  · simp [traffic] at carried

theorem client_follows_connecting {next : Client3.ClientSession}
    (stage : Stage clientCount serverCount region pair client server
      .connecting)
    (moves : Moves Client3.callbacks pair.left action next
      pair.right.isOpen (clientQueues pair) after) :
    Follows clientCount serverCount region pair (clientMoved pair next after)
      (client ++ pair.left.observe action next) server .connecting := by
  cases stage with
  | connecting clientSide count waits toRight toLeft clientLog serverLog =>
      have outstanding : pair.left.operation =
          some ⟨.establish, 0, 0, 0, .start⟩ := by
        rw [clientSide]
        rfl
      have carried := moves.carried
      rcases Connection.step_establish_cases outstanding rfl moves.taken with
        ⟨rfl, _, rfl⟩ | ⟨rfl, _, _⟩
      · obtain ⟨writing, side⟩ := Client3.connects
          { pair.left with operation := none } 0 clientCount region
          (by rw [clientSide]; rfl) (by rw [clientSide]; rfl)
          (by rw [clientSide]; rfl)
        simp only [traffic, Traffic.carry_quiet, Option.some.injEq] at carried
        subst after
        have receiving : Receiving pair.right (request region 0)
            (Busy region 0) (0 = 0 ∨ 2 * 0 < serverCount.toNat) 0 0 := by
          rcases waits with busy | waiting
          · exact .before busy
          · exact .head (.inl rfl) (waiting.reading _)
        right
        exact ⟨_, .connect, .request side (.writing writing) count receiving
          (Window.fresh toRight) toLeft
          (clientLog.opens outstanding rfl writing) serverLog⟩
      · simp [traffic] at carried

/-- The client sends its request while the server is there to hear it. -/
theorem client_follows_request {next : Client3.ClientSession}
    (stage : Stage clientCount serverCount region pair client server
      (.request round))
    (moves : Moves Client3.callbacks pair.left action next
      pair.right.isOpen (clientQueues pair) after) :
    Follows clientCount serverCount region pair (clientMoved pair next after)
      (client ++ pair.left.observe action next) server (.request round) := by
  cases stage with
  | request clientSide sending count receiving window toLeft clientLog
      serverLog =>
      have listening := receiving.busy_isOpen
      have resting : ¬Waiting pair.left := by
        intro waiting
        exact waiting.not_moves Client3.framedCallbacks (reply region round)
          listening toLeft moves
      left
      rcases sending.moves moves (.inl listening) resting with
        ⟨later, goesOn, decreases, quiet, data, buffer, incoming, extended⟩ |
          ⟨writing, rfl, rfl, rfl, same⟩
      · have body : next.buffer.bytes.drop sizeofHeader =
            pair.left.buffer.bytes.drop sizeofHeader := by
          rw [buffer]
        refine ⟨.request (clientSide.of_same data body) goesOn
          count receiving (extended _ window) (incoming.trans toLeft)
          (clientLog.quiet quiet) serverLog, ?_⟩
        exact Nat.add_lt_add_right decreases _
      · subst same
        obtain ⟨waiting, decreases⟩ := client_rests writing
        refine ⟨.request (clientSide.of_same rfl rfl) (.written waiting) count
          receiving window toLeft (clientLog.rests writing.outstanding
            (.inr rfl) (.inr waiting)) serverLog, ?_⟩
        exact Nat.add_lt_add_right decreases _

/-- The client reads the reply and finishes or sends its next request. -/
theorem client_follows_reply {next : Client3.ClientSession}
    (valid : (Phase.reply round).Valid clientCount.toNat serverCount.toNat)
    (stage : Stage clientCount serverCount region pair client server
      (.reply round))
    (moves : Moves Client3.callbacks pair.left action next
      pair.right.isOpen (clientQueues pair) after) :
    Follows clientCount serverCount region pair (clientMoved pair next after)
      (client ++ pair.left.observe action next) server (.reply round) := by
  have bounded : 2 * round + 2 < 4294967296 := by
    have limit : serverCount.toNat < 4294967296 := serverCount.toNat_lt
    simp only [Phase.Valid] at valid
    omega
  cases stage with
  | reply clientSide receiving count sending window toRight clientLog
      serverLog =>
      rcases receiving.moves Client3.framedCallbacks moves sending.heard
          window clientLog with
        ⟨later, parsed, goesOn, decreases, data, kept, outgoing, moved,
          log⟩ | ⟨requesting, rfl, rfl⟩ |
            ⟨_, reading, holds, rfl, rfl, rfl, rfl, same⟩
      · left
        have body := kept (slice_of_drop clientSide.body)
        refine ⟨.reply (clientSide.of_same data body) goesOn count sending
          moved (outgoing.trans toRight) log serverLog, ?_⟩
        exact Nat.add_lt_add_right decreases _
      · left
        have writing : Writing pair.left (request region round)
            (request region round).size := requesting
        rcases writing.moves moves with
          ⟨later, more, _, goesOn, _⟩ | ⟨rfl, _, rfl, same⟩ |
            ⟨_, _, short, _⟩
        · have room := goesOn.bounded
          omega
        · subst same
          obtain ⟨waiting, decreases⟩ := client_rests writing
          refine ⟨.reply (clientSide.of_same rfl rfl)
            (.head trivial (waiting.reading _)) count sending window toRight
            (clientLog.rests writing.outstanding (.inr rfl) (.inr waiting))
            serverLog, ?_⟩
          exact Nat.add_lt_add_right decreases _
        · omega
      · right
        subst same
        obtain ⟨rfl, drained⟩ := Window.drained window
        have idle : ClientSide clientCount region round false
            { pair.left with operation := none } :=
          clientSide.of_same rfl rfl
        by_cases reached : clientCount.toNat ≤ 2 * round + 2
        · obtain ⟨ended, closed, side⟩ := Client3.finishes
            { pair.left with operation := none }
            (reply region round).body.length idle holds bounded reached
          refine ⟨_, .finish reached, .finished side ⟨ended, closed⟩ count ?_
            toRight (clientLog.ends reading holds ended) serverLog⟩
          cases sending with
          | writing writing => exact .inl writing
          | written rests =>
              simp only [Rests] at rests
              split at rests
              · exact .inr (.inr rests)
              · exact .inr (.inl rests)
        · obtain ⟨writing, side⟩ := Client3.asks
            { pair.left with operation := none }
            (reply region round).body.length idle holds
            reading.isOpen bounded (Nat.lt_of_not_le reached)
          have log := clientLog.turns reading holds writing
          cases sending with
          | writing replying =>
              exact ⟨_, .ask (Nat.lt_of_not_le reached), .request side
                (.writing writing) count (.before (.writing replying))
                (Window.fresh toRight) drained log serverLog⟩
          | written rests =>
              simp only [Rests] at rests
              split at rests
              · rename_i closing
                exact ⟨_, .unheard (Nat.lt_of_not_le reached) closing,
                  .refused side (.inl ⟨0, writing⟩) rests drained log
                  serverLog⟩
              · rename_i goesOn
                exact ⟨_, .ask (Nat.lt_of_not_le reached), .request side
                  (.writing writing) count
                  (.head (.inr (Nat.lt_of_not_le goesOn))
                    (rests.reading _))
                  (Window.fresh toRight) drained log serverLog⟩

/-- A client whose server has stopped sends what it can, then fails. -/
theorem client_follows_refused {received : Bool}
    {next : Client3.ClientSession}
    (stage : Stage clientCount serverCount region pair client server
      (.refused round received))
    (moves : Moves Client3.callbacks pair.left action next
      pair.right.isOpen (clientQueues pair) after) :
    Follows clientCount serverCount region pair (clientMoved pair next after)
      (client ++ pair.left.observe action next) server
      (.refused round received) := by
  cases stage with
  | refused clientSide left closed toLeft clientLog serverLog =>
      apply Or.inl
      rcases left with ⟨sent, writing⟩ | waiting | idle
      · rcases writing.moves moves with
          ⟨later, more, quiet, goesOn, data, buffer, incoming, _⟩ |
            ⟨rfl, rfl, rfl, same⟩ | ⟨quiet, _, short, rfl, same⟩
        · have body : next.buffer.bytes.drop sizeofHeader =
              pair.left.buffer.bytes.drop sizeofHeader := by
            rw [buffer]
          refine ⟨.refused (clientSide.of_same data body)
            (.inl ⟨later, goesOn⟩) closed (incoming.trans toLeft)
            (clientLog.quiet quiet) serverLog, ?_⟩
          have room := goesOn.bounded
          apply Nat.add_lt_add_right
          rw [writing.effort]
          exact Nat.lt_of_le_of_lt (Nat.le_of_eq goesOn.effort) (by omega)
        · subst same
          obtain ⟨waiting, decreases⟩ := client_rests writing
          refine ⟨.refused (clientSide.of_same rfl rfl)
            (.inr (.inl waiting)) closed toLeft
            (clientLog.rests writing.outstanding (.inr rfl) (.inr waiting))
            serverLog, ?_⟩
          exact Nat.add_lt_add_right decreases _
        · subst same
          refine ⟨.refused (clientSide.of_same rfl rfl) (.inr (.inr rfl))
            closed toLeft (clientLog.quiet quiet) serverLog, ?_⟩
          apply Nat.add_lt_add_right
          rw [writing.effort]
          exact Nat.zero_lt_of_lt (Nat.lt_add_left _ (by decide : 0 < 10020))
      · have window : Window (reply region round).bytes 0 0
            (clientQueues pair).incoming := Window.fresh toLeft
        rcases (waiting.reading (reply region round)).moves
            Client3.framedCallbacks moves window with
          ⟨later, more, _, _, _, _, _, moved⟩ | ⟨_, impossible, _⟩ |
            ⟨quiet, _, _, _, rfl, same⟩
        · have ordered := moved.ordered
          omega
        · cases impossible
        · subst same
          refine ⟨.refused (clientSide.of_same rfl rfl) (.inr (.inr rfl))
            closed toLeft (clientLog.quiet quiet) serverLog, ?_⟩
          apply Nat.add_lt_add_right
          rw [waiting.effort]
          exact Nat.zero_lt_succ _
      · have taken := moves.taken
        rw [Connection.step_idle idle] at taken
        cases taken

theorem client_follows_finished {next : Client3.ClientSession}
    (stage : Stage clientCount serverCount region pair client server
      (.finished round))
    (moves : Moves Client3.callbacks pair.left action next
      pair.right.isOpen (clientQueues pair) after) : False := by
  cases stage with
  | finished _ closed => exact closed.not_moves moves

/-! ### Steps of the server -/

theorem server_follows_connecting {next : Server3.ServerSession}
    (stage : Stage clientCount serverCount region pair client server
      .connecting)
    (moves : Moves Server3.callbacks pair.right action next
      pair.left.isOpen (serverQueues pair) after) :
    Follows clientCount serverCount region pair (serverMoved pair next after)
      client (server ++ pair.right.observe action next) .connecting := by
  cases stage with
  | connecting clientSide count waits toRight toLeft clientLog serverLog =>
      rcases waits with busy | waiting
      · cases busy with
        | accepting outstanding isOpen =>
            obtain ⟨rfl, rfl, waiting, data, decreases⟩ :=
              accepting_moves outstanding isOpen moves
            left
            refine ⟨.connecting clientSide ((congrArg _ data).trans count)
              (.inr waiting) toRight toLeft clientLog
              (serverLog.rests outstanding (.inl rfl) (.inr waiting)), ?_⟩
            exact Nat.add_lt_add_left decreases _
      · have listening : pair.left.isOpen = true := by
          rw [clientSide]
          rfl
        exact absurd moves (waiting.not_moves Server3.framedCallbacks
          (request region 0) listening toRight)

theorem server_rests {session : Server3.ServerSession}
    (writing : Writing session (reply region round)
      (reply region round).size)
    (count : session.data.totalCount = serverCount)
    (bounded : 2 * round + 2 < 4294967296) :
    let next := Server3.callbacks.success .write (reply region round).size
      { session with operation := none }
    Rests serverCount round next ∧ next.data.totalCount = serverCount ∧
      effort next < effort session ∧
      (next.operation = none ∨ Waiting next) := by
  intro next
  have weight := writing.effort
  by_cases reached : serverCount.toNat ≤ 2 * round + 2
  · have closes : next = Connection.close
        { session with operation := none } :=
      Server3.stops { session with operation := none } _ writing.content
        bounded (by rw [count]; exact reached)
    have closed : Closed next := by
      rw [closes]
      exact ⟨rfl, rfl⟩
    refine ⟨?_, ?_, ?_, .inl closed.idle⟩
    · rw [Rests, if_pos reached]
      exact closed
    · rw [closes]
      exact count
    · rw [closed.effort, weight]
      omega
  · obtain ⟨waiting, data⟩ := Server3.listens
      { session with operation := none } (reply region round).size
      writing.content writing.isOpen
      bounded (by rw [count]; exact Nat.lt_of_not_le reached)
    refine ⟨?_, (congrArg _ data).trans count, ?_, .inr waiting⟩
    · rw [Rests, if_neg reached]
      exact waiting
    · rw [waiting.effort, weight]
      omega

/-- The server becomes ready for the request, or closes with the handler of
its last reply. -/
theorem server_follows_busy {next : Server3.ServerSession}
    (clientSide : ClientSide clientCount region round false pair.left)
    (sending : Sending pair.left (request region round) Waiting sent)
    (count : pair.right.data.totalCount = serverCount)
    (busy : Busy region round pair.right)
    (window : Window (request region round).bytes 0 sent pair.toRight)
    (toLeft : pair.toLeft = [])
    (clientLog : Log (request region) (reply region) client
      (round + 1) round round)
    (serverLog : Log (reply region) (request region) server
      round round round)
    (bounded : 2 * round < 4294967296)
    (moves : Moves Server3.callbacks pair.right action next
      pair.left.isOpen (serverQueues pair) after) :
    Follows clientCount serverCount region pair (serverMoved pair next after)
      client (server ++ pair.right.observe action next) (.request round) := by
  cases busy with
  | accepting outstanding isOpen =>
      obtain ⟨rfl, rfl, waiting, data, decreases⟩ :=
        accepting_moves outstanding isOpen moves
      left
      refine ⟨.request clientSide sending ((congrArg _ data).trans count)
        (.head (.inl rfl) (waiting.reading _)) window toLeft clientLog
        (serverLog.rests outstanding (.inl rfl) (.inr waiting)), ?_⟩
      exact Nat.add_lt_add_left decreases _
  | @writing round _ writing =>
      rcases writing.moves moves with
        ⟨later, more, _, goesOn, _⟩ | ⟨rfl, _, rfl, same⟩ |
          ⟨_, _, short, _⟩
      · have room := goesOn.bounded
        omega
      · subst same
        obtain ⟨rests, data, decreases, idle⟩ :=
          server_rests writing count bounded
        have log := serverLog.rests writing.outstanding (.inr rfl) idle
        simp only [Rests] at rests
        split at rests
        · rename_i reached
          right
          refine ⟨_, .stopped (Nat.succ_pos _) reached, .refused
            clientSide ?_ rests toLeft clientLog log⟩
          cases sending with
          | writing writing => exact .inl ⟨_, writing⟩
          | written waiting => exact .inr (.inl waiting)
        · rename_i goesOn
          left
          refine ⟨.request clientSide sending data
            (.head (.inr (Nat.lt_of_not_le goesOn)) (rests.reading _))
            window toLeft clientLog log, ?_⟩
          exact Nat.add_lt_add_left decreases _
      · omega

/-- The server becomes ready for the request, reads it, and refuses or answers
it. -/
theorem server_follows_request {next : Server3.ServerSession}
    (valid : (Phase.request round).Valid clientCount.toNat serverCount.toNat)
    (stage : Stage clientCount serverCount region pair client server
      (.request round))
    (moves : Moves Server3.callbacks pair.right action next
      pair.left.isOpen (serverQueues pair) after) :
    Follows clientCount serverCount region pair (serverMoved pair next after)
      client (server ++ pair.right.observe action next) (.request round) := by
  have bounded : 2 * round + 1 < 4294967296 := by
    have limit : clientCount.toNat < 4294967296 := clientCount.toNat_lt
    simp only [Phase.Valid] at valid
    omega
  cases stage with
  | request clientSide sending count receiving window toLeft clientLog
      serverLog =>
      rcases receiving.moves Server3.framedCallbacks moves sending.heard
          window serverLog with
        ⟨later, parsed, goesOn, decreases, data, _, outgoing, moved, log⟩ |
          ⟨busy, rfl, rfl⟩ |
            ⟨ready, reading, holds, rfl, rfl, rfl, rfl, same⟩
      · left
        have sameCount : next.data.totalCount = serverCount := by
          rw [data, count]
        refine ⟨.request clientSide sending sameCount goesOn moved
          (outgoing.trans toLeft) clientLog log, ?_⟩
        exact Nat.add_lt_add_left decreases _
      · exact server_follows_busy clientSide sending count busy window toLeft
          clientLog serverLog (by omega) moves
      · right
        subst same
        obtain ⟨rfl, drained⟩ := Window.drained window
        by_cases reached : serverCount.toNat ≤ 2 * round + 1
        · have closes := Server3.refuses
            { pair.right with operation := none }
            (request region round).body.length holds bounded
            (by rw [count]; exact reached)
          rw [closes]
          exact ⟨_, .refuse reached ready, .refused
            clientSide (by
              cases sending with
              | writing writing => exact .inl ⟨_, writing⟩
              | written waiting => exact .inr (.inl waiting))
            ⟨rfl, rfl⟩ toLeft clientLog
            (serverLog.ends reading holds rfl)⟩
        · obtain ⟨writing, data⟩ := Server3.answers
            { pair.right with operation := none }
            (request region round).body.length holds
            reading.isOpen bounded
            (by rw [count]; exact Nat.lt_of_not_le reached)
          have receiving : Receiving pair.left (reply region round)
              (Requesting region round) True 0 0 := by
            cases sending with
            | writing writing => exact .before writing
            | written waiting => exact .head trivial (waiting.reading _)
          exact ⟨_, .answer (Nat.lt_of_not_le reached), .reply clientSide
            receiving ((congrArg _ data).trans count) (.writing writing)
            (Window.fresh toLeft) drained clientLog
            (serverLog.turns reading holds writing)⟩

/-- The server sends its reply, then closes or waits for the next request. -/
theorem server_follows_reply {next : Server3.ServerSession}
    (valid : (Phase.reply round).Valid clientCount.toNat serverCount.toNat)
    (stage : Stage clientCount serverCount region pair client server
      (.reply round))
    (moves : Moves Server3.callbacks pair.right action next
      pair.left.isOpen (serverQueues pair) after) :
    Follows clientCount serverCount region pair (serverMoved pair next after)
      client (server ++ pair.right.observe action next) (.reply round) := by
  have bounded : 2 * round + 2 < 4294967296 := by
    have limit : serverCount.toNat < 4294967296 := serverCount.toNat_lt
    simp only [Phase.Valid] at valid
    omega
  cases stage with
  | reply clientSide receiving count sending window toRight clientLog
      serverLog =>
      have listening := receiving.requesting_isOpen
      have resting : ¬Rests serverCount round pair.right := by
        intro rests
        simp only [Rests] at rests
        split at rests
        · exact rests.not_moves moves
        · exact rests.not_moves Server3.framedCallbacks
            (request region round) listening toRight moves
      left
      rcases sending.moves moves (.inl listening) resting with
        ⟨later, goesOn, decreases, quiet, data, _, incoming, extended⟩ |
          ⟨writing, rfl, rfl, rfl, same⟩
      · have sameCount : next.data.totalCount = serverCount := by
          rw [data, count]
        refine ⟨.reply clientSide receiving sameCount goesOn
          (extended _ window) (incoming.trans toRight) clientLog
          (serverLog.quiet quiet), ?_⟩
        exact Nat.add_lt_add_left decreases _
      · subst same
        obtain ⟨rests, data, decreases, idle⟩ := server_rests writing count
          bounded
        refine ⟨.reply clientSide receiving data (.written rests) window
          toRight clientLog
          (serverLog.rests writing.outstanding (.inr rfl) idle), ?_⟩
        exact Nat.add_lt_add_left decreases _

theorem server_follows_refused {received : Bool}
    {next : Server3.ServerSession}
    (stage : Stage clientCount serverCount region pair client server
      (.refused round received))
    (moves : Moves Server3.callbacks pair.right action next
      pair.left.isOpen (serverQueues pair) after) : False := by
  cases stage with
  | refused _ _ closed => exact closed.not_moves moves

/-- A server whose client has finished ends with its last reply or with the
end of the stream. -/
theorem server_follows_finished {next : Server3.ServerSession}
    (valid : (Phase.finished round).Valid clientCount.toNat
      serverCount.toNat)
    (stage : Stage clientCount serverCount region pair client server
      (.finished round))
    (moves : Moves Server3.callbacks pair.right action next
      pair.left.isOpen (serverQueues pair) after) :
    Follows clientCount serverCount region pair (serverMoved pair next after)
      client (server ++ pair.right.observe action next) (.finished round) := by
  have bounded : 2 * round + 2 < 4294967296 := by
    have limit : serverCount.toNat < 4294967296 := serverCount.toNat_lt
    simp only [Phase.Valid] at valid
    omega
  cases stage with
  | finished clientSide closed count right toRight clientLog serverLog =>
      left
      rcases right with writing | waiting | ended
      · rcases writing.moves moves with
          ⟨later, more, _, goesOn, _⟩ | ⟨rfl, _, rfl, same⟩ |
            ⟨_, _, short, _⟩
        · have room := goesOn.bounded
          omega
        · subst same
          obtain ⟨rests, data, decreases, idle⟩ := server_rests writing count
            bounded
          refine ⟨.finished clientSide closed data ?_ toRight clientLog
            (serverLog.rests writing.outstanding (.inr rfl) idle), ?_⟩
          · simp only [Rests] at rests
            split at rests
            · exact .inr (.inr rests)
            · exact .inr (.inl rests)
          · exact Nat.add_lt_add_left decreases _
        · omega
      · have window : Window (request region round).bytes 0 0
            (serverQueues pair).incoming := Window.fresh toRight
        rcases (waiting.reading (request region round)).moves
            Server3.framedCallbacks moves window with
          ⟨later, more, _, _, _, _, _, moved⟩ | ⟨_, impossible, _⟩ |
            ⟨quiet, _, _, _, rfl, same⟩
        · have ordered := moved.ordered
          omega
        · cases impossible
        · subst same
          refine ⟨.finished clientSide closed count (.inr (.inr ⟨rfl, rfl⟩))
            toRight clientLog (serverLog.quiet quiet), ?_⟩
          apply Nat.add_lt_add_left
          rw [waiting.effort]
          exact Nat.zero_lt_succ _
      · exact absurd moves ended.not_moves

/-! ### Steps of the pair -/

/-- Whatever step the pair takes, the exchange follows it. -/
theorem Stage.follows {next : Pair} {label : Side Action Action}
    (valid : phase.Valid clientCount.toNat serverCount.toNat)
    (stage : Stage clientCount serverCount region pair client server phase)
    (taken : (pairSystem clientCount serverCount).step pair label =
      some next) :
    ∃ newClient newServer,
      pair.observe label next =
        newClient.map .left ++ newServer.map .right ∧
      Follows clientCount serverCount region pair next
        (client ++ newClient) (server ++ newServer) phase := by
  cases label with
  | left action =>
      obtain ⟨moved, carried, right⟩ :=
        Joined.stepLeft_eq_some_iff.mp taken
      have moves : Moves Client3.callbacks pair.left action next.left
          pair.right.isOpen (clientQueues pair)
          ⟨next.toLeft, next.toRight⟩ := ⟨moved, carried⟩
      have same : next = clientMoved pair next.left
          ⟨next.toLeft, next.toRight⟩ := by
        cases next
        cases right
        rfl
      refine ⟨pair.left.observe action next.left, [],
        by simp [Pair.observe, Joined.observe], ?_⟩
      rw [List.append_nil, same]
      cases phase with
      | connecting => exact client_follows_connecting stage moves
      | request round => exact client_follows_request stage moves
      | reply round => exact client_follows_reply valid stage moves
      | refused round received => exact client_follows_refused stage moves
      | finished round => exact (client_follows_finished stage moves).elim
  | right action =>
      obtain ⟨moved, carried, left⟩ :=
        Joined.stepRight_eq_some_iff.mp taken
      have moves : Moves Server3.callbacks pair.right action next.right
          pair.left.isOpen (serverQueues pair)
          ⟨next.toRight, next.toLeft⟩ := ⟨moved, carried⟩
      have same : next = serverMoved pair next.right
          ⟨next.toRight, next.toLeft⟩ := by
        cases next
        cases left
        rfl
      refine ⟨[], pair.right.observe action next.right,
        by simp [Pair.observe, Joined.observe], ?_⟩
      rw [List.append_nil, same]
      cases phase with
      | connecting => exact server_follows_connecting stage moves
      | request round => exact server_follows_request valid stage moves
      | reply round => exact server_follows_reply valid stage moves
      | refused round received =>
          exact (server_follows_refused stage moves).elim
      | finished round => exact server_follows_finished valid stage moves

end Steps

end AsioBenchmark.Framed
