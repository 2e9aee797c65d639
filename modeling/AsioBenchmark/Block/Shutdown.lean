import AsioBenchmark.Block.Progress

/-!
# The end of a `client1` connection

`stop` closes the client's socket under its operation.  The operation fails, or
has moved its whole block and starts one more operation that fails.  The server
echoes what is left in the stream, sees its end and goes away.
-/

namespace AsioBenchmark.Block

open AsioBenchmark.Bytes AsioBenchmark.Stream AsioBenchmark.Transition

/-! ## The client -/

namespace Client1

variable {blockSize : Nat} {session next : ClientSession blockSize}

/-- A session whose socket has been closed by `stop`. -/
structure Ending (session : ClientSession blockSize) : Prop where
  starts : Starts blockSize session.operation
  closed : session.isOpen = false

/-- The handlers that are still to run. -/
def due (session : ClientSession blockSize) : Nat :=
  full session.operation + session.operation.toList.length

theorem due_none (idle : session.operation = none) : due session = 0 := by
  rw [due, idle]
  rfl

theorem due_begun {direction : Direction} {handler : Handler}
    (positive : 0 < blockSize)
    (begun : session.operation =
      some ⟨direction, 0, blockSize, 0, handler⟩) : due session = 1 := by
  rw [due, begun, full_begun positive]
  rfl

theorem open_failure (handler : Handler) (session : ClientSession blockSize) :
    ((callbacks blockSize).failure handler (idle session)).isOpen =
      session.isOpen := by
  have kept : (Session.failed (idle session)).isOpen = session.isOpen := by
    unfold Session.failed
    split
    · rfl
    · rfl
  cases handler with
  | start => rfl
  | write => exact kept
  | read => exact kept

/-- No bytes move any more, and a handler that runs is one less
that is due. -/
theorem Ending.step {action : Action} (ending : Ending session)
    (positive : 0 < blockSize)
    (taken : session.step (callbacks blockSize) action = some next) :
    Ending next ∧ due next < due session ∧
      Traffic.sent [Framed.traffic action] = [] := by
  obtain ⟨starts, closed⟩ := ending
  generalize pending : session.operation = outstanding at starts
  cases outstanding with
  | none =>
      rw [Connection.step_idle pending] at taken
      cases taken
  | some operation =>
      rcases Connection.step_closed_cases pending closed taken with
        ⟨rfl, whole, rfl⟩ | ⟨rfl, _, rfl⟩
      · have two : due session = 2 := by
          rw [due, pending, full_whole whole]
          rfl
        cases starts with
        | connecting =>
            have throws : Session.connected (idle session) = idle session :=
              if_neg (by simp [idle, closed])
            change Ending (Session.connected (idle session)) ∧
              due (Session.connected (idle session)) < due session ∧ _
            rw [throws, two, due_none rfl]
            exact ⟨⟨.ended, closed⟩, by omega, rfl⟩
        | writing transferred =>
            refine ⟨⟨.reading 0, closed⟩, ?_, rfl⟩
            rw [two, due_begun positive rfl]
            omega
        | reading transferred =>
            refine ⟨⟨.writing 0, closed⟩, ?_, rfl⟩
            rw [two, due_begun positive rfl]
            omega
      · have some : 0 < due session := by
          rw [due, pending]
          exact Nat.succ_pos _
        have ended := (failure_fields operation.handler session).1
        refine ⟨⟨?_, (open_failure operation.handler session).trans closed⟩,
          ?_, sent_fail _⟩
        · change Starts blockSize ((callbacks blockSize).failure
            operation.handler (idle session)).operation
          rw [ended]
          exact .ended
        · change due ((callbacks blockSize).failure operation.handler
            (idle session)) < _
          rw [due_none ended]
          exact some

end Client1

/-! ## The server -/

namespace Server1

variable {blockSize : Nat} {session next : ServerSession blockSize}

/-- A server session goes on while its socket is open. -/
inductive Serving (session : ServerSession blockSize) : Prop where
  | accepting
      (outstanding : session.operation = some ⟨.establish, 0, 0, 0, .start⟩)
      (isOpen : session.isOpen = true) : Serving session
  | reading {transferred : Nat} (fits : transferred ≤ blockSize)
      (outstanding : session.operation =
        some ⟨.read, 0, blockSize, transferred, .read⟩)
      (isOpen : session.isOpen = true) : Serving session
  | writing {transferred : Nat} (fits : transferred ≤ blockSize)
      (outstanding : session.operation =
        some ⟨.write, 0, blockSize, transferred, .write⟩)
      (isOpen : session.isOpen = true) : Serving session
  | ended (idle : session.operation = none)
      (closed : session.isOpen = false) : Serving session

/-- What a server can do without further bytes: each byte it has read is
written, and makes at most two handlers run. -/
def account (session : ServerSession blockSize) : Nat :=
  match session.operation with
  | none => 0
  | some operation =>
      match operation.direction with
      | .establish => 2
      | .read => 1 + 3 * operation.transferred
      | .write => 2 + (operation.length - operation.transferred)

theorem Serving.account_le (serving : Serving session) :
    account session ≤ 3 * blockSize + 2 := by
  cases serving with
  | accepting outstanding =>
      rw [account, outstanding]
      simp
  | reading fits outstanding =>
      rw [account, outstanding]
      simp only
      omega
  | writing fits outstanding =>
      rw [account, outstanding]
      simp only
      omega
  | ended idle =>
      rw [account, idle]
      exact Nat.zero_le _

theorem Serving.step {action : Action} (serving : Serving session)
    (positive : 0 < blockSize)
    (taken : session.step (callbacks blockSize) action = some next) :
    Serving next ∧ 1 + account next ≤ account session +
      4 * (Traffic.received [Framed.traffic action]).length := by
  cases serving with
  | accepting outstanding isOpen =>
      rcases Connection.step_establish_cases outstanding rfl taken with
        ⟨rfl, _, rfl⟩ | ⟨rfl, _, rfl⟩
      · refine ⟨.reading (Nat.zero_le _) rfl isOpen, ?_⟩
        simp [account, outstanding, callbacks, Session.start, Session.read,
          Connection.asyncRead]
      · refine ⟨.ended rfl rfl, ?_⟩
        simp only [account, outstanding, callbacks, Connection.close]
        omega
  | @reading transferred fits outstanding isOpen =>
      rcases Connection.step_read_cases outstanding rfl taken with
        ⟨chunk, inside, rfl, _, nonempty, room, rfl⟩ | ⟨rfl, whole, rfl⟩ |
        ⟨rfl, _, rfl⟩
      · refine ⟨.reading room rfl isOpen, ?_⟩
        have some := List.length_pos_iff.mpr nonempty
        rw [received_recv]
        simp only [account, outstanding, Connection.advance]
        omega
      · have full : transferred = blockSize := whole
        refine ⟨.writing (Nat.zero_le _) rfl isOpen, ?_⟩
        simp only [account, outstanding, callbacks, Session.write,
          Connection.asyncWrite]
        omega
      · refine ⟨.ended rfl rfl, ?_⟩
        simp only [account, outstanding, callbacks, Connection.close]
        omega
  | @writing transferred fits outstanding isOpen =>
      rcases Connection.step_write_cases outstanding rfl taken with
        ⟨chunk, rfl, _, nonempty, room, _, rfl⟩ | ⟨rfl, whole, rfl⟩ |
        ⟨rfl, _, rfl⟩
      · refine ⟨.writing room rfl isOpen, ?_⟩
        have some := List.length_pos_iff.mpr nonempty
        have less : transferred + chunk.length ≤ blockSize := room
        simp only [account, outstanding, Connection.advance]
        omega
      · refine ⟨.reading (Nat.zero_le _) rfl isOpen, ?_⟩
        simp only [account, outstanding, callbacks, Session.read,
          Connection.asyncRead]
        omega
      · refine ⟨.ended rfl rfl, ?_⟩
        simp only [account, outstanding, callbacks, Connection.close]
        omega
  | ended idle =>
      rw [Connection.step_idle idle] at taken
      cases taken

end Server1

/-! ## The pair after the client has closed its socket -/

section Pairs

variable {clientSize serverSize : Nat} {serverBuffer : Memory serverSize}
  {pair next finish : Pair clientSize serverSize} {label : PairLabel}
  {labels more : List PairLabel}

/-- The client has closed its socket. -/
structure Closing (pair : Pair clientSize serverSize) : Prop where
  client : Client1.Ending pair.left
  server : Server1.Serving pair.right

/-- What the pair can still do. -/
def account (pair : Pair clientSize serverSize) : Nat :=
  Client1.due pair.left + Server1.account pair.right + 4 * pair.toRight.length

theorem Closing.step (closing : Closing pair) (clientPositive : 0 < clientSize)
    (serverPositive : 0 < serverSize)
    (moved : (pairSystem clientSize serverSize).step pair label =
      some next) :
    Closing next ∧
      (if decide (label ≠ .left .stop) then 1 else 0) + account next ≤
        account pair := by
  cases label with
  | left label =>
      obtain ⟨taken, carried, same⟩ := Joined.stepLeft_eq_some_iff.mp moved
      have outgoing := (Traffic.carry_bytes carried).1
      cases label with
      | stop =>
          have stopped : next.left = Client1.Session.stop pair.left :=
            (Option.some.inj taken).symm
          have stream : next.toRight = pair.toRight :=
            outgoing.trans (List.append_nil _)
          refine ⟨⟨?_, same ▸ closing.server⟩, ?_⟩
          · rw [stopped]
            exact ⟨closing.client.starts, rfl⟩
          · rw [account, account, stopped, same, stream]
            simp [Client1.due, Client1.Session.stop, Connection.close]
      | io action =>
          obtain ⟨still, less, silent⟩ :=
            closing.client.step clientPositive taken
          have quiet : Traffic.sent [(clientEndpoint clientSize).traffic
              (.io action)] = [] := silent
          have stream : next.toRight = pair.toRight := by
            rwa [quiet, List.append_nil] at outgoing
          refine ⟨⟨still, same ▸ closing.server⟩, ?_⟩
          rw [account, account, same, stream]
          simp only [ne_eq, Side.left.injEq, reduceCtorEq,
            not_false_eq_true, decide_true, if_true]
          omega
  | right action =>
      obtain ⟨taken, carried, same⟩ := Joined.stepRight_eq_some_iff.mp moved
      obtain ⟨still, paid⟩ := closing.server.step serverPositive taken
      have incoming := congrArg List.length (Traffic.carry_bytes carried).2
      rw [List.length_append] at incoming
      have lengths : pair.toRight.length =
          (Traffic.received [Framed.traffic action]).length +
            next.toRight.length := incoming
      refine ⟨⟨same ▸ closing.client, still⟩, ?_⟩
      rw [account, account, same]
      simp only [ne_eq, reduceCtorEq, not_false_eq_true, decide_true, if_true]
      omega

/-- On a closed socket every operation can fail or be completed. -/
theorem Closing.client_rests (closing : Closing pair)
    (rests : ¬CanMove pair) : pair.left.operation = none := by
  obtain ⟨starts, closed⟩ := closing.client
  by_contra busy
  obtain ⟨operation, outstanding⟩ := Option.ne_none_iff_exists'.mp busy
  apply rests
  by_cases whole : operation.transferred = operation.length
  · exact canMove_client_complete outstanding whole
  · have fails := @Connection.step_fail _ _ _
      (Client1.callbacks clientSize) _ _ outstanding (.inl whole)
    rw [outstanding] at starts
    cases starts with
    | connecting => exact absurd rfl whole
    | writing transferred =>
        exact canMove_left fails (Traffic.carry_writeError_eq_some_iff.mpr
          ⟨.inl closed, rfl⟩)
    | reading transferred =>
        exact canMove_left fails (Traffic.carry_readError_eq_some_iff.mpr
          ⟨.inl closed, rfl⟩)

/-- The server reads what is left in the stream, and sees its end. -/
theorem Closing.server_rests (closing : Closing pair)
    (rests : ¬CanMove pair) :
    pair.right.operation = none ∧ pair.right.isOpen = false := by
  have closed := closing.client.closed
  cases closing.server with
  | accepting outstanding =>
      exact absurd (canMove_server_complete outstanding rfl) rests
  | @reading transferred fits outstanding isOpen =>
      refine absurd ?_ rests
      by_cases whole : transferred = serverSize
      · exact canMove_server_complete outstanding whole
      · cases arriving : pair.toRight with
        | nil =>
            exact canMove_right
              (Connection.step_fail outstanding (.inl whole))
              (Traffic.carry_readError_eq_some_iff.mpr
                ⟨.inr ⟨closed, arriving⟩, rfl⟩)
        | cons byte rest =>
            have inside : 0 + serverSize ≤ serverSize :=
              Nat.le_of_eq (Nat.zero_add _)
            obtain ⟨server, receives⟩ := Connection.exists_recv outstanding
              isOpen (Nat.lt_of_le_of_ne fits whole) inside rfl byte
            have carried : (Framed.traffic (.recv [byte])).carry
                pair.right.isOpen pair.left.isOpen
                ⟨pair.toRight, pair.toLeft⟩ = some ⟨rest, pair.toLeft⟩ :=
              Traffic.carry_recv_eq_some_iff.mpr ⟨arriving, rfl⟩
            exact canMove_right receives carried
  | @writing transferred fits outstanding isOpen =>
      refine absurd ?_ rests
      by_cases whole : transferred = serverSize
      · exact canMove_server_complete outstanding whole
      · exact canMove_right
          (Connection.step_fail outstanding (.inl whole))
          (Traffic.carry_writeError_eq_some_iff.mpr ⟨.inr closed, rfl⟩)
  | ended idle ended => exact ⟨idle, ended⟩

end Pairs

end AsioBenchmark.Block
