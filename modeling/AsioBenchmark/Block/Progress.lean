import AsioBenchmark.Block.Integrity

/-!
# When `client1` and `server1` make progress

The two block sizes are never negotiated.  If the server's divides the
client's, no bytes are left over in the server at the end of a round, and the
pair goes on forever; otherwise the first round never ends.
-/

namespace AsioBenchmark.Block

open AsioBenchmark.Bytes AsioBenchmark.Stream AsioBenchmark.Transition

section Healthy

variable {clientSize serverSize : Nat} {serverBuffer : Memory serverSize}
  {pair next : Pair clientSize serverSize} {label : PairLabel}
  {labels : List PairLabel} {events : List PairEvent}

/-- Both sessions have an open socket and an outstanding operation. -/
structure Healthy (pair : Pair clientSize serverSize) : Prop where
  clientOpen : pair.left.isOpen = true
  serverOpen : pair.right.isOpen = true
  clientBusy : pair.left.operation ≠ none
  serverBusy : pair.right.operation ≠ none

theorem carry_fail_open (direction : Direction) (queues : Queues) :
    (Framed.traffic (.fail direction)).carry true true queues = none := by
  cases direction with
  | establish => rfl
  | read => simp [Framed.traffic, Traffic.carry]
  | write => simp [Framed.traffic, Traffic.carry]

theorem Client1.Change.busy {session after : Client1.ClientSession clientSize}
    {label : Client1.Label} (change : Client1.Change session label after)
    (isOpen : session.isOpen = true) (undisturbed : label ≠ .stop)
    (succeeds : ∀ direction, label ≠ .io (.fail direction)) :
    after.isOpen = true ∧ after.operation ≠ none := by
  cases change with
  | stop => exact absurd rfl undisturbed
  | connect outstanding =>
      have still : (Client1.idle session).isOpen = true := isOpen
      rw [Client1.Session.connected, if_pos still]
      exact ⟨isOpen, by simp [Client1.Session.write, Connection.asyncWrite]⟩
  | send => exact ⟨isOpen, by simp⟩
  | written =>
      refine ⟨isOpen, ?_⟩
      simp [Client1.Session.written, Client1.Session.read,
        Connection.asyncRead]
  | recv => exact ⟨isOpen, by simp⟩
  | received =>
      refine ⟨isOpen, ?_⟩
      simp [Client1.Session.received, Client1.Session.write,
        Connection.asyncWrite]
  | fail => exact absurd rfl (succeeds _)

theorem Healthy.succeeds_left {label : Client1.Label} (healthy : Healthy pair)
    {queues after : Queues}
    (carried : label.traffic.carry pair.left.isOpen pair.right.isOpen queues =
      some after) (direction : Direction) :
    label ≠ .io (.fail direction) := by
  rintro rfl
  rw [healthy.clientOpen, healthy.serverOpen] at carried
  have impossible := (carry_fail_open direction queues).symm.trans carried
  cases impossible

theorem Healthy.succeeds_right {action : Action} (healthy : Healthy pair)
    {queues after : Queues}
    (carried : (Framed.traffic action).carry pair.right.isOpen
      pair.left.isOpen queues = some after) (direction : Direction) :
    action ≠ .fail direction := by
  rintro rfl
  rw [healthy.clientOpen, healthy.serverOpen] at carried
  have impossible := (carry_fail_open direction queues).symm.trans carried
  cases impossible

theorem Healthy.step_left {label : Client1.Label} (healthy : Healthy pair)
    (starts : Client1.Starts clientSize pair.left.operation)
    (undisturbed : label ≠ .stop)
    (moved : (pairSystem clientSize serverSize).step pair (.left label) =
      some next) : Healthy next := by
  obtain ⟨taken, carried, same⟩ := Joined.stepLeft_eq_some_iff.mp moved
  have change := Client1.step_cases starts taken
  obtain ⟨isOpen, busy⟩ := change.busy healthy.clientOpen undisturbed
    (healthy.succeeds_left carried)
  refine ⟨isOpen, ?_, busy, ?_⟩
  · rw [same]
    exact healthy.serverOpen
  · rw [same]
    exact healthy.serverBusy

theorem Healthy.step_right {action : Action} (healthy : Healthy pair)
    (moved : (pairSystem clientSize serverSize).step pair (.right action) =
      some next) : Healthy next := by
  obtain ⟨taken, carried, same⟩ := Joined.stepRight_eq_some_iff.mp moved
  obtain ⟨operation, outstanding⟩ :=
    Option.ne_none_iff_exists'.mp healthy.serverBusy
  have server : next.right.isOpen = true ∧ next.right.operation ≠ none := by
    have isOpen := healthy.serverOpen
    have succeeds := healthy.succeeds_right carried
    generalize next.right = server at taken
    rcases Connection.step_cases outstanding taken with
      ⟨chunk, rfl, received⟩ | ⟨chunk, rfl, sent⟩ | ⟨rfl, _, rfl⟩ |
      ⟨rfl, _, rfl⟩
    · obtain ⟨_, _, _, _, _, rfl⟩ := Connection.recv_eq_some_iff.mp received
      exact ⟨isOpen, by simp [Connection.advance]⟩
    · obtain ⟨_, _, _, _, _, _, rfl⟩ := Connection.send_eq_some_iff.mp sent
      exact ⟨isOpen, by simp [Connection.advance]⟩
    · cases operation.handler with
      | start => exact ⟨isOpen, Option.some_ne_none _⟩
      | write => exact ⟨isOpen, Option.some_ne_none _⟩
      | read => exact ⟨isOpen, Option.some_ne_none _⟩
    · exact absurd rfl (succeeds _)
  refine ⟨?_, server.1, ?_, server.2⟩
  · rw [same]
    exact healthy.clientOpen
  · rw [same]
    exact healthy.clientBusy

theorem healthy_run
    (run : (recordedPair clientSize serverSize).Run
      (Pair.starting clientSize serverBuffer, []) labels (pair, events))
    (undisturbed : .left .stop ∉ labels) : Healthy pair := by
  generalize recorded : (pair, events) = finish at run
  induction run using System.Run.recorded_induction generalizing
    pair events with
  | refl =>
      cases recorded
      exact ⟨rfl, rfl, Option.some_ne_none _, Option.some_ne_none _⟩
  | @snoc labels state next events label before moved induction =>
      cases recorded
      rw [List.mem_append, List.mem_singleton] at undisturbed
      push Not at undisturbed
      have healthy := induction undisturbed.1 rfl
      cases label with
      | left label =>
          have accounts := client_accounts (pair_left before)
          refine healthy.step_left accounts.stage.starts ?_ moved
          rintro rfl
          exact undisturbed.2 rfl
      | right action => exact healthy.step_right moved

end Healthy

/-! ## Blocks that do not fit -/

section Stuck

variable {clientSize serverSize : Nat} {serverBuffer : Memory serverSize}
  {pair next : Pair clientSize serverSize} {label : PairLabel}
  {labels : List PairLabel} {events : List PairEvent}

theorem Client1.Change.completes
    {session after : Client1.ClientSession clientSize}
    {label : Client1.Label} (change : Client1.Change session label after) :
    session.operation = some ⟨.read, 0, clientSize, clientSize, .read⟩ ∨
      blocksRead (Client1.observe session label after) = [] := by
  cases change with
  | stop => exact .inr rfl
  | connect outstanding => exact .inr (blocksRead_complete outstanding)
  | send => exact .inr rfl
  | written outstanding => exact .inr (blocksRead_complete outstanding)
  | recv => exact .inr rfl
  | received outstanding => exact .inl outstanding
  | fail => exact .inr rfl

/-- What the server returns consists of whole blocks of its own. -/
theorem returned_blocks
    (run : (recordedPair clientSize serverSize).Run
      (Pair.starting clientSize serverBuffer, []) labels (pair, events)) :
    ∃ rounds, (clientReceived (Side.lefts labels)).length ≤
        rounds * serverSize ∧
      rounds * serverSize ≤ (clientSent (Side.lefts labels)).length := by
  obtain ⟨forth, back⟩ := in_transit run
  obtain ⟨rounds, atMost, complete⟩ := (server_stage (pair_right run)).1.blocks
  refine ⟨rounds, ?_, ?_⟩
  · rw [back, List.length_append] at atMost
    omega
  · rw [forth, List.length_append]
    omega

/-- In the first round the client sends one block and no more, so whole blocks
of the server that return all of it divide that block. -/
theorem divides_of_first_read
    (run : (recordedPair clientSize serverSize).Run
      (Pair.starting clientSize serverBuffer, []) labels (pair, events))
    (first : blocksRead (Side.lefts events) = [])
    (whole : pair.left.operation =
      some ⟨.read, 0, clientSize, clientSize, .read⟩) :
    serverSize ∣ clientSize := by
  have stage := (client_accounts (pair_left run)).stage
  obtain ⟨rounds, atMost, complete⟩ := returned_blocks run
  rw [whole, first] at stage
  generalize (blocksWritten (Side.lefts events)).length = writes at stage
  generalize (clientSent (Side.lefts labels)).length = sent at stage complete
  generalize (clientReceived (Side.lefts labels)).length = received
    at stage atMost
  cases stage with
  | reading fits =>
      refine ⟨rounds, ?_⟩
      simp only [List.length_nil, Nat.zero_add, Nat.zero_mul,
        Nat.one_mul] at atMost complete
      rw [Nat.mul_comm]
      exact Nat.le_antisymm atMost complete

theorem never_reads (misfit : ¬ serverSize ∣ clientSize)
    (run : (recordedPair clientSize serverSize).Run
      (Pair.starting clientSize serverBuffer, []) labels (pair, events)) :
    blocksRead (Side.lefts events) = [] := by
  generalize recorded : (pair, events) = finish at run
  induction run using System.Run.recorded_induction generalizing
    pair events with
  | refl =>
      cases recorded
      rfl
  | @snoc labels state next events label before moved induction =>
      cases recorded
      have first := induction rfl
      cases label with
      | left label =>
          obtain ⟨taken, _, _⟩ := Joined.stepLeft_eq_some_iff.mp moved
          have accounts := client_accounts (pair_left before)
          have change := Client1.step_cases accounts.stage.starts taken
          rcases change.completes with whole | nothing
          · exact absurd (divides_of_first_read before first whole) misfit
          · rw [Side.lefts_append, blocksRead_append, first, Pair.observe,
              Joined.observe, Side.lefts_map_left, nothing]
            rfl
      | right action =>
          rw [Side.lefts_append, Pair.observe, Joined.observe,
            Side.lefts_map_right, List.append_nil]
          exact first

end Stuck

/-! ## Some step is enabled -/

section Moves

variable {clientSize serverSize : Nat} {serverBuffer : Memory serverSize}
  {pair : Pair clientSize serverSize} {labels : List PairLabel}
  {events : List PairEvent}

/-- A step of the pair other than the stop task. -/
def CanMove (pair : Pair clientSize serverSize) : Prop :=
  ∃ label next, label ≠ .left .stop ∧
    (pairSystem clientSize serverSize).step pair label = some next

theorem canMove_left {action : Action}
    {client : Client1.ClientSession clientSize} {queues : Queues}
    (taken : pair.left.step (Client1.callbacks clientSize) action =
      some client)
    (carried : (Framed.traffic action).carry pair.left.isOpen
      pair.right.isOpen ⟨pair.toLeft, pair.toRight⟩ = some queues) :
    CanMove pair := by
  refine ⟨.left (.io action),
    { pair with
      left := client
      toLeft := queues.incoming
      toRight := queues.outgoing }, by simp, ?_⟩
  exact Joined.stepLeft_eq_some_iff.mpr ⟨taken, carried, rfl⟩

theorem canMove_right {action : Action}
    {server : Server1.ServerSession serverSize} {queues : Queues}
    (taken : pair.right.step (Server1.callbacks serverSize) action =
      some server)
    (carried : (Framed.traffic action).carry pair.right.isOpen
      pair.left.isOpen ⟨pair.toRight, pair.toLeft⟩ = some queues) :
    CanMove pair := by
  refine ⟨.right action,
    { pair with
      right := server
      toRight := queues.incoming
      toLeft := queues.outgoing }, by simp, ?_⟩
  exact Joined.stepRight_eq_some_iff.mpr ⟨taken, carried, rfl⟩

theorem canMove_client_complete {operation : Operation Handler}
    (outstanding : pair.left.operation = some operation)
    (whole : operation.transferred = operation.length) : CanMove pair :=
  canMove_left (Connection.step_complete outstanding whole) rfl

theorem canMove_server_complete {operation : Operation Handler}
    (outstanding : pair.right.operation = some operation)
    (whole : operation.transferred = operation.length) : CanMove pair :=
  canMove_right (Connection.step_complete outstanding whole) rfl

theorem Healthy.canMove_client_write (healthy : Healthy pair)
    {transferred : Nat} (fits : transferred ≤ clientSize)
    (writing : pair.left.operation =
      some ⟨.write, 0, clientSize, transferred, .write⟩) : CanMove pair := by
  rcases Nat.lt_or_eq_of_le fits with short | whole
  · have inside : 0 + clientSize ≤ clientSize := Nat.le_of_eq (Nat.zero_add _)
    obtain ⟨chunk, client, sends⟩ := Connection.exists_send writing
      healthy.clientOpen short inside rfl
    exact canMove_left sends rfl
  · exact canMove_client_complete writing whole

theorem Healthy.canMove_server_write (healthy : Healthy pair)
    {transferred : Nat} (fits : transferred ≤ serverSize)
    (writing : pair.right.operation =
      some ⟨.write, 0, serverSize, transferred, .write⟩) : CanMove pair := by
  rcases Nat.lt_or_eq_of_le fits with short | whole
  · have inside : 0 + serverSize ≤ serverSize := Nat.le_of_eq (Nat.zero_add _)
    obtain ⟨chunk, server, sends⟩ := Connection.exists_send writing
      healthy.serverOpen short inside rfl
    exact canMove_right sends rfl
  · exact canMove_server_complete writing whole

/-- A read that lacks bytes waits only on an empty stream. -/
theorem Healthy.canMove_client_read (healthy : Healthy pair)
    {transferred : Nat} (fits : transferred ≤ clientSize)
    (reading : pair.left.operation =
      some ⟨.read, 0, clientSize, transferred, .read⟩) :
    CanMove pair ∨ (transferred < clientSize ∧ pair.toLeft = []) := by
  rcases Nat.lt_or_eq_of_le fits with short | whole
  · cases arriving : pair.toLeft with
    | nil => exact .inr ⟨short, rfl⟩
    | cons byte rest =>
        have inside : 0 + clientSize ≤ clientSize :=
          Nat.le_of_eq (Nat.zero_add _)
        obtain ⟨client, receives⟩ := Connection.exists_recv reading
          healthy.clientOpen short inside rfl byte
        have carried : (Framed.traffic (.recv [byte])).carry pair.left.isOpen
            pair.right.isOpen ⟨pair.toLeft, pair.toRight⟩ =
              some ⟨rest, pair.toRight⟩ :=
          Traffic.carry_recv_eq_some_iff.mpr ⟨arriving, rfl⟩
        exact .inl (canMove_left receives carried)
  · exact .inl (canMove_client_complete reading whole)

theorem Healthy.canMove_server_read (healthy : Healthy pair)
    {transferred : Nat} (fits : transferred ≤ serverSize)
    (reading : pair.right.operation =
      some ⟨.read, 0, serverSize, transferred, .read⟩) :
    CanMove pair ∨ (transferred < serverSize ∧ pair.toRight = []) := by
  rcases Nat.lt_or_eq_of_le fits with short | whole
  · cases arriving : pair.toRight with
    | nil => exact .inr ⟨short, rfl⟩
    | cons byte rest =>
        have inside : 0 + serverSize ≤ serverSize :=
          Nat.le_of_eq (Nat.zero_add _)
        obtain ⟨server, receives⟩ := Connection.exists_recv reading
          healthy.serverOpen short inside rfl byte
        have carried : (Framed.traffic (.recv [byte])).carry
            pair.right.isOpen pair.left.isOpen
              ⟨pair.toRight, pair.toLeft⟩ = some ⟨rest, pair.toLeft⟩ :=
          Traffic.carry_recv_eq_some_iff.mpr ⟨arriving, rfl⟩
        exact .inl (canMove_right receives carried)
  · exact .inl (canMove_server_complete reading whole)

/-- When both sessions wait for bytes and none is in transit, the server has
returned whole blocks only, and the client has not got its own back. -/
theorem not_both_waiting
    (run : (recordedPair clientSize serverSize).Run
      (Pair.starting clientSize serverBuffer, []) labels (pair, events))
    (divides : serverSize ∣ clientSize) {mine yours : Nat}
    (clientReads : pair.left.operation =
      some ⟨.read, 0, clientSize, mine, .read⟩)
    (serverReads : pair.right.operation =
      some ⟨.read, 0, serverSize, yours, .read⟩)
    (clientShort : mine < clientSize) (serverShort : yours < serverSize)
    (nothingLeft : pair.toLeft = []) (nothingRight : pair.toRight = []) :
    False := by
  obtain ⟨forth, back⟩ := in_transit run
  rw [nothingRight, List.append_nil] at forth
  rw [nothingLeft, List.append_nil] at back
  have clientStage := (client_accounts (pair_left run)).stage
  have serverStage := (server_stage (pair_right run)).1
  have size := pair.right.buffer.length_eq
  rw [clientReads] at clientStage
  rw [serverReads] at serverStage
  generalize (blocksWritten (Side.lefts events)).length = writes
    at clientStage
  generalize (blocksRead (Side.lefts events)).length = reads at clientStage
  generalize lengthSent : (clientSent (Side.lefts labels)).length = sent
    at clientStage
  generalize lengthReceived :
    (clientReceived (Side.lefts labels)).length = received at clientStage
  cases clientStage with
  | reading =>
      cases serverStage with
      | @reading rounds _ _ _ _ whole holds =>
          have counted := congrArg List.length holds
          rw [← forth, List.length_append, lengthSent, List.length_take,
            size, Nat.min_eq_left (Nat.le_of_lt serverShort)] at counted
          have same := congrArg List.length back
          rw [lengthReceived] at same
          -- the residue in the server divides away
          have residue : serverSize ∣ yours := by
            have total : serverSize ∣ (serverSent (Side.rights labels)).length +
                yours := by
              rw [← counted]
              exact Nat.dvd_mul_left_of_dvd divides _
            rw [whole] at total
            exact (Nat.dvd_add_right (Nat.dvd_mul_left _ rounds)).mp total
          have empty := Nat.eq_zero_of_dvd_of_lt residue serverShort
          rw [Nat.succ_mul] at counted
          omega

theorem exists_move
    (run : (recordedPair clientSize serverSize).Run
      (Pair.starting clientSize serverBuffer, []) labels (pair, events))
    (undisturbed : .left .stop ∉ labels)
    (divides : serverSize ∣ clientSize) : CanMove pair := by
  have healthy := healthy_run run undisturbed
  have clientStage := (client_accounts (pair_left run)).stage
  generalize outstanding : pair.left.operation = operation at clientStage
  generalize (blocksWritten (Side.lefts events)).length = writes
    at clientStage
  generalize (blocksRead (Side.lefts events)).length = reads at clientStage
  generalize (clientSent (Side.lefts labels)).length = sent at clientStage
  generalize (clientReceived (Side.lefts labels)).length = received
    at clientStage
  cases clientStage with
  | connecting => exact canMove_client_complete outstanding rfl
  | writing fits => exact healthy.canMove_client_write fits outstanding
  | ended => exact absurd outstanding healthy.clientBusy
  | reading fits =>
      rcases healthy.canMove_client_read fits outstanding with
        moves | ⟨clientShort, nothingLeft⟩
      · exact moves
      · have serverStage := (server_stage (pair_right run)).1
        generalize pending : pair.right.operation = other at serverStage
        generalize serverSent (Side.rights labels) = sent at serverStage
        generalize serverReceived (Side.rights labels) = received
          at serverStage
        cases serverStage with
        | accepting => exact canMove_server_complete pending rfl
        | writing fits => exact healthy.canMove_server_write fits pending
        | ended => exact absurd pending healthy.serverBusy
        | reading fits =>
            rcases healthy.canMove_server_read fits pending with
              moves | ⟨serverShort, nothingRight⟩
            · exact moves
            · exact (not_both_waiting run divides outstanding pending
                clientShort serverShort nothingLeft nothingRight).elim

end Moves

/-! ## Every step but the end of a round brings the end nearer -/

section Rank

variable {clientSize serverSize : Nat} {serverBuffer : Memory serverSize}
  {pair next : Pair clientSize serverSize} {label : PairLabel}
  {labels : List PairLabel} {events : List PairEvent}

/-- An operation that has moved all its bytes waits for its handler only. -/
def full : Option (Operation Handler) → Nat
  | some operation =>
      if operation.transferred = operation.length then 1 else 0
  | none => 0

theorem full_le (operation : Option (Operation Handler)) :
    full operation ≤ 1 := by
  cases operation with
  | none => exact Nat.zero_le 1
  | some operation =>
      by_cases whole : operation.transferred = operation.length
      · exact Nat.le_of_eq (if_pos whole)
      · rw [full, if_neg whole]
        exact Nat.zero_le 1

theorem full_begun {direction : Direction} {handler : Handler} {size : Nat}
    (positive : 0 < size) :
    full (some ⟨direction, 0, size, 0, handler⟩) = 0 :=
  if_neg (Nat.ne_of_lt positive)

theorem full_whole {operation : Operation Handler}
    (whole : operation.transferred = operation.length) :
    full (some operation) = 1 :=
  if_pos whole

/-- The bytes a step moves. -/
def moved (traffic : Traffic) : Nat :=
  (Traffic.sent [traffic]).length + (Traffic.received [traffic]).length

theorem moved_recv {chunk : List UInt8} (nonempty : chunk ≠ []) :
    1 ≤ moved (.recv chunk) := by
  have positive := List.length_pos_iff.mpr nonempty
  simp only [moved, Traffic.sent, Traffic.received, List.flatMap_cons,
    List.flatMap_nil, List.append_nil, List.length_nil]
  omega

theorem moved_send {chunk : List UInt8} (nonempty : chunk ≠ []) :
    1 ≤ moved (.send chunk) := by
  have positive := List.length_pos_iff.mpr nonempty
  simp only [moved, Traffic.sent, Traffic.received, List.flatMap_cons,
    List.flatMap_nil, List.append_nil, List.length_nil]
  omega

/-- A step moves bytes, or a handler runs and starts an operation that has
moved none. -/
def Advances (before after : Option (Operation Handler))
    (traffic : Traffic) : Prop :=
  1 ≤ moved traffic ∨
    moved traffic = 0 ∧ full before = 1 ∧ full after = 0

theorem Client1.Change.advances
    {session after : Client1.ClientSession clientSize}
    {label : Client1.Label} (change : Client1.Change session label after)
    (positive : 0 < clientSize) (undisturbed : label ≠ .stop)
    (succeeds : ∀ direction, label ≠ .io (.fail direction)) :
    Advances session.operation after.operation label.traffic := by
  cases change with
  | stop => exact absurd rfl undisturbed
  | connect outstanding =>
      right
      rw [outstanding]
      refine ⟨rfl, rfl, ?_⟩
      unfold Client1.Session.connected
      split
      · exact full_begun positive
      · rfl
  | send _ nonempty => exact .inl (moved_send nonempty)
  | written outstanding =>
      right
      rw [outstanding]
      exact ⟨rfl, full_whole rfl, full_begun positive⟩
  | recv _ nonempty => exact .inl (moved_recv nonempty)
  | received outstanding =>
      right
      rw [outstanding]
      exact ⟨rfl, full_whole rfl, full_begun positive⟩
  | fail => exact absurd rfl (succeeds _)

theorem Server1.advances {session after : Server1.ServerSession serverSize}
    {action : Action} (positive : 0 < serverSize)
    (busy : session.operation ≠ none)
    (succeeds : ∀ direction, action ≠ .fail direction)
    (taken : session.step (Server1.callbacks serverSize) action =
      some after) :
    Advances session.operation after.operation (Framed.traffic action) := by
  obtain ⟨operation, outstanding⟩ := Option.ne_none_iff_exists'.mp busy
  rcases Connection.step_cases outstanding taken with
    ⟨chunk, rfl, received⟩ | ⟨chunk, rfl, sent⟩ | ⟨rfl, whole, rfl⟩ |
    ⟨rfl, _, rfl⟩
  · obtain ⟨_, _, _, nonempty, _⟩ := Connection.recv_eq_some_iff.mp received
    exact .inl (moved_recv nonempty)
  · obtain ⟨_, _, nonempty, _⟩ := Connection.send_eq_some_iff.mp sent
    exact .inl (moved_send nonempty)
  · right
    rw [outstanding]
    refine ⟨rfl, full_whole whole, ?_⟩
    cases operation.handler with
    | start => exact full_begun positive
    | write => exact full_begun positive
    | read => exact full_begun positive
  · exact absurd rfl (succeeds _)

/-- The bytes moved so far, on both sides and in both directions. -/
def bytesMoved (labels : List PairLabel) : Nat :=
  (clientSent (Side.lefts labels)).length +
    (clientReceived (Side.lefts labels)).length +
    ((serverSent (Side.rights labels)).length +
      (serverReceived (Side.rights labels)).length)

/-- What is left of the round after `rounds` rounds: twice the bytes, each of
which is moved four times, and the handlers that are due. -/
def remaining (rounds : Nat) (pair : Pair clientSize serverSize)
    (labels : List PairLabel) : Nat :=
  2 * (4 * ((rounds + 1) * clientSize) - bytesMoved labels) +
    full pair.left.operation + full pair.right.operation

theorem bytesMoved_le
    (run : (recordedPair clientSize serverSize).Run
      (Pair.starting clientSize serverBuffer, []) labels (pair, events))
    (healthy : Healthy pair) :
    bytesMoved labels ≤
      4 * (((blocksRead (Side.lefts events)).length + 1) * clientSize) := by
  obtain ⟨forth, back⟩ := in_transit run
  have echoed := (server_stage (pair_right run)).1.echoed.length_le
  have stage := (client_accounts (pair_left run)).stage
  have sent := stage.sent_le healthy.clientBusy
  have forthLength := congrArg List.length forth
  have backLength := congrArg List.length back
  rw [List.length_append] at forthLength backLength
  unfold bytesMoved
  omega

theorem bytesMoved_snoc_left (label : Client1.Label) :
    bytesMoved (labels ++ [.left label]) =
      bytesMoved labels + moved label.traffic := by
  have lefts : Side.lefts (labels ++ [.left label]) =
      Side.lefts labels ++ [label] := Side.lefts_append _ _
  have rights : Side.rights (labels ++ [.left label]) =
      Side.rights labels := by
    rw [Side.rights_append]
    exact List.append_nil _
  rw [bytesMoved, bytesMoved, lefts, rights, clientSent_snoc,
    clientReceived_snoc, List.length_append, List.length_append, moved]
  omega

theorem bytesMoved_snoc_right (action : Action) :
    bytesMoved (labels ++ [.right action]) =
      bytesMoved labels + moved (Framed.traffic action) := by
  have rights : Side.rights (labels ++ [.right action]) =
      Side.rights labels ++ [action] := Side.rights_append _ _
  have lefts : Side.lefts (labels ++ [.right action]) =
      Side.lefts labels := by
    rw [Side.lefts_append]
    exact List.append_nil _
  rw [bytesMoved, bytesMoved, lefts, rights, serverSent_snoc,
    serverReceived_snoc, List.length_append, List.length_append, moved]
  omega

theorem remaining_lt (clientPositive : 0 < clientSize)
    (serverPositive : 0 < serverSize)
    (run : (recordedPair clientSize serverSize).Run
      (Pair.starting clientSize serverBuffer, []) labels (pair, events))
    (undisturbed : .left .stop ∉ labels) (goesOn : label ≠ .left .stop)
    (taken : (pairSystem clientSize serverSize).step pair label = some next)
    (same : (blocksRead (Side.lefts
      (events ++ Pair.observe pair label next))).length =
        (blocksRead (Side.lefts events)).length) :
    remaining (blocksRead (Side.lefts events)).length next
        (labels ++ [label]) <
      remaining (blocksRead (Side.lefts events)).length pair labels := by
  have healthy := healthy_run run undisturbed
  have after := run.snoc_recorded taken
  have still : Healthy next := by
    apply healthy_run after
    rw [List.mem_append, List.mem_singleton]
    rintro (earlier | last)
    · exact undisturbed earlier
    · exact goesOn last.symm
  have bounded := bytesMoved_le after still
  rw [same] at bounded
  unfold remaining
  cases label with
  | left label =>
      obtain ⟨moves, carried, kept⟩ := Joined.stepLeft_eq_some_iff.mp taken
      have starts := (client_accounts (pair_left run)).stage.starts
      have change := Client1.step_cases starts moves
      have goesOn : label ≠ .stop := by
        rintro rfl
        exact goesOn rfl
      have advances := change.advances clientPositive goesOn
        (healthy.succeeds_left carried)
      have own := full_le next.left.operation
      rw [bytesMoved_snoc_left] at bounded ⊢
      rw [kept]
      rcases advances with moves | ⟨none, whole, begun⟩
      · omega
      · omega
  | right action =>
      obtain ⟨moves, carried, kept⟩ := Joined.stepRight_eq_some_iff.mp taken
      have advances := Server1.advances serverPositive healthy.serverBusy
        (healthy.succeeds_right carried) moves
      have own := full_le next.right.operation
      rw [bytesMoved_snoc_right] at bounded ⊢
      rw [kept]
      rcases advances with moves | ⟨none, whole, begun⟩
      · omega
      · omega

/-- From every state of the pair some continuation ends the round. -/
theorem ends_round (clientPositive : 0 < clientSize)
    (serverPositive : 0 < serverSize) (divides : serverSize ∣ clientSize)
    (run : (recordedPair clientSize serverSize).Run
      (Pair.starting clientSize serverBuffer, []) labels (pair, events))
    (undisturbed : .left .stop ∉ labels) :
    ∃ more pair' events',
      (recordedPair clientSize serverSize).Run (pair, events) more
          (pair', events') ∧
        .left .stop ∉ more ∧
        (blocksRead (Side.lefts events)).length <
          (blocksRead (Side.lefts events')).length := by
  generalize size : remaining (blocksRead (Side.lefts events)).length pair
    labels = number
  induction number using Nat.strongRecOn generalizing pair events labels with
  | ind number induction =>
      obtain ⟨label, next, goesOn, taken⟩ :=
        exists_move run undisturbed divides
      have single := System.Run.single
        (System.recording_step_iff.mpr ⟨taken, rfl⟩ :
          (recordedPair clientSize serverSize).step (pair, events) label =
            some (next, events ++ Pair.observe pair label next))
      have quiet : .left .stop ∉ [label] := by
        rw [List.mem_singleton]
        exact goesOn.symm
      have grows : (blocksRead (Side.lefts events)).length ≤
          (blocksRead (Side.lefts
            (events ++ Pair.observe pair label next))).length := by
        rw [Side.lefts_append, blocksRead_append, List.length_append]
        exact Nat.le_add_right _ _
      rcases Nat.lt_or_eq_of_le grows with ends | same
      · exact ⟨[label], _, _, single, quiet, ends⟩
      · have less := remaining_lt clientPositive serverPositive run
          undisturbed goesOn taken same.symm
        have stillUndisturbed : .left .stop ∉ labels ++ [label] := by
          rw [List.mem_append]
          rintro (earlier | last)
          · exact undisturbed earlier
          · exact quiet last
        rw [size, same] at less
        obtain ⟨more, pair', events', onward, quietMore, ends⟩ :=
          induction _ less (run.snoc_recorded taken) stillUndisturbed rfl
        refine ⟨[label] ++ more, pair', events', single.append onward,
          ?_, ?_⟩
        · rw [List.mem_append]
          rintro (first | rest)
          · exact quiet first
          · exact quietMore rest
        · rw [same]
          exact ends

end Rank

/-! ## The condition -/

section Condition

/-- From every state that the connected pair reaches, some continuation
completes a further read of the client. -/
def AlwaysReadsOn (clientSize serverSize : Nat) : Prop :=
  ∀ (serverBuffer : Memory serverSize) (labels : List PairLabel)
    (pair : Pair clientSize serverSize) (events : List PairEvent),
    (recordedPair clientSize serverSize).Run
      (Pair.starting clientSize serverBuffer, []) labels (pair, events) →
    .left .stop ∉ labels →
      ∃ more pair' events',
        (recordedPair clientSize serverSize).Run (pair, events) more
            (pair', events') ∧
          .left .stop ∉ more ∧
          (blocksRead (Side.lefts events)).length <
            (blocksRead (Side.lefts events')).length

/-- The client completes no read in any run. -/
def NeverReads (clientSize serverSize : Nat) : Prop :=
  ∀ (serverBuffer : Memory serverSize) (labels : List PairLabel)
    (pair : Pair clientSize serverSize) (events : List PairEvent),
    (recordedPair clientSize serverSize).Run
      (Pair.starting clientSize serverBuffer, []) labels (pair, events) →
    blocksRead (Side.lefts events) = [] ∧ pair.left.data.countRead = 0

theorem progress_condition {clientSize serverSize : Nat}
    (clientPositive : 0 < clientSize) (serverPositive : 0 < serverSize) :
    (serverSize ∣ clientSize → AlwaysReadsOn clientSize serverSize) ∧
      (¬ serverSize ∣ clientSize → NeverReads clientSize serverSize) := by
  constructor
  · intro divides serverBuffer labels pair events run undisturbed
    exact ends_round clientPositive serverPositive divides run undisturbed
  · intro misfit serverBuffer labels pair events run
    have nothing := never_reads misfit run
    refine ⟨nothing, ?_⟩
    rw [(client_accounts (pair_left run)).countRead, nothing]
    rfl

/-- Blocks of 1024 bytes go round with a server of 512, not with one of
1000. -/
theorem progress_condition_1024 :
    AlwaysReadsOn 1024 512 ∧ NeverReads 1024 1000 :=
  ⟨(progress_condition (by decide) (by decide)).1 (by decide),
    (progress_condition (by decide) (by decide)).2 (by decide)⟩

end Condition

end AsioBenchmark.Block
