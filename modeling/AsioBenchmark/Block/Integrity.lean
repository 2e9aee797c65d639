import AsioBenchmark.Block.Echo

/-!
# The echo of `client1` and `server1`

The pair joined by two byte streams: the server returns what it has received,
in order, so the client reads its own pattern again, and the counters of the
client say how often.
-/

namespace AsioBenchmark.Block

open AsioBenchmark.Bytes AsioBenchmark.Stream AsioBenchmark.Transition

/-! ## Runs of one session -/

section Histories

variable (labels : List Client1.Label) (actions : List Action)

/-- The bytes a client has sent and received. -/
def clientSent : List UInt8 :=
  Traffic.sent (labels.map Client1.Label.traffic)

def clientReceived : List UInt8 :=
  Traffic.received (labels.map Client1.Label.traffic)

/-- The bytes a server has sent and received. -/
def serverSent : List UInt8 :=
  Traffic.sent (actions.map Framed.traffic)

def serverReceived : List UInt8 :=
  Traffic.received (actions.map Framed.traffic)

variable (label : Client1.Label) (action : Action)

theorem clientSent_snoc : clientSent (labels ++ [label]) =
    clientSent labels ++ Traffic.sent [label.traffic] := by
  rw [clientSent, List.map_append, Traffic.sent_append]
  rfl

theorem clientReceived_snoc : clientReceived (labels ++ [label]) =
    clientReceived labels ++ Traffic.received [label.traffic] := by
  rw [clientReceived, List.map_append, Traffic.received_append]
  rfl

theorem serverSent_snoc : serverSent (actions ++ [action]) =
    serverSent actions ++ Traffic.sent [Framed.traffic action] := by
  rw [serverSent, List.map_append, Traffic.sent_append]
  rfl

theorem serverReceived_snoc : serverReceived (actions ++ [action]) =
    serverReceived actions ++ Traffic.received [Framed.traffic action] := by
  rw [serverReceived, List.map_append, Traffic.received_append]
  rfl

theorem handlersRun_clientActions_snoc :
    handlersRun (clientActions (labels ++ [label])) =
      handlersRun (clientActions labels) +
        handlersRun (clientActions [label]) := by
  have split : clientActions (labels ++ [label]) =
      clientActions labels ++ clientActions [label] :=
    List.filterMap_append
  rw [split]
  exact List.countP_append

end Histories

section Client

variable {blockSize : Nat} {session : Client1.ClientSession blockSize}
  {labels : List Client1.Label} {events : List (Event Handler)}

theorem connecting_accounts :
    Client1.Accounts (Client1.connecting blockSize) 0 0 0 0 0 where
  stage := .connecting
  countWritten := rfl
  bytesWritten := by
    rw [Nat.zero_mul]
    rfl
  countRead := rfl
  bytesRead := by
    rw [Nat.zero_mul]
    rfl
  started := rfl

theorem client_accounts
    (run : ((clientSystem blockSize).recording Client1.observe).Run
      (Client1.connecting blockSize, []) labels (session, events)) :
    Client1.Accounts session (blocksWritten events).length
      (blocksRead events).length (clientSent labels).length
      (clientReceived labels).length (handlersRun (clientActions labels)) := by
  generalize recorded : (session, events) = finish at run
  induction run using System.Run.recorded_induction generalizing
    session events with
  | refl =>
      cases recorded
      exact connecting_accounts
  | snoc _ moved induction =>
      cases recorded
      have before := induction rfl
      have change := Client1.step_cases before.stage.starts moved
      have after := before.step change
      rw [blocksWritten_append, blocksRead_append, clientSent_snoc,
        clientReceived_snoc, handlersRun_clientActions_snoc,
        List.length_append, List.length_append, List.length_append,
        List.length_append]
      exact after

/-- A client that has received only what it has sent still holds its
pattern. -/
theorem client_content
    (run : ((clientSystem blockSize).recording Client1.observe).Run
      (Client1.connecting blockSize, []) labels (session, events))
    (echoed : clientReceived labels <+: clientSent labels) :
    Client1.Content session (clientSent labels) (blocksRead events) := by
  generalize recorded : (session, events) = finish at run
  induction run using System.Run.recorded_induction generalizing
    session events with
  | refl =>
      cases recorded
      exact ⟨rfl, rfl, by simp [blocksRead]⟩
  | snoc before moved induction =>
      cases recorded
      have accounts := client_accounts before
      have change := Client1.step_cases accounts.stage.starts moved
      rw [clientReceived_snoc, clientSent_snoc] at echoed
      have earlier : clientReceived _ <+: clientSent _ :=
        List.prefix_of_prefix_length_le
          ((List.prefix_append _ _).trans echoed) (List.prefix_append _ _)
          accounts.stage.bounds.2.2
      rw [clientSent_snoc, blocksRead_append]
      exact (induction earlier rfl).step accounts change echoed

end Client

section Server

variable {blockSize handled : Nat}
  {session next : Server1.ServerSession blockSize} {action : Action}
  {buffer : Memory blockSize} {actions : List Action}
  {events : List (Event Handler)}

theorem Server1.started_step
    (started : session.data.started =
      handled + session.operation.toList.length)
    (taken : session.step (Server1.callbacks blockSize) action = some next) :
    next.data.started =
      handled + handlersRun [action] + next.operation.toList.length := by
  cases outstanding : session.operation with
  | none =>
      rw [Connection.step_idle outstanding] at taken
      cases taken
  | some operation =>
      rw [outstanding] at started
      rcases Connection.step_cases outstanding taken with
        ⟨chunk, rfl, moved⟩ | ⟨chunk, rfl, moved⟩ | ⟨rfl, _, rfl⟩ |
        ⟨rfl, _, rfl⟩
      · obtain ⟨_, _, _, _, _, rfl⟩ := Connection.recv_eq_some_iff.mp moved
        exact started
      · obtain ⟨_, _, _, _, _, _, rfl⟩ :=
          Connection.send_eq_some_iff.mp moved
        exact started
      · cases operation.handler with
        | start => exact congrArg (· + 1) started
        | write => exact congrArg (· + 1) started
        | read => exact congrArg (· + 1) started
      · exact started

theorem server_stage
    (run : ((serverSystem blockSize).recording Connection.observe).Run
      (Server1.accepting buffer, []) actions (session, events)) :
    Server1.Stage blockSize session.buffer session.operation
        (serverSent actions) (serverReceived actions) ∧
      session.data.started =
        handlersRun actions + session.operation.toList.length := by
  generalize recorded : (session, events) = finish at run
  induction run using System.Run.recorded_induction generalizing
    session events with
  | refl =>
      cases recorded
      exact ⟨.accepting, rfl⟩
  | snoc before moved induction =>
      cases recorded
      obtain ⟨stage, started⟩ := induction rfl
      rw [serverSent_snoc, serverReceived_snoc]
      refine ⟨stage.step moved, ?_⟩
      have counted := Server1.started_step started moved
      rw [handlersRun, List.countP_append]
      exact counted

end Server

/-! ## Runs of the pair -/

section Pair

variable {clientSize serverSize : Nat} {serverBuffer : Memory serverSize}
  {pair : Pair clientSize serverSize} {labels : List PairLabel}
  {events : List PairEvent}

/-- What holds in every state of the pair.  The counters are those of the
client, the numbers of blocks are those of the events. -/
structure EchoIntegrity (pair : Pair clientSize serverSize)
    (labels : List PairLabel) (events : List PairEvent) : Prop where
  echoed : serverSent (Side.rights labels) <+:
    serverReceived (Side.rights labels)
  intact : pair.left.buffer = Client1.pattern clientSize
  blocks : ∀ block ∈ blocksRead (Side.lefts events),
    block = (Client1.pattern clientSize).bytes
  clientOne : pair.left.data.started ≤
    handlersRun (clientActions (Side.lefts labels)) + 1
  serverOne : pair.right.data.started ≤ handlersRun (Side.rights labels) + 1
  countWritten : pair.left.data.countWritten =
    UInt64.ofNat (blocksWritten (Side.lefts events)).length
  bytesWritten : pair.left.data.bytesWritten =
    UInt64.ofNat ((blocksWritten (Side.lefts events)).length * clientSize)
  countRead : pair.left.data.countRead =
    UInt64.ofNat (blocksRead (Side.lefts events)).length
  bytesRead : pair.left.data.bytesRead =
    UInt64.ofNat ((blocksRead (Side.lefts events)).length * clientSize)
  behind : (blocksRead (Side.lefts events)).length ≤
    (blocksWritten (Side.lefts events)).length
  close : (blocksWritten (Side.lefts events)).length ≤
    (blocksRead (Side.lefts events)).length + 1
  asNumbers :
    (blocksWritten (Side.lefts events)).length * clientSize <
        18446744073709551616 →
      pair.left.data.bytesWritten.toNat =
          pair.left.data.countWritten.toNat * clientSize ∧
        pair.left.data.bytesRead.toNat =
          pair.left.data.countRead.toNat * clientSize ∧
        pair.left.data.countRead.toNat ≤
          pair.left.data.countWritten.toNat ∧
        pair.left.data.countWritten.toNat ≤
          pair.left.data.countRead.toNat + 1

theorem pair_left
    (run : (recordedPair clientSize serverSize).Run
      (Pair.starting clientSize serverBuffer, []) labels (pair, events)) :
    ((clientSystem clientSize).recording Client1.observe).Run
      (Client1.connecting clientSize, []) (Side.lefts labels)
      (pair.left, Side.lefts events) :=
  Joined.run_left rfl rfl run

theorem pair_right
    (run : (recordedPair clientSize serverSize).Run
      (Pair.starting clientSize serverBuffer, []) labels (pair, events)) :
    ((serverSystem serverSize).recording Connection.observe).Run
      (Server1.accepting serverBuffer, []) (Side.rights labels)
      (pair.right, Side.rights events) :=
  Joined.run_right rfl rfl run

/-- What one session has sent and the other has not received is in transit. -/
theorem in_transit
    (run : (recordedPair clientSize serverSize).Run
      (Pair.starting clientSize serverBuffer, []) labels (pair, events)) :
    clientSent (Side.lefts labels) =
        serverReceived (Side.rights labels) ++ pair.toRight ∧
      serverSent (Side.rights labels) =
        clientReceived (Side.lefts labels) ++ pair.toLeft := by
  have steps : (pairSystem clientSize serverSize).step =
      Joined.step (clientEndpoint clientSize) (serverEndpoint serverSize) :=
    rfl
  exact Joined.run_in_transit steps run.forget

/-- The bytes come back to the client in the order in which it sent them. -/
theorem returned
    (run : (recordedPair clientSize serverSize).Run
      (Pair.starting clientSize serverBuffer, []) labels (pair, events)) :
    clientReceived (Side.lefts labels) <+: clientSent (Side.lefts labels) := by
  obtain ⟨forth, back⟩ := in_transit run
  have echoed := (server_stage (pair_right run)).1.echoed
  rw [back] at echoed
  rw [forth]
  exact ((List.prefix_append _ _).trans echoed).trans
    (List.prefix_append _ _)

theorem toList_length_le {α : Type} (option : Option α) :
    option.toList.length ≤ 1 := by
  cases option with
  | none => exact Nat.zero_le 1
  | some value => exact Nat.le_refl 1

theorem counters_exact {bytesWritten bytesRead countWritten countRead : UInt64}
    {writes reads : Nat} (positive : 0 < clientSize)
    (written : countWritten = UInt64.ofNat writes)
    (bytesOut : bytesWritten = UInt64.ofNat (writes * clientSize))
    (read : countRead = UInt64.ofNat reads)
    (bytesIn : bytesRead = UInt64.ofNat (reads * clientSize))
    (behind : reads ≤ writes) (close : writes ≤ reads + 1)
    (small : writes * clientSize < 18446744073709551616) :
    bytesWritten.toNat = countWritten.toNat * clientSize ∧
      bytesRead.toNat = countRead.toNat * clientSize ∧
      countRead.toNat ≤ countWritten.toNat ∧
      countWritten.toNat ≤ countRead.toNat + 1 := by
  have fewer : writes ≤ writes * clientSize :=
    Nat.le_mul_of_pos_right writes positive
  have less : reads * clientSize ≤ writes * clientSize :=
    Nat.mul_le_mul_right clientSize behind
  have value : ∀ number, number < 18446744073709551616 →
      (UInt64.ofNat number).toNat = number := by
    intro number fits
    rw [UInt64.toNat_ofNat']
    exact Nat.mod_eq_of_lt fits
  rw [written, bytesOut, read, bytesIn, value _ small, value writes (by omega),
    value (reads * clientSize) (by omega), value reads (by omega)]
  exact ⟨rfl, rfl, behind, close⟩

theorem echo_integrity (positive : 0 < clientSize)
    (run : (recordedPair clientSize serverSize).Run
      (Pair.starting clientSize serverBuffer, []) labels (pair, events)) :
    EchoIntegrity pair labels events := by
  have accounts := client_accounts (pair_left run)
  have content := client_content (pair_left run) (returned run)
  obtain ⟨stage, started⟩ := server_stage (pair_right run)
  obtain ⟨behind, close, _⟩ := accounts.stage.bounds
  have clientStarted := accounts.started
  have clientOutstanding := toList_length_le pair.left.operation
  have serverOutstanding := toList_length_le pair.right.operation
  exact
    { echoed := stage.echoed
      intact := content.intact
      blocks := content.blocks
      clientOne := by omega
      serverOne := by omega
      countWritten := accounts.countWritten
      bytesWritten := accounts.bytesWritten
      countRead := accounts.countRead
      bytesRead := accounts.bytesRead
      behind := behind
      close := close
      asNumbers := counters_exact positive accounts.countWritten
        accounts.bytesWritten accounts.countRead accounts.bytesRead behind
        close }

/-- One round with blocks of two bytes against blocks of one. -/
theorem echo_integrity_round :
    ∃ pair events,
      (recordedPair 2 1).Run (Pair.starting 2 (Memory.filled 1 0), [])
          [.left (.io .complete), .right .complete, .left (.io (.send [0])),
            .right (.recv [0]), .right .complete, .left (.io (.send [1])),
            .left (.io .complete), .right (.send [0]), .right .complete,
            .left (.io (.recv [0])), .right (.recv [1]), .right .complete,
            .right (.send [1]), .left (.io (.recv [1])),
            .left (.io .complete)]
          (pair, events) ∧
        (blocksRead (Side.lefts events)).length = 1 ∧
        EchoIntegrity pair
          [.left (.io .complete), .right .complete, .left (.io (.send [0])),
            .right (.recv [0]), .right .complete, .left (.io (.send [1])),
            .left (.io .complete), .right (.send [0]), .right .complete,
            .left (.io (.recv [0])), .right (.recv [1]), .right .complete,
            .right (.send [1]), .left (.io (.recv [1])),
            .left (.io .complete)] events := by
  refine ⟨_, _, System.run_iff_exec.mpr rfl, rfl, ?_⟩
  exact echo_integrity (by decide) (System.run_iff_exec.mpr rfl)

end Pair

end AsioBenchmark.Block
