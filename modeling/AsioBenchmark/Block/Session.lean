import AsioBenchmark.Framed.Session

/-!
# The block sessions of `client1` and `server1`

The client writes its whole `buffer_` and reads it back, the server reads its
whole `buffer_` and writes it back.  Each side has a block size of its own.
-/

namespace AsioBenchmark.Block

open AsioBenchmark.Bytes AsioBenchmark.Stream AsioBenchmark.Transition

/-- The completion handlers of a session; `start` runs when the connection is
accepted (`server1`) or established (`client1`). -/
inductive Handler where
  | start
  | write
  | read
deriving DecidableEq, Repr

/-! ## `client1` -/

namespace Client1

/-- The fields of `session` besides the socket and the buffer.  `started` is a
history: the number of operations started so far. -/
structure Fields where
  bytesWritten : UInt64
  bytesRead : UInt64
  countWritten : UInt64
  countRead : UInt64
  error : Bool
  wantClose : Bool
  started : Nat
deriving DecidableEq

abbrev ClientSession (blockSize : Nat) := Connection blockSize Handler Fields

/-- What the constructor fills `buffer_` with. -/
def pattern (blockSize : Nat) : Memory blockSize :=
  { bytes := (List.range blockSize).map fun i => UInt8.ofNat (i % 128)
    length_eq := by simp }

namespace Session

variable {blockSize : Nat}

/-- One more operation is started. -/
def begins (session : ClientSession blockSize) : ClientSession blockSize :=
  { session with
    data := { session.data with started := session.data.started + 1 } }

def write (session : ClientSession blockSize) : ClientSession blockSize :=
  (begins session).asyncWrite 0 blockSize .write

def read (session : ClientSession blockSize) : ClientSession blockSize :=
  (begins session).asyncRead 0 blockSize .read

/-- The handler of `async_connect`.  `set_option` throws on a closed socket. -/
def connected (session : ClientSession blockSize) : ClientSession blockSize :=
  if session.isOpen = true then write session else session

/-- The handler of `write` after a success. -/
def written (session : ClientSession blockSize) (count : Nat) :
    ClientSession blockSize :=
  read
    { session with
      data :=
        { session.data with
          bytesWritten := session.data.bytesWritten + UInt64.ofNat count
          countWritten := session.data.countWritten + 1 } }

/-- The handler of `read` after a success. -/
def received (session : ClientSession blockSize) (count : Nat) :
    ClientSession blockSize :=
  write
    { session with
      data :=
        { session.data with
          bytesRead := session.data.bytesRead + UInt64.ofNat count
          countRead := session.data.countRead + 1 } }

/-- The handlers of `write` and `read` after a failure. -/
def failed (session : ClientSession blockSize) : ClientSession blockSize :=
  if session.data.wantClose = true then session
  else { session with data := { session.data with error := true } }

/-- The task that `stop` posts. -/
def stop (session : ClientSession blockSize) : ClientSession blockSize :=
  { session with data := { session.data with wantClose := true } }.close

end Session

def callbacks (blockSize : Nat) : Callbacks blockSize Handler Fields where
  success handler count session :=
    match handler with
    | .start => Session.connected session
    | .write => Session.written session count
    | .read => Session.received session count
  failure handler session :=
    match handler with
    | .start => session
    | .write => Session.failed session
    | .read => Session.failed session

/-- A session while `async_connect` is outstanding. -/
def connecting (blockSize : Nat) : ClientSession blockSize :=
  { buffer := pattern blockSize
    data :=
      { bytesWritten := 0
        bytesRead := 0
        countWritten := 0
        countRead := 0
        error := false
        wantClose := false
        started := 1 }
    operation := some ⟨.establish, 0, 0, 0, .start⟩
    isOpen := true }

/-- A step of the connection, or the posted task of `stop`. -/
inductive Label where
  | io (action : Action)
  | stop
deriving DecidableEq

def step {blockSize : Nat} (session : ClientSession blockSize) :
    Label → Option (ClientSession blockSize)
  | .io action => session.step (callbacks blockSize) action
  | .stop => some (Session.stop session)

def Label.traffic : Label → Traffic
  | .io action => Framed.traffic action
  | .stop => .quiet

/-- What a step shows; closing the socket ends no operation by itself. -/
def observe {blockSize : Nat} (session : ClientSession blockSize) :
    Label → ClientSession blockSize → List (Event Handler)
  | .io action, next => session.observe action next
  | .stop, _ => []

end Client1

/-! ## `server1` -/

namespace Server1

/-- Only the history of `client1` is needed: the number of operations started
so far. -/
structure Fields where
  started : Nat
deriving DecidableEq

abbrev ServerSession (blockSize : Nat) := Connection blockSize Handler Fields

namespace Session

variable {blockSize : Nat}

def begins (session : ServerSession blockSize) : ServerSession blockSize :=
  { session with data := { started := session.data.started + 1 } }

def write (session : ServerSession blockSize) : ServerSession blockSize :=
  (begins session).asyncWrite 0 blockSize .write

def read (session : ServerSession blockSize) : ServerSession blockSize :=
  (begins session).asyncRead 0 blockSize .read

def start (session : ServerSession blockSize) : ServerSession blockSize :=
  read session

end Session

/-- A failed operation starts nothing, so the last reference to the session
goes away and its socket with it. -/
def callbacks (blockSize : Nat) : Callbacks blockSize Handler Fields where
  success handler _ session :=
    match handler with
    | .start => Session.start session
    | .write => Session.read session
    | .read => Session.write session
  failure _ session := session.close

/-- A new session while `async_accept` is outstanding.  The constructor leaves
`buffer_` as it finds it. -/
def accepting {blockSize : Nat} (buffer : Memory blockSize) :
    ServerSession blockSize :=
  { buffer := buffer
    data := { started := 1 }
    operation := some ⟨.establish, 0, 0, 0, .start⟩
    isOpen := true }

end Server1

/-! ## The sessions as systems -/

/-- A `client1` session against an arbitrary peer and network. -/
def clientSystem (blockSize : Nat) :
    System (Client1.ClientSession blockSize) Client1.Label where
  Initial session := session = Client1.connecting blockSize
  step := Client1.step

/-- A `server1` session against an arbitrary peer and network. -/
def serverSystem (blockSize : Nat) :
    System (Server1.ServerSession blockSize) Action where
  Initial session := ∃ buffer, session = Server1.accepting buffer
  step := Connection.step (Server1.callbacks blockSize)

def clientEndpoint (blockSize : Nat) :
    Endpoint (Client1.ClientSession blockSize) Client1.Label :=
  { step := Client1.step
    traffic := Client1.Label.traffic
    isOpen := Connection.isOpen }

def serverEndpoint (blockSize : Nat) :
    Endpoint (Server1.ServerSession blockSize) Action :=
  { step := Connection.step (Server1.callbacks blockSize)
    traffic := Framed.traffic
    isOpen := Connection.isOpen }

/-! ## The pair -/

abbrev Pair (clientSize serverSize : Nat) :=
  Joined (Client1.ClientSession clientSize) (Server1.ServerSession serverSize)

/-- Both sessions before the connection is established. -/
def Pair.starting (clientSize : Nat) {serverSize : Nat}
    (serverBuffer : Memory serverSize) : Pair clientSize serverSize :=
  { left := Client1.connecting clientSize
    right := Server1.accepting serverBuffer
    toRight := []
    toLeft := [] }

abbrev PairLabel := Side Client1.Label Action

abbrev PairEvent := Side (Event Handler) (Event Handler)

def pairSystem (clientSize serverSize : Nat) :
    System (Pair clientSize serverSize) PairLabel where
  Initial pair := ∃ serverBuffer, pair = Pair.starting clientSize serverBuffer
  step := Joined.step (clientEndpoint clientSize) (serverEndpoint serverSize)

def Pair.observe {clientSize serverSize : Nat} :
    Pair clientSize serverSize → PairLabel → Pair clientSize serverSize →
      List PairEvent :=
  Joined.observe Client1.observe Connection.observe

/-- The runs of the pair with the events of both sessions. -/
abbrev recordedPair (clientSize serverSize : Nat) :
    System (Pair clientSize serverSize × List PairEvent) PairLabel :=
  (pairSystem clientSize serverSize).recording Pair.observe

/-! ## What the labels and events of a run say -/

/-- The handlers that have run. -/
def handlersRun : List Action → Nat :=
  List.countP fun
    | .complete => true
    | .fail _ => true
    | _ => false

/-- The steps of the connection among the steps of a client. -/
def clientActions : List Client1.Label → List Action :=
  List.filterMap fun
    | .io action => some action
    | .stop => none

/-- The contents of the blocks whose write has been completed. -/
def blocksWritten : List (Event Handler) → List (List UInt8) :=
  List.filterMap fun
    | .finished .write bytes => some bytes
    | _ => none

/-- The contents of the blocks whose read has been completed. -/
def blocksRead : List (Event Handler) → List (List UInt8) :=
  List.filterMap fun
    | .finished .read bytes => some bytes
    | _ => none

end AsioBenchmark.Block
