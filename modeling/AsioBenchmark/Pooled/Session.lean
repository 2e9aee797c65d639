import AsioBenchmark.Bytes.Memory
import AsioBenchmark.Stream.Duplex
import Mathlib.Data.List.FinRange
import Mathlib.Logic.Function.Basic

/-!
# The pooled sessions of `client2` and `server2`

Both programs give a session ten buffers.  A buffer lies on the stack
`buffers_`, or is held by an outstanding `async_read_some`, or is held by an
outstanding `async_write_some`.  Operations of one kind are performed, and
their handlers run, in the order in which they were started; between the two an
operation is outstanding with its result known.
-/

namespace AsioBenchmark.Pooled

open AsioBenchmark.Bytes AsioBenchmark.Stream AsioBenchmark.Transition

def kMaxStackSize : Nat := 10

/-- The addresses that the constructor gets from `new char[block_size_]`. -/
abbrev BufferId := Fin kMaxStackSize

/-- An `async_write_some` that has not been performed. -/
structure WriteRequest where
  buffer : BufferId
  length : Nat
deriving DecidableEq

/-- An operation that was performed and whose handler has not run.  It
transferred some bytes, or failed. -/
structure Completion where
  buffer : BufferId
  result : Option Nat
deriving DecidableEq

/-- A session with its own fields in `Data`. -/
structure Session (blockSize : Nat) (Data : Type) where
  heap : BufferId → Memory blockSize
  buffers : List BufferId
  readQueue : List BufferId
  readDone : List Completion
  writeQueue : List WriteRequest
  writeDone : List Completion
  starting : Bool
  isOpen : Bool
  threw : Bool
  data : Data

/-- One step of a session: the network performs an operation, or a handler
runs. -/
inductive Action where
  | started (succeeded : Bool)
  | recv (chunk : List UInt8)
  | readError
  | readHandler
  | send (chunk : List UInt8)
  | writeError
  | writeHandler
  | stop
deriving DecidableEq

/-- The handlers of a program.  The result of an operation is the number of
bytes transferred, or an error. -/
structure Handlers (blockSize : Nat) (Data : Type) where
  started : Session blockSize Data → Session blockSize Data
  readHandler : BufferId → Option Nat → Session blockSize Data →
    Session blockSize Data
  writeHandler : BufferId → Option Nat → Session blockSize Data →
    Session blockSize Data
  stop : Session blockSize Data → Option (Session blockSize Data)

/-- A buffer with bytes in it. -/
structure Chunk where
  buffer : BufferId
  bytes : List UInt8
deriving DecidableEq

/-- What an observer sees: bytes put into a buffer, the handler of a failed
read, a write that is started, the bytes that a write transmits, and the
handler of a write. -/
inductive Event where
  | received (chunk : Chunk)
  | readFailed (buffer : BufferId)
  | writing (chunk : Chunk)
  | transmitted (length : Nat) (bytes : List UInt8)
  | wrote
deriving DecidableEq

namespace Session

variable {blockSize : Nat} {Data : Type}

def asyncReadSome (session : Session blockSize Data) (buffer : BufferId) :
    Session blockSize Data :=
  { session with readQueue := session.readQueue ++ [buffer] }

def asyncWriteSome (session : Session blockSize Data) (buffer : BufferId)
    (length : Nat) : Session blockSize Data :=
  { session with writeQueue := session.writeQueue ++ [⟨buffer, length⟩] }

def push (session : Session blockSize Data) (buffer : BufferId) :
    Session blockSize Data :=
  { session with buffers := buffer :: session.buffers }

/-- `read`: the buffer on top of the stack goes into a read, if there is
one. -/
def read (session : Session blockSize Data) : Session blockSize Data :=
  match session.buffers with
  | [] => session
  | buffer :: rest => { session with buffers := rest }.asyncReadSome buffer

/-- `write`: one `async_write_some` of the first `length` bytes. -/
def write (session : Session blockSize Data) (buffer : BufferId)
    (length : Nat) : Session blockSize Data :=
  session.asyncWriteSome buffer length

def close (session : Session blockSize Data) : Session blockSize Data :=
  { session with isOpen := false }

/-- The first read that was not performed gets some bytes.  Nothing arrives
in no bytes, unless the buffers are empty. -/
def recv (session : Session blockSize Data) (chunk : List UInt8) :
    Option (Session blockSize Data) :=
  match session.readQueue with
  | [] => none
  | buffer :: rest =>
      if fits : 0 + chunk.length ≤ blockSize then
        if session.isOpen = true ∧ (chunk ≠ [] ∨ blockSize = 0) then
          some
            { session with
              heap := Function.update session.heap buffer
                ((session.heap buffer).store 0 chunk fits)
              readQueue := rest
              readDone := session.readDone ++ [⟨buffer, some chunk.length⟩] }
        else none
      else none

def readError (session : Session blockSize Data) :
    Option (Session blockSize Data) :=
  match session.readQueue with
  | [] => none
  | buffer :: rest =>
      some
        { session with
          readQueue := rest
          readDone := session.readDone ++ [⟨buffer, none⟩] }

/-- The first write that was not performed hands over a front part of its
bytes, possibly a proper one. -/
def send (session : Session blockSize Data) (chunk : List UInt8) :
    Option (Session blockSize Data) :=
  match session.writeQueue with
  | [] => none
  | request :: rest =>
      if session.isOpen = true ∧ (chunk ≠ [] ∨ request.length = 0) ∧
          chunk.length ≤ request.length ∧
          (session.heap request.buffer).slice 0 chunk.length = chunk then
        some
          { session with
            writeQueue := rest
            writeDone := session.writeDone ++
              [⟨request.buffer, some chunk.length⟩] }
      else none

def writeError (session : Session blockSize Data) :
    Option (Session blockSize Data) :=
  match session.writeQueue with
  | [] => none
  | request :: rest =>
      some
        { session with
          writeQueue := rest
          writeDone := session.writeDone ++ [⟨request.buffer, none⟩] }

section Network

variable {session next : Session blockSize Data} {chunk : List UInt8}

theorem recv_cases (received : session.recv chunk = some next) :
    ∃ buffer rest, ∃ fits : 0 + chunk.length ≤ blockSize,
      session.readQueue = buffer :: rest ∧ session.isOpen = true ∧
        (chunk ≠ [] ∨ blockSize = 0) ∧
        next =
          { session with
            heap := Function.update session.heap buffer
              ((session.heap buffer).store 0 chunk fits)
            readQueue := rest
            readDone :=
              session.readDone ++ [⟨buffer, some chunk.length⟩] } := by
  unfold recv at received
  split at received
  · cases received
  · rename_i buffer rest queue
    split at received
    · rename_i fits
      obtain ⟨⟨isOpen, arrives⟩, same⟩ :=
        Option.ite_none_right_eq_some.mp received
      exact ⟨buffer, rest, fits, queue, isOpen, arrives,
        (Option.some.inj same).symm⟩
    · cases received

theorem readError_cases (failed : session.readError = some next) :
    ∃ buffer rest, session.readQueue = buffer :: rest ∧
      next =
        { session with
          readQueue := rest
          readDone := session.readDone ++ [⟨buffer, none⟩] } := by
  unfold readError at failed
  split at failed
  · cases failed
  · rename_i buffer rest queue
    exact ⟨buffer, rest, queue, (Option.some.inj failed).symm⟩

theorem send_cases (sent : session.send chunk = some next) :
    ∃ request rest, session.writeQueue = request :: rest ∧
      session.isOpen = true ∧ (chunk ≠ [] ∨ request.length = 0) ∧
        chunk.length ≤ request.length ∧
        (session.heap request.buffer).slice 0 chunk.length = chunk ∧
        next =
          { session with
            writeQueue := rest
            writeDone := session.writeDone ++
              [⟨request.buffer, some chunk.length⟩] } := by
  unfold send at sent
  split at sent
  · cases sent
  · rename_i request rest queue
    obtain ⟨⟨isOpen, moves, room, content⟩, same⟩ :=
      Option.ite_none_right_eq_some.mp sent
    exact ⟨request, rest, queue, isOpen, moves, room, content,
      (Option.some.inj same).symm⟩

theorem writeError_cases (failed : session.writeError = some next) :
    ∃ request rest, session.writeQueue = request :: rest ∧
      next =
        { session with
          writeQueue := rest
          writeDone := session.writeDone ++ [⟨request.buffer, none⟩] } := by
  unfold writeError at failed
  split at failed
  · cases failed
  · rename_i request rest queue
    exact ⟨request, rest, queue, (Option.some.inj failed).symm⟩

end Network

/-- An exception that leaves a handler ends the thread, and with it every
step. -/
def step (handlers : Handlers blockSize Data)
    (session : Session blockSize Data) (action : Action) :
    Option (Session blockSize Data) :=
  if session.threw = true then none
  else
    match action with
    | .started succeeded =>
        if session.starting = true then
          let established := { session with starting := false }
          some (if succeeded = true then handlers.started established
            else established)
        else none
    | .recv chunk => session.recv chunk
    | .readError => session.readError
    | .readHandler =>
        match session.readDone with
        | [] => none
        | completion :: rest =>
            some (handlers.readHandler completion.buffer completion.result
              { session with readDone := rest })
    | .send chunk => session.send chunk
    | .writeError => session.writeError
    | .writeHandler =>
        match session.writeDone with
        | [] => none
        | completion :: rest =>
            some (handlers.writeHandler completion.buffer completion.result
              { session with writeDone := rest })
    | .stop => handlers.stop session

/-- Everything a session can do in one step. -/
inductive Step (handlers : Handlers blockSize Data)
    (session : Session blockSize Data) :
    Action → Session blockSize Data → Prop where
  | started (starting : session.starting = true) :
      Step handlers session (.started true)
        (handlers.started { session with starting := false })
  | notStarted (starting : session.starting = true) :
      Step handlers session (.started false)
        { session with starting := false }
  | recv {buffer : BufferId} {rest : List BufferId} {chunk : List UInt8}
      (queue : session.readQueue = buffer :: rest)
      (fits : 0 + chunk.length ≤ blockSize)
      (isOpen : session.isOpen = true)
      (arrives : chunk ≠ [] ∨ blockSize = 0) :
      Step handlers session (.recv chunk)
        { session with
          heap := Function.update session.heap buffer
            ((session.heap buffer).store 0 chunk fits)
          readQueue := rest
          readDone := session.readDone ++ [⟨buffer, some chunk.length⟩] }
  | readError {buffer : BufferId} {rest : List BufferId}
      (queue : session.readQueue = buffer :: rest) :
      Step handlers session .readError
        { session with
          readQueue := rest
          readDone := session.readDone ++ [⟨buffer, none⟩] }
  | readHandler {completion : Completion} {rest : List Completion}
      (done : session.readDone = completion :: rest) :
      Step handlers session .readHandler
        (handlers.readHandler completion.buffer completion.result
          { session with readDone := rest })
  | send {request : WriteRequest} {rest : List WriteRequest}
      {chunk : List UInt8}
      (queue : session.writeQueue = request :: rest)
      (isOpen : session.isOpen = true)
      (moves : chunk ≠ [] ∨ request.length = 0)
      (room : chunk.length ≤ request.length)
      (content :
        (session.heap request.buffer).slice 0 chunk.length = chunk) :
      Step handlers session (.send chunk)
        { session with
          writeQueue := rest
          writeDone := session.writeDone ++
            [⟨request.buffer, some chunk.length⟩] }
  | writeError {request : WriteRequest} {rest : List WriteRequest}
      (queue : session.writeQueue = request :: rest) :
      Step handlers session .writeError
        { session with
          writeQueue := rest
          writeDone := session.writeDone ++ [⟨request.buffer, none⟩] }
  | writeHandler {completion : Completion} {rest : List Completion}
      (done : session.writeDone = completion :: rest) :
      Step handlers session .writeHandler
        (handlers.writeHandler completion.buffer completion.result
          { session with writeDone := rest })
  | stop {next : Session blockSize Data}
      (stopped : handlers.stop session = some next) :
      Step handlers session .stop next

theorem step_eq_some_iff {handlers : Handlers blockSize Data}
    {session next : Session blockSize Data} {action : Action} :
    session.step handlers action = some next ↔
      session.threw = false ∧ Step handlers session action next := by
  constructor
  · intro taken
    unfold step at taken
    split at taken
    · cases taken
    · rename_i runs
      refine ⟨by simpa using runs, ?_⟩
      cases action with
      | started succeeded =>
          obtain ⟨starting, same⟩ := Option.ite_none_right_eq_some.mp taken
          cases same
          cases succeeded with
          | true => exact .started starting
          | false => exact .notStarted starting
      | recv chunk =>
          obtain ⟨buffer, rest, fits, queue, isOpen, arrives, rfl⟩ :=
            recv_cases taken
          exact .recv queue fits isOpen arrives
      | readError =>
          obtain ⟨buffer, rest, queue, rfl⟩ := readError_cases taken
          exact .readError queue
      | readHandler =>
          simp only at taken
          split at taken
          · cases taken
          · rename_i completion rest done
            cases taken
            exact .readHandler done
      | send chunk =>
          obtain ⟨request, rest, queue, isOpen, moves, room, content, rfl⟩ :=
            send_cases taken
          exact .send queue isOpen moves room content
      | writeError =>
          obtain ⟨request, rest, queue, rfl⟩ := writeError_cases taken
          exact .writeError queue
      | writeHandler =>
          simp only at taken
          split at taken
          · cases taken
          · rename_i completion rest done
            cases taken
            exact .writeHandler done
      | stop => exact .stop taken
  · rintro ⟨runs, taken⟩
    unfold step
    rw [if_neg (by simp [runs])]
    cases taken with
    | started starting => simp [starting]
    | notStarted starting => simp [starting]
    | recv queue fits isOpen arrives =>
        simp only [recv, queue]
        rw [dif_pos fits, if_pos ⟨isOpen, arrives⟩]
    | readError queue => simp only [readError, queue]
    | readHandler done => simp only [done]
    | send queue isOpen moves room content =>
        simp only [send, queue]
        rw [if_pos ⟨isOpen, moves, room, content⟩]
    | writeError queue => simp only [writeError, queue]
    | writeHandler done => simp only [done]
    | stop stopped => exact stopped

/-- The writes that a step has started. -/
def writesAdded (session next : Session blockSize Data) : List Event :=
  (next.writeQueue.drop session.writeQueue.length).map fun request =>
    .writing
      { buffer := request.buffer
        bytes := (next.heap request.buffer).slice 0 request.length }

def observe (session : Session blockSize Data) :
    Action → Session blockSize Data → List Event
  | .started _, next => session.writesAdded next
  | .recv chunk, _ =>
      (session.readQueue.take 1).map fun buffer => .received ⟨buffer, chunk⟩
  | .readError, _ => []
  | .readHandler, next =>
      ((session.readDone.take 1).filter (·.result.isNone)).map
          (fun completion => .readFailed completion.buffer) ++
        session.writesAdded next
  | .send chunk, _ =>
      (session.writeQueue.take 1).map fun request =>
        .transmitted request.length chunk
  | .writeError, _ =>
      (session.writeQueue.take 1).map fun request =>
        .transmitted request.length []
  | .writeHandler, _ => [.wrote]
  | .stop, _ => []

/-- The buffers held by outstanding reads. -/
def reads (session : Session blockSize Data) : List BufferId :=
  session.readDone.map Completion.buffer ++ session.readQueue

/-- The buffers held by outstanding writes. -/
def writes (session : Session blockSize Data) : List BufferId :=
  session.writeDone.map Completion.buffer ++
    session.writeQueue.map WriteRequest.buffer

section Frame

variable {session next : Session blockSize Data}

/-- Starting a read leaves everything but the stack and the reads alone. -/
theorem read_frame (session : Session blockSize Data) :
    session.read.heap = session.heap ∧
      session.read.readDone = session.readDone ∧
      session.read.writeQueue = session.writeQueue ∧
      session.read.writeDone = session.writeDone ∧
      session.read.starting = session.starting ∧
      session.read.isOpen = session.isOpen ∧
      session.read.threw = session.threw ∧
      session.read.data = session.data := by
  unfold read
  split
  · simp
  · simp [asyncReadSome]

theorem writesAdded_same (same : next.writeQueue = session.writeQueue) :
    session.writesAdded next = [] := by
  simp [writesAdded, same]

theorem writesAdded_append {added : List WriteRequest}
    (longer : next.writeQueue = session.writeQueue ++ added) :
    session.writesAdded next = added.map fun request =>
      .writing
        { buffer := request.buffer
          bytes := (next.heap request.buffer).slice 0 request.length } := by
  rw [writesAdded, longer, List.drop_left]

end Frame

/-- The loop of the destructor: the buffers it deletes. -/
def deleteBuffers : List BufferId → List BufferId
  | [] => []
  | top :: rest => top :: deleteBuffers rest

/-- What the destructor deletes when the last reference goes away. -/
def destroy (session : Session blockSize Data) : List BufferId :=
  deleteBuffers session.buffers

/-- The constructor pushes ten buffers; the last one is on top. -/
def constructed (heap : BufferId → Memory blockSize) (data : Data) :
    Session blockSize Data :=
  { heap := heap
    buffers := (List.finRange kMaxStackSize).reverse
    readQueue := []
    readDone := []
    writeQueue := []
    writeDone := []
    starting := true
    isOpen := true
    threw := false
    data := data }

end Session

/-! ## `server2` -/

namespace Server2

variable {blockSize : Nat}

/-- The session has no fields besides the socket and the buffers. -/
abbrev ServerSession (blockSize : Nat) := Session blockSize Unit

def read (session : ServerSession blockSize) : ServerSession blockSize :=
  session.read

def write (session : ServerSession blockSize) (buffer : BufferId)
    (length : Nat) : ServerSession blockSize :=
  session.write buffer length

def start (session : ServerSession blockSize) : ServerSession blockSize :=
  read session

/-- The handler of `async_read_some`. -/
def readHandler (buffer : BufferId) (result : Option Nat)
    (session : ServerSession blockSize) : ServerSession blockSize :=
  match result with
  | some count => read (write session buffer count)
  | none => session.close

/-- The handler of `async_write_some`. -/
def writeHandler (buffer : BufferId) (result : Option Nat)
    (session : ServerSession blockSize) : ServerSession blockSize :=
  let needRead := session.buffers.isEmpty
  let pushed := session.push buffer
  let resumed :=
    if needRead = true ∧ result.isSome = true then read pushed else pushed
  if result.isNone = true then resumed.close else resumed

/-- Nothing stops a server session from outside. -/
def handlers (blockSize : Nat) : Handlers blockSize Unit where
  started := start
  readHandler := readHandler
  writeHandler := writeHandler
  stop _ := none

end Server2

/-! ## `client2` -/

namespace Client2

variable {blockSize : Nat}

/-- The fields of `session` besides the socket and the buffers. -/
structure Fields where
  bytesWritten : UInt64
  bytesRead : UInt64
  countWritten : UInt64
  countRead : UInt64
  error : Bool
  wantClose : Bool
deriving DecidableEq

abbrev ClientSession (blockSize : Nat) := Session blockSize Fields

def read (session : ClientSession blockSize) : ClientSession blockSize :=
  session.read

def write (session : ClientSession blockSize) (buffer : BufferId)
    (length : Nat) : ClientSession blockSize :=
  session.write buffer length

/-- An error counts unless the session wants to close. -/
def noteError (session : ClientSession blockSize) : ClientSession blockSize :=
  if session.data.wantClose = true then session
  else { session with data := { session.data with error := true } }

/-- The handler of `async_connect` after a success.  `set_option` throws on a
closed socket.  After `read` the stack still holds nine buffers, so `top` is
defined. -/
def start (session : ClientSession blockSize) : ClientSession blockSize :=
  if session.isOpen = true then
    let reading := read session
    match reading.buffers with
    | [] => reading
    | buffer :: rest => write { reading with buffers := rest } buffer blockSize
  else { session with threw := true }

/-- The handler of `async_read_some`. -/
def readHandler (buffer : BufferId) (result : Option Nat)
    (session : ClientSession blockSize) : ClientSession blockSize :=
  match result with
  | some count =>
      let counted := { session with
        data := { session.data with
          bytesRead := session.data.bytesRead + UInt64.ofNat count
          countRead := session.data.countRead + 1 } }
      read (write counted buffer count)
  | none => noteError session

/-- The handler of `async_write_some`. -/
def writeHandler (buffer : BufferId) (result : Option Nat)
    (session : ClientSession blockSize) : ClientSession blockSize :=
  let needRead := session.buffers.isEmpty
  let pushed := session.push buffer
  match result with
  | some count =>
      let counted := { pushed with
        data := { pushed.data with
          bytesWritten := pushed.data.bytesWritten + UInt64.ofNat count
          countWritten := pushed.data.countWritten + 1 } }
      if needRead = true then read counted else counted
  | none => noteError pushed

/-- The task that `stop` posts. -/
def stop (session : ClientSession blockSize) : ClientSession blockSize :=
  { session with data := { session.data with wantClose := true } }.close

def handlers (blockSize : Nat) : Handlers blockSize Fields where
  started := start
  readHandler := readHandler
  writeHandler := writeHandler
  stop session := some (stop session)

def initialFields : Fields :=
  { bytesWritten := 0
    bytesRead := 0
    countWritten := 0
    countRead := 0
    error := false
    wantClose := false }

end Client2

/-! ## The sessions as systems -/

/-- A session while `async_accept` is outstanding. -/
def Server2.accepting {blockSize : Nat} (heap : BufferId → Memory blockSize) :
    Server2.ServerSession blockSize :=
  .constructed heap ()

/-- A session while `async_connect` is outstanding. -/
def Client2.connecting {blockSize : Nat}
    (heap : BufferId → Memory blockSize) : Client2.ClientSession blockSize :=
  .constructed heap Client2.initialFields

/-- A `server2` session against an arbitrary peer and network. -/
def serverSystem (blockSize : Nat) :
    System (Server2.ServerSession blockSize) Action where
  Initial session := ∃ heap, session = Server2.accepting heap
  step := Session.step (Server2.handlers blockSize)

/-- A `client2` session against an arbitrary peer and network. -/
def clientSystem (blockSize : Nat) :
    System (Client2.ClientSession blockSize) Action where
  Initial session := ∃ heap, session = Client2.connecting heap
  step := Session.step (Client2.handlers blockSize)

/-- What a step of a session asks of the network. -/
def traffic : Action → Traffic
  | .started true => .quiet
  | .started false => .establishError
  | .recv chunk => .recv chunk
  | .readError => .readError
  | .readHandler => .quiet
  | .send chunk => .send chunk
  | .writeError => .writeError
  | .writeHandler => .quiet
  | .stop => .quiet

end AsioBenchmark.Pooled
