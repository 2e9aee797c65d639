import AsioBenchmark.Bytes.NetOrder
import AsioBenchmark.Stream.Connection
import AsioBenchmark.Stream.Duplex

/-!
# The framed sessions of `client3` and `server3`

Both programs declare the same packed `Header` and keep one `buffer_` that
holds the header and the body of the message being read or written.  The
buffer, the socket and the outstanding operation form a `Connection`; each
program contributes its own fields and its own handlers.
-/

namespace AsioBenchmark.Framed

open AsioBenchmark.Bytes AsioBenchmark.Stream AsioBenchmark.Transition

/-- `struct Header`, both fields in network order. -/
structure Header where
  bodySize : NetWord
  packetCount : NetWord
deriving DecidableEq, Repr

/-- `sizeof(Header)`. -/
def sizeofHeader : Nat := 8

/-- `max_block_size_`, the size of `buffer_`. -/
def maxBlockSize : Nat := 10000 + sizeofHeader

namespace Header

def getBodySize (header : Header) : UInt32 :=
  ntohl header.bodySize

/-- The sum is a `size_t` and is returned as a `uint32_t`. -/
def getFullSize (header : Header) : UInt32 :=
  (UInt64.ofNat sizeofHeader + (ntohl header.bodySize).toUInt64).toUInt32

def incPacketCount (header : Header) : Header :=
  let count := ntohl header.packetCount + 1
  { header with packetCount := htonl count }

def bytes (header : Header) : List UInt8 :=
  header.bodySize.bytes ++ header.packetCount.bytes

/-- `(Header*)buffer_`. -/
def view (memory : List UInt8) : Header :=
  { bodySize := NetWord.load memory 0
    packetCount := NetWord.load memory 4 }

@[simp] theorem length_bytes (header : Header) :
    header.bytes.length = sizeofHeader := rfl

theorem fits (header : Header) : 0 + header.bytes.length ≤ maxBlockSize := by
  rw [length_bytes]
  decide

theorem view_take (memory : List UInt8) (count : Nat)
    (inside : sizeofHeader ≤ count) :
    view (memory.take count) = view memory := by
  simp only [sizeofHeader] at inside
  simp only [view, Header.mk.injEq]
  exact ⟨NetWord.load_take memory 0 count (by omega),
    NetWord.load_take memory 4 count (by omega)⟩

@[simp] theorem view_bytes_append (header : Header) (rest : List UInt8) :
    view (header.bytes ++ rest) = header := by
  obtain ⟨⟨a, b, c, d⟩, ⟨e, f, g, h⟩⟩ := header
  rfl

@[simp] theorem incPacketCount_bodySize (header : Header) :
    header.incPacketCount.bodySize = header.bodySize := by
  cases header
  rfl

@[simp] theorem getBodySize_incPacketCount (header : Header) :
    header.incPacketCount.getBodySize = header.getBodySize := by
  rw [getBodySize, incPacketCount_bodySize, getBodySize]

/-- As long as the sum fits into 32 bits, `get_full_size` does not wrap. -/
theorem getFullSize_toNat {header : Header}
    (fits : header.getBodySize.toNat + sizeofHeader < 4294967296) :
    header.getFullSize.toNat = sizeofHeader + header.getBodySize.toNat := by
  have below : (ntohl header.bodySize).toNat < 4294967296 :=
    (ntohl header.bodySize).toNat_lt
  simp only [getBodySize, sizeofHeader] at fits
  simp only [getFullSize, getBodySize, sizeofHeader, UInt64.toNat_toUInt32,
    UInt64.toNat_add, UInt64.toNat_ofNat', UInt32.toNat_toUInt64]
  omega

end Header

/-- The completion handlers of a session; `start` runs when the connection is
accepted (`server3`) or established (`client3`). -/
inductive Handler where
  | start
  | write
  | readHead
  | readBody
deriving DecidableEq, Repr

/-- A session with its own fields in `Data`. -/
abbrev Session (Data : Type) := Connection maxBlockSize Handler Data

/-- `asio::buffer(buffer_, count)` on the array `buffer_` never exceeds the
array. -/
def bufferRange (count : Nat) : Nat :=
  if maxBlockSize < count then maxBlockSize else count

theorem bufferRange_of_le {count : Nat} (inside : count ≤ maxBlockSize) :
    bufferRange count = count := by
  rw [bufferRange, if_neg (Nat.not_lt.mpr inside)]

@[simp] theorem bufferRange_sizeofHeader :
    bufferRange sizeofHeader = sizeofHeader :=
  bufferRange_of_le (by decide)

namespace Session

variable {Data : Type}

def header (session : Session Data) : Header :=
  Header.view session.buffer.bytes

/-- Assignments through `(Header*)buffer_`. -/
def setHeader (session : Session Data) (header : Header) : Session Data :=
  { session with
    buffer := session.buffer.store 0 header.bytes header.fits }

/-- `ntohl(header->packet_count_) >= total_count_`. -/
def countReached (session : Session Data) (totalCount : UInt32) : Bool :=
  decide (totalCount ≤ ntohl session.header.packetCount)

theorem setHeader_bytes (session : Session Data) (header : Header) :
    (session.setHeader header).buffer.bytes =
      header.bytes ++ session.buffer.bytes.drop sizeofHeader := rfl

@[simp] theorem header_setHeader (session : Session Data) (header : Header) :
    (session.setHeader header).header = header := by
  simp [Session.header, setHeader_bytes]

end Session

/-! ## `server3` -/

namespace Server3

/-- The fields of `session` besides the socket and the buffer. -/
structure Fields where
  totalCount : UInt32
deriving DecidableEq

abbrev ServerSession := Session Fields

namespace Session

def checkCount (session : ServerSession) : Bool :=
  session.countReached session.data.totalCount

def readHead (session : ServerSession) : ServerSession :=
  session.asyncRead 0 (bufferRange sizeofHeader) .readHead

def readBody (session : ServerSession) : ServerSession :=
  let bodySize := session.header.getBodySize
  session.asyncRead sizeofHeader bodySize.toNat .readBody

def write (session : ServerSession) : ServerSession :=
  let fullSize := session.header.getFullSize
  let counted := session.setHeader session.header.incPacketCount
  counted.asyncWrite 0 (bufferRange fullSize.toNat) .write

def start (session : ServerSession) : ServerSession :=
  readHead session

theorem readHead_operation (session : ServerSession) :
    (readHead session).operation =
      some ⟨.read, 0, sizeofHeader, 0, .readHead⟩ := by
  simp only [readHead, Connection.asyncRead, bufferRange_sizeofHeader]

theorem write_operation (session : ServerSession) :
    (write session).operation =
      some ⟨.write, 0, bufferRange session.header.getFullSize.toNat, 0,
        .write⟩ := rfl

theorem write_header (session : ServerSession) :
    (write session).header = session.header.incPacketCount :=
  Framed.Session.header_setHeader session _

end Session

/-- The handlers.  A failed operation starts nothing, so the last reference to
the session goes away and its socket with it. -/
def callbacks : Callbacks maxBlockSize Handler Fields where
  success handler _ session :=
    match handler with
    | .start => Session.start session
    | .write =>
        if Session.checkCount session then session.close
        else Session.readHead session
    | .readHead => Session.readBody session
    | .readBody =>
        if Session.checkCount session then session.close
        else Session.write session
  failure _ session := session.close

/-- A new session while `async_accept` is outstanding.  The constructor leaves
`buffer_` as it finds it. -/
def accepting (totalCount : UInt32) (buffer : Memory maxBlockSize) :
    ServerSession :=
  { buffer := buffer
    data := { totalCount := totalCount }
    operation := some ⟨.establish, 0, 0, 0, .start⟩
    isOpen := true }

end Server3

/-! ## `client3` -/

namespace Client3

/-- The fields of `session` besides the socket and the buffer; the two clock
readings are left out. -/
structure Fields where
  totalCount : UInt32
  bodyLen : UInt32
  finished : Bool
deriving DecidableEq

abbrev ClientSession := Session Fields

/-- `get_body_len`, with the new value of `body_len_`. -/
def Fields.getBodyLen (fields : Fields) : UInt32 × Fields :=
  let bodyLen := if fields.bodyLen > 10000 then 100 else fields.bodyLen
  (bodyLen, { fields with bodyLen := bodyLen + 1 })

namespace Session

def checkCount (session : ClientSession) : Bool :=
  session.countReached session.data.totalCount

def write (session : ClientSession) : ClientSession :=
  let fullSize := session.header.getFullSize
  session.asyncWrite 0 (bufferRange fullSize.toNat) .write

def readHead (session : ClientSession) : ClientSession :=
  session.asyncRead 0 (bufferRange sizeofHeader) .readHead

def readBody (session : ClientSession) : ClientSession :=
  let bodySize := session.header.getBodySize
  session.asyncRead sizeofHeader bodySize.toNat .readBody

/-- The handler of `async_connect`. -/
def connected (session : ClientSession) : ClientSession :=
  let (bodyLen, fields) := session.data.getBodyLen
  let first : Header := { bodySize := htonl bodyLen, packetCount := htonl 1 }
  write (Framed.Session.setHeader { session with data := fields } first)

/-- The branch of `read_body` that sends the next request. -/
def next (session : ClientSession) : ClientSession :=
  let (bodyLen, fields) := session.data.getBodyLen
  let header := { session.header with bodySize := htonl bodyLen }
  write (Framed.Session.setHeader { session with data := fields }
    header.incPacketCount)

/-- The branch of `read_body` that ends the session. -/
def finish (session : ClientSession) : ClientSession :=
  { session with data := { session.data with finished := true } }.close

theorem readHead_operation (session : ClientSession) :
    (readHead session).operation =
      some ⟨.read, 0, sizeofHeader, 0, .readHead⟩ := by
  simp only [readHead, Connection.asyncRead, bufferRange_sizeofHeader]

theorem write_operation (session : ClientSession) :
    (write session).operation =
      some ⟨.write, 0, bufferRange session.header.getFullSize.toNat, 0,
        .write⟩ := rfl

theorem write_header (session : ClientSession) :
    (write session).header = session.header := rfl

end Session

/-- The handlers.  A failed operation starts nothing; the session itself lives
as long as the client. -/
def callbacks : Callbacks maxBlockSize Handler Fields where
  success handler _ session :=
    match handler with
    | .start => Session.connected session
    | .write => Session.readHead session
    | .readHead => Session.readBody session
    | .readBody =>
        if Session.checkCount session then Session.finish session
        else Session.next session
  failure _ session := session

/-- A session while `async_connect` is outstanding. -/
def connecting (totalCount : UInt32) (buffer : Memory maxBlockSize) :
    ClientSession :=
  { buffer := buffer
    data := { totalCount := totalCount, bodyLen := 100, finished := false }
    operation := some ⟨.establish, 0, 0, 0, .start⟩
    isOpen := true }

/-- The counts that `~client` prints: failed sessions, then finished ones. -/
def report (sessions : List ClientSession) : UInt32 × UInt32 :=
  sessions.foldl (fun counts session =>
    if session.data.finished then (counts.1, counts.2 + 1)
    else (counts.1 + 1, counts.2)) (0, 0)

end Client3

/-! ## The sessions as systems -/

/-- What a step of a session asks of the network. -/
def traffic : Action → Traffic
  | .recv chunk => .recv chunk
  | .send chunk => .send chunk
  | .complete => .quiet
  | .fail .establish => .establishError
  | .fail .read => .readError
  | .fail .write => .writeError

/-- A `server3` session against an arbitrary peer and network. -/
def serverSystem (totalCount : UInt32) :
    System Server3.ServerSession Action where
  Initial session := ∃ buffer, session = Server3.accepting totalCount buffer
  step := Connection.step Server3.callbacks

theorem serverSystem_step (totalCount : UInt32) :
    (serverSystem totalCount).step = Connection.step Server3.callbacks := rfl

/-- A `client3` session against an arbitrary peer and network. -/
def clientSystem (totalCount : UInt32) :
    System Client3.ClientSession Action where
  Initial session := ∃ buffer, session = Client3.connecting totalCount buffer
  step := Connection.step Client3.callbacks

theorem clientSystem_step (totalCount : UInt32) :
    (clientSystem totalCount).step = Connection.step Client3.callbacks := rfl

def serverEndpoint : Endpoint Server3.ServerSession Action :=
  { step := Connection.step Server3.callbacks
    traffic := traffic
    isOpen := Connection.isOpen }

def clientEndpoint : Endpoint Client3.ClientSession Action :=
  { step := Connection.step Client3.callbacks
    traffic := traffic
    isOpen := Connection.isOpen }

end AsioBenchmark.Framed
