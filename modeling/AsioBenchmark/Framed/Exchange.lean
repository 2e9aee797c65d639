import AsioBenchmark.Framed.Transfer

/-!
# A `client3` session and its `server3` session

The pair joined by two byte streams, the messages it exchanges, and what the
handlers of both programs make of them.
-/

namespace AsioBenchmark.Framed

open AsioBenchmark.Bytes AsioBenchmark.Stream AsioBenchmark.Transition

/-! ## The pair -/

abbrev Pair := Joined Client3.ClientSession Server3.ServerSession

/-- Both sessions before the connection is established. -/
def Pair.starting (clientCount serverCount : UInt32)
    (clientBuffer serverBuffer : Memory maxBlockSize) : Pair :=
  { left := Client3.connecting clientCount clientBuffer
    right := Server3.accepting serverCount serverBuffer
    toRight := []
    toLeft := [] }

def pairSystem (clientCount serverCount : UInt32) :
    System Pair (Side Action Action) where
  Initial pair := ∃ clientBuffer serverBuffer,
    pair = Pair.starting clientCount serverCount clientBuffer serverBuffer
  step := Joined.step clientEndpoint serverEndpoint

abbrev PairEvent := Side (Event Handler) (Event Handler)

def Pair.observe : Pair → Side Action Action → Pair → List PairEvent :=
  Joined.observe Connection.observe Connection.observe

abbrev clientEvents (events : List PairEvent) : List (Event Handler) :=
  Side.lefts events

abbrev serverEvents (events : List PairEvent) : List (Event Handler) :=
  Side.rights events

/-- The messages a session has started to write. -/
def messagesWritten : List (Event Handler) → List (List UInt8) :=
  List.filterMap fun
    | .started .write bytes => some bytes
    | _ => none

/-- The bodies a session has finished reading. -/
def bodiesRead : List (Event Handler) → List (List UInt8) :=
  List.filterMap fun
    | .finished .readBody bytes => some bytes
    | _ => none

/-! ## The messages -/

/-- The body size of a round: a sawtooth from 100 to 10000. -/
def roundSize (round : Nat) : Nat :=
  100 + round % 9901

theorem roundSize_bounds (round : Nat) :
    100 ≤ roundSize round ∧ roundSize round ≤ 10000 := by
  simp only [roundSize]
  omega

theorem toNat_roundSize (round : Nat) :
    (UInt32.ofNat (roundSize round)).toNat = roundSize round := by
  have bounds := roundSize_bounds round
  rw [UInt32.toNat_ofNat']
  omega

theorem length_slice_roundSize (region : Memory maxBlockSize)
    (round : Nat) :
    (region.slice sizeofHeader (roundSize round)).length =
      roundSize round := by
  have bounds := roundSize_bounds round
  apply Memory.length_slice
  simp only [maxBlockSize]
  omega

private theorem message_announced (region : Memory maxBlockSize)
    (round count : Nat) :
    (Header.getBodySize
        { bodySize := htonl (UInt32.ofNat (roundSize round))
          packetCount := htonl (UInt32.ofNat count) }).toNat =
      (region.slice sizeofHeader (roundSize round)).length := by
  rw [length_slice_roundSize, Header.getBodySize, ntohl_htonl,
    toNat_roundSize]

private theorem message_nonempty (region : Memory maxBlockSize)
    (round : Nat) :
    0 < (region.slice sizeofHeader (roundSize round)).length := by
  rw [length_slice_roundSize]
  exact Nat.zero_lt_of_lt (roundSize_bounds round).1

private theorem message_fits (region : Memory maxBlockSize) (round : Nat) :
    (region.slice sizeofHeader (roundSize round)).length ≤ 10000 := by
  rw [length_slice_roundSize]
  exact (roundSize_bounds round).2

/-- The message number `count`, which carries the front of the client's
buffer behind the header. -/
def message (region : Memory maxBlockSize) (round count : Nat) : Message where
  header :=
    { bodySize := htonl (UInt32.ofNat (roundSize round))
      packetCount := htonl (UInt32.ofNat count) }
  body := region.slice sizeofHeader (roundSize round)
  announced := message_announced region round count
  nonempty := message_nonempty region round
  fits := message_fits region round

/-- What the client sends in a round. -/
def request (region : Memory maxBlockSize) (round : Nat) : Message :=
  message region round (2 * round + 1)

/-- What the server answers. -/
def reply (region : Memory maxBlockSize) (round : Nat) : Message :=
  message region round (2 * round + 2)

section Handlers

variable {Data : Type} {region : Memory maxBlockSize} {round count : Nat}
  {clientCount serverCount : UInt32}

theorem length_message_body (region : Memory maxBlockSize)
    (round count : Nat) :
    (message region round count).body.length = roundSize round :=
  length_slice_roundSize region round

theorem slice_of_drop {memory : Memory maxBlockSize}
    (same : memory.bytes.drop sizeofHeader = region.bytes.drop sizeofHeader) :
    memory.slice sizeofHeader (message region round count).body.length =
      (message region round count).body := by
  rw [Memory.slice, same, length_message_body]
  rfl

theorem countReached_iff {session : Session Data} {totalCount : UInt32}
    (holds : Holds session (message region round count))
    (bounded : count < 4294967296) :
    session.countReached totalCount = true ↔ totalCount.toNat ≤ count := by
  simp only [Session.countReached, holds.header, message, ntohl_htonl,
    decide_eq_true_eq, UInt32.le_iff_toNat_le, UInt32.toNat_ofNat',
    Nat.mod_eq_of_lt bounded]

theorem htonl_ofNat_succ (count : Nat) :
    ntohl (htonl (UInt32.ofNat count)) + 1 = UInt32.ofNat (count + 1) := by
  rw [ntohl_htonl, UInt32.ofNat_add]
  rfl

/-- `get_body_len` walks through the sizes of the rounds. -/
theorem getBodyLen_round (fields : Client3.Fields) (round : Nat)
    (current : fields.bodyLen = UInt32.ofNat (roundSize round + 1)) :
    fields.getBodyLen =
      (UInt32.ofNat (roundSize (round + 1)),
        { fields with
          bodyLen := UInt32.ofNat (roundSize (round + 1) + 1) }) := by
  have bounds := roundSize_bounds round
  have value : (if fields.bodyLen > 10000 then 100 else fields.bodyLen) =
      UInt32.ofNat (roundSize (round + 1)) := by
    rw [current]
    apply UInt32.toNat_inj.mp
    rw [toNat_roundSize]
    split
    · rename_i top
      simp only [gt_iff_lt, UInt32.lt_iff_toNat_lt, UInt32.toNat_ofNat',
        UInt32.reduceToNat] at top
      simp only [roundSize] at bounds top ⊢
      simp only [UInt32.reduceToNat]
      omega
    · rename_i inside
      simp only [gt_iff_lt, UInt32.lt_iff_toNat_lt, UInt32.toNat_ofNat',
        UInt32.reduceToNat] at inside
      simp only [UInt32.toNat_ofNat']
      simp only [roundSize] at bounds inside ⊢
      omega
  simp only [Client3.Fields.getBodyLen, value, UInt32.ofNat_add]
  rfl

/-! ## The handlers of `server3` -/

section Server

variable (session : Server3.ServerSession) (bytes : Nat)

/-- A request that reaches the limit is not answered. -/
theorem Server3.refuses (holds : Holds session (request region round))
    (bounded : 2 * round + 1 < 4294967296)
    (reached : session.data.totalCount.toNat ≤ 2 * round + 1) :
    Server3.callbacks.success .readBody bytes session = session.close := by
  have stop : Server3.Session.checkCount session = true :=
    (countReached_iff holds bounded).mpr reached
  change (if Server3.Session.checkCount session then session.close
    else Server3.Session.write session) = session.close
  rw [if_pos stop]

/-- Any other request is answered by its own body under the next count. -/
theorem Server3.answers (holds : Holds session (request region round))
    (isOpen : session.isOpen = true)
    (bounded : 2 * round + 1 < 4294967296)
    (below : 2 * round + 1 < session.data.totalCount.toNat) :
    let next := Server3.callbacks.success .readBody bytes session
    Writing next (reply region round) 0 ∧ next.data = session.data := by
  have goesOn : ¬Server3.Session.checkCount session = true := by
    intro stop
    have reached := (countReached_iff holds bounded).mp stop
    omega
  have incremented : (reply region round).header =
      session.header.incPacketCount := by
    rw [holds.header]
    simp only [reply, request, message, Header.incPacketCount,
      htonl_ofNat_succ]
  have sameBody : session.buffer.slice sizeofHeader
      (reply region round).body.length = (reply region round).body :=
    holds.body
  have written : Server3.callbacks.success .readBody bytes session =
      Server3.Session.write session := by
    change (if Server3.Session.checkCount session then session.close
      else Server3.Session.write session) = _
    rw [if_neg goesOn]
  have range : bufferRange session.header.getFullSize.toNat =
      (reply region round).size := by
    rw [holds.header, Message.bufferRange]
    rfl
  simp only [written]
  refine ⟨⟨?_, Nat.zero_le _, ?_, isOpen⟩, rfl⟩
  · rw [Server3.Session.write_operation, range]
  · exact Holds.setHeader session incremented sameBody

/-- A reply that reaches the limit is the last message of the server. -/
theorem Server3.stops (holds : Holds session (reply region round))
    (bounded : 2 * round + 2 < 4294967296)
    (reached : session.data.totalCount.toNat ≤ 2 * round + 2) :
    Server3.callbacks.success .write bytes session = session.close := by
  have stop : Server3.Session.checkCount session = true :=
    (countReached_iff holds bounded).mpr reached
  change (if Server3.Session.checkCount session then session.close
    else Server3.Session.readHead session) = session.close
  rw [if_pos stop]

/-- After any other reply the server waits for the next request. -/
theorem Server3.listens (holds : Holds session (reply region round))
    (isOpen : session.isOpen = true)
    (bounded : 2 * round + 2 < 4294967296)
    (below : 2 * round + 2 < session.data.totalCount.toNat) :
    let next := Server3.callbacks.success .write bytes session
    Waiting next ∧ next.data = session.data := by
  have goesOn : ¬Server3.Session.checkCount session = true := by
    intro stop
    have reached := (countReached_iff holds bounded).mp stop
    omega
  have waits : Server3.callbacks.success .write bytes session =
      Server3.Session.readHead session := by
    change (if Server3.Session.checkCount session then session.close
      else Server3.Session.readHead session) = _
    rw [if_neg goesOn]
  simp only [waits]
  exact ⟨⟨Server3.Session.readHead_operation session, isOpen⟩, rfl⟩

end Server

/-! ## The handlers of `client3` -/

section Client

/-- The fields of the client while it works on a round; the body region of its
buffer never changes. -/
structure ClientSide (clientCount : UInt32) (region : Memory maxBlockSize)
    (round : Nat) (finished : Bool) (session : Client3.ClientSession) :
    Prop where
  data : session.data =
    { totalCount := clientCount
      bodyLen := UInt32.ofNat (roundSize round + 1)
      finished := finished }
  body : session.buffer.bytes.drop sizeofHeader =
    region.bytes.drop sizeofHeader

theorem ClientSide.of_same {finished : Bool}
    {session next : Client3.ClientSession}
    (side : ClientSide clientCount region round finished session)
    (data : next.data = session.data)
    (body : next.buffer.bytes.drop sizeofHeader =
      session.buffer.bytes.drop sizeofHeader) :
    ClientSide clientCount region round finished next :=
  { data := data.trans side.data
    body := body.trans side.body }

variable (session : Client3.ClientSession) (bytes : Nat)

theorem Client3.writes (fields : Client3.Fields) {written : Message}
    (sameBody : session.buffer.slice sizeofHeader written.body.length =
      written.body)
    (isOpen : session.isOpen = true) :
    Writing (Client3.Session.write
      (Framed.Session.setHeader { session with data := fields }
        written.header)) written 0 := by
  refine ⟨?_, Nat.zero_le _, ?_, isOpen⟩
  · rw [Client3.Session.write_operation, Framed.Session.header_setHeader,
      Message.bufferRange]
  · exact Holds.setHeader { session with data := fields } rfl sameBody

theorem Client3.connects (clientCount : UInt32)
    (region : Memory maxBlockSize)
    (data : session.data =
      { totalCount := clientCount, bodyLen := 100, finished := false })
    (buffer : session.buffer = region) (isOpen : session.isOpen = true) :
    let next := Client3.callbacks.success .start bytes session
    Writing next (request region 0) 0 ∧
      ClientSide clientCount region 0 false next := by
  have first : session.data.getBodyLen =
      (100, { session.data with bodyLen := 101 }) := by
    rw [data]
    rfl
  have body : session.buffer.bytes.drop sizeofHeader =
      region.bytes.drop sizeofHeader := by
    rw [buffer]
  have sent : Client3.callbacks.success .start bytes session =
      Client3.Session.write (Framed.Session.setHeader
        { session with data := { session.data with bodyLen := 101 } }
        (request region 0).header) := by
    change Client3.Session.connected session = _
    simp only [Client3.Session.connected, first]
    rfl
  simp only [sent]
  refine ⟨Client3.writes session _ (slice_of_drop body) isOpen, ?_, ?_⟩
  · change { session.data with bodyLen := 101 } = _
    rw [data]
    rfl
  · exact body

/-- A reply that reaches the limit finishes the session. -/
theorem Client3.finishes
    (side : ClientSide clientCount region round false session)
    (holds : Holds session (reply region round))
    (bounded : 2 * round + 2 < 4294967296)
    (reached : clientCount.toNat ≤ 2 * round + 2) :
    let next := Client3.callbacks.success .readBody bytes session
    next.operation = session.operation ∧ next.isOpen = false ∧
      ClientSide clientCount region round true next := by
  have stop : Client3.Session.checkCount session = true := by
    refine (countReached_iff holds bounded).mpr ?_
    rw [side.data]
    exact reached
  have ends : Client3.callbacks.success .readBody bytes session =
      Client3.Session.finish session := by
    change (if Client3.Session.checkCount session then
      Client3.Session.finish session else Client3.Session.next session) = _
    rw [if_pos stop]
  simp only [ends]
  refine ⟨rfl, rfl, ?_, side.body⟩
  change { session.data with finished := true } = _
  rw [side.data]

/-- After any other reply the client sends the next request. -/
theorem Client3.asks
    (side : ClientSide clientCount region round false session)
    (holds : Holds session (reply region round))
    (isOpen : session.isOpen = true)
    (bounded : 2 * round + 2 < 4294967296)
    (below : 2 * round + 2 < clientCount.toNat) :
    let next := Client3.callbacks.success .readBody bytes session
    Writing next (request region (round + 1)) 0 ∧
      ClientSide clientCount region (round + 1) false next := by
  have goesOn : ¬Client3.Session.checkCount session = true := by
    intro stop
    have reached := (countReached_iff holds bounded).mp stop
    rw [side.data] at reached
    change clientCount.toNat ≤ 2 * round + 2 at reached
    omega
  have size := getBodyLen_round session.data round (by rw [side.data])
  have stored : Header.incPacketCount
      { session.header with
        bodySize := htonl (UInt32.ofNat (roundSize (round + 1))) } =
      (request region (round + 1)).header := by
    rw [holds.header]
    simp only [reply, request, message, Header.incPacketCount,
      htonl_ofNat_succ]
    rfl
  have sent : Client3.callbacks.success .readBody bytes session =
      Client3.Session.write (Framed.Session.setHeader
        { session with
          data :=
            { session.data with
              bodyLen := UInt32.ofNat (roundSize (round + 1) + 1) } }
        (request region (round + 1)).header) := by
    change (if Client3.Session.checkCount session then
      Client3.Session.finish session else Client3.Session.next session) = _
    rw [if_neg goesOn]
    simp only [Client3.Session.next, size, stored]
  simp only [sent]
  refine ⟨Client3.writes session _ (slice_of_drop side.body) isOpen, ?_,
    side.body⟩
  change { session.data with
    bodyLen := UInt32.ofNat (roundSize (round + 1) + 1) } = _
  rw [side.data]

end Client

end Handlers

end AsioBenchmark.Framed
