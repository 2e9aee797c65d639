import AsioBenchmark.Framed.Reply

/-!
# `client3` as a function of its input

What `client3` sends is a function of the bytes it receives as well, but not
of these alone: a body is sent as `buffer_` holds it, and a reply overwrites
no more of `buffer_` than its own length.  The rest goes out again as it was.
As for `server3` this is so as long as the announced bodies fit: `finished_`
lies behind `buffer_`, and a longer reply is read over it.
-/

namespace AsioBenchmark.Framed

open AsioBenchmark.Bytes AsioBenchmark.Stream AsioBenchmark.Transition

namespace Client3

/-! ## The function -/

/-- `buffer_` when a request with this count is about to be written. -/
def requestBuffer (fields : Fields) (count : UInt32) (memory : List UInt8) :
    List UInt8 :=
  let header : Header :=
    { bodySize := htonl fields.getBodyLen.1, packetCount := htonl count }
  header.bytes ++ memory.drop sizeofHeader

/-- The requests that follow on a stream of replies whose bodies fit; they are
read into `memory` one after the other.  A reply whose count has reached the
limit is not followed by a request. -/
def requests (fields : Fields) (memory stream : List UInt8) : List UInt8 :=
  if Header.Whole stream then
    let reply := Header.view stream
    let size := sizeofHeader + reply.getBodySize.toNat
    let held := stream.take size ++ memory.drop size
    if fields.totalCount ≤ ntohl reply.packetCount then []
    else
      let (bodyLen, following) := fields.getBodyLen
      let asking := requestBuffer fields (ntohl reply.packetCount + 1) held
      asking.take (sizeofHeader + bodyLen.toNat) ++
        requests following asking (stream.drop size)
  else []
termination_by stream.length
decreasing_by
  rename_i whole _
  simp only [Header.Whole, sizeofHeader] at whole
  simp only [List.length_drop, sizeofHeader]
  omega

/-- The fields of a new session. -/
def initialFields (totalCount : UInt32) : Fields :=
  { totalCount := totalCount, bodyLen := 100, finished := false }

/-- All that a session sends: its first request and those that follow. -/
def conversation (totalCount : UInt32) (buffer stream : List UInt8) :
    List UInt8 :=
  let (bodyLen, following) := (initialFields totalCount).getBodyLen
  let asking := requestBuffer (initialFields totalCount) 1 buffer
  asking.take (sizeofHeader + bodyLen.toNat) ++
    requests following asking stream

/-- One of the replies has reached the limit. -/
def concludes (totalCount : UInt32) (stream : List UInt8) : Bool :=
  if Header.Whole stream then
    let reply := Header.view stream
    decide (totalCount ≤ ntohl reply.packetCount) ||
      concludes totalCount
        (stream.drop (sizeofHeader + reply.getBodySize.toNat))
  else false
termination_by stream.length
decreasing_by
  rename_i whole
  simp only [Header.Whole, sizeofHeader] at whole
  simp only [List.length_drop, sizeofHeader]
  omega

/-! One message of the stream. -/

section Message

variable {fields : Fields} {memory front rest : List UInt8}
  {totalCount : UInt32}

theorem requests_of_not_whole (part : ¬Header.Whole front) :
    requests fields memory front = [] := by
  rw [requests, if_neg part]

theorem concludes_of_not_whole (part : ¬Header.Whole front) :
    concludes totalCount front = false := by
  rw [concludes, if_neg part]

variable (exact : front.length =
  sizeofHeader + (Header.view front).getBodySize.toNat)

include exact

theorem whole_append : Header.Whole (front ++ rest) := by
  have same := Header.view_append rest (by omega : sizeofHeader ≤ front.length)
  rw [Header.Whole, same, List.length_append]
  omega

theorem concludes_append :
    concludes totalCount (front ++ rest) =
      (decide (totalCount ≤ ntohl (Header.view front).packetCount) ||
        concludes totalCount rest) := by
  have same := Header.view_append rest (by omega : sizeofHeader ≤ front.length)
  have remaining : (front ++ rest).drop
      (sizeofHeader + (Header.view front).getBodySize.toNat) = rest :=
    List.drop_left' exact
  rw [concludes, if_pos (whole_append exact)]
  simp only [same, remaining]

/-- A reply that reaches the limit ends the requests. -/
theorem requests_ended
    (reached : fields.totalCount ≤ ntohl (Header.view front).packetCount) :
    requests fields memory (front ++ rest) = [] := by
  have same := Header.view_append rest (by omega : sizeofHeader ≤ front.length)
  rw [requests, if_pos (whole_append exact)]
  simp only [same, if_pos reached]

/-- Any other reply is followed by a request. -/
theorem requests_asked
    (below : ¬fields.totalCount ≤ ntohl (Header.view front).packetCount) :
    requests fields memory (front ++ rest) =
      let asking := requestBuffer fields
        (ntohl (Header.view front).packetCount + 1)
        (front ++ memory.drop front.length)
      asking.take (sizeofHeader + fields.getBodyLen.1.toNat) ++
        requests fields.getBodyLen.2 asking rest := by
  have same := Header.view_append rest (by omega : sizeofHeader ≤ front.length)
  have remaining : (front ++ rest).drop
      (sizeofHeader + (Header.view front).getBodySize.toNat) = rest :=
    List.drop_left' exact
  have read : (front ++ rest).take
      (sizeofHeader + (Header.view front).getBodySize.toNat) = front :=
    List.take_left' exact
  rw [requests, if_pos (whole_append exact)]
  simp only [same, if_neg below, remaining, read, exact]

end Message

/-! ## The session -/

namespace Session

variable (session : ClientSession)

theorem connected_buffer :
    (connected session).buffer.bytes =
      requestBuffer session.data 1 session.buffer.bytes := rfl

theorem next_buffer :
    (next session).buffer.bytes =
      requestBuffer session.data (ntohl session.header.packetCount + 1)
        session.buffer.bytes := rfl

/-- A request of any size that `get_body_len` gives is written in full. -/
theorem write_request (fields : Fields) (header : Header)
    (announced : header.bodySize = htonl fields.getBodyLen.1) :
    (write (session.setHeader header)).operation =
      some ⟨.write, 0, sizeofHeader + fields.getBodyLen.1.toNat, 0,
        .write⟩ := by
  have size : header.getBodySize = fields.getBodyLen.1 := by
    rw [Header.getBodySize, announced, ntohl_htonl]
  have small : header.Fits := by
    rw [Header.Fits, size]
    exact fields.getBodyLen_fits
  rw [write_operation, Framed.Session.header_setHeader, small.bufferRange,
    size]

theorem connected_operation :
    (connected session).operation =
      some ⟨.write, 0, sizeofHeader + session.data.getBodyLen.1.toNat, 0,
        .write⟩ :=
  write_request _ session.data _ rfl

theorem next_operation :
    (next session).operation =
      some ⟨.write, 0, sizeofHeader + session.data.getBodyLen.1.toNat, 0,
        .write⟩ :=
  write_request _ session.data _ rfl

end Session

/-- After the bytes `consumed` the bytes `asked` have been sent and the limit
has not been reached, whatever follows; the session goes on with these fields
and this `buffer_`. -/
structure Asked (totalCount : UInt32) (buffer consumed asked : List UInt8)
    (fields : Fields) (memory : List UInt8) : Prop where
  count : fields.totalCount = totalCount
  unfinished : fields.finished = false
  sends : ∀ rest, conversation totalCount buffer (consumed ++ rest) =
    asked ++ requests fields memory rest
  decides : ∀ rest, concludes totalCount (consumed ++ rest) =
    concludes totalCount rest

/-- The replies before the current one have been followed by their requests;
the front of `buffer_` holds what has been received of it, or the request that
is being written. -/
inductive Asking (totalCount : UInt32) (buffer : List UInt8)
    (session : ClientSession) (received sent : List UInt8) (failed : Prop) :
    Prop where
  | connecting
      (outstanding : session.operation = some ⟨.establish, 0, 0, 0, .start⟩)
      (fields : session.data = initialFields totalCount)
      (memory : session.buffer.bytes = buffer)
      (nothingReceived : received = [])
      (nothingSent : sent = []) :
      Asking totalCount buffer session received sent failed
  | write {before : List UInt8} {length done : Nat}
      (outstanding : session.operation =
        some ⟨.write, 0, length, done, .write⟩)
      (bounded : done ≤ length)
      (asked : Asked totalCount buffer received
        (before ++ session.buffer.bytes.take length) session.data
        session.buffer.bytes)
      (written : sent = before ++ session.buffer.bytes.take done) :
      Asking totalCount buffer session received sent failed
  | head {consumed memory : List UInt8} {done : Nat}
      (outstanding : session.operation =
        some ⟨.read, 0, sizeofHeader, done, .readHead⟩)
      (asked : Asked totalCount buffer consumed sent session.data memory)
      (kept : session.buffer.bytes.drop done = memory.drop done)
      (stream : received = consumed ++ session.buffer.bytes.take done) :
      Asking totalCount buffer session received sent failed
  | body {consumed memory : List UInt8} {done : Nat}
      (outstanding : session.operation =
        some ⟨.read, sizeofHeader, session.header.getBodySize.toNat, done,
          .readBody⟩)
      (fits : session.header.getBodySize.toNat ≤ 10000)
      (asked : Asked totalCount buffer consumed sent session.data memory)
      (kept : session.buffer.bytes.drop (sizeofHeader + done) =
        memory.drop (sizeofHeader + done))
      (stream : received =
        consumed ++ session.buffer.bytes.take (sizeofHeader + done)) :
      Asking totalCount buffer session received sent failed
  | finished
      (idle : session.operation = none)
      (finished : session.data.finished = true)
      (whole : ∀ rest,
        conversation totalCount buffer (received ++ rest) = sent)
      (concluded : concludes totalCount received = true) :
      Asking totalCount buffer session received sent failed
  | failed
      (idle : session.operation = none)
      (unfinished : session.data.finished = false)
      (isPrefix : ∀ rest,
        sent <+: conversation totalCount buffer (received ++ rest))
      (hasFailed : failed) :
      Asking totalCount buffer session received sent failed

section Steps

variable {totalCount : UInt32} {session next : ClientSession}
  {buffer received sent consumed asked before memory : List UInt8}
  {failed : Prop} {action : Action}

theorem Asked.isPrefix
    (holds : Asked totalCount buffer consumed asked session.data memory)
    (partly rest : List UInt8) :
    asked <+: conversation totalCount buffer (consumed ++ partly ++ rest) := by
  rw [List.append_assoc, holds.sends]
  exact List.prefix_append _ _

/-- A failed operation leaves what was sent before. -/
theorem Asked.fails
    (holds : Asked totalCount buffer consumed asked session.data memory)
    (front : sent <+: asked) (partly : List UInt8) (hasFailed : failed) :
    Asking totalCount buffer { session with operation := none }
      (consumed ++ partly) sent failed :=
  .failed rfl holds.unfinished
    (fun rest => front.trans (holds.isPrefix partly rest)) hasFailed

theorem Asking.quiet
    (asking : Asking totalCount buffer next received sent failed)
    (noneReceived : Traffic.received [traffic action] = [])
    (noneSent : Traffic.sent [traffic action] = []) :
    Asking totalCount buffer next
      (received ++ Traffic.received [traffic action])
      (sent ++ Traffic.sent [traffic action]) failed := by
  rw [noneReceived, noneSent, List.append_nil, List.append_nil]
  exact asking

/-! What one step does in each phase. -/

theorem asking_connected
    (fields : session.data = initialFields totalCount)
    (contents : session.buffer.bytes = buffer) :
    Asking totalCount buffer (Session.connected session) [] [] failed := by
  have following : (Session.connected session).data =
      (initialFields totalCount).getBodyLen.2 := by
    rw [← fields]
    rfl
  have first : (Session.connected session).buffer.bytes =
      requestBuffer (initialFields totalCount) 1 buffer := by
    rw [Session.connected_buffer, fields, contents]
  refine .write (Session.connected_operation session) (Nat.zero_le _) ?_
    (List.append_nil []).symm
  rw [following, first, fields]
  exact ⟨rfl, rfl, fun _ => rfl, fun _ => rfl⟩

theorem connecting_step
    (outstanding : session.operation = some ⟨.establish, 0, 0, 0, .start⟩)
    (fields : session.data = initialFields totalCount)
    (contents : session.buffer.bytes = buffer)
    (taken : session.step callbacks action = some next) :
    Asking totalCount buffer next (Traffic.received [traffic action])
      (Traffic.sent [traffic action])
      (failed ∨ ∃ direction, action = .fail direction) := by
  rcases Connection.step_establish_cases outstanding rfl taken with
    ⟨rfl, _, rfl⟩ | ⟨rfl, _, rfl⟩
  · exact asking_connected fields contents
  · refine .failed rfl ?_ (fun _ => List.nil_prefix) (.inr ⟨_, rfl⟩)
    change session.data.finished = false
    rw [fields]
    rfl

theorem write_step {length done : Nat}
    (outstanding : session.operation =
      some ⟨.write, 0, length, done, .write⟩)
    (bounded : done ≤ length)
    (holds : Asked totalCount buffer received
      (before ++ session.buffer.bytes.take length) session.data
      session.buffer.bytes)
    (taken : session.step callbacks action = some next) :
    Asking totalCount buffer next
      (received ++ Traffic.received [traffic action])
      (before ++ session.buffer.bytes.take done ++
        Traffic.sent [traffic action])
      (failed ∨ ∃ direction, action = .fail direction) := by
  rcases Connection.step_write_cases outstanding rfl taken with
    ⟨chunk, rfl, _, _, room, content, rfl⟩ | ⟨rfl, complete, rfl⟩ |
      ⟨rfl, _, rfl⟩
  · rw [received_send, sent_send, List.append_nil]
    refine .write rfl room holds ?_
    rw [Nat.zero_add] at content
    rw [List.append_assoc]
    change before ++ (session.buffer.bytes.take done ++ chunk) =
      before ++ session.buffer.bytes.take (done + chunk.length)
    rw [List.take_add]
    exact congrArg (fun last => before ++
      (session.buffer.bytes.take done ++ last)) content.symm
  · change done = length at complete
    subst complete
    apply Asking.quiet _ rfl rfl
    exact .head (Session.readHead_operation _) holds rfl
      (List.append_nil _).symm
  · apply Asking.quiet _ rfl rfl
    have front : before ++ session.buffer.bytes.take done <+:
        before ++ session.buffer.bytes.take length :=
      (List.prefix_append_right_inj _).mpr
        (List.take_prefix_take_left bounded)
    have ended := holds.fails front []
      (.inr ⟨.write, rfl⟩ : failed ∨ ∃ direction,
        Action.fail .write = .fail direction)
    rw [List.append_nil] at ended
    exact ended

/-- A chunk of a reply overwrites what was kept in its place. -/
theorem kept_store {block : Memory maxBlockSize} {offset : Nat}
    {chunk : List UInt8} (fits : offset + chunk.length ≤ maxBlockSize)
    (kept : block.bytes.drop offset = memory.drop offset) :
    (block.store offset chunk fits).bytes.drop (offset + chunk.length) =
      memory.drop (offset + chunk.length) := by
  rw [Memory.drop_store, ← List.drop_drop, kept, List.drop_drop]

theorem head_step {done : Nat}
    (outstanding : session.operation =
      some ⟨.read, 0, sizeofHeader, done, .readHead⟩)
    (holds : Asked totalCount buffer consumed sent session.data memory)
    (kept : session.buffer.bytes.drop done = memory.drop done)
    (taken : session.step callbacks action = some next)
    (announced : ∀ header ∈ headersRead (session.observe action next),
      header.getBodySize.toNat ≤ 10000) :
    Asking totalCount buffer next
      (consumed ++ session.buffer.bytes.take done ++
        Traffic.received [traffic action])
      (sent ++ Traffic.sent [traffic action])
      (failed ∨ ∃ direction, action = .fail direction) := by
  rcases Connection.step_read_cases outstanding rfl taken with
    ⟨chunk, fits, rfl, _, _, _, rfl⟩ | ⟨rfl, whole, rfl⟩ | ⟨rfl, _, rfl⟩
  · rw [received_recv, sent_recv, List.append_nil]
    refine .head rfl holds ?_ ?_
    · have before : session.buffer.bytes.drop (0 + done) =
          memory.drop (0 + done) := by
        rw [Nat.zero_add]
        exact kept
      have overwritten := kept_store fits before
      simpa only [Nat.zero_add] using overwritten
    · rw [List.append_assoc]
      exact congrArg (consumed ++ ·)
        (session.buffer.take_store_zero_add done chunk fits).symm
  · change done = sizeofHeader at whole
    subst whole
    apply Asking.quiet _ rfl rfl
    have fits := header_announced outstanding announced
    exact .body rfl fits holds kept rfl
  · apply Asking.quiet _ rfl rfl
    exact holds.fails (List.prefix_refl _) _ (.inr ⟨_, rfl⟩)

/-- What a complete reply leads to. -/
theorem body_completes
    (fits : session.header.getBodySize.toNat ≤ 10000)
    (holds : Asked totalCount buffer consumed sent session.data memory)
    (kept : session.buffer.bytes.drop
        (sizeofHeader + session.header.getBodySize.toNat) =
      memory.drop (sizeofHeader + session.header.getBodySize.toNat)) :
    Asking totalCount buffer
      (callbacks.success .readBody session.header.getBodySize.toNat
        { session with operation := none })
      (consumed ++ session.buffer.bytes.take
        (sizeofHeader + session.header.getBodySize.toNat)) sent failed := by
  let message := session.buffer.bytes.take
    (sizeofHeader + session.header.getBodySize.toNat)
  obtain ⟨same, whole⟩ :=
    session.front_message fits (rfl : message = _)
  have held : message ++ memory.drop message.length =
      session.buffer.bytes := by
    rw [whole, same, ← kept]
    exact List.take_append_drop _ _
  change Asking totalCount buffer
    (if Session.checkCount { session with operation := none } = true then
      Session.finish { session with operation := none }
    else Session.next { session with operation := none })
    (consumed ++ message) sent failed
  split
  · rename_i checked
    have reached : session.data.totalCount ≤
        ntohl (Header.view message).packetCount := by
      rw [same]
      exact of_decide_eq_true checked
    refine .finished rfl rfl ?_ ?_
    · intro rest
      rw [List.append_assoc, holds.sends,
        requests_ended whole reached, List.append_nil]
    · have decided := holds.decides (message ++ [])
      rw [concludes_append whole, ← holds.count,
        decide_eq_true reached, Bool.true_or, List.append_nil,
        holds.count] at decided
      exact decided
  · rename_i checked
    have below : ¬session.data.totalCount ≤
        ntohl (Header.view message).packetCount := by
      rw [same]
      exact fun reached => checked (decide_eq_true reached)
    refine .write (Session.next_operation _) (Nat.zero_le _) ⟨?_, ?_, ?_, ?_⟩
      (List.append_nil _).symm
    · exact holds.count
    · exact holds.unfinished
    · intro rest
      rw [Session.next_buffer, List.append_assoc, holds.sends,
        requests_asked whole below, held, same]
      exact (List.append_assoc _ _ _).symm
    · intro rest
      rw [List.append_assoc, holds.decides,
        concludes_append whole, ← holds.count,
        decide_eq_false below, Bool.false_or]

theorem body_step {done : Nat}
    (outstanding : session.operation =
      some ⟨.read, sizeofHeader, session.header.getBodySize.toNat, done,
        .readBody⟩)
    (fits : session.header.getBodySize.toNat ≤ 10000)
    (holds : Asked totalCount buffer consumed sent session.data memory)
    (kept : session.buffer.bytes.drop (sizeofHeader + done) =
      memory.drop (sizeofHeader + done))
    (taken : session.step callbacks action = some next) :
    Asking totalCount buffer next
      (consumed ++ session.buffer.bytes.take (sizeofHeader + done) ++
        Traffic.received [traffic action])
      (sent ++ Traffic.sent [traffic action])
      (failed ∨ ∃ direction, action = .fail direction) := by
  rcases Connection.step_read_cases outstanding rfl taken with
    ⟨chunk, inside, rfl, _, _, _, rfl⟩ | ⟨rfl, whole, rfl⟩ | ⟨rfl, _, rfl⟩
  · rw [received_recv, sent_recv, List.append_nil]
    change sizeofHeader + done + chunk.length ≤ maxBlockSize at inside
    have header := header_store session.buffer (sizeofHeader + done) chunk
      inside (Nat.le_add_right _ _)
    refine @Asking.body _ _ _ _ _ _ consumed memory (done + chunk.length)
      ?_ ?_ holds ?_ ?_
    · exact congrArg (fun header : Header =>
        some (⟨.read, sizeofHeader, header.getBodySize.toNat,
          done + chunk.length, .readBody⟩ : Operation Handler)) header.symm
    · exact Nat.le_trans (Nat.le_of_eq
        (congrArg (fun header : Header => header.getBodySize.toNat) header))
        fits
    · rw [← Nat.add_assoc]
      exact kept_store inside kept
    · rw [← Nat.add_assoc, List.append_assoc]
      exact congrArg (consumed ++ ·)
        (session.buffer.take_store (sizeofHeader + done) chunk inside).symm
  · change done = session.header.getBodySize.toNat at whole
    subst whole
    apply Asking.quiet _ rfl rfl
    exact body_completes fits holds kept
  · apply Asking.quiet _ rfl rfl
    exact holds.fails (List.prefix_refl _) _ (.inr ⟨_, rfl⟩)

theorem Asking.step
    (asking : Asking totalCount buffer session received sent failed)
    (taken : session.step callbacks action = some next)
    (announced : ∀ header ∈ headersRead (session.observe action next),
      header.getBodySize.toNat ≤ 10000) :
    Asking totalCount buffer next
      (received ++ Traffic.received [traffic action])
      (sent ++ Traffic.sent [traffic action])
      (failed ∨ ∃ direction, action = .fail direction) := by
  cases asking with
  | connecting outstanding fields memory nothingReceived nothingSent =>
      subst nothingReceived nothingSent
      exact connecting_step outstanding fields memory taken
  | write outstanding bounded asked written =>
      subst written
      exact write_step outstanding bounded asked taken
  | head outstanding asked kept stream =>
      subst stream
      exact head_step outstanding asked kept taken announced
  | body outstanding fits asked kept stream =>
      subst stream
      exact body_step outstanding fits asked kept taken
  | finished idle =>
      rw [Connection.step_idle idle] at taken
      cases taken
  | failed idle =>
      rw [Connection.step_idle idle] at taken
      cases taken

theorem Asking.isPrefix
    (asking : Asking totalCount buffer session received sent failed)
    (rest : List UInt8) :
    sent <+: conversation totalCount buffer (received ++ rest) := by
  cases asking with
  | connecting _ _ _ _ nothingSent =>
      rw [nothingSent]
      exact List.nil_prefix
  | @write before length done _ bounded asked written =>
      have front : before ++ session.buffer.bytes.take done <+:
          before ++ session.buffer.bytes.take length :=
        (List.prefix_append_right_inj _).mpr
          (List.take_prefix_take_left bounded)
      rw [written, asked.sends]
      exact front.trans (List.prefix_append _ _)
  | head _ asked _ stream =>
      rw [stream]
      exact asked.isPrefix _ rest
  | body _ _ asked _ stream =>
      rw [stream]
      exact asked.isPrefix _ rest
  | finished _ _ whole _ =>
      exact ⟨[], (List.append_nil _).trans (whole rest).symm⟩
  | failed _ _ isPrefix _ => exact isPrefix rest

/-- A reply of which bytes are missing decides nothing. -/
theorem Asked.waits {partly : List UInt8}
    (holds : Asked totalCount buffer consumed asked session.data memory)
    (part : ¬Header.Whole partly) :
    asked = conversation totalCount buffer (consumed ++ partly) ∧
      session.data.finished = concludes totalCount (consumed ++ partly) := by
  rw [holds.sends, holds.decides, requests_of_not_whole part,
    concludes_of_not_whole part, List.append_nil]
  exact ⟨rfl, holds.unfinished⟩

theorem Asking.exact
    (asking : Asking totalCount buffer session received sent failed)
    (healthy : ¬failed)
    (waits : ∀ operation, session.operation = some operation →
      operation.direction = .read ∧
        operation.transferred < operation.length) :
    sent = conversation totalCount buffer received ∧
      session.data.finished = concludes totalCount received := by
  cases asking with
  | connecting outstanding =>
      have wrong := (waits _ outstanding).1
      cases wrong
  | write outstanding =>
      have wrong := (waits _ outstanding).1
      cases wrong
  | @head consumed memory done outstanding asked _ stream =>
      have short : done < sizeofHeader := (waits _ outstanding).2
      rw [stream]
      apply asked.waits
      intro whole
      rw [Header.Whole, List.length_take] at whole
      omega
  | @body consumed memory done outstanding _ asked _ stream =>
      have short : done < session.header.getBodySize.toNat :=
        (waits _ outstanding).2
      rw [stream]
      exact asked.waits (Header.not_whole_of_part short)
  | finished _ finished whole concluded =>
      have all := whole []
      rw [List.append_nil] at all
      exact ⟨all.symm, finished.trans concluded.symm⟩
  | failed _ _ _ hasFailed => exact absurd hasFailed healthy

theorem Asking.decided
    (asking : Asking totalCount buffer session received sent failed)
    (finished : session.data.finished = true) :
    concludes totalCount received = true ∧
      ∀ rest, sent = conversation totalCount buffer (received ++ rest) := by
  have unfinished : session.data.finished = false →
      concludes totalCount received = true ∧
        ∀ rest, sent =
          conversation totalCount buffer (received ++ rest) := by
    intro wrong
    rw [finished] at wrong
    cases wrong
  cases asking with
  | connecting _ fields =>
      apply unfinished
      rw [fields]
      rfl
  | write _ _ asked _ => exact unfinished asked.unfinished
  | head _ asked _ _ => exact unfinished asked.unfinished
  | body _ _ asked _ _ => exact unfinished asked.unfinished
  | finished _ _ whole concluded =>
      exact ⟨concluded, fun rest => (whole rest).symm⟩
  | failed _ wrong _ _ => exact unfinished wrong

end Steps

section Runs

variable {totalCount : UInt32} {buffer : Memory maxBlockSize}
  {session : ClientSession} {actions : List Action}

theorem run_asking
    {recorded : ClientSession × List (Event Handler)}
    (run : ((clientSystem totalCount).recording Connection.observe).Run
      (connecting totalCount buffer, []) actions recorded)
    (fits : ∀ header ∈ headersRead recorded.2,
      header.getBodySize.toNat ≤ 10000) :
    Asking totalCount buffer.bytes recorded.1
      (Traffic.received (actions.map traffic))
      (Traffic.sent (actions.map traffic))
      (∃ direction, .fail direction ∈ actions) := by
  induction run using System.Run.recorded_induction with
  | refl => exact .connecting rfl rfl rfl rfl rfl
  | snoc before moved induction =>
      rw [headersRead, List.filterMap_append, List.forall_mem_append] at fits
      obtain ⟨earlier, announced⟩ := fits
      rw [clientSystem_step] at moved
      rw [List.map_append, Traffic.received_append, Traffic.sent_append,
        propext exists_fail_snoc]
      exact (induction earlier).step moved announced

/-- As long as every header that `client3` has read announces a body that fits
into `buffer_`, in whatever chunks the bytes come: what it has sent is a front
of the requests that the replies call for, whatever else is received; a session
counts as finished only when a reply has reached the limit and all requests
before it have been sent; and when no operation has failed and the client can
only wait for more bytes, all requests have been sent, and it has finished if
a reply has reached the limit. -/
theorem sent_eq_requests {events : List (Event Handler)}
    (run : ((clientSystem totalCount).recording Connection.observe).Run
      (connecting totalCount buffer, []) actions (session, events))
    (fits : ∀ header ∈ headersRead events,
      header.getBodySize.toNat ≤ 10000) :
    let received := Traffic.received (actions.map traffic)
    let sent := Traffic.sent (actions.map traffic)
    (∀ rest, sent <+:
      conversation totalCount buffer.bytes (received ++ rest)) ∧
    (session.data.finished = true →
      concludes totalCount received = true ∧
        ∀ rest, sent =
          conversation totalCount buffer.bytes (received ++ rest)) ∧
    ((∀ direction, .fail direction ∉ actions) →
      (∀ operation, session.operation = some operation →
        operation.direction = .read ∧
          operation.transferred < operation.length) →
      sent = conversation totalCount buffer.bytes received ∧
        session.data.finished = concludes totalCount received) := by
  intro received sent
  have asking := run_asking run fits
  refine ⟨asking.isPrefix, asking.decided, ?_⟩
  intro healthy waits
  refine asking.exact ?_ waits
  rintro ⟨direction, failed⟩
  exact healthy direction failed

/-- A reply of one byte makes the client send the byte and 100 bytes that the
first request has left in `buffer_`. -/
theorem sent_eq_requests_stale :
    ∃ actions session events,
      ((clientSystem 3).recording Connection.observe).Run
        (connecting 3 (.filled maxBlockSize 9), []) actions
        (session, events) ∧
      Traffic.received (actions.map traffic) = [0, 0, 0, 1, 0, 0, 0, 2, 7] ∧
      conversation 3 (.filled maxBlockSize 9 : Memory maxBlockSize).bytes
          [0, 0, 0, 1, 0, 0, 0, 2, 7] =
        [0, 0, 0, 100, 0, 0, 0, 1] ++ List.replicate 100 9 ++
          [0, 0, 0, 101, 0, 0, 0, 3, 7] ++ List.replicate 100 9 := by
  let actions : List Action :=
    [.complete,
      .send ([0, 0, 0, 100, 0, 0, 0, 1] ++ List.replicate 100 9), .complete,
      .recv [0, 0, 0, 1, 0, 0, 0, 2], .complete, .recv [7], .complete,
      .send ([0, 0, 0, 101, 0, 0, 0, 3, 7] ++ List.replicate 100 9),
      .complete]
  have ends : (((clientSystem 3).recording Connection.observe).exec
      (connecting 3 (.filled maxBlockSize 9), []) actions).map
        (fun recorded =>
          (recorded.1.operation, headersRead recorded.2)) =
        some (some ⟨.read, 0, sizeofHeader, 0, .readHead⟩,
          [⟨⟨0, 0, 0, 1⟩, ⟨0, 0, 0, 2⟩⟩]) := by
    decide +kernel
  obtain ⟨⟨session, events⟩, moved, rest⟩ := Option.map_eq_some_iff.mp ends
  obtain ⟨outstanding, headers⟩ := Prod.mk.inj rest
  have run := System.run_iff_exec.mpr moved
  have fits : ∀ header ∈ headersRead events,
      header.getBodySize.toNat ≤ 10000 := by
    rw [headers, List.forall_mem_singleton]
    decide
  have healthy : ∀ direction, .fail direction ∉ actions := by
    intro direction
    simp [actions]
  have waits : ∀ operation, session.operation = some operation →
      operation.direction = .read ∧
        operation.transferred < operation.length := by
    intro operation same
    rw [outstanding] at same
    cases same
    exact ⟨rfl, by decide⟩
  have sent := ((sent_eq_requests run fits).2.2 healthy waits).1
  refine ⟨actions, session, events, run, rfl, ?_⟩
  have received : Traffic.received (actions.map traffic) =
      [0, 0, 0, 1, 0, 0, 0, 2, 7] := rfl
  rw [← received, ← sent]
  simp [actions, Traffic.sent, traffic]

end Runs

end Client3

end AsioBenchmark.Framed
