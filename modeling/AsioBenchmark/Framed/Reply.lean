import AsioBenchmark.Framed.RangeSafety

/-!
# `server3` as a function of its input

A peer of `server3` may send its bytes in any chunks.  What it gets back does
not depend on the chunks: as long as the announced bodies fit into `buffer_`, it
is a function of the bytes alone, which takes one message after the other off
the front of the stream.
-/

namespace AsioBenchmark.Framed

open AsioBenchmark.Bytes AsioBenchmark.Stream AsioBenchmark.Transition

/-! ## The function -/

/-- A header with all of the body it announces. -/
def Header.Whole (stream : List UInt8) : Prop :=
  sizeofHeader + (Header.view stream).getBodySize.toNat ≤ stream.length

instance (stream : List UInt8) : Decidable (Header.Whole stream) :=
  inferInstanceAs (Decidable (_ ≤ _))

namespace Server3

/-- The replies to a stream of requests whose bodies fit into `buffer_`.  A
request whose count has reached the limit is not answered, and a reply that
reaches it is the last. -/
def respond (totalCount : UInt32) (stream : List UInt8) : List UInt8 :=
  if Header.Whole stream then
    let request := Header.view stream
    let size := request.getBodySize.toNat
    let reply := request.incPacketCount
    if totalCount ≤ ntohl request.packetCount then []
    else
      reply.bytes ++ (stream.drop sizeofHeader).take size ++
        if totalCount ≤ ntohl reply.packetCount then []
        else respond totalCount (stream.drop (sizeofHeader + size))
  else []
termination_by stream.length
decreasing_by
  rename_i whole _ _
  simp only [Header.Whole, sizeofHeader] at whole
  simp only [List.length_drop, sizeofHeader]
  omega

end Server3

theorem Header.not_whole_of_part {memory : List UInt8} {done : Nat}
    (part : done < (Header.view memory).getBodySize.toNat) :
    ¬Header.Whole (memory.take (sizeofHeader + done)) := by
  intro whole
  rw [Header.Whole, Header.view_take _ _ (Nat.le_add_right _ _),
    List.length_take] at whole
  omega

theorem Header.view_append {front : List UInt8} (rest : List UInt8)
    (covers : sizeofHeader ≤ front.length) :
    Header.view (front ++ rest) = Header.view front := by
  rw [← Header.view_take (front ++ rest) sizeofHeader (Nat.le_refl _),
    List.take_append_of_le_length covers,
    Header.view_take _ _ (Nat.le_refl _)]

/-- The front of `buffer_` that a header announces is a message. -/
theorem Session.front_message {Data : Type} (session : Session Data)
    (fits : session.header.getBodySize.toNat ≤ 10000) {message : List UInt8}
    (front : message = session.buffer.bytes.take
      (sizeofHeader + session.header.getBodySize.toNat)) :
    Header.view message = session.header ∧
      message.length =
        sizeofHeader + (Header.view message).getBodySize.toNat := by
  have same : Header.view message = session.header := by
    rw [front]
    exact Header.view_take _ _ (Nat.le_add_right _ _)
  have length : message.length =
      sizeofHeader + session.header.getBodySize.toNat := by
    rw [front, List.length_take, session.buffer.length_eq]
    apply Nat.min_eq_left
    simp only [maxBlockSize]
    omega
  rw [same]
  exact ⟨rfl, length⟩

theorem header_announced {Data : Type} {session next : Session Data}
    {done : Nat}
    (outstanding : session.operation =
      some ⟨.read, 0, sizeofHeader, done, .readHead⟩)
    (announced : ∀ header ∈ headersRead (session.observe .complete next),
      header.getBodySize.toNat ≤ 10000) :
    session.header.getBodySize.toNat ≤ 10000 := by
  have same : Header.view (session.buffer.slice 0 sizeofHeader) =
      session.header := Header.view_take _ _ (Nat.le_refl _)
  rw [headersRead_observe outstanding, if_pos ⟨rfl, rfl⟩,
    List.forall_mem_singleton, same] at announced
  exact announced

/-! What the actions move. -/

theorem received_recv (chunk : List UInt8) :
    Traffic.received [traffic (.recv chunk)] = chunk := by
  simp [Traffic.received, traffic]

theorem sent_recv (chunk : List UInt8) :
    Traffic.sent [traffic (.recv chunk)] = [] := rfl

theorem received_send (chunk : List UInt8) :
    Traffic.received [traffic (.send chunk)] = [] := rfl

theorem sent_send (chunk : List UInt8) :
    Traffic.sent [traffic (.send chunk)] = chunk := by
  simp [Traffic.sent, traffic]

theorem exists_fail_snoc {actions : List Action} {action : Action} :
    (∃ direction, .fail direction ∈ actions ++ [action]) ↔
      (∃ direction, .fail direction ∈ actions) ∨
        ∃ direction, action = .fail direction := by
  simp only [List.mem_append, List.mem_singleton, exists_or, eq_comm]

namespace Server3

section Respond

variable {totalCount : UInt32} {front rest : List UInt8}

/-- Nothing is answered before the first message is whole. -/
theorem respond_of_not_whole (part : ¬Header.Whole front) :
    respond totalCount front = [] := by
  rw [respond, if_neg part]

theorem respond_of_short (short : front.length < sizeofHeader) :
    respond totalCount front = [] := by
  apply respond_of_not_whole
  intro whole
  rw [Header.Whole] at whole
  omega

section Message

variable (exact : front.length =
  sizeofHeader + (Header.view front).getBodySize.toNat)

include exact

/-- The first message of a stream decides how the replies begin. -/
theorem respond_append :
    respond totalCount (front ++ rest) =
      let request := Header.view front
      if totalCount ≤ ntohl request.packetCount then []
      else
        request.incPacketCount.bytes ++ front.drop sizeofHeader ++
          if totalCount ≤ ntohl request.incPacketCount.packetCount then []
          else respond totalCount rest := by
  have covers : sizeofHeader ≤ front.length := by omega
  have same := Header.view_append rest covers
  have whole : Header.Whole (front ++ rest) := by
    rw [Header.Whole, same, List.length_append]
    omega
  have body : ((front ++ rest).drop sizeofHeader).take
      (Header.view front).getBodySize.toNat = front.drop sizeofHeader := by
    rw [List.drop_append_of_le_length covers]
    apply List.take_left'
    rw [List.length_drop]
    omega
  have remaining : (front ++ rest).drop
      (sizeofHeader + (Header.view front).getBodySize.toNat) = rest :=
    List.drop_left' exact
  rw [respond, if_pos whole]
  simp only [same, body, remaining]

/-- A request that reaches the limit ends the replies. -/
theorem respond_refused
    (reached : totalCount ≤ ntohl (Header.view front).packetCount) :
    respond totalCount (front ++ rest) = [] := by
  rw [respond_append exact]
  simp only [if_pos reached]

theorem respond_answered
    (below : ¬totalCount ≤ ntohl (Header.view front).packetCount) :
    respond totalCount (front ++ rest) =
      ((Header.view front).incPacketCount.bytes ++
          front.drop sizeofHeader) ++
        if totalCount ≤
            ntohl (Header.view front).incPacketCount.packetCount then []
        else respond totalCount rest := by
  rw [respond_append exact]
  simp only [if_neg below]

end Message

end Respond

/-! ## The session -/

/-- The bytes `consumed` are answered by `answers`, whatever follows them. -/
def Answered (totalCount : UInt32) (consumed answers : List UInt8) : Prop :=
  ∀ rest, respond totalCount (consumed ++ rest) =
    answers ++ respond totalCount rest

/-- The messages before the current one have been answered; the front of
`buffer_` holds what has been received of it, or the reply that is being
written. -/
inductive Serving (totalCount : UInt32) (session : ServerSession)
    (received sent : List UInt8) (failed : Prop) : Prop where
  | accepting
      (outstanding : session.operation = some ⟨.establish, 0, 0, 0, .start⟩)
      (nothingReceived : received = [])
      (nothingSent : sent = []) : Serving totalCount session received sent
        failed
  | head {consumed : List UInt8} {done : Nat}
      (outstanding : session.operation =
        some ⟨.read, 0, sizeofHeader, done, .readHead⟩)
      (bounded : done ≤ sizeofHeader)
      (answered : Answered totalCount consumed sent)
      (stream : received = consumed ++ session.buffer.bytes.take done) :
      Serving totalCount session received sent failed
  | body {consumed : List UInt8} {done : Nat}
      (outstanding : session.operation =
        some ⟨.read, sizeofHeader, session.header.getBodySize.toNat, done,
          .readBody⟩)
      (fits : session.header.getBodySize.toNat ≤ 10000)
      (answered : Answered totalCount consumed sent)
      (stream : received =
        consumed ++ session.buffer.bytes.take (sizeofHeader + done)) :
      Serving totalCount session received sent failed
  | write {consumed answers message : List UInt8} {done : Nat}
      (outstanding : session.operation =
        some ⟨.write, 0, message.length, done, .write⟩)
      (bounded : done ≤ message.length)
      (answered : Answered totalCount consumed answers)
      (whole : message.length =
        sizeofHeader + (Header.view message).getBodySize.toNat)
      (below : ¬totalCount ≤ ntohl (Header.view message).packetCount)
      (reply : session.buffer.bytes.take message.length =
        (Header.view message).incPacketCount.bytes ++
          message.drop sizeofHeader)
      (stream : received = consumed ++ message)
      (written : sent = answers ++ session.buffer.bytes.take done) :
      Serving totalCount session received sent failed
  | stopped
      (idle : session.operation = none)
      (isPrefix : ∀ rest, sent <+: respond totalCount (received ++ rest))
      (whole : ¬failed → sent = respond totalCount received) :
      Serving totalCount session received sent failed

section Steps

variable {totalCount : UInt32} {session next : ServerSession}
  {received sent consumed answers : List UInt8} {failed : Prop}
  {action : Action}

theorem Answered.isPrefix (answered : Answered totalCount consumed sent)
    (partly : List UInt8) (rest : List UInt8) :
    sent <+: respond totalCount (consumed ++ partly ++ rest) := by
  rw [List.append_assoc, answered]
  exact List.prefix_append _ _

theorem Answered.exact (answered : Answered totalCount consumed sent)
    {partly : List UInt8} (nothing : respond totalCount partly = []) :
    sent = respond totalCount (consumed ++ partly) := by
  rw [answered, nothing, List.append_nil]

theorem Answered.fails (answered : Answered totalCount consumed sent)
    (partly : List UInt8) (idle : next.operation = none)
    (hasFailed : failed) :
    Serving totalCount next (consumed ++ partly) sent failed :=
  .stopped idle (answered.isPrefix partly) fun healthy =>
    absurd hasFailed healthy

theorem Serving.quiet (serving : Serving totalCount next received sent failed)
    (noneReceived : Traffic.received [traffic action] = [])
    (noneSent : Traffic.sent [traffic action] = []) :
    Serving totalCount next (received ++ Traffic.received [traffic action])
      (sent ++ Traffic.sent [traffic action]) failed := by
  rw [noneReceived, noneSent, List.append_nil, List.append_nil]
  exact serving

/-! What one step does in each phase. -/

theorem accepting_step
    (outstanding : session.operation = some ⟨.establish, 0, 0, 0, .start⟩)
    (taken : session.step callbacks action = some next) :
    Serving totalCount next (Traffic.received [traffic action])
      (Traffic.sent [traffic action])
      (failed ∨ ∃ direction, action = .fail direction) := by
  have nothing : Answered totalCount [] [] := fun _ => rfl
  rcases Connection.step_establish_cases outstanding rfl taken with
    ⟨rfl, _, rfl⟩ | ⟨rfl, _, rfl⟩
  · exact .head (Session.readHead_operation _) (Nat.zero_le _) nothing rfl
  · exact nothing.fails [] rfl (.inr ⟨_, rfl⟩)

theorem head_step {done : Nat}
    (outstanding : session.operation =
      some ⟨.read, 0, sizeofHeader, done, .readHead⟩)
    (answered : Answered totalCount consumed sent)
    (taken : session.step callbacks action = some next)
    (announced : ∀ header ∈ headersRead (session.observe action next),
      header.getBodySize.toNat ≤ 10000) :
    Serving totalCount next
      (consumed ++ session.buffer.bytes.take done ++
        Traffic.received [traffic action])
      (sent ++ Traffic.sent [traffic action])
      (failed ∨ ∃ direction, action = .fail direction) := by
  rcases Connection.step_read_cases outstanding rfl taken with
    ⟨chunk, fits, rfl, _, _, room, rfl⟩ | ⟨rfl, whole, rfl⟩ | ⟨rfl, _, rfl⟩
  · rw [received_recv, sent_recv, List.append_nil]
    refine .head rfl room answered ?_
    rw [List.append_assoc]
    exact congrArg (consumed ++ ·)
      (session.buffer.take_store_zero_add done chunk fits).symm
  · change done = sizeofHeader at whole
    subst whole
    apply Serving.quiet _ rfl rfl
    have fits := header_announced outstanding announced
    exact .body rfl fits answered rfl
  · apply Serving.quiet _ rfl rfl
    exact answered.fails _ rfl (.inr ⟨_, rfl⟩)

/-- What a complete request leads to. -/
theorem body_completes
    (count : session.data.totalCount = totalCount)
    (fits : session.header.getBodySize.toNat ≤ 10000)
    (answered : Answered totalCount consumed sent) :
    Serving totalCount
      (callbacks.success .readBody session.header.getBodySize.toNat
        { session with operation := none })
      (consumed ++ session.buffer.bytes.take
        (sizeofHeader + session.header.getBodySize.toNat)) sent failed := by
  let message := session.buffer.bytes.take
    (sizeofHeader + session.header.getBodySize.toNat)
  obtain ⟨same, whole⟩ :=
    session.front_message fits (rfl : message = _)
  have length : message.length =
      sizeofHeader + session.header.getBodySize.toNat := by
    rw [← same]
    exact whole
  have checked : Session.checkCount { session with operation := none } =
      decide (totalCount ≤ ntohl (Header.view message).packetCount) := by
    rw [same, ← count]
    rfl
  change Serving totalCount
    (if Session.checkCount { session with operation := none } = true then
      { session with operation := none }.close
    else Session.write { session with operation := none })
    (consumed ++ message) sent failed
  rw [checked]
  split
  · rename_i reached
    have refused := fun rest : List UInt8 =>
      @respond_refused totalCount message rest whole
        (of_decide_eq_true reached)
    refine .stopped rfl (answered.isPrefix message) fun _ => ?_
    apply answered.exact
    simpa using refused []
  · rename_i below
    have fullSize : bufferRange session.header.getFullSize.toNat =
        message.length := by
      have full : session.header.getFullSize.toNat =
          sizeofHeader + session.header.getBodySize.toNat := by
        apply Header.getFullSize_toNat
        simp only [sizeofHeader]
        omega
      rw [full, ← length]
      apply bufferRange_of_le
      rw [length]
      simp only [maxBlockSize]
      omega
    refine .write ?_ (Nat.zero_le _) answered whole
      (fun reached => below (decide_eq_true reached)) ?_ rfl ?_
    · rw [Session.write_operation]
      exact congrArg (fun length => some (⟨.write, 0, length, 0, .write⟩ :
        Operation Handler)) fullSize
    · change (Framed.Session.setHeader { session with operation := none }
        session.header.incPacketCount).buffer.bytes.take message.length = _
      rw [Framed.Session.setHeader_bytes, same, length, List.drop_take,
        Nat.add_sub_cancel_left]
      exact @List.take_length_add_append UInt8
        session.header.incPacketCount.bytes _ _
    · simp

theorem body_step {done : Nat}
    (count : session.data.totalCount = totalCount)
    (outstanding : session.operation =
      some ⟨.read, sizeofHeader, session.header.getBodySize.toNat, done,
        .readBody⟩)
    (fits : session.header.getBodySize.toNat ≤ 10000)
    (answered : Answered totalCount consumed sent)
    (taken : session.step callbacks action = some next) :
    Serving totalCount next
      (consumed ++ session.buffer.bytes.take (sizeofHeader + done) ++
        Traffic.received [traffic action])
      (sent ++ Traffic.sent [traffic action])
      (failed ∨ ∃ direction, action = .fail direction) := by
  rcases Connection.step_read_cases outstanding rfl taken with
    ⟨chunk, inside, rfl, _, _, _, rfl⟩ | ⟨rfl, whole, rfl⟩ | ⟨rfl, _, rfl⟩
  · rw [received_recv, sent_recv, List.append_nil]
    change sizeofHeader + done + chunk.length ≤ maxBlockSize at inside
    have header := header_store session.buffer (sizeofHeader + done) chunk
      inside (Nat.le_add_right _ _)
    refine @Serving.body _ _ _ _ _ consumed (done + chunk.length) ?_ ?_
      answered ?_
    · exact congrArg (fun header : Header =>
        some (⟨.read, sizeofHeader, header.getBodySize.toNat,
          done + chunk.length, .readBody⟩ : Operation Handler)) header.symm
    · exact Nat.le_trans (Nat.le_of_eq
        (congrArg (fun header : Header => header.getBodySize.toNat) header))
        fits
    · rw [← Nat.add_assoc, List.append_assoc]
      exact congrArg (consumed ++ ·)
        (session.buffer.take_store (sizeofHeader + done) chunk inside).symm
  · change done = session.header.getBodySize.toNat at whole
    subst whole
    apply Serving.quiet _ rfl rfl
    exact body_completes count fits answered
  · apply Serving.quiet _ rfl rfl
    exact answered.fails _ rfl (.inr ⟨_, rfl⟩)

/-- A reply that has been written answers its request. -/
theorem Answered.extend {message : List UInt8}
    (answered : Answered totalCount consumed answers)
    (whole : message.length =
      sizeofHeader + (Header.view message).getBodySize.toNat)
    (below : ¬totalCount ≤ ntohl (Header.view message).packetCount)
    (rest : List UInt8) :
    respond totalCount (consumed ++ message ++ rest) =
      answers ++ ((Header.view message).incPacketCount.bytes ++
          message.drop sizeofHeader) ++
        if totalCount ≤
            ntohl (Header.view message).incPacketCount.packetCount then []
        else respond totalCount rest := by
  rw [List.append_assoc, answered, respond_answered whole below,
    List.append_assoc answers]

theorem Answered.written {message : List UInt8} {done : Nat}
    (answered : Answered totalCount consumed answers)
    (bounded : done ≤ message.length)
    (whole : message.length =
      sizeofHeader + (Header.view message).getBodySize.toNat)
    (below : ¬totalCount ≤ ntohl (Header.view message).packetCount)
    (reply : session.buffer.bytes.take message.length =
      (Header.view message).incPacketCount.bytes ++
        message.drop sizeofHeader)
    (rest : List UInt8) :
    answers ++ session.buffer.bytes.take done <+:
      respond totalCount (consumed ++ message ++ rest) := by
  have front : session.buffer.bytes.take done <+:
      (Header.view message).incPacketCount.bytes ++
        message.drop sizeofHeader := by
    rw [← reply]
    exact List.take_prefix_take_left bounded
  rw [answered.extend whole below]
  exact ((List.prefix_append_right_inj answers).mpr front).trans
    (List.prefix_append _ _)

/-- What a complete reply leads to. -/
theorem write_completes {message : List UInt8}
    (count : session.data.totalCount = totalCount)
    (whole : message.length =
      sizeofHeader + (Header.view message).getBodySize.toNat)
    (reply : session.buffer.bytes.take message.length =
      (Header.view message).incPacketCount.bytes ++
        message.drop sizeofHeader)
    (extended : ∀ rest, respond totalCount (consumed ++ message ++ rest) =
      answers ++ ((Header.view message).incPacketCount.bytes ++
          message.drop sizeofHeader) ++
        if totalCount ≤
            ntohl (Header.view message).incPacketCount.packetCount then []
        else respond totalCount rest) :
    Serving totalCount
      (callbacks.success .write message.length
        { session with operation := none })
      (consumed ++ message)
      (answers ++ ((Header.view message).incPacketCount.bytes ++
        message.drop sizeofHeader)) failed := by
  have header : session.header = (Header.view message).incPacketCount := by
    rw [Framed.Session.header,
      ← Header.view_take _ message.length (by omega), reply,
      Header.view_bytes_append]
  have checked : Session.checkCount { session with operation := none } =
      decide (totalCount ≤
        ntohl (Header.view message).incPacketCount.packetCount) := by
    rw [← header, ← count]
    rfl
  change Serving totalCount
    (if Session.checkCount { session with operation := none } = true then
      { session with operation := none }.close
    else Session.readHead { session with operation := none }) _ _ failed
  rw [checked]
  split
  · rename_i reached
    have last := of_decide_eq_true reached
    refine .stopped rfl ?_ ?_
    · intro rest
      rw [extended, if_pos last]
      exact List.prefix_append _ _
    · intro _
      have same := extended []
      rw [if_pos last, List.append_nil, List.append_nil] at same
      exact same.symm
  · rename_i goesOn
    refine .head (Session.readHead_operation _) (Nat.zero_le _) ?_
      (List.append_nil _).symm
    intro rest
    rw [extended, if_neg fun reached => goesOn (decide_eq_true reached)]

theorem write_step {message : List UInt8} {done : Nat}
    (count : session.data.totalCount = totalCount)
    (outstanding : session.operation =
      some ⟨.write, 0, message.length, done, .write⟩)
    (bounded : done ≤ message.length)
    (answered : Answered totalCount consumed answers)
    (whole : message.length =
      sizeofHeader + (Header.view message).getBodySize.toNat)
    (below : ¬totalCount ≤ ntohl (Header.view message).packetCount)
    (reply : session.buffer.bytes.take message.length =
      (Header.view message).incPacketCount.bytes ++
        message.drop sizeofHeader)
    (taken : session.step callbacks action = some next) :
    Serving totalCount next
      (consumed ++ message ++ Traffic.received [traffic action])
      (answers ++ session.buffer.bytes.take done ++
        Traffic.sent [traffic action])
      (failed ∨ ∃ direction, action = .fail direction) := by
  have extended := answered.extend whole below
  rcases Connection.step_write_cases outstanding rfl taken with
    ⟨chunk, rfl, _, _, room, content, rfl⟩ | ⟨rfl, complete, rfl⟩ |
      ⟨rfl, _, rfl⟩
  · rw [received_send, sent_send, List.append_nil]
    refine .write rfl room answered whole below reply rfl ?_
    rw [Nat.zero_add] at content
    rw [List.append_assoc]
    change answers ++ (session.buffer.bytes.take done ++ chunk) =
      answers ++ session.buffer.bytes.take (done + chunk.length)
    rw [List.take_add]
    exact congrArg (fun last => answers ++
      (session.buffer.bytes.take done ++ last)) content.symm
  · change done = message.length at complete
    subst complete
    apply Serving.quiet _ rfl rfl
    rw [reply]
    exact write_completes count whole reply extended
  · apply Serving.quiet _ rfl rfl
    refine .stopped rfl ?_ fun healthy => absurd (.inr ⟨_, rfl⟩) healthy
    exact answered.written bounded whole below reply

theorem Serving.step
    (serving : Serving totalCount session received sent failed)
    (count : session.data.totalCount = totalCount)
    (taken : session.step callbacks action = some next)
    (announced : ∀ header ∈ headersRead (session.observe action next),
      header.getBodySize.toNat ≤ 10000) :
    Serving totalCount next (received ++ Traffic.received [traffic action])
      (sent ++ Traffic.sent [traffic action])
      (failed ∨ ∃ direction, action = .fail direction) := by
  cases serving with
  | accepting outstanding nothingReceived nothingSent =>
      subst nothingReceived nothingSent
      exact accepting_step outstanding taken
  | head outstanding _ answered stream =>
      subst stream
      exact head_step outstanding answered taken announced
  | body outstanding fits answered stream =>
      subst stream
      exact body_step count outstanding fits answered taken
  | write outstanding bounded answered whole below reply stream written =>
      subst stream written
      exact write_step count outstanding bounded answered whole below reply
        taken
  | stopped idle =>
      rw [Connection.step_idle idle] at taken
      cases taken

theorem Serving.isPrefix
    (serving : Serving totalCount session received sent failed)
    (rest : List UInt8) :
    sent <+: respond totalCount (received ++ rest) := by
  cases serving with
  | accepting _ _ nothingSent =>
      rw [nothingSent]
      exact List.nil_prefix
  | head _ _ answered stream =>
      rw [stream]
      exact answered.isPrefix _ rest
  | body _ _ answered stream =>
      rw [stream]
      exact answered.isPrefix _ rest
  | write _ bounded answered whole below reply stream written =>
      rw [stream, written]
      exact answered.written bounded whole below reply rest
  | stopped _ isPrefix _ => exact isPrefix rest

theorem Serving.exact
    (serving : Serving totalCount session received sent failed)
    (healthy : ¬failed)
    (waits : ∀ operation, session.operation = some operation →
      operation.direction = .read ∧
        operation.transferred < operation.length) :
    sent = respond totalCount received := by
  cases serving with
  | accepting outstanding =>
      have wrong := (waits _ outstanding).1
      cases wrong
  | @head consumed done outstanding _ answered stream =>
      have part : done < sizeofHeader := (waits _ outstanding).2
      rw [stream]
      apply answered.exact
      apply respond_of_short
      rw [List.length_take]
      omega
  | body outstanding _ answered stream =>
      rw [stream]
      exact answered.exact (respond_of_not_whole
        (Header.not_whole_of_part (waits _ outstanding).2))
  | write outstanding =>
      have wrong := (waits _ outstanding).1
      cases wrong
  | stopped _ _ whole => exact whole healthy

theorem step_data (taken : session.step callbacks action = some next) :
    next.data = session.data := by
  cases outstanding : session.operation with
  | none =>
      rw [Connection.step_idle outstanding] at taken
      cases taken
  | some operation =>
      rcases Connection.step_cases outstanding taken with
        ⟨chunk, _, moved⟩ | ⟨chunk, _, moved⟩ | ⟨_, _, rfl⟩ | ⟨_, _, rfl⟩
      · obtain ⟨_, _, _, _, _, rfl⟩ := Connection.recv_eq_some_iff.mp moved
        rfl
      · obtain ⟨_, _, _, _, _, _, rfl⟩ :=
          Connection.send_eq_some_iff.mp moved
        rfl
      · cases operation.handler with
        | start => rfl
        | readHead => rfl
        | write =>
            change (if Session.checkCount { session with operation := none }
              then _ else _ : ServerSession).data = _
            split
            · rfl
            · rfl
        | readBody =>
            change (if Session.checkCount { session with operation := none }
              then _ else _ : ServerSession).data = _
            split
            · rfl
            · rfl
      · rfl

end Steps

section Runs

variable {totalCount : UInt32} {buffer : Memory maxBlockSize}
  {session : ServerSession} {actions : List Action}

theorem run_serving
    {recorded : ServerSession × List (Event Handler)}
    (run : ((serverSystem totalCount).recording Connection.observe).Run
      (accepting totalCount buffer, []) actions recorded)
    (fits : ∀ header ∈ headersRead recorded.2,
      header.getBodySize.toNat ≤ 10000) :
    recorded.1.data.totalCount = totalCount ∧
      Serving totalCount recorded.1 (Traffic.received (actions.map traffic))
        (Traffic.sent (actions.map traffic))
        (∃ direction, .fail direction ∈ actions) := by
  induction run using System.Run.recorded_induction with
  | refl => exact ⟨rfl, .accepting rfl rfl rfl⟩
  | snoc before moved induction =>
      rw [headersRead, List.filterMap_append, List.forall_mem_append] at fits
      obtain ⟨earlier, announced⟩ := fits
      obtain ⟨count, serving⟩ := induction earlier
      rw [serverSystem_step] at moved
      refine ⟨by rw [step_data moved, count], ?_⟩
      rw [List.map_append, Traffic.received_append, Traffic.sent_append,
        propext exists_fail_snoc]
      exact serving.step count moved announced

/-- As long as every header that `server3` has read announces a body that fits
into `buffer_`, in whatever chunks the bytes come: what it has sent is a front
of the replies to what it has received, however the stream goes on; and it is
all of them when no operation has failed and the server can only wait for more
bytes. -/
theorem sent_eq_respond {events : List (Event Handler)}
    (run : ((serverSystem totalCount).recording Connection.observe).Run
      (accepting totalCount buffer, []) actions (session, events))
    (fits : ∀ header ∈ headersRead events,
      header.getBodySize.toNat ≤ 10000) :
    (∀ rest, Traffic.sent (actions.map traffic) <+:
      respond totalCount (Traffic.received (actions.map traffic) ++ rest)) ∧
    ((∀ direction, .fail direction ∉ actions) →
      (∀ operation, session.operation = some operation →
        operation.direction = .read ∧
          operation.transferred < operation.length) →
      Traffic.sent (actions.map traffic) =
        respond totalCount (Traffic.received (actions.map traffic))) := by
  obtain ⟨_, serving⟩ := run_serving run fits
  refine ⟨serving.isPrefix, ?_⟩
  intro healthy waits
  refine serving.exact ?_ waits
  rintro ⟨direction, failed⟩
  exact healthy direction failed

/-- A request with a body of two bytes comes back with the next count. -/
theorem sent_eq_respond_two :
    ∃ actions session events,
      ((serverSystem 4).recording Connection.observe).Run
        (accepting 4 (.filled maxBlockSize 0), []) actions
        (session, events) ∧
      Traffic.received (actions.map traffic) =
        [0, 0, 0, 2, 0, 0, 0, 1, 7, 8] ∧
      Traffic.sent (actions.map traffic) = [0, 0, 0, 2, 0, 0, 0, 2, 7, 8] ∧
      respond 4 [0, 0, 0, 2, 0, 0, 0, 1, 7, 8] =
        [0, 0, 0, 2, 0, 0, 0, 2, 7, 8] := by
  let actions : List Action :=
    [.complete, .recv [0, 0, 0], .recv [2, 0, 0, 0, 1], .complete,
      .recv [7], .recv [8], .complete, .send [0, 0, 0, 2, 0],
      .send [0, 0, 2, 7, 8], .complete]
  have ends : (((serverSystem 4).recording Connection.observe).exec
      (accepting 4 (.filled maxBlockSize 0), []) actions).map
        (fun recorded =>
          (recorded.1.operation, headersRead recorded.2)) =
        some (some ⟨.read, 0, sizeofHeader, 0, .readHead⟩,
          [⟨⟨0, 0, 0, 2⟩, ⟨0, 0, 0, 1⟩⟩]) := by
    decide +kernel
  obtain ⟨⟨session, events⟩, moved, rest⟩ := Option.map_eq_some_iff.mp ends
  obtain ⟨outstanding, headers⟩ := Prod.mk.inj rest
  have run := System.run_iff_exec.mpr moved
  have fits : ∀ header ∈ headersRead events,
      header.getBodySize.toNat ≤ 10000 := by
    rw [headers, List.forall_mem_singleton]
    decide
  have healthy : ∀ direction, .fail direction ∉ actions := by
    intro direction
    simp [actions]
  have waits : ∀ operation, session.operation = some operation →
      operation.direction = .read ∧
        operation.transferred < operation.length := by
    intro operation same
    rw [outstanding] at same
    cases same
    decide
  exact ⟨actions, session, events, run, rfl, rfl,
    ((sent_eq_respond run fits).2 healthy waits).symm⟩

end Runs

end Server3

end AsioBenchmark.Framed
