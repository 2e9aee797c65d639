import AsioBenchmark.Framed.Session

/-!
# Where the framed sessions read and write

The size of a body is taken from the wire and handed to `async_read` without
a check.  This file shows that nothing else can go wrong: in a run of either
session against an arbitrary peer, every range lies inside `buffer_` exactly
when every header that was read announces a body of at most 10000 bytes.
-/

namespace AsioBenchmark.Framed

open AsioBenchmark.Bytes AsioBenchmark.Stream AsioBenchmark.Transition

variable {Data : Type}

/-- The range of the outstanding operation lies inside `buffer_`, and a write
covers `[0, get_full_size())` with `get_full_size()` not wrapped. -/
def RangesInside (session : Session Data) : Prop :=
  ∀ operation, session.operation = some operation →
    operation.offset + operation.length ≤ maxBlockSize ∧
      (operation.handler = .write →
        operation.offset = 0 ∧
          operation.length = session.header.getFullSize.toNat ∧
          session.header.getFullSize.toNat =
            sizeofHeader + session.header.getBodySize.toNat)

/-- The headers a session has finished reading. -/
def headersRead : List (Event Handler) → List Header :=
  List.filterMap fun
    | .finished .readHead bytes => some (Header.view bytes)
    | _ => none

/-- The body announced by a header fits behind it. -/
def Header.Fits (header : Header) : Prop :=
  header.getBodySize.toNat ≤ 10000

instance (header : Header) : Decidable header.Fits :=
  inferInstanceAs (Decidable (_ ≤ _))

/-- What a handler leaves behind: nothing outstanding, a header to be read, or
a message of admissible size to be written. -/
inductive Fresh (session : Session Data) : Prop where
  | idle (none : session.operation = none)
  | head
      (outstanding : session.operation =
        some ⟨.read, 0, sizeofHeader, 0, .readHead⟩)
  | write
      (outstanding : session.operation =
        some ⟨.write, 0, sizeofHeader + session.header.getBodySize.toNat, 0,
          .write⟩)
      (fits : session.header.Fits)

/-- What the range argument needs to know about the handlers of a session. -/
structure FramedCallbacks
    (callbacks : Callbacks maxBlockSize Handler Data) : Prop where
  afterHead : ∀ (count : Nat) (session : Session Data),
    callbacks.success .readHead count session =
      session.asyncRead sizeofHeader session.header.getBodySize.toNat .readBody
  afterOther : ∀ (handler : Handler) (count : Nat) (session : Session Data),
    session.operation = none → handler ≠ .readHead →
    (handler = .readBody → session.header.Fits) →
    Fresh (callbacks.success handler count session)
  afterFailure : ∀ (handler : Handler) (session : Session Data),
    session.operation = none →
    (callbacks.failure handler session).operation = none

/-- The outstanding operation is one that the code starts, with the progress
it can have made inside `buffer_`. -/
inductive Shape (session : Session Data) : Prop where
  | idle (none : session.operation = none)
  | starting
      (outstanding : session.operation =
        some ⟨.establish, 0, 0, 0, .start⟩)
  | head (done : Nat)
      (outstanding : session.operation =
        some ⟨.read, 0, sizeofHeader, done, .readHead⟩)
  | body (done : Nat)
      (outstanding : session.operation =
        some ⟨.read, sizeofHeader, session.header.getBodySize.toNat, done,
          .readBody⟩)
      (inside : sizeofHeader + done ≤ maxBlockSize)
  | write (done : Nat)
      (outstanding : session.operation =
        some ⟨.write, 0, sizeofHeader + session.header.getBodySize.toNat,
          done, .write⟩)
      (fits : session.header.Fits)

theorem Header.Fits.fullSize {header : Header} (fits : header.Fits) :
    header.getFullSize.toNat =
      sizeofHeader + header.getBodySize.toNat := by
  apply Header.getFullSize_toNat
  simp only [Header.Fits] at fits
  simp only [sizeofHeader]
  omega

theorem Header.Fits.bufferRange {header : Header} (fits : header.Fits) :
    bufferRange header.getFullSize.toNat =
      sizeofHeader + header.getBodySize.toNat := by
  rw [fits.fullSize]
  apply bufferRange_of_le
  simp only [Header.Fits] at fits
  simp only [maxBlockSize]
  omega

theorem Fresh.shape {session : Session Data} (fresh : Fresh session) :
    Shape session := by
  cases fresh with
  | idle none => exact .idle none
  | head outstanding => exact .head 0 outstanding
  | write outstanding fits => exact .write 0 outstanding fits

theorem rangesInside_idle {session : Session Data}
    (none : session.operation = none) : RangesInside session := by
  intro operation outstanding
  rw [none] at outstanding
  cases outstanding

theorem rangesInside_establish {session : Session Data}
    (outstanding : session.operation =
      some ⟨.establish, 0, 0, 0, .start⟩) : RangesInside session := by
  intro operation same
  rw [outstanding] at same
  cases same
  exact ⟨Nat.zero_le _, by intro impossible; cases impossible⟩

theorem rangesInside_head {session : Session Data} (done : Nat)
    (outstanding : session.operation =
      some ⟨.read, 0, sizeofHeader, done, .readHead⟩) :
    RangesInside session := by
  intro operation same
  rw [outstanding] at same
  cases same
  refine ⟨?_, by intro impossible; cases impossible⟩
  simp only [maxBlockSize]
  omega

theorem rangesInside_write {session : Session Data} (done : Nat)
    (outstanding : session.operation =
      some ⟨.write, 0, sizeofHeader + session.header.getBodySize.toNat, done,
        .write⟩)
    (fits : session.header.Fits) : RangesInside session := by
  intro operation same
  rw [outstanding] at same
  cases same
  have full := fits.fullSize
  simp only [Header.Fits] at fits
  refine ⟨?_, fun _ => ⟨rfl, full.symm, full⟩⟩
  simp only [maxBlockSize]
  omega

/-- While a body is read, the range is inside exactly when the header that
announced the body fits. -/
theorem rangesInside_body_iff {session : Session Data} (done : Nat)
    (outstanding : session.operation =
      some ⟨.read, sizeofHeader, session.header.getBodySize.toNat, done,
        .readBody⟩) :
    RangesInside session ↔ session.header.Fits := by
  simp only [Header.Fits]
  constructor
  · intro inside
    have bound := (inside _ outstanding).1
    simp only [maxBlockSize] at bound
    omega
  · intro fits operation same
    rw [outstanding] at same
    cases same
    refine ⟨?_, by intro impossible; cases impossible⟩
    simp only [maxBlockSize]
    omega

theorem Fresh.rangesInside {session : Session Data} (fresh : Fresh session) :
    RangesInside session := by
  cases fresh with
  | idle none => exact rangesInside_idle none
  | head outstanding => exact rangesInside_head 0 outstanding
  | write outstanding fits => exact rangesInside_write 0 outstanding fits

theorem header_store (memory : Memory maxBlockSize) (offset : Nat)
    (chunk : List UInt8) (fits : offset + chunk.length ≤ maxBlockSize)
    (behind : sizeofHeader ≤ offset) :
    Header.view (memory.store offset chunk fits).bytes =
      Header.view memory.bytes := by
  rw [← Header.view_take _ sizeofHeader (Nat.le_refl _),
    Memory.take_store_of_le _ _ _ _ behind,
    Header.view_take _ _ (Nat.le_refl _)]

section Steps

variable {callbacks : Callbacks maxBlockSize Handler Data}
  {session next : Session Data} {action : Action}
  {operation : Operation Handler}

private theorem headersRead_started (operations : List (Operation Handler))
    (content : Operation Handler → List UInt8) :
    headersRead (operations.map fun operation =>
      .started operation.handler (content operation)) = [] := by
  induction operations with
  | nil => rfl
  | cons operation operations induction => exact induction

/-- A step shows a header only when it completes the reading of one. -/
theorem headersRead_observe
    (outstanding : session.operation = some operation) :
    headersRead (session.observe action next) =
      if action = .complete ∧ operation.handler = .readHead then
        [Header.view (session.buffer.slice operation.offset operation.length)]
      else [] := by
  cases action with
  | complete =>
      have started := headersRead_started next.operation.toList
        fun operation => next.buffer.slice operation.offset operation.length
      simp only [headersRead] at started
      obtain ⟨_, _, _, _, handler⟩ := operation
      cases handler <;>
        simp [Connection.observe, outstanding, headersRead, started]
  | recv chunk => simp [Connection.observe, headersRead]
  | send chunk => simp [Connection.observe, headersRead]
  | fail direction => simp [Connection.observe, headersRead]

private theorem shape_step_of_ne (program : FramedCallbacks callbacks)
    (shape : Shape session) (outstanding : session.operation = some operation)
    (other : operation.handler ≠ .readHead)
    (taken : session.step callbacks action = some next) :
    Shape next ∧ (RangesInside session → RangesInside next) := by
  have ended : ∀ {after : Session Data}, Fresh after →
      Shape after ∧ (RangesInside session → RangesInside after) :=
    fun fresh => ⟨fresh.shape, fun _ => fresh.rangesInside⟩
  cases shape with
  | idle none =>
      rw [outstanding] at none
      cases none
  | starting establishing =>
      rw [outstanding] at establishing
      cases establishing
      rcases Connection.step_establish_cases outstanding rfl taken with
        ⟨_, _, rfl⟩ | ⟨_, _, rfl⟩
      · exact ended (program.afterOther _ _ _ rfl other (by simp))
      · exact ended (.idle (program.afterFailure _ _ rfl))
  | head done reading =>
      rw [outstanding] at reading
      cases reading
      exact absurd rfl other
  | body done reading inside =>
      rw [outstanding] at reading
      cases reading
      rcases Connection.step_read_cases outstanding rfl taken with
        ⟨chunk, fits, _, _, _, _, rfl⟩ | ⟨_, whole, rfl⟩ | ⟨_, _, rfl⟩
      · have sameHeader := header_store session.buffer (sizeofHeader + done)
          chunk fits (Nat.le_add_right _ _)
        refine ⟨.body (done + chunk.length) ?_ ?_, ?_⟩
        · simp only [Connection.advance, Session.header, sameHeader]
        · change sizeofHeader + done + chunk.length ≤ maxBlockSize at fits
          omega
        · intro within
          have announced := (rangesInside_body_iff done outstanding).mp within
          refine (rangesInside_body_iff (done + chunk.length) ?_).mpr ?_
          · simp only [Connection.advance, Session.header, sameHeader]
          · simpa only [Connection.advance, Session.header, sameHeader]
              using announced
      · refine ended (program.afterOther _ _ _ rfl other fun _ => ?_)
        simp only [maxBlockSize] at inside
        change session.header.getBodySize.toNat ≤ 10000
        change done = session.header.getBodySize.toNat at whole
        omega
      · exact ended (.idle (program.afterFailure _ _ rfl))
  | write done writing fits =>
      rw [outstanding] at writing
      cases writing
      rcases Connection.step_write_cases outstanding rfl taken with
        ⟨chunk, _, _, _, _, _, rfl⟩ | ⟨_, _, rfl⟩ | ⟨_, _, rfl⟩
      · exact ⟨.write (done + chunk.length) rfl fits,
          fun _ => rangesInside_write (done + chunk.length) rfl fits⟩
      · exact ended (program.afterOther _ _ _ rfl other (by simp))
      · exact ended (.idle (program.afterFailure _ _ rfl))

/-- One step of a session that is reading a header: a completion hands out
the range that the header announces. -/
private theorem shape_step_head (program : FramedCallbacks callbacks)
    {done : Nat}
    (outstanding : session.operation =
      some ⟨.read, 0, sizeofHeader, done, .readHead⟩)
    (taken : session.step callbacks action = some next) :
    Shape next ∧ (RangesInside next ↔
      (action = .complete → (Header.view (session.buffer.slice 0
        sizeofHeader)).Fits)) := by
  rcases Connection.step_read_cases outstanding rfl taken with
    ⟨chunk, fits, rfl, _, _, _, rfl⟩ | ⟨rfl, _, rfl⟩ | ⟨rfl, _, rfl⟩
  · refine ⟨.head (done + chunk.length) rfl, ?_⟩
    constructor
    · intro _ impossible
      cases impossible
    · intro _
      exact rangesInside_head (done + chunk.length) rfl
  · rw [program.afterHead]
    have announced : Header.view (session.buffer.slice 0 sizeofHeader) =
        session.header :=
      Header.view_take _ _ (Nat.le_refl _)
    refine ⟨.body 0 rfl (by decide), ?_⟩
    rw [announced]
    exact (rangesInside_body_iff 0 rfl).trans (by simp; rfl)
  · have idle := program.afterFailure .readHead
      { session with operation := none } rfl
    exact ⟨.idle idle, by simp [rangesInside_idle idle]⟩

/-- One step keeps the shape, and a step of a session inside its ranges stays
inside them exactly when the header it finishes reading, if any, fits. -/
theorem Shape.step (program : FramedCallbacks callbacks)
    (shape : Shape session)
    (taken : session.step callbacks action = some next) :
    Shape next ∧ (RangesInside session →
      (RangesInside next ↔
        ∀ header ∈ headersRead (session.observe action next),
          header.Fits)) := by
  cases outstanding : session.operation with
  | none =>
      rw [Connection.step_idle outstanding] at taken
      cases taken
  | some operation =>
      by_cases reading : operation.handler = .readHead
      · cases shape with
        | head done head =>
            rw [outstanding] at head
            cases head
            obtain ⟨after, inside⟩ :=
              shape_step_head program outstanding taken
            refine ⟨after, fun _ => inside.trans ?_⟩
            rw [headersRead_observe outstanding]
            by_cases completing : action = .complete <;> simp [completing]
        | idle none =>
            rw [outstanding] at none
            cases none
        | starting other =>
            rw [outstanding] at other
            cases other
            cases reading
        | body done other inside =>
            rw [outstanding] at other
            cases other
            cases reading
        | write done other fits =>
            rw [outstanding] at other
            cases other
            cases reading
      · obtain ⟨after, kept⟩ :=
          shape_step_of_ne program shape outstanding reading taken
        refine ⟨after, fun inside => ?_⟩
        simp [headersRead_observe outstanding, reading, kept inside]

/-- Along a whole run, the ranges stay inside `buffer_` exactly as long as the
headers that were read fit. -/
theorem always_rangesInside_iff {system : System (Session Data) Action}
    (program : FramedCallbacks callbacks)
    (steps : system.step = Connection.step callbacks)
    {start : Session Data} (shape : Shape start)
    (inside : RangesInside start) {actions : List Action}
    {recorded : Session Data × List (Event Handler)}
    (run : (system.recording Connection.observe).Run (start, []) actions
      recorded) :
    Shape recorded.1 ∧
      (system.Always start actions RangesInside ↔
        ∀ header ∈ headersRead recorded.2, header.Fits) := by
  induction run using System.Run.recorded_induction with
  | refl =>
      refine ⟨shape, ?_⟩
      rw [System.always_nil]
      simp [inside, headersRead]
  | snoc before moved induction =>
      obtain ⟨middleShape, middleIff⟩ := induction
      have whole := before.forget.snoc moved
      rw [steps] at moved
      obtain ⟨finishShape, finishIff⟩ := middleShape.step program moved
      refine ⟨finishShape, ?_⟩
      rw [System.always_snoc whole, headersRead, List.filterMap_append,
        List.forall_mem_append]
      constructor
      · rintro ⟨always, last⟩
        exact ⟨middleIff.mp always,
          (finishIff (always.finish before.forget)).mp last⟩
      · rintro ⟨earlier, last⟩
        have always := middleIff.mpr earlier
        exact ⟨always, (finishIff (always.finish before.forget)).mpr last⟩

end Steps

/-! ## The two sessions -/

namespace Server3

theorem Session.write_fresh (session : ServerSession)
    (small : session.header.Fits) : Fresh (Session.write session) := by
  have sameSize : (Session.write session).header.getBodySize =
      session.header.getBodySize := by
    rw [Session.write_header, Header.getBodySize_incPacketCount]
  refine .write ?_ ?_
  · rw [Session.write_operation, sameSize, small.bufferRange]
  · simpa only [Header.Fits, sameSize] using small

theorem framedCallbacks : FramedCallbacks callbacks where
  afterHead _ _ := rfl
  afterOther handler count session idle other fits := by
    cases handler with
    | start => exact .head (Session.readHead_operation session)
    | readHead => exact absurd rfl other
    | write =>
        change Fresh (if Session.checkCount session then session.close
          else Session.readHead session)
        split
        · exact .idle idle
        · exact .head (Session.readHead_operation session)
    | readBody =>
        change Fresh (if Session.checkCount session then session.close
          else Session.write session)
        split
        · exact .idle idle
        · exact Session.write_fresh session (fits rfl)
  afterFailure _ _ idle := idle

end Server3

namespace Client3

theorem Fields.getBodyLen_fits (fields : Fields) :
    fields.getBodyLen.1.toNat ≤ 10000 := by
  simp only [Fields.getBodyLen]
  split
  · decide
  · rename_i small
    simpa [UInt32.lt_iff_toNat_lt] using small

theorem Session.write_fresh (fields : Fields) (header : Header)
    (session : ClientSession)
    (announced : header.bodySize = htonl fields.getBodyLen.1) :
    Fresh (Session.write (session.setHeader header)) := by
  have small : header.Fits := by
    simp only [Header.Fits, Header.getBodySize, announced, ntohl_htonl]
    exact fields.getBodyLen_fits
  have stored : (Session.write (session.setHeader header)).header =
      header := by
    rw [Session.write_header, Framed.Session.header_setHeader]
  refine .write ?_ ?_
  · rw [Session.write_operation, stored, Framed.Session.header_setHeader,
      small.bufferRange]
  · rw [stored]
    exact small

theorem framedCallbacks : FramedCallbacks callbacks where
  afterHead _ _ := rfl
  afterOther handler count session idle other _ := by
    cases handler with
    | start => exact Session.write_fresh session.data _ _ rfl
    | readHead => exact absurd rfl other
    | write => exact .head (Session.readHead_operation session)
    | readBody =>
        change Fresh (if Session.checkCount session then
          Session.finish session else Session.next session)
        split
        · exact .idle idle
        · exact Session.write_fresh session.data _ _ rfl
  afterFailure _ _ idle := idle

end Client3

/-! ## Main result -/

/-- For both sessions, against any peer and any chunking, with failures at any
point: every range handed to an operation lies inside `buffer_`, and
`get_full_size` does not wrap where it is used, exactly when every header the
session has read announces at most 10000 bytes. -/
theorem sessions_inside_iff (totalCount : UInt32)
    (buffer : Memory maxBlockSize) (actions : List Action) :
    (∀ (session : Server3.ServerSession) (events : List (Event Handler)),
      ((serverSystem totalCount).recording Connection.observe).Run
        (Server3.accepting totalCount buffer, []) actions (session, events) →
      ((serverSystem totalCount).Always
          (Server3.accepting totalCount buffer) actions RangesInside ↔
        ∀ header ∈ headersRead events, header.getBodySize.toNat ≤ 10000)) ∧
    (∀ (session : Client3.ClientSession) (events : List (Event Handler)),
      ((clientSystem totalCount).recording Connection.observe).Run
        (Client3.connecting totalCount buffer, []) actions (session, events) →
      ((clientSystem totalCount).Always
          (Client3.connecting totalCount buffer) actions RangesInside ↔
        ∀ header ∈ headersRead events,
          header.getBodySize.toNat ≤ 10000)) := by
  constructor
  · intro session events run
    exact (always_rangesInside_iff Server3.framedCallbacks
      (serverSystem_step totalCount) (.starting rfl)
      (rangesInside_establish rfl) run).2
  · intro session events run
    exact (always_rangesInside_iff Client3.framedCallbacks
      (clientSystem_step totalCount) (.starting rfl)
      (rangesInside_establish rfl) run).2

theorem Server3.run_head (totalCount : UInt32) (buffer : Memory maxBlockSize)
    (header : Header) :
    ∃ session events,
      ((serverSystem totalCount).recording Connection.observe).Run
        (Server3.accepting totalCount buffer, [])
        [.complete, .recv header.bytes, .complete] (session, events) ∧
      headersRead events = [header] ∧ session.header = header ∧
      session.operation = some ⟨.read, sizeofHeader,
        header.getBodySize.toNat, 0, .readBody⟩ := by
  let waiting := Server3.Session.start
    { Server3.accepting totalCount buffer with operation := none }
  have reading : waiting.operation =
      some ⟨.read, 0, sizeofHeader, 0, .readHead⟩ :=
    Server3.Session.readHead_operation _
  let received : Server3.ServerSession :=
    { waiting.advance ⟨.read, 0, sizeofHeader, 0, .readHead⟩
        header.bytes.length with
      buffer := waiting.buffer.store (0 + 0) header.bytes header.fits }
  have receivedHeader : received.header = header :=
    Framed.Session.header_setHeader waiting header
  let finish := Server3.Session.readBody { received with operation := none }
  have establishing : (Server3.accepting totalCount buffer).operation =
      some ⟨.establish, 0, 0, 0, .start⟩ := rfl
  have first : (serverSystem totalCount).step
      (Server3.accepting totalCount buffer) .complete = some waiting :=
    Connection.step_complete establishing rfl
  have second : (serverSystem totalCount).step waiting
      (.recv header.bytes) = some received := by
    rw [serverSystem_step, Connection.step_recv reading]
    refine Connection.recv_eq_some_iff.mpr ⟨header.fits, rfl, rfl, ?_, ?_, rfl⟩
    · intro empty
      cases empty
    · exact Nat.le_of_eq (Nat.zero_add _)
  have filled : received.operation =
      some ⟨.read, 0, sizeofHeader, sizeofHeader, .readHead⟩ := by
    simp [received, Connection.advance]
  have third : (serverSystem totalCount).step received .complete =
      some finish :=
    Connection.step_complete filled rfl
  have announced : Header.view (received.buffer.slice 0 sizeofHeader) =
      header :=
    (Header.view_take _ _ (Nat.le_refl _)).trans receivedHeader
  have firstEvents : headersRead (Connection.observe
      (Server3.accepting totalCount buffer) .complete waiting) = [] :=
    headersRead_observe establishing
  have secondEvents : headersRead (Connection.observe waiting
      (.recv header.bytes) received) = [] :=
    headersRead_observe reading
  have thirdEvents : headersRead (Connection.observe received .complete
      finish) = [header] := by
    rw [headersRead_observe filled]
    simp [announced]
  have run : ((serverSystem totalCount).recording Connection.observe).Run
      (Server3.accepting totalCount buffer, [])
      [.complete, .recv header.bytes, .complete] (finish, _) :=
    ((System.Run.refl.snoc_recorded first).snoc_recorded
      second).snoc_recorded third
  refine ⟨finish, _, run, ?_, receivedHeader, ?_⟩
  · simp only [headersRead] at firstEvents secondEvents thirdEvents
    simp [headersRead, firstEvents, secondEvents, thirdEvents]
  · have sameHeader : Framed.Session.header
        { received with operation := none } = header := receivedHeader
    simp only [finish, Server3.Session.readBody, Connection.asyncRead,
      sameHeader]

/-- The largest body that fits: the run stays inside `buffer_`. -/
theorem sessions_inside_largest :
    ∃ session events,
      ((serverSystem 1000).recording Connection.observe).Run
        (Server3.accepting 1000 (.filled maxBlockSize 0), [])
        [.complete, .recv [0, 0, 39, 16, 0, 0, 0, 1], .complete]
        (session, events) ∧
      (serverSystem 1000).Always
        (Server3.accepting 1000 (.filled maxBlockSize 0))
        [.complete, .recv [0, 0, 39, 16, 0, 0, 0, 1], .complete]
        RangesInside := by
  obtain ⟨session, events, run, headers, _, _⟩ :=
    Server3.run_head 1000 (.filled maxBlockSize 0)
      { bodySize := ⟨0, 0, 39, 16⟩, packetCount := ⟨0, 0, 0, 1⟩ }
  refine ⟨session, events, run, ?_⟩
  apply ((sessions_inside_iff 1000 _ _).1 session events run).mpr
  rw [headers, List.forall_mem_singleton]
  decide

/-- A header that announces one byte more than fits makes the server hand
`[8, 10009)` to `async_read`. -/
theorem server_range_outside :
    ∃ session,
      (serverSystem 1000).Run
        (Server3.accepting 1000 (.filled maxBlockSize 0))
        [.complete, .recv [0, 0, 39, 17, 0, 0, 0, 1], .complete] session ∧
      session.operation = some ⟨.read, 8, 10001, 0, .readBody⟩ ∧
      ¬RangesInside session := by
  obtain ⟨session, events, run, _, same, outstanding⟩ :=
    Server3.run_head 1000 (.filled maxBlockSize 0)
      { bodySize := ⟨0, 0, 39, 17⟩, packetCount := ⟨0, 0, 0, 1⟩ }
  refine ⟨session, run.forget, outstanding, ?_⟩
  rw [rangesInside_body_iff 0 (by rw [same]; exact outstanding), same]
  decide

end AsioBenchmark.Framed
