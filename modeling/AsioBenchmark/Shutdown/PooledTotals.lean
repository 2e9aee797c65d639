import AsioBenchmark.Shutdown.ErrorOutcome
import AsioBenchmark.Shutdown.Tallies

/-!
# The totals that `client2` prints

A session writes the first packet and then only what it has read, so its
counters can show at most one write and `block_size_` bytes more than they show
reads and bytes read.  A write that transmits less, fails, or is outstanding
when the threads return makes the difference smaller.
-/

namespace AsioBenchmark.Shutdown

open AsioBenchmark.Report AsioBenchmark.Pooled AsioBenchmark.Transition

namespace Client2

variable {blockSize : Nat}
  {session next : Pooled.Client2.ClientSession blockSize}
  {place after :
    Pooled.Client2.ClientSession blockSize × List (Call Completion)}
  {past calls : List (Call Completion)}

/-! ## What a handler adds -/

/-- What a handler adds to a counter. -/
def adds : Counter → Completion → Nat
  | .countWritten, .write completion => completion.result.isSome.toNat
  | .countRead, .read completion => completion.result.isSome.toNat
  | .bytesWritten, .write completion => completion.result.getD 0
  | .bytesRead, .read completion => completion.result.getD 0
  | _, _ => 0

/-- The handlers of a connect. -/
def connecteds (completion : Completion) : Nat :=
  (answers completion).toNat

/-- The handlers of a write. -/
def writings : Completion → Nat
  | .write _ => 1
  | _ => 0

/-- The bytes that outstanding writes have been given. -/
def queued (session : Pooled.Client2.ClientSession blockSize) : Nat :=
  (session.writeQueue.map WriteRequest.length).sum

theorem noteError_frame (session : Pooled.Client2.ClientSession blockSize) :
    (∀ counter, (ofPooled (Pooled.Client2.noteError session).data).get counter =
      (ofPooled session.data).get counter) ∧
    (Pooled.Client2.noteError session).writeQueue = session.writeQueue ∧
    (Pooled.Client2.noteError session).starting = session.starting := by
  unfold Pooled.Client2.noteError
  split
  · exact ⟨fun _ => rfl, rfl, rfl⟩
  · refine ⟨?_, rfl, rfl⟩
    intro counter
    cases counter <;> rfl

theorem start_frame (isOpen : session.isOpen = true) :
    (Pooled.Client2.start session).data = session.data ∧
      (Pooled.Client2.start session).starting = session.starting ∧
      (Pooled.Client2.start session).writeQueue.length ≤
        session.writeQueue.length + 1 ∧
      queued (Pooled.Client2.start session) ≤ queued session + blockSize := by
  obtain ⟨_, _, queue, _, starting, _, _, data⟩ := session.read_frame
  have same : queued session.read = queued session := by
    rw [queued, queue]
    rfl
  simp only [Pooled.Client2.start, if_pos isOpen, Pooled.Client2.read]
  split
  · refine ⟨data, starting, ?_, ?_⟩
    · rw [queue]
      exact Nat.le_succ _
    · rw [same]
      exact Nat.le_add_right _ _
  · refine ⟨data, starting, ?_, ?_⟩
    · simp [Pooled.Client2.write, Session.write, Session.asyncWriteSome, queue]
    · simp [Pooled.Client2.write, Session.write, Session.asyncWriteSome,
        queued, queue]

theorem readHandler_frame (buffer : BufferId) (count : Nat)
    (session : Pooled.Client2.ClientSession blockSize) :
    let next := Pooled.Client2.readHandler buffer (some count) session
    (∀ counter, (ofPooled next.data).get counter =
      (ofPooled session.data).get counter +
        UInt64.ofNat (adds counter (.read ⟨buffer, some count⟩))) ∧
    next.starting = session.starting ∧
    next.writeQueue = session.writeQueue ++ [⟨buffer, count⟩] := by
  intro next
  let counted := { session with
    data := { session.data with
      bytesRead := session.data.bytesRead + UInt64.ofNat count
      countRead := session.data.countRead + 1 } }
  obtain ⟨_, _, queue, _, starting, _, _, data⟩ :=
    (Pooled.Client2.write counted buffer count).read_frame
  refine ⟨?_, starting, queue⟩
  intro counter
  have same : next.data = counted.data := data
  rw [same]
  cases counter with
  | countWritten => exact (UInt64.add_zero _).symm
  | countRead => rfl
  | bytesWritten => exact (UInt64.add_zero _).symm
  | bytesRead => rfl

theorem writeHandler_frame (buffer : BufferId) (count : Nat)
    (session : Pooled.Client2.ClientSession blockSize) :
    let next := Pooled.Client2.writeHandler buffer (some count) session
    (∀ counter, (ofPooled next.data).get counter =
      (ofPooled session.data).get counter +
        UInt64.ofNat (adds counter (.write ⟨buffer, some count⟩))) ∧
    next.starting = session.starting ∧
    next.writeQueue = session.writeQueue := by
  intro next
  let counted := { session.push buffer with
    data := { (session.push buffer).data with
      bytesWritten :=
        (session.push buffer).data.bytesWritten + UInt64.ofNat count
      countWritten := (session.push buffer).data.countWritten + 1 } }
  have frame : next.data = counted.data ∧ next.starting = session.starting ∧
      next.writeQueue = session.writeQueue := by
    obtain ⟨_, _, queue, _, starting, _, _, data⟩ := counted.read_frame
    simp only [next, Pooled.Client2.writeHandler]
    split
    · exact ⟨data, starting, queue⟩
    · exact ⟨rfl, rfl, rfl⟩
  refine ⟨?_, frame.2⟩
  intro counter
  rw [frame.1]
  cases counter with
  | countWritten => rfl
  | countRead => exact (UInt64.add_zero _).symm
  | bytesWritten => rfl
  | bytesRead => exact (UInt64.add_zero _).symm

theorem adds_failed {completion : Completion}
    (isFailed : failed completion = true) (counter : Counter) :
    adds counter completion = 0 := by
  cases completion with
  | started succeeded => cases counter <;> rfl
  | read completion =>
      have none : completion.result = none :=
        Option.isNone_iff_eq_none.mp isFailed
      cases counter <;> simp [adds, none]
  | write completion =>
      have none : completion.result = none :=
        Option.isNone_iff_eq_none.mp isFailed
      cases counter <;> simp [adds, none]

theorem counts (blockSize : Nat) :
    (client2 blockSize).Counts (fun session => ofPooled session.data)
      adds where
  network_counters := by
    intro session event next answer counter moves
    rw [(network_passed moves).data]
  handle_counters := by
    intro session completion next counter handles
    have nothing : ∀ completion, failed completion = true →
        (ofPooled session.data).get counter =
          (ofPooled session.data).get counter +
            UInt64.ofNat (adds counter completion) := by
      intro completion isFailed
      rw [adds_failed isFailed counter]
      exact (UInt64.add_zero _).symm
    cases completion with
    | started succeeded =>
        cases succeeded with
        | true =>
            obtain ⟨isOpen, same⟩ := Option.ite_none_right_eq_some.mp handles
            cases same
            rw [(start_frame isOpen).1]
            cases counter <;> exact (UInt64.add_zero _).symm
        | false =>
            cases handles
            exact nothing _ rfl
    | read completion =>
        cases handles
        obtain ⟨buffer, result⟩ := completion
        cases result with
        | none =>
            exact ((noteError_frame session).1 counter).trans (nothing _ rfl)
        | some count => exact (readHandler_frame buffer count session).1 counter
    | write completion =>
        cases handles
        obtain ⟨buffer, result⟩ := completion
        cases result with
        | none =>
            exact ((noteError_frame (session.push buffer)).1 counter).trans
              (nothing _ rfl)
        | some count =>
            exact (writeHandler_frame buffer count session).1 counter
  throws_counters := by
    intro session completion counter handles
    cases completion with
    | started succeeded => cases counter <;> rfl
    | read completion => cases handles
    | write completion => cases handles
  stop_counters session counter := by
    cases counter <;> rfl

/-! ## What is forwarded -/

/-- Writes are paid for by reads, and the first of them by the connect. -/
structure Forwards (place : Pooled.Client2.ClientSession blockSize ×
    List (Call Completion)) (past : List (Call Completion)) : Prop where
  connects : place.1.starting.toNat + tally connecteds place.2 +
    tally connecteds past ≤ 1
  count : place.1.writeQueue.length + tally writings place.2 +
      tally (adds .countWritten) past ≤
    tally (adds .countRead) past + tally connecteds past
  bytes : queued place.1 + tally (adds .bytesWritten) place.2 +
      tally (adds .bytesWritten) past ≤
    tally (adds .bytesRead) past + blockSize * tally connecteds past

theorem network_forwards {action : Pooled.Action} {answer : Option Completion}
    (moves : network session action = some (next, answer)) :
    ∃ completion, answer = some completion ∧
      next.starting.toNat + connecteds completion = session.starting.toNat ∧
      next.writeQueue.length + writings completion =
        session.writeQueue.length ∧
      queued next + adds .bytesWritten completion ≤ queued session := by
  cases action with
  | started succeeded =>
      obtain ⟨⟨starting, _⟩, same⟩ := Option.ite_none_right_eq_some.mp moves
      cases same
      refine ⟨_, rfl, ?_, rfl, Nat.le_refl _⟩
      simp [starting, connecteds, answers]
  | recv chunk =>
      obtain ⟨moving, received, taken⟩ := Option.map_eq_some_iff.mp moves
      obtain ⟨buffer, rest, fits, queue, _, _, rfl⟩ :=
        Session.recv_cases received
      simp only [takeRead, List.getLast?_concat, Option.map_some] at taken
      cases taken
      exact ⟨_, rfl, rfl, rfl, Nat.le_refl _⟩
  | readError =>
      obtain ⟨moving, received, taken⟩ := Option.map_eq_some_iff.mp moves
      obtain ⟨buffer, rest, queue, rfl⟩ := Session.readError_cases received
      simp only [takeRead, List.getLast?_concat, Option.map_some] at taken
      cases taken
      exact ⟨_, rfl, rfl, rfl, Nat.le_refl _⟩
  | readHandler => cases moves
  | send chunk =>
      obtain ⟨moving, sent, taken⟩ := Option.map_eq_some_iff.mp moves
      obtain ⟨request, rest, queue, _, _, room, _, rfl⟩ :=
        Session.send_cases sent
      simp only [takeWrite, List.getLast?_concat, Option.map_some] at taken
      cases taken
      refine ⟨_, rfl, rfl, ?_, ?_⟩
      · rw [queue]
        rfl
      · simp only [queued, queue, List.map_cons, List.sum_cons, adds,
          Option.getD_some]
        omega
  | writeError =>
      obtain ⟨moving, sent, taken⟩ := Option.map_eq_some_iff.mp moves
      obtain ⟨request, rest, queue, rfl⟩ := Session.writeError_cases sent
      simp only [takeWrite, List.getLast?_concat, Option.map_some] at taken
      cases taken
      refine ⟨_, rfl, rfl, ?_, ?_⟩
      · rw [queue]
        rfl
      · simp only [queued, queue, List.map_cons, List.sum_cons, adds,
          Option.getD_none]
        omega
  | writeHandler => cases moves
  | stop => cases moves

/-- What a handler starts is paid for by what it has read. -/
theorem handle_forwards {completion : Completion}
    (handles : handle completion session = some next) :
    next.starting = session.starting ∧
      next.writeQueue.length + adds .countWritten completion ≤
        session.writeQueue.length + writings completion +
          adds .countRead completion + connecteds completion ∧
      queued next ≤ queued session + adds .bytesRead completion +
        blockSize * connecteds completion := by
  cases completion with
  | started succeeded =>
      cases succeeded with
      | true =>
          obtain ⟨isOpen, same⟩ := Option.ite_none_right_eq_some.mp handles
          cases same
          obtain ⟨_, starting, count, bytes⟩ := start_frame isOpen
          refine ⟨starting, ?_, ?_⟩
          · simpa [adds, writings, connecteds, answers] using count
          · simpa [adds, connecteds, answers] using bytes
      | false =>
          cases handles
          exact ⟨rfl, Nat.le_add_right _ _, Nat.le_add_right _ _⟩
  | read completion =>
      cases handles
      obtain ⟨buffer, result⟩ := completion
      cases result with
      | none =>
          obtain ⟨_, queue, starting⟩ := noteError_frame session
          have same : Pooled.Client2.readHandler buffer none session =
              Pooled.Client2.noteError session := rfl
          rw [same, queued, queue]
          exact ⟨starting, Nat.le_refl _, Nat.le_refl _⟩
      | some count =>
          obtain ⟨_, starting, queue⟩ := readHandler_frame buffer count session
          refine ⟨starting, ?_, ?_⟩
          · simp [queue, adds, writings, connecteds, answers]
          · simp [queued, queue, adds, connecteds, answers]
  | write completion =>
      cases handles
      obtain ⟨buffer, result⟩ := completion
      cases result with
      | none =>
          obtain ⟨_, queue, starting⟩ := noteError_frame (session.push buffer)
          have same : Pooled.Client2.writeHandler buffer none session =
              Pooled.Client2.noteError (session.push buffer) := rfl
          rw [same, queued, queue]
          exact ⟨starting, Nat.le_succ _, Nat.le_refl _⟩
      | some count =>
          obtain ⟨_, starting, queue⟩ := writeHandler_frame buffer count session
          refine ⟨starting, ?_, ?_⟩
          · simp [queue, adds, writings, connecteds, answers]
          · simp [queued, queue, adds, connecteds, answers]

theorem forwards_seen (forwards : Forwards place past)
    (seen : Seen (client2 blockSize) place after calls) :
    Forwards after (past ++ calls) := by
  obtain ⟨connects, count, bytes⟩ := forwards
  cases seen with
  | nothing place =>
      rw [List.append_nil]
      exact ⟨connects, count, bytes⟩
  | posted session waiting =>
      rw [List.append_nil]
      exact ⟨by simpa using connects, by simpa using count,
        by simpa using bytes⟩
  | @answer session next event completion waiting network =>
      obtain ⟨other, answered, starting, length, sum⟩ :=
        network_forwards network
      cases answered
      dsimp only at connects count bytes
      rw [List.append_nil]
      constructor
      · simp only [tally_append, tally_handler, tally_nil]
        omega
      · simp only [tally_append, tally_handler, tally_nil]
        omega
      · simp only [tally_append, tally_handler, tally_nil]
        omega
  | transfer waiting network =>
      obtain ⟨completion, answered, _⟩ := network_forwards network
      cases answered
  | stop session waiting =>
      have starting : ((client2 blockSize).stop session).starting =
          session.starting := rfl
      have queue : ((client2 blockSize).stop session).writeQueue =
          session.writeQueue := rfl
      constructor
      · simpa [starting] using connects
      · simpa [queue] using count
      · simpa [queued, queue] using bytes
  | @handle session next completion waiting handles =>
      obtain ⟨starting, length, sum⟩ := handle_forwards handles
      simp only [tally_handler] at connects count bytes
      constructor
      · simp only [tally_append, tally_handler, tally_nil, starting]
        omega
      · simp only [tally_append, tally_handler, tally_nil]
        omega
      · simp only [tally_append, tally_handler, tally_nil, Nat.add_zero,
          Nat.mul_add]
        omega
  | @throws session completion waiting handles =>
      have nothing : ∀ counter, adds counter completion = 0 := fun counter =>
        (counts blockSize).throws_counters counter handles
      simp only [tally_handler] at connects count bytes
      constructor
      · simp only [tally_append, tally_handler, tally_nil]
        omega
      · simp only [tally_append, tally_handler, tally_nil, nothing]
        omega
      · simp only [tally_append, tally_handler, tally_nil, nothing,
          Nat.add_zero, Nat.mul_add] at bytes ⊢
        omega

section Runs

variable {threadCount sessionCount : Nat} [NeZero threadCount]
  {heaps : Fin sessionCount → BufferId → Bytes.Memory blockSize}
  {labels : List (Label threadCount sessionCount Pooled.Action)}
  {state : State threadCount sessionCount
    (Pooled.Client2.ClientSession blockSize) Completion}
  {events : List (Executed sessionCount Completion)}

theorem run_forwards
    (run : ((client2 blockSize).recorded (connecting heaps)).Run
      (started (connecting heaps), []) labels (state, events))
    (session : Fin sessionCount) :
    Forwards (state.view session) (history session events) :=
  (seen_run (fun place past => Forwards place past)
    (fun forwards seen => forwards_seen forwards seen)
    (fun _ => ⟨Nat.le_refl _, Nat.le_refl _, Nat.le_refl _⟩) run).2 session

/-- A session has written at most one packet more than it has read. -/
theorem Forwards.ahead (forwards : Forwards place past) :
    tally (adds .countWritten) past ≤ tally (adds .countRead) past + 1 ∧
      tally (adds .bytesWritten) past ≤
        tally (adds .bytesRead) past + blockSize := by
  have connects := forwards.connects
  have count := forwards.count
  have bytes := forwards.bytes
  have once : tally connecteds past ≤ 1 := by omega
  have first : blockSize * tally connecteds past ≤ blockSize :=
    Nat.le_trans (Nat.mul_le_mul_left blockSize once)
      (Nat.le_of_eq (Nat.mul_one blockSize))
  omega

/-- `client2` prints how many writes and reads have succeeded and how many
bytes they transferred; what it has written is at most what it has read and a
first packet for each session. -/
theorem pooled_totals
    (run : ((client2 blockSize).recorded (connecting heaps)).Run
      (started (connecting heaps), []) labels (state, events))
    (timeout : Int) :
    (∀ counter, (Client2.report timeout state).get counter =
      UInt64.ofNat (executedTally (adds counter) events)) ∧
    executedTally (adds .countWritten) events ≤
      executedTally (adds .countRead) events + sessionCount ∧
    executedTally (adds .bytesWritten) events ≤
      executedTally (adds .bytesRead) events + sessionCount * blockSize := by
  have each := run_forwards run
  refine ⟨?_, ?_, ?_⟩
  · exact report_run (counts blockSize) (fun session counter => by
      cases counter <;> rfl) run timeout
  · have ahead : executedTally (adds .countWritten) events ≤
        executedTally (adds .countRead) events + sessionCount * 1 :=
      executedTally_le fun session => (each session).ahead.1
    omega
  · exact executedTally_le fun session => (each session).ahead.2

/-- The first packet of two bytes is written, one byte comes back and is
forwarded, and the stop task comes while the next read is outstanding. -/
theorem pooled_totals_two :
    ∃ labels state events,
      ((client2 2).recorded
        (connecting fun _ _ => Bytes.Memory.filled 2 7)).Run
          ((started (connecting fun _ _ => Bytes.Memory.filled 2 7) :
            State 1 1 _ _), []) labels (state, events) ∧
      (Client2.report 1 state).totalBytesWritten = 3 ∧
      (Client2.report 1 state).totalBytesRead = 1 := by
  let labels : List (Label 1 1 Pooled.Action) :=
    [.network 0 (.started true), .run 0, .network 0 (.send [7, 7]), .run 0,
      .network 0 (.recv [9]), .run 0, .network 0 (.send [9]), .run 0, .expire,
      .run 0, .run 0, .run 0, .run 0, .run 0]
  have ends : (((client2 2).recorded
      (connecting fun _ _ => Bytes.Memory.filled 2 7)).exec
        ((started (connecting fun _ _ => Bytes.Memory.filled 2 7) :
          State 1 1 _ _), []) labels).map (fun recorded =>
            (executedTally (adds .bytesWritten) recorded.2,
              executedTally (adds .bytesRead) recorded.2)) = some (3, 1) := by
    decide +kernel
  obtain ⟨⟨state, events⟩, moved, rest⟩ := Option.map_eq_some_iff.mp ends
  obtain ⟨written, read⟩ := Prod.mk.inj rest
  have run := System.run_iff_exec.mpr moved
  have printed := (pooled_totals run 1).1
  refine ⟨labels, state, events, run, ?_, ?_⟩
  · exact (printed .bytesWritten).trans (congrArg UInt64.ofNat written)
  · exact (printed .bytesRead).trans (congrArg UInt64.ofNat read)

end Runs

end Client2

end AsioBenchmark.Shutdown
