import AsioBenchmark.Shutdown.ErrorOutcome
import AsioBenchmark.Shutdown.Tallies

/-!
# The totals that `client1` prints

Whatever fails and whenever the stop tasks come, the printed counters tell how
many reads and writes have succeeded and how many bytes they moved.  The reads
and writes of a session take turns, so it is at most one block ahead of what
has come back.
-/

namespace AsioBenchmark.Shutdown

open AsioBenchmark.Report AsioBenchmark.Stream AsioBenchmark.Transition

namespace Client1

variable {blockSize : Nat}
  {session next : Block.Client1.ClientSession blockSize}
  {place after : Block.Client1.ClientSession blockSize × List (Call Completion)}
  {past calls : List (Call Completion)}

/-- What a handler adds to a counter. -/
def adds : Counter → Completion → Nat
  | .countWritten, .success .write _ => 1
  | .countRead, .success .read _ => 1
  | .bytesWritten, .success .write count => count
  | .bytesRead, .success .read count => count
  | _, _ => 0

theorem counts (blockSize : Nat) :
    (client1 blockSize).Counts (fun session => ofBlock session.data) adds where
  network_counters := by
    intro session event next answer counter moves
    obtain ⟨operation, passed⟩ := network_passed moves
    rw [passed.data]
  handle_counters := by
    intro session completion next counter handles
    cases completion with
    | success handler count =>
        obtain ⟨defined, same⟩ := Option.ite_none_left_eq_some.mp handles
        cases same
        cases handler with
        | start =>
            have isOpen : session.isOpen = true := by simpa using defined
            have written : (Block.Client1.callbacks blockSize).success .start
                count session = Block.Client1.Session.write session := by
              simp [Block.Client1.callbacks, Block.Client1.Session.connected,
                isOpen]
            rw [written]
            cases counter <;> exact (UInt64.add_zero _).symm
        | write =>
            cases counter with
            | countWritten => rfl
            | countRead => exact (UInt64.add_zero _).symm
            | bytesWritten => rfl
            | bytesRead => exact (UInt64.add_zero _).symm
        | read =>
            cases counter with
            | countWritten => exact (UInt64.add_zero _).symm
            | countRead => rfl
            | bytesWritten => exact (UInt64.add_zero _).symm
            | bytesRead => rfl
    | failure handler =>
        cases handles
        have nothing : adds counter (.failure handler) = 0 := by
          cases counter <;> rfl
        have failed : (ofBlock
            (Block.Client1.Session.failed session).data).get counter =
              (ofBlock session.data).get counter := by
          unfold Block.Client1.Session.failed
          split
          · rfl
          · cases counter <;> rfl
        rw [nothing]
        cases handler with
        | start => exact (UInt64.add_zero _).symm
        | write => exact failed.trans (UInt64.add_zero _).symm
        | read => exact failed.trans (UInt64.add_zero _).symm
  throws_counters := by
    intro session completion counter handles
    cases completion with
    | success handler count =>
        have throws : handle (.success handler count) session = none :=
          handles
        have starts : handler = .start :=
          of_decide_eq_true (handle_none.mp throws).1
        subst starts
        cases counter <;> rfl
    | failure handler => cases handles
  stop_counters session counter := by
    cases counter <;> rfl

/-- The handlers of the operation that is outstanding and of those that have
ended but wait for their turn. -/
def pending (place : Block.Client1.ClientSession blockSize ×
    List (Call Completion)) : List Block.Handler :=
  place.1.operation.toList.map Operation.handler ++
    (completions place.2).map Completion.of

/-- An operation on the buffer covers all of it, and so does what it has
transferred when it succeeds. -/
structure Sized (place : Block.Client1.ClientSession blockSize ×
    List (Call Completion)) : Prop where
  operation : ∀ operation, place.1.operation = some operation →
    operation.handler ≠ .start → operation.length = blockSize
  waiting : ∀ handler count,
    .success handler count ∈ completions place.2 → handler ≠ .start →
    count = blockSize

/-- Reads and writes take turns. -/
structure Alternates (blockSize : Nat) (pending : List Block.Handler)
    (past : List (Call Completion)) : Prop where
  bytesWritten : tally (adds .bytesWritten) past =
    blockSize * tally (adds .countWritten) past
  bytesRead : tally (adds .bytesRead) past =
    blockSize * tally (adds .countRead) past
  ordered : tally (adds .countRead) past ≤ tally (adds .countWritten) past
  close : tally (adds .countWritten) past ≤
    tally (adds .countRead) past + 1
  turn : pending = [] ∨ ∃ handler, pending = [handler] ∧
    tally (adds .countWritten) past = tally (adds .countRead) past +
      if handler = .read then 1 else 0

/-- The network keeps the length of an operation, and a success has
transferred all of it. -/
theorem network_sized {action : Action} {answer : Option Completion}
    (moves : network session action = some (next, answer)) :
    ∃ operation, session.operation = some operation ∧
      ((answer = none ∧ ∃ moved, next.operation = some moved ∧
          moved.handler = operation.handler ∧
          moved.length = operation.length) ∨
        (next.operation = none ∧ ∃ completion, answer = some completion ∧
          completion.of = operation.handler ∧
          ∀ handler count, completion = .success handler count →
            count = operation.length)) := by
  obtain ⟨operation, outstanding, moves⟩ := Option.bind_eq_some_iff.mp moves
  have concludes : ∀ {moving : Block.Client1.ClientSession blockSize}
      {count : Nat}, moving.operation =
        some { operation with transferred := operation.transferred + count } →
      conclude moving = (next, answer) →
      (answer = none ∧ ∃ moved, next.operation = some moved ∧
          moved.handler = operation.handler ∧
          moved.length = operation.length) ∨
        (next.operation = none ∧ ∃ completion, answer = some completion ∧
          completion.of = operation.handler ∧
          ∀ handler count, completion = .success handler count →
            count = operation.length) := by
    intro moving count further concluded
    rcases conclude_cases further with ⟨success, whole⟩ | ⟨continues, _⟩
    · rw [success] at concluded
      cases concluded
      refine .inr ⟨rfl, _, rfl, rfl, ?_⟩
      rintro handler count same
      cases same
      exact whole
    · rw [continues] at concluded
      cases concluded
      exact .inl ⟨rfl, _, further, rfl, rfl⟩
  refine ⟨operation, outstanding, ?_⟩
  cases action with
  | recv chunk =>
      obtain ⟨moving, received, concluded⟩ := Option.map_eq_some_iff.mp moves
      obtain ⟨_, _, _, _, _, rfl⟩ := Connection.recv_eq_some_iff.mp received
      exact concludes rfl concluded
  | send chunk =>
      obtain ⟨moving, sent, concluded⟩ := Option.map_eq_some_iff.mp moves
      obtain ⟨_, _, _, _, _, _, rfl⟩ := Connection.send_eq_some_iff.mp sent
      exact concludes rfl concluded
  | complete =>
      obtain ⟨_, same⟩ := Option.ite_none_right_eq_some.mp moves
      exact @concludes _ 0 outstanding (Option.some.inj same)
  | fail direction =>
      obtain ⟨_, same⟩ := Option.ite_none_right_eq_some.mp moves
      cases same
      refine .inr ⟨rfl, _, rfl, rfl, ?_⟩
      intro handler count impossible
      cases impossible

theorem network_pending {action : Action} {answer : Option Completion}
    {waiting : List (Call Completion)}
    (alternates : Alternates blockSize (pending (session, waiting)) past)
    (moves : network session action = some (next, answer)) :
    completions waiting = [] ∧
      pending (next, waiting ++ answer.toList.map .handler) =
        pending (session, waiting) := by
  obtain ⟨operation, outstanding, outcome⟩ := network_sized moves
  have nothing : completions waiting = [] := by
    rcases alternates.turn with none | ⟨handler, single, _⟩
    · simp [pending, outstanding] at none
    · have parts : operation.handler = handler ∧ completions waiting = [] := by
        simpa [pending, outstanding] using single
      exact parts.2
  refine ⟨nothing, ?_⟩
  rcases outcome with ⟨rfl, moved, continues, same, _⟩ |
    ⟨ends, completion, rfl, of, _⟩
  · simp [pending, outstanding, continues, same, nothing]
  · simp [pending, outstanding, ends, of, nothing]

/-- A handler that runs was the only one pending. -/
theorem handle_pending {completion : Completion}
    {waiting : List (Call Completion)}
    (alternates : Alternates blockSize
      (pending (session, .handler completion :: waiting)) past) :
    session.operation = none ∧ completions waiting = [] ∧
      tally (adds .countWritten) past = tally (adds .countRead) past +
        if completion.of = .read then 1 else 0 := by
  rcases alternates.turn with none | ⟨handler, single, turn⟩
  · simp [pending] at none
  · cases outstanding : session.operation with
    | none =>
        have parts : completion.of = handler ∧ completions waiting = [] := by
          simpa [pending, outstanding] using single
        rw [parts.1]
        exact ⟨rfl, parts.2, turn⟩
    | some operation => simp [pending, outstanding] at single

theorem Alternates.ends {completion : Completion}
    {waiting : List (Call Completion)}
    (alternates : Alternates blockSize
      (pending (session, .handler completion :: waiting)) past)
    (nothing : ∀ counter, adds counter completion = 0)
    (idle : next.operation = none) :
    Alternates blockSize (pending (next, waiting))
      (past ++ [.handler completion]) := by
  obtain ⟨_, none, _⟩ := handle_pending alternates
  obtain ⟨bytesWritten, bytesRead, ordered, close, _⟩ := alternates
  exact
    { bytesWritten := by simpa [nothing] using bytesWritten
      bytesRead := by simpa [nothing] using bytesRead
      ordered := by simpa [nothing] using ordered
      close := by simpa [nothing] using close
      turn := .inl (by simp [pending, idle, none]) }

theorem Alternates.succeeds {handler : Block.Handler} {count : Nat}
    {waiting : List (Call Completion)}
    (alternates : Alternates blockSize
      (pending (session, .handler (.success handler count) :: waiting)) past)
    (sized : handler ≠ .start → count = blockSize)
    {operation : Operation Block.Handler}
    (starts : next.operation = some operation)
    (takesTurns : operation.handler =
      if handler = .write then .read else .write) :
    Alternates blockSize (pending (next, waiting))
      (past ++ [.handler (.success handler count)]) := by
  obtain ⟨_, none, turn⟩ := handle_pending alternates
  obtain ⟨bytesWritten, bytesRead, ordered, close, _⟩ := alternates
  have pendingNow : pending (next, waiting) = [operation.handler] := by
    simp [pending, starts, none]
  rw [pendingNow]
  cases handler with
  | start =>
      change operation.handler = .write at takesTurns
      change _ = _ + 0 at turn
      rw [takesTurns]
      constructor
      · simpa [adds] using bytesWritten
      · simpa [adds] using bytesRead
      · simpa [adds] using ordered
      · simpa [adds] using close
      · refine .inr ⟨_, rfl, ?_⟩
        simpa [adds] using turn
  | write =>
      change operation.handler = .read at takesTurns
      change _ = _ + 0 at turn
      rw [takesTurns]
      have whole := sized (by simp)
      constructor
      · simp [adds, bytesWritten, whole, Nat.mul_add]
      · simpa [adds] using bytesRead
      · simp [adds]
        omega
      · simp [adds]
        omega
      · refine .inr ⟨_, rfl, ?_⟩
        simp [adds]
        omega
  | read =>
      change operation.handler = .write at takesTurns
      change _ = _ + 1 at turn
      rw [takesTurns]
      have whole := sized (by simp)
      constructor
      · simpa [adds] using bytesWritten
      · simp [adds, bytesRead, whole, Nat.mul_add]
      · simp [adds]
        omega
      · simp [adds]
        omega
      · refine .inr ⟨_, rfl, ?_⟩
        simp [adds]
        omega

theorem Sized.network {action : Action} {answer : Option Completion}
    {waiting : List (Call Completion)} (sized : Sized (session, waiting))
    (moves : network session action = some (next, answer)) :
    Sized (next, waiting ++ answer.toList.map .handler) := by
  obtain ⟨operation, outstanding, outcome⟩ := network_sized moves
  have before := sized.operation operation outstanding
  rcases outcome with ⟨rfl, moved, continues, same, length⟩ |
    ⟨ends, completion, rfl, of, transferred⟩
  · constructor
    · intro further is transfers
      rw [continues] at is
      cases is
      rw [same] at transfers
      exact length.trans (before transfers)
    · simpa using sized.waiting
  · constructor
    · intro further is
      rw [ends] at is
      cases is
    · intro handler count member transfers
      rcases (by simpa using member) with old | new
      · exact sized.waiting handler count old transfers
      · subst new
        have same : handler = operation.handler := of
        rw [transferred handler count rfl]
        exact before (same ▸ transfers)

theorem handle_alternates {completion : Completion}
    {waiting : List (Call Completion)}
    (sized : Sized (session, .handler completion :: waiting))
    (alternates : Alternates blockSize
      (pending (session, .handler completion :: waiting)) past)
    (handles : handle completion session = some next) :
    Sized (next, waiting) ∧ Alternates blockSize (pending (next, waiting))
      (past ++ [.handler completion]) := by
  obtain ⟨idle, _, _⟩ := handle_pending alternates
  have later : ∀ handler count,
      .success handler count ∈ completions waiting → handler ≠ .start →
        count = blockSize := by
    intro handler count member
    apply sized.waiting handler count
    simp [member]
  have starts : ∀ {handler : Block.Handler} {count : Nat}
      {operation : Operation Block.Handler},
      completion = .success handler count →
      next.operation = some operation →
      operation.length = blockSize →
      operation.handler = (if handler = .write then .read else .write) →
      Sized (next, waiting) ∧ Alternates blockSize (pending (next, waiting))
        (past ++ [.handler completion]) := by
    rintro handler count operation rfl started length takesTurns
    have whole : handler ≠ .start → count = blockSize := by
      apply sized.waiting handler count
      simp
    refine ⟨⟨?_, later⟩, alternates.succeeds whole started takesTurns⟩
    intro further is _
    rw [started] at is
    cases is
    exact length
  cases completion with
  | success handler count =>
      obtain ⟨defined, same⟩ := Option.ite_none_left_eq_some.mp handles
      cases same
      cases handler with
      | start =>
          have isOpen : session.isOpen = true := by simpa using defined
          have written : (Block.Client1.callbacks blockSize).success .start
              count session = Block.Client1.Session.write session := by
            simp [Block.Client1.callbacks, Block.Client1.Session.connected,
              isOpen]
          rw [written] at starts ⊢
          exact starts rfl rfl rfl rfl
      | write => exact starts rfl rfl rfl rfl
      | read => exact starts rfl rfl rfl rfl
  | failure handler =>
      cases handles
      have nothing : ∀ counter, adds counter (.failure handler) = 0 := by
        intro counter
        cases counter <;> rfl
      have ended : ((Block.Client1.callbacks blockSize).failure handler
          session).operation = none := by
        cases handler with
        | start => exact idle
        | write => exact (failed_notes session).2.2.trans idle
        | read => exact (failed_notes session).2.2.trans idle
      refine ⟨⟨?_, later⟩, alternates.ends nothing ended⟩
      intro further is
      rw [ended] at is
      cases is

theorem alternates_seen
    (holds : Sized place ∧ Alternates blockSize (pending place) past)
    (seen : Seen (client1 blockSize) place after calls) :
    Sized after ∧ Alternates blockSize (pending after) (past ++ calls) := by
  obtain ⟨sized, alternates⟩ := holds
  cases seen with
  | nothing place =>
      rw [List.append_nil]
      exact ⟨sized, alternates⟩
  | posted session waiting =>
      have same : completions (waiting ++ [.stop]) = completions waiting := by
        simp
      rw [List.append_nil]
      refine ⟨⟨sized.operation, ?_⟩, ?_⟩
      · rw [same]
        exact sized.waiting
      · rw [pending, same]
        exact alternates
  | answer waiting network =>
      rw [List.append_nil]
      refine ⟨sized.network network, ?_⟩
      rw [← (network_pending alternates network).2] at alternates
      exact alternates
  | transfer waiting network =>
      have sameSized := sized.network network
      have samePending := (network_pending alternates network).2
      simp only [Option.toList_none, List.map_nil, List.append_nil]
        at sameSized samePending
      rw [List.append_nil, samePending]
      exact ⟨sameSized, alternates⟩
  | stop session waiting =>
      refine ⟨⟨sized.operation, sized.waiting⟩, ?_⟩
      obtain ⟨bytesWritten, bytesRead, ordered, close, turn⟩ := alternates
      constructor
      · simpa using bytesWritten
      · simpa using bytesRead
      · simpa using ordered
      · simpa using close
      · rcases turn with none | ⟨handler, single, turn⟩
        · exact .inl none
        · refine .inr ⟨handler, single, ?_⟩
          simpa using turn
  | handle waiting handles => exact handle_alternates sized alternates handles
  | @throws session completion waiting handles =>
      obtain ⟨idle, _, _⟩ := handle_pending alternates
      refine ⟨⟨sized.operation, ?_⟩, alternates.ends ?_ idle⟩
      · intro handler count member
        apply sized.waiting handler count
        simp [member]
      · intro counter
        exact (counts blockSize).throws_counters counter handles

section Runs

variable {threadCount sessionCount : Nat} [NeZero threadCount]
  {labels : List (Label threadCount sessionCount Action)}
  {state : State threadCount sessionCount
    (Block.Client1.ClientSession blockSize) Completion}
  {events : List (Executed sessionCount Completion)}

theorem run_alternates
    (run : ((client1 blockSize).recorded (connecting blockSize)).Run
      (started (connecting blockSize), []) labels (state, events))
    (session : Fin sessionCount) :
    Alternates blockSize (pending (state.view session))
      (history session events) := by
  have initial : ∀ session : Fin sessionCount,
      Sized (connecting blockSize session, []) ∧
        Alternates blockSize (pending (connecting blockSize session, []))
          [] := by
    intro session
    refine ⟨⟨?_, by simp⟩, ?_⟩
    · intro operation is transfers
      cases is
      exact absurd rfl transfers
    · exact ⟨rfl, rfl, Nat.le_refl _, Nat.zero_le _, .inr ⟨.start, rfl, rfl⟩⟩
  exact ((seen_run (fun place past => Sized place ∧
    Alternates blockSize (pending place) past)
    (fun holds seen => alternates_seen holds seen) initial run).2 session).2

/-- `client1` prints how many writes and reads have succeeded, and `block_size_`
bytes for each of them; no session is more than one block ahead of what has
come back. -/
theorem block_totals
    (run : ((client1 blockSize).recorded (connecting blockSize)).Run
      (started (connecting blockSize), []) labels (state, events))
    (timeout : Int) :
    let written := executedTally (adds .countWritten) events
    let read := executedTally (adds .countRead) events
    let printed := Client1.report timeout state
    printed.totalCountWritten = UInt64.ofNat written ∧
      printed.totalCountRead = UInt64.ofNat read ∧
      printed.totalBytesWritten = UInt64.ofNat (blockSize * written) ∧
      printed.totalBytesRead = UInt64.ofNat (blockSize * read) ∧
      read ≤ written ∧ written ≤ read + sessionCount := by
  have each := run_alternates run
  have exact : ∀ counter, (Client1.report timeout state).get counter =
      UInt64.ofNat (executedTally (adds counter) events) :=
    report_run (counts blockSize) (fun session counter => by
      cases counter <;> rfl) run timeout
  have ahead : executedTally (adds .countRead) events ≤
      executedTally (adds .countWritten) events + sessionCount * 0 :=
    executedTally_le fun session => (each session).ordered
  have close : executedTally (adds .countWritten) events ≤
      executedTally (adds .countRead) events + sessionCount * 1 :=
    executedTally_le fun session => (each session).close
  intro written read printed
  refine ⟨exact .countWritten, exact .countRead, ?_, ?_, by omega, by omega⟩
  · rw [← executedTally_eq_mul fun session => (each session).bytesWritten]
    exact exact .bytesWritten
  · rw [← executedTally_eq_mul fun session => (each session).bytesRead]
    exact exact .bytesRead

/-- One session writes its block of two bytes in two pieces, reads one back,
and is stopped before the other arrives. -/
theorem block_totals_two :
    ∃ labels state events,
      ((client1 2).recorded (connecting 2)).Run
        ((started (connecting 2) : State 1 1 _ _), []) labels
          (state, events) ∧
      executedTally (adds .countWritten) events = 1 ∧
      (Client1.report 1 state).totalBytesWritten = 2 ∧
      (Client1.report 1 state).totalBytesRead = 0 := by
  let labels : List (Label 1 1 Action) :=
    [.network 0 .complete, .run 0, .network 0 (.send [0]),
      .network 0 (.send [1]), .run 0, .network 0 (.recv [0]), .expire, .run 0,
      .run 0, .run 0, .run 0, .run 0]
  have ends : (((client1 2).recorded (connecting 2)).exec
      ((started (connecting 2) : State 1 1 _ _), []) labels).map
        (fun recorded =>
          (executedTally (adds .countWritten) recorded.2,
            executedTally (adds .countRead) recorded.2)) = some (1, 0) := by
    decide +kernel
  obtain ⟨⟨state, events⟩, moved, rest⟩ := Option.map_eq_some_iff.mp ends
  obtain ⟨written, read⟩ := Prod.mk.inj rest
  have run := System.run_iff_exec.mpr moved
  obtain ⟨_, _, bytesWritten, bytesRead, _⟩ := block_totals run 1
  refine ⟨labels, state, events, run, written, ?_, ?_⟩
  · rw [bytesWritten, written]
    rfl
  · rw [bytesRead, read]
    rfl

end Runs

end Client1

end AsioBenchmark.Shutdown
