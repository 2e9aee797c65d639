import AsioBenchmark.Framed.Outcome
import AsioBenchmark.Shutdown.Program
import AsioBenchmark.Transition.Composition

/-!
# The whole of `client3`

`client` gives its sessions to the threads in turn.  No work object keeps a
thread alive: its `run()` returns when none of its sessions has an operation
outstanding.  When every thread has been joined, `~client` prints how many
sessions failed and how many finished.
-/

namespace AsioBenchmark.Framed

open AsioBenchmark.Bytes AsioBenchmark.Stream AsioBenchmark.Transition

section Threads

variable {threadCount sessionCount : Nat} [NeZero threadCount]

/-- No session of `thread` has an operation outstanding. -/
def Client3.drained (pairs : Fin sessionCount → Pair)
    (thread : Fin threadCount) : Bool :=
  (List.finRange sessionCount).all fun session =>
    !decide (Shutdown.home session = thread) ||
      (pairs session).left.operation.isNone

/-- The sessions, each joined to its session of `server3`, under the threads
whose `run()` has returned.  A handler of the client runs on the thread of its
session; those of the server run elsewhere. -/
def Client3.program (clientCount serverCount : UInt32) :
    Composition sessionCount Pair (Side Action Action)
      (Fin threadCount → Bool) (Fin threadCount) where
  component := pairSystem clientCount serverCount
  permits returned session
    | .left _ => !returned (Shutdown.home session)
    | .right _ => true
  move returned pairs thread :=
    if !returned thread && Client3.drained pairs thread then
      some (Function.update returned thread true)
    else none

abbrev Client3.Program (threadCount sessionCount : Nat) :=
  Composed sessionCount Pair (Fin threadCount → Bool)

/-- `client_test3` against `server_test3`.  Both take the total count as a
`size_t`, and both pass it on as a `uint32_t`. -/
def Client3.programSystem (clientTotal serverTotal : UInt64) :
    System (Client3.Program threadCount sessionCount)
      (Turn sessionCount (Side Action Action) (Fin threadCount)) :=
  (Client3.program clientTotal.toUInt32 serverTotal.toUInt32).system
    fun returned => ∀ thread, returned thread = false

/-- What `~client` prints of the counts. -/
def Client3.Program.report
    (program : Client3.Program threadCount sessionCount) :
    UInt32 × UInt32 :=
  Client3.report
    ((List.finRange sessionCount).map fun session =>
      (program.components session).left)

variable {pairs : Fin sessionCount → Pair} {thread : Fin threadCount}

theorem Client3.drained_iff :
    Client3.drained pairs thread = true ↔
      ∀ session, Shutdown.home session = thread →
        (pairs session).left.operation = none := by
  simp only [Client3.drained, List.all_eq_true, List.mem_finRange,
    true_implies, Bool.or_eq_true, Bool.not_eq_true', decide_eq_false_iff_not,
    Option.isNone_iff_eq_none]
  constructor
  · intro idle session atHome
    rcases idle session with elsewhere | none
    · exact absurd atHome elsewhere
    · exact none
  · intro idle session
    by_cases atHome : Shutdown.home session = thread
    · exact .inr (idle session atHome)
    · exact .inl atHome

theorem Client3.move_iff {clientCount serverCount : UInt32}
    {returned next : Fin threadCount → Bool} :
    (Client3.program clientCount serverCount).move returned pairs thread =
        some next ↔
      returned thread = false ∧ Client3.drained pairs thread = true ∧
        next = Function.update returned thread true := by
  simp only [Client3.program, Bool.and_eq_true, Bool.not_eq_true']
  split
  · rename_i leaves
    simp [leaves, eq_comm]
  · rename_i stays
    simp only [reduceCtorEq, false_iff]
    rintro ⟨running, drained, _⟩
    exact stays ⟨running, drained⟩

end Threads

/-! ## One session -/

section Sessions

variable {clientCount serverCount : UInt32} {pair next : Pair}
  {clientBuffer serverBuffer : Memory maxBlockSize}
  {labels : List (Side Action Action)}

theorem pairSystem_left_idle {action : Action}
    (idle : pair.left.operation = none) :
    (pairSystem clientCount serverCount).step pair (.left action) = none := by
  simp [pairSystem, Joined.step, Joined.stepLeft, clientEndpoint,
    Connection.step_idle idle]

theorem pairSystem_idle_stays {side : Side Action Action}
    (idle : pair.left.operation = none)
    (taken : (pairSystem clientCount serverCount).step pair side =
      some next) : next.left.operation = none := by
  cases side with
  | left action =>
      rw [pairSystem_left_idle idle] at taken
      cases taken
  | right action =>
      obtain ⟨_, _, same⟩ := Joined.stepRight_eq_some_iff.mp taken
      rw [same]
      exact idle

theorem Stage.idle {region : Memory maxBlockSize}
    {client server : List (Event Handler)} {phase : Phase}
    (stage : Stage clientCount serverCount region pair client server phase)
    (idle : pair.left.operation = none) :
    (∃ round received, phase = .refused round received) ∨
      ∃ round, phase = .finished round := by
  cases stage with
  | connecting clientSide =>
      rw [clientSide] at idle
      cases idle
  | request _ sending =>
      cases sending with
      | writing writing =>
          rw [writing.outstanding] at idle
          cases idle
      | written waiting =>
          rw [waiting.outstanding] at idle
          cases idle
  | reply _ receiving =>
      cases receiving with
      | before requesting =>
          rw [requesting.outstanding] at idle
          cases idle
      | head _ reading =>
          rw [reading.outstanding] at idle
          cases idle
      | body _ reading =>
          rw [reading.outstanding] at idle
          cases idle
  | refused => exact .inl ⟨_, _, rfl⟩
  | finished => exact .inr ⟨_, rfl⟩

theorem Stage.finished_iff {region : Memory maxBlockSize}
    {client server : List (Event Handler)} {phase : Phase}
    (valid : phase.Valid clientCount.toNat serverCount.toNat)
    (stage : Stage clientCount serverCount region pair client server phase)
    (final : (∃ round received, phase = .refused round received) ∨
      ∃ round, phase = .finished round) :
    pair.left.data.finished = true ↔
      Phase.lastEven clientCount.toNat ≤ serverCount.toNat := by
  rcases final with ⟨round, received, rfl⟩ | ⟨round, rfl⟩
  · cases stage with
    | refused clientSide =>
        have short := valid.refused_lastEven.1
        rw [clientSide.data]
        simp
        omega
  · cases stage with
    | finished clientSide =>
        have reached := valid.finished_lastEven.2
        rw [clientSide.data]
        simp [reached]

/-- A client that waits for a server that is gone reads the end of the
stream. -/
theorem Waiting.canMove {Data : Type}
    {callbacks : Callbacks maxBlockSize Handler Data}
    {session : Session Data} {queues : Queues} (waiting : Waiting session)
    (drained : queues.incoming = []) :
    CanMove callbacks session false queues := by
  have unfinished : (⟨.read, 0, sizeofHeader, 0, .readHead⟩ :
      Operation Handler).Unfinished := .inl (by decide)
  refine ⟨.fail .read, _, queues,
    Connection.step_fail waiting.outstanding unfinished, ?_⟩
  simp [traffic, Traffic.carry, drained]

/-- When a pair can no longer move, both its sessions are idle. -/
theorem Stage.halted_idle {region : Memory maxBlockSize}
    {client server : List (Event Handler)} {phase : Phase}
    (stage : Stage clientCount serverCount region pair client server phase)
    (halted : (pairSystem clientCount serverCount).Halted pair) :
    pair.left.operation = none ∧ Closed pair.right := by
  have final := stage.halted halted
  cases stage with
  | connecting => simp at final
  | request => simp at final
  | reply => simp at final
  | refused _ left closed toLeft =>
      refine ⟨?_, closed⟩
      rcases left with ⟨sent, writing⟩ | waiting | idle
      · exact absurd halted (not_halted_of_client writing.canMove)
      · refine absurd halted (not_halted_of_client ?_)
        rw [closed.isClosed]
        exact waiting.canMove toLeft
      · exact idle
  | finished _ closed _ right toRight =>
      refine ⟨closed.idle, ?_⟩
      rcases right with writing | waiting | ended
      · exact absurd halted (not_halted_of_server writing.canMove)
      · refine absurd halted (not_halted_of_server ?_)
        rw [closed.isClosed]
        exact waiting.canMove toRight
      · exact ended

theorem run_phase
    (run : (pairSystem clientCount serverCount).Run
      (Pair.starting clientCount serverCount clientBuffer serverBuffer)
      labels pair) :
    ∃ client server, ∃ phase : Phase,
      phase.Valid clientCount.toNat serverCount.toNat ∧
      Stage clientCount serverCount clientBuffer pair client server phase := by
  obtain ⟨events, recorded⟩ := run.record Pair.observe []
  obtain ⟨phase, valid, stage⟩ := run_stage recorded
  exact ⟨_, _, phase, valid, stage⟩

end Sessions

/-! ## The program -/

section Outcome

variable {threadCount sessionCount : Nat} [NeZero threadCount]
  {clientTotal serverTotal : UInt64}
  {start state : Client3.Program threadCount sessionCount}
  {labels : List (Turn sessionCount (Side Action Action) (Fin threadCount))}

theorem Client3.run_returned
    (initial :
      (Client3.programSystem clientTotal serverTotal).Initial start)
    (run : (Client3.programSystem clientTotal serverTotal).Run start labels
      state) (session : Fin sessionCount)
    (returned : state.control (Shutdown.home session) = true) :
    (state.components session).left.operation = none := by
  let Holds (returned : Fin threadCount → Bool)
      (pairs : Fin sessionCount → Pair) : Prop :=
    ∀ session, returned (Shutdown.home session) = true →
      (pairs session).left.operation = none
  have initially : Holds start.control start.components := by
    intro session left
    rw [initial.1] at left
    cases left
  have holds : Holds state.control state.components := by
    refine @Composition.run_invariant _ _ _ _ _ _ _ _ _ Holds ?_ ?_ _
      initially run
    · intro returned pairs index label moved idle taken session left
      by_cases same : session = index
      · subst same
        rw [Function.update_self]
        exact pairSystem_idle_stays (idle session left) taken
      · rw [Function.update_of_ne same]
        exact idle session left
    · intro returned pairs thread next idle moved session left
      obtain ⟨_, drained, rfl⟩ := Client3.move_iff.mp moved
      by_cases atHome : Shutdown.home session = thread
      · exact Client3.drained_iff.mp drained session atHome
      · rw [Function.update_of_ne atHome] at left
        exact idle session left
  exact holds session returned

/-- In every reachable state each session is in a phase of its exchange. -/
theorem Client3.run_session
    (initial :
      (Client3.programSystem clientTotal serverTotal).Initial start)
    (run : (Client3.programSystem clientTotal serverTotal).Run start labels
      state) (session : Fin sessionCount) :
    ∃ region client server, ∃ phase : Phase,
      phase.Valid clientTotal.toUInt32.toNat serverTotal.toUInt32.toNat ∧
      Stage clientTotal.toUInt32 serverTotal.toUInt32 region
        (state.components session) client server phase := by
  obtain ⟨clientBuffer, serverBuffer, starting⟩ := initial.2 session
  have own := Composition.run_component run session
  rw [starting] at own
  obtain ⟨client, server, phase, valid, stage⟩ := run_phase own
  exact ⟨clientBuffer, client, server, phase, valid, stage⟩

/-- Each thread leaves its loop at most once. -/
theorem Client3.move_decreases {clientCount serverCount : UInt32}
    (returned : Fin threadCount → Bool) (pairs : Fin sessionCount → Pair)
    (thread : Fin threadCount) (next : Fin threadCount → Bool)
    (moved : (Client3.program clientCount serverCount).move returned pairs
      thread = some next) :
    total (fun flag => (!flag).toNat) next <
      total (fun flag => (!flag).toNat) returned := by
  obtain ⟨running, _, rfl⟩ := Client3.move_iff.mp moved
  have changed := total_update (fun flag => (!flag).toNat) returned thread true
  simp only [running, Bool.not_false, Bool.toNat_true, Bool.not_true,
    Bool.toNat_false] at changed
  omega

theorem Client3.program_terminates
    (initial :
      (Client3.programSystem clientTotal serverTotal).Initial start) :
    (Client3.programSystem clientTotal serverTotal).Terminates start := by
  refine Composition.terminates Client3.move_decreases ?_
  intro session
  obtain ⟨clientBuffer, serverBuffer, starting⟩ := initial.2 session
  rw [starting]
  exact pair_terminates _ _ _ _

theorem Client3.halted_parts
    (initial :
      (Client3.programSystem clientTotal serverTotal).Initial start)
    (run : (Client3.programSystem clientTotal serverTotal).Run start labels
      state)
    (halted : (Client3.programSystem clientTotal serverTotal).Halted state) :
    (∀ session, (pairSystem clientTotal.toUInt32
      serverTotal.toUInt32).Halted (state.components session)) ∧
      ∀ thread, state.control thread = true := by
  obtain ⟨still, stays⟩ := Composition.halted_iff.mp halted
  have pairs : ∀ session, (pairSystem clientTotal.toUInt32
      serverTotal.toUInt32).Halted (state.components session) := by
    intro session side
    cases side with
    | left action =>
        cases returned : state.control (Shutdown.home session) with
        | true =>
            exact pairSystem_left_idle
              (Client3.run_returned initial run session returned)
        | false =>
            apply still session (.left action)
            simp [Client3.program, returned]
    | right action =>
        apply still session (.right action)
        rfl
  refine ⟨pairs, ?_⟩
  intro thread
  cases returned : state.control thread with
  | true => rfl
  | false =>
      exfalso
      have drained : Client3.drained state.components thread = true := by
        apply Client3.drained_iff.mpr
        intro session _
        obtain ⟨region, client, server, phase, _, stage⟩ :=
          Client3.run_session initial run session
        exact (stage.halted_idle (pairs session)).1
      have leaves : (Client3.program clientTotal.toUInt32
          serverTotal.toUInt32).move state.control state.components thread =
            some (Function.update state.control thread true) :=
        Client3.move_iff.mpr ⟨returned, drained, rfl⟩
      rw [stays thread] at leaves
      cases leaves

theorem Client3.report_snoc (sessions : List Client3.ClientSession)
    (session : Client3.ClientSession) :
    Client3.report (sessions ++ [session]) =
      if session.data.finished then
        ((Client3.report sessions).1, (Client3.report sessions).2 + 1)
      else ((Client3.report sessions).1 + 1, (Client3.report sessions).2) := by
  simp [Client3.report]

theorem Client3.report_uniform (sessions : List Client3.ClientSession)
    (finished : Bool)
    (alike : ∀ session ∈ sessions, session.data.finished = finished) :
    Client3.report sessions =
      if finished then (0, UInt32.ofNat sessions.length)
      else (UInt32.ofNat sessions.length, 0) := by
  induction sessions using List.reverseRecOn with
  | nil => simp [Client3.report]
  | append_singleton sessions session induction =>
      have before := induction fun other member =>
        alike other (List.mem_append_left _ member)
      have last := alike session (by simp)
      rw [Client3.report_snoc, before, last]
      cases finished <;> simp [UInt32.ofNat_add]

/-- Whatever the threads and the network do, `client_test3` returns; a thread
leaves its loop only when its sessions are decided; and the printed counts
follow from the two limits, of which only the low 32 bits matter. -/
theorem Client3.program_outcome
    (initial :
      (Client3.programSystem clientTotal serverTotal).Initial start) :
    (Client3.programSystem clientTotal serverTotal).Terminates start ∧
    ∀ labels state,
      (Client3.programSystem clientTotal serverTotal).Run start labels
        state →
      (∀ session, state.control (Shutdown.home session) = true →
        (state.components session).left.operation = none ∧
        ((state.components session).left.data.finished = true ↔
          Phase.lastEven (clientTotal.toNat % 4294967296) ≤
            serverTotal.toNat % 4294967296)) ∧
      ((Client3.programSystem clientTotal serverTotal).Halted state →
        (∀ thread, state.control thread = true) ∧
        (∀ session, (state.components session).left.operation = none ∧
          (state.components session).right.operation = none ∧
          (state.components session).right.isOpen = false) ∧
        state.report =
          if Phase.lastEven (clientTotal.toNat % 4294967296) ≤
              serverTotal.toNat % 4294967296 then
            (0, UInt32.ofNat sessionCount)
          else (UInt32.ofNat sessionCount, 0)) := by
  refine ⟨Client3.program_terminates initial, ?_⟩
  intro labels state run
  have decided : ∀ session,
      (state.components session).left.operation = none →
      ((state.components session).left.data.finished = true ↔
        Phase.lastEven (clientTotal.toNat % 4294967296) ≤
          serverTotal.toNat % 4294967296) := by
    intro session idle
    obtain ⟨region, client, server, phase, valid, stage⟩ :=
      Client3.run_session initial run session
    exact stage.finished_iff valid (stage.idle idle)
  constructor
  · intro session returned
    have idle := Client3.run_returned initial run session returned
    exact ⟨idle, decided session idle⟩
  · intro halted
    obtain ⟨pairs, returned⟩ := Client3.halted_parts initial run halted
    have ended : ∀ session,
        (state.components session).left.operation = none ∧
          Closed (state.components session).right := by
      intro session
      obtain ⟨region, client, server, phase, _, stage⟩ :=
        Client3.run_session initial run session
      exact stage.halted_idle (pairs session)
    refine ⟨returned, ?_, ?_⟩
    · intro session
      obtain ⟨idle, closed⟩ := ended session
      exact ⟨idle, closed.idle, closed.isClosed⟩
    · have counted := Client3.report_uniform
        ((List.finRange sessionCount).map fun session =>
          (state.components session).left)
        (decide (Phase.lastEven (clientTotal.toNat % 4294967296) ≤
          serverTotal.toNat % 4294967296)) (by
          intro left member
          obtain ⟨session, _, rfl⟩ := List.mem_map.mp member
          rw [Bool.eq_iff_iff, decide_eq_true_iff]
          exact decided session (ended session).1)
      simpa [Client3.Program.report] using counted

/-- Three sessions on two threads ask for 2^32 + 3 messages.  Three of them are
left of that, and a server that allows three refuses every session. -/
theorem Client3.program_outcome_three :
    ∃ labels, ∃ state : Client3.Program 2 3,
      (Client3.programSystem 4294967299 3).Run
        { components := fun _ => Pair.starting 3 3 (.filled maxBlockSize 0)
            (.filled maxBlockSize 0)
          control := fun _ => false } labels state ∧
      (∀ thread, state.control thread = true) ∧ state.report = (3, 0) := by
  let start : Client3.Program 2 3 :=
    { components := fun _ => Pair.starting 3 3 (.filled maxBlockSize 0)
        (.filled maxBlockSize 0)
      control := fun _ => false }
  have initial : (Client3.programSystem 4294967299 3).Initial start :=
    ⟨fun _ => rfl, fun _ => ⟨_, _, rfl⟩⟩
  obtain ⟨terminates, outcome⟩ := Client3.program_outcome initial
  obtain ⟨labels, state, run, halted⟩ := terminates.exists_halted
  obtain ⟨returned, _, printed⟩ := (outcome labels state run).2 halted
  exact ⟨labels, state, run, returned, printed⟩

end Outcome

end AsioBenchmark.Framed
