import AsioBenchmark.Report.Stats
import AsioBenchmark.Shutdown.Errors
import AsioBenchmark.Shutdown.Outcome

/-!
# The errors that `client1` and `client2` report

The sessions of both programs note errors as `Client.Notes` asks, so that a
report is right in the runs in which no connect fails before the stop task.
-/

namespace AsioBenchmark.Shutdown

open AsioBenchmark.Bytes AsioBenchmark.Stream AsioBenchmark.Transition

/-! ## `client1` -/

namespace Client1

variable {blockSize : Nat}
  {session next : Block.Client1.ClientSession blockSize}

def Completion.of : Completion → Block.Handler
  | .success handler _ => handler
  | .failure handler => handler

/-- The handler of `async_connect`. -/
def answers (completion : Completion) : Bool :=
  decide (completion.of = .start)

def connectFailed (completion : Completion) : Bool :=
  failed completion && answers completion

def flags (blockSize : Nat) :
    Flags (Block.Client1.ClientSession blockSize) Completion where
  error session := session.data.error
  wants session := session.data.wantClose
  failed := failed
  answers := answers
  Connecting session := ∃ operation, session.operation = some operation ∧
    operation.direction = .establish ∧ operation.handler = .start
  Connected session := ∀ operation, session.operation = some operation →
    operation.handler ≠ .start

/-- The network moves the operation on, or ends it and queues its handler. -/
structure Passed (session next : Block.Client1.ClientSession blockSize)
    (answer : Option Completion) (operation : Operation Block.Handler) :
    Prop where
  outstanding : session.operation = some operation
  data : next.data = session.data
  outcome : (answer = none ∧ operation.direction ≠ .establish ∧
      ∃ moved, next.operation = some moved ∧
        moved.handler = operation.handler) ∨
    (next.operation = none ∧ ∃ completion, answer = some completion ∧
      completion.of = operation.handler)

private theorem passed_conclude {operation : Operation Block.Handler}
    {count : Nat} {answer : Option Completion}
    {moving : Block.Client1.ClientSession blockSize}
    (concluded : conclude moving = (next, answer))
    (outstanding : session.operation = some operation)
    (transfers : operation.direction ≠ .establish)
    (data : moving.data = session.data)
    (further : moving.operation =
      some { operation with transferred := operation.transferred + count }) :
    Passed session next answer operation := by
  rcases conclude_cases further with ⟨success, _⟩ | ⟨continues, _⟩
  · rw [success] at concluded
    cases concluded
    exact ⟨outstanding, data, .inr ⟨rfl, _, rfl, rfl⟩⟩
  · rw [continues] at concluded
    cases concluded
    exact ⟨outstanding, data, .inl ⟨rfl, transfers, _, further, rfl⟩⟩

theorem network_passed {action : Action} {answer : Option Completion}
    (moves : network session action = some (next, answer)) :
    ∃ operation, Passed session next answer operation := by
  obtain ⟨operation, outstanding, moves⟩ := Option.bind_eq_some_iff.mp moves
  refine ⟨operation, ?_⟩
  cases action with
  | recv chunk =>
      obtain ⟨moving, received, concluded⟩ := Option.map_eq_some_iff.mp moves
      obtain ⟨_, direction, _, _, _, rfl⟩ :=
        Connection.recv_eq_some_iff.mp received
      exact passed_conclude concluded outstanding (by simp [direction]) rfl rfl
  | send chunk =>
      obtain ⟨moving, sent, concluded⟩ := Option.map_eq_some_iff.mp moves
      obtain ⟨direction, _, _, _, _, _, rfl⟩ :=
        Connection.send_eq_some_iff.mp sent
      exact passed_conclude concluded outstanding (by simp [direction]) rfl rfl
  | complete =>
      obtain ⟨⟨_, whole⟩, same⟩ := Option.ite_none_right_eq_some.mp moves
      have concluded : conclude session = (next, answer) :=
        Option.some.inj same
      rcases conclude_cases outstanding with ⟨success, _⟩ | ⟨_, short⟩
      · rw [success] at concluded
        cases concluded
        exact ⟨outstanding, rfl, .inr ⟨rfl, _, rfl, rfl⟩⟩
      · exact absurd whole short
  | fail direction =>
      obtain ⟨_, same⟩ := Option.ite_none_right_eq_some.mp moves
      cases same
      exact ⟨outstanding, rfl, .inr ⟨rfl, _, rfl, rfl⟩⟩

/-- A handler of a success notes nothing, and starts a read or a write. -/
theorem success_notes (handler : Block.Handler) (count : Nat)
    (defined : ¬ (handler = .start ∧ session.isOpen = false)) :
    let next := (Block.Client1.callbacks blockSize).success handler count
      session
    next.data.wantClose = session.data.wantClose ∧
      next.data.error = session.data.error ∧
      ∀ operation, next.operation = some operation →
        operation.handler ≠ .start := by
  cases handler with
  | start =>
      have isOpen : session.isOpen = true := by simpa using defined
      simp only [Block.Client1.callbacks, Block.Client1.Session.connected,
        if_pos isOpen]
      exact ⟨rfl, rfl, fun operation same => by cases same; simp⟩
  | write => exact ⟨rfl, rfl, fun operation same => by cases same; simp⟩
  | read => exact ⟨rfl, rfl, fun operation same => by cases same; simp⟩

theorem failed_notes (session : Block.Client1.ClientSession blockSize) :
    (Block.Client1.Session.failed session).data.wantClose =
        session.data.wantClose ∧
      (Block.Client1.Session.failed session).data.error =
        (session.data.error || !session.data.wantClose) ∧
      (Block.Client1.Session.failed session).operation =
        session.operation := by
  unfold Block.Client1.Session.failed
  split
  · rename_i wants
    exact ⟨rfl, by simp [wants], rfl⟩
  · rename_i wants
    exact ⟨rfl, by simp [wants], rfl⟩

theorem notes (blockSize : Nat) :
    (client1 blockSize).Notes (flags blockSize) where
  network_flags moves := by
    obtain ⟨operation, passed⟩ := network_passed moves
    exact ⟨congrArg Block.Client1.Fields.wantClose passed.data,
      congrArg Block.Client1.Fields.error passed.data⟩
  handle_flags := by
    intro session completion next handles
    cases completion with
    | success handler count =>
        obtain ⟨defined, same⟩ := Option.ite_none_left_eq_some.mp handles
        cases same
        obtain ⟨wants, error, _⟩ := success_notes handler count defined
        exact ⟨wants, error.trans (Bool.or_false _).symm⟩
    | failure handler =>
        cases handles
        obtain ⟨wants, error, _⟩ := failed_notes session
        cases handler with
        | start => exact ⟨rfl, (Bool.or_false _).symm⟩
        | write => exact ⟨wants, error⟩
        | read => exact ⟨wants, error⟩
  stop_flags session := ⟨rfl, rfl⟩
  connecting_network := by
    rintro session event next answer moves ⟨operation, is, establishes, starts⟩
    obtain ⟨other, outstanding, _, outcome⟩ := network_passed moves
    have same : operation = other := Option.some.inj (is.symm.trans outstanding)
    subst same
    rcases outcome with ⟨_, transfers, _⟩ | ⟨none, completion, answered, of⟩
    · exact absurd establishes transfers
    · refine ⟨completion, answered, ?_, ?_⟩
      · simp [flags, answers, of, starts]
      · simp [client1, none]
  connected_network := by
    intro session event next answer moves connected
    obtain ⟨operation, outstanding, _, outcome⟩ := network_passed moves
    have other := connected operation outstanding
    rcases outcome with ⟨none, _, moved, continues, same⟩ |
      ⟨ends, completion, answered, of⟩
    · refine ⟨?_, fun handler impossible => ?_⟩
      · intro further is
        rw [continues] at is
        cases is
        rw [same]
        exact other
      · rw [none] at impossible
        cases impossible
    · refine ⟨?_, fun handler is => ?_⟩
      · intro further is
        rw [ends] at is
        cases is
      · rw [answered] at is
        cases is
        simp [flags, answers, of, other]
  handle_connected := by
    intro session completion next handles connected
    cases completion with
    | success handler count =>
        obtain ⟨defined, same⟩ := Option.ite_none_left_eq_some.mp handles
        cases same
        exact (success_notes handler count defined).2.2
    | failure handler =>
        cases handles
        obtain ⟨_, _, operation⟩ := failed_notes session
        cases handler with
        | start => exact connected
        | write =>
            intro further is
            exact connected further (operation.symm.trans is)
        | read =>
            intro further is
            exact connected further (operation.symm.trans is)
  handle_refused := by
    intro session completion next handles refused
    cases completion with
    | success handler count => cases refused
    | failure handler =>
        have starts : handler = .start :=
          of_decide_eq_true (Bool.and_eq_true_iff.mp refused).2
        subst starts
        cases handles
        rfl
  idle_connected := by
    intro session idle operation outstanding
    simp [client1, outstanding] at idle
  stop_connecting := by
    rintro session ⟨operation, connecting⟩
    exact ⟨operation, connecting⟩
  stop_connected connected := connected

end Client1

/-! ## `client2` -/

namespace Client2

variable {blockSize : Nat}
  {session next : Pooled.Client2.ClientSession blockSize}

/-- The handler of `async_connect`. -/
def answers : Completion → Bool
  | .started _ => true
  | .read _ => false
  | .write _ => false

def connectFailed (completion : Completion) : Bool :=
  failed completion && answers completion

def flags (blockSize : Nat) :
    Flags (Pooled.Client2.ClientSession blockSize) Completion where
  error session := session.data.error
  wants session := session.data.wantClose
  failed := failed
  answers := answers
  Connecting session := session.starting = true ∧ session.readQueue = [] ∧
    session.writeQueue = []
  Connected session := session.starting = false

/-- The network ends the connect, or a read or a write. -/
structure Passed (session next : Pooled.Client2.ClientSession blockSize)
    (answer : Option Completion) : Prop where
  data : next.data = session.data
  starting : next.starting = false ∨ next.starting = session.starting
  outcome : ∃ completion, answer = some completion ∧
    ((answers completion = true ∧ session.starting = true ∧
        next.starting = false ∧ next.readQueue = session.readQueue ∧
        next.writeQueue = session.writeQueue) ∨
      (answers completion = false ∧
        (session.readQueue ≠ [] ∨ session.writeQueue ≠ [])))

theorem network_passed {action : Pooled.Action} {answer : Option Completion}
    (moves : network session action = some (next, answer)) :
    Passed session next answer := by
  cases action with
  | started succeeded =>
      obtain ⟨⟨starting, _⟩, same⟩ := Option.ite_none_right_eq_some.mp moves
      cases same
      exact ⟨rfl, .inl rfl, _, rfl, .inl ⟨rfl, starting, rfl, rfl, rfl⟩⟩
  | recv chunk =>
      obtain ⟨moving, received, taken⟩ := Option.map_eq_some_iff.mp moves
      obtain ⟨buffer, rest, fits, queue, isOpen, _, rfl⟩ :=
        Pooled.Session.recv_cases received
      simp only [takeRead, List.getLast?_concat, Option.map_some] at taken
      cases taken
      exact ⟨rfl, .inr rfl, _, rfl, .inr ⟨rfl, .inl (by simp [queue])⟩⟩
  | readError =>
      obtain ⟨moving, received, taken⟩ := Option.map_eq_some_iff.mp moves
      obtain ⟨buffer, rest, queue, rfl⟩ :=
        Pooled.Session.readError_cases received
      simp only [takeRead, List.getLast?_concat, Option.map_some] at taken
      cases taken
      exact ⟨rfl, .inr rfl, _, rfl, .inr ⟨rfl, .inl (by simp [queue])⟩⟩
  | readHandler => cases moves
  | send chunk =>
      obtain ⟨moving, sent, taken⟩ := Option.map_eq_some_iff.mp moves
      obtain ⟨request, rest, queue, isOpen, _, _, _, rfl⟩ :=
        Pooled.Session.send_cases sent
      simp only [takeWrite, List.getLast?_concat, Option.map_some] at taken
      cases taken
      exact ⟨rfl, .inr rfl, _, rfl, .inr ⟨rfl, .inr (by simp [queue])⟩⟩
  | writeError =>
      obtain ⟨moving, sent, taken⟩ := Option.map_eq_some_iff.mp moves
      obtain ⟨request, rest, queue, rfl⟩ :=
        Pooled.Session.writeError_cases sent
      simp only [takeWrite, List.getLast?_concat, Option.map_some] at taken
      cases taken
      exact ⟨rfl, .inr rfl, _, rfl, .inr ⟨rfl, .inr (by simp [queue])⟩⟩
  | writeHandler => cases moves
  | stop => cases moves

theorem read_notes {counted : Pooled.Client2.ClientSession blockSize}
    (wants : counted.data.wantClose = session.data.wantClose)
    (error : counted.data.error = session.data.error)
    (starting : counted.starting = session.starting) :
    (Pooled.Client2.read counted).data.wantClose = session.data.wantClose ∧
      (Pooled.Client2.read counted).data.error =
        (session.data.error || (false && !session.data.wantClose)) ∧
      (Pooled.Client2.read counted).starting = session.starting := by
  obtain ⟨_, _, _, _, keeps, _, _, data⟩ := counted.read_frame
  refine ⟨?_, ?_, keeps.trans starting⟩
  · exact (congrArg Pooled.Client2.Fields.wantClose data).trans wants
  · rw [Bool.false_and, Bool.or_false]
    exact (congrArg Pooled.Client2.Fields.error data).trans error

theorem noteError_notes (session : Pooled.Client2.ClientSession blockSize) :
    (Pooled.Client2.noteError session).data.wantClose =
        session.data.wantClose ∧
      (Pooled.Client2.noteError session).data.error =
        (session.data.error || !session.data.wantClose) ∧
      (Pooled.Client2.noteError session).starting = session.starting := by
  unfold Pooled.Client2.noteError
  split
  · rename_i wants
    exact ⟨rfl, by simp [wants], rfl⟩
  · rename_i wants
    exact ⟨rfl, by simp [wants], rfl⟩

theorem handle_notes {completion : Completion}
    (handles : handle completion session = some next) :
    next.data.wantClose = session.data.wantClose ∧
      next.data.error = (session.data.error ||
        ((flags blockSize).broken completion && !session.data.wantClose)) ∧
      next.starting = session.starting := by
  cases completion with
  | started succeeded =>
      cases succeeded with
      | true =>
          obtain ⟨isOpen, same⟩ := Option.ite_none_right_eq_some.mp handles
          cases same
          obtain ⟨wants, error, starting⟩ := @read_notes _ session session
            rfl rfl rfl
          simp only [Pooled.Client2.start, if_pos isOpen]
          split
          · exact ⟨wants, error, starting⟩
          · exact ⟨wants, error, starting⟩
      | false =>
          cases handles
          exact ⟨rfl, (Bool.or_false _).symm, rfl⟩
  | read completion =>
      cases handles
      obtain ⟨buffer, result⟩ := completion
      cases result with
      | none => exact noteError_notes session
      | some count => exact read_notes rfl rfl rfl
  | write completion =>
      cases handles
      obtain ⟨buffer, result⟩ := completion
      cases result with
      | none => exact noteError_notes (session.push buffer)
      | some count =>
          simp only [Pooled.Client2.writeHandler]
          split
          · exact read_notes rfl rfl rfl
          · exact ⟨rfl, (Bool.or_false _).symm, rfl⟩

theorem notes (blockSize : Nat) :
    (client2 blockSize).Notes (flags blockSize) where
  network_flags moves := by
    have passed := network_passed moves
    exact ⟨congrArg Pooled.Client2.Fields.wantClose passed.data,
      congrArg Pooled.Client2.Fields.error passed.data⟩
  handle_flags handles := by
    obtain ⟨wants, error, _⟩ := handle_notes handles
    exact ⟨wants, error⟩
  stop_flags session := ⟨rfl, rfl⟩
  connecting_network := by
    rintro session event next answer moves ⟨starting, reading, writing⟩
    obtain ⟨_, _, completion, answered, connect | ⟨_, other⟩⟩ :=
      network_passed moves
    · obtain ⟨isAnswer, _, ends, noRead, noWrite⟩ := connect
      refine ⟨completion, answered, isAnswer, ?_⟩
      simp [client2, ends, noRead, noWrite, reading, writing]
    · simp [reading, writing] at other
  connected_network := by
    intro session event next answer moves connected
    obtain ⟨_, still, completion, answered, connect | ⟨other, _⟩⟩ :=
      network_passed moves
    · obtain ⟨_, starting, _⟩ := connect
      rw [show session.starting = false from connected] at starting
      cases starting
    · refine ⟨still.elim id fun same => same.trans connected, ?_⟩
      intro handler is
      rw [answered] at is
      cases is
      exact other
  handle_connected handles connected :=
    (handle_notes handles).2.2.trans connected
  handle_refused := by
    intro session completion next handles refused
    cases completion with
    | started succeeded =>
        cases succeeded with
        | true => cases refused
        | false =>
            cases handles
            rfl
    | read completion =>
        have impossible := (Bool.and_eq_true_iff.mp refused).2
        cases impossible
    | write completion =>
        have impossible := (Bool.and_eq_true_iff.mp refused).2
        cases impossible
  idle_connected := by
    intro session idle
    simp only [client2, Bool.and_eq_true, Bool.not_eq_true'] at idle
    exact idle.1.1
  stop_connecting connecting := connecting
  stop_connected connected := connected

end Client2

/-! ## The reports -/

section Reports

variable {blockSize threadCount sessionCount : Nat}

/-- The statistics that `~client` of `client1` prints. -/
def Client1.report (timeout : Int)
    (state : State threadCount sessionCount
      (Block.Client1.ClientSession blockSize) Client1.Completion) :
    Report.Stats :=
  Report.collect timeout ((List.finRange sessionCount).map fun session =>
    Report.ofBlock (state.sessions session).data)

/-- The statistics that `~client` of `client2` prints. -/
def Client2.report (timeout : Int)
    (state : State threadCount sessionCount
      (Pooled.Client2.ClientSession blockSize) Client2.Completion) :
    Report.Stats :=
  Report.collect timeout ((List.finRange sessionCount).map fun session =>
    Report.ofPooled (state.sessions session).data)

end Reports

/-- `error` tells for each session whether an operation has failed before the
stop task, and the total is the number of these sessions. -/
def ErrorsReported {sessionCount : Nat} (error failed : Fin sessionCount → Bool)
    (total : UInt64) : Prop :=
  (∀ session, error session = failed session) ∧
    total.toNat = (List.finRange sessionCount).countP failed

/-- The total is right when the flags are: there are fewer than 2^64
sessions. -/
private theorem errorsReported_iff {sessionCount : UInt64} (timeout : Int)
    (counters : Fin sessionCount.toNat → Report.Counters)
    (failed : Fin sessionCount.toNat → Bool) :
    ErrorsReported (fun session => (counters session).error) failed
        (Report.collect timeout
          ((List.finRange sessionCount.toNat).map counters)).totalErrorCount ↔
      ∀ session, (counters session).error = failed session := by
  constructor
  · intro reported
    exact reported.1
  · intro right
    refine ⟨right, ?_⟩
    have same : (fun session => (counters session).error) = failed :=
      funext right
    have few : (List.finRange sessionCount.toNat).countP failed <
        UInt64.size := by
      have bounded := (List.finRange sessionCount.toNat).countP_le_length
        (p := failed)
      rw [List.length_finRange] at bounded
      exact Nat.lt_of_le_of_lt bounded sessionCount.toNat_lt
    rw [Report.collect_totalErrorCount, List.countP_map]
    change (UInt64.ofNat ((List.finRange sessionCount.toNat).countP
      fun session => (counters session).error)).toNat = _
    rw [same, UInt64.toNat_ofNat_of_lt' few]

/-- In every run of both programs `error_` and `total_error_count_` tell which
sessions had an operation that failed before their stop task, if and only if no
connect has failed before the stop task of its session. -/
theorem errors_reported_iff {threadCount : Nat} [NeZero threadCount]
    (sessionCount : UInt64) (blockSize : Nat) (timeout : Int) :
    (∀ (labels : List (Label threadCount sessionCount.toNat Stream.Action))
        state events,
      ((client1 blockSize).recorded (Client1.connecting blockSize)).Run
        (started (Client1.connecting blockSize), []) labels (state, events) →
      (ErrorsReported (fun session => (state.sessions session).data.error)
          (failedBeforeStop Client1.failed events)
          (Client1.report timeout state).totalErrorCount ↔
        ∀ session,
          failedBeforeStop Client1.connectFailed events session = false)) ∧
    ∀ heaps (labels : List (Label threadCount sessionCount.toNat
        Pooled.Action)) state events,
      ((client2 blockSize).recorded (Client2.connecting heaps)).Run
        (started (Client2.connecting heaps), []) labels (state, events) →
      (ErrorsReported (fun session => (state.sessions session).data.error)
          (failedBeforeStop Client2.failed events)
          (Client2.report timeout state).totalErrorCount ↔
        ∀ session,
          failedBeforeStop Client2.connectFailed events session = false) := by
  constructor
  · intro labels state events run
    have each := error_run_iff (Client1.laws blockSize)
      (Client1.notes blockSize) (fun session => ⟨_, rfl, rfl, rfl⟩)
      (fun session => ⟨rfl, rfl⟩) run
    have total := errorsReported_iff timeout
      (fun session => Report.ofBlock (state.sessions session).data)
      (failedBeforeStop Client1.failed events)
    exact total.trans (forall_congr' each)
  · intro heaps labels state events run
    have each := error_run_iff (Client2.laws blockSize)
      (Client2.notes blockSize) (fun session => ⟨rfl, rfl, rfl⟩)
      (fun session => ⟨rfl, rfl⟩) run
    have total := errorsReported_iff timeout
      (fun session => Report.ofPooled (state.sessions session).data)
      (failedBeforeStop Client2.failed events)
    exact total.trans (forall_congr' each)

/-- A write of the only session fails before its stop task, and `client1`
reports one error. -/
theorem errors_reported_write :
    ∃ (state : State 1 1 (Block.Client1.ClientSession 1) Client1.Completion)
      (events : List (Executed 1 Client1.Completion)),
      (state.sessions 0).data.error = true ∧
        ErrorsReported (fun session => (state.sessions session).data.error)
          (failedBeforeStop Client1.failed events)
          (Client1.report 1 state).totalErrorCount := by
  let labels : List (Label 1 1 Stream.Action) :=
    [.network 0 .complete, .run 0, .network 0 (.fail .write), .run 0, .expire,
      .run 0, .run 0, .run 0, .run 0, .run 0]
  have ends : (((client1 1).recorded (Client1.connecting 1)).exec
      (started (Client1.connecting 1), []) labels).map (fun recorded =>
        ((recorded.1.sessions 0).data.error,
          failedBeforeStop Client1.connectFailed recorded.2 0)) =
      some (true, false) := by
    decide +kernel
  obtain ⟨⟨state, events⟩, moved, rest⟩ := Option.map_eq_some_iff.mp ends
  obtain ⟨error, noConnect⟩ := Prod.mk.inj rest
  have run := System.run_iff_exec.mpr moved
  have alone : ∀ session : Fin 1,
      failedBeforeStop Client1.connectFailed events session = false := by
    intro session
    rw [Subsingleton.elim session 0]
    exact noConnect
  exact ⟨state, events, error,
    ((errors_reported_iff 1 1 1).1 labels state events run).mpr alone⟩

/-- The connect of the only session is refused, and no error is reported. -/
theorem refused_not_reported :
    (¬ ∀ (labels : List (Label 1 1 Stream.Action)) state events,
      ((client1 1).recorded (Client1.connecting 1)).Run
        (started (Client1.connecting 1), []) labels (state, events) →
      ErrorsReported (fun session => (state.sessions session).data.error)
        (failedBeforeStop Client1.failed events)
        (Client1.report 1 state).totalErrorCount) ∧
    ¬ ∀ (labels : List (Label 1 1 Pooled.Action)) state events,
      ((client2 1).recorded (Client2.connecting fun _ _ => .filled 1 0)).Run
        (started (Client2.connecting fun _ _ => .filled 1 0), []) labels
          (state, events) →
      ErrorsReported (fun session => (state.sessions session).data.error)
        (failedBeforeStop Client2.failed events)
        (Client2.report 1 state).totalErrorCount := by
  constructor
  · intro always
    have ends : (((client1 1).recorded (Client1.connecting 1)).exec
        ((started (Client1.connecting 1) : State 1 1 _ _), [])
        [.network 0 (.fail .establish), .run 0]).map (fun recorded =>
          ((recorded.1.sessions 0).data.error,
            failedBeforeStop Client1.failed recorded.2 0)) =
        some (false, true) := by
      decide +kernel
    obtain ⟨⟨state, events⟩, moved, rest⟩ := Option.map_eq_some_iff.mp ends
    have same := (always _ _ _ (System.run_iff_exec.mpr moved)).1 0
    obtain ⟨error, failed⟩ := Prod.mk.inj rest
    exact Bool.false_ne_true (error.symm.trans (same.trans failed))
  · intro always
    have ends : (((client2 1).recorded
        (Client2.connecting fun _ _ => .filled 1 0)).exec
          ((started (Client2.connecting fun _ _ => .filled 1 0) :
            State 1 1 _ _), [])
          [.network 0 (.started false), .run 0]).map (fun recorded =>
            ((recorded.1.sessions 0).data.error,
              failedBeforeStop Client2.failed recorded.2 0)) =
        some (false, true) := by
      decide +kernel
    obtain ⟨⟨state, events⟩, moved, rest⟩ := Option.map_eq_some_iff.mp ends
    have same := (always _ _ _ (System.run_iff_exec.mpr moved)).1 0
    obtain ⟨error, failed⟩ := Prod.mk.inj rest
    exact Bool.false_ne_true (error.symm.trans (same.trans failed))

end AsioBenchmark.Shutdown
