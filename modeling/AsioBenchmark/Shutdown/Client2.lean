import AsioBenchmark.Pooled.Session
import AsioBenchmark.Shutdown.Program

/-!
# The sessions of `client2` on a thread

The results that the sessions keep until their handlers run are in the queue of
the thread instead, between the tasks of the other sessions.
-/

namespace AsioBenchmark.Shutdown

open AsioBenchmark.Bytes AsioBenchmark.Pooled

namespace Client2

/-- The queued handler of an operation with its result. -/
inductive Completion where
  | started (succeeded : Bool)
  | read (completion : Pooled.Completion)
  | write (completion : Pooled.Completion)

variable {blockSize : Nat}

/-- The result that the network has added goes to the queue of the thread. -/
def takeRead (session next : Pooled.Client2.ClientSession blockSize) :
    Pooled.Client2.ClientSession blockSize × Option Completion :=
  ({ next with readDone := session.readDone },
    next.readDone.getLast?.map .read)

def takeWrite (session next : Pooled.Client2.ClientSession blockSize) :
    Pooled.Client2.ClientSession blockSize × Option Completion :=
  ({ next with writeDone := session.writeDone },
    next.writeDone.getLast?.map .write)

def network (session : Pooled.Client2.ClientSession blockSize) :
    Action → Option (Pooled.Client2.ClientSession blockSize × Option Completion)
  | .started succeeded =>
      if session.starting = true ∧
          (succeeded = true → session.isOpen = true) then
        some ({ session with starting := false }, some (.started succeeded))
      else none
  | .recv chunk => (session.recv chunk).map (takeRead session)
  | .readError => session.readError.map (takeRead session)
  | .send chunk => (session.send chunk).map (takeWrite session)
  | .writeError => session.writeError.map (takeWrite session)
  | .readHandler => none
  | .writeHandler => none
  | .stop => none

/-- `set_option` in the handler of a successful connect throws on a closed
socket. -/
def handle (completion : Completion)
    (session : Pooled.Client2.ClientSession blockSize) :
    Option (Pooled.Client2.ClientSession blockSize) :=
  match completion with
  | .started true =>
      if session.isOpen = true then some (Pooled.Client2.start session)
      else none
  | .started false => some session
  | .read completion =>
      some (Pooled.Client2.readHandler completion.buffer completion.result
        session)
  | .write completion =>
      some (Pooled.Client2.writeHandler completion.buffer completion.result
        session)

def connects : Completion → Bool
  | .started succeeded => succeeded
  | .read _ => false
  | .write _ => false

def failed : Completion → Bool
  | .started succeeded => !succeeded
  | .read completion => completion.result.isNone
  | .write completion => completion.result.isNone

/-- The number of outstanding operations. -/
def effort (session : Pooled.Client2.ClientSession blockSize) : Nat :=
  session.readQueue.length + session.writeQueue.length +
    session.starting.toNat

end Client2

def client2 (blockSize : Nat) :
    Client (Pooled.Client2.ClientSession blockSize) Action
      Client2.Completion where
  network := Client2.network
  handle := Client2.handle
  stop := Pooled.Client2.stop
  isOpen := Session.isOpen
  idle session :=
    !session.starting && session.readQueue.isEmpty &&
      session.writeQueue.isEmpty
  connects := Client2.connects

namespace Client2

variable {blockSize : Nat}
  {session next : Pooled.Client2.ClientSession blockSize} {action : Action}
  {answer : Option Completion}

/-- What the network does to a session. -/
structure Moved (session next : Pooled.Client2.ClientSession blockSize)
    (answer : Option Completion) : Prop where
  isOpen : next.isOpen = session.isOpen
  less : effort next < effort session
  answered : ∃ completion, answer = some completion ∧
    (session.isOpen = false → failed completion = true)

theorem network_moved (moves : network session action = some (next, answer)) :
    Moved session next answer := by
  cases action with
  | started succeeded =>
      obtain ⟨⟨starting, defined⟩, same⟩ :=
        Option.ite_none_right_eq_some.mp moves
      cases same
      refine ⟨rfl, by simp [effort, starting], _, rfl, ?_⟩
      intro closed
      cases succeeded with
      | true => simp [closed] at defined
      | false => rfl
  | recv chunk =>
      obtain ⟨moving, received, taken⟩ := Option.map_eq_some_iff.mp moves
      obtain ⟨buffer, rest, fits, queue, isOpen, _, rfl⟩ :=
        Session.recv_cases received
      simp only [takeRead, List.getLast?_concat, Option.map_some] at taken
      cases taken
      refine ⟨rfl, by simp [effort, queue], _, rfl, ?_⟩
      intro closed
      simp [isOpen] at closed
  | readError =>
      obtain ⟨moving, received, taken⟩ := Option.map_eq_some_iff.mp moves
      obtain ⟨buffer, rest, queue, rfl⟩ := Session.readError_cases received
      simp only [takeRead, List.getLast?_concat, Option.map_some] at taken
      cases taken
      exact ⟨rfl, by simp [effort, queue], _, rfl, fun _ => rfl⟩
  | readHandler => cases moves
  | send chunk =>
      obtain ⟨moving, sent, taken⟩ := Option.map_eq_some_iff.mp moves
      obtain ⟨request, rest, queue, isOpen, _, _, _, rfl⟩ :=
        Session.send_cases sent
      simp only [takeWrite, List.getLast?_concat, Option.map_some] at taken
      cases taken
      refine ⟨rfl, by simp [effort, queue], _, rfl, ?_⟩
      intro closed
      simp [isOpen] at closed
  | writeError =>
      obtain ⟨moving, sent, taken⟩ := Option.map_eq_some_iff.mp moves
      obtain ⟨request, rest, queue, rfl⟩ := Session.writeError_cases sent
      simp only [takeWrite, List.getLast?_concat, Option.map_some] at taken
      cases taken
      exact ⟨rfl, by simp [effort, queue], _, rfl, fun _ => rfl⟩
  | writeHandler => cases moves
  | stop => cases moves

theorem read_effort (session : Pooled.Client2.ClientSession blockSize) :
    session.read.isOpen = session.isOpen ∧
      effort session.read ≤ effort session + 1 := by
  unfold Session.read
  split
  · exact ⟨rfl, Nat.le_succ _⟩
  · refine ⟨rfl, ?_⟩
    simp only [effort, Session.asyncReadSome, List.length_append,
      List.length_singleton]
    omega

theorem write_effort (session : Pooled.Client2.ClientSession blockSize)
    (buffer : BufferId) (length : Nat) :
    (Pooled.Client2.write session buffer length).isOpen = session.isOpen ∧
      effort (Pooled.Client2.write session buffer length) =
        effort session + 1 := by
  refine ⟨rfl, ?_⟩
  simp only [effort, Pooled.Client2.write, Session.write,
    Session.asyncWriteSome, List.length_append, List.length_singleton]
  omega

theorem noteError_effort (session : Pooled.Client2.ClientSession blockSize) :
    (Pooled.Client2.noteError session).isOpen = session.isOpen ∧
      effort (Pooled.Client2.noteError session) = effort session := by
  unfold Pooled.Client2.noteError
  split
  · exact ⟨rfl, rfl⟩
  · exact ⟨rfl, rfl⟩

theorem start_effort (isOpen : session.isOpen = true) :
    (Pooled.Client2.start session).isOpen = session.isOpen ∧
      effort (Pooled.Client2.start session) ≤ effort session + 2 := by
  obtain ⟨kept, more⟩ := read_effort session
  simp only [Pooled.Client2.start, if_pos isOpen, Pooled.Client2.read]
  split
  · exact ⟨kept, by omega⟩
  · rename_i buffer rest _
    obtain ⟨keptWriting, works⟩ :=
      write_effort { session.read with buffers := rest } buffer blockSize
    refine ⟨keptWriting.trans kept, ?_⟩
    rw [works]
    exact Nat.succ_le_succ more

theorem readHandler_effort (buffer : BufferId) (result : Option Nat)
    (session : Pooled.Client2.ClientSession blockSize) :
    (Pooled.Client2.readHandler buffer result session).isOpen =
        session.isOpen ∧
      effort (Pooled.Client2.readHandler buffer result session) ≤
        effort session + 2 ∧
      (result.isNone = true →
        effort (Pooled.Client2.readHandler buffer result session) ≤
          effort session) := by
  cases result with
  | none =>
      obtain ⟨kept, works⟩ := noteError_effort session
      simp only [Pooled.Client2.readHandler]
      exact ⟨kept, by omega, fun _ => Nat.le_of_eq works⟩
  | some count =>
      let counted := { session with
        data := { session.data with
          bytesRead := session.data.bytesRead + UInt64.ofNat count
          countRead := session.data.countRead + 1 } }
      obtain ⟨keptWriting, works⟩ := write_effort counted buffer count
      obtain ⟨kept, more⟩ :=
        read_effort (Pooled.Client2.write counted buffer count)
      have same : effort counted = effort session := rfl
      have bounded :
          effort (Pooled.Client2.write counted buffer count).read ≤
            effort session + 2 := by omega
      exact ⟨kept.trans keptWriting, bounded,
        fun none => absurd none (by simp)⟩

theorem writeHandler_effort (buffer : BufferId) (result : Option Nat)
    (session : Pooled.Client2.ClientSession blockSize) :
    (Pooled.Client2.writeHandler buffer result session).isOpen =
        session.isOpen ∧
      effort (Pooled.Client2.writeHandler buffer result session) ≤
        effort session + 2 ∧
      (result.isNone = true →
        effort (Pooled.Client2.writeHandler buffer result session) ≤
          effort session) := by
  have pushed : effort (session.push buffer) = effort session := rfl
  cases result with
  | none =>
      obtain ⟨kept, works⟩ := noteError_effort (session.push buffer)
      simp only [Pooled.Client2.writeHandler]
      exact ⟨kept, by omega, fun _ => by omega⟩
  | some count =>
      let counted := { session.push buffer with
        data := { (session.push buffer).data with
          bytesWritten :=
            (session.push buffer).data.bytesWritten + UInt64.ofNat count
          countWritten := (session.push buffer).data.countWritten + 1 } }
      obtain ⟨kept, more⟩ := read_effort counted
      have same : effort counted = effort session := rfl
      have bounded : effort counted.read ≤ effort session + 2 := by omega
      simp only [Pooled.Client2.writeHandler]
      split
      · exact ⟨kept, bounded, fun none => absurd none (by simp)⟩
      · exact ⟨rfl, Nat.le_add_right _ 2, fun none => absurd none (by simp)⟩

theorem handle_cases {completion : Completion}
    (handles : handle completion session = some next) :
    next.isOpen = session.isOpen ∧ effort next ≤ effort session + 2 ∧
      (failed completion = true → effort next ≤ effort session) := by
  cases completion with
  | started succeeded =>
      cases succeeded with
      | true =>
          obtain ⟨isOpen, same⟩ := Option.ite_none_right_eq_some.mp handles
          cases same
          obtain ⟨kept, more⟩ := start_effort isOpen
          exact ⟨kept, more, fun isFailed => absurd isFailed (by simp [failed])⟩
      | false =>
          cases handles
          exact ⟨rfl, Nat.le_add_right _ _, fun _ => Nat.le_refl _⟩
  | read completion =>
      cases handles
      exact readHandler_effort completion.buffer completion.result session
  | write completion =>
      cases handles
      exact writeHandler_effort completion.buffer completion.result session

theorem handle_none {completion : Completion} :
    handle completion session = none ↔
      connects completion = true ∧ session.isOpen = false := by
  cases completion with
  | started succeeded =>
      cases succeeded with
      | true => simp [handle, connects]
      | false => simp [handle, connects]
  | read completion => simp [handle, connects]
  | write completion => simp [handle, connects]

/-- Each outstanding operation can fail. -/
theorem network_exists (works : effort session ≠ 0) :
    ∃ event outcome, network session event = some outcome := by
  cases starting : session.starting with
  | true =>
      exact ⟨.started false, _, if_pos ⟨starting, fun succeeded => by
        cases succeeded⟩⟩
  | false =>
      cases reading : session.readQueue with
      | cons buffer rest =>
          refine ⟨.readError, ?_⟩
          simp [network, Session.readError, reading]
      | nil =>
          cases writing : session.writeQueue with
          | cons request rest =>
              refine ⟨.writeError, ?_⟩
              simp [network, Session.writeError, writing]
          | nil => simp [effort, starting, reading, writing] at works

theorem laws (blockSize : Nat) :
    (client2 blockSize).Laws effort failed 2 where
  idle_iff session := by
    simp [client2, effort, and_comm, and_left_comm]
  network_isOpen moves := (network_moved moves).isOpen
  network_effort moves := (network_moved moves).less
  network_none moves := by
    obtain ⟨_, answer, _⟩ := (network_moved moves).answered
    cases answer
  network_closed moves closed := by
    obtain ⟨_, answer, defined⟩ := (network_moved moves).answered
    cases answer
    exact defined closed
  network_exists session works := network_exists works
  handle_isOpen handles := (handle_cases handles).1
  handle_effort handles := (handle_cases handles).2.1
  handle_failed isFailed handles := (handle_cases handles).2.2 isFailed
  handle_none := handle_none
  connects_failed := by
    intro completion isFailed
    cases completion with
    | started succeeded =>
        have same : succeeded = false := by simpa [failed] using isFailed
        exact same
    | read completion => rfl
    | write completion => rfl
  stop_isOpen session := rfl
  stop_effort session := Nat.le_refl _

end Client2

end AsioBenchmark.Shutdown
