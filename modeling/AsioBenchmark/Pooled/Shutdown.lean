import AsioBenchmark.Pooled.Drain
import AsioBenchmark.Pooled.Progress

/-!
# The end of a connection

A session does something only for bytes that arrive: each of them pays for a
bounded number of steps.  Once a client has closed its socket no more bytes come
to its server session, which therefore reads what is left in the stream, sees
its end, closes its own socket and comes to rest as well.
-/

namespace AsioBenchmark.Pooled

open AsioBenchmark.Bytes AsioBenchmark.Stream AsioBenchmark.Transition

variable {blockSize : Nat} {Data : Type}

/-! ## The account of a session -/

/-- The handler of a read that succeeded starts a read and a write. -/
def Completion.readCredit (completion : Completion) : Nat :=
  if completion.result.isSome then 7 else 1

/-- The handler of a write that succeeded may start a read. -/
def Completion.writeCredit (completion : Completion) : Nat :=
  if completion.result.isSome then 3 else 1

/-- What a session can do without further bytes. -/
def Session.account (session : Session blockSize Data) : Nat :=
  (session.readDone.map Completion.readCredit).sum +
    2 * session.readQueue.length +
    (session.writeDone.map Completion.writeCredit).sum +
    4 * session.writeQueue.length +
    (if session.starting = true then 7 else 0)

/-- The bytes that an action takes from the stream. -/
def Action.received : Action → Nat
  | .recv chunk => chunk.length
  | _ => 0

/-- Handlers that start no more than the account pays for. -/
structure Economical (handlers : Handlers blockSize Data) : Prop where
  subsides : Subsides handlers
  started : ∀ session : Session blockSize Data,
    (handlers.started session).account ≤ session.account + 6
  starting : ∀ buffer result (session : Session blockSize Data),
    (handlers.readHandler buffer result session).starting =
        session.starting ∧
      (handlers.writeHandler buffer result session).starting =
        session.starting
  stopped : ∀ (session next : Session blockSize Data),
    handlers.stop session = some next → next.starting = session.starting

section Steps

variable {handlers : Handlers blockSize Data}
  {session next : Session blockSize Data} {action : Action}

theorem Session.Starts.account_le {reads writes : Nat}
    (starts : session.Starts next reads writes)
    (starting : next.starting = session.starting) :
    next.account ≤ session.account + 2 * reads + 4 * writes := by
  have readQueue := starts.readQueue
  have writeQueue := starts.writeQueue
  simp only [Session.account, starts.readDone, starts.writeDone, starting]
  omega

/-- The credit of an operation pays for its handler and what that starts. -/
theorem Session.Starts.pays {reads writes total : Nat}
    (starts : session.Starts next reads writes)
    (starting : next.starting = session.starting)
    (credit : 1 + 2 * reads + 4 * writes + session.account ≤ total) :
    1 + next.account ≤ total := by
  have added := starts.account_le starting
  omega

/-- Any step but the stop task is paid for from the account, or by the bytes
that it takes from the stream. -/
theorem Session.Step.pays (economical : Economical handlers)
    (positive : 1 ≤ blockSize ∨ session.isOpen = false)
    (taken : Session.Step handlers session action next)
    (counts : action ≠ .stop) :
    1 + next.account ≤ session.account + 6 * action.received := by
  have subsides := economical.subsides
  cases taken with
  | started starting =>
      have begun := economical.started { session with starting := false }
      have paid : Session.account { session with starting := false } + 7 =
          session.account := by
        simp [account, starting]
      omega
  | notStarted starting =>
      have paid : Session.account { session with starting := false } + 7 =
          session.account := by
        simp [account, starting]
      omega
  | @recv buffer rest chunk queue fits isOpen arrives =>
      have some : 1 ≤ chunk.length := by
        rcases arrives with bytes | empty
        · exact List.length_pos_iff.mpr bytes
        · rcases positive with room | closed
          · omega
          · exact absurd (isOpen.symm.trans closed) (by simp)
      simp only [account, queue, Action.received, List.map_append,
        List.map_cons, List.map_nil, List.sum_append, List.sum_singleton,
        List.length_cons, Completion.readCredit, Option.isSome_some, if_true]
      omega
  | @readError buffer rest queue =>
      have credit : Completion.readCredit ⟨buffer, none⟩ = 1 := rfl
      simp only [account, queue, List.map_append, List.map_cons, List.map_nil,
        List.sum_append, List.sum_singleton, List.length_cons, credit]
      omega
  | @readHandler completion rest done =>
      have popped : completion.readCredit +
          Session.account { session with readDone := rest } =
            session.account := by
        simp only [account, done, List.map_cons, List.sum_cons]
        omega
      obtain ⟨buffer, result⟩ := completion
      have starting := (economical.starting buffer result
        { session with readDone := rest }).1
      cases result with
      | none =>
          have credit : 1 + _ = _ := popped
          have starts := subsides.readError buffer
            { session with readDone := rest }
          exact starts.pays starting (by omega)
      | some count =>
          have credit : 7 + _ = _ := popped
          have starts := subsides.read buffer count
            { session with readDone := rest }
          exact starts.pays starting (by omega)
  | send queue isOpen moves room content =>
      simp only [account, queue, List.map_append, List.map_cons, List.map_nil,
        List.sum_append, List.sum_singleton, List.length_cons,
        Completion.writeCredit, Option.isSome_some, if_true]
      omega
  | @writeError request rest queue =>
      have credit : Completion.writeCredit ⟨request.buffer, none⟩ = 1 := rfl
      simp only [account, queue, List.map_append, List.map_cons, List.map_nil,
        List.sum_append, List.sum_singleton, List.length_cons, credit]
      omega
  | @writeHandler completion rest done =>
      have popped : completion.writeCredit +
          Session.account { session with writeDone := rest } =
            session.account := by
        simp only [account, done, List.map_cons, List.sum_cons]
        omega
      obtain ⟨buffer, result⟩ := completion
      have starting := (economical.starting buffer result
        { session with writeDone := rest }).2
      cases result with
      | none =>
          have credit : 1 + _ = _ := popped
          have starts := subsides.writeError buffer
            { session with writeDone := rest }
          exact starts.pays starting (by omega)
      | some count =>
          have credit : 3 + _ = _ := popped
          have starts := subsides.write buffer count
            { session with writeDone := rest }
          exact starts.pays starting (by omega)
  | stop stopped => exact absurd rfl counts

theorem Session.account_le (session : Session blockSize Data) :
    session.account ≤
      7 * session.reads.length + 4 * session.writes.length + 7 := by
  have readDone : (session.readDone.map Completion.readCredit).sum ≤
      7 * session.readDone.length := by
    apply sum_weight_le
    intro completion
    unfold Completion.readCredit
    split <;> omega
  have writeDone : (session.writeDone.map Completion.writeCredit).sum ≤
      3 * session.writeDone.length := by
    apply sum_weight_le
    intro completion
    unfold Completion.writeCredit
    split <;> omega
  have start : (if session.starting = true then 7 else 0) ≤ 7 := by
    split <;> omega
  simp only [account, reads, writes, List.length_append, List.length_map]
  omega

end Steps

/-! ## The two programs -/

theorem Session.starting_read (session : Session blockSize Data) :
    session.read.starting = session.starting :=
  session.read_frame.2.2.2.2.1

theorem Session.account_read (session : Session blockSize Data) :
    session.read.account ≤ session.account + 2 :=
  session.starts_read.account_le session.starting_read

theorem Server2.writeHandler_none (buffer : BufferId)
    (session : ServerSession blockSize) :
    writeHandler buffer none session = (session.push buffer).close := by
  simp [writeHandler]

theorem Server2.economical (blockSize : Nat) :
    Economical (handlers blockSize) where
  subsides := subsides blockSize
  started session := Nat.le_trans session.account_read (by omega)
  starting buffer result session := by
    constructor
    · cases result with
      | none => rfl
      | some count => exact Session.starting_read _
    · cases result with
      | none =>
          simp only [handlers, writeHandler_none]
          rfl
      | some count =>
          simp only [handlers, writeHandler_some]
          split
          · exact Session.starting_read _
          · rfl
  stopped session next stopped := by cases stopped

theorem Client2.starting_noteError (session : ClientSession blockSize) :
    (noteError session).starting = session.starting := by
  unfold noteError
  split
  · rfl
  · rfl

theorem Client2.account_start (session : ClientSession blockSize) :
    (start session).account ≤ session.account + 6 := by
  have reading := session.account_read
  simp only [start]
  split
  · split
    · exact Nat.le_trans reading (by omega)
    · rename_i buffer rest _
      have popped : Session.account { read session with buffers := rest } =
          session.read.account := rfl
      have writing := Session.starts_write
        { read session with buffers := rest } buffer blockSize
      have added := writing.account_le rfl
      exact Nat.le_trans added (by omega)
  · exact Nat.le_add_right _ 6

theorem Client2.economical (blockSize : Nat) :
    Economical (handlers blockSize) where
  subsides := subsides blockSize
  started := account_start
  starting buffer result session := by
    constructor
    · cases result with
      | none => exact starting_noteError _
      | some count => exact Session.starting_read _
    · cases result with
      | none => exact starting_noteError _
      | some count =>
          simp only [handlers, writeHandler]
          split
          · exact Session.starting_read _
          · rfl
  stopped session next stopped := by
    cases stopped
    rfl

/-! ## A server session watches its socket -/

/-- As long as the socket of a server session is open no buffer is lost, and
after the accept handler the session listens or waits for its writes. -/
structure Server2.Watching (session : ServerSession blockSize) : Prop where
  runs : session.threw = false
  full : session.isOpen = true →
    session.places.Perm (List.finRange kMaxStackSize)
  attentive : session.starting = false → session.isOpen = true →
    session.Attentive

namespace Server2

variable {session next : ServerSession blockSize} {action : Action}

theorem open_read (session : ServerSession blockSize) :
    session.read.isOpen = session.isOpen :=
  session.read_frame.2.2.2.2.2.1

theorem threw_read (session : ServerSession blockSize) :
    session.read.threw = session.threw :=
  session.read_frame.2.2.2.2.2.2.1

/-- A session loses a buffer only when it closes its socket. -/
theorem nothing_lost
    (taken : Session.Step (handlers blockSize) session action next)
    (isOpen : next.isOpen = true) :
    session.isOpen = true ∧
      lostBuffers (session.observe action next) = [] := by
  cases taken with
  | started starting =>
      have before := open_read { session with starting := false }
      exact ⟨before.symm.trans isOpen, lostBuffers_writesAdded _ _⟩
  | notStarted starting => exact ⟨isOpen, lostBuffers_writesAdded _ _⟩
  | recv queue fits before =>
      refine ⟨before, ?_⟩
      simp [Session.observe, lostBuffers, queue]
  | readError queue => exact ⟨isOpen, rfl⟩
  | @readHandler completion rest done =>
      obtain ⟨buffer, result⟩ := completion
      cases result with
      | none => cases isOpen
      | some count =>
          have before := open_read
            (write { session with readDone := rest } buffer count)
          refine ⟨before.symm.trans isOpen, ?_⟩
          rw [Session.observe, done, lostBuffers_append,
            lostBuffers_writesAdded]
          rfl
  | send queue before =>
      refine ⟨before, ?_⟩
      simp [Session.observe, lostBuffers, queue]
  | writeError queue =>
      refine ⟨isOpen, ?_⟩
      simp [Session.observe, lostBuffers, queue]
  | @writeHandler completion rest done =>
      obtain ⟨buffer, result⟩ := completion
      refine ⟨?_, rfl⟩
      cases result with
      | none =>
          simp only [handlers, writeHandler_none] at isOpen
          cases isOpen
      | some count =>
          simp only [handlers, writeHandler_some] at isOpen
          split at isOpen
          · have before := open_read
              (Session.push { session with writeDone := rest } buffer)
            exact before.symm.trans isOpen
          · exact isOpen
  | stop stopped => cases stopped

private theorem reads_performed {buffer : BufferId} {rest : List BufferId}
    {result : Option Nat} (heap : BufferId → Memory blockSize)
    (queue : session.readQueue = buffer :: rest) :
    Session.reads
      { session with
        heap := heap
        readQueue := rest
        readDone := session.readDone ++ [⟨buffer, result⟩] } =
      session.reads := by
  simp [Session.reads, queue]

theorem Watching.step (watching : Watching session)
    (taken : Session.Step (handlers blockSize) session action next)
    (accepts : action ≠ .started false) : Watching next := by
  have full : next.isOpen = true →
      next.places.Perm (List.finRange kMaxStackSize) := by
    intro isOpen
    obtain ⟨before, nothing⟩ := nothing_lost taken isOpen
    have moved := taken.places_perm (keepsBuffers blockSize)
    rw [nothing, List.append_nil] at moved
    exact moved.trans (watching.full before)
  have runs := watching.runs
  have attentive := watching.attentive
  cases taken with
  | started starting =>
      exact ⟨(threw_read _).trans runs, full,
        fun _ _ => Session.attentive_read _⟩
  | notStarted starting => exact absurd rfl accepts
  | recv queue fits before =>
      refine ⟨runs, full, ?_⟩
      intro started _
      rw [Session.Attentive, reads_performed _ queue]
      exact attentive started before
  | readError queue =>
      refine ⟨runs, full, ?_⟩
      intro started isOpen
      rw [Session.Attentive, reads_performed _ queue]
      exact attentive started isOpen
  | @readHandler completion rest done =>
      obtain ⟨buffer, result⟩ := completion
      cases result with
      | none =>
          refine ⟨runs, full, ?_⟩
          intro _ impossible
          cases impossible
      | some count =>
          exact ⟨(threw_read _).trans runs, full,
            fun _ _ => Session.attentive_read _⟩
  | send queue before => exact ⟨runs, full, attentive⟩
  | writeError queue => exact ⟨runs, full, attentive⟩
  | @writeHandler completion rest done =>
      obtain ⟨buffer, result⟩ := completion
      cases result with
      | none =>
          simp only [handlers, writeHandler_none] at full ⊢
          refine ⟨runs, full, ?_⟩
          intro _ impossible
          cases impossible
      | some count =>
          simp only [handlers, writeHandler_some] at full ⊢
          split at full
          · rename_i paused
            rw [if_pos paused]
            exact ⟨(threw_read _).trans runs, full,
              fun _ _ => Session.attentive_read _⟩
          · rename_i stacked
            rw [if_neg stacked]
            refine ⟨runs, full, ?_⟩
            intro started isOpen
            exact (attentive started isOpen).push stacked buffer
  | stop stopped => cases stopped

end Server2

/-! ## The pair after the client has closed its socket -/

section Pairs

variable {clientBlock serverBlock : Nat}
  {clientHeap : BufferId → Memory clientBlock}
  {serverHeap : BufferId → Memory serverBlock}
  {pair next finish : Pair clientBlock serverBlock}
  {labels more : List (Side Action Action)} {label : Side Action Action}

/-- What the pair can still do: the bytes on their way to the server pay for
what comes of them. -/
def Pair.account (pair : Pair clientBlock serverBlock) : Nat :=
  pair.left.account + pair.right.account + 6 * pair.toRight.length

/-- The client has closed its socket and the server watches its own. -/
structure Pair.Closing (pair : Pair clientBlock serverBlock) : Prop where
  client : pair.left.Closed
  server : Server2.Watching pair.right

theorem length_received (action : Action) :
    (Traffic.received [traffic action]).length = action.received := by
  cases action with
  | started succeeded => cases succeeded <;> rfl
  | recv chunk => simp [traffic, Traffic.received, Action.received]
  | _ => rfl

theorem Session.Closed.silent {handlers : Handlers blockSize Data}
    {session after : Session blockSize Data} {action : Action}
    (closed : session.Closed)
    (taken : Session.Step handlers session action after) :
    action.received = 0 ∧ Traffic.sent [traffic action] = [] := by
  have refused : session.isOpen ≠ true := by simp [closed.closed]
  cases taken with
  | recv queue fits isOpen => exact absurd isOpen refused
  | send queue isOpen => exact absurd isOpen refused
  | _ => exact ⟨rfl, rfl⟩

theorem Pair.Closing.step (closing : pair.Closing)
    (positive : 1 ≤ serverBlock)
    (moved : (pairSystem clientBlock serverBlock).step pair label =
      some next) :
    next.Closing ∧
      (if decide (label ≠ .left .stop) then 1 else 0) + next.account ≤
        pair.account := by
  cases label with
  | left action =>
      obtain ⟨taken, carried, same⟩ := Joined.stepLeft_eq_some_iff.mp moved
      have step := (Session.step_eq_some_iff.mp taken).2
      have still :=
        (step.remaining (Client2.subsides clientBlock) closing.client 0).1
      obtain ⟨nothing, silent⟩ := closing.client.silent step
      have stream : next.toRight = pair.toRight := by
        have outgoing := (Traffic.carry_bytes carried).1
        have quiet : Traffic.sent [(clientEndpoint clientBlock).traffic
            action] = [] := silent
        rwa [quiet, List.append_nil] at outgoing
      refine ⟨⟨still, same ▸ closing.server⟩, ?_⟩
      rw [account, account, same, stream]
      by_cases stops : action = .stop
      · subst stops
        cases step with
        | stop stopped =>
            have starts :=
              (Client2.subsides clientBlock).stop _ _ stopped
            have added := starts.account_le
              ((Client2.economical clientBlock).stopped _ _ stopped)
            simpa using added
      · have paid := step.pays (Client2.economical clientBlock)
          (.inr closing.client.closed) stops
        have counts : decide (Side.left action ≠
            (Side.left Action.stop : Side Action Action)) = true := by
          simpa using stops
        rw [counts]
        simp only [if_true]
        omega
  | right action =>
      obtain ⟨taken, carried, same⟩ := Joined.stepRight_eq_some_iff.mp moved
      have step := (Session.step_eq_some_iff.mp taken).2
      have accepts : action ≠ .started false := by
        rintro rfl
        cases carried
      refine ⟨⟨same ▸ closing.client,
        closing.server.step step accepts⟩, ?_⟩
      have lengths := congrArg List.length (Traffic.carry_bytes carried).2
      have taken : (Traffic.received [(serverEndpoint serverBlock).traffic
          action]).length = action.received := length_received action
      rw [List.length_append, taken] at lengths
      have goesOn : action ≠ .stop := by
        rintro rfl
        cases step with
        | stop stopped => cases stopped
      have paid := step.pays (Server2.economical serverBlock)
        (.inl positive) goesOn
      rw [account, account, same]
      simp only [ne_eq, reduceCtorEq, not_false_eq_true, decide_true, if_true]
      simp only at lengths
      omega

/-- Nothing but the stop task is left to be done. -/
def Pair.AtRest (pair : Pair clientBlock serverBlock) : Prop :=
  ∀ label, label ≠ .left .stop →
    (pairSystem clientBlock serverBlock).step pair label = none

/-- On its closed socket the client can do all it could do alone. -/
theorem Pair.AtRest.client (rest : pair.AtRest) (closed : pair.left.Closed) :
    pair.left.reads = [] ∧ pair.left.writes = [] := by
  have stuck : ∀ action, action ≠ .stop →
      pair.left.step (Client2.handlers clientBlock) action = none := by
    intro action goesOn
    by_contra moves
    obtain ⟨after, taken⟩ := Option.ne_none_iff_exists'.mp moves
    have step := (Session.step_eq_some_iff.mp taken).2
    have carried : ∃ queues, (traffic action).carry pair.left.isOpen
        pair.right.isOpen ⟨pair.toLeft, pair.toRight⟩ = some queues := by
      cases step with
      | started starting => exact absurd starting (by simp [closed.started])
      | notStarted starting => exact absurd starting (by simp [closed.started])
      | recv queue fits isOpen =>
          exact absurd isOpen (by simp [closed.closed])
      | readError queue =>
          exact ⟨_, Traffic.carry_readError_eq_some_iff.mpr
            ⟨.inl closed.closed, rfl⟩⟩
      | writeError queue =>
          exact ⟨_, Traffic.carry_writeError_eq_some_iff.mpr
            ⟨.inl closed.closed, rfl⟩⟩
      | _ => exact ⟨_, rfl⟩
    obtain ⟨queues, carried⟩ := carried
    have moved : (pairSystem clientBlock serverBlock).step pair
        (.left action) = some ⟨after, pair.right, queues.outgoing,
          queues.incoming⟩ :=
      Joined.stepLeft_eq_some_iff.mpr ⟨taken, carried, rfl⟩
    have impossible := (rest (.left action) (by simpa using goesOn)).symm.trans
      moved
    cases impossible
  exact closed.drained stuck

/-- The server reads what is left in the stream and then sees its end, so it
rests only after it has closed its socket. -/
theorem Pair.AtRest.server (rest : pair.AtRest) (closing : pair.Closing)
    (positive : 1 ≤ serverBlock) :
    pair.right.reads = [] ∧ pair.right.writes = [] ∧
      pair.right.isOpen = false := by
  have runs := closing.server.runs
  have stuck : ∀ action after queues,
      pair.right.step (Server2.handlers serverBlock) action = some after →
      (traffic action).carry pair.right.isOpen pair.left.isOpen
        ⟨pair.toRight, pair.toLeft⟩ ≠ some queues := by
    intro action after queues taken carried
    have moved : (pairSystem clientBlock serverBlock).step pair
        (.right action) = some ⟨pair.left, after, queues.incoming,
          queues.outgoing⟩ :=
      Joined.stepRight_eq_some_iff.mpr ⟨taken, carried, rfl⟩
    have impossible := (rest (.right action) (by simp)).symm.trans moved
    cases impossible
  have started : pair.right.starting = false := by
    by_contra starting
    exact stuck (.started true) _ _ (Session.step_eq_some_iff.mpr
      ⟨runs, .started (by simpa using starting)⟩) rfl
  have idle : ¬pair.right.Busy pair.toRight := by
    intro busy
    obtain ⟨action, after, queues, _, _, taken, carried⟩ := busy.moves
      positive runs (Server2.handlers serverBlock) pair.toLeft
      pair.left.isOpen
    exact stuck action after queues taken carried
  simp only [Session.Busy, not_or, not_and_or, not_not] at idle
  obtain ⟨readDone, writeDone, writeQueue, reading⟩ := idle
  have readQueue : pair.right.readQueue = [] := by
    cases queue : pair.right.readQueue with
    | nil => rfl
    | cons buffer others =>
        have ended : pair.toRight = [] := by
          rcases reading with none | ended
          · rw [queue] at none
            cases none
          · exact ended
        exact (stuck .readError _ _ (Session.step_eq_some_iff.mpr
          ⟨runs, .readError queue⟩) (Traffic.carry_readError_eq_some_iff.mpr
            ⟨.inr ⟨closing.client.closed, ended⟩, rfl⟩)).elim
  have noReads : pair.right.reads = [] := by
    rw [Session.reads, readDone, readQueue]
    rfl
  have noWrites : pair.right.writes = [] := by
    rw [Session.writes, writeDone, writeQueue]
    rfl
  refine ⟨noReads, noWrites, ?_⟩
  by_contra isOpen
  rw [Bool.not_eq_false] at isOpen
  rcases closing.server.attentive started isOpen with listening | paused
  · exact listening noReads
  · have full := (closing.server.full isOpen).length_eq
    rw [Session.places, paused, noReads, noWrites,
      List.length_finRange] at full
    cases full

end Pairs

end AsioBenchmark.Pooled
