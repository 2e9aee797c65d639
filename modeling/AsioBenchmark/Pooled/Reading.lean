import AsioBenchmark.Pooled.Progress

/-!
# When a pooled session reads

A session pauses in the handler of a read and resumes in the handler of a
write, which takes the empty stack for a sign that the session has paused.  The
sign is never missing, so no session stops reading.  It is also given when the
last free buffer is in a read, and then a second read is started.
-/

namespace AsioBenchmark.Pooled

open AsioBenchmark.Bytes AsioBenchmark.Transition

variable {blockSize : Nat} {Data : Type}

/-- A read is outstanding, or writes hold all ten buffers, and the next write
that completes leaves a read outstanding. -/
structure Session.KeepsReading (handlers : Handlers blockSize Data)
    (session : Session blockSize Data) : Prop where
  listens : session.reads ≠ [] ∨
    session.writes.Perm (List.finRange kMaxStackSize)
  resumes : ∀ next, session.step handlers .writeHandler = some next →
    next.reads ≠ []

def Session.AtMostOneRead (session : Session blockSize Data) : Prop :=
  session.reads.length ≤ 1

/-- The handler of a write does not run while the other nine buffers are in
writes. -/
def Session.NotNineWrites (session : Session blockSize Data)
    (action : Action) : Prop :=
  action = .writeHandler → session.writes.length + 1 ≠ kMaxStackSize

instance (session : Session blockSize Data) (action : Action) :
    Decidable (session.NotNineWrites action) :=
  inferInstanceAs (Decidable (_ → _))

/-- How many reads the handlers start. -/
structure StartsReads (handlers : Handlers blockSize Data) : Prop where
  started : ∀ session, session.Fresh →
    (handlers.started session).reads.length ≤ 1
  readDone : ∀ buffer count session,
    (handlers.readHandler buffer (some count) session).reads.length ≤
      session.reads.length + 1
  written : ∀ buffer count session,
    (handlers.writeHandler buffer (some count) session).reads.length =
      session.reads.length + if session.buffers = [] then 1 else 0

namespace Session

variable {session : Session blockSize Data}

theorem length_reads_read_le (session : Session blockSize Data) :
    session.read.reads.length ≤ session.reads.length + 1 := by
  unfold read
  split
  · exact Nat.le_succ _
  · simp [reads, asyncReadSome, Nat.add_assoc]

theorem length_reads_push_read (buffer : BufferId) :
    (session.push buffer).read.reads.length = session.reads.length + 1 := by
  simp [read, push, reads, asyncReadSome, Nat.add_assoc]

theorem reads_fresh (fresh : session.Fresh) : session.reads = [] := by
  rw [reads, fresh.readDone, fresh.readQueue]
  rfl

theorem length_places (full :
    session.places.Perm (List.finRange kMaxStackSize)) :
    session.buffers.length + session.reads.length + session.writes.length =
      kMaxStackSize := by
  have lengths := full.length_eq
  rwa [places, List.length_append, List.length_append,
    List.length_finRange] at lengths

/-- An attentive session without a read has all its buffers in writes. -/
theorem Attentive.listens (attentive : session.Attentive)
    (full : session.places.Perm (List.finRange kMaxStackSize)) :
    session.reads ≠ [] ∨
      session.writes.Perm (List.finRange kMaxStackSize) := by
  by_cases none : session.reads = []
  · right
    have empty := attentive.resolve_left (absurd none)
    rwa [places, empty, none, List.append_nil, List.nil_append] at full
  · exact .inl none

end Session

section Steps

variable {handlers : Handlers blockSize Data}
  {supply : Bool → Bool → Nat}
  {session next : Session blockSize Data} {events : List Event}
  {action : Action}

theorem Flowing.keepsReading (starts : StartsReads handlers)
    (flowing : Flowing supply session events)
    (full : session.places.Perm (List.finRange kMaxStackSize))
    (started : session.starting = false) (runs : session.threw = false) :
    session.KeepsReading handlers := by
  have attentive := flowing.attentive started runs
  refine ⟨attentive.listens full, ?_⟩
  intro next taken
  cases (Session.step_eq_some_iff.mp taken).2 with
  | @writeHandler completion rest done =>
      obtain ⟨buffer, result⟩ := completion
      have succeeded := flowing.writesSucceeded ⟨buffer, result⟩
        (by rw [done]; exact List.mem_cons_self)
      cases result with
      | none => cases succeeded
      | some count =>
          have added := starts.written buffer count
            { session with writeDone := rest }
          intro none
          rw [none, List.length_nil] at added
          -- Nothing was outstanding before, so the stack was empty.
          have before : session.reads.length = 0 := by
            change 0 = session.reads.length + _ at added
            omega
          have empty : session.buffers = [] := by
            rcases attentive with listening | paused
            · exact absurd (List.length_eq_zero_iff.mp before) listening
            · exact paused
          change 0 = _ + ite (session.buffers = []) 1 0 at added
          rw [if_pos empty] at added
          omega

/-- Only the handler of a write adds a read to one that is
outstanding, and it does so exactly when the other nine buffers are in
writes. -/
theorem Flowing.atMostOneRead_iff (starts : StartsReads handlers)
    (circulating : Circulating handlers supply)
    (flowing : Flowing supply session events)
    (full : session.places.Perm (List.finRange kMaxStackSize))
    (runs : session.threw = false)
    (taken : Session.Step handlers session action next)
    (healthy : action.Healthy) (one : session.AtMostOneRead) :
    next.AtMostOneRead ↔ session.NotNineWrites action := by
  have other : next.AtMostOneRead → action ≠ .writeHandler →
      (next.AtMostOneRead ↔ session.NotNineWrites action) := by
    intro holds different
    exact iff_of_true holds fun same => absurd same different
  cases taken with
  | notStarted starting => cases healthy
  | readError queue => cases healthy
  | writeError queue => cases healthy
  | started starting =>
      have fresh := flowing.fresh starting
      refine other (starts.started _ ?_) (by simp)
      exact ⟨fresh.buffers, fresh.readQueue, fresh.readDone,
        fresh.writeQueue, fresh.writeDone⟩
  | recv queue fits isOpen arrives =>
      refine other ?_ (by simp)
      simpa [Session.AtMostOneRead, Session.reads, queue, Nat.add_assoc,
        Nat.add_comm 1] using one
  | @readHandler completion rest done =>
      obtain ⟨buffer, result⟩ := completion
      have succeeded := flowing.readsSucceeded ⟨buffer, result⟩
        (by rw [done]; exact List.mem_cons_self)
      cases result with
      | none => cases succeeded
      | some count =>
          refine other ?_ (by simp)
          have added := starts.readDone buffer count
            { session with readDone := rest }
          simp only [Session.AtMostOneRead, Session.reads, done,
            List.length_append, List.map_cons, List.length_cons,
            List.length_map] at one added ⊢
          omega
  | send queue isOpen moves room content => exact other one (by simp)
  | @writeHandler completion rest done =>
      obtain ⟨buffer, result⟩ := completion
      have succeeded := flowing.writesSucceeded ⟨buffer, result⟩
        (by rw [done]; exact List.mem_cons_self)
      cases result with
      | none => cases succeeded
      | some count =>
          have added := starts.written buffer count
            { session with writeDone := rest }
          have lengths := Session.length_places full
          have notStarting : session.starting = false := by
            by_contra starting
            have fresh := flowing.fresh (by simpa using starting)
            rw [fresh.writeDone] at done
            cases done
          have attentive := flowing.attentive notStarting runs
          change (_ : List BufferId).length ≤ 1 ↔ (_ → _)
          rw [added]
          change session.reads.length +
            (if session.buffers = [] then 1 else 0) ≤ 1 ↔ _
          simp only [true_implies, Session.AtMostOneRead,
            kMaxStackSize] at one lengths ⊢
          by_cases empty : session.buffers = []
          · rw [if_pos empty]
            rw [empty, List.length_nil] at lengths
            omega
          · rw [if_neg empty]
            have listening := List.length_pos_iff.mpr
              (attentive.resolve_right empty)
            have stacked := List.length_pos_iff.mpr empty
            omega
  | stop stopped =>
      obtain ⟨isOpen, data, rfl⟩ := circulating.stopped session _ stopped
      exact other one (by simp)

end Steps

section Runs

variable {handlers : Handlers blockSize Data}
  {supply : Bool → Bool → Nat}
  {system : System (Session blockSize Data) Action}
  {start session : Session blockSize Data} {actions : List Action}

theorem run_keepsReading (keeps : KeepsBuffers handlers)
    (circulating : Circulating handlers supply)
    (starts : StartsReads handlers)
    (steps : system.step = Session.step handlers)
    (initial : Flowing supply start [])
    (full : start.places.Perm (List.finRange kMaxStackSize))
    (run : system.Run start actions session)
    (healthy : ∀ action ∈ actions, action.Healthy)
    (started : session.starting = false) (runs : session.threw = false) :
    session.KeepsReading handlers := by
  obtain ⟨events, recorded⟩ := run.record Session.observe []
  obtain ⟨flowing, places⟩ :=
    run_flowing keeps circulating steps initial full recorded healthy
  exact flowing.keepsReading starts places started runs

/-- One read after another, exactly as long as no handler of a
write runs in a state that it cannot tell from a pause. -/
theorem always_atMostOneRead_iff (keeps : KeepsBuffers handlers)
    (circulating : Circulating handlers supply)
    (starts : StartsReads handlers)
    (steps : system.step = Session.step handlers)
    (initial : Flowing supply start [])
    (full : start.places.Perm (List.finRange kMaxStackSize))
    (fresh : start.Fresh)
    (run : system.Run start actions session)
    (healthy : ∀ action ∈ actions, action.Healthy) :
    system.Always start actions Session.AtMostOneRead ↔
      system.EachStep start actions Session.NotNineWrites := by
  induction run with
  | refl =>
      refine iff_of_true (System.always_nil.mpr ?_) System.eachStep_nil
      rw [Session.AtMostOneRead, Session.reads_fresh fresh]
      exact Nat.zero_le 1
  | @snoc actions middle session action before moved induction =>
      have earlier : ∀ action ∈ actions, action.Healthy :=
        fun action member => healthy action (List.mem_append_left _ member)
      have last := healthy action
        (List.mem_append_right _ (List.mem_singleton.mpr rfl))
      obtain ⟨events, recorded⟩ := before.record Session.observe []
      obtain ⟨flowing, places⟩ :=
        run_flowing keeps circulating steps initial full recorded earlier
      have step := moved
      rw [steps] at step
      obtain ⟨runs, taken⟩ := Session.step_eq_some_iff.mp step
      rw [System.always_snoc (before.snoc moved),
        System.eachStep_snoc before, ← induction earlier]
      apply and_congr_right
      intro always
      exact flowing.atMostOneRead_iff starts circulating places runs taken
        last (always.finish before)

end Runs

/-! ## The two programs -/

theorem Session.fresh_constructed (heap : BufferId → Memory blockSize)
    (data : Data) : (Session.constructed heap data).Fresh :=
  ⟨rfl, rfl, rfl, rfl, rfl⟩

theorem Server2.startsReads (blockSize : Nat) :
    StartsReads (handlers blockSize) where
  started session fresh := by
    have added := Session.length_reads_read_le session
    rw [Session.reads_fresh fresh] at added
    exact added
  readDone buffer count session :=
    Session.length_reads_read_le (session.write buffer count)
  written buffer count session := by
    change (writeHandler buffer (some count) session).reads.length = _
    rw [writeHandler_some]
    split
    · exact Session.length_reads_push_read buffer
    · rfl

theorem Client2.startsReads (blockSize : Nat) :
    StartsReads (handlers blockSize) where
  started session fresh := by
    by_cases isOpen : session.isOpen = true
    · obtain ⟨buffer, rest, starts⟩ := start_fresh fresh isOpen
      change (start session).reads.length ≤ 1
      rw [starts]
      have added := Session.length_reads_read_le session
      rw [Session.reads_fresh fresh] at added
      exact added
    · have throws : start session = { session with threw := true } :=
        if_neg isOpen
      change (start session).reads.length ≤ 1
      rw [throws]
      change session.reads.length ≤ 1
      rw [Session.reads_fresh fresh]
      exact Nat.zero_le 1
  readDone buffer count session := Session.length_reads_read_le _
  written buffer count session := by
    simp only [handlers, writeHandler, read, List.isEmpty_iff]
    split
    · simp [Session.read, Session.push, Session.reads,
        Session.asyncReadSome, Nat.add_assoc]
    · rfl

/-- For both sessions, against any peer and with completions of any sizes in
any order: once the start handler has returned, a read is outstanding or writes
hold all ten buffers, and the next write that completes leaves a read
outstanding.  Closing the socket from outside changes nothing about it. -/
theorem sessions_keep_reading (blockSize : Nat)
    (heap : BufferId → Memory blockSize) (actions : List Action)
    (healthy : ∀ action ∈ actions, action.Healthy) :
    (∀ session : Server2.ServerSession blockSize,
      (serverSystem blockSize).Run (Server2.accepting heap) actions session →
      session.starting = false →
      session.KeepsReading (Server2.handlers blockSize)) ∧
    (∀ session : Client2.ClientSession blockSize,
      (clientSystem blockSize).Run (Client2.connecting heap) actions
        session →
      session.starting = false → session.threw = false →
      session.KeepsReading (Client2.handlers blockSize)) := by
  constructor
  · intro session run started
    obtain ⟨events, recorded⟩ := run.record Session.observe []
    exact run_keepsReading (Server2.keepsBuffers blockSize)
      (Server2.circulating blockSize) (Server2.startsReads blockSize) rfl
      (Session.flowing_constructed (Server2.circulating blockSize) heap ())
      (Session.places_constructed heap ()) run healthy started
      (Server2.run_open recorded healthy).2
  · intro session run started runs
    exact run_keepsReading (Client2.keepsBuffers blockSize)
      (Client2.circulating blockSize) (Client2.startsReads blockSize) rfl
      (Session.flowing_constructed (Client2.circulating blockSize) heap _)
      (Session.places_constructed heap _) run healthy started runs

/-- Ten reads complete before any write: the reader pauses and is resumed by
the first write. -/
def pausing : List Action :=
  .started true ::
    (List.replicate 10 [Action.recv [7], Action.readHandler]).flatten

theorem sessions_keep_reading_paused :
    ∃ session : Server2.ServerSession 1,
      (serverSystem 1).Run (Server2.accepting fun _ => .filled 1 0) pausing
        session ∧
      session.reads = [] ∧ session.KeepsReading (Server2.handlers 1) := by
  have ends : ∃ session : Server2.ServerSession 1,
      (serverSystem 1).exec (Server2.accepting fun _ => .filled 1 0)
        pausing = some session ∧
      session.reads = [] ∧ session.starting = false :=
    ⟨_, rfl, rfl, rfl⟩
  obtain ⟨session, executed, paused, started⟩ := ends
  have run := System.run_iff_exec.mpr executed
  exact ⟨session, run, paused, (sessions_keep_reading 1 _ pausing
    (by decide)).1 session run started⟩

/-- For both sessions, against any peer: a run without failed operations never
has two reads outstanding exactly when no handler of a write runs while the
other nine buffers are in writes. -/
theorem one_read_iff (blockSize : Nat)
    (heap : BufferId → Memory blockSize) (actions : List Action)
    (healthy : ∀ action ∈ actions, action.Healthy) :
    (∀ session : Server2.ServerSession blockSize,
      (serverSystem blockSize).Run (Server2.accepting heap) actions session →
      ((serverSystem blockSize).Always (Server2.accepting heap) actions
          Session.AtMostOneRead ↔
        (serverSystem blockSize).EachStep (Server2.accepting heap) actions
          Session.NotNineWrites)) ∧
    (∀ session : Client2.ClientSession blockSize,
      (clientSystem blockSize).Run (Client2.connecting heap) actions
        session →
      ((clientSystem blockSize).Always (Client2.connecting heap) actions
          Session.AtMostOneRead ↔
        (clientSystem blockSize).EachStep (Client2.connecting heap) actions
          Session.NotNineWrites)) := by
  constructor
  · intro session run
    exact always_atMostOneRead_iff (Server2.keepsBuffers blockSize)
      (Server2.circulating blockSize) (Server2.startsReads blockSize) rfl
      (Session.flowing_constructed (Server2.circulating blockSize) heap ())
      (Session.places_constructed heap ())
      (Session.fresh_constructed heap ()) run healthy
  · intro session run
    exact always_atMostOneRead_iff (Client2.keepsBuffers blockSize)
      (Client2.circulating blockSize) (Client2.startsReads blockSize) rfl
      (Session.flowing_constructed (Client2.circulating blockSize) heap _)
      (Session.places_constructed heap _)
      (Session.fresh_constructed heap _) run healthy

/-- Twice a write is handled while all ten buffers are in writes, and each time
the reader goes on and pauses again or waits. -/
def resuming : List Action :=
  pausing ++ [.send [7], .writeHandler, .recv [8], .readHandler, .send [7],
    .writeHandler]

theorem one_read_resumed :
    ∃ session : Server2.ServerSession 1,
      (serverSystem 1).Run (Server2.accepting fun _ => .filled 1 0) resuming
        session ∧
      session.reads.length = 1 ∧ session.writes.length = 9 ∧
      (serverSystem 1).Always (Server2.accepting fun _ => .filled 1 0)
        resuming Session.AtMostOneRead := by
  have ends : ∃ session : Server2.ServerSession 1,
      (serverSystem 1).exec (Server2.accepting fun _ => .filled 1 0)
        resuming = some session ∧
      session.reads.length = 1 ∧ session.writes.length = 9 :=
    ⟨_, rfl, rfl, rfl⟩
  obtain ⟨session, executed, one, nine⟩ := ends
  have run := System.run_iff_exec.mpr executed
  have permitted : (serverSystem 1).EachStep
      (Server2.accepting fun _ => .filled 1 0) resuming
      Session.NotNineWrites := by
    decide +kernel
  exact ⟨session, run, one, nine,
    ((one_read_iff 1 _ resuming (by decide)).1 session run).mpr permitted⟩

/-- Nine reads complete, the last free buffer goes into the tenth, and then a
write completes. -/
def overlapping : List Action :=
  .started true ::
    (List.replicate 9 [Action.recv [7], Action.readHandler]).flatten ++
      [.send [7], .writeHandler]

theorem server_reads_twice :
    ∃ session : Server2.ServerSession 1,
      (serverSystem 1).Run (Server2.accepting fun _ => .filled 1 0)
        overlapping session ∧
      (∀ action ∈ overlapping, action.Healthy) ∧
      session.reads.length = 2 := by
  have ends : ∃ session : Server2.ServerSession 1,
      (serverSystem 1).exec (Server2.accepting fun _ => .filled 1 0)
        overlapping = some session ∧ session.reads.length = 2 :=
    ⟨_, rfl, rfl⟩
  obtain ⟨session, executed, two⟩ := ends
  exact ⟨session, System.run_iff_exec.mpr executed, by decide, two⟩

end AsioBenchmark.Pooled
