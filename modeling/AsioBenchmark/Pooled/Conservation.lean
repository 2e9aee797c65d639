import AsioBenchmark.Pooled.Session
import Mathlib.Data.List.Nodup

/-!
# Where the ten buffers are

Each of the ten buffers is on the stack, in an outstanding read or in an
outstanding write, until the handler of a failed read forgets the one it was
given.  The handler of a failed write gives its buffer back.
-/

namespace AsioBenchmark.Pooled

open AsioBenchmark.Bytes AsioBenchmark.Transition

variable {blockSize : Nat} {Data : Type}

/-- All places a buffer can be in. -/
def Session.places (session : Session blockSize Data) : List BufferId :=
  session.buffers ++ session.reads ++ session.writes

/-- The buffers that the handlers of failed reads have dropped. -/
def lostBuffers : List Event → List BufferId :=
  List.filterMap fun
    | .readFailed buffer => some buffer
    | _ => none

/-- Every buffer is in exactly one place, so a session without outstanding
operations deletes all ten of them. -/
def Session.Conserved (session : Session blockSize Data) : Prop :=
  (∀ buffer, session.buffers.count buffer + session.reads.count buffer +
    session.writes.count buffer = 1) ∧
  (session.reads = [] → session.writes = [] →
    session.destroy.Perm (List.finRange kMaxStackSize))

/-- What the handlers do with the buffer they are given. -/
structure KeepsBuffers (handlers : Handlers blockSize Data) : Prop where
  started : ∀ session, (handlers.started session).places.Perm session.places
  readDone : ∀ buffer count session,
    (handlers.readHandler buffer (some count) session).places.Perm
      (buffer :: session.places)
  readFailed : ∀ buffer session,
    (handlers.readHandler buffer none session).places.Perm session.places
  written : ∀ buffer result session,
    (handlers.writeHandler buffer result session).places.Perm
      (buffer :: session.places)
  stopped : ∀ session next, handlers.stop session = some next →
    next.places = session.places

namespace Session

variable {session next : Session blockSize Data}

theorem deleteBuffers_eq (buffers : List BufferId) :
    deleteBuffers buffers = buffers := by
  induction buffers with
  | nil => rfl
  | cons top rest induction => rw [deleteBuffers, induction]

theorem places_push (buffer : BufferId) :
    (session.push buffer).places = buffer :: session.places := rfl

theorem places_asyncReadSome (buffer : BufferId) :
    (session.asyncReadSome buffer).places.Perm
      (buffer :: session.places) := by
  rw [List.perm_iff_count]
  intro other
  simp only [places, reads, writes, asyncReadSome, List.count_append,
    List.count_cons, List.count_nil]
  omega

theorem places_write (buffer : BufferId) (length : Nat) :
    (session.write buffer length).places.Perm (buffer :: session.places) := by
  rw [List.perm_iff_count]
  intro other
  simp only [places, reads, writes, write, asyncWriteSome, List.map_append,
    List.map_cons, List.map_nil, List.count_append, List.count_cons,
    List.count_nil]
  omega

theorem places_read : session.read.places.Perm session.places := by
  unfold read
  split
  · exact List.Perm.refl _
  · rename_i buffer rest stack
    have moved : session.places =
        buffer :: { session with buffers := rest }.places := by
      simp only [places, stack, List.cons_append]
      rfl
    rw [moved]
    exact places_asyncReadSome buffer

/-- Being in exactly one place is being a permutation of the ten buffers. -/
theorem conserved_iff_perm :
    session.Conserved ↔
      session.places.Perm (List.finRange kMaxStackSize) := by
  have once : ∀ buffer, (List.finRange kMaxStackSize).count buffer = 1 :=
    fun buffer => List.count_eq_one_of_mem (List.nodup_finRange _)
      (List.mem_finRange buffer)
  constructor
  · rintro ⟨exactly, _⟩
    rw [List.perm_iff_count]
    intro buffer
    rw [once buffer, ← exactly buffer, places, List.count_append,
      List.count_append]
  · intro permuted
    refine ⟨?_, ?_⟩
    · intro buffer
      have same := List.perm_iff_count.mp permuted buffer
      rw [once buffer, places, List.count_append, List.count_append] at same
      exact same
    · intro noReads noWrites
      rw [places, noReads, noWrites, List.append_nil,
        List.append_nil] at permuted
      rw [destroy, deleteBuffers_eq]
      exact permuted

end Session

theorem lostBuffers_append (events new : List Event) :
    lostBuffers (events ++ new) = lostBuffers events ++ lostBuffers new :=
  List.filterMap_append

theorem lostBuffers_writesAdded
    (session next : Session blockSize Data) :
    lostBuffers (session.writesAdded next) = [] := by
  rw [lostBuffers, Session.writesAdded, List.filterMap_map]
  exact List.filterMap_eq_nil_iff.mpr fun _ _ => rfl

/-- A step loses the buffers its handler drops, no others. -/
theorem Session.Step.places_perm {handlers : Handlers blockSize Data}
    {session next : Session blockSize Data} {action : Action}
    (keeps : KeepsBuffers handlers)
    (taken : Session.Step handlers session action next) :
    (next.places ++ lostBuffers (session.observe action next)).Perm
      session.places := by
  cases taken with
  | started starting =>
      rw [Session.observe, lostBuffers_writesAdded, List.append_nil]
      exact keeps.started _
  | notStarted starting =>
      rw [Session.observe, lostBuffers_writesAdded, List.append_nil]
      exact List.Perm.refl _
  | recv queue fits isOpen arrives =>
      simp [Session.observe, lostBuffers, Session.places, Session.reads,
        Session.writes, queue]
  | readError queue =>
      simp [Session.observe, lostBuffers, Session.places, Session.reads,
        Session.writes, queue]
  | @readHandler completion rest done =>
      have moved : session.places.Perm (completion.buffer ::
          Session.places { session with readDone := rest }) := by
        rw [List.perm_iff_count]
        intro other
        simp only [Session.places, Session.reads, Session.writes, done,
          List.map_cons, List.count_append, List.count_cons]
        omega
      refine List.Perm.trans ?_ moved.symm
      rw [Session.observe, lostBuffers_append, lostBuffers_writesAdded,
        List.append_nil, done]
      obtain ⟨buffer, result⟩ := completion
      cases result with
      | none =>
          exact List.perm_append_comm.trans
            (List.Perm.cons buffer (keeps.readFailed buffer _))
      | some count =>
          simpa [lostBuffers] using keeps.readDone buffer count
            { session with readDone := rest }
  | send queue isOpen moves room content =>
      simp [Session.observe, lostBuffers, Session.places, Session.reads,
        Session.writes, queue]
  | writeError queue =>
      simp [Session.observe, lostBuffers, Session.places, Session.reads,
        Session.writes, queue]
  | @writeHandler completion rest done =>
      have moved : session.places.Perm (completion.buffer ::
          Session.places { session with writeDone := rest }) := by
        rw [List.perm_iff_count]
        intro other
        simp only [Session.places, Session.reads, Session.writes, done,
          List.map_cons, List.count_append, List.count_cons]
        omega
      refine List.Perm.trans ?_ moved.symm
      simpa [Session.observe, lostBuffers] using
        keeps.written completion.buffer completion.result
          { session with writeDone := rest }
  | stop stopped =>
      rw [keeps.stopped session _ stopped]
      simp [Session.observe, lostBuffers]

section Runs

variable {handlers : Handlers blockSize Data}
  {system : System (Session blockSize Data) Action}
  {start : Session blockSize Data} {actions : List Action}
  {recorded : Session blockSize Data × List Event}

/-- What is not in a place has been lost. -/
theorem run_places_perm (keeps : KeepsBuffers handlers)
    (steps : system.step = Session.step handlers)
    (full : start.places.Perm (List.finRange kMaxStackSize))
    (run : (system.recording Session.observe).Run (start, []) actions
      recorded) :
    (recorded.1.places ++ lostBuffers recorded.2).Perm
      (List.finRange kMaxStackSize) := by
  induction run using System.Run.recorded_induction with
  | refl => simpa [lostBuffers] using full
  | snoc _ moved induction =>
      rw [steps] at moved
      have step := (Session.step_eq_some_iff.mp moved).2.places_perm keeps
      refine List.Perm.trans ?_ induction
      rw [lostBuffers_append]
      refine List.Perm.trans ?_ (List.Perm.append_right _ step)
      rw [List.append_assoc]
      exact List.Perm.append_left _ List.perm_append_comm

theorem conserved_iff_nothing_lost (keeps : KeepsBuffers handlers)
    (steps : system.step = Session.step handlers)
    (full : start.places.Perm (List.finRange kMaxStackSize))
    (run : (system.recording Session.observe).Run (start, []) actions
      recorded) :
    recorded.1.Conserved ↔ lostBuffers recorded.2 = [] := by
  have all := run_places_perm keeps steps full run
  rw [Session.conserved_iff_perm]
  constructor
  · intro permuted
    have lengths := all.length_eq
    rw [List.length_append, permuted.length_eq] at lengths
    exact List.length_eq_zero_iff.mp (by omega)
  · intro nothing
    rwa [nothing, List.append_nil] at all

theorem always_conserved_iff (keeps : KeepsBuffers handlers)
    (steps : system.step = Session.step handlers)
    (full : start.places.Perm (List.finRange kMaxStackSize))
    (run : (system.recording Session.observe).Run (start, []) actions
      recorded) :
    system.Always start actions Session.Conserved ↔
      ∀ buffer, Event.readFailed buffer ∉ recorded.2 := by
  have conserved : system.Always start actions Session.Conserved ↔
      lostBuffers recorded.2 = [] := by
    induction run using System.Run.recorded_induction with
    | refl =>
        rw [System.always_nil, Session.conserved_iff_perm]
        simp [lostBuffers, full]
    | snoc before moved induction =>
        have whole := before.snoc_recorded moved
        have ends := conserved_iff_nothing_lost keeps steps full whole
        rw [System.always_snoc whole.forget, induction, ends]
        constructor
        · rintro ⟨_, nothing⟩
          exact nothing
        · intro nothing
          refine ⟨?_, nothing⟩
          rw [lostBuffers_append, List.append_eq_nil_iff] at nothing
          exact nothing.1
  rw [conserved, lostBuffers, List.filterMap_eq_nil_iff]
  constructor
  · intro nothing buffer member
    cases nothing _ member
  · intro never event member
    cases event with
    | readFailed buffer => exact absurd member (never buffer)
    | received chunk => rfl
    | writing chunk => rfl
    | transmitted length bytes => rfl
    | wrote => rfl

end Runs

/-! ## The two programs -/

theorem Session.places_constructed (heap : BufferId → Memory blockSize)
    (data : Data) :
    (Session.constructed heap data).places.Perm
      (List.finRange kMaxStackSize) := by
  simp only [places, constructed, reads, writes, List.map_nil,
    List.append_nil]
  exact List.reverse_perm _

theorem Server2.keepsBuffers (blockSize : Nat) :
    KeepsBuffers (handlers blockSize) where
  started _ := Session.places_read
  readDone buffer count session :=
    Session.places_read.trans (Session.places_write buffer count)
  readFailed _ _ := List.Perm.refl _
  written buffer result session := by
    have pushed : (session.push buffer).places.Perm
        (buffer :: session.places) := List.Perm.refl _
    have resumed : (session.push buffer).read.places.Perm
        (buffer :: session.places) := Session.places_read.trans pushed
    simp only [handlers, writeHandler, read]
    split <;> split <;> assumption
  stopped _ _ impossible := by cases impossible

theorem Client2.places_noteError (session : Client2.ClientSession blockSize) :
    (Client2.noteError session).places = session.places := by
  rw [noteError]
  split <;> rfl

theorem Client2.keepsBuffers (blockSize : Nat) :
    KeepsBuffers (handlers blockSize) where
  started session := by
    simp only [handlers, start, read, write]
    split
    · have reading : session.read.places.Perm session.places :=
        Session.places_read
      split
      · exact reading
      · rename_i buffer rest stack
        refine (Session.places_write buffer blockSize).trans ?_
        refine List.Perm.trans ?_ reading
        rw [Session.places, Session.places, stack]
        exact List.Perm.refl _
    · exact List.Perm.refl _
  readDone buffer count session :=
    Session.places_read.trans (Session.places_write buffer count)
  readFailed _ session := by
    simp only [handlers, readHandler]
    rw [places_noteError]
  written buffer result session := by
    cases result with
    | none =>
        simp only [handlers, writeHandler]
        rw [places_noteError, Session.places_push]
    | some count =>
        simp only [handlers, writeHandler, read]
        split
        · exact Session.places_read
        · exact List.Perm.refl _
  stopped session next stopped := by
    cases stopped
    rfl

/-- For both sessions, against any peer, with failures, closes and stops at
any point: every buffer is in exactly one place in every state of a run, and a
session without outstanding operations deletes all ten, exactly when the run
has handled no failed read. -/
theorem buffers_conserved_iff (blockSize : Nat)
    (heap : BufferId → Memory blockSize) (actions : List Action) :
    (∀ (session : Server2.ServerSession blockSize) (events : List Event),
      ((serverSystem blockSize).recording Session.observe).Run
        (Server2.accepting heap, []) actions (session, events) →
      ((serverSystem blockSize).Always (Server2.accepting heap) actions
          Session.Conserved ↔
        ∀ buffer, Event.readFailed buffer ∉ events)) ∧
    (∀ (session : Client2.ClientSession blockSize) (events : List Event),
      ((clientSystem blockSize).recording Session.observe).Run
        (Client2.connecting heap, []) actions (session, events) →
      ((clientSystem blockSize).Always (Client2.connecting heap) actions
          Session.Conserved ↔
        ∀ buffer, Event.readFailed buffer ∉ events)) := by
  constructor
  · intro session events run
    exact always_conserved_iff (Server2.keepsBuffers blockSize) rfl
      (Session.places_constructed heap ()) run
  · intro session events run
    exact always_conserved_iff (Client2.keepsBuffers blockSize) rfl
      (Session.places_constructed heap _) run

/-- A session that reads one byte, writes it back and is then given back its
buffer. -/
theorem buffers_conserved_echo :
    ∃ session events,
      ((serverSystem 1).recording Session.observe).Run
        (Server2.accepting fun _ => .filled 1 0, [])
        [.started true, .recv [7], .readHandler, .send [7], .writeHandler]
        (session, events) ∧
      (serverSystem 1).Always (Server2.accepting fun _ => .filled 1 0)
        [.started true, .recv [7], .readHandler, .send [7], .writeHandler]
        Session.Conserved := by
  obtain ⟨session, run⟩ : ∃ recorded,
      ((serverSystem 1).recording Session.observe).Run
        (Server2.accepting fun _ => .filled 1 0, [])
        [.started true, .recv [7], .readHandler, .send [7], .writeHandler]
        recorded ∧
      ∀ buffer, Event.readFailed buffer ∉ recorded.2 := by
    refine ⟨_, System.run_iff_exec.mpr rfl, ?_⟩
    decide
  exact ⟨session.1, session.2, run.1,
    ((buffers_conserved_iff 1 _ _).1 session.1 session.2 run.1).mpr run.2⟩

/-- After one failed read the destructor deletes nine buffers. -/
theorem server_loses_buffer :
    ∃ session,
      (serverSystem 1).Run (Server2.accepting fun _ => .filled 1 0)
        [.started true, .readError, .readHandler] session ∧
      session.reads = [] ∧ session.writes = [] ∧
      session.destroy.length = 9 ∧ ¬session.Conserved := by
  refine ⟨_, System.run_iff_exec.mpr rfl, rfl, rfl, rfl, ?_⟩
  rw [Session.conserved_iff_perm]
  intro permuted
  exact absurd permuted.length_eq (by decide)

end AsioBenchmark.Pooled
