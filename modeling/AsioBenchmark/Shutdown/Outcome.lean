import AsioBenchmark.Shutdown.Client1
import AsioBenchmark.Shutdown.Client2
import AsioBenchmark.Shutdown.Completion

/-!
# Clean shutdown of `client1` and `client2`

The sessions of both programs keep what `Client.Laws` asks, so the results
about orderly runs hold for both.
-/

namespace AsioBenchmark.Shutdown

open AsioBenchmark.Bytes AsioBenchmark.Transition

/-- The sessions of `client1` after `client::start`. -/
def Client1.connecting {sessionCount : Nat} (blockSize : Nat)
    (_ : Fin sessionCount) : Block.Client1.ClientSession blockSize :=
  Block.Client1.connecting blockSize

/-- The sessions of `client2` after `client::start`, each with its buffers. -/
def Client2.connecting {blockSize sessionCount : Nat}
    (heaps : Fin sessionCount → Pooled.BufferId → Memory blockSize)
    (session : Fin sessionCount) : Pooled.Client2.ClientSession blockSize :=
  Pooled.Client2.connecting (heaps session)

/-- For every number of threads and sessions, orderly runs and only these shut
down cleanly. -/
theorem clean_shutdown {threadCount sessionCount : Nat} [NeZero threadCount]
    (blockSize : Nat) :
    (∀ (labels : List (Label threadCount sessionCount Stream.Action)) state,
      ((client1 blockSize).system (Client1.connecting blockSize)).Run
        (started (Client1.connecting blockSize)) labels state →
      (Orderly (client1 blockSize) (Client1.connecting blockSize) labels →
        CleanShutdown (client1 blockSize) (Client1.connecting blockSize)
          state) ∧
      (((client1 blockSize).system (Client1.connecting blockSize)).Halted
          state →
        (state.Finished (client1 blockSize) ↔
          Orderly (client1 blockSize) (Client1.connecting blockSize)
            labels))) ∧
    ∀ heaps (labels : List (Label threadCount sessionCount Pooled.Action))
        state,
      ((client2 blockSize).system (Client2.connecting heaps)).Run
        (started (Client2.connecting heaps)) labels state →
      (Orderly (client2 blockSize) (Client2.connecting heaps) labels →
        CleanShutdown (client2 blockSize) (Client2.connecting heaps) state) ∧
      (((client2 blockSize).system (Client2.connecting heaps)).Halted state →
        (state.Finished (client2 blockSize) ↔
          Orderly (client2 blockSize) (Client2.connecting heaps) labels)) := by
  constructor
  · intro labels state run
    have laws := Client1.laws blockSize
    exact ⟨clean_run laws (fun _ => rfl) run,
      finished_iff_orderly laws (fun _ => rfl) run⟩
  · intro heaps labels state run
    have laws := Client2.laws blockSize
    exact ⟨clean_run laws (fun _ => rfl) run,
      finished_iff_orderly laws (fun _ => rfl) run⟩

/-- One thread and one session; its stop task closes the socket while a write
(`client1`) or a read and a write (`client2`) are outstanding. -/
theorem clean_shutdown_one :
    (∃ state : State 1 1 (Block.Client1.ClientSession 1) Client1.Completion,
      (state.returned 0, state.executed 0) = (true, 1) ∧
        CleanShutdown (client1 1) (Client1.connecting 1) state) ∧
    ∃ state : State 1 1 (Pooled.Client2.ClientSession 1) Client2.Completion,
      (state.returned 0, state.executed 0) = (true, 1) ∧
        CleanShutdown (client2 1)
          (Client2.connecting fun _ _ => .filled 1 0) state := by
  constructor
  · let labels : List (Label 1 1 Stream.Action) :=
      [.network 0 .complete, .run 0, .expire, .run 0, .run 0, .run 0, .run 0,
        .run 0, .network 0 (.fail .write), .run 0]
    have ends : (((client1 1).system (Client1.connecting 1)).exec
        (started (Client1.connecting 1)) labels).map (fun state =>
          (state.returned 0, state.executed 0)) = some (true, 1) := by
      decide +kernel
    obtain ⟨state, moved, rest⟩ := Option.map_eq_some_iff.mp ends
    have orderly : Orderly (client1 1) (Client1.connecting 1) labels := by
      decide +kernel
    exact ⟨state, rest, ((clean_shutdown 1).1 labels state
      (System.run_iff_exec.mpr moved)).1 orderly⟩
  · let labels : List (Label 1 1 Pooled.Action) :=
      [.network 0 (.started true), .run 0, .expire, .run 0, .run 0, .run 0,
        .run 0, .run 0, .network 0 .readError, .network 0 .writeError, .run 0,
        .run 0]
    have ends : (((client2 1).system
        (Client2.connecting fun _ _ => .filled 1 0)).exec
          (started (Client2.connecting fun _ _ => .filled 1 0)) labels).map
            (fun state => (state.returned 0, state.executed 0)) =
        some (true, 1) := by
      decide +kernel
    obtain ⟨state, moved, rest⟩ := Option.map_eq_some_iff.mp ends
    have orderly : Orderly (client2 1)
        (Client2.connecting fun _ _ => .filled 1 0) labels := by
      decide +kernel
    exact ⟨state, rest, ((clean_shutdown 1).2 _ labels state
      (System.run_iff_exec.mpr moved)).1 orderly⟩

/-- The connect of the only session succeeds when its stop task is queued, and
the handler of the connect throws.  With two threads, the connect of the second
session fails, so that the second thread returns when its work object is reset;
its stop task stays in the queue. -/
theorem shutdown_not_clean :
    (¬ ∀ (labels : List (Label 1 1 Stream.Action)) state,
      ((client1 1).system (Client1.connecting 1)).Run
        (started (Client1.connecting 1)) labels state →
      CleanShutdown (client1 1) (Client1.connecting 1) state) ∧
    (¬ ∀ (labels : List (Label 1 1 Pooled.Action)) state,
      ((client2 1).system (Client2.connecting fun _ _ => .filled 1 0)).Run
        (started (Client2.connecting fun _ _ => .filled 1 0)) labels state →
      CleanShutdown (client2 1) (Client2.connecting fun _ _ => .filled 1 0)
        state) ∧
    ¬ ∀ (labels : List (Label 2 2 Stream.Action)) state,
      ((client1 1).system (Client1.connecting 1)).Run
        (started (Client1.connecting 1)) labels state →
      CleanShutdown (client1 1) (Client1.connecting 1) state := by
  refine ⟨?_, ?_, ?_⟩
  · intro always
    have ends : (((client1 1).system (Client1.connecting 1)).exec
        (started (Client1.connecting 1) : State 1 1 _ _)
        [.expire, .run 0, .run 0, .run 0, .run 0, .network 0 .complete,
          .run 0, .run 0]).map (fun state => state.threw 0) = some true := by
      decide +kernel
    obtain ⟨state, moved, threw⟩ := Option.map_eq_some_iff.mp ends
    have quiet := (always _ _ (System.run_iff_exec.mpr moved)).quiet 0
    rw [threw] at quiet
    cases quiet
  · intro always
    have ends : (((client2 1).system
        (Client2.connecting fun _ _ => .filled 1 0)).exec
          (started (Client2.connecting fun _ _ => .filled 1 0) : State 1 1 _ _)
          [.expire, .run 0, .run 0, .run 0, .run 0, .network 0 (.started true),
            .run 0, .run 0]).map (fun state => state.threw 0) = some true := by
      decide +kernel
    obtain ⟨state, moved, threw⟩ := Option.map_eq_some_iff.mp ends
    have quiet := (always _ _ (System.run_iff_exec.mpr moved)).quiet 0
    rw [threw] at quiet
    cases quiet
  · intro always
    have ends : (((client1 1).system (Client1.connecting 1)).exec
        (started (Client1.connecting 1) : State 2 2 _ _)
        [.network 1 (.fail .establish), .run 1, .expire, .run 0, .run 0,
          .run 0, .run 0, .run 0]).map (fun state =>
            (state.returned 1, state.drained (client1 1) 1)) =
        some (true, false) := by
      decide +kernel
    obtain ⟨state, moved, rest⟩ := Option.map_eq_some_iff.mp ends
    obtain ⟨returned, undrained⟩ := Prod.mk.inj rest
    have drained :=
      (always _ _ (System.run_iff_exec.mpr moved)).drained 1 returned
    rw [undrained] at drained
    cases drained

end AsioBenchmark.Shutdown
