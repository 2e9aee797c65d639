import AsioBenchmark.Transition.Rotation
import AsioBenchmark.Transition.System

/-!
# Choosing an `io_service` of the pool

`get_io_service()` hands out the services in turn, `get_io_service(index)` the
one that is asked for.  The services have the numbers in which the constructor
makes them.  An access behind the end of the vector has no result.
-/

namespace AsioBenchmark.Pool

open AsioBenchmark.Transition

structure IoServicePool where
  ioServices : List Nat
  nextIoService : Nat
deriving DecidableEq

namespace IoServicePool

/-- The constructor throws if the size is zero. -/
def construct (poolSize : Nat) : Option IoServicePool :=
  if poolSize = 0 then none
  else some { ioServices := List.range poolSize, nextIoService := 0 }

/-- `get_io_service()`. -/
def getIoService (pool : IoServicePool) : Option (Nat × IoServicePool) :=
  pool.ioServices[pool.nextIoService]?.map fun ioService =>
    let next := pool.nextIoService + 1
    (ioService,
      { pool with
        nextIoService := if next = pool.ioServices.length then 0 else next })

/-- `get_io_service(index)`. -/
def getIoServiceAt (pool : IoServicePool) (index : Nat) : Option Nat :=
  pool.ioServices[index % pool.ioServices.length]?

/-- The pool after `count` calls of `get_io_service()`. -/
def after (poolSize count : Nat) : IoServicePool :=
  { ioServices := List.range poolSize
    nextIoService := count % poolSize }

section After

variable {poolSize : Nat} (positive : 1 ≤ poolSize)

include positive

theorem construct_eq : construct poolSize = some (after poolSize 0) := by
  rw [construct, if_neg (by omega), after, Nat.zero_mod]

theorem getIoService_after (count : Nat) :
    (after poolSize count).getIoService =
      some (count % poolSize, after poolSize (count + 1)) := by
  have inside := Nat.mod_lt count positive
  have next := rotate_mod positive count
  unfold rotate at next
  simp only [getIoService, after, List.getElem?_range inside, Option.map_some,
    List.length_range, next]

theorem getIoServiceAt_after (count index : Nat) :
    (after poolSize count).getIoServiceAt index = some (index % poolSize) := by
  have inside := Nat.mod_lt index positive
  simp only [getIoServiceAt, after, List.length_range,
    List.getElem?_range inside]

end After

end IoServicePool

/-! ## Any calls in any order -/

inductive Call where
  | next
  | indexed (index : Nat)
deriving DecidableEq

namespace IoServicePool

def step (pool : IoServicePool) : Call → Option IoServicePool
  | .next => pool.getIoService.map Prod.snd
  | .indexed index => (pool.getIoServiceAt index).map fun _ => pool

/-- What `get_io_service()` returns. -/
def observe (pool : IoServicePool) : Call → IoServicePool → List Nat
  | .next, _ => (pool.getIoService.map Prod.fst).toList
  | .indexed _, _ => []

end IoServicePool

/-- The pool of the given size with the services that `get_io_service()` has
returned so far. -/
abbrev recordedPool (poolSize : Nat) :
    System (IoServicePool × List Nat) Call :=
  System.recording
    { Initial := fun pool => IoServicePool.construct poolSize = some pool
      step := IoServicePool.step } IoServicePool.observe

/-- `get_io_service()` calls among the calls. -/
def nextCalls (calls : List Call) : Nat :=
  calls.count .next

/-- No call fails, and the services are returned in turn. -/
theorem run_calls {poolSize : Nat} (positive : 1 ≤ poolSize)
    (calls : List Call) :
    (recordedPool poolSize).Run (IoServicePool.after poolSize 0, []) calls
      (IoServicePool.after poolSize (nextCalls calls),
        turns poolSize 0 (nextCalls calls)) := by
  induction calls using List.reverseRecOn with
  | nil => exact .refl
  | append_singleton calls call induction =>
      refine induction.snoc (System.recording_step_iff.mpr ?_)
      cases call with
      | next =>
          have called : nextCalls (calls ++ [.next]) = nextCalls calls + 1 := by
            simp [nextCalls]
          have returned := IoServicePool.getIoService_after positive
            (nextCalls calls)
          rw [called, turns_succ, Nat.zero_add]
          refine ⟨?_, ?_⟩
          · simp only [IoServicePool.step, returned, Option.map_some]
          · simp only [IoServicePool.observe, returned, Option.map_some,
              Option.toList_some]
      | indexed index =>
          have called :
              nextCalls (calls ++ [.indexed index]) = nextCalls calls := by
            simp [nextCalls]
          have returned := IoServicePool.getIoServiceAt_after positive
            (nextCalls calls) index
          rw [called]
          refine ⟨?_, ?_⟩
          · simp only [IoServicePool.step, returned, Option.map_some]
          · simp only [IoServicePool.observe, List.append_nil]

end AsioBenchmark.Pool
