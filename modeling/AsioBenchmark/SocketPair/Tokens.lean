import AsioBenchmark.Transition.System
import AsioBenchmark.Transition.Total

/-!
# Tokens on a ring of socket pairs

`pairs` of `socketpair.cpp`: every pair reads one byte at a time on `s2_`, and
the handler of a read writes one byte to `s1_` of the next pair for as long as
the write budget lasts.  Only the number of bytes matters, since every byte is
`first_ch_`.  One thread runs the handlers, in any order.
-/

namespace AsioBenchmark.SocketPair

open AsioBenchmark.Transition

/-- The asynchronous read of a pair: not started, waiting for a byte, or with
its handler queued. -/
inductive Read where
  | idle
  | waiting
  | completed (success : Bool)
deriving DecidableEq

/-- A pair; `stream` counts the bytes written to `s1_` that have not been taken
from `s2_`. -/
structure Pair where
  stream : Nat
  read : Read
  closed : Bool
deriving DecidableEq

/-- `indexed` and `stops` are histories: every index used on `ptrs_`, and the
number of calls of `stop()`. -/
structure Pairs where
  ptrs : Nat → Pair
  realReadCount : UInt64
  realWriteCount : UInt64
  indexed : List Nat
  stops : Nat

namespace Pair

def connected : Pair :=
  { stream := 0
    read := .idle
    closed := false }

/-- A read started on a closed socket completes with an error. -/
def asyncRead (pair : Pair) : Pair :=
  { pair with
    read := if pair.closed = true then .completed false else .waiting }

def write (pair : Pair) : Pair :=
  { pair with stream := pair.stream + 1 }

/-- Closing aborts a read that is waiting, not one that has completed. -/
def close (pair : Pair) : Pair :=
  { pair with
    closed := true
    read := if pair.read = .waiting then .completed false else pair.read }

/-- A byte reaches the read that waits for it. -/
def deliver (pair : Pair) : Pair :=
  { pair with
    stream := pair.stream - 1
    read := .completed true }

def finish (pair : Pair) : Pair :=
  { pair with read := .idle }

end Pair

namespace Pairs

def change (index : Nat) (changes : Pair → Pair) (pairs : Pairs) : Pairs :=
  { pairs with
    ptrs := Function.update pairs.ptrs index (changes (pairs.ptrs index)) }

/-- `ptrs_[i]` is used. -/
def access (index : Nat) (pairs : Pairs) : Pairs :=
  { pairs with indexed := pairs.indexed ++ [index] }

def pairRead (index : Nat) (pairs : Pairs) : Pairs :=
  (pairs.access index).change index Pair.asyncRead

def pairWrite (index : Nat) (pairs : Pairs) : Pairs :=
  let written := (pairs.access index).change index Pair.write
  { written with realWriteCount := written.realWriteCount + 1 }

def stop (pairCount : Nat) (pairs : Pairs) : Pairs :=
  { pairs with
    ptrs := fun index =>
      if index < pairCount then (pairs.ptrs index).close else pairs.ptrs index
    stops := pairs.stops + 1 }

/-- The handler of the read on the pair `index`. -/
def handleRead (pairCount : Nat) (writeCount : UInt64) (index : Nat)
    (success : Bool) (pairs : Pairs) : Pairs :=
  if success = true then
    let counted := { pairs with realReadCount := pairs.realReadCount + 1 }
    let reading := counted.pairRead index
    if reading.realReadCount < writeCount then
      let next := index + 1
      reading.pairWrite (if next ≥ pairCount then next - pairCount else next)
    else if reading.realReadCount = reading.realWriteCount then
      reading.stop pairCount
    else reading
  else pairs

/-- Before the loop of the constructor. -/
def empty : Pairs :=
  { ptrs := fun _ => .connected
    realReadCount := 0
    realWriteCount := 0
    indexed := []
    stops := 0 }

/-- The loop of the constructor. -/
def construct (pairCount : Nat) : Pairs :=
  (List.range pairCount).foldl (fun pairs index => pairs.pairRead index) empty

/-- `start()`. -/
def start (activeCount : Nat) (pairs : Pairs) : Pairs :=
  (List.range activeCount).foldl (fun pairs index => pairs.pairWrite index)
    pairs

end Pairs

inductive Label where
  | deliver (index : Nat)
  | handle (index : Nat)

def step (pairCount : Nat) (writeCount : UInt64) (pairs : Pairs) :
    Label → Option Pairs
  | .deliver index =>
      if (pairs.ptrs index).read = .waiting ∧ 0 < (pairs.ptrs index).stream
      then some (pairs.change index Pair.deliver)
      else none
  | .handle index =>
      match (pairs.ptrs index).read with
      | .completed success =>
          some ((pairs.change index Pair.finish).handleRead pairCount
            writeCount index success)
      | _ => none

/-- `run()` after `start()`. -/
def system (pairCount activeCount : Nat) (writeCount : UInt64) :
    System Pairs Label where
  Initial pairs := pairs = (Pairs.construct pairCount).start activeCount
  step := step pairCount writeCount

/-- A byte that has been written and not been counted as read. -/
def Pair.carried (pair : Pair) : Nat :=
  pair.stream + if pair.read = .completed true then 1 else 0

/-- A read whose handler is still to run. -/
def Pair.outstanding (pair : Pair) : Nat :=
  if pair.read = .idle then 0 else 1

def Pairs.count (pairCount : Nat) (weight : Pair → Nat) (pairs : Pairs) : Nat :=
  total weight fun index : Fin pairCount => pairs.ptrs index

/-- The bytes in flight. -/
def Pairs.inFlight (pairCount : Nat) (pairs : Pairs) : Nat :=
  pairs.count pairCount Pair.carried

/-! ## Counting over the pairs -/

section Counting

variable {pairCount activeCount index other : Nat} {writeCount : UInt64}
  {pairs : Pairs}

theorem Pairs.count_change (inside : index < pairCount)
    (weight : Pair → Nat) (changes : Pair → Pair) (pairs : Pairs) :
    (pairs.change index changes).count pairCount weight +
        weight (pairs.ptrs index) =
      pairs.count pairCount weight + weight (changes (pairs.ptrs index)) := by
  have updated := total_update weight
    (fun index : Fin pairCount => pairs.ptrs index) ⟨index, inside⟩
    (changes (pairs.ptrs index))
  have pointwise : Function.update
      (fun index : Fin pairCount => pairs.ptrs index) ⟨index, inside⟩
        (changes (pairs.ptrs index)) =
      fun other : Fin pairCount =>
        (pairs.change index changes).ptrs other := by
    funext other
    by_cases here : other = ⟨index, inside⟩
    · subst here
      simp [Pairs.change]
    · have elsewhere : other.val ≠ index := fun equal => here (Fin.ext equal)
      simp [Pairs.change, here, elsewhere]
  rw [pointwise] at updated
  exact updated

theorem Pairs.count_congr {weight weightOther : Pair → Nat}
    {pairs others : Pairs}
    (same : ∀ index, index < pairCount →
      weight (pairs.ptrs index) = weightOther (others.ptrs index)) :
    pairs.count pairCount weight = others.count pairCount weightOther :=
  total_congr fun index => same index index.isLt

theorem Pairs.count_eq_zero_iff {weight : Pair → Nat} :
    pairs.count pairCount weight = 0 ↔
      ∀ index, index < pairCount → weight (pairs.ptrs index) = 0 := by
  constructor
  · intro zero index inside
    exact total_eq_zero_iff.mp zero ⟨index, inside⟩
  · intro zero
    exact total_eq_zero_iff.mpr fun index => zero index index.isLt

theorem Pairs.count_pairWrite (inside : index < pairCount)
    (weight : Pair → Nat) (pairs : Pairs) :
    (pairs.pairWrite index).count pairCount weight +
        weight (pairs.ptrs index) =
      pairs.count pairCount weight + weight (pairs.ptrs index).write :=
  count_change inside weight Pair.write pairs

/-- Closing neither takes nor adds a byte or a handler. -/
theorem Pairs.count_stop {weight : Pair → Nat}
    (kept : ∀ pair : Pair, weight pair.close = weight pair) (pairs : Pairs) :
    (pairs.stop pairCount).count pairCount weight =
      pairs.count pairCount weight := by
  apply count_congr
  intro index inside
  simp only [stop, inside, if_true]
  exact kept _

end Counting

/-! ## What a step does -/

section Steps

variable {pairCount activeCount index : Nat} {writeCount : UInt64}
  {pairs next : Pairs} {label : Label}

/-- After the counter and the new read, before the handler looks at the
counters. -/
def Pairs.reading (pairs : Pairs) (index : Nat) : Pairs :=
  { (pairs.change index Pair.finish) with
    realReadCount := pairs.realReadCount + 1 }.pairRead index

theorem Pairs.count_reading (inside : index < pairCount)
    (weight : Pair → Nat) (pairs : Pairs) :
    (pairs.reading index).count pairCount weight +
        weight (pairs.ptrs index) =
      pairs.count pairCount weight +
        weight (pairs.ptrs index).finish.asyncRead := by
  have finished := count_change inside weight Pair.finish pairs
  have restarted := count_change inside weight Pair.asyncRead
    (pairs.change index Pair.finish)
  have same : (pairs.change index Pair.finish).ptrs index =
      (pairs.ptrs index).finish := by
    simp [change]
  rw [same] at restarted
  have counted : (pairs.reading index).count pairCount weight =
      ((pairs.change index Pair.finish).change index Pair.asyncRead).count
        pairCount weight := rfl
  omega

/-- The pair to which the handler of `index` passes its byte. -/
def nextIndex (pairCount index : Nat) : Nat :=
  if index + 1 ≥ pairCount then index + 1 - pairCount else index + 1

theorem nextIndex_lt (inside : index < pairCount) :
    nextIndex pairCount index < pairCount := by
  unfold nextIndex
  split
  · omega
  · omega

/-- What a step can do, by the branch that the handler takes. -/
inductive Step (pairCount : Nat) (writeCount : UInt64) (pairs : Pairs) :
    Label → Pairs → Prop where
  | deliver {index : Nat}
      (waits : (pairs.ptrs index).read = .waiting)
      (arrived : 0 < (pairs.ptrs index).stream) :
      Step pairCount writeCount pairs (.deliver index)
        (pairs.change index Pair.deliver)
  | fail {index : Nat}
      (failed : (pairs.ptrs index).read = .completed false) :
      Step pairCount writeCount pairs (.handle index)
        (pairs.change index Pair.finish)
  | passOn {index : Nat}
      (done : (pairs.ptrs index).read = .completed true)
      (budget : pairs.realReadCount + 1 < writeCount) :
      Step pairCount writeCount pairs (.handle index)
        ((pairs.reading index).pairWrite (nextIndex pairCount index))
  | stop {index : Nat}
      (done : (pairs.ptrs index).read = .completed true)
      (spent : ¬ pairs.realReadCount + 1 < writeCount)
      (last : pairs.realReadCount + 1 = pairs.realWriteCount) :
      Step pairCount writeCount pairs (.handle index)
        ((pairs.reading index).stop pairCount)
  | absorb {index : Nat}
      (done : (pairs.ptrs index).read = .completed true)
      (spent : ¬ pairs.realReadCount + 1 < writeCount)
      (others : pairs.realReadCount + 1 ≠ pairs.realWriteCount) :
      Step pairCount writeCount pairs (.handle index) (pairs.reading index)

theorem step_cases
    (taken : step pairCount writeCount pairs label = some next) :
    Step pairCount writeCount pairs label next := by
  cases label with
  | deliver index =>
      simp only [step] at taken
      split at taken
      · rename_i ready
        cases taken
        exact .deliver ready.1 ready.2
      · cases taken
  | handle index =>
      simp only [step] at taken
      split at taken
      · rename_i success completed
        cases taken
        cases success with
        | false => exact .fail completed
        | true =>
            by_cases budget : pairs.realReadCount + 1 < writeCount
            · have passed : (pairs.change index Pair.finish).handleRead
                  pairCount writeCount index true =
                    (pairs.reading index).pairWrite
                      (nextIndex pairCount index) :=
                if_pos budget
              rw [passed]
              exact .passOn completed budget
            · by_cases last :
                  pairs.realReadCount + 1 = pairs.realWriteCount
              · have stopped : (pairs.change index Pair.finish).handleRead
                    pairCount writeCount index true =
                      (pairs.reading index).stop pairCount :=
                  (if_neg budget).trans (if_pos last)
                rw [stopped]
                exact .stop completed budget last
              · have absorbed : (pairs.change index Pair.finish).handleRead
                    pairCount writeCount index true = pairs.reading index :=
                  (if_neg budget).trans (if_neg last)
                rw [absorbed]
                exact .absorb completed budget last
      · cases taken

/-- In a halted state no byte waits to be taken and no handler is queued. -/
theorem halted_reads
    (halted : (system pairCount activeCount writeCount).Halted pairs)
    (index : Nat) :
    (pairs.ptrs index).read = .idle ∨
      (pairs.ptrs index).read = .waiting ∧ (pairs.ptrs index).stream = 0 := by
  have delivers := halted (.deliver index)
  have handles := halted (.handle index)
  simp only [system, step] at delivers handles
  cases reads : (pairs.ptrs index).read with
  | idle => exact .inl rfl
  | waiting =>
      right
      rw [reads] at delivers
      simp only [true_and, ite_eq_right_iff, reduceCtorEq, imp_false,
        Nat.not_lt, Nat.le_zero] at delivers
      exact ⟨rfl, delivers⟩
  | completed success =>
      rw [reads] at handles
      cases handles

end Steps

end AsioBenchmark.SocketPair
