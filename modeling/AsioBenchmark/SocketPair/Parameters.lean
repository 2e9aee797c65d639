import AsioBenchmark.SocketPair.Termination

/-!
# The arguments of the socket pairs

`main` takes the three numbers of `socket_pair_test` from the command line and
checks none of them, `start()` divides by one and indexes with it.  The end of
a run does not depend on the third: the counters may wrap around, their
difference remains the number of bytes in flight.
-/

namespace AsioBenchmark.SocketPair

open AsioBenchmark.Transition

/-! ## From the command line to `start()` -/

/-- The `int` of `atoi` becomes a `size_t`. -/
def toSize (value : Int32) : UInt64 :=
  value.toInt64.toUInt64

/-- `pair_count_ / active_count_`. -/
def space (pairCount activeCount : UInt64) : Option UInt64 :=
  if activeCount = 0 then none else some (pairCount / activeCount)

/-- `start()` with its division, whose quotient it does not use. -/
def Pairs.launch (pairCount activeCount : UInt64) (pairs : Pairs) :
    Option Pairs :=
  (space pairCount activeCount).map fun _ => pairs.start activeCount.toNat

/-- A round of `socket_pair_test`, whatever the order of its reads. -/
structure Completes (pairCount activeCount writeCount : UInt64) : Prop where
  launched : ∃ pairs,
    (Pairs.construct pairCount.toNat).launch pairCount activeCount =
        some pairs ∧
      1 ≤ pairs.inFlight pairCount.toNat
  inside : ∀ pairs,
    Reached pairCount.toNat activeCount.toNat writeCount pairs →
      ∀ index ∈ pairs.indexed, index < pairCount.toNat
  terminates :
    (system pairCount.toNat activeCount.toNat writeCount).Terminates
      ((Pairs.construct pairCount.toNat).start activeCount.toNat)
  ends : ∀ pairs,
    Reached pairCount.toNat activeCount.toNat writeCount pairs →
      (system pairCount.toNat activeCount.toNat writeCount).Halted pairs →
        pairs.stops = 1

/-! ## Counters that wrap around -/

section Wrapping

variable {pairCount activeCount index : Nat} {writeCount : UInt64}
  {pairs next : Pairs} {label : Label} {labels : List Label}

/-- Before `stop()`, also after `2 ^ 64` reads. -/
structure Flowing (pairCount : Nat) (pairs : Pairs) : Prop where
  running : pairs.stops = 0
  active : ∀ index, index < pairCount → (pairs.ptrs index).Active
  ahead : (pairs.realWriteCount - pairs.realReadCount).toNat =
    pairs.inFlight pairCount
  moving : 1 ≤ pairs.inFlight pairCount

/-- After `stop()`. -/
structure Drained (pairCount : Nat) (pairs : Pairs) : Prop where
  once : pairs.stops = 1
  ended : ∀ index, index < pairCount → (pairs.ptrs index).Ended

structure Progress (pairCount : Nat) (pairs : Pairs) : Prop where
  confined : Confined pairCount pairs
  phase : Flowing pairCount pairs ∨ Drained pairCount pairs

/-- The reads that will pass their byte on before one keeps it. -/
def passes (writeCount : UInt64) (pairs : Pairs) : Nat :=
  writeCount.toNat - (pairs.realReadCount + 1).toNat

/-- A byte is passed on fewer than `2 ^ 64` times before one is kept. -/
def distance (pairCount : Nat) (writeCount : UInt64) (pairs : Pairs) : Nat :=
  pairs.count pairCount Pair.remaining +
    2 * (passes writeCount pairs +
      18446744073709551616 * pairs.inFlight pairCount)

theorem sub_succ {written read : UInt64} (behind : 1 ≤ (written - read).toNat) :
    (written - (read + 1)).toNat + 1 = (written - read).toNat := by
  have same : written - (read + 1) = written - read - 1 := by grind
  have positive : 1 ≤ written - read := by
    rw [UInt64.le_iff_toNat_le, UInt64.toNat_one]
    exact behind
  rw [same, UInt64.toNat_sub_of_le _ _ positive, UInt64.toNat_one]
  omega

theorem passes_lt : passes writeCount pairs < 18446744073709551616 := by
  have small := writeCount.toNat_lt
  unfold passes
  omega

theorem Flowing.deliver (flowing : Flowing pairCount pairs)
    (inside : index < pairCount)
    (waits : (pairs.ptrs index).read = .waiting)
    (arrived : 0 < (pairs.ptrs index).stream) :
    Flowing pairCount (pairs.change index Pair.deliver) where
  running := flowing.running
  active := Pairs.forall_change flowing.active
    ⟨(flowing.active index inside).connected, .inr rfl⟩
  ahead := by
    rw [inFlight_deliver inside waits arrived]
    exact flowing.ahead
  moving := by
    rw [inFlight_deliver inside waits arrived]
    exact flowing.moving

section Handler

variable (flowing : Flowing pairCount pairs) (inside : index < pairCount)
  (done : (pairs.ptrs index).read = .completed true)

include flowing inside done

theorem Flowing.reading :
    (pairs.reading index).inFlight pairCount + 1 =
        pairs.inFlight pairCount ∧
      (pairs.reading index).count pairCount Pair.remaining =
        pairs.count pairCount Pair.remaining ∧
      (pairs.realWriteCount - (pairs.realReadCount + 1)).toNat =
        (pairs.reading index).inFlight pairCount := by
  have connected := (flowing.active index inside).connected
  have fewer := inFlight_reading inside connected done
  have ahead := flowing.ahead
  have behind : 1 ≤ (pairs.realWriteCount - pairs.realReadCount).toNat := by
    rw [ahead]
    exact flowing.moving
  have counted := sub_succ behind
  exact ⟨fewer, remaining_reading inside connected done, by omega⟩

theorem Flowing.passOn :
    Flowing pairCount
      ((pairs.reading index).pairWrite (nextIndex pairCount index)) := by
  obtain ⟨fewer, _, _⟩ := flowing.reading inside done
  have more := inFlight_pairWrite (nextIndex_lt inside) (pairs.reading index)
  have moving := flowing.moving
  refine ⟨flowing.running, active_pairWrite
    (active_reading flowing.active inside) (nextIndex_lt inside), ?_,
      by omega⟩
  have same : pairs.realWriteCount + 1 - (pairs.realReadCount + 1) =
      pairs.realWriteCount - pairs.realReadCount := by
    grind
  have ahead := flowing.ahead
  change (pairs.realWriteCount + 1 - (pairs.realReadCount + 1)).toNat = _
  rw [same]
  omega

theorem Flowing.absorb
    (others : pairs.realReadCount + 1 ≠ pairs.realWriteCount) :
    Flowing pairCount (pairs.reading index) := by
  obtain ⟨_, _, ahead⟩ := flowing.reading inside done
  refine ⟨flowing.running, active_reading flowing.active inside, ahead, ?_⟩
  by_contra none
  have zero : (pairs.realWriteCount - (pairs.realReadCount + 1)).toNat =
      (0 : UInt64).toNat := by
    rw [ahead, UInt64.toNat_zero]
    omega
  have equal := UInt64.toNat_inj.mp zero
  exact others (by grind)

theorem Flowing.stop
    (last : pairs.realReadCount + 1 = pairs.realWriteCount) :
    Drained pairCount ((pairs.reading index).stop pairCount) := by
  obtain ⟨_, _, ahead⟩ := flowing.reading inside done
  have running : (pairs.reading index).stops = 0 := flowing.running
  have empty : ((pairs.reading index).stop pairCount).inFlight pairCount =
      0 := by
    rw [Pairs.inFlight, Pairs.count_stop Pair.carried_close,
      ← Pairs.inFlight, ← ahead, last]
    simp
  exact ⟨by simp [Pairs.stop, running],
    ended_stop (active_reading flowing.active inside) empty⟩

end Handler

/-- A read that passes its byte on brings the next one that does not
closer. -/
theorem passes_succ (budget : pairs.realReadCount + 1 < writeCount)
    (read : next.realReadCount = pairs.realReadCount + 1) :
    passes writeCount next + 1 ≤ passes writeCount pairs := by
  have room := UInt64.lt_iff_toNat_lt.mp budget
  have small := writeCount.toNat_lt
  have counted : (pairs.realReadCount + 1 + 1).toNat =
      (pairs.realReadCount + 1).toNat + 1 :=
    toNat_succ (by omega)
  unfold passes
  rw [read, counted]
  omega

theorem Flowing.step (flowing : Flowing pairCount pairs)
    (confined : Confined pairCount pairs)
    (taken : Step pairCount writeCount pairs label next) :
    (Flowing pairCount next ∨ Drained pairCount next) ∧
      distance pairCount writeCount next <
        distance pairCount writeCount pairs := by
  cases taken with
  | deliver waits arrived =>
      have inside := confined.lt_of_read waits (by simp)
      have fewer := remaining_deliver inside waits arrived
      have same := inFlight_deliver inside waits arrived
      refine ⟨.inl (flowing.deliver inside waits arrived), ?_⟩
      unfold distance
      change _ + 2 * (passes writeCount pairs + _) < _
      omega
  | fail failed =>
      have inside := confined.lt_of_read failed (by simp)
      rcases (flowing.active _ inside).reads with waits | taken
      · simp [failed] at waits
      · simp [failed] at taken
  | @passOn index done budget =>
      have inside := confined.lt_of_read done (by simp)
      obtain ⟨fewer, kept, _⟩ := flowing.reading inside done
      have written := nextIndex_lt inside
      have more := inFlight_pairWrite written (pairs.reading index)
      have busier := remaining_pairWrite written (pairs.reading index)
      have closer : passes writeCount
          ((pairs.reading index).pairWrite (nextIndex pairCount index)) + 1 ≤
            passes writeCount pairs :=
        passes_succ budget rfl
      refine ⟨.inl (flowing.passOn inside done), ?_⟩
      unfold distance
      omega
  | @stop index done spent last =>
      have inside := confined.lt_of_read done (by simp)
      obtain ⟨fewer, kept, _⟩ := flowing.reading inside done
      have closed : ((pairs.reading index).stop pairCount).count pairCount
          Pair.remaining =
            (pairs.reading index).count pairCount Pair.remaining :=
        Pairs.count_stop Pair.remaining_close (pairs.reading index)
      have flies : ((pairs.reading index).stop pairCount).inFlight pairCount =
          (pairs.reading index).inFlight pairCount :=
        Pairs.count_stop Pair.carried_close (pairs.reading index)
      have small := @passes_lt writeCount
        ((pairs.reading index).stop pairCount)
      refine ⟨.inr (flowing.stop inside done last), ?_⟩
      unfold distance
      omega
  | @absorb index done spent others =>
      have inside := confined.lt_of_read done (by simp)
      obtain ⟨fewer, kept, _⟩ := flowing.reading inside done
      have small := @passes_lt writeCount (pairs.reading index)
      refine ⟨.inl (flowing.absorb inside done others), ?_⟩
      unfold distance
      omega

theorem Drained.step (drained : Drained pairCount pairs)
    (confined : Confined pairCount pairs)
    (taken : Step pairCount writeCount pairs label next) :
    Drained pairCount next ∧
      distance pairCount writeCount next <
        distance pairCount writeCount pairs := by
  obtain ⟨index, inside, failed, rfl⟩ := taken.of_ended drained.ended confined
  have fewer := remaining_fail inside failed
  have same := inFlight_fail inside failed
  refine ⟨⟨drained.once, ended_finish drained.ended⟩, ?_⟩
  unfold distance
  change _ + 2 * (passes writeCount pairs + _) < _
  omega

theorem Progress.step (progress : Progress pairCount pairs)
    (taken : (system pairCount activeCount writeCount).step pairs label =
      some next) :
    Progress pairCount next ∧
      distance pairCount writeCount next <
        distance pairCount writeCount pairs := by
  have possible := step_cases taken
  have confined := progress.confined.step possible
  rcases progress.phase with flowing | drained
  · obtain ⟨phase, less⟩ := flowing.step progress.confined possible
    exact ⟨⟨confined, phase⟩, less⟩
  · obtain ⟨remains, less⟩ := drained.step progress.confined possible
    exact ⟨⟨confined, .inr remains⟩, less⟩

end Wrapping

/-! ## Whole runs -/

section Runs

variable {pairCount activeCount writeCount : UInt64} {pairs next : Pairs}
  {labels : List Label}

theorem indexed_start (count : Nat) (pairs : Pairs) :
    (pairs.start count).indexed = pairs.indexed ++ List.range count := by
  induction count with
  | zero => simp [Pairs.start]
  | succ count induction =>
      rw [start_succ, List.range_succ, ← List.append_assoc, ← induction]
      rfl

theorem launch_eq_some_iff :
    pairs.launch pairCount activeCount = some next ↔
      1 ≤ activeCount ∧ next = pairs.start activeCount.toNat := by
  have positive : 1 ≤ activeCount ↔ activeCount ≠ 0 := by
    rw [UInt64.le_iff_toNat_le, UInt64.toNat_one, ← UInt64.toNat_inj.ne,
      UInt64.toNat_zero]
    omega
  rw [positive]
  unfold Pairs.launch space
  split
  · rename_i zero
    simp [zero]
  · rename_i nonzero
    simp [nonzero, eq_comm]

section Enough

variable (positive : 1 ≤ activeCount) (enough : activeCount ≤ pairCount)

include positive enough

theorem inFlight_started :
    1 ≤ ((Pairs.construct pairCount.toNat).start activeCount.toNat).inFlight
      pairCount.toNat := by
  have launched := launched_start (UInt64.le_iff_toNat_le.mp enough)
    activeCount.toNat_lt
  rw [launched.inFlight]
  exact UInt64.le_iff_toNat_le.mp positive

theorem progress_started :
    Progress pairCount.toNat
      ((Pairs.construct pairCount.toNat).start activeCount.toNat) := by
  have launched := launched_start (UInt64.le_iff_toNat_le.mp enough)
    activeCount.toNat_lt
  refine ⟨launched.confined, .inl
    ⟨launched.running, launched.active, ?_,
      inFlight_started positive enough⟩⟩
  rw [launched.read, launched.inFlight, UInt64.sub_zero, launched.written]

theorem run_progress
    (run : (system pairCount.toNat activeCount.toNat writeCount).Run
      ((Pairs.construct pairCount.toNat).start activeCount.toNat) labels
        pairs) :
    Progress pairCount.toNat pairs := by
  induction run with
  | refl => exact progress_started positive enough
  | snoc _ moved induction => exact (induction.step moved).1

theorem terminates_of_enough :
    (system pairCount.toNat activeCount.toNat writeCount).Terminates
      ((Pairs.construct pairCount.toNat).start activeCount.toNat) := by
  apply System.terminates_of_rank fun number pairs =>
    Progress pairCount.toNat pairs ∧
      distance pairCount.toNat writeCount pairs = number
  · rintro number pairs label next ⟨progress, rfl⟩ taken
    obtain ⟨preserved, less⟩ := progress.step taken
    exact ⟨_, less, preserved, rfl⟩
  · exact ⟨progress_started positive enough, rfl⟩

theorem completes_of_enough :
    Completes pairCount activeCount writeCount where
  launched := by
    refine ⟨_, launch_eq_some_iff.mpr ⟨positive, rfl⟩, ?_⟩
    exact inFlight_started positive enough
  inside := by
    rintro pairs ⟨labels, run⟩
    exact (run_progress positive enough run).confined.indexed
  terminates := terminates_of_enough positive enough
  ends := by
    rintro pairs ⟨labels, run⟩ halted
    rcases (run_progress positive enough run).phase with flowing | drained
    · exact absurd halted (not_halted flowing.active flowing.moving)
    · exact drained.once

end Enough

/-- `start()` uses the last of its indices. -/
theorem Completes.enough
    (completes : Completes pairCount activeCount writeCount) :
    1 ≤ activeCount ∧ activeCount ≤ pairCount := by
  obtain ⟨pairs, launched, _⟩ := completes.launched
  obtain ⟨positive, _⟩ := launch_eq_some_iff.mp launched
  have reached : Reached pairCount.toNat activeCount.toNat writeCount
      ((Pairs.construct pairCount.toNat).start activeCount.toNat) :=
    ⟨[], .refl⟩
  have least := UInt64.le_iff_toNat_le.mp positive
  rw [UInt64.toNat_one] at least
  have used : activeCount.toNat - 1 ∈
      ((Pairs.construct pairCount.toNat).start activeCount.toNat).indexed := by
    rw [indexed_start, List.mem_append, List.mem_range]
    right
    omega
  have inside := completes.inside _ reached _ used
  refine ⟨positive, UInt64.le_iff_toNat_le.mpr ?_⟩
  omega

theorem completes_iff :
    Completes pairCount activeCount writeCount ↔
      1 ≤ activeCount ∧ activeCount ≤ pairCount :=
  ⟨Completes.enough, fun holds => completes_of_enough holds.1 holds.2⟩

/-- Any three numbers on the command line. -/
theorem arguments_complete_iff (pairCount activeCount writeCount : Int32) :
    Completes (toSize pairCount) (toSize activeCount) (toSize writeCount) ↔
      1 ≤ toSize activeCount ∧ toSize activeCount ≤ toSize pairCount :=
  completes_iff

/-- `socketpair 1 2 1` writes to `ptrs_[1]`, `socketpair 1 0 1` divides by
zero. -/
theorem arguments_unchecked :
    (1 ∈ ((Pairs.construct 1).start 2).indexed ∧
      ¬ Completes (toSize 1) (toSize 2) (toSize 1)) ∧
    (Pairs.construct 1).launch 1 0 = none ∧
      ¬ Completes (toSize 1) (toSize 0) (toSize 1) := by
  refine ⟨⟨by decide, ?_⟩, rfl, ?_⟩
  · intro completes
    exact absurd completes.enough.2 (by decide)
  · intro completes
    exact absurd completes.enough.1 (by decide)

end Runs

end AsioBenchmark.SocketPair
