import AsioBenchmark.SocketPair.Circulation

/-!
# The run of the socket pairs ends with nothing in flight
-/

namespace AsioBenchmark.SocketPair

open AsioBenchmark.Transition

/-! ## The beginning -/

section Beginning

variable {pairCount activeCount : Nat} {writeCount : UInt64}

theorem construct_succ (count : Nat) :
    Pairs.construct (count + 1) = (Pairs.construct count).pairRead count := by
  simp [Pairs.construct, List.range_succ]

theorem start_succ (count : Nat) (pairs : Pairs) :
    pairs.start (count + 1) = (pairs.start count).pairWrite count := by
  simp [Pairs.start, List.range_succ]

theorem construct_ptrs (count index : Nat) :
    (Pairs.construct count).ptrs index =
      if index < count then Pair.connected.asyncRead else .connected := by
  induction count with
  | zero => rfl
  | succ count induction =>
      rw [construct_succ]
      by_cases same : index = count
      · subst same
        simp [Pairs.pairRead, Pairs.access, Pairs.change, induction]
      · have earlier : index < count + 1 ↔ index < count := by omega
        simp [Pairs.pairRead, Pairs.access, Pairs.change, same, induction,
          earlier]

theorem construct_fields (count : Nat) :
    (Pairs.construct count).realReadCount = 0 ∧
      (Pairs.construct count).realWriteCount = 0 ∧
      (Pairs.construct count).stops = 0 ∧
      (Pairs.construct count).indexed = List.range count := by
  induction count with
  | zero => exact ⟨rfl, rfl, rfl, rfl⟩
  | succ count induction =>
      obtain ⟨read, written, running, indexed⟩ := induction
      rw [construct_succ]
      refine ⟨read, written, running, ?_⟩
      change (Pairs.construct count).indexed ++ [count] = _
      rw [indexed, List.range_succ]

theorem constructed_confined :
    Confined pairCount (Pairs.construct pairCount) where
  indexed index member := by
    rw [(construct_fields pairCount).2.2.2] at member
    exact List.mem_range.mp member
  outside index beyond := by
    rw [construct_ptrs, if_neg (by omega)]
    rfl

theorem constructed_active (index : Nat) (inside : index < pairCount) :
    ((Pairs.construct pairCount).ptrs index).Active := by
  rw [construct_ptrs, if_pos inside]
  exact ⟨rfl, .inl rfl⟩

theorem constructed_inFlight :
    (Pairs.construct pairCount).inFlight pairCount = 0 := by
  rw [Pairs.inFlight, Pairs.count_eq_zero_iff]
  intro index inside
  rw [construct_ptrs, if_pos inside]
  rfl

/-- After `count` writes of `start()`. -/
structure Launched (pairCount count : Nat) (pairs : Pairs) : Prop where
  confined : Confined pairCount pairs
  active : ∀ index, index < pairCount → (pairs.ptrs index).Active
  inFlight : pairs.inFlight pairCount = count
  written : pairs.realWriteCount.toNat = count
  read : pairs.realReadCount = 0
  running : pairs.stops = 0

theorem launched_construct :
    Launched pairCount 0 (Pairs.construct pairCount) := by
  obtain ⟨read, written, running, _⟩ := construct_fields pairCount
  refine ⟨constructed_confined, constructed_active, constructed_inFlight,
    ?_, read, running⟩
  rw [written]
  rfl

theorem launched_start {count : Nat} (enough : count ≤ pairCount)
    (small : count < 18446744073709551616) :
    Launched pairCount count ((Pairs.construct pairCount).start count) := by
  induction count with
  | zero => exact launched_construct
  | succ count induction =>
      have before := induction (by omega) (by omega)
      have inside : count < pairCount := by omega
      rw [start_succ]
      refine ⟨before.confined.pairWrite inside,
        active_pairWrite before.active inside, ?_, ?_, before.read,
        before.running⟩
      · rw [inFlight_pairWrite inside, before.inFlight]
      · have written := before.written
        have next := toNat_succ (by rw [written]; exact small)
        rw [written] at next
        exact next

theorem invariant_started (positive : 1 ≤ activeCount)
    (enough : activeCount ≤ pairCount)
    (bounded : tokens activeCount writeCount < 18446744073709551616) :
    Invariant pairCount activeCount writeCount
      ((Pairs.construct pairCount).start activeCount) := by
  have small : activeCount < 18446744073709551616 := by
    unfold tokens at bounded
    omega
  have launched := launched_start enough small
  refine ⟨launched.confined, .inl
    ⟨launched.running, launched.active, ?_, ?_, ?_⟩⟩
  · rw [launched.written, launched.read]
    simp
  · rw [launched.written, launched.read, launched.inFlight]
    simp
  · rw [launched.inFlight]
    exact positive

end Beginning

/-! ## Whole runs -/

section Runs

variable {pairCount activeCount : Nat} {writeCount : UInt64} {pairs : Pairs}
  {labels : List Label}

abbrev Reached (pairCount activeCount : Nat) (writeCount : UInt64)
    (pairs : Pairs) : Prop :=
  ∃ labels, (system pairCount activeCount writeCount).Run
    ((Pairs.construct pairCount).start activeCount) labels pairs

/-- The run ends with one `stop()` and nothing in flight. -/
structure EndsEmpty (pairCount activeCount : Nat) (writeCount : UInt64) :
    Prop where
  terminates : (system pairCount activeCount writeCount).Terminates
    ((Pairs.construct pairCount).start activeCount)
  inFlight : ∀ pairs, Reached pairCount activeCount writeCount pairs →
    pairs.realReadCount.toNat ≤ pairs.realWriteCount.toNat ∧
      pairs.realWriteCount.toNat - pairs.realReadCount.toNat =
        pairs.inFlight pairCount
  moving : ∀ pairs, Reached pairCount activeCount writeCount pairs →
    pairs.stops = 0 → 1 ≤ pairs.inFlight pairCount
  inside : ∀ pairs, Reached pairCount activeCount writeCount pairs →
    ∀ index ∈ pairs.indexed, index < pairCount
  once : ∀ pairs, Reached pairCount activeCount writeCount pairs →
    pairs.stops ≤ 1
  stopped : ∀ pairs, Reached pairCount activeCount writeCount pairs →
    pairs.stops = 1 →
      pairs.realReadCount.toNat = activeCount + max writeCount.toNat 1 - 1 ∧
        pairs.realWriteCount.toNat =
          activeCount + max writeCount.toNat 1 - 1 ∧
        ∀ index, (pairs.ptrs index).read ≠ .completed true
  ends : ∀ pairs, Reached pairCount activeCount writeCount pairs →
    (system pairCount activeCount writeCount).Halted pairs → pairs.stops = 1

theorem run_invariant (positive : 1 ≤ activeCount)
    (enough : activeCount ≤ pairCount)
    (bounded : tokens activeCount writeCount < 18446744073709551616)
    (run : (system pairCount activeCount writeCount).Run
      ((Pairs.construct pairCount).start activeCount) labels pairs) :
    Invariant pairCount activeCount writeCount pairs := by
  induction run with
  | refl => exact invariant_started positive enough bounded
  | snoc _ moved induction => exact (induction.step bounded moved).1

theorem terminates (positive : 1 ≤ activeCount)
    (enough : activeCount ≤ pairCount)
    (bounded : tokens activeCount writeCount < 18446744073709551616) :
    (system pairCount activeCount writeCount).Terminates
      ((Pairs.construct pairCount).start activeCount) := by
  apply System.terminates_of_rank fun number pairs =>
    Invariant pairCount activeCount writeCount pairs ∧
      rank pairCount activeCount writeCount pairs = number
  · rintro number pairs label next ⟨invariant, rfl⟩ taken
    obtain ⟨preserved, less⟩ := invariant.step bounded taken
    exact ⟨_, less, preserved, rfl⟩
  · exact ⟨invariant_started positive enough bounded, rfl⟩

theorem Invariant.conserved
    (invariant : Invariant pairCount activeCount writeCount pairs) :
    pairs.realWriteCount.toNat =
      pairs.realReadCount.toNat + pairs.inFlight pairCount := by
  rcases invariant.phase with circulating | stopped
  · exact circulating.conserved
  · rw [stopped.written, stopped.read, stopped.empty]
    rfl

/-- While bytes are in flight one of them can be taken or handled. -/
theorem not_halted
    (active : ∀ index, index < pairCount → (pairs.ptrs index).Active)
    (moving : 1 ≤ pairs.inFlight pairCount) :
    ¬ (system pairCount activeCount writeCount).Halted pairs := by
  intro halted
  have empty : pairs.inFlight pairCount = 0 := by
    rw [Pairs.inFlight, Pairs.count_eq_zero_iff]
    intro index inside
    rcases halted_reads halted index with idle | ⟨waits, noByte⟩
    · have reads := (active index inside).reads
      simp [idle] at reads
    · simp [Pair.carried, waits, noByte]
  omega

theorem endsEmpty_of_bounded (positive : 1 ≤ activeCount)
    (enough : activeCount ≤ pairCount)
    (bounded : tokens activeCount writeCount < 18446744073709551616) :
    EndsEmpty pairCount activeCount writeCount where
  terminates := terminates positive enough bounded
  inFlight := by
    rintro pairs ⟨labels, run⟩
    have conserved := (run_invariant positive enough bounded run).conserved
    omega
  moving := by
    rintro pairs ⟨labels, run⟩ running
    rcases (run_invariant positive enough bounded run).phase with
      circulating | stopped
    · exact circulating.moving
    · simp [stopped.once] at running
  inside := by
    rintro pairs ⟨labels, run⟩
    exact (run_invariant positive enough bounded run).confined.indexed
  once := by
    rintro pairs ⟨labels, run⟩
    rcases (run_invariant positive enough bounded run).phase with
      circulating | stopped
    · simp [circulating.running]
    · exact stopped.once.le
  stopped := by
    rintro pairs ⟨labels, run⟩ once
    have invariant := run_invariant positive enough bounded run
    rcases invariant.phase with circulating | stopped
    · simp [circulating.running] at once
    · refine ⟨stopped.read, stopped.written, ?_⟩
      intro index done
      have inside := invariant.confined.lt_of_read done (by simp)
      have ended := stopped.ended index inside
      simp [Pair.Ended, done] at ended
  ends := by
    rintro pairs ⟨labels, run⟩ halted
    rcases (run_invariant positive enough bounded run).phase with
      circulating | stopped
    · exact absurd halted (not_halted circulating.active circulating.moving)
    · exact stopped.once

/-- A counter of 64 bits does not get beyond them. -/
theorem EndsEmpty.bounded (ends : EndsEmpty pairCount activeCount writeCount) :
    activeCount + max writeCount.toNat 1 - 1 < 18446744073709551616 := by
  obtain ⟨labels, pairs, run, halted⟩ := ends.terminates.exists_halted
  have reached : Reached pairCount activeCount writeCount pairs :=
    ⟨labels, run⟩
  have once := ends.ends pairs reached halted
  obtain ⟨read, _⟩ := ends.stopped pairs reached once
  rw [← read]
  exact pairs.realReadCount.toNat_lt

/-- The run ends as it should exactly when the number of bytes to be written
fits into `size_t`. -/
theorem ends_empty_iff (positive : 1 ≤ activeCount)
    (enough : activeCount ≤ pairCount) :
    EndsEmpty pairCount activeCount writeCount ↔
      activeCount + max writeCount.toNat 1 - 1 < 18446744073709551616 :=
  ⟨EndsEmpty.bounded, endsEmpty_of_bounded positive enough⟩

theorem ends_empty_three :
    EndsEmpty 3 2 10 ↔ 2 + max (10 : UInt64).toNat 1 - 1 <
      18446744073709551616 :=
  ends_empty_iff (by decide) (by decide)

/-- `socketpair 2 2 -1`: the counters would have to reach `2 ^ 64`. -/
theorem two_tokens_overflow : ¬ EndsEmpty 2 2 18446744073709551615 := by
  intro ends
  have bounded := ends.bounded
  exact absurd bounded (by decide)

end Runs

end AsioBenchmark.SocketPair
