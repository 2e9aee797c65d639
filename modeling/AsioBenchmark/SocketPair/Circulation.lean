import AsioBenchmark.SocketPair.Tokens

/-!
# The counters and the tokens in flight

Every token is read once for each write, so `real_write_count_` is ahead of
`real_read_count_` by the tokens in flight.  While the write budget lasts their
number stays `active_count_`, afterwards each read absorbs one, and the read
that absorbs the last one makes the counters equal.
-/

namespace AsioBenchmark.SocketPair

open AsioBenchmark.Transition

section Invariant

variable {pairCount activeCount index : Nat} {writeCount : UInt64}
  {pairs next : Pairs} {label : Label} {labels : List Label}

/-- The number of bytes that are written in a whole run. -/
def tokens (activeCount : Nat) (writeCount : UInt64) : Nat :=
  activeCount + max writeCount.toNat 1 - 1

/-- A pair before `stop()`: its read waits or has taken a byte. -/
structure Pair.Active (pair : Pair) : Prop where
  connected : pair.closed = false
  reads : pair.read = .waiting ∨ pair.read = .completed true

/-- Before `stop()`. -/
structure Circulating (pairCount activeCount : Nat) (writeCount : UInt64)
    (pairs : Pairs) : Prop where
  running : pairs.stops = 0
  active : ∀ index, index < pairCount → (pairs.ptrs index).Active
  written : pairs.realWriteCount.toNat =
    activeCount + min pairs.realReadCount.toNat (max writeCount.toNat 1 - 1)
  conserved : pairs.realWriteCount.toNat =
    pairs.realReadCount.toNat + pairs.inFlight pairCount
  moving : 1 ≤ pairs.inFlight pairCount

/-- A pair after `stop()`: its read is over or has been aborted. -/
def Pair.Ended (pair : Pair) : Prop :=
  pair.read = .idle ∨ pair.read = .completed false

/-- After `stop()`. -/
structure Stopped (pairCount activeCount : Nat) (writeCount : UInt64)
    (pairs : Pairs) : Prop where
  once : pairs.stops = 1
  ended : ∀ index, index < pairCount → (pairs.ptrs index).Ended
  read : pairs.realReadCount.toNat = tokens activeCount writeCount
  written : pairs.realWriteCount.toNat = tokens activeCount writeCount
  empty : pairs.inFlight pairCount = 0

/-- Only the pairs of `ptrs_` are ever used. -/
structure Confined (pairCount : Nat) (pairs : Pairs) : Prop where
  indexed : ∀ index ∈ pairs.indexed, index < pairCount
  outside : ∀ index, pairCount ≤ index → (pairs.ptrs index).read = .idle

structure Invariant (pairCount activeCount : Nat) (writeCount : UInt64)
    (pairs : Pairs) : Prop where
  confined : Confined pairCount pairs
  phase : Circulating pairCount activeCount writeCount pairs ∨
    Stopped pairCount activeCount writeCount pairs

def Pair.remaining (pair : Pair) : Nat :=
  pair.stream + pair.outstanding

/-- What is still to happen: the bytes on the way, the handlers, and twice the
reads to come, each of which may write a byte. -/
def rank (pairCount activeCount : Nat) (writeCount : UInt64)
    (pairs : Pairs) : Nat :=
  pairs.count pairCount Pair.remaining +
    2 * (tokens activeCount writeCount - pairs.realReadCount.toNat)

theorem Confined.lt_of_read (confined : Confined pairCount pairs)
    {read : Read} (reads : (pairs.ptrs index).read = read)
    (busy : read ≠ .idle) : index < pairCount := by
  by_contra beyond
  have outside := confined.outside index (Nat.le_of_not_lt beyond)
  exact busy (reads.symm.trans outside)

theorem Confined.change (confined : Confined pairCount pairs)
    (inside : index < pairCount) (changes : Pair → Pair) :
    Confined pairCount (pairs.change index changes) where
  indexed := confined.indexed
  outside other beyond := by
    have different : other ≠ index := by omega
    simp only [Pairs.change, Function.update_of_ne different]
    exact confined.outside other beyond

theorem Confined.access (confined : Confined pairCount pairs)
    (inside : index < pairCount) :
    Confined pairCount (pairs.access index) where
  indexed other member := by
    simp only [Pairs.access, List.mem_append, List.mem_singleton] at member
    rcases member with earlier | rfl
    · exact confined.indexed other earlier
    · exact inside
  outside := confined.outside

theorem Confined.reading (confined : Confined pairCount pairs)
    (inside : index < pairCount) :
    Confined pairCount (pairs.reading index) := by
  have finished := confined.change inside Pair.finish
  have counted : Confined pairCount
      { (pairs.change index Pair.finish) with
        realReadCount := pairs.realReadCount + 1 } :=
    ⟨finished.indexed, finished.outside⟩
  exact (counted.access inside).change inside Pair.asyncRead

theorem Confined.pairWrite (confined : Confined pairCount pairs)
    (inside : index < pairCount) :
    Confined pairCount (pairs.pairWrite index) := by
  have written := (confined.access inside).change inside Pair.write
  exact ⟨written.indexed, written.outside⟩

theorem Confined.stop (confined : Confined pairCount pairs) :
    Confined pairCount (pairs.stop pairCount) where
  indexed := confined.indexed
  outside other beyond := by
    have after : ¬ other < pairCount := by omega
    simp only [Pairs.stop, after, if_false]
    exact confined.outside other beyond

theorem Confined.step (confined : Confined pairCount pairs)
    (taken : Step pairCount writeCount pairs label next) :
    Confined pairCount next := by
  cases taken with
  | deliver waits arrived =>
      have inside := confined.lt_of_read waits (by simp)
      exact confined.change inside Pair.deliver
  | fail failed =>
      have inside := confined.lt_of_read failed (by simp)
      exact confined.change inside Pair.finish
  | passOn done budget =>
      have inside := confined.lt_of_read done (by simp)
      exact (confined.reading inside).pairWrite (nextIndex_lt inside)
  | stop done spent last =>
      have inside := confined.lt_of_read done (by simp)
      exact (confined.reading inside).stop
  | absorb done spent others =>
      have inside := confined.lt_of_read done (by simp)
      exact confined.reading inside

end Invariant

/-! ## The counters and the bytes in flight -/

section Steps

variable {pairCount activeCount index : Nat} {writeCount : UInt64}
  {pairs next : Pairs} {label : Label} {labels : List Label}

theorem Pair.carried_close (pair : Pair) :
    pair.close.carried = pair.carried := by
  simp only [carried, close]
  by_cases waits : pair.read = .waiting
  · simp [waits]
  · simp [waits]

theorem Pair.outstanding_close (pair : Pair) :
    pair.close.outstanding = pair.outstanding := by
  simp only [outstanding, close]
  by_cases waits : pair.read = .waiting
  · simp [waits]
  · simp [waits]

theorem inFlight_reading (inside : index < pairCount)
    (connected : (pairs.ptrs index).closed = false)
    (done : (pairs.ptrs index).read = .completed true) :
    (pairs.reading index).inFlight pairCount + 1 =
      pairs.inFlight pairCount := by
  have counted := pairs.count_reading inside Pair.carried
  have before : (pairs.ptrs index).carried =
      (pairs.ptrs index).stream + 1 := by
    simp [Pair.carried, done]
  have after : (pairs.ptrs index).finish.asyncRead.carried =
      (pairs.ptrs index).stream := by
    simp [Pair.carried, Pair.asyncRead, Pair.finish, connected]
  rw [before, after] at counted
  unfold Pairs.inFlight
  omega

theorem inFlight_pairWrite (inside : index < pairCount) (pairs : Pairs) :
    (pairs.pairWrite index).inFlight pairCount =
      pairs.inFlight pairCount + 1 := by
  have counted := pairs.count_pairWrite inside Pair.carried
  have after : (pairs.ptrs index).write.carried =
      (pairs.ptrs index).carried + 1 :=
    Nat.add_right_comm _ _ _
  rw [after] at counted
  unfold Pairs.inFlight
  omega

theorem inFlight_deliver
    (inside : index < pairCount)
    (waits : (pairs.ptrs index).read = .waiting)
    (arrived : 0 < (pairs.ptrs index).stream) :
    (pairs.change index Pair.deliver).inFlight pairCount =
      pairs.inFlight pairCount := by
  have counted := pairs.count_change inside Pair.carried Pair.deliver
  have same : (pairs.ptrs index).deliver.carried =
      (pairs.ptrs index).carried := by
    simp only [Pair.carried, Pair.deliver, waits, if_true, reduceCtorEq,
      if_false]
    omega
  unfold Pairs.inFlight
  omega

theorem inFlight_fail (inside : index < pairCount)
    (failed : (pairs.ptrs index).read = .completed false) :
    (pairs.change index Pair.finish).inFlight pairCount =
      pairs.inFlight pairCount := by
  have counted := pairs.count_change inside Pair.carried Pair.finish
  have same : (pairs.ptrs index).finish.carried =
      (pairs.ptrs index).carried := by
    simp [Pair.carried, Pair.finish, failed]
  unfold Pairs.inFlight
  omega

theorem remaining_reading (inside : index < pairCount)
    (connected : (pairs.ptrs index).closed = false)
    (done : (pairs.ptrs index).read = .completed true) :
    (pairs.reading index).count pairCount Pair.remaining =
      pairs.count pairCount Pair.remaining := by
  have counted := pairs.count_reading inside Pair.remaining
  have same : (pairs.ptrs index).finish.asyncRead.remaining =
      (pairs.ptrs index).remaining := by
    simp [Pair.remaining, Pair.outstanding, Pair.asyncRead, Pair.finish,
      connected, done]
  omega

theorem remaining_pairWrite (inside : index < pairCount) (pairs : Pairs) :
    (pairs.pairWrite index).count pairCount Pair.remaining =
      pairs.count pairCount Pair.remaining + 1 := by
  have counted := pairs.count_pairWrite inside Pair.remaining
  have after : (pairs.ptrs index).write.remaining =
      (pairs.ptrs index).remaining + 1 :=
    Nat.add_right_comm _ _ _
  omega

theorem remaining_deliver (inside : index < pairCount)
    (waits : (pairs.ptrs index).read = .waiting)
    (arrived : 0 < (pairs.ptrs index).stream) :
    (pairs.change index Pair.deliver).count pairCount Pair.remaining + 1 =
      pairs.count pairCount Pair.remaining := by
  have counted := pairs.count_change inside Pair.remaining Pair.deliver
  have less : (pairs.ptrs index).deliver.remaining + 1 =
      (pairs.ptrs index).remaining := by
    simp only [Pair.remaining, Pair.outstanding, Pair.deliver, waits,
      reduceCtorEq, if_false]
    omega
  omega

theorem remaining_fail (inside : index < pairCount)
    (failed : (pairs.ptrs index).read = .completed false) :
    (pairs.change index Pair.finish).count pairCount Pair.remaining + 1 =
      pairs.count pairCount Pair.remaining := by
  have counted := pairs.count_change inside Pair.remaining Pair.finish
  have less : (pairs.ptrs index).finish.remaining + 1 =
      (pairs.ptrs index).remaining := by
    simp [Pair.remaining, Pair.outstanding, Pair.finish, failed]
  omega

theorem Pairs.forall_change {Holds : Pair → Prop} {changes : Pair → Pair}
    (holds : ∀ other, other < pairCount → Holds (pairs.ptrs other))
    (own : Holds (changes (pairs.ptrs index))) (other : Nat)
    (inside : other < pairCount) :
    Holds ((pairs.change index changes).ptrs other) := by
  by_cases same : other = index
  · subst same
    simp only [change, Function.update_self]
    exact own
  · simp only [change, Function.update_of_ne same]
    exact holds other inside

theorem active_reading
    (active : ∀ index, index < pairCount → (pairs.ptrs index).Active)
    (inside : index < pairCount) (other : Nat) (isPair : other < pairCount) :
    ((pairs.reading index).ptrs other).Active := by
  have connected := (active index inside).connected
  have same : (pairs.reading index).ptrs other =
      (pairs.change index fun pair => pair.finish.asyncRead).ptrs other := by
    simp [Pairs.reading, Pairs.pairRead, Pairs.access, Pairs.change]
  rw [same]
  apply Pairs.forall_change active _ other isPair
  exact ⟨connected, .inl (by simp [Pair.asyncRead, Pair.finish, connected])⟩

theorem active_pairWrite
    (active : ∀ index, index < pairCount → (pairs.ptrs index).Active)
    (inside : index < pairCount) (other : Nat) (isPair : other < pairCount) :
    ((pairs.pairWrite index).ptrs other).Active := by
  have own := active index inside
  have accessed : ∀ other, other < pairCount →
      ((pairs.access index).ptrs other).Active := active
  exact Pairs.forall_change accessed ⟨own.connected, own.reads⟩ other isPair

/-- Without a byte in flight `stop()` finds only reads that wait. -/
theorem ended_stop
    (active : ∀ index, index < pairCount → (pairs.ptrs index).Active)
    (empty : (pairs.stop pairCount).inFlight pairCount = 0)
    (other : Nat) (isPair : other < pairCount) :
    ((pairs.stop pairCount).ptrs other).Ended := by
  have carries := Pairs.count_eq_zero_iff.mp empty other isPair
  simp only [Pairs.stop, isPair, if_true] at carries ⊢
  rcases (active other isPair).reads with waits | taken
  · right
    simp [Pair.close, waits]
  · simp [Pair.carried, Pair.close, taken] at carries

end Steps

/-! ## One step -/

section Preservation

variable {pairCount activeCount index : Nat} {writeCount : UInt64}
  {pairs next : Pairs} {label : Label} {labels : List Label}

theorem toNat_succ {count : UInt64}
    (bounded : count.toNat + 1 < 18446744073709551616) :
    (count + 1).toNat = count.toNat + 1 := by
  rw [UInt64.toNat_add, UInt64.toNat_one]
  exact Nat.mod_eq_of_lt bounded

theorem Circulating.read_lt
    (circulating : Circulating pairCount activeCount writeCount pairs) :
    pairs.realReadCount.toNat + 1 ≤ tokens activeCount writeCount := by
  have written := circulating.written
  have conserved := circulating.conserved
  have moving := circulating.moving
  unfold tokens
  omega

theorem Circulating.deliver
    (circulating : Circulating pairCount activeCount writeCount pairs)
    (inside : index < pairCount)
    (waits : (pairs.ptrs index).read = .waiting)
    (arrived : 0 < (pairs.ptrs index).stream) :
    Circulating pairCount activeCount writeCount
      (pairs.change index Pair.deliver) where
  running := circulating.running
  active := Pairs.forall_change circulating.active
    ⟨(circulating.active index inside).connected, .inr rfl⟩
  written := circulating.written
  conserved := by
    rw [inFlight_deliver inside waits arrived]
    exact circulating.conserved
  moving := by
    rw [inFlight_deliver inside waits arrived]
    exact circulating.moving

section Handler

variable (bounded : tokens activeCount writeCount < 18446744073709551616)
  (circulating : Circulating pairCount activeCount writeCount pairs)
  (inside : index < pairCount)
  (done : (pairs.ptrs index).read = .completed true)

include bounded circulating inside done

theorem Circulating.counted :
    (pairs.realReadCount + 1).toNat = pairs.realReadCount.toNat + 1 ∧
      (pairs.reading index).inFlight pairCount + 1 =
        pairs.inFlight pairCount := by
  have less := circulating.read_lt
  exact ⟨toNat_succ (by omega),
    inFlight_reading inside (circulating.active index inside).connected done⟩

/-- While the budget lasts a read makes room for a write. -/
theorem Circulating.passOn
    (budget : pairs.realReadCount + 1 < writeCount) :
    Circulating pairCount activeCount writeCount
      ((pairs.reading index).pairWrite (nextIndex pairCount index)) := by
  obtain ⟨counted, fewer⟩ := circulating.counted bounded inside done
  have written := circulating.written
  have conserved := circulating.conserved
  have more := inFlight_pairWrite (nextIndex_lt inside) (pairs.reading index)
  have room : pairs.realReadCount.toNat + 1 < writeCount.toNat := by
    rw [← counted]
    exact UInt64.lt_iff_toNat_lt.mp budget
  have writes : (pairs.realWriteCount + 1).toNat =
      pairs.realWriteCount.toNat + 1 := by
    apply toNat_succ
    unfold tokens at bounded
    omega
  refine ⟨circulating.running, ?_, ?_, ?_, ?_⟩
  · exact active_pairWrite (active_reading circulating.active inside)
      (nextIndex_lt inside)
  · change (pairs.realWriteCount + 1).toNat =
      activeCount + min (pairs.realReadCount + 1).toNat _
    omega
  · change (pairs.realWriteCount + 1).toNat =
      (pairs.realReadCount + 1).toNat + _
    omega
  · omega

/-- Once the budget is spent a read leaves one byte less in flight. -/
theorem Circulating.written_of_spent
    (spent : ¬ pairs.realReadCount + 1 < writeCount) :
    pairs.realWriteCount.toNat = tokens activeCount writeCount ∧
      pairs.realWriteCount.toNat =
        (pairs.realReadCount + 1).toNat +
          (pairs.reading index).inFlight pairCount := by
  obtain ⟨counted, fewer⟩ := circulating.counted bounded inside done
  have written := circulating.written
  have conserved := circulating.conserved
  have full : writeCount.toNat ≤ pairs.realReadCount.toNat + 1 := by
    rw [← counted]
    exact UInt64.le_iff_toNat_le.mp (UInt64.not_lt.mp spent)
  unfold tokens
  omega

theorem Circulating.absorb
    (spent : ¬ pairs.realReadCount + 1 < writeCount)
    (others : pairs.realReadCount + 1 ≠ pairs.realWriteCount) :
    Circulating pairCount activeCount writeCount (pairs.reading index) := by
  obtain ⟨counted, fewer⟩ := circulating.counted bounded inside done
  obtain ⟨total, conserved⟩ :=
    circulating.written_of_spent bounded inside done spent
  have different : (pairs.realReadCount + 1).toNat ≠
      pairs.realWriteCount.toNat :=
    fun same => others (UInt64.toNat_inj.mp same)
  have full : writeCount.toNat ≤ (pairs.realReadCount + 1).toNat :=
    UInt64.le_iff_toNat_le.mp (UInt64.not_lt.mp spent)
  refine ⟨circulating.running, active_reading circulating.active inside,
    ?_, conserved, by omega⟩
  change pairs.realWriteCount.toNat =
    activeCount + min (pairs.realReadCount + 1).toNat _
  unfold tokens at total
  omega

theorem Circulating.stop
    (spent : ¬ pairs.realReadCount + 1 < writeCount)
    (last : pairs.realReadCount + 1 = pairs.realWriteCount) :
    Stopped pairCount activeCount writeCount
      ((pairs.reading index).stop pairCount) := by
  obtain ⟨total, conserved⟩ :=
    circulating.written_of_spent bounded inside done spent
  have read : (pairs.realReadCount + 1).toNat =
      tokens activeCount writeCount := by
    rw [last]
    exact total
  have empty : ((pairs.reading index).stop pairCount).inFlight pairCount =
      0 := by
    rw [Pairs.inFlight, Pairs.count_stop Pair.carried_close,
      ← Pairs.inFlight]
    omega
  have running : (pairs.reading index).stops = 0 := circulating.running
  have ended := ended_stop (active_reading circulating.active inside) empty
  exact ⟨by simp [Pairs.stop, running], ended, read, total, empty⟩

end Handler

/-- After `stop()` only the handlers of aborted reads are left. -/
theorem Step.of_ended
    (ended : ∀ index, index < pairCount → (pairs.ptrs index).Ended)
    (confined : Confined pairCount pairs)
    (taken : Step pairCount writeCount pairs label next) :
    ∃ index, index < pairCount ∧
      (pairs.ptrs index).read = .completed false ∧
      next = pairs.change index Pair.finish := by
  have succeeds : ∀ index,
      (pairs.ptrs index).read ≠ .completed true := by
    intro index done
    have inside := confined.lt_of_read done (by simp)
    rcases ended index inside with idle | failed
    · simp [done] at idle
    · simp [done] at failed
  cases taken with
  | deliver waits arrived =>
      have inside := confined.lt_of_read waits (by simp)
      rcases ended _ inside with idle | failed
      · simp [waits] at idle
      · simp [waits] at failed
  | fail failed =>
      exact ⟨_, confined.lt_of_read failed (by simp), failed, rfl⟩
  | passOn done => exact absurd done (succeeds _)
  | stop done => exact absurd done (succeeds _)
  | absorb done => exact absurd done (succeeds _)

theorem ended_finish
    (ended : ∀ index, index < pairCount → (pairs.ptrs index).Ended)
    (other : Nat) (isPair : other < pairCount) :
    ((pairs.change index Pair.finish).ptrs other).Ended := by
  have aborted : ((pairs.ptrs index).finish).Ended := .inl rfl
  exact Pairs.forall_change ended aborted other isPair

theorem Stopped.step
    (stopped : Stopped pairCount activeCount writeCount pairs)
    (confined : Confined pairCount pairs)
    (taken : Step pairCount writeCount pairs label next) :
    Stopped pairCount activeCount writeCount next ∧
      rank pairCount activeCount writeCount next <
        rank pairCount activeCount writeCount pairs := by
  obtain ⟨index, inside, failed, rfl⟩ := taken.of_ended stopped.ended confined
  have fewer := remaining_fail inside failed
  have less : rank pairCount activeCount writeCount
      (pairs.change index Pair.finish) <
        rank pairCount activeCount writeCount pairs := by
    unfold rank
    change _ + 2 * (_ - pairs.realReadCount.toNat) < _
    omega
  refine ⟨⟨stopped.once, ended_finish stopped.ended, stopped.read,
    stopped.written, ?_⟩, less⟩
  rw [inFlight_fail inside failed]
  exact stopped.empty

theorem Pair.remaining_close (pair : Pair) :
    pair.close.remaining = pair.remaining := by
  have outstanding := pair.outstanding_close
  have stream : pair.close.stream = pair.stream := rfl
  rw [remaining, remaining, outstanding, stream]

theorem Circulating.step
    (bounded : tokens activeCount writeCount < 18446744073709551616)
    (circulating : Circulating pairCount activeCount writeCount pairs)
    (confined : Confined pairCount pairs)
    (taken : Step pairCount writeCount pairs label next) :
    (Circulating pairCount activeCount writeCount next ∨
      Stopped pairCount activeCount writeCount next) ∧
      rank pairCount activeCount writeCount next <
        rank pairCount activeCount writeCount pairs := by
  have less := circulating.read_lt
  cases taken with
  | deliver waits arrived =>
      have inside := confined.lt_of_read waits (by simp)
      have fewer := remaining_deliver inside waits arrived
      refine ⟨.inl (circulating.deliver inside waits arrived), ?_⟩
      unfold rank
      change _ + 2 * (_ - pairs.realReadCount.toNat) < _
      omega
  | fail failed =>
      have inside := confined.lt_of_read failed (by simp)
      rcases (circulating.active _ inside).reads with waits | taken
      · simp [failed] at waits
      · simp [failed] at taken
  | @passOn index done budget =>
      have inside := confined.lt_of_read done (by simp)
      have kept := remaining_reading inside
        (circulating.active index inside).connected done
      have more := remaining_pairWrite (nextIndex_lt inside)
        (pairs.reading index)
      obtain ⟨counted, _⟩ := circulating.counted bounded inside done
      refine ⟨.inl (circulating.passOn bounded inside done budget), ?_⟩
      unfold rank
      change _ + 2 * (_ - (pairs.realReadCount + 1).toNat) < _
      omega
  | @stop index done spent last =>
      have inside := confined.lt_of_read done (by simp)
      have kept := remaining_reading inside
        (circulating.active index inside).connected done
      have closed : ((pairs.reading index).stop pairCount).count pairCount
          Pair.remaining =
            (pairs.reading index).count pairCount Pair.remaining :=
        Pairs.count_stop Pair.remaining_close (pairs.reading index)
      obtain ⟨counted, _⟩ := circulating.counted bounded inside done
      refine ⟨.inr (circulating.stop bounded inside done spent last), ?_⟩
      unfold rank
      change _ + 2 * (_ - (pairs.realReadCount + 1).toNat) < _
      omega
  | @absorb index done spent others =>
      have inside := confined.lt_of_read done (by simp)
      have kept := remaining_reading inside
        (circulating.active index inside).connected done
      obtain ⟨counted, _⟩ := circulating.counted bounded inside done
      refine ⟨.inl (circulating.absorb bounded inside done spent others), ?_⟩
      unfold rank
      change _ + 2 * (_ - (pairs.realReadCount + 1).toNat) < _
      omega

theorem Invariant.step
    (bounded : tokens activeCount writeCount < 18446744073709551616)
    (invariant : Invariant pairCount activeCount writeCount pairs)
    (taken : (system pairCount activeCount writeCount).step pairs label =
      some next) :
    Invariant pairCount activeCount writeCount next ∧
      rank pairCount activeCount writeCount next <
        rank pairCount activeCount writeCount pairs := by
  have possible := step_cases taken
  have confined := invariant.confined.step possible
  rcases invariant.phase with circulating | stopped
  · obtain ⟨phase, less⟩ :=
      circulating.step bounded invariant.confined possible
    exact ⟨⟨confined, phase⟩, less⟩
  · obtain ⟨remains, less⟩ := stopped.step invariant.confined possible
    exact ⟨⟨confined, .inr remains⟩, less⟩

end Preservation

end AsioBenchmark.SocketPair
