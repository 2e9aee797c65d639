import AsioBenchmark.SocketPair.Termination

/-!
# The pairs of `socketpair` keep step

Each read hands its byte on to the next pair, so a pair is ahead of the one
before it by no more than the byte that `start()` gave it.  Around the ring this
keeps all pairs within `active_count` reads of each other, in whatever order the
handlers run.
-/

namespace AsioBenchmark.SocketPair

open AsioBenchmark.Transition

/-- The pair whose read has been handled. -/
def observe (pairs : Pairs) : Label → Pairs → List Nat
  | .deliver _, _ => []
  | .handle index, _ =>
      if (pairs.ptrs index).read = .completed true then [index] else []

/-- The bytes that `start()` writes to a pair. -/
def seeded (activeCount index : Nat) : Nat :=
  if index < activeCount then 1 else 0

/-- The bytes that reads have passed on to `index`, had all of them done so. -/
def offered (pairCount : Nat) (events : List Nat) (index : Nat) : Nat :=
  events.countP fun before => nextIndex pairCount before = index

/-- The bytes of a pair come from `start()` or from reads of the pair before. -/
structure Balanced (pairCount activeCount : Nat) (pairs : Pairs)
    (events : List Nat) : Prop where
  confined : Confined pairCount pairs
  inside : ∀ index ∈ events, index < pairCount
  supplied : ∀ index, events.count index + (pairs.ptrs index).carried ≤
    seeded activeCount index + offered pairCount events index

section Steps

variable {pairCount activeCount index other : Nat} {writeCount : UInt64}
  {pairs next : Pairs} {label : Label} {events : List Nat}

theorem carried_change {changes : Pair → Pair}
    (kept : (changes (pairs.ptrs index)).carried =
      (pairs.ptrs index).carried) (other : Nat) :
    ((pairs.change index changes).ptrs other).carried =
      (pairs.ptrs other).carried := by
  by_cases here : other = index
  · subst here
    simpa [Pairs.change] using kept
  · simp [Pairs.change, here]

theorem carried_stop (other : Nat) :
    ((pairs.stop pairCount).ptrs other).carried =
      (pairs.ptrs other).carried := by
  simp only [Pairs.stop]
  split
  · exact Pair.carried_close _
  · rfl

theorem carried_pairWrite (other : Nat) :
    ((pairs.pairWrite index).ptrs other).carried =
      (pairs.ptrs other).carried + if index = other then 1 else 0 := by
  by_cases here : index = other
  · subst here
    simp only [Pairs.pairWrite, Pairs.change, Pairs.access,
      Function.update_self, Pair.carried, Pair.write, if_true]
    omega
  · simp [Pairs.pairWrite, Pairs.change, Pairs.access, here,
      Ne.symm here]

/-- The handler of a read takes its byte out of flight. -/
theorem carried_reading (done : (pairs.ptrs index).read = .completed true)
    (other : Nat) :
    ((pairs.reading index).ptrs other).carried +
        (if index = other then 1 else 0) = (pairs.ptrs other).carried := by
  by_cases here : index = other
  · subst here
    have restarted : ((pairs.reading index).ptrs index).read ≠
        .completed true := by
      simp only [Pairs.reading, Pairs.pairRead, Pairs.access, Pairs.change,
        Function.update_self, Pair.asyncRead]
      split <;> simp
    have stream : ((pairs.reading index).ptrs index).stream =
        (pairs.ptrs index).stream := by
      simp [Pairs.reading, Pairs.pairRead, Pairs.access, Pairs.change,
        Pair.asyncRead, Pair.finish]
    rw [Pair.carried, Pair.carried, if_neg restarted, if_pos done, stream,
      if_pos rfl]
  · simp [Pairs.reading, Pairs.pairRead, Pairs.access, Pairs.change, here,
      Ne.symm here]

theorem nextIndex_inj {first second : Nat} (left : first < pairCount)
    (right : second < pairCount)
    (same : nextIndex pairCount first = nextIndex pairCount second) :
    first = second := by
  unfold nextIndex at same
  split at same
  · split at same
    · omega
    · omega
  · split at same
    · omega
    · omega

theorem observe_done (done : (pairs.ptrs index).read = .completed true)
    (next : Pairs) : observe pairs (.handle index) next = [index] :=
  if_pos done

/-- What a step takes out of flight at a pair and what it brings there. -/
theorem Step.carried_le
    (taken : Step pairCount writeCount pairs label next) (other : Nat) :
    (observe pairs label next).count other + (next.ptrs other).carried ≤
      (pairs.ptrs other).carried +
        offered pairCount (observe pairs label next) other := by
  cases taken with
  | @deliver index waits arrived =>
      have kept : (pairs.ptrs index).deliver.carried =
          (pairs.ptrs index).carried := by
        simp only [Pair.carried, Pair.deliver, waits, reduceCtorEq, if_true,
          if_false]
        omega
      rw [carried_change kept]
      simp [observe, offered]
  | @fail index failed =>
      have kept : (pairs.ptrs index).finish.carried =
          (pairs.ptrs index).carried := by
        simp [Pair.carried, Pair.finish, failed]
      have quiet : observe pairs (.handle index)
          (pairs.change index Pair.finish) = [] :=
        if_neg (by simp [failed])
      rw [carried_change kept, quiet]
      simp [offered]
  | @passOn index done budget =>
      have taken := carried_reading done other
      rw [observe_done done, carried_pairWrite]
      simp only [offered, List.count_singleton, List.countP_singleton,
        beq_iff_eq, decide_eq_true_eq]
      omega
  | @stop index done spent last =>
      have taken := carried_reading done other
      rw [observe_done done, carried_stop]
      simp only [List.count_singleton, beq_iff_eq]
      omega
  | @absorb index done spent others =>
      have taken := carried_reading done other
      rw [observe_done done]
      simp only [List.count_singleton, beq_iff_eq]
      omega

theorem Balanced.step (balanced : Balanced pairCount activeCount pairs events)
    (taken : Step pairCount writeCount pairs label next) :
    Balanced pairCount activeCount next
      (events ++ observe pairs label next) where
  confined := balanced.confined.step taken
  inside := by
    intro index member
    rcases List.mem_append.mp member with earlier | new
    · exact balanced.inside index earlier
    · cases label with
      | deliver other => cases new
      | handle other =>
          simp only [observe] at new
          split at new
          · rename_i done
            rw [List.mem_singleton.mp new]
            exact balanced.confined.lt_of_read done (by simp)
          · cases new
  supplied := by
    intro index
    have before := balanced.supplied index
    have change := taken.carried_le index
    have counted : offered pairCount
        (events ++ observe pairs label next) index =
          offered pairCount events index +
            offered pairCount (observe pairs label next) index :=
      List.countP_append
    rw [List.count_append, counted]
    omega

theorem balanced_start {count : Nat} (enough : count ≤ pairCount) :
    Balanced pairCount count ((Pairs.construct pairCount).start count) [] := by
  have started : Confined pairCount
      ((Pairs.construct pairCount).start count) ∧
      ∀ index, (((Pairs.construct pairCount).start count).ptrs index).carried =
        seeded count index := by
    induction count with
    | zero =>
        refine ⟨constructed_confined, ?_⟩
        intro index
        have before := construct_ptrs pairCount index
        change ((Pairs.construct pairCount).ptrs index).carried = 0
        rw [before]
        split
        · rfl
        · rfl
    | succ count induction =>
        obtain ⟨confined, carried⟩ := induction (by omega)
        rw [start_succ]
        refine ⟨confined.pairWrite (by omega), ?_⟩
        intro index
        rw [carried_pairWrite, carried, seeded, seeded]
        split <;> split <;> split <;> omega
  refine ⟨started.1, ?_, ?_⟩
  · intro index impossible
    cases impossible
  · intro index
    rw [started.2]
    simp [offered]

end Steps

/-! ## Around the ring -/

section Runs

variable {pairCount activeCount : Nat} {writeCount : UInt64}
  {pairs : Pairs} {labels : List Label} {events : List Nat}

theorem run_balanced (enough : activeCount ≤ pairCount)
    (run : ((system pairCount activeCount writeCount).recording observe).Run
      ((Pairs.construct pairCount).start activeCount, []) labels
      (pairs, events)) :
    Balanced pairCount activeCount pairs events := by
  generalize recorded : (pairs, events) = finish at run
  induction run using System.Run.recorded_induction generalizing
    pairs events with
  | refl =>
      cases recorded
      exact balanced_start enough
  | snoc before moved induction =>
      cases recorded
      exact (induction rfl).step (step_cases moved)

/-- A pair is ahead of the one before it by at most the byte it began with. -/
theorem Balanced.ahead (balanced : Balanced pairCount activeCount pairs events)
    {index : Nat} (inside : index < pairCount) :
    events.count (nextIndex pairCount index) ≤
      seeded activeCount (nextIndex pairCount index) + events.count index := by
  have supplied := balanced.supplied (nextIndex pairCount index)
  have own : offered pairCount events (nextIndex pairCount index) =
      events.count index := by
    rw [offered, List.count]
    apply List.countP_congr
    intro before member
    rw [decide_eq_true_eq, beq_iff_eq]
    constructor
    · exact nextIndex_inj (balanced.inside before member) inside
    · rintro rfl
      rfl
  omega

theorem Balanced.ahead_later
    (balanced : Balanced pairCount activeCount pairs events)
    {first later : Nat} (order : first ≤ later) (inside : later < pairCount) :
    events.count later + min (first + 1) activeCount ≤
      events.count first + min (later + 1) activeCount := by
  induction later, order using Nat.le_induction with
  | base => exact Nat.le_refl _
  | succ later order induction =>
      have before := induction (by omega)
      have one := balanced.ahead (by omega : later < pairCount)
      have onward : nextIndex pairCount later = later + 1 :=
        if_neg (by omega)
      rw [onward, seeded] at one
      split at one
      · omega
      · omega

/-- Whatever the write budget and the order of the handlers, no pair has
handled more than `active_count` reads more than any other. -/
theorem pairs_keep_step (enough : activeCount ≤ pairCount)
    (run : ((system pairCount activeCount writeCount).recording observe).Run
      ((Pairs.construct pairCount).start activeCount, []) labels
      (pairs, events))
    (first second : Nat) (left : first < pairCount)
    (right : second < pairCount) :
    events.count first ≤ events.count second + activeCount := by
  have balanced := run_balanced enough run
  rcases Nat.le_total second first with order | order
  · have ahead := balanced.ahead_later order left
    omega
  · -- From `second` on to the end of the ring, and from its start to `first`.
    have toEnd := balanced.ahead_later
      (by omega : second ≤ pairCount - 1) (by omega)
    have fromStart := balanced.ahead_later (Nat.zero_le first) left
    have around := balanced.ahead (by omega : pairCount - 1 < pairCount)
    have start : nextIndex pairCount (pairCount - 1) = 0 := by
      unfold nextIndex
      split
      · omega
      · omega
    rw [start, seeded] at around
    split at around
    · omega
    · omega

/-- Of two bytes among three pairs one goes round while the other waits. -/
theorem pairs_keep_step_waiting :
    ∃ pairs events,
      ((system 3 2 9).recording observe).Run
        ((Pairs.construct 3).start 2, [])
        [.deliver 1, .handle 1, .deliver 2, .handle 2] (pairs, events) ∧
      events = [1, 2] ∧ events.count 1 ≤ events.count 0 + 2 := by
  obtain ⟨recorded, run, shown⟩ : ∃ recorded,
      ((system 3 2 9).recording observe).Run
        ((Pairs.construct 3).start 2, [])
        [.deliver 1, .handle 1, .deliver 2, .handle 2] recorded ∧
      recorded.2 = [1, 2] :=
    ⟨_, System.run_iff_exec.mpr rfl, rfl⟩
  exact ⟨recorded.1, recorded.2, run, shown,
    pairs_keep_step (by decide) run 1 0 (by decide) (by decide)⟩

end Runs

end AsioBenchmark.SocketPair
