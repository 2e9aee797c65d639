import AsioBenchmark.Pool.ChainsOutcome

/-!
# How often `posttask2` stops the pool

Every chain compares the counter for itself, so each chain that comes to its
comparison after the threshold was reached calls `stop()`.  With one chain that
is one call; with more, two chains can be past their increments at the same
time.
-/

namespace AsioBenchmark.Pool

open AsioBenchmark.Transition

namespace Chains

variable {threadCount : Nat} [NeZero threadCount]
  {postCount count shared : UInt64} {task : Task} {stage : Stage}
  {next : Option Body} {move : Move threadCount Task}
  {state after : State threadCount Task Body UInt64}
  {thread : Fin threadCount} {threads : List (Fin threadCount)}
  {calls : Nat} {events : List Event}

/-- `stop()` is called exactly once, and the work objects are released from one
thread. -/
structure StopsOnce (threadCount : Nat) [NeZero threadCount]
    (postCount : UInt64) : Prop where
  terminates : (system threadCount postCount).Terminates
    (started threadCount)
  atMost : ∀ threads state events,
    (recorded threadCount postCount).Run (started threadCount, []) threads
      (state, events) →
    stops events ≤ 1
  exactly : ∀ threads state events,
    (recorded threadCount postCount).Run (started threadCount, []) threads
      (state, events) →
    (system threadCount postCount).Halted state → stops events = 1
  fromOne : ∀ threads state events,
    (recorded threadCount postCount).Run (started threadCount, []) threads
      (state, events) →
    ∀ first second index other, .released first index ∈ events →
      .released second other ∈ events → first = second

/-! ## One chain -/

/-- Work objects are released from threads that have called `stop()`. -/
structure Attributed (state : State threadCount Task Body UInt64)
    (events : List Event) : Prop where
  resetting : ∀ index body, (state.services index).running = some body →
    ∀ reached, body.stage = .resetting reached →
      .stopped index.val ∈ events
  released : ∀ thread index, .released thread index ∈ events →
    .stopped thread ∈ events

theorem Attributed.step (attributed : Attributed state events)
    (taken : Step (program threadCount postCount) state thread after) :
    Attributed after (events ++ observe threadCount state thread after) := by
  have earlier : ∀ other, Event.stopped other ∈ events →
      Event.stopped other ∈ events ++ observe threadCount state thread after :=
    fun other member => List.mem_append_left _ member
  cases taken with
  | @poll task rest stays idle queued =>
      rw [observe, idle] at earlier ⊢
      rw [List.append_nil] at earlier ⊢
      exact ⟨forall_running_begin attributed.resetting (by simp [program]),
        attributed.released⟩
  | @proceed body shared next move stays runs advances =>
      obtain ⟨task, stage⟩ := body
      have statement := advance_eq_iff.mp advances
      refine ⟨?_, ?_⟩
      · refine forall_running_proceed (fun index body busy reached resetting =>
          earlier _ (attributed.resetting index body busy reached
            resetting)) ?_
        intro body same reached resetting
        cases statement with
        | stops =>
            apply List.mem_append_right
            rw [observe, runs]
            exact List.mem_singleton.mpr rfl
        | releases inside =>
            exact earlier _ (attributed.resetting thread _ runs _ rfl)
        | _ => cases same <;> cases resetting
      · intro other index member
        rcases List.mem_append.mp member with before | current
        · exact earlier other (attributed.released other index before)
        · rw [observe, runs] at current
          cases statement with
          | releases inside =>
              simp only [if_pos inside, List.mem_singleton,
                Event.released.injEq] at current
              obtain ⟨rfl, _⟩ := current
              exact earlier _ (attributed.resetting thread _ runs _ rfl)
          | released outside =>
              simp only [if_neg outside] at current
              cases current
          | stops => cases List.mem_singleton.mp current
          | _ => cases current

/-- With at most one call all calls are made by one thread. -/
theorem stopped_unique {first second : Nat} (atMost : stops events ≤ 1)
    (one : .stopped first ∈ events) (other : .stopped second ∈ events) :
    first = second := by
  induction events with
  | nil => cases one
  | cons event events induction =>
      have positive : ∀ thread, Event.stopped thread ∈ events →
          0 < stops events := fun thread member =>
        List.countP_pos_iff.mpr ⟨_, member, rfl⟩
      have split : stops (event :: events) =
          stops events + stops [event] := by
        rw [← List.singleton_append, stops_append, Nat.add_comm]
      rcases List.mem_cons.mp one with here | later
      · subst here
        rcases List.mem_cons.mp other with same | later
        · cases same
          rfl
        · have more := positive second later
          have counts : stops [Event.stopped first] = 1 := rfl
          omega
      · rcases List.mem_cons.mp other with here | also
        · subst here
          have more := positive first later
          have counts : stops [Event.stopped second] = 1 := rfl
          omega
        · exact induction (by omega) later also

private theorem recorded_attributed
    {finish : State threadCount Task Body UInt64 × List Event}
    (run : (recorded threadCount postCount).Run (started threadCount, [])
      threads finish) :
    Attributed finish.1 finish.2 := by
  induction run using System.Run.recorded_induction with
  | refl =>
      refine ⟨?_, by simp⟩
      intro index body busy
      rw [started, (startedServices_fields _ index).1] at busy
      cases busy
  | snoc before moved induction =>
      exact induction.step (step_eq_some_iff.mp moved)

/-- The only task of a single chain calls `stop()` and is not posted again. -/
theorem stopsOnce_two (postCount : UInt64) : StopsOnce 2 postCount := by
  have room : threshold postCount + 2 / 2 ≤ 18446744073709551616 := by
    have small := postCount.toNat_lt
    rw [threshold]
    omega
  have atMost : ∀ threads state events,
      (recorded 2 postCount).Run (started 2, []) threads (state, events) →
      stops events ≤ 1 := by
    intro threads state events run
    have conserved := (run_invariant rfl room run).counted.conserved
    omega
  refine ⟨terminates rfl room, atMost, ?_, ?_⟩
  · intro threads state events run halted
    have invariant := run_invariant rfl room run
    obtain ⟨positive, _⟩ := invariant.left_of_halted (by decide)
      (run_settled (settled_startedServices _) run.forget) halted
    have most := atMost threads state events run
    omega
  · intro threads state events run first second index other one two
    have attributed : Attributed state events := recorded_attributed run
    exact stopped_unique (atMost threads state events run)
      (attributed.released first index one)
      (attributed.released second other two)

/-! ## Two chains -/

/-- One chain has its task on thread `here`, its neighbour `there` is idle, and
the task of another chain stays at its comparison on thread `rival`. -/
structure Race (here there rival : Fin threadCount) (stage : Option Stage)
    (count : Nat) (state : State threadCount Task Body UInt64) : Prop where
  compares : (state.services rival).running = some ⟨first 1, .testing⟩
  runs : (state.services here).running =
    stage.map fun stage => ⟨⟨here.val, 0⟩, stage⟩
  waits : (state.services there).running = none
  queue : (state.services here).queue =
    if stage.isNone = true then [⟨here.val, 0⟩] else []
  empty : (state.services there).queue = []
  work : ∀ index, (state.services index).work = true
  settled : ∀ index, (state.services index).Settled
  counts : state.shared.toNat = count

/-- The three threads of a race. -/
structure Lanes (here there rival : Fin threadCount) : Prop where
  apart : here ≠ there
  hereRival : here ≠ rival
  thereRival : there ≠ rival
  forth : partner here.val = there.val
  back : partner there.val = here.val

/-- A task that begins comes to its comparison while the other threads pause. -/
theorem comes_to_comparison {rest : List Task} (postCount : UInt64)
    (settled : ∀ index, (state.services index).Settled)
    (work : (state.services thread).work = true)
    (idle : (state.services thread).running = none)
    (queued : (state.services thread).queue = task :: rest)
    (room : state.shared.toNat + 1 < 18446744073709551616) :
    ∃ next, (system threadCount postCount).Run state [thread, thread] next ∧
      (next.services thread).running = some ⟨task, .testing⟩ ∧
      (next.services thread).queue = rest ∧
      (next.services thread).work = true ∧
      (∀ index, index ≠ thread →
        next.services index = state.services index) ∧
      (∀ index, (next.services index).Settled) ∧
      next.shared.toNat = state.shared.toNat + 1 := by
  obtain ⟨begun, isBegun⟩ : ∃ begun : State threadCount Task Body UInt64,
      begun =
        { state with
          services := Function.update state.services thread
            ((state.services thread).poll ⟨task, .incrementing⟩ rest) } :=
    ⟨_, rfl⟩
  have polled : Step (program threadCount postCount) state thread begun := by
    rw [isBegun]
    exact .poll ((settled thread).stays_of_work work) idle queued
  have settledBegun := polled.settled settled
  have runs : (begun.services thread).running =
      some ⟨task, .incrementing⟩ := by
    rw [isBegun, running_begin, if_pos rfl]
  have works : (begun.services thread).work = true := by
    rw [isBegun, work_begin, work]
  have statement : Statement threadCount postCount task begun.shared
      .incrementing _ _ _ := .increments
  have incremented := statement.step
    ((settledBegun thread).stays_of_work works) runs
  refine ⟨_, (System.Run.single (step_eq_some_iff.mpr polled)).snoc
    (step_eq_some_iff.mpr incremented), ?_, ?_, ?_, ?_,
    incremented.settled settledBegun, ?_⟩
  · rw [running_proceed, if_pos rfl]
  · rw [queue_proceed, isBegun, queue_begin, if_pos rfl]
    exact List.append_nil rest
  · rw [work_proceed, works]
    rfl
  · intro index different
    change Function.update _ _ _ index = _
    rw [Function.update_of_ne different, isBegun]
    exact Function.update_of_ne different _ _
  · rw [UInt64.toNat_add, UInt64.toNat_one, isBegun]
    exact Nat.mod_eq_of_lt room

section Race

variable {here there rival : Fin threadCount}

omit [NeZero threadCount] in
theorem Lanes.swap (lanes : Lanes here there rival) :
    Lanes there here rival :=
  ⟨lanes.apart.symm, lanes.thereRival, lanes.hereRival, lanes.back,
    lanes.forth⟩

theorem Race.computes {number : Nat} {current following : Stage}
    (lanes : Lanes here there rival)
    (race : Race here there rival (some current) number state)
    (statement : Statement threadCount postCount ⟨here.val, 0⟩ state.shared
      current shared (some ⟨⟨here.val, 0⟩, following⟩) .compute) :
    ∃ next, (system threadCount postCount).step state here = some next ∧
      Race here there rival (some following) shared.toNat next := by
  have taken := statement.step
    ((race.settled here).stays_of_work (race.work here)) race.runs
  refine ⟨_, step_eq_some_iff.mpr taken, ?_⟩
  refine ⟨?_, ?_, ?_, ?_, ?_, ?_, taken.settled race.settled, rfl⟩
  · rw [running_proceed, if_neg lanes.hereRival.symm]
    exact race.compares
  · rw [running_proceed, if_pos rfl]
    rfl
  · rw [running_proceed, if_neg lanes.apart.symm]
    exact race.waits
  · rw [queue_proceed, race.queue]
    rfl
  · rw [queue_proceed, race.empty]
    rfl
  · intro index
    rw [work_proceed, race.work]
    rfl

theorem Race.posts {number : Nat} (postCount : UInt64)
    (lanes : Lanes here there rival)
    (race : Race here there rival (some .posting) number state) :
    ∃ next,
      (system threadCount postCount).Run state [here, here] next ∧
        Race there here rival none number next := by
  have posting : Statement threadCount postCount ⟨here.val, 0⟩ state.shared
      .posting state.shared _ _ := .posts
  have posted := posting.step
    ((race.settled here).stays_of_work (race.work here)) race.runs
  obtain ⟨middle, isMiddle⟩ : ∃ middle : State threadCount Task Body UInt64,
      middle =
        { services := (post threadCount (Task.next ⟨here.val, 0⟩)).apply
            (Function.update state.services here
              ((state.services here).proceed
                (some ⟨⟨here.val, 0⟩, .returning⟩)))
          shared := state.shared } := ⟨_, rfl⟩
  rw [← isMiddle] at posted
  have running : ∀ index, (middle.services index).running =
      if index = here then some ⟨⟨here.val, 0⟩, .returning⟩
      else (state.services index).running := by
    intro index
    rw [isMiddle, running_proceed]
  have queue : ∀ index, (middle.services index).queue =
      (state.services index).queue ++
        if index = there then [⟨there.val, 0⟩] else [] := by
    intro index
    rw [isMiddle, queue_proceed]
    simp only [post, Move.postedTo, Task.next, lanes.forth, getIoService_val]
  have work : ∀ index, (middle.services index).work = true := by
    intro index
    rw [isMiddle, work_proceed, race.work]
    rfl
  have settled := posted.settled race.settled
  have busy : (middle.services here).running =
      some ⟨⟨here.val, 0⟩, .returning⟩ := by
    rw [running, if_pos rfl]
  have returning : Statement threadCount postCount ⟨here.val, 0⟩
      middle.shared .returning middle.shared _ _ := .returns
  have returned := returning.step
    ((settled here).stays_of_work (work here)) busy
  refine ⟨_, (System.Run.single (step_eq_some_iff.mpr posted)).snoc
    (step_eq_some_iff.mpr returned), ?_⟩
  refine ⟨?_, ?_, ?_, ?_, ?_, ?_, returned.settled settled, ?_⟩
  · rw [running_proceed, if_neg lanes.hereRival.symm, running,
      if_neg lanes.hereRival.symm]
    exact race.compares
  · rw [running_proceed, if_neg lanes.apart.symm, running,
      if_neg lanes.apart.symm]
    exact race.waits
  · rw [running_proceed, if_pos rfl]
  · rw [queue_proceed, queue, race.empty, if_pos rfl]
    rfl
  · rw [queue_proceed, queue, race.queue, if_neg lanes.apart]
    rfl
  · intro index
    rw [work_proceed, work]
    rfl
  · rw [isMiddle]
    exact race.counts

theorem Race.increments {number : Nat} (postCount : UInt64)
    (lanes : Lanes here there rival)
    (race : Race here there rival none number state)
    (room : number + 1 < 18446744073709551616) :
    ∃ next,
      (system threadCount postCount).Run state [here, here] next ∧
        Race here there rival (some .testing) (number + 1) next := by
  obtain ⟨next, run, runs, queue, work, others, settled, counts⟩ :=
    comes_to_comparison postCount race.settled (race.work here) race.runs
      race.queue (by rw [race.counts]; exact room)
  refine ⟨next, run, ?_, runs, ?_, queue, ?_, ?_, settled, ?_⟩
  · rw [others rival lanes.hereRival.symm]
    exact race.compares
  · rw [others there lanes.apart.symm]
    exact race.waits
  · rw [others there lanes.apart.symm]
    exact race.empty
  · intro index
    by_cases same : index = here
    · rw [same]
      exact work
    · rw [others index same]
      exact race.work index
  · rw [counts, race.counts]

/-- The task of the race goes round until it finds the threshold reached. -/
theorem Race.reaches {number : Nat} (postCount : UInt64)
    (lanes : Lanes here there rival)
    (race : Race here there rival none number state)
    (small : number < max postCount.toNat 2) (room : Nat)
    (bounded : postCount.toNat ≤ number + room + 1) :
    ∃ threads next here there reached,
      (system threadCount postCount).Run state threads next ∧
        Lanes here there rival ∧
        Race here there rival (some .testing) reached next ∧
        postCount.toNat ≤ reached := by
  have largest := postCount.toNat_lt
  -- Every round brings the counter one nearer to the threshold.
  induction room generalizing here there number state with
  | zero =>
      obtain ⟨next, run, tested⟩ := race.increments postCount lanes
        (by omega)
      exact ⟨_, next, here, there, number + 1, run, lanes, tested, bounded⟩
  | succ room induction =>
      obtain ⟨next, run, tested⟩ := race.increments postCount lanes
        (by omega)
      by_cases reached : postCount.toNat ≤ number + 1
      · exact ⟨_, next, here, there, number + 1, run, lanes, tested, reached⟩
      · have below : ¬postCount ≤ next.shared := by
          rw [UInt64.le_iff_toNat_le, tested.counts]
          exact reached
        obtain ⟨missed, misses, racePosting⟩ := tested.computes lanes
          (.misses below)
        obtain ⟨handed, hands, raceHanded⟩ :=
          racePosting.posts postCount lanes
        rw [tested.counts] at raceHanded
        obtain ⟨threads, last, other, neighbour, value, more, otherLanes,
          result⟩ := induction lanes.swap raceHanded (by omega) (by omega)
        exact ⟨_, last, other, neighbour, value,
          ((run.snoc misses).append hands).append more, otherLanes, result⟩

theorem queue_started {index : Fin threadCount} {chain : Nat}
    (position : index.val = chain * 2) (inside : chain < threadCount / 2) :
    ((started threadCount).services index).queue = [first chain] := by
  have even : index.val % 2 = 0 ∧ index.val / 2 < threadCount / 2 := by omega
  have half : index.val / 2 = chain := by omega
  rw [started, queue_startedServices (Nat.le_refl _), if_pos even, half]

theorem race_starts (several : 4 ≤ threadCount) (postCount : UInt64) :
    ∃ threads next,
      (system threadCount postCount).Run (started threadCount) threads
          next ∧
        Race ⟨0, by omega⟩ ⟨1, by omega⟩ ⟨2, by omega⟩ none 1 next := by
  have fields : ∀ index : Fin threadCount,
      ((started threadCount).services index).running = none ∧
        ((started threadCount).services index).work = true :=
    startedServices_fields (threadCount / 2)
  have atRival : ((started threadCount).services
      ⟨2, by omega⟩).queue = [first 1] := queue_started rfl (by omega)
  have room : (started threadCount).shared.toNat + 1 <
      18446744073709551616 := by
    change 0 + 1 < 18446744073709551616
    omega
  obtain ⟨next, run, runs, _, work, others, settled, counts⟩ :=
    comes_to_comparison postCount (settled_startedServices _)
      (fields ⟨2, by omega⟩).2 (fields ⟨2, by omega⟩).1 atRival room
  have notZero : (⟨0, by omega⟩ : Fin threadCount) ≠ ⟨2, by omega⟩ := by
    simp
  have notOne : (⟨1, by omega⟩ : Fin threadCount) ≠ ⟨2, by omega⟩ := by
    simp
  refine ⟨_, next, run, runs, ?_, ?_, ?_, ?_, ?_, settled, counts⟩
  · rw [others _ notZero]
    exact (fields _).1
  · rw [others _ notOne]
    exact (fields _).1
  · rw [others _ notZero]
    have chains : 0 < threadCount / 2 := by omega
    exact queue_started (Nat.zero_mul 2).symm chains
  · rw [others _ notOne, started, queue_startedServices (Nat.le_refl _),
      if_neg (by simp)]
  · intro index
    by_cases same : index = ⟨2, by omega⟩
    · rw [same]
      exact work
    · rw [others index same]
      exact (fields index).2

theorem Race.stops_twice {number : Nat} (lanes : Lanes here there rival)
    (race : Race here there rival (some .testing) number state)
    (reached : postCount.toNat ≤ number)
    (run : (system threadCount postCount).Run (started threadCount) threads
      state) :
    ∃ threads finish events,
      (recorded threadCount postCount).Run (started threadCount, []) threads
          (finish, events) ∧
        2 ≤ stops events := by
  obtain ⟨events, history⟩ := run.record (observe threadCount) []
  have enough : postCount ≤ state.shared := by
    rw [UInt64.le_iff_toNat_le, race.counts]
    exact reached
  obtain ⟨first, step, raceFirst⟩ := race.computes lanes (.reaches enough)
  have called : Statement threadCount postCount ⟨here.val, 0⟩ first.shared
      .stopping _ _ _ := .stops
  obtain ⟨second, nextStep, raceSecond⟩ := raceFirst.computes lanes called
  have still : postCount ≤ second.shared := by
    rw [UInt64.le_iff_toNat_le, raceSecond.counts, raceFirst.counts,
      race.counts]
    exact reached
  have rivalReaches : Statement threadCount postCount (Chains.first 1)
      second.shared .testing _ _ _ := .reaches still
  have rivalStep := rivalReaches.step
    ((raceSecond.settled rival).stays_of_work (raceSecond.work rival))
    raceSecond.compares
  obtain ⟨third, isThird⟩ : ∃ third : State threadCount Task Body UInt64,
      third =
        { services := Move.compute.apply (Function.update second.services
            rival ((second.services rival).proceed
              (some ⟨Chains.first 1, .stopping⟩)))
          shared := second.shared } := ⟨_, rfl⟩
  rw [← isThird] at rivalStep
  have runs : (third.services rival).running =
      some ⟨Chains.first 1, .stopping⟩ := by
    rw [isThird, running_proceed, if_pos rfl]
  have works : (third.services rival).work = true := by
    rw [isThird, work_proceed, raceSecond.work]
    rfl
  have rivalStops : Statement threadCount postCount (Chains.first 1)
      third.shared .stopping _ _ _ := .stops
  have lastStep := rivalStops.step
    ((rivalStep.settled raceSecond.settled rival).stays_of_work works) runs
  have all := (((history.snoc_recorded step).snoc_recorded
    nextStep).snoc_recorded (step_eq_some_iff.mpr rivalStep)).snoc_recorded
      (step_eq_some_iff.mpr lastStep)
  refine ⟨_, _, _, all, ?_⟩
  have firstCall : stops (observe threadCount first here second) = 1 :=
    stops_observe raceFirst.runs
  rw [stops_append, stops_append, stops_append, stops_append, firstCall,
    stops_observe runs]
  change 2 ≤ stops events + _ + 1 + _ + 1
  omega

end Race

theorem lanes_started (several : 4 ≤ threadCount) :
    Lanes (⟨0, by omega⟩ : Fin threadCount) ⟨1, by omega⟩ ⟨2, by omega⟩ where
  apart := by simp
  hereRival := by simp
  thereRival := by simp
  forth := rfl
  back := rfl

theorem stops_twice (several : 4 ≤ threadCount) (postCount : UInt64) :
    ∃ threads finish events,
      (recorded threadCount postCount).Run (started threadCount, []) threads
          (finish, events) ∧
        2 ≤ stops events := by
  obtain ⟨before, state, run, race⟩ := race_starts several postCount
  obtain ⟨threads, next, here, there, reached, more, lanes, tested, enough⟩ :=
    race.reaches postCount (lanes_started several) (by omega)
      postCount.toNat (by omega)
  exact tested.stops_twice lanes enough (run.append more)

/-- For every even number of threads: `stop()` is called exactly once in every
run exactly when there is one chain. -/
theorem stops_once_iff (threadCount : Nat) [NeZero threadCount]
    (even : threadCount % 2 = 0) (postCount : UInt64) :
    StopsOnce threadCount postCount ↔ threadCount = 2 := by
  constructor
  · intro once
    have positive := NeZero.pos threadCount
    by_contra different
    obtain ⟨threads, finish, events, run, twice⟩ :=
      stops_twice (by omega : 4 ≤ threadCount) postCount
    have most := once.atMost threads finish events run
    omega
  · rintro rfl
    exact stopsOnce_two postCount

theorem stops_once_ten : StopsOnce 2 10 :=
  (stops_once_iff 2 rfl 10).mpr rfl

/-- With four threads both chains can stop the pool. -/
theorem four_threads_stop_twice : ¬StopsOnce 4 10 := by
  intro once
  obtain ⟨threads, finish, events, run, twice⟩ :=
    stops_twice (by decide : 4 ≤ 4) 10
  have most := once.atMost threads finish events run
  omega

end Chains

end AsioBenchmark.Pool
