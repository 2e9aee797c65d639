import AsioBenchmark.Pool.Ring

/-!
# What the ring of `posttask1` executes

The history of a run of the pool is that of its one task, so it is the same for
all interleavings.  It ends at the target, on a pool that every thread leaves.
The threads are visited in turn as long as the index of the thread does not
wrap, or wraps at a multiple of the size of the pool.
-/

namespace AsioBenchmark.Pool

open AsioBenchmark.Transition

namespace Ring

variable {size : Nat} [NeZero size] {postCount : UInt64} {executed : Nat}
  {place : Place} {state : State size Task Body Cells} {events : List Event}

section Histories

theorem executedOn_append (events new : List Event) :
    executedOn (events ++ new) = executedOn events ++ executedOn new :=
  List.filterMap_append

theorem postedTo_append (events new : List Event) :
    postedTo (events ++ new) = postedTo events ++ postedTo new :=
  List.filterMap_append

theorem executedOn_rounds : executedOn (rounds size executed) =
    (List.range executed).map fun count => (seat size count).val := by
  induction executed with
  | zero => rfl
  | succ executed induction =>
      rw [rounds, executedOn_append, executedOn_append, induction,
        List.range_succ, List.map_append, List.append_assoc]
      rfl

theorem postedTo_rounds : postedTo (rounds size executed) =
    (List.range executed).map fun count => (seat size (count + 1)).val := by
  induction executed with
  | zero => rfl
  | succ executed induction =>
      rw [rounds, postedTo_append, postedTo_append, induction,
        List.range_succ, List.map_append, List.append_assoc]
      rfl

theorem live_history :
    (place.history size executed).all Event.isLive = true := by
  cases place with
  | queued => rfl
  | ended => rfl
  | within body => cases body <;> rfl

theorem live_rounds : (rounds size executed).all Event.isLive = true := by
  induction executed with
  | zero => rfl
  | succ executed induction =>
      rw [rounds, List.all_append, List.all_append, induction]
      rfl

theorem ordinary_rounds :
    (rounds size executed).all Event.isOrdinary = true := by
  induction executed with
  | zero => rfl
  | succ executed induction =>
      rw [rounds, List.all_append, List.all_append, induction]
      rfl

end Histories

section Runs

variable {threads : List (Fin size)}

theorem seat_zero : seat size 0 = getIoService size 0 := rfl

theorem carried_started :
    Carried size postCount 0 .queued (started size) [] where
  possible := target_pos
  cells := rfl
  work index := by
    rw [started, Move.work_apply]
    rfl
  queue index := by
    rw [started, Move.queue_apply]
    simp [Move.postedTo, seat_zero, Service.working]
  running index body runs := by
    rw [started, Move.running_apply] at runs
    cases runs
  within := by simp
  events := rfl

private theorem recorded_carried
    {finish : State size Task Body Cells × List Event}
    (run : (recorded size postCount).Run (started size, []) threads finish) :
    ∃ executed place,
      Carried size postCount executed place finish.1 finish.2 := by
  induction run using System.Run.recorded_induction with
  | refl => exact ⟨0, .queued, carried_started⟩
  | snoc before moved induction =>
      obtain ⟨executed, place, carried⟩ := induction
      obtain ⟨following, later, after, _⟩ :=
        carried.step (step_eq_some_iff.mp moved)
      exact ⟨following, later, after⟩

theorem run_carried
    (run : (recorded size postCount).Run (started size, []) threads
      (state, events)) :
    ∃ executed place, Carried size postCount executed place state events :=
  recorded_carried run

theorem terminates (size : Nat) [NeZero size] (postCount : UInt64) :
    (system size postCount).Terminates (started size) := by
  have bounded : (recorded size postCount).Terminates (started size, []) := by
    refine System.terminates_of_rank
      (fun bound finish => ∃ executed place,
        Carried size postCount executed place finish.1 finish.2 ∧
          bound = rank size postCount executed place finish.1.services)
      ?_ ⟨0, .queued, carried_started, rfl⟩
    rintro bound recorded thread next ⟨executed, place, carried, rfl⟩ moved
    obtain ⟨taken, history⟩ := System.recording_step_iff.mp moved
    obtain ⟨following, later, after, less⟩ :=
      carried.step (step_eq_some_iff.mp taken)
    rw [← history] at after
    exact ⟨_, less, following, later, after, rfl⟩
  exact System.recording_terminates_iff.mp bounded

theorem started_settled (index : Fin size) :
    ((started size).services index).Settled := by
  change (Move.apply (fun _ => Service.working) (.post 0 Task.lambda)
    index).Settled
  exact Move.forall_apply (fun _ task holds => holds.post task)
    (fun _ holds => holds.resetWork) (fun _ => Service.settled_working) index

/-- Where the task is not in a body, no body is being executed. -/
theorem Carried.idle
    (carried : Carried size postCount executed place state events)
    (index : Fin size)
    (elsewhere : index = seat size executed → ∀ body, place ≠ .within body) :
    (state.services index).running = none ∨
      (state.services index).running = some .returning := by
  cases runs : (state.services index).running with
  | none => exact .inl rfl
  | some body =>
      rcases carried.running index body runs with returned | ⟨same, within⟩
      · exact .inr (by rw [returned])
      · exact absurd within (elsewhere same body)

/-- The tasks of a service are in its queue or in its body. -/
theorem Carried.tasks_eq
    (carried : Carried size postCount executed place state events)
    (index : Fin size) :
    tasks (state.services index) =
      if index = seat size executed ∧ place ≠ .ended then 1 else 0 := by
  have possible := carried.possible
  have idle := carried.idle index
  rw [tasks, carried.queue index]
  cases place with
  | queued =>
      rw [if_pos (idle fun _ => by simp)]
      by_cases here : index = seat size executed
      · simp [here]
      · simp [here]
  | ended =>
      rw [if_pos (idle fun _ => by simp)]
      simp
  | within body =>
      by_cases here : index = seat size executed
      · subst here
        have runs := carried.within body rfl
        have busy : body ≠ .returning := by
          rintro rfl
          exact possible
        simp [runs, busy]
      · rw [if_pos (idle fun same => absurd same here)]
        simp [here]

theorem Carried.total_tasks
    (carried : Carried size postCount executed place state events) :
    total tasks state.services = if place = .ended then 0 else 1 := by
  have others : ∀ other, other ≠ seat size executed →
      tasks (state.services other) = 0 := by
    intro other different
    rw [carried.tasks_eq, if_neg fun both => different both.1]
  rw [total_eq_iff_of_zero others, carried.tasks_eq]
  by_cases atEnd : place = .ended
  · simp [atEnd]
  · simp [atEnd]

/-- A pool at rest has come to the end of its last task. -/
theorem Carried.ended_of_halted
    (carried : Carried size postCount executed place state events)
    (settled : ∀ index, (state.services index).Settled)
    (halted : (system size postCount).Halted state) :
    place = .ended ∧ ∀ index, (state.services index).left = true := by
  have rests := halted_iff.mp halted
  have atEnd : place = .ended := by
    cases place with
    | ended => rfl
    | queued =>
        -- The work object keeps the thread of the queued task running.
        have work := carried.work (seat size executed)
        have queue := carried.queue (seat size executed)
        rw [if_pos ⟨rfl, rfl⟩] at queue
        rcases rests (seat size executed) with left | ⟨_, empty⟩
        · have noWork := ((settled _).left left).1
          rw [noWork] at work
          cases (of_decide_eq_false work.symm) (Nat.zero_le _)
        · rw [queue] at empty
          cases empty
    | within body =>
        have runs := carried.within body rfl
        rcases rests (seat size executed) with left | ⟨idle, _⟩
        · have idle := ((settled _).left left).2
          rw [runs] at idle
          cases idle
        · rw [runs] at idle
          cases idle
  subst atEnd
  refine ⟨rfl, fun index => ?_⟩
  cases stays : (state.services index).left with
  | true => rfl
  | false =>
      have work := carried.work index
      have outside : ¬size ≤ index.val := Nat.not_le.mpr index.isLt
      rw [Place.resets, decide_eq_false outside] at work
      have queue := carried.queue index
      rw [if_neg fun both => by cases both.2] at queue
      have noHandler : (state.services index).running = none := by
        rcases rests index with left | ⟨idle, _⟩
        · rw [stays] at left
          cases left
        · exact idle
      rcases (settled index).stays stays with held | queued | runs
      · rw [work] at held
        cases held
      · exact absurd queue queued
      · exact absurd noHandler runs

end Runs

/-! ## The target -/

/-- One task at a time goes round the pool, and the one that reaches the target
deletes the cells and stops the pool. -/
structure RunsToTarget (size : Nat) [NeZero size] (postCount : UInt64) :
    Prop where
  terminates : (system size postCount).Terminates (started size)
  oneTask : ∀ threads state events,
    (recorded size postCount).Run (started size, []) threads
      (state, events) →
    total tasks state.services = 1 ∨
      (total tasks state.services = 0 ∧ .stopped ∈ events ∧
        ∀ index, (state.services index).work = false)
  exclusive : ∀ threads state events thread next event,
    (recorded size postCount).Run (started size, []) threads
      (state, events) →
    (system size postCount).step state thread = some next →
    event ∈ observe size state thread next → event.touches = true →
    ∀ other, tasks (state.services other) = if other = thread then 1 else 0
  live : ∀ threads state events,
    (recorded size postCount).Run (started size, []) threads
      (state, events) →
    ∀ event ∈ events, event.isLive = true
  ends : ∀ threads state events,
    (recorded size postCount).Run (started size, []) threads
      (state, events) →
    (system size postCount).Halted state →
    (∀ index, (state.services index).left = true) ∧
      IsLeast {count | 1 ≤ count ∧
          count % 18446744073709551616 = postCount.toNat}
        (executedOn events).length ∧
      ∃ before,
        events = before ++ [.deleted .threadIndex true, .deleted .count true,
          .stopped] ∧
        ∀ event ∈ before, event.isOrdinary = true

theorem isLeast_target : IsLeast {count | 1 ≤ count ∧
    count % 18446744073709551616 = postCount.toNat} (target postCount) := by
  refine ⟨⟨target_pos, target_mod⟩, ?_⟩
  rintro count ⟨positive, value⟩
  unfold target
  split
  · rename_i zero
    rw [zero] at value
    change count % 18446744073709551616 = 0 at value
    omega
  · rw [← value]
    exact Nat.mod_le _ _

theorem Carried.executedOn_eq
    (carried : Carried size postCount executed place state events) :
    executedOn events =
      (List.range (if place = .queued then executed else executed + 1)).map
        fun count => (seat size count).val := by
  rw [carried.events, executedOn_append, executedOn_rounds]
  have current : executedOn (place.history size executed) =
      if place = .queued then [] else [(seat size executed).val] := by
    have possible := carried.possible
    cases place with
    | queued => rfl
    | ended => rfl
    | within body =>
        cases body with
        | returning => exact possible.elim
        | _ => rfl
  rw [current]
  split
  · rw [List.append_nil]
  · rw [List.range_succ, List.map_append]
    rfl

/-- A thread that touches a cell executes a body. -/
theorem busy_of_touches {next : State size Task Body Cells}
    {thread : Fin size} {event : Event}
    (observed : event ∈ observe size state thread next)
    (touches : event.touches = true) :
    ∃ body, (state.services thread).running = some body ∧
      body ≠ .returning := by
  cases runs : (state.services thread).running with
  | none =>
      rw [observe, runs] at observed
      obtain rfl := List.mem_singleton.mp observed
      cases touches
  | some body =>
      refine ⟨body, rfl, ?_⟩
      rintro rfl
      rw [observe, runs] at observed
      cases observed

/-- For every size of the pool and every `post_count_`, in every interleaving
of the threads. -/
theorem runs_to_target (size : Nat) [NeZero size] (postCount : UInt64) :
    RunsToTarget size postCount where
  terminates := terminates size postCount
  oneTask threads state events run := by
    obtain ⟨executed, place, carried⟩ := run_carried run
    rw [carried.total_tasks]
    by_cases atEnd : place = .ended
    · subst atEnd
      refine .inr ⟨if_pos rfl, ?_, fun index => ?_⟩
      · have last : Place.history size executed .ended =
            Place.history size executed (.within .stopping) ++ [.stopped] :=
          rfl
        rw [carried.events, last]
        exact List.mem_append_right _
          (List.mem_append_right _ (List.mem_singleton.mpr rfl))
      · rw [carried.work]
        exact decide_eq_false (Nat.not_le.mpr index.isLt)
    · exact .inl (if_neg atEnd)
  exclusive threads state events thread next event run _ observed touches
      other := by
    obtain ⟨executed, place, carried⟩ := run_carried run
    obtain ⟨body, runs, different⟩ := busy_of_touches observed touches
    obtain ⟨same, within⟩ :=
      (carried.running thread body runs).resolve_left different
    subst same within
    rw [carried.tasks_eq]
    simp
  live threads state events run := by
    obtain ⟨executed, place, carried⟩ := run_carried run
    rw [← List.all_eq_true, carried.events, List.all_append, live_rounds,
      live_history]
    rfl
  ends threads state events run halted := by
    obtain ⟨executed, place, carried⟩ := run_carried run
    obtain ⟨atEnd, left⟩ := carried.ended_of_halted
      (run_settled started_settled run.forget) halted
    subst atEnd
    refine ⟨left, ?_, ?_⟩
    · have last : executed + 1 = target postCount := carried.possible
      rw [carried.executedOn_eq, List.length_map, List.length_range,
        if_neg (by simp), last]
      exact isLeast_target
    · refine ⟨rounds size executed ++
        Place.history size executed (.within .reading), ?_, ?_⟩
      · rw [carried.events, List.append_assoc]
        rfl
      · rw [← List.all_eq_true, List.all_append, ordinary_rounds]
        rfl

theorem runs_to_target_three : RunsToTarget 3 5 := runs_to_target 3 5

/-! ## The order of the threads -/

/-- The tasks are executed and posted on the threads of the pool in turn. -/
def VisitsInTurn (size : Nat) [NeZero size] (postCount : UInt64) : Prop :=
  ∀ threads state events,
    (recorded size postCount).Run (started size, []) threads
      (state, events) →
    (∀ count thread, (executedOn events)[count]? = some thread →
      thread = count % size) ∧
    ∀ count thread, (postedTo events)[count]? = some thread →
      thread = (count + 1) % size

theorem Carried.postedTo_eq
    (carried : Carried size postCount executed place state events) :
    postedTo events =
      (List.range executed).map fun count => (seat size (count + 1)).val := by
  rw [carried.events, postedTo_append, postedTo_rounds]
  have current : postedTo (place.history size executed) = [] := by
    cases place with
    | queued => rfl
    | ended => rfl
    | within body => cases body <;> rfl
  rw [current, List.append_nil]

private theorem getElem?_map_range {value : Nat → Nat} {length count : Nat}
    {found : Nat}
    (at' : ((List.range length).map value)[count]? = some found) :
    count < length ∧ found = value count := by
  rw [List.getElem?_map, Option.map_eq_some_iff] at at'
  obtain ⟨index, inside, rfl⟩ := at'
  obtain ⟨below, same⟩ := List.getElem?_eq_some_iff.mp inside
  rw [List.length_range] at below
  rw [List.getElem_range] at same
  exact ⟨below, by rw [same]⟩

/-- Until the target is reached, the wrapped indices have to lead to the same
threads as the indices. -/
theorem visitsInTurn_iff_seats :
    VisitsInTurn size postCount ↔
      ∀ count, count < target postCount →
        (seat size count).val = count % size := by
  constructor
  · intro inTurn count below
    obtain ⟨threads, state, run, halted⟩ :=
      (terminates size postCount).exists_halted
    obtain ⟨events, history⟩ := run.record (observe size) []
    obtain ⟨executed, place, carried⟩ := run_carried history
    obtain ⟨atEnd, _⟩ := carried.ended_of_halted
      (run_settled started_settled run) halted
    subst atEnd
    have last : executed + 1 = target postCount := carried.possible
    have inside : count < (executedOn events).length := by
      rw [carried.executedOn_eq, List.length_map, List.length_range,
        if_neg (by simp), last]
      exact below
    apply (inTurn threads state events history).1 count
    rw [List.getElem?_eq_getElem inside]
    simp [carried.executedOn_eq]
  · intro seats threads state events run
    obtain ⟨executed, place, carried⟩ := run_carried run
    have bounded := carried.possible.below
    constructor
    · intro count thread found
      rw [carried.executedOn_eq] at found
      obtain ⟨below, rfl⟩ := getElem?_map_range found
      apply seats
      split at below
      · omega
      · omega
    · intro count thread found
      rw [carried.postedTo_eq] at found
      obtain ⟨below, rfl⟩ := getElem?_map_range found
      exact seats (count + 1) (by omega)

theorem seat_val (count : Nat) :
    (seat size count).val = count % 4294967296 % size := rfl

/-- A task runs on the thread that follows the one it was posted from, through
the whole run, exactly when the 32-bit index does not wrap or wraps at a
multiple of the size of the pool. -/
theorem visits_in_turn_iff (size : Nat) [NeZero size] (postCount : UInt64)
    (positive : 1 ≤ postCount.toNat) :
    VisitsInTurn size postCount ↔
      postCount.toNat ≤ 4294967296 ∨ size ∣ 4294967296 := by
  have goal : target postCount = postCount.toNat := by
    rw [target, if_neg]
    rintro rfl
    cases positive
  rw [visitsInTurn_iff_seats, goal]
  constructor
  · intro seats
    by_cases short : postCount.toNat ≤ 4294967296
    · exact .inl short
    · have wrapped := seats 4294967296 (by omega)
      rw [seat_val, Nat.mod_self, Nat.zero_mod] at wrapped
      exact .inr (Nat.dvd_of_mod_eq_zero wrapped.symm)
  · rintro (short | divides) count below
    · rw [seat_val, Nat.mod_eq_of_lt (Nat.lt_of_lt_of_le below short)]
    · rw [seat_val, Nat.mod_mod_of_dvd count divides]

theorem visits_in_turn_three : VisitsInTurn 3 5 :=
  (visits_in_turn_iff 3 5 (by decide)).mpr (.inl (by decide))

/-- With three threads the task that follows number 4294967295, on thread 0, is
posted to thread 0 again. -/
theorem three_threads_out_of_turn : ¬VisitsInTurn 3 4294967297 := by
  intro inTurn
  have wrapped := visitsInTurn_iff_seats.mp inTurn 4294967296 (by decide)
  rw [seat_val] at wrapped
  exact absurd wrapped (by decide)

end Ring

end AsioBenchmark.Pool
