import AsioBenchmark.Pool.Chains

/-!
# What the chains of `posttask2` come to

The counter overshoots by less than the number of chains, and every thread
leaves the pool, although a task may be posted to a thread that has left.
-/

namespace AsioBenchmark.Pool

open AsioBenchmark.Transition

namespace Chains

variable {threadCount : Nat} [NeZero threadCount]
  {postCount count shared : UInt64} {task : Task} {stage : Stage}
  {next : Option Body} {move : Move threadCount Task}
  {state after : State threadCount Task Body UInt64}
  {thread : Fin threadCount} {threads : List (Fin threadCount)}
  {calls : Nat} {events : List Event}

/-! ## The work objects -/

/-- `stop()` has not been called, or a call is under way, or one has come to its
end. -/
inductive Phase (services : Fin threadCount → Service Task Body)
    (calls : Nat) : Prop where
  | before (none : calls = 0)
      (work : ∀ index, (services index).work = true)
  | during (index : Fin threadCount) {body : Body} {reached : Nat}
      (busy : (services index).running = some body)
      (resetting : body.stage = .resetting reached)
  | behind (positive : 0 < calls)
      (gone : ∀ index, (services index).work = false)

structure Released (state : State threadCount Task Body UInt64)
    (calls : Nat) : Prop where
  resets : ∀ index body, (state.services index).running = some body →
    ∀ reached, body.stage = .resetting reached →
      0 < calls ∧ ∀ other : Fin threadCount, other.val < reached →
        (state.services other).work = false
  phase : Phase state.services calls

omit [NeZero threadCount] in
theorem Released.begins (released : Released state calls)
    {rest : List Task}
    (idle : (state.services thread).running = none) :
    Released
      { state with
        services := Function.update state.services thread
          ((state.services thread).poll ⟨task, .incrementing⟩ rest) }
      calls := by
  refine ⟨?_, ?_⟩
  · refine forall_running_begin ?_ (by simp)
    intro index body busy reached resetting
    obtain ⟨positive, gone⟩ := released.resets index body busy reached
      resetting
    refine ⟨positive, fun other below => ?_⟩
    rw [work_begin]
    exact gone other below
  · cases released.phase with
    | before none work =>
        refine .before none fun index => ?_
        rw [work_begin]
        exact work index
    | @during index body reached busy resetting =>
        have different : index ≠ thread := by
          rintro rfl
          rw [idle] at busy
          cases busy
        refine .during index ?_ resetting
        rw [running_begin, if_neg different]
        exact busy
    | behind positive gone =>
        refine .behind positive fun index => ?_
        rw [work_begin]
        exact gone index

theorem Released.proceeds (released : Released state calls)
    (runs : (state.services thread).running = some ⟨task, stage⟩)
    (statement : Statement threadCount postCount task count stage shared
      next move) :
    Released
      { services := move.apply (Function.update state.services thread
          ((state.services thread).proceed next))
        shared := shared }
      (calls + called stage) := by
  have kept : ∀ index, (state.services index).work = false →
      (move.apply (Function.update state.services thread
        ((state.services thread).proceed next)) index).work = false := by
    intro index gone
    rw [work_proceed, gone]
    rfl
  refine ⟨?_, ?_⟩
  · refine forall_running_proceed ?_ ?_
    · intro index body busy reached resetting
      obtain ⟨positive, gone⟩ := released.resets index body busy reached
        resetting
      exact ⟨by omega, fun other below => kept other (gone other below)⟩
    · intro body same reached resetting
      cases statement with
      | stops =>
          cases same
          cases resetting
          exact ⟨Nat.succ_pos _, by simp⟩
      | @releases index inside =>
          cases same
          cases resetting
          obtain ⟨positive, gone⟩ := released.resets thread _ runs index rfl
          refine ⟨positive, fun other below => ?_⟩
          by_cases here : other = ⟨index, inside⟩
          · rw [work_proceed, here]
            simp [Move.resets]
          · have different : other.val ≠ index :=
              fun same => here (Fin.ext same)
            exact kept other (gone other (by omega))
      | _ => cases same <;> cases resetting
  · have elsewhere : (∀ reached, stage ≠ .resetting reached) →
        called stage = 0 → (∀ index, move.resets index = false) →
        Phase (move.apply (Function.update state.services thread
          ((state.services thread).proceed next))) (calls + called stage) := by
      intro different quiet unchanged
      cases released.phase with
      | before none work =>
          refine .before (by omega) fun index => ?_
          rw [work_proceed, work, unchanged]
          rfl
      | @during index body reached busy resetting =>
          have other : index ≠ thread := by
            rintro rfl
            rw [runs] at busy
            cases busy
            exact different reached resetting
          refine .during index ?_ resetting
          rw [running_proceed, if_neg other]
          exact busy
      | behind positive gone =>
          exact .behind (by omega) fun index => kept index (gone index)
    have here : ∀ body, next = some body →
        (move.apply (Function.update state.services thread
          ((state.services thread).proceed next)) thread).running =
            some body := by
      rintro body rfl
      rw [running_proceed, if_pos rfl]
    cases statement with
    | stops => exact .during thread (here _ rfl) rfl
    | releases inside => exact .during thread (here _ rfl) rfl
    | @released index outside =>
        obtain ⟨positive, gone⟩ := released.resets thread _ runs index rfl
        refine .behind positive fun other => kept other (gone other ?_)
        exact Nat.lt_of_lt_of_le other.isLt (Nat.le_of_not_lt outside)
    | increments => exact elsewhere (by simp) rfl fun _ => rfl
    | reaches => exact elsewhere (by simp) rfl fun _ => rfl
    | misses => exact elsewhere (by simp) rfl fun _ => rfl
    | posts => exact elsewhere (by simp) rfl fun _ => rfl
    | returns => exact elsewhere (by simp) rfl fun _ => rfl

/-! ## Runs -/

structure Invariant (postCount : UInt64)
    (state : State threadCount Task Body UInt64) (events : List Event) :
    Prop where
  placed : Placed state
  counted : Counted postCount state (stops events)
  released : Released state (stops events)

theorem stops_append (events new : List Event) :
    stops (events ++ new) = stops events + stops new :=
  List.countP_append

/-- The rank goes down: a handler gets nearer to its end, or an increment uses
up room below the largest value of the counter. -/
theorem Counted.rank_lt (counted : Counted postCount state calls)
    (room : threshold postCount + threadCount / 2 ≤ 18446744073709551616)
    (taken : Step (program threadCount postCount) state thread after) :
    rank threadCount postCount after < rank threadCount postCount state := by
  cases taken with
  | @poll task rest stays idle queued =>
      have fewer := total_weigh_begin (fun _ : Task => 2)
        (toDoBody threadCount) ⟨task, .incrementing⟩ queued idle
      simp only [toDoBody] at fewer
      simp only [rank, toDo, program]
      omega
  | @proceed body shared next move stays runs advances =>
      obtain ⟨task, stage⟩ := body
      have fewer := total_weigh_proceed (fun _ : Task => 2)
        (toDoBody threadCount) state.services thread move next
      have positive := NeZero.pos threadCount
      rw [runs] at fewer
      simp only [rank, toDo]
      cases advance_eq_iff.mp advances with
      | increments =>
          have value := counted.increment room runs
          have below : state.shared.toNat <
              threshold postCount + threadCount / 2 := by
            rcases counted.overshoot with below | bounded
            · omega
            · omega
          obtain ⟨rest, more⟩ : ∃ rest, threshold postCount +
              threadCount / 2 - state.shared.toNat = rest + 1 :=
            ⟨_, (Nat.succ_pred_eq_of_pos (by omega)).symm⟩
          have less : threshold postCount + threadCount / 2 -
              (state.shared + 1).toNat = rest := by omega
          have product := Nat.add_one_mul rest (threadCount + 4)
          simp only [toDoBody, Move.weigh_compute] at fewer
          rw [less, more]
          omega
      | releases inside =>
          simp only [toDoBody, Move.weigh_resetWork] at fewer
          omega
      | _ =>
          simp only [toDoBody, Move.weigh_compute, weigh_post] at fewer
          omega

theorem Invariant.step (invariant : Invariant postCount state events)
    (even : threadCount % 2 = 0)
    (room : threshold postCount + threadCount / 2 ≤ 18446744073709551616)
    (taken : Step (program threadCount postCount) state thread after) :
    Invariant postCount after
      (events ++ observe threadCount state thread after) := by
  have placed := invariant.placed.step even taken
  cases taken with
  | poll stays idle queued =>
      refine ⟨placed, ?_, ?_⟩
      · rw [stops_append, stops_observe_idle idle]
        exact invariant.counted.begins queued idle
      · rw [stops_append, stops_observe_idle idle]
        exact invariant.released.begins idle
  | @proceed body shared next move stays runs advances =>
      obtain ⟨task, stage⟩ := body
      have statement := advance_eq_iff.mp advances
      refine ⟨placed, ?_, ?_⟩
      · rw [stops_append, stops_observe runs]
        exact invariant.counted.proceeds room runs statement
      · rw [stops_append, stops_observe runs]
        exact invariant.released.proceeds runs statement

/-! ## The beginning -/

theorem startedServices_fields (rounds : Nat) (index : Fin threadCount) :
    (startedServices threadCount rounds index).running = none ∧
      (startedServices threadCount rounds index).work = true := by
  induction rounds with
  | zero => exact ⟨rfl, rfl⟩
  | succ rounds induction =>
      obtain ⟨idle, work⟩ := induction
      refine ⟨?_, ?_⟩
      · rw [startedServices, Move.running_apply, idle]
      · rw [startedServices, Move.work_apply, work]
        rfl

theorem settled_startedServices (rounds : Nat) (index : Fin threadCount) :
    (startedServices threadCount rounds index).Settled := by
  induction rounds generalizing index with
  | zero => exact Service.settled_working
  | succ rounds induction =>
      exact Move.forall_apply (fun _ task holds => holds.post task)
        (fun _ holds => holds.resetWork) induction index

theorem queue_startedServices {rounds : Nat}
    (bounded : rounds ≤ threadCount / 2) (index : Fin threadCount) :
    (startedServices threadCount rounds index).queue =
      if index.val % 2 = 0 ∧ index.val / 2 < rounds
      then [first (index.val / 2)] else [] := by
  induction rounds with
  | zero => simp [startedServices, Service.working]
  | succ rounds induction =>
      have inside : rounds * 2 < threadCount := by omega
      have target : index = getIoService threadCount (rounds * 2) ↔
          index.val = rounds * 2 := by
        rw [Fin.ext_iff]
        change index.val = rounds * 2 % threadCount ↔ _
        rw [Nat.mod_eq_of_lt inside]
      rw [startedServices, Move.queue_apply,
        induction (Nat.le_of_succ_le bounded)]
      simp only [post, Move.postedTo, first, target]
      by_cases here : index.val = rounds * 2
      · have half : index.val / 2 = rounds := by omega
        simp [here]
      · by_cases before : index.val % 2 = 0 ∧ index.val / 2 < rounds
        · have still : index.val % 2 = 0 ∧ index.val / 2 < rounds + 1 :=
            ⟨before.1, by omega⟩
          rw [if_pos before, if_neg here, if_pos still, List.append_nil]
        · have still : ¬(index.val % 2 = 0 ∧ index.val / 2 < rounds + 1) := by
            omega
          rw [if_neg before, if_neg here, if_neg still, List.append_nil]

theorem home_startedServices (index : Fin threadCount) :
    ∀ task ∈ (startedServices threadCount (threadCount / 2) index).queue,
      Home index task := by
  intro task member
  rw [queue_startedServices (Nat.le_refl _)] at member
  split at member
  · rename_i even
    obtain rfl := List.mem_singleton.mp member
    exact ⟨Nat.div_mul_cancel (Nat.dvd_of_mod_eq_zero even.1), rfl⟩
  · cases member

/-- The services after so many rounds weigh what the tasks of the rounds
weigh. -/
theorem total_startedServices (queued : Task → Nat)
    {running : Option Body → Nat} (idle : running none = 0)
    (rounds : Nat) :
    total (Service.weigh queued running)
        (startedServices threadCount rounds) =
      ((List.range rounds).map fun chain => queued (first chain)).sum := by
  induction rounds with
  | zero => exact total_eq_zero_iff.mpr fun _ => (Nat.zero_add _).trans idle
  | succ rounds induction =>
      rw [startedServices, total_weigh_apply, induction, weigh_post,
        List.range_succ, List.map_append, List.sum_append]
      simp

theorem invariant_started :
    Invariant postCount (started threadCount) [] where
  placed := by
    refine ⟨home_startedServices, ?_, ?_⟩
    · intro index body busy
      rw [started, (startedServices_fields _ index).1] at busy
      cases busy
    · intro chain
      have once : ∀ rounds, ((List.range rounds).map fun round =>
          if (first round).chain = chain then 1 else 0).sum =
            if chain < rounds then 1 else 0 := by
        intro rounds
        induction rounds with
        | zero => rfl
        | succ rounds induction =>
            rw [List.range_succ, List.map_append, List.sum_append, induction]
            simp only [first, List.map_cons, List.map_nil, List.sum_cons,
              List.sum_nil]
            grind
      rw [started, ofChain, total_startedServices _ rfl, once]
      split
      · exact Nat.le_refl 1
      · exact Nat.zero_le 1
  counted := by
    refine ⟨?_, .inl ?_, ?_, ?_, by simp [stops]⟩
    · rw [started, active, total_startedServices _ rfl]
      simp [stops]
    · exact Nat.lt_of_lt_of_le Nat.zero_lt_one (Nat.le_max_right _ _)
    · intro index body busy
      rw [started, (startedServices_fields _ index).1] at busy
      cases busy
    · intro index body busy
      rw [started, (startedServices_fields _ index).1] at busy
      cases busy
  released := by
    refine ⟨?_, .before rfl fun index => (startedServices_fields _ index).2⟩
    intro index body busy
    rw [started, (startedServices_fields _ index).1] at busy
    cases busy

private theorem recorded_invariant (even : threadCount % 2 = 0)
    (room : threshold postCount + threadCount / 2 ≤ 18446744073709551616)
    {finish : State threadCount Task Body UInt64 × List Event}
    (run : (recorded threadCount postCount).Run (started threadCount, [])
      threads finish) :
    Invariant postCount finish.1 finish.2 := by
  induction run using System.Run.recorded_induction with
  | refl => exact invariant_started
  | snoc before moved induction =>
      exact induction.step even room (step_eq_some_iff.mp moved)

theorem run_invariant (even : threadCount % 2 = 0)
    (room : threshold postCount + threadCount / 2 ≤ 18446744073709551616)
    (run : (recorded threadCount postCount).Run (started threadCount, [])
      threads (state, events)) :
    Invariant postCount state events :=
  recorded_invariant even room run

theorem terminates (even : threadCount % 2 = 0)
    (room : threshold postCount + threadCount / 2 ≤ 18446744073709551616) :
    (system threadCount postCount).Terminates (started threadCount) := by
  have bounded : (recorded threadCount postCount).Terminates
      (started threadCount, []) := by
    refine System.terminates_of_rank
      (fun bound finish => Invariant postCount finish.1 finish.2 ∧
        bound = rank threadCount postCount finish.1)
      ?_ ⟨invariant_started, rfl⟩
    rintro bound recorded thread next ⟨invariant, rfl⟩ moved
    obtain ⟨taken, history⟩ := System.recording_step_iff.mp moved
    have step := step_eq_some_iff.mp taken
    have after := invariant.step even room step
    rw [← history] at after
    exact ⟨_, invariant.counted.rank_lt room step, after, rfl⟩
  exact System.recording_terminates_iff.mp bounded

/-- A pool at rest has been stopped and left by all its threads. -/
theorem Invariant.left_of_halted
    (invariant : Invariant postCount state events)
    (several : 1 ≤ threadCount / 2)
    (settled : ∀ index, (state.services index).Settled)
    (halted : (system threadCount postCount).Halted state) :
    0 < stops events ∧ ∀ index, (state.services index).left = true := by
  have rests := halted_iff.mp halted
  have idle : ∀ index, (state.services index).running = none := by
    intro index
    rcases rests index with left | ⟨idle, _⟩
    · exact ((settled index).left left).2
    · exact idle
  cases invariant.released.phase with
  | before none work =>
      -- No thread has left, so no task is left either.
      have empty : total active state.services = 0 := by
        rw [total_eq_zero_iff]
        intro index
        rcases rests index with left | ⟨_, empty⟩
        · have gone := ((settled index).left left).1
          rw [work index] at gone
          cases gone
        · rw [active, Service.weigh, idle index, empty]
          rfl
      have conserved := invariant.counted.conserved
      omega
  | during index busy resetting =>
      rw [idle index] at busy
      cases busy
  | behind positive gone =>
      refine ⟨positive, fun index => ?_⟩
      cases stays : (state.services index).left with
      | true => rfl
      | false =>
          rcases rests index with left | ⟨_, empty⟩
          · exact stays.symm.trans left
          · rcases (settled index).stays stays with work | queued | runs
            · rw [gone index] at work
              cases work
            · exact absurd empty queued
            · exact absurd (idle index) runs

/-! ## The bounds -/

/-- Each chain has at most one task and keeps to its two services, every thread
leaves the pool, and the counter overshoots by less than the number of
chains. -/
structure CompletesWithinBounds (threadCount : Nat) [NeZero threadCount]
    (postCount : UInt64) : Prop where
  terminates : (system threadCount postCount).Terminates
    (started threadCount)
  single : ∀ threads state,
    (system threadCount postCount).Run (started threadCount) threads state →
    ∀ chain, total (ofChain chain) state.services ≤ 1
  home : ∀ threads state,
    (system threadCount postCount).Run (started threadCount) threads state →
    ∀ (index : Fin threadCount) task,
      (task ∈ (state.services index).queue ∨
        ∃ stage, (state.services index).running = some ⟨task, stage⟩) →
      index.val = 2 * task.chain ∨ index.val = 2 * task.chain + 1
  ends : ∀ threads state,
    (system threadCount postCount).Run (started threadCount) threads state →
    (system threadCount postCount).Halted state →
    (∀ index, (state.services index).left = true) ∧
      max postCount.toNat 1 ≤ state.shared.toNat ∧
      state.shared.toNat ≤
        max postCount.toNat 1 + (threadCount / 2 - 1)
  dead : ∀ threads state,
    (system threadCount postCount).Run (started threadCount) threads state →
    ∀ index, (state.services index).left = true → ∀ later finish,
      (system threadCount postCount).Run state later finish → index ∉ later

/-- For every even number of threads and every `post_count_` that leaves room
for the overshoot, in every interleaving of the threads. -/
theorem completes_within_bounds (threadCount : Nat) [NeZero threadCount]
    (even : threadCount % 2 = 0) (postCount : UInt64)
    (room : postCount.toNat + threadCount / 2 < 18446744073709551616) :
    CompletesWithinBounds threadCount postCount := by
  have enough : threshold postCount + threadCount / 2 ≤
      18446744073709551616 := by
    rw [threshold]
    omega
  have several : 1 ≤ threadCount / 2 := by
    have positive := NeZero.pos threadCount
    omega
  refine ⟨terminates even enough, ?_, ?_, ?_, ?_⟩
  · intro threads state run
    obtain ⟨events, history⟩ := run.record (observe threadCount) []
    exact (run_invariant even enough history).placed.single
  · intro threads state run index task here
    obtain ⟨events, history⟩ := run.record (observe threadCount) []
    have placed := (run_invariant even enough history).placed
    have chain : task.chain = index.val / 2 := by
      rcases here with queued | ⟨stage, runs⟩
      · exact (placed.queued index task queued).chain
      · exact (placed.running index _ runs).chain
    omega
  · intro threads state run halted
    obtain ⟨events, history⟩ := run.record (observe threadCount) []
    have invariant := run_invariant even enough history
    obtain ⟨positive, left⟩ := invariant.left_of_halted several
      (run_settled (settled_startedServices _) run) halted
    have reached := invariant.counted.stopped positive
    have overshoot := invariant.counted.overshoot
    rw [threshold] at reached overshoot
    exact ⟨left, reached, by omega⟩
  · intro threads state run index left later finish more
    exact (run_left left more).1

theorem completes_within_bounds_six : CompletesWithinBounds 6 10 :=
  completes_within_bounds 6 (by decide) 10 (by decide)

end Chains

end AsioBenchmark.Pool
