import AsioBenchmark.Pool.ChainsOutcome

/-!
# The order in which the chains of `posttask2` run

A chain has one task under way, which goes back and forth between two
neighbouring threads.  So its tasks are executed by turns, whatever the other
chains do and however often the pool is stopped.
-/

namespace AsioBenchmark.Pool

open AsioBenchmark.Transition

namespace Chains

/-- A task begins on the thread. -/
def observeTurn {threadCount : Nat}
    (state : State threadCount Task Body UInt64) (thread : Fin threadCount)
    (_next : State threadCount Task Body UInt64) : List Nat :=
  if (state.services thread).running.isNone then [thread.val] else []

/-- The threads on which the tasks of a chain have begun. -/
def turnsOf (events : List Nat) (chain : Nat) : List Nat :=
  events.filter fun thread => thread / 2 = chain

/-- Back and forth between two neighbours, the even one first. -/
def backAndForth (chain count : Nat) : List Nat :=
  (List.range count).map fun turn => 2 * chain + turn % 2

section Steps

variable {threadCount : Nat} {postCount : UInt64}
  {state after : State threadCount Task Body UInt64}
  {thread index : Fin threadCount} {events : List Nat} {chain : Nat}

/-! ## One task of each chain -/

theorem ofChain_queued {service : Service Task Body} {task : Task}
    (member : task ∈ service.queue) : 1 ≤ ofChain task.chain service := by
  have positive : 0 < (service.queue.map fun other =>
      if other.chain = task.chain then 1 else 0).sum := by
    refine List.sum_pos_iff_exists_pos_nat.mpr ⟨1, ?_, Nat.one_pos⟩
    exact List.mem_map.mpr ⟨task, member, if_pos rfl⟩
  exact Nat.le_trans positive (Nat.le_add_right _ _)

theorem ofChainBody_running {body : Body} (under : body.stage ≠ .returning) :
    ofChainBody body.task.chain (some body) = 1 := by
  obtain ⟨task, stage⟩ := body
  cases stage with
  | returning => exact absurd rfl under
  | _ => exact if_pos rfl

theorem ofChain_running {service : Service Task Body} {body : Body}
    (runs : service.running = some body) (under : body.stage ≠ .returning) :
    1 ≤ ofChain body.task.chain service := by
  rw [ofChain, Service.weigh, runs, ofChainBody_running under]
  exact Nat.le_add_left _ _

/-- Where a chain has its task, no other service has one of it. -/
theorem Placed.alone (placed : Placed state)
    (busy : 1 ≤ ofChain chain (state.services thread))
    (different : index ≠ thread) :
    ofChain chain (state.services index) = 0 := by
  have single := placed.single chain
  have removed := total_update (ofChain chain) state.services thread .working
  have nothing : ofChain chain (Service.working : Service Task Body) = 0 := rfl
  have rest : total (ofChain chain)
      (Function.update state.services thread .working) = 0 := by
    omega
  have zero := total_eq_zero_iff.mp rest index
  rwa [Function.update_of_ne different] at zero

/-- While the body of a task runs, its chain has nothing in a queue. -/
theorem Placed.queued_other (placed : Placed state) {body : Body}
    (runs : (state.services thread).running = some body)
    (under : body.stage ≠ .returning) {task : Task}
    (member : task ∈ (state.services index).queue) :
    task.chain ≠ body.task.chain := by
  intro same
  have waits := ofChain_queued member
  rw [same] at waits
  by_cases here : index = thread
  · subst here
    have few := le_total (ofChain body.task.chain) state.services index
    have single := placed.single body.task.chain
    have queued : 1 ≤ ((state.services index).queue.map fun other =>
        if other.chain = body.task.chain then 1 else 0).sum := by
      refine List.sum_pos_iff_exists_pos_nat.mpr ⟨1, ?_, Nat.one_pos⟩
      exact List.mem_map.mpr ⟨task, member, if_pos same⟩
    have both : ofChain body.task.chain (state.services index) =
        ((state.services index).queue.map fun other =>
          if other.chain = body.task.chain then 1 else 0).sum + 1 := by
      rw [ofChain, Service.weigh, runs, ofChainBody_running under]
    omega
  · have none := placed.alone (ofChain_running runs under) here
    omega

theorem Placed.running_other (placed : Placed state) {body other : Body}
    (runs : (state.services thread).running = some body)
    (under : body.stage ≠ .returning)
    (also : (state.services index).running = some other)
    (active : other.stage ≠ .returning) (different : index ≠ thread) :
    other.task.chain ≠ body.task.chain := by
  intro same
  have busy := ofChain_running also active
  rw [same] at busy
  have none := placed.alone (ofChain_running runs under) different
  omega

/-! ## The turns of a chain -/

/-- The task of a chain is where the number of its turns says. -/
structure Alternating (state : State threadCount Task Body UInt64)
    (events : List Nat) : Prop where
  placed : Placed state
  queued : ∀ index, ∀ task ∈ (state.services index).queue,
    index.val % 2 = (turnsOf events task.chain).length % 2
  running : ∀ index body, (state.services index).running = some body →
    body.stage ≠ .returning →
    index.val % 2 ≠ (turnsOf events body.task.chain).length % 2
  order : ∀ chain, turnsOf events chain =
    backAndForth chain (turnsOf events chain).length

theorem turnsOf_snoc (events : List Nat) (thread chain : Nat) :
    turnsOf (events ++ [thread]) chain =
      turnsOf events chain ++ if thread / 2 = chain then [thread] else [] := by
  rw [turnsOf, List.filter_append]
  by_cases own : thread / 2 = chain
  · simp [turnsOf, own]
  · simp [turnsOf, own]

theorem backAndForth_succ (chain count : Nat) :
    backAndForth chain (count + 1) =
      backAndForth chain count ++ [2 * chain + count % 2] := by
  simp [backAndForth, List.range_succ]

/-- A task that begins takes the turn of its chain. -/
theorem Alternating.begins (alternating : Alternating state events)
    {task : Task} {rest : List Task}
    (placed : Placed { state with
      services := Function.update state.services thread
        ((state.services thread).poll ⟨task, .incrementing⟩ rest) })
    (queued : (state.services thread).queue = task :: rest) :
    Alternating
      { state with
        services := Function.update state.services thread
          ((state.services thread).poll ⟨task, .incrementing⟩ rest) }
      (events ++ [thread.val]) := by
  have member : task ∈ (state.services thread).queue := by
    rw [queued]
    exact List.mem_cons_self
  have home := alternating.placed.queued thread task member
  have turn := alternating.queued thread task member
  have begun : (Function.update state.services thread
      ((state.services thread).poll ⟨task, .incrementing⟩ rest)
        thread).running = some ⟨task, .incrementing⟩ := by
    rw [running_begin, if_pos rfl]
  have others : ∀ chain, chain ≠ task.chain →
      turnsOf (events ++ [thread.val]) chain = turnsOf events chain := by
    intro chain different
    rw [turnsOf_snoc, ← home.chain, if_neg (Ne.symm different),
      List.append_nil]
  have own : turnsOf (events ++ [thread.val]) task.chain =
      turnsOf events task.chain ++ [thread.val] := by
    rw [turnsOf_snoc, ← home.chain, if_pos rfl]
  refine ⟨placed, ?_, ?_, ?_⟩
  · intro index other waits
    have different : other.chain ≠ task.chain :=
      placed.queued_other begun (by simp) waits
    rw [others _ different]
    rw [queue_begin] at waits
    split at waits
    · rename_i same
      subst same
      apply alternating.queued
      rw [queued]
      exact List.mem_cons_of_mem _ waits
    · exact alternating.queued index other waits
  · intro index body runs under
    by_cases same : index = thread
    · subst same
      have first : body = ⟨task, .incrementing⟩ :=
        Option.some.inj (runs.symm.trans begun)
      rw [first, own, List.length_append, List.length_singleton]
      omega
    · have different : body.task.chain ≠ task.chain :=
        placed.running_other begun (by simp) runs under same
      rw [others _ different]
      rw [running_begin, if_neg same] at runs
      exact alternating.running index body runs under
  · intro chain
    by_cases mine : chain = task.chain
    · subst mine
      have position : thread.val = 2 * task.chain +
          (turnsOf events task.chain).length % 2 := by
        have half := home.chain
        omega
      rw [own, List.length_append, List.length_singleton, backAndForth_succ,
        ← alternating.order, ← position]
    · rw [others _ mine]
      exact alternating.order chain

variable [NeZero threadCount]

theorem Alternating.posted (alternating : Alternating state events)
    (even : threadCount % 2 = 0) {task : Task}
    (runs : (state.services thread).running = some ⟨task, .posting⟩) :
    (getIoService threadCount task.next.threadIndex).val % 2 =
      (turnsOf events task.chain).length % 2 := by
  have home := alternating.placed.running thread _ runs
  have turn := alternating.running thread _ runs (by simp)
  have inside := (partner_home even home).1
  have target : (getIoService threadCount task.next.threadIndex).val =
      partner thread.val := by
    change task.next.threadIndex % threadCount = _
    rw [Nat.mod_eq_of_lt inside]
    exact congrArg partner home.threadIndex
  rw [target]
  simp only [partner] at turn ⊢
  split
  · omega
  · omega

theorem Alternating.step (alternating : Alternating state events)
    (even : threadCount % 2 = 0)
    (taken : Step (program threadCount postCount) state thread after) :
    Alternating after (events ++ observeTurn state thread after) := by
  have placed := alternating.placed.step even taken
  cases taken with
  | @poll task rest stays idle queued =>
      have begins : observeTurn state thread { state with
          services := Function.update state.services thread
            ((state.services thread).poll
              ((program threadCount postCount).entry task) rest) } =
          [thread.val] := by
        rw [observeTurn, idle]
        rfl
      rw [begins]
      exact alternating.begins placed queued
  | @proceed body shared next move stays runs advances =>
      obtain ⟨task, stage⟩ := body
      have statement := advance_eq_iff.mp advances
      have quiet : observeTurn state thread
          { services := move.apply (Function.update state.services thread
              ((state.services thread).proceed next))
            shared := shared } = [] := by
        rw [observeTurn, runs]
        rfl
      rw [quiet, List.append_nil]
      refine ⟨placed, ?_, ?_, alternating.order⟩
      · intro index other member
        rw [queue_proceed, List.mem_append] at member
        rcases member with before | posted
        · exact alternating.queued index other before
        · cases statement with
          | posts =>
              simp only [post, Move.postedTo] at posted
              split at posted
              · rename_i same
                obtain rfl := List.mem_singleton.mp posted
                rw [same]
                exact alternating.posted even runs
              · cases posted
          | _ => cases posted
      · refine forall_running_proceed alternating.running ?_
        intro body same under
        have turn : stage ≠ .returning →
            thread.val % 2 ≠ (turnsOf events task.chain).length % 2 :=
          alternating.running thread _ runs
        cases statement with
        | returns => cases same
        | posts =>
            cases same
            exact absurd rfl under
        | released outside =>
            cases same
            exact absurd rfl under
        | _ =>
            cases same
            exact turn (by simp)

end Steps

/-! ## Whole runs -/

section Runs

variable {threadCount : Nat} [NeZero threadCount] {postCount : UInt64}
  {state : State threadCount Task Body UInt64}
  {threads : List (Fin threadCount)} {events : List Nat}

theorem run_alternating (even : threadCount % 2 = 0)
    (run : ((system threadCount postCount).recording observeTurn).Run
      (started threadCount, []) threads (state, events)) :
    Alternating state events := by
  generalize recorded : (state, events) = finish at run
  induction run using System.Run.recorded_induction generalizing
    state events with
  | refl =>
      cases recorded
      have initial : Invariant postCount (started threadCount) [] :=
        invariant_started
      refine ⟨initial.placed, ?_, ?_, fun _ => rfl⟩
      · intro index task member
        change task ∈ (startedServices threadCount _ index).queue at member
        rw [queue_startedServices (Nat.le_refl _)] at member
        split at member
        · rename_i first
          exact first.1
        · cases member
      · intro index body runs
        rw [started, (startedServices_fields _ index).1] at runs
        cases runs
  | snoc before moved induction =>
      cases recorded
      exact (induction rfl).step even (step_eq_some_iff.mp moved)

/-- For every even `thread_count`, every `post_count` and every order of the
steps: the tasks of a chain are executed by turns on its two threads. -/
theorem chains_alternate (threadCount : Nat) [NeZero threadCount]
    (even : threadCount % 2 = 0) (postCount : UInt64)
    (threads : List (Fin threadCount))
    (state : State threadCount Task Body UInt64) (events : List Nat)
    (run : ((system threadCount postCount).recording observeTurn).Run
      (started threadCount, []) threads (state, events)) (chain : Nat) :
    turnsOf events chain =
      backAndForth chain (turnsOf events chain).length :=
  (run_alternating even run).order chain

/-- With four threads the first chain has taken three turns and the second
one. -/
theorem chains_alternate_four :
    ∃ state events,
      ((system 4 10).recording observeTurn).Run (started 4, [])
        [0, 0, 0, 2, 0, 1, 1, 1, 1, 0, 0] (state, events) ∧
      events = [0, 2, 1, 0] ∧
      turnsOf events 0 = backAndForth 0 (turnsOf events 0).length := by
  have ends : (((system 4 10).recording observeTurn).exec (started 4, [])
      [0, 0, 0, 2, 0, 1, 1, 1, 1, 0, 0]).map Prod.snd =
        some [0, 2, 1, 0] := by
    decide +kernel
  obtain ⟨⟨state, events⟩, moved, shown⟩ := Option.map_eq_some_iff.mp ends
  have run := System.run_iff_exec.mpr moved
  exact ⟨state, events, run, shown,
    chains_alternate 4 (by decide) 10 _ state events run 0⟩

end Runs

end Chains

end AsioBenchmark.Pool
