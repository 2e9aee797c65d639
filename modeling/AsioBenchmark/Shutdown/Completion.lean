import AsioBenchmark.Shutdown.Countdown
import AsioBenchmark.Shutdown.Disorder
import AsioBenchmark.Shutdown.Turns

/-!
# What an orderly run ends with

The timer's handler returns after finitely many steps of the first thread, and
from then on the system comes to rest.  At rest every stop task was executed,
every socket is closed, and every `run()` has returned.
-/

namespace AsioBenchmark.Shutdown

open AsioBenchmark.Transition

section Completion

variable {threadCount sessionCount : Nat} [NeZero threadCount]
  {Session Event Handler : Type}

/-- Every stop task was executed, every socket is closed, no operation is
outstanding and no task queued, and every `run()` has returned without an
exception. -/
structure State.Finished (client : Client Session Event Handler)
    (state : State threadCount sessionCount Session Handler) : Prop where
  executed : ∀ session, state.executed session = 1
  closed : ∀ session, client.isOpen (state.sessions session) = false
  idle : ∀ session, client.idle (state.sessions session) = true
  empty : ∀ thread, state.queues thread = []
  returned : ∀ thread, state.returned thread = true
  quiet : ∀ thread, state.threw thread = false

/-- No handler throws and who has returned has nothing outstanding; the timer's
handler returns when its thread is given the time; then the system comes to
rest, and at rest it is finished. -/
structure CleanShutdown (client : Client Session Event Handler)
    (sessions : Fin sessionCount → Session)
    (state : State threadCount sessionCount Session Handler) : Prop where
  quiet : ∀ thread, state.threw thread = false
  drained : ∀ thread, state.returned thread = true →
    state.drained client thread = true
  posts : state.armed = false → ∃ bound, ∀ labels finish,
    (client.system sessions).Run state labels finish →
    bound ≤ labels.countP (Label.runs first) → finish.Posted
  terminates : state.Posted → (client.system sessions).Terminates state
  finished : (client.system sessions).Halted state → state.Finished client

namespace State

variable {client : Client Session Event Handler}
  {state next : State threadCount sessionCount Session Handler}
  {label : Label threadCount sessionCount Event}

theorem stop_waits (consistent : state.Consistent client)
    (posted : state.Posted) (session : Fin sessionCount)
    (isOpen : client.isOpen (state.view session).1 = true) :
    Call.stop ∈ (state.view session).2 := by
  obtain ⟨unfired, idle⟩ := posted
  have executed := (consistent.isOpen_iff session).mp isOpen
  have accounted := consistent.accounted session
  have remaining : state.remaining (.stop session) = 0 := by
    simp [State.remaining, unfired, idle]
  have queued : 0 < state.queued session := by omega
  obtain ⟨task, member, stops⟩ := List.countP_pos_iff.mp queued
  refine List.mem_filterMap.mpr ⟨task, member, ?_⟩
  cases task with
  | timer => cases stops
  | stop stopped => simpa [Task.call] using stops
  | handler other handler => cases stops

end State

variable {client : Client Session Event Handler} {effort : Session → Nat}
  {failed : Handler → Bool} {bound : Nat}
  (laws : client.Laws effort failed bound)
  {sessions : Fin sessionCount → Session}
  {state : State threadCount sessionCount Session Handler}

include laws

/-- After the posting the system comes to rest. -/
theorem terminates_of_posted (consistent : state.Consistent client)
    (posted : state.Posted) : (client.system sessions).Terminates state := by
  let Ranked : Nat → State threadCount sessionCount Session Handler → Prop :=
    fun amount state => state.Consistent client ∧ state.Posted ∧
      total (rank failed bound client effort) state.view = amount
  apply System.terminates_of_rank Ranked ?_ ⟨consistent, posted, rfl⟩
  rintro amount state label next ⟨consistent, posted, ranked⟩ taken
  have step := State.step_cases taken
  obtain ⟨postedNext, session, after, turn, view⟩ :=
    State.turn_step step consistent.located posted
  have lower := rank_turn laws turn
    (State.stop_waits consistent posted session)
  have changed := total_update (rank failed bound client effort) state.view
    session after
  rw [← view] at changed
  exact ⟨_, by omega, State.consistent_step laws step consistent, postedNext,
    rfl⟩

theorem finished_of_halted (consistent : state.Consistent client)
    (sound : state.Sound client)
    (halted : (client.system sessions).Halted state) :
    state.Finished client := by
  have runs : ∀ thread, state.drained client thread ≠ true →
      state.returned thread = false := by
    intro thread busy
    rw [Bool.eq_false_iff]
    intro returned
    exact busy (sound.drained thread returned)
  have unarmed : state.armed = false := by
    rw [Bool.eq_false_iff]
    intro armed
    have stuck : state.step client .expire = none := halted .expire
    simp [State.step, armed] at stuck
  have idleTimer : state.timer = none := by
    by_contra running
    refine State.run_enabled (runs first ?_) (.inl ⟨rfl, ?_⟩)
      (halted (.run first))
    · intro drained
      exact running (((State.drained_iff client _).mp drained).2.2.1 rfl).2
    · exact Option.isSome_iff_ne_none.mpr running
  have empty : ∀ thread, state.queues thread = [] := by
    intro thread
    by_contra queued
    refine State.run_enabled (runs thread ?_) (.inr queued)
      (halted (.run thread))
    intro drained
    exact queued ((State.drained_iff client _).mp drained).2.1
  have idle : ∀ session, client.idle (state.sessions session) = true := by
    intro session
    by_contra outstanding
    have works : effort (state.sessions session) ≠ 0 := fun none =>
      outstanding ((laws.idle_iff _).mpr none)
    obtain ⟨event, outcome, network⟩ := laws.network_exists _ works
    refine State.network_enabled (runs (home session) ?_) network
      (halted (.network session event))
    intro drained
    exact outstanding
      (((State.drained_iff client _).mp drained).2.2.2 session rfl)
  have remaining : ∀ action, state.remaining action = 0 := by
    intro action
    simp [State.remaining, State.unfired, unarmed, idleTimer, empty]
  have executed : ∀ session, state.executed session = 1 := by
    intro session
    have accounted := consistent.accounted session
    simpa [remaining, State.queued, empty] using accounted
  refine ⟨executed, ?_, idle, empty, ?_, sound.quiet⟩
  · intro session
    apply consistent.closed
    rw [executed session]
    exact Nat.one_ne_zero
  · intro thread
    apply consistent.returns thread
    refine (State.drained_iff client _).mpr
      ⟨?_, empty thread, fun _ => ⟨unarmed, idleTimer⟩, fun session _ =>
        idle session⟩
    have working := consistent.working thread
    rw [remaining] at working
    by_contra works
    simp [works] at working

/-- Every state of an orderly run is on the way to a clean shutdown. -/
theorem clean_run
    (isOpen : ∀ session, client.isOpen (sessions session) = true)
    {labels : List (Label threadCount sessionCount Event)}
    (run : (client.system sessions).Run (started sessions) labels state)
    (orderly : Orderly client sessions labels) :
    CleanShutdown client sessions state := by
  have consistent := consistent_run laws run (started_consistent isOpen)
  have sound := sound_run laws isOpen run orderly
  refine ⟨sound.quiet, sound.drained, ?_, ?_, ?_⟩
  · intro unarmed
    exact ⟨state.distance, fun labels finish further enough =>
      posted_of_runs consistent.located unarmed further enough⟩
  · exact terminates_of_posted laws consistent
  · exact finished_of_halted laws consistent sound

/-- A run that has come to rest is finished exactly if it was orderly. -/
theorem finished_iff_orderly
    (isOpen : ∀ session, client.isOpen (sessions session) = true)
    {labels : List (Label threadCount sessionCount Event)}
    (run : (client.system sessions).Run (started sessions) labels state)
    (halted : (client.system sessions).Halted state) :
    state.Finished client ↔ Orderly client sessions labels := by
  constructor
  · intro finished
    exact orderly_of_finished laws isOpen run finished.executed finished.empty
      finished.quiet
  · intro orderly
    exact (clean_run laws isOpen run orderly).finished halted

end Completion

end AsioBenchmark.Shutdown
