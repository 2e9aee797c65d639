import AsioBenchmark.Shutdown.Accounting

/-!
# What holds whatever the order of the steps

The stop tasks are accounted for, a socket is open as long as its stop task was
not executed, and a thread that could return has returned.
-/

namespace AsioBenchmark.Shutdown

open AsioBenchmark.Transition

section Consistency

variable {threadCount sessionCount : Nat} [NeZero threadCount]
  {Session Event Handler : Type}

namespace State

variable (client : Client Session Event Handler)
  (state : State threadCount sessionCount Session Handler)

theorem drained_iff {thread : Fin threadCount} :
    state.drained client thread = true ↔
      state.work thread = false ∧ state.queues thread = [] ∧
        (thread = first → state.armed = false ∧ state.timer = none) ∧
        ∀ session, home session = thread →
          client.idle (state.sessions session) = true := by
  have timers : (!(decide (thread = first) &&
      (state.armed || state.timer.isSome))) = true ↔
        (thread = first → state.armed = false ∧ state.timer = none) := by
    by_cases isFirst : thread = first
    · simp [isFirst]
    · simp [isFirst]
  have sessions : ((List.finRange sessionCount).all fun session =>
      !decide (home session = thread) ||
        client.idle (state.sessions session)) = true ↔
        ∀ session, home session = thread →
          client.idle (state.sessions session) = true := by
    simp only [List.all_eq_true, List.mem_finRange, true_implies,
      Bool.or_eq_true, Bool.not_eq_true', decide_eq_false_iff_not]
    exact forall_congr' fun session => Decidable.imp_iff_not_or.symm
  unfold drained
  rw [Bool.and_eq_true, Bool.and_eq_true, Bool.and_eq_true, timers, sessions,
    Bool.not_eq_true', List.isEmpty_iff, and_assoc, and_assoc]

/-- What holds in every state, whatever the order of the steps. -/
structure Consistent : Prop where
  located : state.Located
  accounted : ∀ session,
    state.remaining (.stop session) + state.queued session +
      state.executed session = 1
  working : ∀ thread,
    state.remaining (.reset thread) = if state.work thread = true then 1 else 0
  isOpen_iff : ∀ session,
    client.isOpen (state.sessions session) = true ↔ state.executed session = 0
  returns : ∀ thread, state.drained client thread = true →
    state.returned thread = true

variable {client state} {next : State threadCount sessionCount Session Handler}
  {label : Label threadCount sessionCount Event}

theorem Consistent.closed (consistent : state.Consistent client)
    {session : Fin sessionCount} (executed : state.executed session ≠ 0) :
    client.isOpen (state.sessions session) = false := by
  rw [Bool.eq_false_iff]
  intro isOpen
  exact executed ((consistent.isOpen_iff session).mp isOpen)

section Drained

variable {before after : State threadCount sessionCount Session Handler}
  {thread target : Fin threadCount}

theorem setSession_elsewhere {session : Fin sessionCount}
    (lives : home session = target) (other : thread ≠ target)
    (moved : Session) (place : Fin sessionCount)
    (inside : home place = thread) :
    (before.setSession session moved).sessions place =
      before.sessions place := by
  apply Function.update_of_ne
  intro same
  subst same
  exact other (inside.symm.trans lives)

/-- What keeps `run()` of a thread is the thread's own. -/
theorem drained_frame (drained : after.drained client thread = true)
    (work : after.work thread = before.work thread)
    (queue : after.queues thread = before.queues thread)
    (timer : thread = first →
      after.armed = before.armed ∧ after.timer = before.timer)
    (sessions : ∀ session, home session = thread →
      after.sessions session = before.sessions session) :
    before.drained client thread = true := by
  obtain ⟨noWork, empty, noTimer, idle⟩ := (drained_iff client after).mp drained
  refine (drained_iff client before).mpr ⟨work ▸ noWork, queue ▸ empty, ?_, ?_⟩
  · intro isFirst
    obtain ⟨armed, running⟩ := timer isFirst
    exact ⟨armed ▸ (noTimer isFirst).1, running ▸ (noTimer isFirst).2⟩
  · intro session place
    rw [← sessions session place]
    exact idle session place

theorem drained_post {task : Task sessionCount Handler}
    (drained : (before.post target task).drained client thread = true) :
    thread ≠ target ∧ before.drained client thread = true := by
  have other : thread ≠ target := by
    intro same
    subst same
    have empty := ((drained_iff client _).mp drained).2.1
    simp [post] at empty
  refine ⟨other, ?_⟩
  exact drained_frame drained rfl (Function.update_of_ne other _ _)
    (fun _ => ⟨rfl, rfl⟩) fun _ _ => rfl

theorem drained_running {rest : List (TimerAction threadCount sessionCount)}
    (timer : after.timer = some rest)
    (drained : after.drained client thread = true) : thread ≠ first := by
  intro isFirst
  have none := (((drained_iff client _).mp drained).2.2.1 isFirst).2
  rw [timer] at none
  cases none

/-- A thread that could return after `settle` has returned. -/
theorem returns_settle
    (returns : thread ≠ target → after.drained client thread = true →
      after.returned thread = true)
    (drained : (after.settle client target).drained client thread = true) :
    (after.settle client target).returned thread = true := by
  have same : after.drained client thread = true := drained
  simp only [settle]
  by_cases equal : thread = target
  · subst equal
    simp [same]
  · rw [Function.update_of_ne equal]
    exact returns equal same

end Drained

section Sessions

variable {effort : Session → Nat} {failed : Handler → Bool} {bound : Nat}
  (laws : client.Laws effort failed bound)

include laws

theorem isOpen_step (step : Step client state label next)
    (isOpen : ∀ session, client.isOpen (state.sessions session) = true ↔
      state.executed session = 0) (session : Fin sessionCount) :
    client.isOpen (next.sessions session) = true ↔
      next.executed session = 0 := by
  have moves : ∀ other after,
      client.isOpen after = client.isOpen (state.sessions other) →
      (client.isOpen ((state.setSession other after).sessions session) =
        true ↔ state.executed session = 0) := by
    intro other after same
    simp only [setSession]
    by_cases equal : session = other
    · subst equal
      rw [Function.update_self, same]
      exact isOpen session
    · rw [Function.update_of_ne equal]
      exact isOpen session
  cases step with
  | expire armed => exact isOpen session
  | answer runs network => exact moves _ _ (laws.network_isOpen network)
  | transfer runs network => exact moves _ _ (laws.network_isOpen network)
  | reset runs timer => exact isOpen session
  | post runs timer => exact isOpen session
  | leave runs timer => exact isOpen session
  | enter runs free queue => exact isOpen session
  | @stop thread other rest runs free queue =>
      simp only [settle, setSession, pop]
      by_cases equal : session = other
      · subst equal
        simp [laws.stop_isOpen]
      · rw [Function.update_of_ne equal, Function.update_of_ne equal]
        exact isOpen session
  | handle runs free queue handles =>
      exact moves _ _ (laws.handle_isOpen handles)
  | throws runs free queue handles => exact isOpen session

/-- A thread that could return after a step has returned. -/
theorem returns_step (step : Step client state label next)
    (consistent : state.Consistent client) (thread : Fin threadCount)
    (drained : next.drained client thread = true) :
    next.returned thread = true := by
  have returns := consistent.returns thread
  cases step with
  | expire armed =>
      obtain ⟨other, before⟩ := drained_post drained
      exact returns (drained_frame before rfl rfl
        (fun isFirst => absurd isFirst other) fun _ _ => rfl)
  | answer runs network =>
      obtain ⟨other, before⟩ := drained_post drained
      exact returns (drained_frame before rfl rfl (fun _ => ⟨rfl, rfl⟩)
        (setSession_elsewhere rfl other _))
  | @transfer session event after runs network =>
      by_cases other : thread = home session
      · have idle := ((drained_iff client _).mp drained).2.2.2 session
          other.symm
        simp only [setSession, Function.update_self] at idle
        exact absurd ((laws.idle_iff after).mp idle) (laws.network_none network)
      · exact returns (drained_frame drained rfl rfl (fun _ => ⟨rfl, rfl⟩)
          (setSession_elsewhere rfl other _))
  | reset runs timer =>
      refine returns_settle ?_ drained
      intro other before
      exact returns (drained_frame before (Function.update_of_ne other _ _) rfl
        (fun isFirst => absurd isFirst (drained_running rfl before))
        fun _ _ => rfl)
  | post runs timer =>
      obtain ⟨other, before⟩ := drained_post drained
      exact returns (drained_frame before rfl rfl
        (fun isFirst => absurd isFirst (drained_running rfl before))
        fun _ _ => rfl)
  | leave runs timer =>
      refine returns_settle ?_ drained
      intro other before
      exact returns (drained_frame before rfl rfl
        (fun isFirst => absurd isFirst other) fun _ _ => rfl)
  | @enter target rest runs free queue =>
      have place : first = target := consistent.located.timer queue
      subst place
      have other := drained_running rfl drained
      exact returns (drained_frame drained rfl
        (Function.update_of_ne other _ _) (fun isFirst => absurd isFirst other)
        fun _ _ => rfl)
  | @stop target other rest runs free queue =>
      have place : home other = target := consistent.located.stop queue
      refine returns_settle ?_ drained
      intro different before
      exact returns (drained_frame before rfl
        (Function.update_of_ne different _ _) (fun _ => ⟨rfl, rfl⟩)
        (setSession_elsewhere place different _))
  | @handle target other handler rest after runs free queue handles =>
      have place : home other = target := consistent.located.handler queue
      refine returns_settle ?_ drained
      intro different before
      exact returns (drained_frame before rfl
        (Function.update_of_ne different _ _) (fun _ => ⟨rfl, rfl⟩)
        (setSession_elsewhere place different _))
  | @throws target other handler rest runs free queue handles =>
      simp only [throw]
      by_cases different : thread = target
      · rw [different, Function.update_self]
      · rw [Function.update_of_ne different]
        exact returns (drained_frame drained rfl
          (Function.update_of_ne different _ _) (fun _ => ⟨rfl, rfl⟩)
          fun _ _ => rfl)

theorem consistent_step (step : Step client state label next)
    (consistent : state.Consistent client) : next.Consistent client where
  located := located_step step consistent.located
  accounted session :=
    (accounted_step step consistent.located session).trans
      (consistent.accounted session)
  working thread :=
    working_step step consistent.located (consistent.working thread)
  isOpen_iff := isOpen_step laws step consistent.isOpen_iff
  returns := returns_step laws step consistent

end Sessions

end State

theorem started_consistent {client : Client Session Event Handler}
    {sessions : Fin sessionCount → Session}
    (isOpen : ∀ session, client.isOpen (sessions session) = true) :
    State.Consistent client
      (started sessions :
        State threadCount sessionCount Session Handler) where
  located thread task member := absurd member List.not_mem_nil
  accounted session := rfl
  working thread := rfl
  isOpen_iff session := by simp [started, isOpen session]
  returns thread drained := by
    have noWork := ((State.drained_iff client _).mp drained).1
    cases noWork

theorem consistent_run {client : Client Session Event Handler}
    {effort : Session → Nat} {failed : Handler → Bool} {bound : Nat}
    (laws : client.Laws effort failed bound)
    {sessions : Fin sessionCount → Session}
    {start finish : State threadCount sessionCount Session Handler}
    {labels : List (Label threadCount sessionCount Event)}
    (run : (client.system sessions).Run start labels finish)
    (consistent : start.Consistent client) : finish.Consistent client := by
  induction run with
  | refl => exact consistent
  | snoc _ taken induction =>
      exact State.consistent_step laws (State.step_cases taken) induction

end Consistency

end AsioBenchmark.Shutdown
