import AsioBenchmark.Shutdown.Orderly

/-!
# What a run that is not orderly cannot mend

A stop task that is posted to a thread which has returned is never executed.
The handler of a successful connect behind the stop task of its session throws,
or stays in the queue of a thread that another handler has ended.
-/

namespace AsioBenchmark.Shutdown

open AsioBenchmark.Transition

section Disorder

variable {threadCount sessionCount : Nat} [NeZero threadCount]
  {Session Event Handler : Type}

namespace State

variable (client : Client Session Event Handler)
  (state : State threadCount sessionCount Session Handler)

/-- The thread of the session has returned without its stop task. -/
def Lost (session : Fin sessionCount) : Prop :=
  state.returned (home session) = true ∧ state.executed session = 0

/-- The stop task of the session was executed before the handler of its
connect. -/
def Doomed (session : Fin sessionCount) : Prop :=
  state.executed session ≠ 0 ∧
    (state.threw (home session) = true ∨
      (state.queues (home session)).countP (Task.connects client session) ≠ 0)

variable {client state} {next : State threadCount sessionCount Session Handler}
  {label : Label threadCount sessionCount Event}
  {session : Fin sessionCount}

theorem returned_step (step : Step client state label next)
    {thread : Fin threadCount} (returned : state.returned thread = true) :
    next.returned thread = true := by
  have settles : ∀ (after : State threadCount sessionCount Session Handler)
      target, after.returned = state.returned →
      (after.settle client target).returned thread = true := by
    intro after target same
    simp only [settle]
    by_cases equal : thread = target
    · subst equal
      simp [same, returned]
    · rw [Function.update_of_ne equal, same]
      exact returned
  cases step with
  | expire armed => exact returned
  | answer runs network => exact returned
  | transfer runs network => exact returned
  | reset runs timer => exact settles _ _ rfl
  | post runs timer => exact returned
  | leave runs timer => exact settles _ _ rfl
  | enter runs free queue => exact returned
  | stop runs free queue => exact settles _ _ rfl
  | handle runs free queue handles => exact settles _ _ rfl
  | @throws target other handler rest runs free queue handles =>
      simp only [throw]
      by_cases equal : thread = target
      · rw [equal, Function.update_self]
      · rw [Function.update_of_ne equal]
        exact returned

theorem lost_step (step : Step client state label next)
    (consistent : state.Consistent client) (lost : state.Lost session) :
    next.Lost session := by
  obtain ⟨returned, never⟩ := lost
  refine ⟨returned_step step returned, ?_⟩
  cases step with
  | expire armed => exact never
  | answer runs network => exact never
  | transfer runs network => exact never
  | reset runs timer => exact never
  | post runs timer => exact never
  | leave runs timer => exact never
  | enter runs free queue => exact never
  | @stop target other rest runs free queue =>
      have place : home other = target := consistent.located.stop queue
      have different : session ≠ other := by
        intro same
        subst same
        rw [place, runs] at returned
        cases returned
      simpa [settle, setSession, pop, different] using never
  | handle runs free queue handles => exact never
  | throws runs free queue handles => exact never

theorem executed_step (step : Step client state label next)
    (executed : state.executed session ≠ 0) : next.executed session ≠ 0 := by
  cases step with
  | expire armed => exact executed
  | answer runs network => exact executed
  | transfer runs network => exact executed
  | reset runs timer => exact executed
  | post runs timer => exact executed
  | leave runs timer => exact executed
  | enter runs free queue => exact executed
  | @stop target other rest runs free queue =>
      simp only [settle, setSession, pop]
      by_cases same : session = other
      · rw [same, Function.update_self]
        exact Nat.succ_ne_zero _
      · rw [Function.update_of_ne same]
        exact executed
  | handle runs free queue handles => exact executed
  | throws runs free queue handles => exact executed

theorem doomed_step {effort : Session → Nat} {failed : Handler → Bool}
    {bound : Nat} (laws : client.Laws effort failed bound)
    (step : Step client state label next)
    (consistent : state.Consistent client)
    (doomed : state.Doomed client session) : next.Doomed client session := by
  obtain ⟨executed, ends⟩ := doomed
  refine ⟨executed_step step executed, ?_⟩
  have posts : ∀ (before : State threadCount sessionCount Session Handler)
      target task, before.queues = state.queues →
      (state.queues (home session)).countP (Task.connects client session) ≠
        0 →
      ((before.post target task).queues (home session)).countP
        (Task.connects client session) ≠ 0 := by
    intro before target task same waits
    rw [countP_post, same]
    exact Nat.ne_of_gt (Nat.add_pos_left (Nat.pos_of_ne_zero waits) _)
  have pops : ∀ {target task rest}, state.queues target = task :: rest →
      ¬ (home session = target ∧ task.connects client session = true) →
      (state.queues (home session)).countP (Task.connects client session) ≠
        0 →
      ((state.pop target rest).queues (home session)).countP
        (Task.connects client session) ≠ 0 := by
    intro target task rest queue other waits
    have counted := countP_pop queue (Task.connects client session)
      (home session)
    rw [if_neg other, Nat.add_zero] at counted
    rw [counted]
    exact waits
  cases step with
  | expire armed => exact ends.imp_right (posts _ _ _ rfl)
  | answer runs network => exact ends.imp_right (posts _ _ _ rfl)
  | transfer runs network => exact ends
  | reset runs timer => exact ends
  | post runs timer => exact ends.imp_right (posts _ _ _ rfl)
  | leave runs timer => exact ends
  | enter runs free queue =>
      exact ends.imp_right (pops queue (by simp [Task.connects]))
  | stop runs free queue =>
      exact ends.imp_right (pops queue (by simp [Task.connects]))
  | @handle target other handler rest after runs free queue handles =>
      refine ends.imp_right (pops queue ?_)
      rintro ⟨_, connects⟩
      obtain ⟨same, succeeded⟩ := Task.connects_handler.mp connects
      subst same
      have throws :=
        laws.handle_none.mpr ⟨succeeded, consistent.closed executed⟩
      rw [throws] at handles
      cases handles
  | @throws target other handler rest runs free queue handles =>
      by_cases place : home session = target
      · left
        simp [throw, place]
      · rcases ends with threw | waits
        · left
          simpa [throw, pop, place] using threw
        · right
          exact pops queue (fun here => place here.1) waits

theorem lost_of_unawaited (consistent : state.Consistent client)
    (unawaited : ¬ state.Awaited client) : ∃ session, state.Lost session := by
  unfold Awaited at unawaited
  push Not at unawaited
  obtain ⟨session, pending, drained⟩ := unawaited
  refine ⟨session, consistent.returns _ (by simpa using drained), ?_⟩
  have accounted := consistent.accounted session
  omega

/-- The step that breaks the order executes a stop task. -/
theorem doomed_of_disorder (step : Step client state label next)
    (consistent : state.Consistent client)
    (breaks : ¬ state.keepsOrder client label = true) :
    ∃ session, next.Doomed client session := by
  have timerRuns : ∀ {rest : List (TimerAction threadCount sessionCount)},
      state.timer = some rest →
      state.keepsOrder client
        (.run first : Label threadCount sessionCount Event) = true := by
    intro rest timer
    simp only [keepsOrder, timer, Option.isSome_some, decide_true,
      Bool.and_self, Bool.true_or]
    split <;> rfl
  cases step with
  | expire armed => exact absurd rfl breaks
  | answer runs network => exact absurd rfl breaks
  | transfer runs network => exact absurd rfl breaks
  | reset runs timer => exact absurd (timerRuns timer) breaks
  | post runs timer => exact absurd (timerRuns timer) breaks
  | leave runs timer => exact absurd (timerRuns timer) breaks
  | enter runs free queue => simp [keepsOrder, queue] at breaks
  | @stop target session rest runs free queue =>
      have place : home session = target := consistent.located.stop queue
      refine ⟨session, ?_, .inr ?_⟩
      · simp [settle, setSession, pop]
      · intro none
        simp only [settle, setSession, pop, place,
          Function.update_self] at none
        simp [keepsOrder, queue, none] at breaks
  | handle runs free queue handles => simp [keepsOrder, queue] at breaks
  | throws runs free queue handles => simp [keepsOrder, queue] at breaks

end State

variable {client : Client Session Event Handler}
  {effort : Session → Nat} {failed : Handler → Bool} {bound : Nat}
  (laws : client.Laws effort failed bound)
  {sessions : Fin sessionCount → Session}
  (isOpen : ∀ session, client.isOpen (sessions session) = true)
  {labels : List (Label threadCount sessionCount Event)}
  {finish : State threadCount sessionCount Session Handler}

include laws isOpen

/-- A run is orderly, or has lost a stop task or a handler for good. -/
theorem orderly_or_lost
    (run : (client.system sessions).Run (started sessions) labels finish) :
    Orderly client sessions labels ∨ (∃ session, finish.Lost session) ∨
      ∃ session, finish.Doomed client session := by
  induction run with
  | refl =>
      left
      refine ⟨System.eachStep_nil, System.always_nil.mpr ?_⟩
      intro session _
      rfl
  | @snoc labels middle finish label before taken induction =>
      have consistent := consistent_run laws before (started_consistent isOpen)
      have step := State.step_cases taken
      rcases induction with orderly | ⟨session, lost⟩ | ⟨session, doomed⟩
      · by_cases keeps : middle.keepsOrder client label = true
        · by_cases awaited : finish.Awaited client
          · left
            obtain ⟨each, always⟩ := orderly
            exact ⟨(System.eachStep_snoc before).mpr ⟨each, keeps⟩,
              (System.always_snoc (before.snoc taken)).mpr
                ⟨always, awaited⟩⟩
          · exact .inr (.inl (State.lost_of_unawaited
              (State.consistent_step laws step consistent) awaited))
        · exact .inr (.inr (State.doomed_of_disorder step consistent keeps))
      · exact .inr (.inl ⟨session, State.lost_step step consistent lost⟩)
      · exact .inr (.inr
          ⟨session, State.doomed_step laws step consistent doomed⟩)

/-- A run with all stop tasks executed, all queues empty and no exception was
orderly. -/
theorem orderly_of_finished
    (run : (client.system sessions).Run (started sessions) labels finish)
    (executed : ∀ session, finish.executed session = 1)
    (empty : ∀ thread, finish.queues thread = [])
    (quiet : ∀ thread, finish.threw thread = false) :
    Orderly client sessions labels := by
  rcases orderly_or_lost laws isOpen run with
    orderly | ⟨session, lost⟩ | ⟨session, doomed⟩
  · exact orderly
  · have never := lost.2
    rw [executed] at never
    cases never
  · rcases doomed.2 with threw | waits
    · rw [quiet] at threw
      cases threw
    · rw [empty] at waits
      exact absurd rfl waits

end Disorder

end AsioBenchmark.Shutdown
