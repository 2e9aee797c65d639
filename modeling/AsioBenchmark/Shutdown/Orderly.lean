import AsioBenchmark.Shutdown.Consistency

/-!
# Orderly runs

A run is orderly when no stop task is executed in front of the handler of a
successful connect of its session, and no thread is without work while the stop
task of one of its sessions is still to be posted.  In such a run no handler
throws, and a thread returns only with its sessions at rest.
-/

namespace AsioBenchmark.Shutdown

open AsioBenchmark.Transition

section Orderly

variable {threadCount sessionCount : Nat} [NeZero threadCount]
  {Session Event Handler : Type}

/-- The handler of a successful connect of the session. -/
def Task.connects (client : Client Session Event Handler)
    (session : Fin sessionCount) : Task sessionCount Handler → Bool
  | .timer => false
  | .stop _ => false
  | .handler other completion =>
      decide (other = session) && client.connects completion

theorem Task.connects_handler {client : Client Session Event Handler}
    {session other : Fin sessionCount} {completion : Handler} :
    Task.connects client session (.handler other completion) = true ↔
      other = session ∧ client.connects completion = true := by
  simp [Task.connects]

namespace State

variable (client : Client Session Event Handler)
  (state : State threadCount sessionCount Session Handler)

/-- The step executes no stop task in front of the handler of a successful
connect of the same session. -/
def keepsOrder : Label threadCount sessionCount Event → Bool
  | .expire => true
  | .network _ _ => true
  | .run thread =>
      match state.queues thread with
      | .stop session :: rest =>
          (decide (thread = first) && state.timer.isSome) ||
            rest.countP (Task.connects client session) == 0
      | _ => true

/-- A thread waits for the stop tasks of its sessions. -/
def Awaited : Prop :=
  ∀ session : Fin sessionCount, state.remaining (.stop session) ≠ 0 →
    state.drained client (home session) = false

instance : Decidable (state.Awaited client) :=
  inferInstanceAs (Decidable (∀ _, _ → _))

/-- What holds in the states of an orderly run. -/
structure Sound : Prop where
  quiet : ∀ thread, state.threw thread = false
  drained : ∀ thread, state.returned thread = true →
    state.drained client thread = true
  ordered : ∀ session, state.executed session ≠ 0 →
    (state.queues (home session)).countP (Task.connects client session) = 0

end State

/-- Each step of the run keeps the order, and each state of it is awaited. -/
def Orderly (client : Client Session Event Handler)
    (sessions : Fin sessionCount → Session)
    (labels : List (Label threadCount sessionCount Event)) : Prop :=
  (client.system sessions).EachStep (started sessions) labels
      (fun state label => state.keepsOrder client label = true) ∧
    (client.system sessions).Always (started sessions) labels
      (State.Awaited client)

instance (client : Client Session Event Handler)
    (sessions : Fin sessionCount → Session)
    (labels : List (Label threadCount sessionCount Event)) :
    Decidable (Orderly client sessions labels) :=
  inferInstanceAs (Decidable (_ ∧ _))

namespace State

variable {client : Client Session Event Handler}
  {state next : State threadCount sessionCount Session Handler}
  {label : Label threadCount sessionCount Event}

theorem drained_settle
    {after : State threadCount sessionCount Session Handler}
    {thread target : Fin threadCount}
    (same : after.returned target = true →
      after.drained client target = true)
    (others : thread ≠ target → after.returned thread = true →
      after.drained client thread = true)
    (returned : (after.settle client target).returned thread = true) :
    (after.settle client target).drained client thread = true := by
  simp only [settle] at returned
  by_cases equal : thread = target
  · subst equal
    rw [Function.update_self, Bool.or_eq_true] at returned
    rcases returned with before | now
    · exact same before
    · exact now
  · rw [Function.update_of_ne equal] at returned
    exact others equal returned

section Step

variable {effort : Session → Nat} {failed : Handler → Bool} {bound : Nat}
  (laws : client.Laws effort failed bound)
  (step : Step client state label next)
  (consistent : state.Consistent client) (sound : state.Sound client)

include laws step consistent sound

theorem quiet_step (thread : Fin threadCount) : next.threw thread = false := by
  have quiet := sound.quiet thread
  cases step with
  | expire armed => exact quiet
  | answer runs network => exact quiet
  | transfer runs network => exact quiet
  | reset runs timer => exact quiet
  | post runs timer => exact quiet
  | leave runs timer => exact quiet
  | enter runs free queue => exact quiet
  | stop runs free queue => exact quiet
  | handle runs free queue handles => exact quiet
  | @throws target session handler rest runs free queue handles =>
      -- a successful connect whose stop task was executed is not in the queue
      obtain ⟨connects, closed⟩ := laws.handle_none.mp handles
      have place : home session = target := consistent.located.handler queue
      have executed : state.executed session ≠ 0 := by
        intro never
        have isOpen := (consistent.isOpen_iff session).mpr never
        rw [closed] at isOpen
        cases isOpen
      have ordered := sound.ordered session executed
      rw [place, queue, List.countP_eq_zero] at ordered
      exact absurd (Task.connects_handler.mpr ⟨rfl, connects⟩)
        (ordered _ List.mem_cons_self)

theorem ordered_step (keeps : state.keepsOrder client label = true)
    (session : Fin sessionCount) (executed : next.executed session ≠ 0) :
    (next.queues (home session)).countP (Task.connects client session) = 0 := by
  have ordered := sound.ordered session
  have pops : ∀ {target task rest}, state.queues target = task :: rest →
      state.executed session ≠ 0 →
      ((state.pop target rest).queues (home session)).countP
        (Task.connects client session) = 0 := by
    intro target task rest queue before
    have counted := countP_pop queue (Task.connects client session)
      (home session)
    rw [ordered before] at counted
    exact Nat.eq_zero_of_add_eq_zero_right counted
  cases step with
  | expire armed =>
      have counted := countP_post { state with armed := false }
        (Task.connects client session) first (home session) .timer
      rw [counted, if_neg (by simp [Task.connects])]
      exact ordered executed
  | @answer other event after handler runs network =>
      have counted := countP_post (state.setSession other after)
        (Task.connects client session) (home other) (home session)
        (.handler other handler)
      rw [counted, if_neg ?_]
      · exact ordered executed
      · rintro ⟨_, connects⟩
        obtain ⟨same, succeeded⟩ := Task.connects_handler.mp connects
        subst same
        have isFailed :=
          laws.network_closed network (consistent.closed executed)
        rw [laws.connects_failed isFailed] at succeeded
        cases succeeded
  | transfer runs network => exact ordered executed
  | reset runs timer => exact ordered executed
  | @post other rest runs timer =>
      have counted := countP_post { state with timer := some rest }
        (Task.connects client session) (home other) (home session)
        (.stop other)
      rw [counted, if_neg (by simp [Task.connects])]
      exact ordered executed
  | leave runs timer => exact ordered executed
  | enter runs free queue => exact pops queue executed
  | @stop target other rest runs free queue =>
      by_cases same : session = other
      · subst same
        have place : home session = target := consistent.located.stop queue
        have idle : (decide (target = first) && state.timer.isSome) =
            false := by
          by_cases isFirst : target = first
          · simp [free isFirst]
          · simp [isFirst]
        simp only [keepsOrder, queue, idle, Bool.false_or,
          beq_iff_eq] at keeps
        simpa [settle, setSession, pop, place] using keeps
      · have before : state.executed session ≠ 0 := by
          simpa [settle, setSession, pop, same] using executed
        exact pops queue before
  | handle runs free queue handles => exact pops queue executed
  | throws runs free queue handles => exact pops queue executed

theorem drained_step (awaited : state.Awaited client)
    (thread : Fin threadCount) (returned : next.returned thread = true) :
    next.drained client thread = true := by
  have drained := sound.drained thread
  have runsOn : ∀ {other : Fin threadCount}, state.returned other = false →
      state.returned thread = true → thread ≠ other := by
    intro other runs before same
    subst same
    rw [runs] at before
    cases before
  cases step with
  | expire armed =>
      have before := drained returned
      have other : thread ≠ first := by
        intro isFirst
        have unarmed := (((drained_iff client _).mp before).2.2.1 isFirst).1
        rw [armed] at unarmed
        cases unarmed
      exact drained_frame before rfl (Function.update_of_ne other _ _).symm
        (fun isFirst => absurd isFirst other) fun _ _ => rfl
  | answer runs network =>
      have other := runsOn runs returned
      exact drained_frame (drained returned) rfl
        (Function.update_of_ne other _ _).symm (fun _ => ⟨rfl, rfl⟩)
        fun _ inside =>
          (setSession_elsewhere rfl other _ _ inside).symm
  | transfer runs network =>
      exact drained_frame (drained returned) rfl rfl (fun _ => ⟨rfl, rfl⟩)
        fun _ inside =>
          (setSession_elsewhere rfl (runsOn runs returned) _ _ inside).symm
  | @reset target rest runs timer =>
      refine drained_settle ?_ ?_ returned
      · intro before
        have drainedTarget := sound.drained target before
        have noWork := ((drained_iff client _).mp drainedTarget).1
        have after : state.work target =
            Function.update state.work target false target := by
          rw [Function.update_self, noWork]
        exact drained_frame drainedTarget after rfl
          (fun isFirst => absurd (isFirst ▸ before) (by simp [runs]))
          fun _ _ => rfl
      · intro different before
        exact drained_frame (drained before)
          (Function.update_of_ne different _ _).symm rfl
          (fun isFirst => absurd isFirst (runsOn runs before)) fun _ _ => rfl
  | @post session rest runs timer =>
      have other : thread ≠ home session := by
        intro same
        subst same
        have pending : state.remaining (.stop session) ≠ 0 := by
          simp [remaining, timer]
        have waits := awaited session pending
        rw [drained returned] at waits
        cases waits
      exact drained_frame (drained returned) rfl
        (Function.update_of_ne other _ _).symm
        (fun isFirst => absurd isFirst (runsOn runs returned)) fun _ _ => rfl
  | leave runs timer =>
      refine drained_settle ?_ ?_ returned
      · intro before
        exact absurd (runs.symm.trans before) Bool.false_ne_true
      · intro different before
        exact drained_frame (drained before) rfl rfl
          (fun isFirst => absurd isFirst different) fun _ _ => rfl
  | enter runs free queue =>
      have place : first = _ := consistent.located.timer queue
      subst place
      have other := runsOn runs returned
      exact drained_frame (drained returned) rfl
        (Function.update_of_ne other _ _).symm
        (fun isFirst => absurd isFirst other) fun _ _ => rfl
  | @stop target session rest runs free queue =>
      have place : home session = target := consistent.located.stop queue
      refine drained_settle ?_ ?_ returned
      · intro before
        exact absurd (runs.symm.trans before) Bool.false_ne_true
      · intro different before
        exact drained_frame (drained before) rfl
          (Function.update_of_ne different _ _).symm (fun _ => ⟨rfl, rfl⟩)
          fun _ inside =>
            (setSession_elsewhere place different _ _ inside).symm
  | @handle target session handler rest after runs free queue handles =>
      have place : home session = target := consistent.located.handler queue
      refine drained_settle ?_ ?_ returned
      · intro before
        exact absurd (runs.symm.trans before) Bool.false_ne_true
      · intro different before
        exact drained_frame (drained before) rfl
          (Function.update_of_ne different _ _).symm (fun _ => ⟨rfl, rfl⟩)
          fun _ inside =>
            (setSession_elsewhere place different _ _ inside).symm
  | @throws target session handler rest runs free queue handles =>
      have quiet := quiet_step laws (.throws runs free queue handles)
        consistent sound target
      simp [throw] at quiet

end Step

end State

theorem orderly_snoc {client : Client Session Event Handler}
    {sessions : Fin sessionCount → Session}
    {labels : List (Label threadCount sessionCount Event)}
    {label : Label threadCount sessionCount Event}
    {state next : State threadCount sessionCount Session Handler}
    (run : (client.system sessions).Run (started sessions) labels state)
    (taken : state.step client label = some next)
    (orderly : Orderly client sessions (labels ++ [label])) :
    Orderly client sessions labels ∧ state.Awaited client ∧
      state.keepsOrder client label = true := by
  obtain ⟨each, always⟩ := orderly
  obtain ⟨eachBefore, keeps⟩ := (System.eachStep_snoc run).mp each
  have alwaysBefore := ((System.always_snoc (run.snoc taken)).mp always).1
  exact ⟨⟨eachBefore, alwaysBefore⟩, alwaysBefore.finish run, keeps⟩

/-- In an orderly run no handler throws, and who returned had nothing left to
wait for. -/
theorem sound_run {client : Client Session Event Handler}
    {effort : Session → Nat} {failed : Handler → Bool} {bound : Nat}
    (laws : client.Laws effort failed bound)
    {sessions : Fin sessionCount → Session}
    (isOpen : ∀ session, client.isOpen (sessions session) = true)
    {labels : List (Label threadCount sessionCount Event)}
    {finish : State threadCount sessionCount Session Handler}
    (run : (client.system sessions).Run (started sessions) labels finish)
    (orderly : Orderly client sessions labels) : finish.Sound client := by
  induction run with
  | refl =>
      constructor
      · exact fun thread => rfl
      · intro thread returned
        cases returned
      · exact fun session executed => rfl
  | snoc before taken induction =>
      obtain ⟨orderlyBefore, awaited, keeps⟩ :=
        orderly_snoc before taken orderly
      have sound := induction orderlyBefore
      have consistent := consistent_run laws before (started_consistent isOpen)
      have step := State.step_cases taken
      exact ⟨State.quiet_step laws step consistent sound,
        State.drained_step laws step consistent sound awaited,
        State.ordered_step laws step consistent sound keeps⟩

end Orderly

end AsioBenchmark.Shutdown
