import AsioBenchmark.Shutdown.History

/-!
# What `error_` says

The handlers of a read and of a write note an error unless the session wants to
close; the handler of a connect notes none.  A session whose connect has failed
starts no other operation.
-/

namespace AsioBenchmark.Shutdown

open AsioBenchmark.Transition

section Errors

variable {threadCount sessionCount : Nat} [NeZero threadCount]
  {Session Event Handler : Type}

def Call.completion : Call Handler → Option Handler
  | .stop => none
  | .handler completion => some completion

/-- The completion handlers among the calls. -/
def completions (calls : List (Call Handler)) : List Handler :=
  calls.filterMap Call.completion

@[simp] theorem completions_nil :
    completions ([] : List (Call Handler)) = [] := rfl

@[simp] theorem completions_stop (calls : List (Call Handler)) :
    completions (.stop :: calls) = completions calls := rfl

@[simp] theorem completions_handler (handler : Handler)
    (calls : List (Call Handler)) :
    completions (.handler handler :: calls) =
      handler :: completions calls := rfl

@[simp] theorem completions_append (calls new : List (Call Handler)) :
    completions (calls ++ new) = completions calls ++ completions new :=
  List.filterMap_append

/-- The completion handlers that were executed before the stop task. -/
def beforeStop : List (Call Handler) → List Handler
  | [] => []
  | .stop :: _ => []
  | .handler handler :: calls => handler :: beforeStop calls

def stopped (calls : List (Call Handler)) : Bool :=
  calls.any (·.completion.isNone)

theorem beforeStop_snoc_stop (calls : List (Call Handler)) :
    beforeStop (calls ++ [.stop]) = beforeStop calls := by
  induction calls with
  | nil => rfl
  | cons call calls induction =>
      cases call with
      | stop => rfl
      | handler handler => exact congrArg (handler :: ·) induction

theorem beforeStop_snoc_handler (calls : List (Call Handler))
    (handler : Handler) :
    beforeStop (calls ++ [.handler handler]) =
      beforeStop calls ++ if stopped calls = true then [] else [handler] := by
  induction calls with
  | nil => rfl
  | cons call calls induction =>
      cases call with
      | stop => simp [beforeStop, stopped, Call.completion]
      | handler other =>
          simpa [beforeStop, stopped, Call.completion] using induction

theorem stopped_snoc_handler (calls : List (Call Handler))
    (handler : Handler) :
    stopped (calls ++ [.handler handler]) = stopped calls := by
  simp [stopped, Call.completion]

theorem beforeStop_subset (calls : List (Call Handler)) :
    beforeStop calls ⊆ completions calls := by
  induction calls with
  | nil => exact List.Subset.refl _
  | cons call calls induction =>
      cases call with
      | stop => exact List.nil_subset _
      | handler handler => exact List.cons_subset_cons handler induction

/-- The two flags of a session, the handlers of failed operations and those of
a connect.  A session is `Connecting` until its connect has ended, and
`Connected` when no connect is outstanding. -/
structure Flags (Session Handler : Type) where
  error : Session → Bool
  wants : Session → Bool
  failed : Handler → Bool
  answers : Handler → Bool
  Connecting : Session → Prop
  Connected : Session → Prop

namespace Flags

variable (flags : Flags Session Handler)

/-- The handler of a connect that has failed. -/
def refused (handler : Handler) : Bool :=
  flags.failed handler && flags.answers handler

/-- The handler of another operation that has failed. -/
def broken (handler : Handler) : Bool :=
  flags.failed handler && !flags.answers handler

end Flags

/-- How the sessions of a client note errors. -/
structure Client.Notes (client : Client Session Event Handler)
    (flags : Flags Session Handler) : Prop where
  network_flags : ∀ {session event next answer},
    client.network session event = some (next, answer) →
    flags.wants next = flags.wants session ∧
      flags.error next = flags.error session
  handle_flags : ∀ {session handler next},
    client.handle handler session = some next →
    flags.wants next = flags.wants session ∧
      flags.error next =
        (flags.error session ||
          (flags.broken handler && !flags.wants session))
  stop_flags : ∀ session,
    flags.wants (client.stop session) = true ∧
      flags.error (client.stop session) = flags.error session
  connecting_network : ∀ {session event next answer},
    client.network session event = some (next, answer) →
    flags.Connecting session →
    ∃ handler, answer = some handler ∧ flags.answers handler = true ∧
      client.idle next = true
  connected_network : ∀ {session event next answer},
    client.network session event = some (next, answer) →
    flags.Connected session →
    flags.Connected next ∧ ∀ handler, answer = some handler →
      flags.answers handler = false
  handle_connected : ∀ {session handler next},
    client.handle handler session = some next →
    flags.Connected session → flags.Connected next
  handle_refused : ∀ {session handler next},
    client.handle handler session = some next →
    flags.refused handler = true → next = session
  idle_connected : ∀ {session}, client.idle session = true →
    flags.Connected session
  stop_connecting : ∀ {session}, flags.Connecting session →
    flags.Connecting (client.stop session)
  stop_connected : ∀ {session}, flags.Connected session →
    flags.Connected (client.stop session)

/-- How far a session is, with the completion handlers that wait and that ran:
the connect is outstanding, its handler waits, it has failed, or it has not. -/
inductive Phase (client : Client Session Event Handler)
    (flags : Flags Session Handler) (session : Session) :
    List Handler → List Handler → Prop where
  | connecting (connecting : flags.Connecting session) :
      Phase client flags session [] []
  | answered {handler : Handler} (idle : client.idle session = true)
      (answer : flags.answers handler = true) :
      Phase client flags session [handler] []
  | refused {handler : Handler} (idle : client.idle session = true)
      (refused : flags.refused handler = true) :
      Phase client flags session [] [handler]
  | connected {waiting ran : List Handler}
      (connected : flags.Connected session)
      (others : ∀ handler ∈ waiting, flags.answers handler = false)
      (established : ∀ handler ∈ ran, flags.refused handler = false) :
      Phase client flags session waiting ran

/-- What holds of a session, the calls that wait for it and those that were
executed for it. -/
structure Noted (client : Client Session Event Handler)
    (flags : Flags Session Handler) (place : Session × List (Call Handler))
    (past : List (Call Handler)) : Prop where
  wants : flags.wants place.1 = stopped past
  error : flags.error place.1 = (beforeStop past).any flags.broken
  phase : Phase client flags place.1 (completions place.2) (completions past)

section Notes

variable {client : Client Session Event Handler}
  {flags : Flags Session Handler} {effort : Session → Nat} {bound : Nat}
  (laws : client.Laws effort flags.failed bound)

include laws

/-- Nothing happens on the socket of a session without an operation. -/
theorem network_idle {session next : Session} {event : Event}
    {answer : Option Handler} (idle : client.idle session = true)
    (network : client.network session event = some (next, answer)) : False := by
  have none := (laws.idle_iff session).mp idle
  have less := laws.network_effort network
  omega

theorem stop_idle {session : Session} (idle : client.idle session = true) :
    client.idle (client.stop session) = true := by
  have none := (laws.idle_iff session).mp idle
  have less := laws.stop_effort session
  exact (laws.idle_iff _).mpr (by omega)

/-- The handler of a failed operation does not throw. -/
theorem handle_defined {session : Session} {handler : Handler}
    (throws : client.handle handler session = none) :
    flags.failed handler = false := by
  rw [Bool.eq_false_iff]
  intro failed
  have connects := (laws.handle_none.mp throws).1
  rw [laws.connects_failed failed] at connects
  cases connects

omit laws in
private theorem connected_executed {session : Session} {handler : Handler}
    {waiting ran : List Handler} (connected : flags.Connected session)
    (others : ∀ waits ∈ waiting, flags.answers waits = false)
    (established : ∀ executed ∈ ran, flags.refused executed = false)
    (fine : flags.refused handler = false) :
    Phase client flags session waiting (ran ++ [handler]) := by
  refine .connected connected others ?_
  intro executed member
  rcases List.mem_append.mp member with old | new
  · exact established executed old
  · rw [List.mem_singleton.mp new]
    exact fine

theorem Phase.throws {session : Session} {handler : Handler}
    {waiting ran : List Handler} (notes : client.Notes flags)
    (phase : Phase client flags session (handler :: waiting) ran)
    (handles : client.handle handler session = none) :
    Phase client flags session waiting (ran ++ [handler]) := by
  have fine : flags.refused handler = false := by
    rw [Flags.refused, handle_defined laws handles, Bool.false_and]
  cases phase with
  | answered idle answer =>
      exact connected_executed (notes.idle_connected idle) (by simp) (by simp)
        fine
  | connected connected others established =>
      exact connected_executed connected
        (fun waits member => others waits (List.mem_cons_of_mem handler member))
        established fine

theorem Phase.stop {session : Session} {waiting ran : List Handler}
    (notes : client.Notes flags)
    (phase : Phase client flags session waiting ran) :
    Phase client flags (client.stop session) waiting ran := by
  cases phase with
  | connecting connecting =>
      exact .connecting (notes.stop_connecting connecting)
  | answered idle answer => exact .answered (stop_idle laws idle) answer
  | refused idle refused => exact .refused (stop_idle laws idle) refused
  | connected connected others established =>
      exact .connected (notes.stop_connected connected) others established

theorem Phase.network {session next : Session} {event : Event}
    {answer : Option Handler} {waiting ran : List Handler}
    (notes : client.Notes flags)
    (phase : Phase client flags session waiting ran)
    (network : client.network session event = some (next, answer)) :
    Phase client flags next (waiting ++ answer.toList) ran := by
  cases phase with
  | connecting connecting =>
      obtain ⟨_, same, answers, idle⟩ :=
        notes.connecting_network network connecting
      cases same
      exact .answered idle answers
  | answered idle answer => exact (network_idle laws idle network).elim
  | refused idle refused => exact (network_idle laws idle network).elim
  | connected connected others established =>
      obtain ⟨still, other⟩ := notes.connected_network network connected
      refine .connected still ?_ established
      intro waits member
      rcases List.mem_append.mp member with old | new
      · exact others waits old
      · exact other waits (Option.mem_toList.mp new)

omit laws in
theorem Phase.handle {session next : Session} {handler : Handler}
    {waiting ran : List Handler} (notes : client.Notes flags)
    (phase : Phase client flags session (handler :: waiting) ran)
    (handles : client.handle handler session = some next) :
    Phase client flags next waiting (ran ++ [handler]) := by
  cases phase with
  | answered idle answer =>
      cases refused : flags.refused handler with
      | true =>
          rw [notes.handle_refused handles refused]
          exact .refused idle refused
      | false =>
          exact connected_executed (notes.handle_connected handles
            (notes.idle_connected idle)) (by simp) (by simp) refused
  | connected connected others established =>
      have fine : flags.refused handler = false := by
        rw [Flags.refused, others handler List.mem_cons_self, Bool.and_false]
      exact connected_executed (notes.handle_connected handles connected)
        (fun waits member => others waits (List.mem_cons_of_mem handler member))
        established fine

/-- What a session sees of a step moves it from phase to phase. -/
theorem phase_seen (notes : client.Notes flags)
    {before after : Session × List (Call Handler)}
    {past calls : List (Call Handler)}
    (phase : Phase client flags before.1 (completions before.2)
      (completions past))
    (seen : Seen client before after calls) :
    Phase client flags after.1 (completions after.2)
      (completions (past ++ calls)) := by
  cases seen with
  | nothing place => simpa using phase
  | posted session waiting => simpa using phase
  | answer waiting network => simpa using phase.network laws notes network
  | transfer waiting network => simpa using phase.network laws notes network
  | stop session waiting => simpa using phase.stop laws notes
  | @handle session next handler waiting handles =>
      have executed : Phase client flags next (completions waiting)
          (completions past ++ [handler]) := phase.handle notes handles
      simpa using executed
  | @throws session handler waiting handles =>
      have executed : Phase client flags session (completions waiting)
          (completions past ++ [handler]) := phase.throws laws notes handles
      simpa using executed

theorem noted_seen (notes : client.Notes flags)
    {before after : Session × List (Call Handler)}
    {past calls : List (Call Handler)}
    (noted : Noted client flags before past)
    (seen : Seen client before after calls) :
    Noted client flags after (past ++ calls) := by
  have phase := phase_seen laws notes noted.phase seen
  obtain ⟨wants, error, _⟩ := noted
  cases seen with
  | nothing place => exact ⟨by simpa using wants, by simpa using error, phase⟩
  | posted session waiting =>
      exact ⟨by simpa using wants, by simpa using error, phase⟩
  | answer waiting network =>
      obtain ⟨sameWants, sameError⟩ := notes.network_flags network
      refine ⟨?_, ?_, phase⟩
      · rw [List.append_nil, sameWants, wants]
      · rw [List.append_nil, sameError, error]
  | transfer waiting network =>
      obtain ⟨sameWants, sameError⟩ := notes.network_flags network
      refine ⟨?_, ?_, phase⟩
      · rw [List.append_nil, sameWants, wants]
      · rw [List.append_nil, sameError, error]
  | stop session waiting =>
      obtain ⟨wantsNow, sameError⟩ := notes.stop_flags session
      refine ⟨?_, ?_, phase⟩
      · simp [wantsNow, stopped, Call.completion]
      · rw [sameError, error, beforeStop_snoc_stop]
  | @handle session next handler waiting handles =>
      obtain ⟨sameWants, noted⟩ := notes.handle_flags handles
      refine ⟨?_, ?_, phase⟩
      · rw [sameWants, wants, stopped_snoc_handler]
      · rw [noted, error, wants, beforeStop_snoc_handler, List.any_append]
        cases stopped past <;> simp
  | @throws session handler waiting handles =>
      have fine : flags.broken handler = false := by
        rw [Flags.broken, handle_defined laws handles, Bool.false_and]
      refine ⟨?_, ?_, phase⟩
      · rw [wants, stopped_snoc_handler]
      · rw [error, beforeStop_snoc_handler, List.any_append]
        cases stopped past <;> simp [fine]

omit laws in
/-- `error_` tells the failed operations before the stop task exactly when the
connect was not one of them. -/
theorem Noted.error_iff {place : Session × List (Call Handler)}
    {past : List (Call Handler)} (noted : Noted client flags place past) :
    flags.error place.1 = (beforeStop past).any flags.failed ↔
      (beforeStop past).any flags.refused = false := by
  rw [noted.error]
  cases refused : (beforeStop past).any flags.refused with
  | false =>
      have same : (beforeStop past).any flags.broken =
          (beforeStop past).any flags.failed := by
        rw [Bool.eq_iff_iff, List.any_eq_true, List.any_eq_true]
        constructor
        · rintro ⟨handler, member, broken⟩
          exact ⟨handler, member, (Bool.and_eq_true_iff.mp broken).1⟩
        · rintro ⟨handler, member, failed⟩
          have others := List.any_eq_false.mp refused handler member
          refine ⟨handler, member, ?_⟩
          simpa [Flags.refused, Flags.broken, failed] using others
      simp [same]
  | true =>
      obtain ⟨handler, member, isRefused⟩ := List.any_eq_true.mp refused
      have ran := beforeStop_subset past member
      have only : ∀ other ∈ completions past, other = handler := by
        have phase := noted.phase
        generalize completions place.2 = waiting at phase
        generalize completions past = executed at phase ran
        cases phase with
        | connecting connecting => cases ran
        | answered idle answer => cases ran
        | refused idle refused =>
            intro other among
            rw [List.mem_singleton.mp among, List.mem_singleton.mp ran]
        | connected connected others established =>
            rw [established handler ran] at isRefused
            cases isRefused
      have failed : (beforeStop past).any flags.failed = true :=
        List.any_eq_true.mpr
          ⟨handler, member, (Bool.and_eq_true_iff.mp isRefused).1⟩
      have quiet : (beforeStop past).any flags.broken = false := by
        rw [List.any_eq_false]
        intro other among
        rw [only other (beforeStop_subset past among)]
        have answers := (Bool.and_eq_true_iff.mp isRefused).2
        simp [Flags.broken, answers]
      simp [failed, quiet]

end Notes

/-- The handler of a failed operation was executed for the session before its
stop task. -/
def failedBeforeStop (fails : Handler → Bool)
    (events : List (Executed sessionCount Handler))
    (session : Fin sessionCount) : Bool :=
  (beforeStop (history session events)).any fails

/-- In every run, and for each session: `error_` tells whether an operation has
failed before the stop task, exactly when no connect has. -/
theorem error_run_iff {client : Client Session Event Handler}
    {flags : Flags Session Handler} {effort : Session → Nat} {bound : Nat}
    (laws : client.Laws effort flags.failed bound)
    (notes : client.Notes flags) {sessions : Fin sessionCount → Session}
    (connecting : ∀ session, flags.Connecting (sessions session))
    (clear : ∀ session, flags.wants (sessions session) = false ∧
      flags.error (sessions session) = false)
    {labels : List (Label threadCount sessionCount Event)}
    {state : State threadCount sessionCount Session Handler}
    {events : List (Executed sessionCount Handler)}
    (run : (client.recorded sessions).Run (started sessions, []) labels
      (state, events)) (session : Fin sessionCount) :
    flags.error (state.sessions session) =
        failedBeforeStop flags.failed events session ↔
      failedBeforeStop flags.refused events session = false := by
  have initial : ∀ session, Noted client flags (sessions session, []) [] :=
    fun session => ⟨(clear session).1, (clear session).2,
      .connecting (connecting session)⟩
  have noted := (seen_run (Noted client flags) (noted_seen laws notes) initial
    run).2 session
  exact noted.error_iff

end Errors

end AsioBenchmark.Shutdown
