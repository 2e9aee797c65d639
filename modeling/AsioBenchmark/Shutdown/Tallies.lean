import AsioBenchmark.Report.Stats
import AsioBenchmark.Shutdown.Errors
import Mathlib.Algebra.BigOperators.Fin

/-!
# What the sessions count

The counters of a session are written by its handlers only.  What they hold is
what the executed handlers have added, and the totals that a client prints are
those of all executed handlers.
-/

namespace AsioBenchmark.Shutdown

open AsioBenchmark.Report AsioBenchmark.Transition

/-! ## Tallies -/

section Tallies

variable {Handler : Type} {sessionCount : Nat}

/-- The weight of the completion handlers among the calls. -/
def tally (weight : Handler → Nat) (calls : List (Call Handler)) : Nat :=
  ((completions calls).map weight).sum

variable (weight : Handler → Nat) (handler : Handler)
  (calls new : List (Call Handler))

@[simp] theorem tally_nil : tally weight [] = 0 := rfl

@[simp] theorem tally_append :
    tally weight (calls ++ new) = tally weight calls + tally weight new := by
  simp [tally]

@[simp] theorem tally_stop :
    tally weight (.stop :: calls) = tally weight calls := rfl

@[simp] theorem tally_handler :
    tally weight (.handler handler :: calls) =
      weight handler + tally weight calls := by
  simp [tally]

/-- The tally of everything that was executed. -/
def executedTally (events : List (Executed sessionCount Handler)) : Nat :=
  tally weight (events.map Prod.snd)

/-- It is the sum of the tallies of the sessions. -/
theorem total_history (events : List (Executed sessionCount Handler)) :
    total (tally weight) (fun session : Fin sessionCount =>
      history session events) = executedTally weight events := by
  induction events with
  | nil => simp [total, executedTally, history]
  | cons event events induction =>
      obtain ⟨session, call⟩ := event
      have updated : (fun other : Fin sessionCount =>
          history other ((session, call) :: events)) =
            Function.update (fun other => history other events) session
              (call :: history session events) := by
        funext other
        by_cases same : other = session
        · subst same
          simp [history]
        · rw [Function.update_of_ne same]
          simp [history, Ne.symm same]
      have changed := total_update (tally weight)
        (fun other => history other events) session
        (call :: history session events)
      have split : ∀ rest : List (Call Handler), tally weight (call :: rest) =
          tally weight [call] + tally weight rest := fun rest =>
        tally_append weight [call] rest
      rw [updated]
      simp only [executedTally, List.map_cons] at induction ⊢
      rw [split] at changed ⊢
      omega

end Tallies

/-! ## Counters -/

section Counts

variable {threadCount sessionCount : Nat} [NeZero threadCount]
  {Session Event Handler : Type}

/-- What a handler adds to each counter. -/
structure Client.Counts (client : Client Session Event Handler)
    (counters : Session → Counters) (adds : Counter → Handler → Nat) :
    Prop where
  network_counters : ∀ {session event next answer} (counter : Counter),
    client.network session event = some (next, answer) →
    (counters next).get counter = (counters session).get counter
  handle_counters : ∀ {session handler next} (counter : Counter),
    client.handle handler session = some next →
    (counters next).get counter =
      (counters session).get counter + UInt64.ofNat (adds counter handler)
  throws_counters : ∀ {session handler} (counter : Counter),
    client.handle handler session = none → adds counter handler = 0
  stop_counters : ∀ session (counter : Counter),
    (counters (client.stop session)).get counter =
      (counters session).get counter

variable {client : Client Session Event Handler}
  {counters : Session → Counters} {adds : Counter → Handler → Nat}

/-- The counters of a session hold the tallies of its executed handlers. -/
theorem counted_seen (counts : client.Counts counters adds)
    {before after : Session × List (Call Handler)}
    {past calls : List (Call Handler)} (counter : Counter)
    (counted : (counters before.1).get counter =
      UInt64.ofNat (tally (adds counter) past))
    (seen : Seen client before after calls) :
    (counters after.1).get counter =
      UInt64.ofNat (tally (adds counter) (past ++ calls)) := by
  cases seen with
  | nothing place => simpa using counted
  | posted session waiting => simpa using counted
  | answer waiting network =>
      rw [counts.network_counters counter network]
      simpa using counted
  | transfer waiting network =>
      rw [counts.network_counters counter network]
      simpa using counted
  | stop session waiting =>
      rw [counts.stop_counters session counter]
      simpa using counted
  | handle waiting handles =>
      rw [counts.handle_counters counter handles, counted, tally_append,
        UInt64.ofNat_add]
      simp
  | throws waiting handles =>
      have nothing := counts.throws_counters counter handles
      simpa [nothing] using counted

variable {sessions : Fin sessionCount → Session}
  {labels : List (Label threadCount sessionCount Event)}
  {state : State threadCount sessionCount Session Handler}
  {events : List (Executed sessionCount Handler)}

/-- What a client prints are the tallies of everything that was executed. -/
theorem report_run (counts : client.Counts counters adds)
    (fresh : ∀ session counter,
      (counters (sessions session)).get counter = 0)
    (run : (client.recorded sessions).Run (started sessions, []) labels
      (state, events)) (timeout : Int) (counter : Counter) :
    (collect timeout ((List.finRange sessionCount).map fun session =>
      counters (state.sessions session))).get counter =
        UInt64.ofNat (executedTally (adds counter) events) := by
  have each := (seen_run (fun place past => (counters place.1).get counter =
      UInt64.ofNat (tally (adds counter) past))
    (fun counted seen => counted_seen counts counter counted seen)
    (fun session => by simp [fresh session counter]) run).2
  rw [collect_get timeout (List.finRange sessionCount)
    (fun session => counters (state.sessions session)) counter
    (fun session => tally (adds counter) (history session events))
    fun session _ => each session]
  apply congrArg UInt64.ofNat
  rw [← total_history, total, Fin.sum_univ_def]

/-- A bound between the tallies of each session bounds those of all. -/
theorem executedTally_le {less more : Handler → Nat} {slack : Nat}
    (each : ∀ session : Fin sessionCount,
      tally less (history session events) ≤
        tally more (history session events) + slack) :
    executedTally less events ≤
      executedTally more events + sessionCount * slack := by
  rw [← total_history, ← total_history]
  calc
    total (tally less) (fun session : Fin sessionCount =>
        history session events) ≤
      ∑ session : Fin sessionCount,
        (tally more (history session events) + slack) :=
          Finset.sum_le_sum fun session _ => each session
    _ = _ := by
      rw [Finset.sum_add_distrib, Finset.sum_const, Finset.card_univ,
        Fintype.card_fin]
      rfl

theorem executedTally_eq_mul {amounts items : Handler → Nat} {factor : Nat}
    (each : ∀ session : Fin sessionCount,
      tally amounts (history session events) =
        factor * tally items (history session events)) :
    executedTally amounts events = factor * executedTally items events := by
  rw [← total_history, ← total_history, total, total, Finset.mul_sum]
  exact Finset.sum_congr rfl fun session _ => each session

end Counts

end AsioBenchmark.Shutdown
