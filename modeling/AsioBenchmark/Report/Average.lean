import AsioBenchmark.Framed.Session
import AsioBenchmark.Report.Stats

/-!
# The divisors of the reports

The throughput of `client1` and `client2` is divided by
`timeout_ * 1024 * 1024`, the time of `client3` by the number of finished
sessions.
-/

namespace AsioBenchmark.Report

/-! ## `client3` -/

/-- The variables of `~client`. -/
structure Outcomes where
  finishedCount : UInt32
  errorCount : UInt32
  totalTime : UInt64
deriving DecidableEq

/-- The body of the loop of `~client`. -/
def Outcomes.add (outcomes : Outcomes)
    (session : Framed.Client3.ClientSession) (useTime : UInt64) : Outcomes :=
  if session.data.finished = true then
    { outcomes with
      finishedCount := outcomes.finishedCount + 1
      totalTime := outcomes.totalTime + useTime }
  else { outcomes with errorCount := outcomes.errorCount + 1 }

/-- The loop, over the sessions with what their `use_time()` returns. -/
def outcomes (sessions : List (Framed.Client3.ClientSession × UInt64)) :
    Outcomes :=
  sessions.foldl (fun outcomes (session, useTime) =>
    outcomes.add session useTime)
    { finishedCount := 0, errorCount := 0, totalTime := 0 }

/-- The average that is converted to `uint64_t`.  Nothing can be said about the
conversion of a quotient by zero. -/
def Outcomes.average (outcomes : Outcomes) : Option Quotient :=
  if outcomes.finishedCount = 0 then none
  else
    some
      { numerator := outcomes.totalTime
        divisor := outcomes.finishedCount.toNat }

section Outcomes

variable (sessions : List (Framed.Client3.ClientSession × UInt64))

theorem Outcomes.add_counts (outcomes : Outcomes)
    (session : Framed.Client3.ClientSession) (useTime : UInt64) :
    ((outcomes.add session useTime).errorCount,
        (outcomes.add session useTime).finishedCount) =
      if session.data.finished = true then
        (outcomes.errorCount, outcomes.finishedCount + 1)
      else (outcomes.errorCount + 1, outcomes.finishedCount) := by
  unfold add
  split <;> rfl

theorem outcomes_counts :
    ((outcomes sessions).errorCount, (outcomes sessions).finishedCount) =
      Framed.Client3.report (sessions.map Prod.fst) := by
  have counts : ∀ before : Outcomes,
      let total := sessions.foldl (fun outcomes (session, useTime) =>
        outcomes.add session useTime) before
      (total.errorCount, total.finishedCount) =
        (sessions.map Prod.fst).foldl (fun counts session =>
          if session.data.finished then (counts.1, counts.2 + 1)
          else (counts.1 + 1, counts.2))
          (before.errorCount, before.finishedCount) := by
    induction sessions with
    | nil => exact fun before => rfl
    | cons entry sessions induction =>
        intro before
        obtain ⟨session, useTime⟩ := entry
        have added := before.add_counts session useTime
        rw [List.map_cons, List.foldl_cons, List.foldl_cons, ← added]
        exact induction (before.add session useTime)
  exact counts _

theorem report_finished (sessions : List Framed.Client3.ClientSession) :
    (Framed.Client3.report sessions).2 =
      UInt32.ofNat (sessions.countP (·.data.finished)) := by
  have counts : ∀ before : UInt32 × UInt32,
      (sessions.foldl (fun counts session =>
        if session.data.finished then (counts.1, counts.2 + 1)
        else (counts.1 + 1, counts.2)) before).2 =
      before.2 + UInt32.ofNat (sessions.countP (·.data.finished)) := by
    induction sessions with
    | nil => exact fun before => (UInt32.add_zero _).symm
    | cons session sessions induction =>
        intro before
        rw [List.foldl_cons, induction, List.countP_cons]
        cases session.data.finished with
        | true =>
            rw [if_pos rfl, if_pos rfl, UInt32.ofNat_add,
              UInt32.add_comm (UInt32.ofNat _), ← UInt32.add_assoc]
            rfl
        | false => rfl
  rw [Framed.Client3.report, counts]
  exact UInt32.zero_add _

/-- `finished_count` is zero for any multiple of 2^32 finished sessions. -/
theorem finishedCount_eq_zero_iff :
    (outcomes sessions).finishedCount = 0 ↔
      4294967296 ∣ sessions.countP (·.1.data.finished) := by
  have counted : (outcomes sessions).finishedCount =
      UInt32.ofNat (sessions.countP (·.1.data.finished)) := by
    calc
      _ = (Framed.Client3.report (sessions.map Prod.fst)).2 :=
        congrArg Prod.snd (outcomes_counts sessions)
      _ = _ := by
        rw [report_finished, List.countP_map]
        rfl
  rw [counted, ← UInt32.toNat_inj, UInt32.toNat_ofNat',
    Nat.dvd_iff_mod_eq_zero]
  rfl

theorem average_defined_iff {outcomes : Outcomes} :
    (∃ average, outcomes.average = some average ∧ average.divisor ≠ 0) ↔
      outcomes.finishedCount ≠ 0 := by
  unfold Outcomes.average
  constructor
  · rintro ⟨average, defined, _⟩ none
    rw [if_pos none] at defined
    cases defined
  · intro some
    refine ⟨_, if_neg some, ?_⟩
    intro zero
    exact some (UInt32.toNat_inj.mp (Int.ofNat.inj zero))

end Outcomes

/-! ## `client1` and `client2` -/

theorem mebibytes_eq_some_iff {stats : Stats} (positive : 1 ≤ stats.timeout)
    {divisor : Int} :
    stats.mebibytes = some divisor ↔
      divisor = stats.timeout * 1048576 ∧ stats.timeout ≤ 2047 := by
  simp only [Stats.mebibytes, Option.bind_eq_some_iff, mulInt_eq_some_iff,
    intMin, intMax]
  constructor
  · rintro ⟨kibibytes, ⟨rfl, _, _⟩, rfl, _, _⟩
    omega
  · rintro ⟨rfl, small⟩
    exact ⟨stats.timeout * 1024, by omega, by omega⟩

/-- The reports of `client1` and `client2` are printed with the right divisors
exactly up to a timeout of 2047 seconds. -/
theorem print_divisors_iff {stats : Stats} (positive : 1 ≤ stats.timeout) :
    (∃ printed, stats.print = some printed ∧
      printed.readThroughput.divisor = stats.timeout * 1048576 ∧
      printed.writeThroughput.divisor = stats.timeout * 1048576) ↔
      stats.timeout ≤ 2047 := by
  constructor
  · rintro ⟨printed, prints, _⟩
    obtain ⟨divisor, defined, _⟩ := Option.bind_eq_some_iff.mp prints
    exact ((mebibytes_eq_some_iff positive).mp defined).2
  · intro small
    have defined := (mebibytes_eq_some_iff positive).mpr ⟨rfl, small⟩
    simp [Stats.print, defined]

/-- For every `int` timeout from one second on and all counters of the sessions
of `client1` or `client2`, and for all sessions of `client3`: the divisors are
defined and right, and the average is not divided by zero, if and only if the
timeout is at most 2047 seconds and the number of finished sessions no multiple
of 2^32, as zero is. -/
theorem reports_defined_iff (timeout : Int) (positive : 1 ≤ timeout)
    (counters : List Counters)
    (sessions : List (Framed.Client3.ClientSession × UInt64)) :
    ((∃ printed, (collect timeout counters).print = some printed ∧
        printed.readThroughput.divisor = timeout * 1048576 ∧
        printed.writeThroughput.divisor = timeout * 1048576) ∧
      ∃ average, (outcomes sessions).average = some average ∧
        average.divisor ≠ 0) ↔
      timeout ≤ 2047 ∧
        ¬ 4294967296 ∣ sessions.countP (·.1.data.finished) := by
  have same := collect_timeout timeout counters
  have prints := @print_divisors_iff (collect timeout counters)
    (same.symm ▸ positive)
  rw [same] at prints
  rw [prints, average_defined_iff, Ne, finishedCount_eq_zero_iff]

/-- The longest timeout, and one of two sessions has finished. -/
theorem reports_defined_longest :
    ∃ printed, (collect 2047 []).print = some printed ∧
      printed.readThroughput.divisor = 2146435072 := by
  let finished : Framed.Client3.ClientSession :=
    { Framed.Client3.connecting 1 (.filled _ 0) with
      data := { totalCount := 1, bodyLen := 101, finished := true } }
  have sessions : 2047 ≤ (2047 : Int) ∧ ¬ 4294967296 ∣
      [(finished, (5 : UInt64)),
        (Framed.Client3.connecting 1 (.filled _ 0), 0)].countP
          (·.1.data.finished) := by
    decide
  obtain ⟨⟨printed, prints, read, _⟩, _⟩ :=
    (reports_defined_iff 2047 (by decide) [] _).mpr sessions
  exact ⟨printed, prints, read⟩

/-- With a timeout of 2048 seconds the product overflows, and without a finished
session the average is divided by zero. -/
theorem reports_undefined :
    (¬ ∃ printed, (collect 2048 []).print = some printed ∧
      printed.readThroughput.divisor = 2048 * 1048576 ∧
      printed.writeThroughput.divisor = 2048 * 1048576) ∧
    ¬ ∃ average,
      (outcomes [(Framed.Client3.connecting 1 (.filled _ 0), 0)]).average =
        some average ∧ average.divisor ≠ 0 := by
  constructor
  · rintro ⟨printed, prints, _⟩
    cases prints
  · rintro ⟨average, defined, _⟩
    cases defined

end AsioBenchmark.Report
