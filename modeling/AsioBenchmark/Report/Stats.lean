import AsioBenchmark.Block.Session
import AsioBenchmark.Pooled.Session
import Mathlib.Algebra.GroupWithZero.Nat

/-!
# The statistics of `client1` and `client2`

The destructor of a client adds the counters of all its sessions and prints the
totals.  A quotient of two floating-point numbers is kept as its numerator and
its divisor.
-/

namespace AsioBenchmark.Report

/-! ## Arithmetic of `int` -/

def intMin : Int := -2147483648

def intMax : Int := 2147483647

/-- The product of two `int`; an overflow is undefined. -/
def mulInt (left right : Int) : Option Int :=
  if intMin ≤ left * right ∧ left * right ≤ intMax then some (left * right)
  else none

theorem mulInt_eq_some_iff {left right product : Int} :
    mulInt left right = some product ↔
      product = left * right ∧ intMin ≤ product ∧ product ≤ intMax := by
  unfold mulInt
  constructor
  · intro defined
    obtain ⟨inside, same⟩ := Option.ite_none_right_eq_some.mp defined
    cases same
    exact ⟨rfl, inside⟩
  · rintro ⟨rfl, inside⟩
    exact if_pos inside

/-! ## `stats` -/

/-- What the accessors of a session return. -/
structure Counters where
  error : Bool
  countWritten : UInt64
  countRead : UInt64
  bytesWritten : UInt64
  bytesRead : UInt64
deriving DecidableEq

structure Stats where
  totalErrorCount : UInt64
  totalBytesWritten : UInt64
  totalBytesRead : UInt64
  totalCountWritten : UInt64
  totalCountRead : UInt64
  timeout : Int
deriving DecidableEq

/-- The two operands of a division of floating-point numbers. -/
structure Quotient where
  numerator : UInt64
  divisor : Int
deriving DecidableEq

/-- The lines that `print` writes. -/
structure Printed where
  countError : UInt64
  countWritten : UInt64
  countRead : UInt64
  bytesWritten : UInt64
  bytesRead : UInt64
  readThroughput : Quotient
  writeThroughput : Quotient
deriving DecidableEq

namespace Stats

def construct (timeout : Int) : Stats :=
  { totalErrorCount := 0
    totalBytesWritten := 0
    totalBytesRead := 0
    totalCountWritten := 0
    totalCountRead := 0
    timeout := timeout }

def add (stats : Stats) (error : Bool)
    (countWritten countRead bytesWritten bytesRead : UInt64) : Stats :=
  { stats with
    totalErrorCount := stats.totalErrorCount + if error = true then 1 else 0
    totalCountWritten := stats.totalCountWritten + countWritten
    totalCountRead := stats.totalCountRead + countRead
    totalBytesWritten := stats.totalBytesWritten + bytesWritten
    totalBytesRead := stats.totalBytesRead + bytesRead }

/-- `timeout_ * 1024 * 1024`. -/
def mebibytes (stats : Stats) : Option Int :=
  (mulInt stats.timeout 1024).bind fun kibibytes => mulInt kibibytes 1024

def print (stats : Stats) : Option Printed :=
  stats.mebibytes.bind fun readDivisor =>
    stats.mebibytes.map fun writeDivisor =>
      { countError := stats.totalErrorCount
        countWritten := stats.totalCountWritten
        countRead := stats.totalCountRead
        bytesWritten := stats.totalBytesWritten
        bytesRead := stats.totalBytesRead
        readThroughput := ⟨stats.totalBytesRead, readDivisor⟩
        writeThroughput := ⟨stats.totalBytesWritten, writeDivisor⟩ }

end Stats

/-- The loop of `~client`. -/
def collect (timeout : Int) (sessions : List Counters) : Stats :=
  sessions.foldl (fun stats session =>
    stats.add session.error session.countWritten session.countRead
      session.bytesWritten session.bytesRead) (Stats.construct timeout)

section Collect

private theorem foldl_add (sessions : List Counters) (stats : Stats) :
    let total := sessions.foldl (fun stats session =>
      stats.add session.error session.countWritten session.countRead
        session.bytesWritten session.bytesRead) stats
    total.totalErrorCount = stats.totalErrorCount +
        UInt64.ofNat (sessions.countP Counters.error) ∧
      total.timeout = stats.timeout := by
  induction sessions generalizing stats with
  | nil => simp
  | cons session sessions induction =>
      obtain ⟨errors, timeout⟩ := induction (stats.add session.error
        session.countWritten session.countRead session.bytesWritten
        session.bytesRead)
      refine ⟨?_, timeout⟩
      rw [List.foldl_cons, errors, List.countP_cons, UInt64.ofNat_add,
        UInt64.add_comm (UInt64.ofNat _), ← UInt64.add_assoc]
      simp only [Stats.add]
      split <;> rfl

/-- `total_error_count_` counts the sessions whose `error_` is set. -/
theorem collect_totalErrorCount (timeout : Int) (sessions : List Counters) :
    (collect timeout sessions).totalErrorCount =
      UInt64.ofNat (sessions.countP Counters.error) := by
  rw [collect, (foldl_add sessions (Stats.construct timeout)).1]
  exact UInt64.zero_add _

/-- The four counters that `stats` adds up. -/
inductive Counter where
  | countWritten
  | countRead
  | bytesWritten
  | bytesRead
deriving DecidableEq

def Counters.get (counters : Counters) : Counter → UInt64
  | .countWritten => counters.countWritten
  | .countRead => counters.countRead
  | .bytesWritten => counters.bytesWritten
  | .bytesRead => counters.bytesRead

def Stats.get (stats : Stats) : Counter → UInt64
  | .countWritten => stats.totalCountWritten
  | .countRead => stats.totalCountRead
  | .bytesWritten => stats.totalBytesWritten
  | .bytesRead => stats.totalBytesRead

theorem Stats.get_add (stats : Stats) (counters : Counters)
    (counter : Counter) :
    (stats.add counters.error counters.countWritten counters.countRead
        counters.bytesWritten counters.bytesRead).get counter =
      stats.get counter + counters.get counter := by
  cases counter with
  | countWritten => rfl
  | countRead => rfl
  | bytesWritten => rfl
  | bytesRead => rfl

private theorem foldl_get {α : Type} (sessions : List α)
    (counters : α → Counters) (counter : Counter) (amount : α → Nat)
    (counts : ∀ session ∈ sessions,
      (counters session).get counter = UInt64.ofNat (amount session))
    (stats : Stats) :
    ((sessions.map counters).foldl (fun stats session =>
      stats.add session.error session.countWritten session.countRead
        session.bytesWritten session.bytesRead) stats).get counter =
      stats.get counter + UInt64.ofNat ((sessions.map amount).sum) := by
  induction sessions generalizing stats with
  | nil => simp
  | cons session sessions induction =>
      have others := induction fun other member =>
        counts other (List.mem_cons_of_mem session member)
      have first := counts session List.mem_cons_self
      rw [List.map_cons, List.foldl_cons, others, Stats.get_add, first,
        List.map_cons, List.sum_cons, UInt64.ofNat_add, UInt64.add_assoc]

/-- Each total is the sum of the counters, modulo 2^64. -/
theorem collect_get {α : Type} (timeout : Int) (sessions : List α)
    (counters : α → Counters) (counter : Counter) (amount : α → Nat)
    (counts : ∀ session ∈ sessions,
      (counters session).get counter = UInt64.ofNat (amount session)) :
    (collect timeout (sessions.map counters)).get counter =
      UInt64.ofNat ((sessions.map amount).sum) := by
  have nothing : (Stats.construct timeout).get counter = 0 := by
    cases counter with
    | countWritten => rfl
    | countRead => rfl
    | bytesWritten => rfl
    | bytesRead => rfl
  rw [collect, foldl_get sessions counters counter amount counts, nothing,
    UInt64.zero_add]

theorem collect_timeout (timeout : Int) (sessions : List Counters) :
    (collect timeout sessions).timeout = timeout :=
  (foldl_add sessions (Stats.construct timeout)).2

end Collect

/-! ## The sessions -/

def ofBlock (fields : Block.Client1.Fields) : Counters :=
  { error := fields.error
    countWritten := fields.countWritten
    countRead := fields.countRead
    bytesWritten := fields.bytesWritten
    bytesRead := fields.bytesRead }

def ofPooled (fields : Pooled.Client2.Fields) : Counters :=
  { error := fields.error
    countWritten := fields.countWritten
    countRead := fields.countRead
    bytesWritten := fields.bytesWritten
    bytesRead := fields.bytesRead }

end AsioBenchmark.Report
