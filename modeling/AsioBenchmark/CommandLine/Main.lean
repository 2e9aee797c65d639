import AsioBenchmark.CommandLine.Numbers
import AsioBenchmark.SocketPair.Parameters

/-!
# The command line

`main` compares the name of a test and the number of arguments, converts the
numbers and calls the test.  It never looks at an argument that is not there,
and its conversions decide which parameters a test can get.
-/

namespace AsioBenchmark.CommandLine

open AsioBenchmark.SocketPair

/-- The calls that `main` can make, with the parameters as they are declared. -/
inductive Test where
  | socketPairTest (pairCount activeCount writeCount : UInt64)
  | clientTest1 (threadCount : Int32) (host port : String)
      (blockSize sessionCount : UInt64) (timeout : Int32)
  | clientTest2 (threadCount : Int32) (host port : String)
      (blockSize sessionCount : UInt64) (timeout : Int32)
  | serverTest1 (threadCount : Int32) (host port : String)
      (blockSize : UInt64)
  | serverTest2 (threadCount : Int32) (host port : String)
      (blockSize : UInt64)
  | clientTest3 (threadCount : Int32) (host port : String)
      (totalCount sessionCount : UInt64)
  | serverTest3 (threadCount : Int32) (host port : String)
      (totalCount : UInt64)
  | posttaskTest1 (threadCount : Int32) (postCount : UInt64)
  | posttaskTest2 (threadCount : Int32) (postCount : UInt64)
  | posttaskTest3 (postCount : UInt64)
  | posttaskTest4 (postCount : UInt64)
  | posttaskTest5 (postCount : UInt64)
deriving DecidableEq

inductive Outcome where
  | usage
  | runs (test : Test)
deriving DecidableEq

/-- What is undefined: an argument that is not there, and an `atoi` of what is
no `int`. -/
inductive Fault where
  | beyondArguments
  | noInt
deriving DecidableEq

/-- The numbers of arguments, the program's name included, that the tests
need. -/
def argumentCounts : List (String × Nat) :=
  [("socketpair", 5), ("client1", 8), ("server1", 6), ("client2", 8),
    ("server2", 6), ("client3", 7), ("server3", 6), ("posttask1", 4),
    ("posttask2", 4), ("posttask3", 3), ("posttask4", 3), ("posttask5", 3)]

section Arguments

variable (argv : List String) (index : Nat)

/-- `argv[index]`. -/
def argument : Except Fault String :=
  match argv[index]? with
  | some text => .ok text
  | none => .error .beyondArguments

/-- An `int` from `atoi`. -/
def intArgument : Except Fault Int32 := do
  match atoi (← argument argv index) with
  | some value => .ok value
  | none => .error .noInt

/-- A `size_t` from `atoi`. -/
def sizeArgument : Except Fault UInt64 := do
  return toSize (← intArgument argv index)

/-- A `uint32_t` from `atoi`, passed on as a `size_t`. -/
def countArgument : Except Fault UInt64 := do
  return (← intArgument argv index).toUInt32.toUInt64

/-- A `uint64_t` from `strtoull`. -/
def wideArgument : Except Fault UInt64 := do
  return strtoull (← argument argv index)

end Arguments

/-- The branches of `main` behind the tests of `argc`. -/
def dispatch (argv : List String) (name : String) : Except Fault Outcome := do
  if name = "socketpair" then
    return .runs (.socketPairTest (← sizeArgument argv 2)
      (← sizeArgument argv 3) (← sizeArgument argv 4))
  else if name = "client1" then
    let host ← argument argv 2
    let port ← argument argv 3
    return .runs (.clientTest1 (← intArgument argv 4) host port
      (← sizeArgument argv 5) (← sizeArgument argv 6) (← intArgument argv 7))
  else if name = "client2" then
    let host ← argument argv 2
    let port ← argument argv 3
    return .runs (.clientTest2 (← intArgument argv 4) host port
      (← sizeArgument argv 5) (← sizeArgument argv 6) (← intArgument argv 7))
  else if name = "server1" then
    let host ← argument argv 2
    let port ← argument argv 3
    return .runs (.serverTest1 (← intArgument argv 4) host port
      (← sizeArgument argv 5))
  else if name = "server2" then
    let host ← argument argv 2
    let port ← argument argv 3
    return .runs (.serverTest2 (← intArgument argv 4) host port
      (← sizeArgument argv 5))
  else if name = "client3" then
    let host ← argument argv 2
    let port ← argument argv 3
    return .runs (.clientTest3 (← intArgument argv 4) host port
      (← countArgument argv 5) (← sizeArgument argv 6))
  else if name = "server3" then
    let host ← argument argv 2
    let port ← argument argv 3
    return .runs (.serverTest3 (← intArgument argv 4) host port
      (← countArgument argv 5))
  else if name = "posttask1" then
    return .runs (.posttaskTest1 (← intArgument argv 2)
      (← wideArgument argv 3))
  else if name = "posttask2" then
    return .runs (.posttaskTest2 (← intArgument argv 2)
      (← wideArgument argv 3))
  else if name = "posttask3" then
    return .runs (.posttaskTest3 (← wideArgument argv 2))
  else if name = "posttask4" then
    return .runs (.posttaskTest4 (← wideArgument argv 2))
  else if name = "posttask5" then
    return .runs (.posttaskTest5 (← wideArgument argv 2))
  else
    return .usage

/-- Some test of `argc` fails. -/
def wrongCount (name : String) (argc : Nat) : Bool :=
  argumentCounts.any fun (test, count) => name = test ∧ argc ≠ count

def main (argv : List String) : Except Fault Outcome := do
  if argv.length < 2 then
    return .usage
  else
    let name ← argument argv 1
    if wrongCount name argv.length = true then
      return .usage
    else
      dispatch argv name

example : main ["asio_test", "server2", "0.0.0.0", "33333", "4", "-1"] =
    .ok (.runs (.serverTest2 4 "0.0.0.0" "33333" 18446744073709551615)) := by
  decide +kernel

/-! ## The parameters of the tests -/

/-- The values of an `int` as a `size_t`. -/
def IsSize (value : UInt64) : Prop :=
  -2147483648 ≤ value.toInt64.toInt ∧ value.toInt64.toInt < 2147483648

/-- The values of a `uint32_t`. -/
def IsCount (value : UInt64) : Prop :=
  value.toNat < 4294967296

/-- The parameters that `main` can pass: a `size_t` comes from an `int`, a
`total_count` from a `uint32_t`; the others are not restricted. -/
def Test.Reachable : Test → Prop
  | .socketPairTest pairCount activeCount writeCount =>
      IsSize pairCount ∧ IsSize activeCount ∧ IsSize writeCount
  | .clientTest1 _ _ _ blockSize sessionCount _ =>
      IsSize blockSize ∧ IsSize sessionCount
  | .clientTest2 _ _ _ blockSize sessionCount _ =>
      IsSize blockSize ∧ IsSize sessionCount
  | .serverTest1 _ _ _ blockSize => IsSize blockSize
  | .serverTest2 _ _ _ blockSize => IsSize blockSize
  | .clientTest3 _ _ _ totalCount sessionCount =>
      IsCount totalCount ∧ IsSize sessionCount
  | .serverTest3 _ _ _ totalCount => IsCount totalCount
  | _ => True

/-! ## The tests of `argc` -/

/-- A conversion that looks at no argument that is not there, and what holds of
its result. -/
inductive Within {Value : Type} (Holds : Value → Prop) :
    Except Fault Value → Prop where
  | ok {value : Value} (holds : Holds value) : Within Holds (.ok value)
  | noInt : Within Holds (.error .noInt)

/-- A test is called, unless a conversion is undefined. -/
inductive Calls : Except Fault Outcome → Prop where
  | runs {test : Test} (reachable : test.Reachable) :
      Calls (.ok (.runs test))
  | noInt : Calls (.error .noInt)

section Checks

variable {Value Other : Type} {Holds : Value → Prop} {Next : Other → Prop}
  {argv : List String} {index : Nat}

theorem Within.bind {conversion : Except Fault Value}
    {rest : Value → Except Fault Other} (within : Within Holds conversion)
    (afterwards : ∀ value, Within Next (rest value)) :
    Within Next (conversion >>= rest) := by
  cases within with
  | ok holds => exact afterwards _
  | noInt => exact .noInt

theorem Calls.bind {conversion : Except Fault Value}
    {rest : Value → Except Fault Outcome} (within : Within Holds conversion)
    (afterwards : ∀ value, Holds value → Calls (rest value)) :
    Calls (conversion >>= rest) := by
  cases within with
  | ok holds => exact afterwards _ holds
  | noInt => exact .noInt

/-- An `int` keeps its value as a `size_t` that is looked at as signed. -/
theorem isSize_toSize (value : Int32) : IsSize (toSize value) := by
  have same : (toSize value).toInt64.toInt = value.toInt := by
    rw [toSize, Int64.toInt64_toUInt64, Int32.toInt_toInt64]
  rw [IsSize, same]
  exact ⟨value.le_toInt, value.toInt_lt⟩

theorem isCount_of_int (value : Int32) :
    IsCount value.toUInt32.toUInt64 := by
  rw [IsCount, UInt32.toNat_toUInt64]
  exact value.toUInt32.toNat_lt

variable (inside : index < argv.length)

include inside

theorem within_argument : Within (fun _ => True) (argument argv index) := by
  rw [argument, List.getElem?_eq_getElem inside]
  exact .ok trivial

theorem within_int : Within (fun _ => True) (intArgument argv index) := by
  refine (within_argument inside).bind ?_
  intro text
  cases atoi text with
  | some value => exact .ok trivial
  | none => exact .noInt

theorem within_size : Within IsSize (sizeArgument argv index) :=
  (within_int inside).bind fun value => .ok (isSize_toSize value)

theorem within_count : Within IsCount (countArgument argv index) :=
  (within_int inside).bind fun value => .ok (isCount_of_int value)

theorem within_wide : Within (fun _ => True) (wideArgument argv index) :=
  (within_argument inside).bind fun _ => .ok trivial

end Checks

/-- With the right number of arguments the test is called, with parameters of
their types. -/
theorem dispatch_known {argv : List String} {name : String}
    (known : (name, argv.length) ∈ argumentCounts) :
    Calls (dispatch argv name) := by
  simp only [argumentCounts, List.mem_cons, List.not_mem_nil, or_false,
    Prod.mk.injEq] at known
  rcases known with ⟨rfl, count⟩ | ⟨rfl, count⟩ | ⟨rfl, count⟩ |
    ⟨rfl, count⟩ | ⟨rfl, count⟩ | ⟨rfl, count⟩ | ⟨rfl, count⟩ |
    ⟨rfl, count⟩ | ⟨rfl, count⟩ | ⟨rfl, count⟩ | ⟨rfl, count⟩ | ⟨rfl, count⟩
  · exact .bind (within_size (by omega)) fun _ pairs =>
      .bind (within_size (by omega)) fun _ active =>
      .bind (within_size (by omega)) fun _ writes =>
      .runs ⟨pairs, active, writes⟩
  · exact .bind (within_argument (by omega)) fun _ _ =>
      .bind (within_argument (by omega)) fun _ _ =>
      .bind (within_int (by omega)) fun _ _ =>
      .bind (within_size (by omega)) fun _ block =>
      .bind (within_size (by omega)) fun _ sessions =>
      .bind (within_int (by omega)) fun _ _ =>
      .runs ⟨block, sessions⟩
  · exact .bind (within_argument (by omega)) fun _ _ =>
      .bind (within_argument (by omega)) fun _ _ =>
      .bind (within_int (by omega)) fun _ _ =>
      .bind (within_size (by omega)) fun _ block =>
      .runs block
  · exact .bind (within_argument (by omega)) fun _ _ =>
      .bind (within_argument (by omega)) fun _ _ =>
      .bind (within_int (by omega)) fun _ _ =>
      .bind (within_size (by omega)) fun _ block =>
      .bind (within_size (by omega)) fun _ sessions =>
      .bind (within_int (by omega)) fun _ _ =>
      .runs ⟨block, sessions⟩
  · exact .bind (within_argument (by omega)) fun _ _ =>
      .bind (within_argument (by omega)) fun _ _ =>
      .bind (within_int (by omega)) fun _ _ =>
      .bind (within_size (by omega)) fun _ block =>
      .runs block
  · exact .bind (within_argument (by omega)) fun _ _ =>
      .bind (within_argument (by omega)) fun _ _ =>
      .bind (within_int (by omega)) fun _ _ =>
      .bind (within_count (by omega)) fun _ total =>
      .bind (within_size (by omega)) fun _ sessions =>
      .runs ⟨total, sessions⟩
  · exact .bind (within_argument (by omega)) fun _ _ =>
      .bind (within_argument (by omega)) fun _ _ =>
      .bind (within_int (by omega)) fun _ _ =>
      .bind (within_count (by omega)) fun _ total =>
      .runs total
  · exact .bind (within_int (by omega)) fun _ _ =>
      .bind (within_wide (by omega)) fun _ _ =>
      .runs trivial
  · exact .bind (within_int (by omega)) fun _ _ =>
      .bind (within_wide (by omega)) fun _ _ =>
      .runs trivial
  · exact .bind (within_wide (by omega)) fun _ _ =>
      .runs trivial
  · exact .bind (within_wide (by omega)) fun _ _ =>
      .runs trivial
  · exact .bind (within_wide (by omega)) fun _ _ =>
      .runs trivial

/-- The name is that of a test. -/
def known (name : String) : Bool :=
  argumentCounts.any fun (test, _) => name = test

theorem dispatch_unknown {argv : List String} {name : String}
    (unknown : known name = false) : dispatch argv name = .ok .usage := by
  simp only [known, argumentCounts, List.any_cons, List.any_nil,
    Bool.or_eq_false_iff, decide_eq_false_iff_not] at unknown
  obtain ⟨socketpair, client1, server1, client2, server2, client3, server3,
    posttask1, posttask2, posttask3, posttask4, posttask5, _⟩ := unknown
  simp only [dispatch, socketpair, client1, server1, client2, server2,
    client3, server3, posttask1, posttask2, posttask3, posttask4, posttask5,
    if_false]
  rfl

theorem right_count_iff {name : String} {argc : Nat} :
    (name, argc) ∈ argumentCounts ↔
      known name = true ∧ wrongCount name argc = false := by
  constructor
  · intro member
    simp only [argumentCounts, List.mem_cons, List.not_mem_nil, or_false,
      Prod.mk.injEq] at member
    rcases member with ⟨rfl, rfl⟩ | ⟨rfl, rfl⟩ | ⟨rfl, rfl⟩ | ⟨rfl, rfl⟩ |
      ⟨rfl, rfl⟩ | ⟨rfl, rfl⟩ | ⟨rfl, rfl⟩ | ⟨rfl, rfl⟩ | ⟨rfl, rfl⟩ |
      ⟨rfl, rfl⟩ | ⟨rfl, rfl⟩ | ⟨rfl, rfl⟩ <;> decide
  · rintro ⟨isTest, right⟩
    obtain ⟨⟨test, count⟩, member, same⟩ := List.any_eq_true.mp isTest
    have fits := List.any_eq_false.mp right (test, count) member
    simp only [decide_eq_true_eq] at same fits
    have equal : argc = count := by
      by_contra different
      exact fits ⟨same, different⟩
    rw [same, equal]
    exact member

theorem main_named {argv : List String} {name : String}
    (given : argv[1]? = some name) :
    main argv =
      if wrongCount name argv.length = true then .ok .usage
      else dispatch argv name := by
  obtain ⟨inside, _⟩ := List.getElem?_eq_some_iff.mp given
  rw [main, if_neg (by omega), argument, given]
  rfl

theorem main_known {argv : List String} {name : String}
    (given : argv[1]? = some name)
    (right : (name, argv.length) ∈ argumentCounts) :
    main argv = dispatch argv name := by
  obtain ⟨_, fits⟩ := right_count_iff.mp right
  rw [main_named given, if_neg (by simp [fits])]

/-- `main` looks at no argument that is not there, and shows how it is used
exactly if the name is unknown or the number of arguments is not the one that
the test needs. -/
theorem main_checks_arguments (argv : List String) :
    main argv ≠ .error .beyondArguments ∧
      (main argv = .ok .usage ↔
        ∀ name, argv[1]? = some name →
          (name, argv.length) ∉ argumentCounts) := by
  by_cases short : argv.length < 2
  · have shown : main argv = .ok .usage := if_pos short
    rw [shown]
    refine ⟨by simp, ?_⟩
    simp only [true_iff]
    intro name given
    rw [List.getElem?_eq_none (by omega)] at given
    cases given
  · have inside : 1 < argv.length := by omega
    have given : argv[1]? = some argv[1] := List.getElem?_eq_getElem inside
    rw [main_named given, given]
    simp only [Option.some.injEq, forall_eq']
    rw [right_count_iff]
    by_cases wrong : wrongCount argv[1] argv.length = true
    · rw [if_pos wrong]
      simp [wrong]
    · rw [if_neg wrong]
      rw [Bool.not_eq_true] at wrong
      cases isTest : known argv[1] with
      | false =>
          rw [dispatch_unknown isTest]
          simp
      | true =>
          have calls := dispatch_known
            (right_count_iff.mpr ⟨isTest, wrong⟩)
          generalize dispatch argv argv[1] = result at calls
          cases calls with
          | runs reachable => simp [wrong]
          | noInt => simp [wrong]

/-! ## Command lines that are written out -/

def writtenInt (value : Int32) : String :=
  decimal value.toInt

def writtenSize (value : UInt64) : String :=
  decimal value.toInt64.toInt

def writtenCount (value : UInt64) : String :=
  decimal value.toUInt32.toInt32.toInt

def writtenWide (value : UInt64) : String :=
  decimal value.toNat

/-- The command line of a test, behind the name of the program. -/
def Test.commandLine : Test → List String
  | .socketPairTest pairCount activeCount writeCount =>
      ["socketpair", writtenSize pairCount, writtenSize activeCount,
        writtenSize writeCount]
  | .clientTest1 threadCount host port blockSize sessionCount timeout =>
      ["client1", host, port, writtenInt threadCount, writtenSize blockSize,
        writtenSize sessionCount, writtenInt timeout]
  | .clientTest2 threadCount host port blockSize sessionCount timeout =>
      ["client2", host, port, writtenInt threadCount, writtenSize blockSize,
        writtenSize sessionCount, writtenInt timeout]
  | .serverTest1 threadCount host port blockSize =>
      ["server1", host, port, writtenInt threadCount, writtenSize blockSize]
  | .serverTest2 threadCount host port blockSize =>
      ["server2", host, port, writtenInt threadCount, writtenSize blockSize]
  | .clientTest3 threadCount host port totalCount sessionCount =>
      ["client3", host, port, writtenInt threadCount,
        writtenCount totalCount, writtenSize sessionCount]
  | .serverTest3 threadCount host port totalCount =>
      ["server3", host, port, writtenInt threadCount,
        writtenCount totalCount]
  | .posttaskTest1 threadCount postCount =>
      ["posttask1", writtenInt threadCount, writtenWide postCount]
  | .posttaskTest2 threadCount postCount =>
      ["posttask2", writtenInt threadCount, writtenWide postCount]
  | .posttaskTest3 postCount => ["posttask3", writtenWide postCount]
  | .posttaskTest4 postCount => ["posttask4", writtenWide postCount]
  | .posttaskTest5 postCount => ["posttask5", writtenWide postCount]

section Conversions

variable {argv : List String} {index : Nat}

theorem argument_eq {text : String} (given : argv[index]? = some text) :
    argument argv index = .ok text := by
  rw [argument, given]

theorem intArgument_written {value : Int32}
    (given : argv[index]? = some (writtenInt value)) :
    intArgument argv index = .ok value := by
  rw [intArgument, argument_eq given]
  change (match atoi (writtenInt value) with
    | some value => Except.ok value
    | none => .error Fault.noInt) = _
  rw [writtenInt, atoi_decimal]

theorem sizeArgument_written {value : UInt64} (isSize : IsSize value)
    (given : argv[index]? = some (writtenSize value)) :
    sizeArgument argv index = .ok value := by
  obtain ⟨least, less⟩ := isSize
  have same : writtenSize value =
      writtenInt (Int32.ofInt value.toInt64.toInt) := by
    rw [writtenInt, Int32.toInt_ofInt_of_le least less]
    rfl
  rw [same] at given
  rw [sizeArgument, intArgument_written given]
  change Except.ok (toSize (Int32.ofInt value.toInt64.toInt)) = _
  rw [toSize, Int32.toInt64_ofInt least (Int.le_of_lt_add_one less),
    Int64.ofInt_toInt, UInt64.toUInt64_toInt64]

theorem countArgument_written {value : UInt64} (isCount : IsCount value)
    (given : argv[index]? = some (writtenCount value)) :
    countArgument argv index = .ok value := by
  have same : intArgument argv index = .ok value.toUInt32.toInt32 :=
    intArgument_written given
  rw [countArgument, same]
  change Except.ok value.toUInt32.toInt32.toUInt32.toUInt64 = _
  rw [UInt32.toUInt32_toInt32]
  congr 1
  apply UInt64.toNat_inj.mp
  rw [UInt32.toNat_toUInt64, UInt64.toNat_toUInt32]
  exact Nat.mod_eq_of_lt isCount

theorem wideArgument_written {value : UInt64}
    (given : argv[index]? = some (writtenWide value)) :
    wideArgument argv index = .ok value := by
  rw [wideArgument, argument_eq given]
  exact congrArg Except.ok (strtoull_decimal value)

theorem ok_bind {Value : Type} {conversion : Except Fault Value}
    {value : Value} {rest : Value → Except Fault Outcome}
    {outcome : Outcome} (converted : conversion = .ok value)
    (afterwards : rest value = .ok outcome) :
    conversion >>= rest = .ok outcome := by
  rw [converted]
  exact afterwards

end Conversions

/-- The command line of a test makes `main` call it. -/
theorem main_commandLine {test : Test} (reachable : test.Reachable)
    (program : String) :
    main (program :: test.commandLine) = .ok (.runs test) := by
  cases test with
  | socketPairTest pairCount activeCount writeCount =>
      obtain ⟨pairs, active, writes⟩ := reachable
      rw [main_known rfl (by simp [argumentCounts, Test.commandLine])]
      exact ok_bind (sizeArgument_written pairs rfl) <|
        ok_bind (sizeArgument_written active rfl) <|
        ok_bind (sizeArgument_written writes rfl) <| rfl
  | clientTest1 threadCount host port blockSize sessionCount timeout =>
      obtain ⟨block, sessions⟩ := reachable
      rw [main_known rfl (by simp [argumentCounts, Test.commandLine])]
      exact ok_bind (argument_eq rfl) <|
        ok_bind (argument_eq rfl) <|
        ok_bind (intArgument_written rfl) <|
        ok_bind (sizeArgument_written block rfl) <|
        ok_bind (sizeArgument_written sessions rfl) <|
        ok_bind (intArgument_written rfl) <| rfl
  | clientTest2 threadCount host port blockSize sessionCount timeout =>
      obtain ⟨block, sessions⟩ := reachable
      rw [main_known rfl (by simp [argumentCounts, Test.commandLine])]
      exact ok_bind (argument_eq rfl) <|
        ok_bind (argument_eq rfl) <|
        ok_bind (intArgument_written rfl) <|
        ok_bind (sizeArgument_written block rfl) <|
        ok_bind (sizeArgument_written sessions rfl) <|
        ok_bind (intArgument_written rfl) <| rfl
  | serverTest1 threadCount host port blockSize =>
      rw [main_known rfl (by simp [argumentCounts, Test.commandLine])]
      exact ok_bind (argument_eq rfl) <|
        ok_bind (argument_eq rfl) <|
        ok_bind (intArgument_written rfl) <|
        ok_bind (sizeArgument_written reachable rfl) <| rfl
  | serverTest2 threadCount host port blockSize =>
      rw [main_known rfl (by simp [argumentCounts, Test.commandLine])]
      exact ok_bind (argument_eq rfl) <|
        ok_bind (argument_eq rfl) <|
        ok_bind (intArgument_written rfl) <|
        ok_bind (sizeArgument_written reachable rfl) <| rfl
  | clientTest3 threadCount host port totalCount sessionCount =>
      obtain ⟨total, sessions⟩ := reachable
      rw [main_known rfl (by simp [argumentCounts, Test.commandLine])]
      exact ok_bind (argument_eq rfl) <|
        ok_bind (argument_eq rfl) <|
        ok_bind (intArgument_written rfl) <|
        ok_bind (countArgument_written total rfl) <|
        ok_bind (sizeArgument_written sessions rfl) <| rfl
  | serverTest3 threadCount host port totalCount =>
      rw [main_known rfl (by simp [argumentCounts, Test.commandLine])]
      exact ok_bind (argument_eq rfl) <|
        ok_bind (argument_eq rfl) <|
        ok_bind (intArgument_written rfl) <|
        ok_bind (countArgument_written reachable rfl) <| rfl
  | posttaskTest1 threadCount postCount =>
      rw [main_known rfl (by simp [argumentCounts, Test.commandLine])]
      exact ok_bind (intArgument_written rfl) <|
        ok_bind (wideArgument_written rfl) <| rfl
  | posttaskTest2 threadCount postCount =>
      rw [main_known rfl (by simp [argumentCounts, Test.commandLine])]
      exact ok_bind (intArgument_written rfl) <|
        ok_bind (wideArgument_written rfl) <| rfl
  | posttaskTest3 postCount =>
      rw [main_known rfl (by simp [argumentCounts, Test.commandLine])]
      exact ok_bind (wideArgument_written rfl) <| rfl
  | posttaskTest4 postCount =>
      rw [main_known rfl (by simp [argumentCounts, Test.commandLine])]
      exact ok_bind (wideArgument_written rfl) <| rfl
  | posttaskTest5 postCount =>
      rw [main_known rfl (by simp [argumentCounts, Test.commandLine])]
      exact ok_bind (wideArgument_written rfl) <| rfl

/-- Whatever the command line, a test gets only such parameters. -/
theorem reachable_of_main {argv : List String} {test : Test}
    (called : main argv = .ok (.runs test)) : test.Reachable := by
  cases given : argv[1]? with
  | none =>
      have short := List.getElem?_eq_none_iff.mp given
      rw [main, if_pos (by omega)] at called
      cases called
  | some name =>
      rw [main_named given] at called
      by_cases wrong : wrongCount name argv.length = true
      · rw [if_pos wrong] at called
        cases called
      · rw [if_neg wrong] at called
        cases isTest : known name with
        | false =>
            rw [dispatch_unknown isTest] at called
            cases called
        | true =>
            rw [Bool.not_eq_true] at wrong
            have calls := dispatch_known
              (right_count_iff.mpr ⟨isTest, wrong⟩)
            rw [called] at calls
            cases calls with
            | runs reachable => exact reachable

/-- `main` can call a test with exactly the parameters that a `size_t` made of
an `int` and a `uint32_t` admit. -/
theorem main_calls_iff (test : Test) :
    (∃ argv, main argv = .ok (.runs test)) ↔ test.Reachable := by
  constructor
  · rintro ⟨argv, called⟩
    exact reachable_of_main called
  · intro reachable
    exact ⟨_, main_commandLine reachable "asio_test"⟩

end AsioBenchmark.CommandLine
