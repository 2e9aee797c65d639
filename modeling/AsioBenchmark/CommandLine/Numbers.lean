import Mathlib.Data.List.TakeWhile

/-!
# Numbers on the command line

`atoi` and `strtoull` skip blanks, accept a sign, read decimal digits and ignore
the rest.  `atoi` leaves open what it returns for a number that is no `int`;
`strtoull` stops at the greatest number it can return.
-/

namespace AsioBenchmark.CommandLine

/-- `isspace` of the C locale. -/
def isSpace (character : Char) : Bool :=
  [' ', '\t', '\n', '\x0b', '\x0c', '\r'].contains character

/-- A sign and the value of the digits behind it. -/
structure Scanned where
  negative : Bool
  magnitude : Nat
deriving DecidableEq

def readDigits (text : List Char) : Nat :=
  Nat.ofDigitChars 10 (text.takeWhile Char.isDigit) 0

def scan (text : String) : Scanned :=
  match text.toList.dropWhile isSpace with
  | '-' :: rest =>
      { negative := true
        magnitude := readDigits rest }
  | '+' :: rest =>
      { negative := false
        magnitude := readDigits rest }
  | rest =>
      { negative := false
        magnitude := readDigits rest }

def Scanned.value (scanned : Scanned) : Int :=
  if scanned.negative = true then -(scanned.magnitude : Int)
  else scanned.magnitude

/-- `atoi`, where its result is defined. -/
def atoi (text : String) : Option Int32 :=
  let value := (scan text).value
  if -2147483648 ≤ value ∧ value < 2147483648 then some (Int32.ofInt value)
  else none

/-- `strtoull` with base 10.  A number behind a minus is negated as an unsigned
number. -/
def strtoull (text : String) : UInt64 :=
  let scanned := scan text
  if 18446744073709551616 ≤ scanned.magnitude then 18446744073709551615
  else if scanned.negative = true then -UInt64.ofNat scanned.magnitude
  else UInt64.ofNat scanned.magnitude

/-- A number as it is usually written. -/
def decimal (value : Int) : String :=
  if value < 0 then String.ofList ('-' :: Nat.toDigits 10 value.natAbs)
  else String.ofList (Nat.toDigits 10 value.natAbs)

section Written

variable (number : Nat) (value : Int)

theorem isDigit_toDigits {character : Char}
    (member : character ∈ Nat.toDigits 10 number) :
    character.isDigit = true :=
  Nat.isDigit_of_mem_toDigits (by decide) (by decide) member

theorem readDigits_toDigits : readDigits (Nat.toDigits 10 number) = number := by
  have whole : (Nat.toDigits 10 number).takeWhile Char.isDigit =
      Nat.toDigits 10 number :=
    List.takeWhile_eq_self_iff.mpr fun _ member =>
      isDigit_toDigits number member
  rw [readDigits, whole]
  exact Nat.ofDigitChars_ten_toDigits

theorem isSpace_of_isDigit {character : Char}
    (digit : character.isDigit = true) : isSpace character = false := by
  rw [Bool.eq_false_iff]
  intro space
  have member := List.contains_iff_mem.mp space
  simp only [List.mem_cons, List.not_mem_nil, or_false] at member
  rcases member with rfl | rfl | rfl | rfl | rfl | rfl <;> cases digit

theorem scan_toDigits : scan (String.ofList (Nat.toDigits 10 number)) =
    { negative := false
      magnitude := number } := by
  have read := readDigits_toDigits number
  have digits := fun character => @isDigit_toDigits number character
  have nonempty := @Nat.toDigits_ne_nil number 10
  cases written : Nat.toDigits 10 number with
  | nil => exact absurd written nonempty
  | cons first rest =>
      rw [written] at read digits
      have digit := digits first List.mem_cons_self
      have kept : (first :: rest).dropWhile isSpace = first :: rest := by
        rw [List.dropWhile_cons, isSpace_of_isDigit digit]
        rfl
      rw [scan, String.toList_ofList, kept]
      split
      · rename_i minus
        cases minus
        cases digit
      · rename_i plus
        cases plus
        cases digit
      · rw [read]

theorem scan_minus :
    scan (String.ofList ('-' :: Nat.toDigits 10 number)) =
      { negative := true
        magnitude := number } := by
  have kept : ('-' :: Nat.toDigits 10 number).dropWhile isSpace =
      '-' :: Nat.toDigits 10 number :=
    rfl
  rw [scan, String.toList_ofList, kept]
  simp only [readDigits_toDigits]

theorem value_decimal : (scan (decimal value)).value = value := by
  unfold decimal
  split
  · rw [scan_minus, Scanned.value, if_pos rfl]
    change -(value.natAbs : Int) = value
    omega
  · rw [scan_toDigits, Scanned.value, if_neg (by simp)]
    change (value.natAbs : Int) = value
    omega

/-- `atoi` reads every `int` that is written out. -/
theorem atoi_decimal (value : Int32) :
    atoi (decimal value.toInt) = some value := by
  have least := value.le_toInt
  have less := value.toInt_lt
  simp only [atoi, value_decimal]
  rw [if_pos ⟨least, less⟩, Int32.ofInt_toInt]

/-- `strtoull` reads every `uint64_t` that is written out. -/
theorem strtoull_decimal (value : UInt64) :
    strtoull (decimal value.toNat) = value := by
  have natural : decimal value.toNat =
      String.ofList (Nat.toDigits 10 value.toNat) :=
    if_neg (by omega)
  have less : ¬18446744073709551616 ≤ value.toNat :=
    Nat.not_le.mpr value.toNat_lt
  simp only [strtoull, natural, scan_toDigits]
  rw [if_neg less, if_neg (by simp), UInt64.ofNat_toNat]

end Written

end AsioBenchmark.CommandLine
