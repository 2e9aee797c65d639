import Mathlib.Data.List.Basic

/-!
# Counters that go round

A counter below `size` is incremented and set to zero when it reaches `size`.
The values it takes are the remainders of consecutive numbers, so that each of
them is taken once in a window of `size` values, and in a longer or shorter
window two of them differ by no more than one.
-/

namespace AsioBenchmark.Transition

/-- Increment, then reset. -/
def rotate (size counter : Nat) : Nat :=
  if counter + 1 = size then 0 else counter + 1

theorem rotate_mod {size : Nat} (positive : 0 < size) (count : Nat) :
    rotate size (count % size) = (count + 1) % size := by
  have below := Nat.mod_lt count positive
  rw [← Nat.mod_add_mod, rotate]
  split
  · rename_i last
    rw [last, Nat.mod_self]
  · exact (Nat.mod_eq_of_lt (by omega)).symm

/-- The values of the counter in `count` turns from the turn `start` on. -/
def turns (size start count : Nat) : List Nat :=
  (List.range' start count).map (· % size)

/-- How often a value below `size` is taken before the turn `count`. -/
def timesBefore (size value count : Nat) : Nat :=
  count / size + if value < count % size then 1 else 0

section Turns

variable {size : Nat}

theorem length_turns (start count : Nat) :
    (turns size start count).length = count := by
  rw [turns, List.length_map, List.length_range']

theorem turns_succ (start count : Nat) :
    turns size start (count + 1) =
      turns size start count ++ [(start + count) % size] := by
  simp [turns, List.range'_concat]

theorem getElem?_turns {start count index : Nat} (inside : index < count) :
    (turns size start count)[index]? = some ((start + index) % size) := by
  simp [turns, inside]

/-- A window of the turns. -/
theorem take_drop_turns {start count skip length : Nat}
    (inside : skip + length ≤ count) :
    ((turns size start count).drop skip).take length =
      turns size (start + skip) length := by
  rw [turns, turns, ← List.map_drop, ← List.map_take, List.drop_range',
    List.take_range'_of_length_ge (by omega), Nat.mul_one]

variable (positive : 0 < size)

include positive

theorem timesBefore_succ {value : Nat} (below : value < size) (count : Nat) :
    timesBefore size value (count + 1) =
      timesBefore size value count +
        if count % size = value then 1 else 0 := by
  have inside := Nat.mod_lt count positive
  have next := rotate_mod positive count
  unfold rotate at next
  unfold timesBefore
  split at next
  · rename_i last
    rw [Nat.succ_div_of_mod_eq_zero next.symm, ← next]
    split <;> split <;> split <;> omega
  · rename_i further
    have nonzero : (count + 1) % size ≠ 0 := by omega
    rw [Nat.succ_div_of_mod_ne_zero nonzero, ← next]
    split <;> split <;> split <;> omega

theorem count_turns {start value : Nat} (below : value < size)
    (count : Nat) :
    (turns size start count).count value + timesBefore size value start =
      timesBefore size value (start + count) := by
  induction count with
  | zero => simp [turns]
  | succ count induction =>
      rw [turns_succ, List.count_append, List.count_singleton,
        ← Nat.add_assoc, timesBefore_succ positive below, ← induction]
      simp only [beq_iff_eq]
      omega

/-- In a window of `size` turns each value is taken once. -/
theorem count_turns_window {value : Nat} (below : value < size)
    (start : Nat) : (turns size start size).count value = 1 := by
  have counted := @count_turns _ positive start value below size
  have once : timesBefore size value (start + size) =
      timesBefore size value start + 1 := by
    unfold timesBefore
    rw [Nat.add_div_right start positive, Nat.add_mod_right]
    omega
  omega

/-- Two values are taken equally often, up to one. -/
theorem count_turns_balanced {value other : Nat} (below : value < size)
    (otherBelow : other < size) (start count : Nat) :
    (turns size start count).count value ≤
      (turns size start count).count other + 1 := by
  have counted := @count_turns _ positive start value below count
  have otherCounted := @count_turns _ positive start other otherBelow count
  unfold timesBefore at counted otherCounted
  by_cases early : value < start % size
  · rw [if_pos early] at counted
    split at counted <;> split at otherCounted <;> split at otherCounted <;>
      omega
  · rw [if_neg early] at counted
    split at counted <;> split at otherCounted <;> split at otherCounted <;>
      omega

end Turns

end AsioBenchmark.Transition
