import Mathlib.Data.List.Basic

/-!
# The endless repetition of a block

A sender that writes the same block again and again puts its repetition on the
wire.  The prefixes of that repetition are cut at a position inside a block.
-/

namespace AsioBenchmark.Stream

variable {α : Type} {block chunk content : List α}
  {rounds inside count fewer : Nat}

/-- The first `count` items of `block ++ block ++ …`. -/
def cycled (block : List α) (count : Nat) : List α :=
  (List.replicate count block).flatten.take count

theorem length_replicate_flatten (block : List α) (count : Nat) :
    (List.replicate count block).flatten.length = count * block.length := by
  induction count with
  | zero => simp
  | succ count induction =>
      rw [List.replicate_succ, List.flatten_cons, List.length_append,
        induction, Nat.succ_mul, Nat.add_comm]

theorem replicate_flatten_add (block : List α) (count more : Nat) :
    (List.replicate (count + more) block).flatten =
      (List.replicate count block).flatten ++
        (List.replicate more block).flatten := by
  rw [List.replicate_add, List.flatten_append]

/-- Whole blocks, followed by the front of one. -/
theorem cycled_eq (fits : inside ≤ block.length) :
    cycled block (rounds * block.length + inside) =
      (List.replicate rounds block).flatten ++ block.take inside := by
  cases block with
  | nil =>
      have nothing : inside = 0 := Nat.le_zero.mp fits
      subst nothing
      simp [cycled]
  | cons item items =>
      have positive : 0 < (item :: items).length := Nat.succ_pos _
      have whole := length_replicate_flatten (item :: items) rounds
      have several : rounds ≤ rounds * (item :: items).length :=
        Nat.le_mul_of_pos_right rounds positive
      obtain ⟨more, rest⟩ := Nat.le.dest several
      rw [cycled, ← rest, Nat.add_assoc, replicate_flatten_add, ← Nat.add_assoc,
        rest, ← whole, List.take_length_add_append]
      congr 1
      cases inside with
      | zero => simp
      | succ inside =>
          rw [Nat.add_comm more, Nat.succ_add, List.replicate_succ,
            List.flatten_cons]
          exact List.take_append_of_le_length fits

theorem length_cycled (fits : inside ≤ block.length) :
    (cycled block (rounds * block.length + inside)).length =
      rounds * block.length + inside := by
  rw [cycled_eq fits, List.length_append, length_replicate_flatten,
    List.length_take, Nat.min_eq_left fits]

/-- The next part of the block continues its repetition. -/
theorem cycled_append (rounds : Nat)
    (fits : inside + count ≤ block.length) :
    cycled block (rounds * block.length + inside) ++
        (block.drop inside).take count =
      cycled block (rounds * block.length + (inside + count)) := by
  rw [cycled_eq (by omega), cycled_eq fits, List.append_assoc,
    ← List.take_add]

section Chunks

variable (cut : content.length = rounds * block.length + inside)
  (fits : inside + chunk.length ≤ block.length)

include cut fits

/-- A repetition that ends inside a block goes on with the rest of it. -/
theorem extend_cycled (repeats : content = cycled block content.length)
    (next : (block.drop inside).take chunk.length = chunk) :
    content ++ chunk = cycled block (content ++ chunk).length := by
  have further := cycled_append rounds fits
  rw [next, ← cut, ← repeats, ← Nat.add_assoc, ← cut,
    ← List.length_append] at further
  exact further

theorem chunk_of_cycled
    (repeats : content ++ chunk = cycled block (content ++ chunk).length) :
    (block.drop inside).take chunk.length = chunk := by
  have further := cycled_append rounds fits
  rw [List.length_append, cut, Nat.add_assoc, ← further] at repeats
  have lengths : content.length =
      (cycled block (rounds * block.length + inside)).length := by
    rw [length_cycled (Nat.le_of_add_right_le fits), cut]
  exact (List.append_inj repeats lengths).2.symm

end Chunks

theorem take_cycled (less : fewer ≤ count) :
    (cycled block count).take fewer = cycled block fewer := by
  cases block with
  | nil => simp [cycled]
  | cons item items =>
      obtain ⟨more, rfl⟩ := Nat.le.dest less
      have long : fewer ≤
          (List.replicate fewer (item :: items)).flatten.length := by
        rw [length_replicate_flatten]
        exact Nat.le_mul_of_pos_right fewer (Nat.succ_pos _)
      rw [cycled, cycled, List.take_take, Nat.min_eq_left less,
        replicate_flatten_add, List.take_append_of_le_length long]

theorem front_of_cycled (isPrefix : content <+: cycled block count) :
    content = cycled block content.length := by
  have short : (cycled block count).length ≤ count := List.length_take_le _ _
  have less : content.length ≤ count := Nat.le_trans isPrefix.length_le short
  rw [← take_cycled less]
  exact List.prefix_iff_eq_take.mp isPrefix

end AsioBenchmark.Stream
