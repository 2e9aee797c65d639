import Mathlib.Data.List.Basic

/-!
# Fixed-size memory

A block of memory carries the proof of its own size.  Storing is offered only
for chunks that fit, so no operation of the model can write outside a block.
-/

namespace AsioBenchmark.Bytes

/-- A block of exactly `size` bytes. -/
structure Memory (size : Nat) where
  bytes : List UInt8
  length_eq : bytes.length = size
deriving DecidableEq

namespace Memory

variable {size : Nat}

@[ext] theorem ext {left right : Memory size}
    (same : left.bytes = right.bytes) : left = right := by
  cases left
  cases right
  cases same
  rfl

/-- A block that holds the same byte everywhere. -/
def filled (size : Nat) (value : UInt8) : Memory size :=
  { bytes := List.replicate size value
    length_eq := List.length_replicate }

/-- The `count` bytes from `offset` on. -/
def slice (memory : Memory size) (offset count : Nat) : List UInt8 :=
  (memory.bytes.drop offset).take count

/-- Overwrite the bytes from `offset` on by `chunk`. -/
def store (memory : Memory size) (offset : Nat) (chunk : List UInt8)
    (fits : offset + chunk.length ≤ size) : Memory size :=
  { bytes := memory.bytes.take offset ++ chunk ++
      memory.bytes.drop (offset + chunk.length)
    length_eq := by
      have length := memory.length_eq
      simp only [List.length_append, List.length_take, List.length_drop]
      omega }

theorem bytes_store (memory : Memory size) (offset : Nat)
    (chunk : List UInt8) (fits : offset + chunk.length ≤ size) :
    (memory.store offset chunk fits).bytes =
      memory.bytes.take offset ++ chunk ++
        memory.bytes.drop (offset + chunk.length) := rfl

theorem slice_zero (memory : Memory size) (count : Nat) :
    memory.slice 0 count = memory.bytes.take count := rfl

theorem length_slice {memory : Memory size} {offset count : Nat}
    (fits : offset + count ≤ size) :
    (memory.slice offset count).length = count := by
  have length := memory.length_eq
  simp only [slice, List.length_take, List.length_drop]
  omega

theorem length_slice_zero (memory : Memory size) (count : Nat) :
    (memory.slice 0 count).length = min count size := by
  rw [slice_zero, List.length_take, memory.length_eq]

theorem take_size (memory : Memory size) :
    memory.bytes.take size = memory.bytes :=
  List.take_of_length_le (Nat.le_of_eq memory.length_eq)

theorem drop_size (memory : Memory size) : memory.bytes.drop size = [] :=
  List.drop_of_length_le (Nat.le_of_eq memory.length_eq)

theorem drop_eq_of_slice (memory : Memory size) {offset : Nat}
    {chunk : List UInt8}
    (present : memory.slice offset chunk.length = chunk) :
    memory.bytes.drop offset =
      chunk ++ memory.bytes.drop (offset + chunk.length) := by
  conv_lhs => rw [← List.take_append_drop chunk.length
    (memory.bytes.drop offset)]
  rw [List.drop_drop]
  exact congrArg (· ++ _) present

theorem slice_length_slice (memory : Memory size) (count : Nat) :
    memory.slice 0 (memory.slice 0 count).length = memory.slice 0 count := by
  rw [slice_zero, slice_zero, List.length_take]
  exact (List.take_eq_take_min).symm

theorem take_store (memory : Memory size) (offset : Nat)
    (chunk : List UInt8) (fits : offset + chunk.length ≤ size) :
    (memory.store offset chunk fits).bytes.take (offset + chunk.length) =
      memory.bytes.take offset ++ chunk := by
  have length := memory.length_eq
  have front : (memory.bytes.take offset ++ chunk).length =
      offset + chunk.length := by
    simp only [List.length_append, List.length_take]
    omega
  exact List.take_left' front

/-- A chunk stored behind the first `count` bytes of the block. -/
theorem take_store_zero_add (memory : Memory size) (count : Nat)
    (chunk : List UInt8) (fits : 0 + count + chunk.length ≤ size) :
    (memory.store (0 + count) chunk fits).bytes.take (count + chunk.length) =
      memory.bytes.take count ++ chunk := by
  have stored := memory.take_store (0 + count) chunk fits
  simpa only [Nat.zero_add] using stored

theorem take_store_of_le (memory : Memory size) (offset : Nat)
    (chunk : List UInt8) (fits : offset + chunk.length ≤ size)
    {count : Nat} (before : count ≤ offset) :
    (memory.store offset chunk fits).bytes.take count =
      memory.bytes.take count := by
  have covered : offset ≤ (memory.bytes.take offset).length := by
    have length := memory.length_eq
    simp only [List.length_take]
    omega
  rw [bytes_store, List.append_assoc,
    List.take_append_of_le_length (by omega), List.take_take,
    Nat.min_eq_left before]

theorem drop_store (memory : Memory size) (offset : Nat)
    (chunk : List UInt8) (fits : offset + chunk.length ≤ size) :
    (memory.store offset chunk fits).bytes.drop (offset + chunk.length) =
      memory.bytes.drop (offset + chunk.length) := by
  have length := memory.length_eq
  have front : (memory.bytes.take offset ++ chunk).length =
      offset + chunk.length := by
    simp only [List.length_append, List.length_take]
    omega
  exact List.drop_left' front

theorem store_slice (memory : Memory size) (offset : Nat)
    (chunk : List UInt8) (fits : offset + chunk.length ≤ size)
    (present : memory.slice offset chunk.length = chunk) :
    memory.store offset chunk fits = memory := by
  apply ext
  have rest := memory.drop_eq_of_slice present
  calc
    (memory.store offset chunk fits).bytes =
        memory.bytes.take offset ++
          (chunk ++ memory.bytes.drop (offset + chunk.length)) := by
      simp only [store, List.append_assoc]
    _ = memory.bytes.take offset ++ memory.bytes.drop offset := by rw [rest]
    _ = memory.bytes := List.take_append_drop offset memory.bytes

end Memory

end AsioBenchmark.Bytes
