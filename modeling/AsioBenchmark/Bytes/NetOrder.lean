import Mathlib.Data.List.Basic

/-!
# Words in network byte order

A 32-bit word as it lies in memory when it was stored in network order: four
bytes, most significant first.  `ntohl` and `htonl` are the conversions from
and to the value of the word; on such a word they do not depend on the byte
order of the host.
-/

namespace AsioBenchmark.Bytes

/-- Four bytes of memory, the first one first. -/
structure NetWord where
  first : UInt8
  second : UInt8
  third : UInt8
  fourth : UInt8
deriving DecidableEq, Repr

namespace NetWord

def bytes (word : NetWord) : List UInt8 :=
  [word.first, word.second, word.third, word.fourth]

/-- The four bytes at `offset`; bytes past the end read as zero. -/
def load (memory : List UInt8) (offset : Nat) : NetWord :=
  { first := memory.getD offset 0
    second := memory.getD (offset + 1) 0
    third := memory.getD (offset + 2) 0
    fourth := memory.getD (offset + 3) 0 }

/-- Loading looks only at the four bytes it is about. -/
theorem load_take (memory : List UInt8) (offset count : Nat)
    (inside : offset + 4 ≤ count) :
    load (memory.take count) offset = load memory offset := by
  have first : offset < count := by omega
  have second : offset + 1 < count := by omega
  have third : offset + 2 < count := by omega
  have fourth : offset + 3 < count := by omega
  simp [load, List.getD_eq_getElem?_getD, first, second, third, fourth]

end NetWord

/-- The value of a word stored in network order. -/
def ntohl (word : NetWord) : UInt32 :=
  UInt32.ofNat (16777216 * word.first.toNat + 65536 * word.second.toNat +
    256 * word.third.toNat + word.fourth.toNat)

/-- The word that stores a value in network order. -/
def htonl (value : UInt32) : NetWord :=
  { first := UInt8.ofNat (value.toNat / 16777216)
    second := UInt8.ofNat (value.toNat / 65536)
    third := UInt8.ofNat (value.toNat / 256)
    fourth := UInt8.ofNat value.toNat }

@[simp] theorem ntohl_htonl (value : UInt32) : ntohl (htonl value) = value := by
  apply UInt32.toNat_inj.mp
  have below : value.toNat < 4294967296 := value.toNat_lt
  simp only [ntohl, htonl, UInt8.toNat_ofNat', UInt32.toNat_ofNat']
  omega

end AsioBenchmark.Bytes
