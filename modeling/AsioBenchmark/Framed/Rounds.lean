import Mathlib.Data.Nat.Basic

/-!
# The exchange as a sequence of rounds

What a client and a server that count messages up to their own limits do,
without buffers and bytes: in round `i` the client sends message `2i + 1`, the
server answers with message `2i + 2`, and each side stops at the first message
it handles that reaches its limit.
-/

namespace AsioBenchmark.Framed

/-- Where the exchange is.  In `refused` the server has stopped while request
`round` is outstanding; `received` tells whether it had read that request. -/
inductive Phase where
  | connecting
  | request (round : Nat)
  | reply (round : Nat)
  | refused (round : Nat) (received : Bool)
  | finished (round : Nat)
deriving DecidableEq, Repr

namespace Phase

/-- One step of the exchange with limits `clientLimit` and `serverLimit`. -/
inductive Step (clientLimit serverLimit : Nat) : Phase → Phase → Prop where
  | connect : Step clientLimit serverLimit .connecting (.request 0)
  | answer {round : Nat} (below : 2 * round + 1 < serverLimit) :
      Step clientLimit serverLimit (.request round) (.reply round)
  | refuse {round : Nat} (reached : serverLimit ≤ 2 * round + 1)
      (listened : round = 0 ∨ 2 * round < serverLimit) :
      Step clientLimit serverLimit (.request round) (.refused round true)
  | stopped {round : Nat} (later : 0 < round)
      (reached : serverLimit ≤ 2 * round) :
      Step clientLimit serverLimit (.request round) (.refused round false)
  | ask {round : Nat} (below : 2 * round + 2 < clientLimit) :
      Step clientLimit serverLimit (.reply round) (.request (round + 1))
  | unheard {round : Nat} (below : 2 * round + 2 < clientLimit)
      (reached : serverLimit ≤ 2 * round + 2) :
      Step clientLimit serverLimit (.reply round)
        (.refused (round + 1) false)
  | finish {round : Nat} (reached : clientLimit ≤ 2 * round + 2) :
      Step clientLimit serverLimit (.reply round) (.finished round)

/-- What the limits say about the phases that are reached. -/
def Valid (clientLimit serverLimit : Nat) : Phase → Prop
  | .connecting => True
  | .request round =>
      round = 0 ∨ 2 * round < clientLimit ∧ 2 * round ≤ serverLimit
  | .reply round =>
      (round = 0 ∨ 2 * round < clientLimit) ∧ 2 * round + 1 < serverLimit
  | .refused round true =>
      (round = 0 ∨ 2 * round < clientLimit ∧ 2 * round < serverLimit) ∧
        serverLimit ≤ 2 * round + 1
  | .refused round false =>
      0 < round ∧ 2 * round < clientLimit ∧ serverLimit = 2 * round
  | .finished round =>
      (round = 0 ∨ 2 * round < clientLimit) ∧
        clientLimit ≤ 2 * round + 2 ∧ 2 * round + 1 < serverLimit

variable {clientLimit serverLimit : Nat} {phase next : Phase}

theorem Valid.step (valid : phase.Valid clientLimit serverLimit)
    (taken : Step clientLimit serverLimit phase next) :
    next.Valid clientLimit serverLimit := by
  cases taken with
  | connect => exact .inl rfl
  | answer below =>
      simp only [Valid] at valid ⊢
      omega
  | refuse reached listened =>
      simp only [Valid] at valid ⊢
      omega
  | stopped later reached =>
      simp only [Valid] at valid ⊢
      omega
  | ask below =>
      simp only [Valid] at valid ⊢
      omega
  | unheard below reached =>
      simp only [Valid] at valid ⊢
      omega
  | finish reached =>
      simp only [Valid] at valid ⊢
      omega

/-- Phases left before the exchange must end, for limits of 32 bits. -/
def index : Phase → Nat
  | .connecting => 2 * 4294967296 + 1
  | .request round => 2 * (4294967296 - round)
  | .reply round => 2 * (4294967296 - round) - 1
  | .refused _ _ => 0
  | .finished _ => 0

theorem Step.index_lt (valid : phase.Valid clientLimit serverLimit)
    (serverBounded : serverLimit < 4294967296)
    (taken : Step clientLimit serverLimit phase next) :
    next.index < phase.index := by
  cases taken <;> simp only [Valid] at valid <;> simp only [index] <;> omega

/-- The least even number that reaches both `limit` and `2`. -/
def lastEven (limit : Nat) : Nat :=
  2 * ((max limit 2 + 1) / 2)

theorem lastEven_isLeast (limit : Nat) :
    lastEven limit % 2 = 0 ∧ max limit 2 ≤ lastEven limit ∧
      ∀ number, number % 2 = 0 → max limit 2 ≤ number →
        lastEven limit ≤ number := by
  simp only [lastEven]
  refine ⟨by omega, by omega, ?_⟩
  intro number even above
  omega

/-- The client finishes in the round whose reply is the last even message of
its limit, and the server has allowed that reply. -/
theorem Valid.finished_lastEven {round : Nat}
    (valid : (Phase.finished round).Valid clientLimit serverLimit) :
    lastEven clientLimit = 2 * round + 2 ∧
      lastEven clientLimit ≤ serverLimit := by
  simp only [Valid] at valid
  simp only [lastEven]
  omega

/-- A refused client needed more messages than the server allows, and the
server stopped at its own limit. -/
theorem Valid.refused_lastEven {round : Nat} {received : Bool}
    (valid : (Phase.refused round received).Valid clientLimit serverLimit) :
    serverLimit < lastEven clientLimit ∧
      max serverLimit 1 = if received then 2 * round + 1 else 2 * round := by
  cases received <;> simp only [Valid] at valid <;> simp [lastEven] <;> omega

end Phase

end AsioBenchmark.Framed
