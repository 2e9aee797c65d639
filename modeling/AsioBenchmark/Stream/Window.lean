import Mathlib.Data.List.Basic

/-!
# The part of a message that is in flight

When `sent` bytes of a message have been written and `received` of them have
been read, an in-order channel that carried nothing else holds the window in
between.
-/

namespace AsioBenchmark.Stream

/-- `channel` holds the items `received, …, sent - 1` of `message`. -/
structure Window {α : Type} (message : List α) (received sent : Nat)
    (channel : List α) : Prop where
  ordered : received ≤ sent
  bounded : sent ≤ message.length
  content : channel = (message.drop received).take (sent - received)

namespace Window

variable {α : Type} {message channel chunk rest : List α}
  {received sent : Nat}

theorem empty (bounded : sent ≤ message.length) :
    Window message sent sent [] :=
  { ordered := Nat.le_refl sent
    bounded := bounded
    content := by simp }

theorem length_eq (window : Window message received sent channel) :
    channel.length = sent - received := by
  have ordered := window.ordered
  have bounded := window.bounded
  rw [window.content, List.length_take, List.length_drop]
  omega

/-- An empty channel means that all that was sent was received. -/
theorem eq_of_nil (window : Window message received sent []) :
    received = sent := by
  have length := window.length_eq
  have ordered := window.ordered
  simp only [List.length_nil] at length
  omega

/-- Writing the next items of the message extends the window. -/
theorem send (window : Window message received sent channel)
    (room : sent + chunk.length ≤ message.length)
    (next : (message.drop sent).take chunk.length = chunk) :
    Window message received (sent + chunk.length) (channel ++ chunk) := by
  have ordered := window.ordered
  have reach : received + (sent - received) = sent := by omega
  refine ⟨by omega, room, ?_⟩
  calc
    channel ++ chunk =
        (message.drop received).take (sent - received) ++
          ((message.drop received).drop (sent - received)).take
            chunk.length := by
      rw [List.drop_drop, reach, next, window.content]
    _ = (message.drop received).take (sent - received + chunk.length) :=
      List.take_add.symm
    _ = (message.drop received).take (sent + chunk.length - received) := by
      congr 1
      omega

/-- What is read from the channel are the next items of the message. -/
theorem recv (window : Window message received sent (chunk ++ rest)) :
    received + chunk.length ≤ sent ∧
      (message.drop received).take chunk.length = chunk ∧
      Window message (received + chunk.length) sent rest := by
  have length := window.length_eq
  have ordered := window.ordered
  simp only [List.length_append] at length
  have inside : received + chunk.length ≤ sent := by omega
  have front : (message.drop received).take chunk.length = chunk := by
    have cut := congrArg (List.take chunk.length) window.content
    rw [List.take_left, List.take_take,
      Nat.min_eq_left (by omega)] at cut
    exact cut.symm
  have back := congrArg (List.drop chunk.length) window.content
  rw [List.drop_left, List.drop_take, List.drop_drop] at back
  refine ⟨inside, front, inside, window.bounded, ?_⟩
  rw [back]
  congr 1
  omega

end Window

end AsioBenchmark.Stream
