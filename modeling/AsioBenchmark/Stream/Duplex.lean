import AsioBenchmark.Transition.System

/-!
# Two endpoints joined by in-order byte streams

Two endpoints, each with its own program, are joined by two unbounded byte
queues.  Bytes are delivered in order, in chunks of any size, and nothing is
lost: an endpoint whose peer has closed still receives every byte written
before the close, and only then sees the end of the stream.
-/

namespace AsioBenchmark.Stream

open AsioBenchmark.Transition

/-- What a step of an endpoint asks of the network. -/
inductive Traffic where
  | quiet
  | recv (chunk : List UInt8)
  | send (chunk : List UInt8)
  | readError
  | writeError
  | establishError
deriving DecidableEq

/-- An endpoint: its steps, what each asks of the network, and whether its
socket is open. -/
structure Endpoint (State Label : Type) where
  step : State → Label → Option State
  traffic : Label → Traffic
  isOpen : State → Bool

/-- The bytes on their way to an endpoint and those on their way from it. -/
structure Queues where
  incoming : List UInt8
  outgoing : List UInt8
deriving DecidableEq

/-- The effect of a request on the queues.  On a healthy network a read fails
only on a closed socket or at the end of the stream, a write only on a closed
socket or after the peer has closed, and connecting never fails. -/
def Traffic.carry (ownOpen peerOpen : Bool) (queues : Queues) :
    Traffic → Option Queues
  | .quiet => some queues
  | .recv chunk =>
      if chunk <+: queues.incoming then
        some { queues with incoming := queues.incoming.drop chunk.length }
      else none
  | .send chunk =>
      some { queues with outgoing := queues.outgoing ++ chunk }
  | .readError =>
      if ownOpen = false ∨ peerOpen = false ∧ queues.incoming = [] then
        some queues
      else none
  | .writeError =>
      if ownOpen = false ∨ peerOpen = false then some queues else none
  | .establishError => none

/-- Both endpoints and the bytes in flight in both directions. -/
structure Joined (Left Right : Type) where
  left : Left
  right : Right
  toRight : List UInt8
  toLeft : List UInt8

inductive Side (LeftLabel RightLabel : Type) where
  | left (label : LeftLabel)
  | right (label : RightLabel)
deriving DecidableEq

namespace Joined

variable {Left Right LeftLabel RightLabel : Type}

def stepLeft (left : Endpoint Left LeftLabel)
    (right : Endpoint Right RightLabel) (joined : Joined Left Right)
    (label : LeftLabel) : Option (Joined Left Right) :=
  (left.step joined.left label).bind fun next =>
    ((left.traffic label).carry (left.isOpen joined.left)
        (right.isOpen joined.right) ⟨joined.toLeft, joined.toRight⟩).map
      fun queues =>
        { joined with
          left := next
          toLeft := queues.incoming
          toRight := queues.outgoing }

def stepRight (left : Endpoint Left LeftLabel)
    (right : Endpoint Right RightLabel) (joined : Joined Left Right)
    (label : RightLabel) : Option (Joined Left Right) :=
  (right.step joined.right label).bind fun next =>
    ((right.traffic label).carry (right.isOpen joined.right)
        (left.isOpen joined.left) ⟨joined.toRight, joined.toLeft⟩).map
      fun queues =>
        { joined with
          right := next
          toRight := queues.incoming
          toLeft := queues.outgoing }

/-- Any interleaving of the steps of both endpoints. -/
def step (left : Endpoint Left LeftLabel)
    (right : Endpoint Right RightLabel) (joined : Joined Left Right) :
    Side LeftLabel RightLabel → Option (Joined Left Right)
  | .left label => stepLeft left right joined label
  | .right label => stepRight left right joined label

variable {left : Endpoint Left LeftLabel}
  {right : Endpoint Right RightLabel} {joined next : Joined Left Right}

theorem stepLeft_eq_some_iff {label : LeftLabel} :
    stepLeft left right joined label = some next ↔
      left.step joined.left label = some next.left ∧
        (left.traffic label).carry (left.isOpen joined.left)
            (right.isOpen joined.right) ⟨joined.toLeft, joined.toRight⟩ =
          some ⟨next.toLeft, next.toRight⟩ ∧
        next.right = joined.right := by
  obtain ⟨nextLeft, nextRight, nextToRight, nextToLeft⟩ := next
  simp only [stepLeft, Option.bind_eq_some_iff, Option.map_eq_some_iff,
    Joined.mk.injEq]
  constructor
  · rintro ⟨moved, taken, queues, carried, rfl, rfl, rfl, rfl⟩
    exact ⟨taken, carried, rfl⟩
  · rintro ⟨taken, carried, rfl⟩
    exact ⟨nextLeft, taken, _, carried, rfl, rfl, rfl, rfl⟩

theorem stepRight_eq_some_iff {label : RightLabel} :
    stepRight left right joined label = some next ↔
      right.step joined.right label = some next.right ∧
        (right.traffic label).carry (right.isOpen joined.right)
            (left.isOpen joined.left) ⟨joined.toRight, joined.toLeft⟩ =
          some ⟨next.toRight, next.toLeft⟩ ∧
        next.left = joined.left := by
  obtain ⟨nextLeft, nextRight, nextToRight, nextToLeft⟩ := next
  simp only [stepRight, Option.bind_eq_some_iff, Option.map_eq_some_iff,
    Joined.mk.injEq]
  constructor
  · rintro ⟨moved, taken, queues, carried, rfl, rfl, rfl, rfl⟩
    exact ⟨taken, carried, rfl⟩
  · rintro ⟨taken, carried, rfl⟩
    exact ⟨nextRight, taken, _, carried, rfl, rfl, rfl, rfl⟩

end Joined

/-! ## The two sides of a run -/

namespace Side

variable {LeftItem RightItem : Type}

def lefts : List (Side LeftItem RightItem) → List LeftItem :=
  List.filterMap fun
    | .left item => some item
    | .right _ => none

def rights : List (Side LeftItem RightItem) → List RightItem :=
  List.filterMap fun
    | .left _ => none
    | .right item => some item

variable (items new : List (Side LeftItem RightItem))

theorem lefts_append : lefts (items ++ new) = lefts items ++ lefts new :=
  List.filterMap_append

theorem rights_append : rights (items ++ new) = rights items ++ rights new :=
  List.filterMap_append

@[simp] theorem lefts_map_left (own : List LeftItem) :
    lefts (own.map (.left : LeftItem → Side LeftItem RightItem)) = own := by
  rw [lefts, List.filterMap_map]
  exact List.filterMap_some

@[simp] theorem lefts_map_right (other : List RightItem) :
    lefts (other.map (.right : RightItem → Side LeftItem RightItem)) = [] := by
  rw [lefts, List.filterMap_map]
  exact List.filterMap_eq_nil_iff.mpr fun _ _ => rfl

@[simp] theorem rights_map_left (other : List LeftItem) :
    rights (other.map (.left : LeftItem → Side LeftItem RightItem)) = [] := by
  rw [rights, List.filterMap_map]
  exact List.filterMap_eq_nil_iff.mpr fun _ _ => rfl

@[simp] theorem rights_map_right (own : List RightItem) :
    rights (own.map (.right : RightItem → Side LeftItem RightItem)) = own := by
  rw [rights, List.filterMap_map]
  exact List.filterMap_some

end Side

namespace Joined

variable {Left Right LeftLabel RightLabel LeftEvent RightEvent : Type}

/-- An observer of both endpoints. -/
def observe (observeLeft : Left → LeftLabel → Left → List LeftEvent)
    (observeRight : Right → RightLabel → Right → List RightEvent)
    (joined : Joined Left Right) :
    Side LeftLabel RightLabel → Joined Left Right →
      List (Side LeftEvent RightEvent)
  | .left label, next =>
      (observeLeft joined.left label next.left).map .left
  | .right label, next =>
      (observeRight joined.right label next.right).map .right

end Joined

/-! ## What the network allows -/

namespace Traffic

/-- The bytes that a sequence of requests hands to the network. -/
def sent : List Traffic → List UInt8 :=
  List.flatMap fun
    | .send chunk => chunk
    | _ => []

/-- The bytes that a sequence of requests takes from the network. -/
def received : List Traffic → List UInt8 :=
  List.flatMap fun
    | .recv chunk => chunk
    | _ => []

theorem sent_append (requests more : List Traffic) :
    sent (requests ++ more) = sent requests ++ sent more :=
  List.flatMap_append

theorem received_append (requests more : List Traffic) :
    received (requests ++ more) = received requests ++ received more :=
  List.flatMap_append

variable {ownOpen peerOpen : Bool} {queues after : Queues}

@[simp] theorem carry_quiet :
    quiet.carry ownOpen peerOpen queues = some queues := rfl

@[simp] theorem carry_send {chunk : List UInt8} :
    (send chunk).carry ownOpen peerOpen queues =
      some { queues with outgoing := queues.outgoing ++ chunk } := rfl

@[simp] theorem carry_establishError :
    establishError.carry ownOpen peerOpen queues = none := rfl

theorem carry_recv_eq_some_iff {chunk : List UInt8} :
    (recv chunk).carry ownOpen peerOpen queues = some after ↔
      queues.incoming = chunk ++ after.incoming ∧
        after.outgoing = queues.outgoing := by
  obtain ⟨incoming, outgoing⟩ := queues
  obtain ⟨incomingAfter, outgoingAfter⟩ := after
  simp only [carry, Option.ite_none_right_eq_some, Option.some.injEq,
    Queues.mk.injEq]
  constructor
  · rintro ⟨⟨rest, rfl⟩, rfl, rfl⟩
    simp
  · rintro ⟨rfl, rfl⟩
    simp

theorem carry_readError_eq_some_iff :
    readError.carry ownOpen peerOpen queues = some after ↔
      (ownOpen = false ∨ peerOpen = false ∧ queues.incoming = []) ∧
        after = queues := by
  simp only [carry, Option.ite_none_right_eq_some, Option.some.injEq,
    eq_comm]

theorem carry_writeError_eq_some_iff :
    writeError.carry ownOpen peerOpen queues = some after ↔
      (ownOpen = false ∨ peerOpen = false) ∧ after = queues := by
  simp only [carry, Option.ite_none_right_eq_some, Option.some.injEq,
    eq_comm]

/-- A request adds to one queue what it sends and takes from the other what it
receives. -/
theorem carry_bytes {traffic : Traffic}
    (carried : traffic.carry ownOpen peerOpen queues = some after) :
    after.outgoing = queues.outgoing ++ sent [traffic] ∧
      queues.incoming = received [traffic] ++ after.incoming := by
  cases traffic with
  | quiet =>
      cases carried
      simp [sent, received]
  | recv chunk =>
      obtain ⟨incoming, outgoing⟩ := carry_recv_eq_some_iff.mp carried
      simp [sent, received, incoming, outgoing]
  | send chunk =>
      cases carried
      simp [sent, received]
  | readError =>
      obtain ⟨_, rfl⟩ := carry_readError_eq_some_iff.mp carried
      simp [sent, received]
  | writeError =>
      obtain ⟨_, rfl⟩ := carry_writeError_eq_some_iff.mp carried
      simp [sent, received]
  | establishError => cases carried

end Traffic

/-! ## Runs of joined endpoints -/

namespace Joined

variable {Left Right LeftLabel RightLabel LeftEvent RightEvent : Type}
  {left : Endpoint Left LeftLabel} {right : Endpoint Right RightLabel}
  {system : System (Joined Left Right) (Side LeftLabel RightLabel)}
  {leftSystem : System Left LeftLabel}
  {rightSystem : System Right RightLabel}
  {observeLeft : Left → LeftLabel → Left → List LeftEvent}
  {observeRight : Right → RightLabel → Right → List RightEvent}
  {labels : List (Side LeftLabel RightLabel)}

/-- A step of the pair is a step of the left endpoint, or leaves it alone. -/
private theorem step_left (steps : system.step = step left right)
    (leftSteps : leftSystem.step = left.step)
    {recorded next : Joined Left Right × List (Side LeftEvent RightEvent)}
    {label : Side LeftLabel RightLabel}
    (taken : (system.recording (observe observeLeft observeRight)).step
      recorded label = some next) :
    (leftSystem.recording observeLeft).Run
      (recorded.1.left, Side.lefts recorded.2) (Side.lefts [label])
      (next.1.left, Side.lefts next.2) := by
  obtain ⟨moved, history⟩ := System.recording_step_iff.mp taken
  rw [steps] at moved
  rw [history, Side.lefts_append]
  cases label with
  | left label =>
      obtain ⟨stepped, _, _⟩ := stepLeft_eq_some_iff.mp moved
      apply System.Run.single
      refine System.recording_step_iff.mpr ⟨?_, ?_⟩
      · rw [leftSteps]
        exact stepped
      · rw [observe, Side.lefts_map_left]
  | right label =>
      obtain ⟨_, _, same⟩ := stepRight_eq_some_iff.mp moved
      rw [observe, Side.lefts_map_right, List.append_nil, same]
      exact .refl

private theorem step_right (steps : system.step = step left right)
    (rightSteps : rightSystem.step = right.step)
    {recorded next : Joined Left Right × List (Side LeftEvent RightEvent)}
    {label : Side LeftLabel RightLabel}
    (taken : (system.recording (observe observeLeft observeRight)).step
      recorded label = some next) :
    (rightSystem.recording observeRight).Run
      (recorded.1.right, Side.rights recorded.2) (Side.rights [label])
      (next.1.right, Side.rights next.2) := by
  obtain ⟨moved, history⟩ := System.recording_step_iff.mp taken
  rw [steps] at moved
  rw [history, Side.rights_append]
  cases label with
  | left label =>
      obtain ⟨_, _, same⟩ := stepLeft_eq_some_iff.mp moved
      rw [observe, Side.rights_map_left, List.append_nil, same]
      exact .refl
  | right label =>
      obtain ⟨stepped, _, _⟩ := stepRight_eq_some_iff.mp moved
      apply System.Run.single
      refine System.recording_step_iff.mpr ⟨?_, ?_⟩
      · rw [rightSteps]
        exact stepped
      · rw [observe, Side.rights_map_right]

/-- The left endpoint performs a run of its own. -/
theorem run_left (steps : system.step = step left right)
    (leftSteps : leftSystem.step = left.step)
    {start finish : Joined Left Right × List (Side LeftEvent RightEvent)}
    (run : (system.recording (observe observeLeft observeRight)).Run start
      labels finish) :
    (leftSystem.recording observeLeft).Run
      (start.1.left, Side.lefts start.2) (Side.lefts labels)
      (finish.1.left, Side.lefts finish.2) := by
  induction run with
  | refl => exact .refl
  | snoc _ taken induction =>
      rw [Side.lefts_append]
      exact induction.append (step_left steps leftSteps taken)

/-- The right endpoint performs a run of its own. -/
theorem run_right (steps : system.step = step left right)
    (rightSteps : rightSystem.step = right.step)
    {start finish : Joined Left Right × List (Side LeftEvent RightEvent)}
    (run : (system.recording (observe observeLeft observeRight)).Run start
      labels finish) :
    (rightSystem.recording observeRight).Run
      (start.1.right, Side.rights start.2) (Side.rights labels)
      (finish.1.right, Side.rights finish.2) := by
  induction run with
  | refl => exact .refl
  | snoc _ taken induction =>
      rw [Side.rights_append]
      exact induction.append (step_right steps rightSteps taken)

/-- In either direction, what was sent is what was received followed by what
is in transit. -/
theorem run_in_transit (steps : system.step = step left right)
    {start finish : Joined Left Right}
    (run : system.Run start labels finish) :
    start.toRight ++ Traffic.sent ((Side.lefts labels).map left.traffic) =
        Traffic.received ((Side.rights labels).map right.traffic) ++
          finish.toRight ∧
      start.toLeft ++ Traffic.sent ((Side.rights labels).map right.traffic) =
        Traffic.received ((Side.lefts labels).map left.traffic) ++
          finish.toLeft := by
  induction run with
  | refl => simp [Side.lefts, Side.rights, Traffic.sent, Traffic.received]
  | @snoc labels middle finish label _ taken induction =>
      obtain ⟨toRight, toLeft⟩ := induction
      rw [steps] at taken
      rw [Side.lefts_append, Side.rights_append, List.map_append,
        List.map_append]
      simp only [Traffic.sent, Traffic.received,
        List.flatMap_append] at toRight toLeft ⊢
      cases label with
      | left label =>
          obtain ⟨_, carried, _⟩ := stepLeft_eq_some_iff.mp taken
          obtain ⟨outgoing, incoming⟩ := Traffic.carry_bytes carried
          simp only [Traffic.sent, Traffic.received] at outgoing incoming
          constructor
          · change _ ++ (_ ++ List.flatMap _ [left.traffic label]) =
              (_ ++ []) ++ _
            rw [← List.append_assoc, toRight, outgoing]
            simp
          · change _ ++ (_ ++ []) =
              (_ ++ List.flatMap _ [left.traffic label]) ++ _
            rw [List.append_nil, toLeft, incoming]
            simp
      | right label =>
          obtain ⟨_, carried, _⟩ := stepRight_eq_some_iff.mp taken
          obtain ⟨outgoing, incoming⟩ := Traffic.carry_bytes carried
          simp only [Traffic.sent, Traffic.received] at outgoing incoming
          constructor
          · change _ ++ (_ ++ []) =
              (_ ++ List.flatMap _ [right.traffic label]) ++ _
            rw [List.append_nil, toRight, incoming]
            simp
          · change _ ++ (_ ++ List.flatMap _ [right.traffic label]) =
              (_ ++ []) ++ _
            rw [← List.append_assoc, toLeft, outgoing]
            simp

end Joined

end AsioBenchmark.Stream
