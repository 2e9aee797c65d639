import AsioBenchmark.Transition.System
import AsioBenchmark.Transition.Total

/-!
# Components under a common control

Finitely many components move one at a time, each by the steps of its own
system.  A control state may hold some of their steps back, and moves on its
own when the components allow it.  Whatever the interleaving, every component
goes through a run of its own system, and when the components and the control
come to an end so does the whole.
-/

namespace AsioBenchmark.Transition

universe u v w x

/-- `permits` is asked before a component's step; `move` is a step of the
control. -/
structure Composition (size : Nat) (Component : Type u) (Label : Type v)
    (Control : Type w) (Move : Type x) where
  component : System Component Label
  permits : Control → Fin size → Label → Bool
  move : Control → (Fin size → Component) → Move → Option Control

structure Composed (size : Nat) (Component : Type u) (Control : Type w) where
  components : Fin size → Component
  control : Control

inductive Turn (size : Nat) (Label : Type v) (Move : Type x) where
  | own (index : Fin size) (label : Label)
  | control (move : Move)
deriving DecidableEq

section Turns

variable {size : Nat} {Label : Type v} {Move : Type x}

/-- The labels of the steps of one component. -/
def Turn.ofComponent (index : Fin size) : Turn size Label Move → Option Label
  | .own other label => if other = index then some label else none
  | .control _ => none

def Turn.ofControl : Turn size Label Move → Option Move
  | .own _ _ => none
  | .control move => some move

def ownTurns (labels : List (Turn size Label Move)) (index : Fin size) :
    List Label :=
  labels.filterMap (Turn.ofComponent index)

def controlTurns (labels : List (Turn size Label Move)) : List Move :=
  labels.filterMap Turn.ofControl

theorem ownTurns_own (labels : List (Turn size Label Move))
    (index : Fin size) (label : Label) :
    ownTurns (labels ++ [.own index label]) =
      Function.update (ownTurns labels) index
        (ownTurns labels index ++ [label]) := by
  funext other
  by_cases same : other = index
  · subst same
    simp [ownTurns, Turn.ofComponent]
  · rw [Function.update_of_ne same]
    simp [ownTurns, Turn.ofComponent, Ne.symm same]

theorem ownTurns_control (labels : List (Turn size Label Move)) (move : Move) :
    ownTurns (labels ++ [.control move]) = ownTurns labels := by
  funext other
  simp [ownTurns, Turn.ofComponent]

theorem controlTurns_own (labels : List (Turn size Label Move))
    (index : Fin size) (label : Label) :
    controlTurns (labels ++ [.own index label]) = controlTurns labels := by
  simp [controlTurns, Turn.ofControl]

theorem controlTurns_control (labels : List (Turn size Label Move))
    (move : Move) :
    controlTurns (labels ++ [.control move]) =
      controlTurns labels ++ [move] := by
  simp [controlTurns, Turn.ofControl]

theorem length_ownTurns (labels : List (Turn size Label Move)) :
    labels.length =
      total List.length (ownTurns labels) + (controlTurns labels).length := by
  induction labels using List.reverseRecOn with
  | nil => simp [total, ownTurns, controlTurns]
  | append_singleton labels label induction =>
      cases label with
      | own index label =>
          have changed := total_update List.length (ownTurns labels) index
            (ownTurns labels index ++ [label])
          rw [ownTurns_own, controlTurns_own]
          simp only [List.length_append, List.length_singleton] at changed ⊢
          omega
      | control move =>
          rw [ownTurns_control, controlTurns_control, List.length_append,
            List.length_append, induction]
          rfl

end Turns

namespace Composition

variable {size : Nat} {Component : Type u} {Label : Type v}
  {Control : Type w} {Move : Type x}

def step (composition : Composition size Component Label Control Move)
    (state : Composed size Component Control) :
    Turn size Label Move → Option (Composed size Component Control)
  | .own index label =>
      if composition.permits state.control index label then
        (composition.component.step (state.components index) label).map
          fun next =>
            { state with
              components := Function.update state.components index next }
      else none
  | .control move =>
      (composition.move state.control state.components move).map
        fun next => { state with control := next }

/-- The whole, from components in initial states. -/
def system (composition : Composition size Component Label Control Move)
    (Starting : Control → Prop) :
    System (Composed size Component Control) (Turn size Label Move) where
  Initial state := Starting state.control ∧
    ∀ index, composition.component.Initial (state.components index)
  step := composition.step

variable {composition : Composition size Component Label Control Move}
  {Starting : Control → Prop}
  {start state next finish : Composed size Component Control}

theorem step_own_iff {index : Fin size} {label : Label} :
    (composition.system Starting).step state (.own index label) = some next ↔
      composition.permits state.control index label = true ∧
        next.control = state.control ∧
        ∃ moved, composition.component.step (state.components index) label =
            some moved ∧
          next.components =
            Function.update state.components index moved := by
  obtain ⟨components, control⟩ := next
  simp only [system, step]
  split
  · rename_i permitted
    simp only [permitted, true_and, Option.map_eq_some_iff,
      Composed.mk.injEq]
    constructor
    · rintro ⟨moved, taken, same, rfl⟩
      exact ⟨rfl, moved, taken, same.symm⟩
    · rintro ⟨rfl, moved, taken, rfl⟩
      exact ⟨moved, taken, rfl, rfl⟩
  · rename_i held
    simp [held]

theorem step_control_iff {move : Move} :
    (composition.system Starting).step state (.control move) = some next ↔
      next.components = state.components ∧
        composition.move state.control state.components move =
          some next.control := by
  obtain ⟨components, control⟩ := next
  simp only [system, step, Option.map_eq_some_iff, Composed.mk.injEq]
  constructor
  · rintro ⟨control, moved, rfl, rfl⟩
    exact ⟨rfl, moved⟩
  · rintro ⟨rfl, moved⟩
    exact ⟨control, moved, rfl, rfl⟩

/-- In every interleaving each component goes through a run of its own. -/
theorem run_component {labels : List (Turn size Label Move)}
    (run : (composition.system Starting).Run start labels finish)
    (index : Fin size) :
    composition.component.Run (start.components index)
      (ownTurns labels index) (finish.components index) := by
  induction run with
  | refl => exact .refl
  | @snoc labels middle finish label _ taken induction =>
      cases label with
      | own other label =>
          obtain ⟨_, _, moved, stepped, changed⟩ := step_own_iff.mp taken
          rw [ownTurns_own, changed]
          by_cases same : index = other
          · subst same
            rw [Function.update_self, Function.update_self]
            exact induction.snoc stepped
          · rw [Function.update_of_ne same, Function.update_of_ne same]
            exact induction
      | control move =>
          obtain ⟨kept, _⟩ := step_control_iff.mp taken
          rw [ownTurns_control, kept]
          exact induction

/-- The control moves no more often than its rank allows. -/
theorem run_control {rank : Control → Nat}
    (decreases : ∀ control components move next,
      composition.move control components move = some next →
      rank next < rank control)
    {labels : List (Turn size Label Move)}
    (run : (composition.system Starting).Run start labels finish) :
    (controlTurns labels).length + rank finish.control ≤
      rank start.control := by
  induction run with
  | refl => simp [controlTurns]
  | @snoc labels middle finish label _ taken induction =>
      cases label with
      | own index label =>
          obtain ⟨_, kept, _⟩ := step_own_iff.mp taken
          rw [kept, controlTurns_own]
          exact induction
      | control move =>
          obtain ⟨_, moved⟩ := step_control_iff.mp taken
          have less := decreases _ _ _ _ moved
          rw [controlTurns_control, List.length_append,
            List.length_singleton]
          omega

/-- What holds of every run of each component bounds every run of the
whole. -/
theorem terminates {rank : Control → Nat}
    (decreases : ∀ control components move next,
      composition.move control components move = some next →
      rank next < rank control)
    (ends : ∀ index,
      composition.component.Terminates (start.components index)) :
    (composition.system Starting).Terminates start := by
  choose bound bounded using ends
  refine ⟨total id bound + rank start.control, ?_⟩
  intro labels finish run
  have moves := run_control decreases run
  have own : total List.length (ownTurns labels) ≤ total id bound :=
    Finset.sum_le_sum fun index _ =>
      bounded index _ _ (run_component run index)
  rw [length_ownTurns]
  omega

/-- An invariant of the control that the components' own steps keep. -/
theorem run_invariant
    {Holds : Control → (Fin size → Component) → Prop}
    (kept : ∀ control components index label moved,
      Holds control components →
      composition.component.step (components index) label = some moved →
      Holds control (Function.update components index moved))
    (moves : ∀ control components move next, Holds control components →
      composition.move control components move = some next →
      Holds next components)
    {labels : List (Turn size Label Move)}
    (initial : Holds start.control start.components)
    (run : (composition.system Starting).Run start labels finish) :
    Holds finish.control finish.components := by
  induction run with
  | refl => exact initial
  | @snoc labels middle finish label _ taken induction =>
      cases label with
      | own index label =>
          obtain ⟨_, same, moved, stepped, changed⟩ := step_own_iff.mp taken
          rw [same, changed]
          exact kept _ _ _ _ _ induction stepped
      | control move =>
          obtain ⟨same, moved⟩ := step_control_iff.mp taken
          rw [same]
          exact moves _ _ _ _ induction moved

theorem halted_iff :
    (composition.system Starting).Halted state ↔
      (∀ index label, composition.permits state.control index label = true →
        composition.component.step (state.components index) label = none) ∧
      ∀ move, composition.move state.control state.components move = none := by
  constructor
  · intro halted
    constructor
    · intro index label permitted
      have still := halted (.own index label)
      simpa [system, step, permitted] using still
    · intro move
      have still := halted (.control move)
      simpa [system, step] using still
  · rintro ⟨components, control⟩ label
    cases label with
    | own index label =>
        simp only [system, step]
        split
        · rename_i permitted
          simp [components index label permitted]
        · rfl
    | control move =>
        simp [system, step, control move]

end Composition

end AsioBenchmark.Transition
