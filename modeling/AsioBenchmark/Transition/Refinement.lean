import AsioBenchmark.Transition.System

/-!
# Refinement with stuttering steps

A system refines a specification along a function of its states when each of
its steps either changes nothing that the specification sees, or is matched by
one step of the specification that shows the same events.
-/

namespace AsioBenchmark.Transition

universe u v w

namespace System

variable {State SpecState : Type u} {Label SpecLabel : Type v}
  {Event SpecEvent Visible : Type w}

/-- `Holds` is the invariant under which the steps are matched.  Only events
with a visible part are compared. -/
structure Refinement (system : System State Label)
    (spec : System SpecState SpecLabel)
    (observe : State → Label → State → List Event)
    (observeSpec : SpecState → SpecLabel → SpecState → List SpecEvent)
    (visible : Event → Option Visible)
    (visibleSpec : SpecEvent → Option Visible)
    (Holds : State → Prop) (abstraction : State → SpecState) : Prop where
  preserved : ∀ state label next, Holds state →
    system.step state label = some next → Holds next
  matched : ∀ state label next, Holds state →
    system.step state label = some next →
    (abstraction next = abstraction state ∧
        (observe state label next).filterMap visible = []) ∨
      ∃ specLabel,
        spec.step (abstraction state) specLabel = some (abstraction next) ∧
          (observeSpec (abstraction state) specLabel
            (abstraction next)).filterMap visibleSpec =
              (observe state label next).filterMap visible

variable {system : System State Label} {spec : System SpecState SpecLabel}
  {observe : State → Label → State → List Event}
  {observeSpec : SpecState → SpecLabel → SpecState → List SpecEvent}
  {visible : Event → Option Visible}
  {visibleSpec : SpecEvent → Option Visible}
  {Holds : State → Prop} {abstraction : State → SpecState}

/-- Every run is matched by a run of the specification that shows the same. -/
theorem Refinement.run
    (refines : Refinement system spec observe observeSpec visible visibleSpec
      Holds abstraction)
    {start : State} (initial : Holds start) {labels : List Label}
    {recorded : State × List Event}
    (run : (system.recording observe).Run (start, []) labels recorded) :
    Holds recorded.1 ∧
      ∃ specLabels specEvents,
        (spec.recording observeSpec).Run (abstraction start, []) specLabels
          (abstraction recorded.1, specEvents) ∧
        specEvents.filterMap visibleSpec = recorded.2.filterMap visible := by
  induction run using Run.recorded_induction with
  | refl => exact ⟨initial, [], [], .refl, rfl⟩
  | snoc _ moved induction =>
      obtain ⟨holds, specLabels, specEvents, specRun, same⟩ := induction
      refine ⟨refines.preserved _ _ _ holds moved, ?_⟩
      rw [List.filterMap_append, ← same]
      rcases refines.matched _ _ _ holds moved with
        ⟨stutters, hidden⟩ | ⟨specLabel, specMoved, shown⟩
      · refine ⟨specLabels, specEvents, ?_, ?_⟩
        · rw [stutters]
          exact specRun
        · rw [hidden, List.append_nil]
      · refine ⟨specLabels ++ [specLabel], _,
          specRun.snoc_recorded specMoved, ?_⟩
        rw [List.filterMap_append, shown]

end System

end AsioBenchmark.Transition
