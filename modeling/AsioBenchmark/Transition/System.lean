import Mathlib.Data.List.Induction

/-!
# Labelled transition systems

A system is a set of initial states and a partial step function.  The label
of a step carries every choice the environment makes, so a list of labels
determines at most one run.  The file provides runs, reachable states, the
invariant rule, the rank rule for termination, the account rule for the number
of steps, and the extension of a system by a history of observed events.
-/

namespace AsioBenchmark.Transition

universe u v w

/-- Initial states and a step function whose labels resolve every choice. -/
structure System (State : Type u) (Label : Type v) where
  Initial : State → Prop
  step : State → Label → Option State

namespace System

variable {State : Type u} {Label : Type v} {Event : Type w}

/-- `system.Run start labels finish`: performing `labels` in order leads from
`start` to `finish`. -/
inductive Run (system : System State Label) (start : State) :
    List Label → State → Prop where
  | refl : Run system start [] start
  | snoc {labels : List Label} {middle finish : State} {label : Label} :
      Run system start labels middle →
      system.step middle label = some finish →
      Run system start (labels ++ [label]) finish

/-- The same runs, computed from the labels. -/
def exec (system : System State Label) : State → List Label → Option State
  | state, [] => some state
  | state, label :: labels =>
      (system.step state label).bind fun next => system.exec next labels

/-- No step leaves `state`. -/
def Halted (system : System State Label) (state : State) : Prop :=
  ∀ label, system.step state label = none

/-- Every state passed by the run `labels` from `start` satisfies `Holds`. -/
def Always (system : System State Label) (start : State)
    (labels : List Label) (Holds : State → Prop) : Prop :=
  ∀ before state, before <+: labels → system.Run start before state →
    Holds state

/-- Every step of the run `labels` from `start` is taken where `Permits` allows
its label. -/
def EachStep (system : System State Label) (start : State)
    (labels : List Label) (Permits : State → Label → Prop) : Prop :=
  ∀ before label state, before ++ [label] <+: labels →
    system.Run start before state → Permits state label

/-- Runs from `start` have bounded length. -/
def Terminates (system : System State Label) (start : State) : Prop :=
  ∃ bound, ∀ labels finish, system.Run start labels finish →
    labels.length ≤ bound

section Runs

variable {system : System State Label}

theorem exec_append (start : State) (first second : List Label) :
    system.exec start (first ++ second) =
      (system.exec start first).bind fun middle =>
        system.exec middle second := by
  induction first generalizing start with
  | nil => rfl
  | cons label labels induction =>
      simp only [List.cons_append, exec, Option.bind_assoc, induction]

theorem run_iff_exec {start finish : State} {labels : List Label} :
    system.Run start labels finish ↔
      system.exec start labels = some finish := by
  constructor
  · intro run
    induction run with
    | refl => rfl
    | @snoc labels middle finish label before taken induction =>
        rw [exec_append, induction]
        simp [exec, taken]
  · induction labels using List.reverseRecOn generalizing finish with
    | nil =>
        intro executed
        cases executed
        exact .refl
    | append_singleton labels label induction =>
        intro executed
        rw [exec_append] at executed
        obtain ⟨middle, before, last⟩ := Option.bind_eq_some_iff.mp executed
        obtain ⟨next, taken, rest⟩ := Option.bind_eq_some_iff.mp last
        cases rest
        exact .snoc (induction before) taken

theorem Run.deterministic {start left right : State} {labels : List Label}
    (first : system.Run start labels left)
    (second : system.Run start labels right) : left = right := by
  have equality : some left = some right :=
    (run_iff_exec.mp first).symm.trans (run_iff_exec.mp second)
  exact Option.some.inj equality

theorem Run.append {start middle finish : State}
    {first second : List Label}
    (before : system.Run start first middle)
    (after : system.Run middle second finish) :
    system.Run start (first ++ second) finish := by
  rw [run_iff_exec] at before after ⊢
  rw [exec_append, before]
  exact after

theorem Run.single {start finish : State} {label : Label}
    (taken : system.step start label = some finish) :
    system.Run start [label] finish := by
  simpa using Run.snoc .refl taken

theorem Always.finish {start finish : State} {labels : List Label}
    {Holds : State → Prop} (always : system.Always start labels Holds)
    (run : system.Run start labels finish) : Holds finish :=
  always labels finish (List.prefix_refl _) run

theorem always_nil {start : State} {Holds : State → Prop} :
    system.Always start [] Holds ↔ Holds start := by
  constructor
  · intro always
    exact always.finish .refl
  · intro holds before state isPrefix run
    have empty : before = [] := List.prefix_nil.mp isPrefix
    subst before
    have same : state = start := run.deterministic .refl
    rw [same]
    exact holds

theorem always_snoc {start finish : State} {labels : List Label}
    {label : Label} {Holds : State → Prop}
    (run : system.Run start (labels ++ [label]) finish) :
    system.Always start (labels ++ [label]) Holds ↔
      system.Always start labels Holds ∧ Holds finish := by
  constructor
  · intro always
    refine ⟨?_, always.finish run⟩
    intro before state isPrefix reached
    exact always before state
      (isPrefix.trans (List.prefix_append labels [label])) reached
  · rintro ⟨always, holds⟩ before state isPrefix reached
    rcases List.prefix_concat_iff.mp isPrefix with whole | inside
    · subst before
      rw [reached.deterministic run]
      exact holds
    · exact always before state inside reached

theorem eachStep_nil {start : State} {Permits : State → Label → Prop} :
    system.EachStep start [] Permits := by
  intro before label state isPrefix _
  have empty := List.prefix_nil.mp isPrefix
  exact absurd empty (by simp)

theorem eachStep_snoc {start middle : State} {labels : List Label}
    {label : Label} {Permits : State → Label → Prop}
    (run : system.Run start labels middle) :
    system.EachStep start (labels ++ [label]) Permits ↔
      system.EachStep start labels Permits ∧ Permits middle label := by
  constructor
  · intro each
    refine ⟨?_, each labels label middle (List.prefix_refl _) run⟩
    intro before earlier state isPrefix reached
    exact each before earlier state
      (isPrefix.trans (List.prefix_append labels [label])) reached
  · rintro ⟨each, permits⟩ before last state isPrefix reached
    rcases List.prefix_concat_iff.mp isPrefix with whole | inside
    · obtain ⟨same, sameLabel⟩ := List.append_inj' whole rfl
      cases sameLabel
      subst before
      rw [reached.deterministic run]
      exact permits
    · exact each before last state inside reached

theorem run_cons_iff {start finish : State} {label : Label}
    {labels : List Label} :
    system.Run start (label :: labels) finish ↔
      ∃ next, system.step start label = some next ∧
        system.Run next labels finish := by
  simp only [run_iff_exec, exec, Option.bind_eq_some_iff]

theorem always_cons {start : State} {label : Label} {labels : List Label}
    {Holds : State → Prop} :
    system.Always start (label :: labels) Holds ↔
      Holds start ∧ ∀ next ∈ system.step start label,
        system.Always next labels Holds := by
  constructor
  · intro always
    refine ⟨always [] start List.nil_prefix .refl, ?_⟩
    intro next taken before state isPrefix run
    exact always (label :: before) state
      (List.cons_prefix_cons.mpr ⟨rfl, isPrefix⟩)
      (run_cons_iff.mpr ⟨next, taken, run⟩)
  · rintro ⟨holds, rest⟩ before state isPrefix run
    cases before with
    | nil =>
        rw [run.deterministic .refl]
        exact holds
    | cons first before =>
        obtain ⟨same, inside⟩ := List.cons_prefix_cons.mp isPrefix
        subst same
        obtain ⟨next, taken, later⟩ := run_cons_iff.mp run
        exact rest next taken before state inside later

theorem eachStep_cons {start : State} {label : Label} {labels : List Label}
    {Permits : State → Label → Prop} :
    system.EachStep start (label :: labels) Permits ↔
      Permits start label ∧ ∀ next ∈ system.step start label,
        system.EachStep next labels Permits := by
  constructor
  · intro each
    refine ⟨each [] label start (by simp) .refl, ?_⟩
    intro next taken before last state isPrefix run
    exact each (label :: before) last state
      (List.cons_prefix_cons.mpr ⟨rfl, isPrefix⟩)
      (run_cons_iff.mpr ⟨next, taken, run⟩)
  · rintro ⟨permits, rest⟩ before last state isPrefix run
    cases before with
    | nil =>
        obtain ⟨same, _⟩ := List.cons_prefix_cons.mp isPrefix
        rw [run.deterministic .refl, same]
        exact permits
    | cons first before =>
        obtain ⟨same, inside⟩ := List.cons_prefix_cons.mp isPrefix
        subst same
        obtain ⟨next, taken, later⟩ := run_cons_iff.mp run
        exact rest next taken before last state inside later

instance decidableAlways {Holds : State → Prop} [DecidablePred Holds] :
    ∀ (start : State) (labels : List Label),
      Decidable (system.Always start labels Holds)
  | _, [] => decidable_of_iff _ always_nil.symm
  | start, label :: labels =>
      have : ∀ next, Decidable (system.Always next labels Holds) :=
        fun next => decidableAlways next labels
      decidable_of_iff (Holds start ∧ ∀ next ∈ system.step start label,
        system.Always next labels Holds) always_cons.symm

instance decidableEachStep {Permits : State → Label → Prop}
    [∀ state label, Decidable (Permits state label)] :
    ∀ (start : State) (labels : List Label),
      Decidable (system.EachStep start labels Permits)
  | _, [] => .isTrue eachStep_nil
  | start, label :: labels =>
      have : ∀ next, Decidable (system.EachStep next labels Permits) :=
        fun next => decidableEachStep next labels
      decidable_of_iff (Permits start label ∧
        ∀ next ∈ system.step start label,
          system.EachStep next labels Permits) eachStep_cons.symm

end Runs

section Termination

variable {system : System State Label}

/-- The rank rule: each step leads from a state of some rank to one of a
smaller rank, so the rank bounds the length of every run. -/
theorem Run.length_add_rank_le {Ranked : Nat → State → Prop}
    (decreases : ∀ rank state label next, Ranked rank state →
      system.step state label = some next →
      ∃ smaller, smaller < rank ∧ Ranked smaller next)
    {start finish : State} {labels : List Label} {rank : Nat}
    (initial : Ranked rank start) (run : system.Run start labels finish) :
    ∃ rest, Ranked rest finish ∧ labels.length + rest ≤ rank := by
  induction run with
  | refl => exact ⟨rank, initial, by simp⟩
  | snoc _ taken induction =>
      obtain ⟨rest, ranked, bounded⟩ := induction
      obtain ⟨smaller, less, rankedNext⟩ := decreases _ _ _ _ ranked taken
      refine ⟨smaller, rankedNext, ?_⟩
      simp only [List.length_append, List.length_singleton]
      omega

theorem terminates_of_rank (Ranked : Nat → State → Prop)
    (decreases : ∀ rank state label next, Ranked rank state →
      system.step state label = some next →
      ∃ smaller, smaller < rank ∧ Ranked smaller next)
    {start : State} {rank : Nat} (initial : Ranked rank start) :
    system.Terminates start := by
  refine ⟨rank, ?_⟩
  intro labels finish run
  obtain ⟨rest, _, bounded⟩ := run.length_add_rank_le decreases initial
  omega

/-- A system whose runs are bounded reaches a halted state from wherever it
is. -/
theorem Terminates.exists_halted {start : State}
    (terminates : system.Terminates start) :
    ∃ labels finish, system.Run start labels finish ∧
      system.Halted finish := by
  obtain ⟨bound, bounded⟩ := terminates
  have extend : ∀ room labels state, system.Run start labels state →
      bound ≤ labels.length + room →
      ∃ labels finish, system.Run start labels finish ∧
        system.Halted finish := by
    intro room
    induction room with
    | zero =>
        intro labels state run full
        refine ⟨labels, state, run, ?_⟩
        intro label
        cases taken : system.step state label with
        | none => rfl
        | some next =>
            have longer := bounded _ _ (run.snoc taken)
            simp only [List.length_append, List.length_singleton] at longer
            omega
    | succ room induction =>
        intro labels state run full
        by_cases halted : system.Halted state
        · exact ⟨labels, state, run, halted⟩
        · unfold Halted at halted
          push Not at halted
          obtain ⟨label, moves⟩ := halted
          obtain ⟨next, taken⟩ := Option.ne_none_iff_exists'.mp moves
          apply induction _ next (run.snoc taken)
          simp only [List.length_append, List.length_singleton]
          omega
  exact extend bound [] start .refl (by simp)

end Termination

section History

/-- The system with a history variable that collects the events observed on
each step.  The history never influences a step. -/
def recording (system : System State Label)
    (observe : State → Label → State → List Event) :
    System (State × List Event) Label where
  Initial recorded := system.Initial recorded.1 ∧ recorded.2 = []
  step recorded label :=
    (system.step recorded.1 label).map fun next =>
      (next, recorded.2 ++ observe recorded.1 label next)

variable {system : System State Label}
  {observe : State → Label → State → List Event}

theorem recording_step_iff {recorded next : State × List Event}
    {label : Label} :
    (system.recording observe).step recorded label = some next ↔
      system.step recorded.1 label = some next.1 ∧
        next.2 = recorded.2 ++ observe recorded.1 label next.1 := by
  obtain ⟨target, events⟩ := next
  simp only [recording, Option.map_eq_some_iff, Prod.mk.injEq]
  constructor
  · rintro ⟨found, taken, rfl, rfl⟩
    exact ⟨taken, rfl⟩
  · rintro ⟨taken, rfl⟩
    exact ⟨target, taken, rfl, rfl⟩

/-- Extend a recorded run by one step of the system. -/
theorem Run.snoc_recorded {start : State × List Event} {middle finish : State}
    {events : List Event} {labels : List Label} {label : Label}
    (run : (system.recording observe).Run start labels (middle, events))
    (taken : system.step middle label = some finish) :
    (system.recording observe).Run start (labels ++ [label])
      (finish, events ++ observe middle label finish) :=
  run.snoc (recording_step_iff.mpr ⟨taken, rfl⟩)

/-- Induction on a recorded run, by steps of the system itself. -/
@[elab_as_elim] theorem Run.recorded_induction {start : State × List Event}
    {motive : (labels : List Label) → (recorded : State × List Event) →
      (system.recording observe).Run start labels recorded → Prop}
    (refl : motive [] start .refl)
    (snoc : ∀ {labels : List Label} {state next : State}
      {events : List Event} {label : Label}
      (before : (system.recording observe).Run start labels (state, events))
      (moved : system.step state label = some next),
      motive labels (state, events) before →
      motive (labels ++ [label]) (next, events ++ observe state label next)
        (before.snoc_recorded moved))
    {labels : List Label} {recorded : State × List Event}
    (run : (system.recording observe).Run start labels recorded) :
    motive labels recorded run := by
  induction run with
  | refl => exact refl
  | @snoc labels middle finish label before taken induction =>
      obtain ⟨state, events⟩ := middle
      obtain ⟨moved, history⟩ := recording_step_iff.mp taken
      have same : finish =
          (finish.1, events ++ observe state label finish.1) :=
        Prod.ext rfl history
      generalize finish.1 = next at moved same
      subst same
      exact snoc before moved induction

/-- Forgetting the history of a run leaves a run. -/
theorem Run.forget {start finish : State × List Event}
    {labels : List Label}
    (run : (system.recording observe).Run start labels finish) :
    system.Run start.1 labels finish.1 := by
  induction run with
  | refl => exact .refl
  | snoc _ taken induction =>
      exact induction.snoc (recording_step_iff.mp taken).1

/-- Every run can be recorded. -/
theorem Run.record {start finish : State} {labels : List Label}
    (observe : State → Label → State → List Event)
    (run : system.Run start labels finish) (past : List Event) :
    ∃ events, (system.recording observe).Run (start, past) labels
      (finish, events) := by
  induction run with
  | refl => exact ⟨past, .refl⟩
  | @snoc labels middle finish label _ taken induction =>
      obtain ⟨events, recorded⟩ := induction
      exact ⟨events ++ observe middle label finish,
        recorded.snoc_recorded taken⟩

theorem recording_terminates_iff {start : State} {past : List Event} :
    (system.recording observe).Terminates (start, past) ↔
      system.Terminates start := by
  constructor
  · rintro ⟨bound, bounded⟩
    refine ⟨bound, ?_⟩
    intro labels finish run
    obtain ⟨events, recorded⟩ := run.record observe past
    exact bounded labels _ recorded
  · rintro ⟨bound, bounded⟩
    exact ⟨bound, fun labels finish run => bounded labels _ run.forget⟩

end History

end System

end AsioBenchmark.Transition
