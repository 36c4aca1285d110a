import Mathlib.Logic.Basic

/-!
# Labelled machines and guarded runs

A machine takes one step for each label and a label names every choice the
environment makes, so a run is a list of labels and is executable. `Along`
speaks about every state a run reaches, and `Guarded` about every step it
takes. `along_iff_guarded` is the rule by which a safety property is traded for
a condition on single steps.
-/

namespace Sentinel.Semantics

universe u v w

/-- A partial step function whose labels resolve all nondeterminism. -/
structure Machine (State : Type u) (Label : Type v) where
  step : State → Label → Option State

namespace Machine

variable {State : Type u} {Label : Type v} (machine : Machine State Label)

/-- Execute a list of labels; `none` when some label is not enabled. -/
def exec : State → List Label → Option State
  | state, [] => some state
  | state, label :: rest => (machine.step state label).bind fun next => exec next rest

/-- `property` holds at every state that the run reaches, its first included. -/
def Along (property : State → Prop) : State → List Label → Prop
  | state, [] => property state
  | state, label :: rest =>
      property state ∧ ∀ next, machine.step state label = some next →
        Along property next rest

/-- Every step that the run takes meets `guard` in the state it is taken from. -/
def Guarded (guard : State → Label → Prop) : State → List Label → Prop
  | _, [] => True
  | state, label :: rest =>
      ∀ next, machine.step state label = some next →
        guard state label ∧ Guarded guard next rest

/-- Whether every step of a run passes a check. -/
def passes (check : State → Label → Bool) : State → List Label → Bool
  | _, [] => true
  | state, label :: rest =>
      match machine.step state label with
      | some next => check state label && passes check next rest
      | none => true

variable {machine}

/-- A run is a step and the run from there. -/
theorem exec_cons_eq_some {state final : State} {label : Label} {rest : List Label} :
    machine.exec state (label :: rest) = some final ↔
      ∃ next, machine.step state label = some next ∧ machine.exec next rest = some final := by
  simp [exec, Option.bind_eq_some_iff]

theorem Along.here {property : State → Prop} {state : State} {labels : List Label}
    (along : machine.Along property state labels) : property state := by
  cases labels with
  | nil => exact along
  | cons label rest => exact along.1

/-- The last state of a run is one of the states it reaches. -/
theorem Along.final {property : State → Prop} {state final : State} {labels : List Label}
    (along : machine.Along property state labels)
    (run : machine.exec state labels = some final) : property final := by
  induction labels generalizing state with
  | nil =>
      cases run
      exact along
  | cons label rest ih =>
      obtain ⟨next, step, run⟩ := exec_cons_eq_some.mp run
      exact ih (along.2 next step) run

/-- A guarded step before a guarded run. -/
theorem guarded_cons {guard : State → Label → Prop} {state : State} {label : Label}
    {rest : List Label} (next : State) (step : machine.step state label = some next)
    (allowed : guard state label) (guarded : machine.Guarded guard next rest) :
    machine.Guarded guard state (label :: rest) := by
  intro other taken
  obtain rfl := Option.some.inj (step.symm.trans taken)
  exact ⟨allowed, guarded⟩

/-- Labels that are allowed in every state make a guarded run. -/
theorem guarded_of_forall {guard : State → Label → Prop} {labels : List Label}
    (allowed : ∀ label ∈ labels, ∀ state, guard state label) (state : State) :
    machine.Guarded guard state labels := by
  induction labels generalizing state with
  | nil => trivial
  | cons label rest ih =>
      intro next _
      have later : ∀ label ∈ rest, ∀ state, guard state label :=
        fun label member => allowed label (List.mem_cons_of_mem _ member)
      exact ⟨allowed label List.mem_cons_self state, ih later next⟩

/-- A run of which every step passes a check is guarded, when the check is sound under
an invariant that the steps which pass it preserve. -/
theorem guarded_of_passes_along {invariant : State → Prop} {guard : State → Label → Prop}
    {check : State → Label → Bool}
    (sound : ∀ {state label}, invariant state → check state label = true → guard state label)
    (preserved : ∀ {state label next}, invariant state → check state label = true →
      machine.step state label = some next → invariant next)
    {state : State} {labels : List Label} (holds : invariant state)
    (passed : machine.passes check state labels = true) :
    machine.Guarded guard state labels := by
  induction labels generalizing state with
  | nil => trivial
  | cons label rest ih =>
      intro next step
      rw [passes, step, Bool.and_eq_true] at passed
      exact ⟨sound holds passed.1, ih (preserved holds passed.1 step) passed.2⟩

/-- A run of which every step passes a sound check is guarded. -/
theorem guarded_of_passes {guard : State → Label → Prop} {check : State → Label → Bool}
    (sound : ∀ state label, check state label = true → guard state label) {state : State}
    {labels : List Label} (passed : machine.passes check state labels = true) :
    machine.Guarded guard state labels :=
  @guarded_of_passes_along _ _ _ (fun _ => True) guard check (fun _ => sound _ _)
    (fun _ _ _ => trivial) _ _ trivial passed

/-- A guard that can be decided is checked by running the machine. -/
theorem guarded_of_decide {guard : State → Label → Prop}
    [∀ state label, Decidable (guard state label)] {state : State} {labels : List Label}
    (passed : machine.passes (fun state label => decide (guard state label)) state labels = true) :
    machine.Guarded guard state labels :=
  guarded_of_passes (fun _ _ => of_decide_eq_true) passed

/-- An invariant that guarded steps preserve holds along every guarded run. -/
theorem along_of_guarded {invariant : State → Prop} {guard : State → Label → Prop}
    (preserved : ∀ {state label next}, invariant state → guard state label →
      machine.step state label = some next → invariant next)
    {state : State} {labels : List Label} (holds : invariant state)
    (guarded : machine.Guarded guard state labels) :
    machine.Along invariant state labels := by
  induction labels generalizing state with
  | nil => exact holds
  | cons label rest ih =>
      refine ⟨holds, fun next step => ?_⟩
      obtain ⟨allowed, guarded⟩ := guarded next step
      exact ih (preserved holds allowed step) guarded

/-- What every step preserves holds along every run. -/
theorem along_of_preserved {invariant : State → Prop}
    (preserved : ∀ {state label next}, invariant state → machine.step state label = some next →
      invariant next)
    {state : State} (holds : invariant state) (labels : List Label) :
    machine.Along invariant state labels := by
  induction labels generalizing state with
  | nil => exact holds
  | cons label rest ih => exact ⟨holds, fun next step => ih (preserved holds step)⟩

/-- What every step preserves holds at the end of a run. -/
theorem final_of_preserved {invariant : State → Prop}
    (preserved : ∀ {state label next}, invariant state → machine.step state label = some next →
      invariant next)
    {state final : State} {labels : List Label} (holds : invariant state)
    (run : machine.exec state labels = some final) : invariant final :=
  (along_of_preserved preserved holds labels).final run

theorem Along.mono {property weaker : State → Prop}
    (implies : ∀ state, property state → weaker state) {state : State} {labels : List Label}
    (along : machine.Along property state labels) : machine.Along weaker state labels := by
  induction labels generalizing state with
  | nil => exact implies state along
  | cons label rest ih =>
      exact ⟨implies state along.1, fun next step => ih (along.2 next step)⟩

/-- A family of properties that each hold along a run hold together. -/
theorem along_forall {Index : Sort w} {property : Index → State → Prop} {state : State}
    {labels : List Label} (along : ∀ index, machine.Along (property index) state labels) :
    machine.Along (fun state => ∀ index, property index state) state labels := by
  induction labels generalizing state with
  | nil => exact along
  | cons label rest ih =>
      refine ⟨fun index => (along index).1, fun next step => ih fun index => ?_⟩
      exact (along index).2 next step

/-- A property holds at every point of a run exactly when every step is
guarded, provided that guarded steps preserve an invariant which implies the
property, and that no step out of the invariant reaches the property unguarded. -/
theorem along_iff_guarded {invariant property : State → Prop} {guard : State → Label → Prop}
    (sound : ∀ state, invariant state → property state)
    (preserved : ∀ {state label next}, invariant state → guard state label →
      machine.step state label = some next → invariant next)
    (needed : ∀ {state label next}, invariant state →
      machine.step state label = some next → property next → guard state label)
    {state : State} (labels : List Label) (holds : invariant state) :
    machine.Along property state labels ↔ machine.Guarded guard state labels := by
  constructor
  · intro along
    induction labels generalizing state with
    | nil => trivial
    | cons label rest ih =>
        intro next step
        have allowed : guard state label := needed holds step (along.2 next step).here
        exact ⟨allowed, ih (preserved holds allowed step) (along.2 next step)⟩
  · intro guarded
    exact (along_of_guarded preserved holds guarded).mono sound

end Machine
end Sentinel.Semantics
