import Mathlib.Order.Basic
import Sentinel.Semantics.Machine

/-!
# Infinite behaviors and fairness

A behavior takes a step of the machine at some moments and rests at the others.
An action is a set of labels, and a behavior that is fair to an action takes it
again and again as long as it is enabled again and again. `leadsTo_of_fair`
turns that into progress, and `LeadsTo.of_rank` chains progress that brings a
goal nearer.
-/

namespace Sentinel.Semantics

universe u v

namespace Machine

variable {State : Type u} {Label : Type v} (machine : Machine State Label)

/-- Some label of the action has a step. -/
def Enabled (action : Label → Prop) (state : State) : Prop :=
  ∃ label next, action label ∧ machine.step state label = some next

/-- What happens at one moment: a step, or nothing. -/
inductive Moment (state next : State) : Option Label → Prop where
  | rest (same : next = state) : Moment state next none
  | step {label : Label} (step : machine.step state label = some next) :
      Moment state next (some label)

structure Behavior where
  stateAt : Nat → State
  labelAt : Nat → Option Label
  moment : ∀ index, machine.Moment (stateAt index) (stateAt (index + 1)) (labelAt index)

end Machine

namespace Machine.Behavior

variable {State : Type u} {Label : Type v} {machine : Machine State Label}
  (behavior : machine.Behavior)

/-- At the moment a label of the action is taken. -/
def Takes (action : Label → Prop) (index : Nat) : Prop :=
  ∃ label, behavior.labelAt index = some label ∧ action label

/-- An action that is enabled again and again is taken again and again. -/
def Fair (action : Label → Prop) : Prop :=
  (∀ start, ∃ index, start ≤ index ∧ machine.Enabled action (behavior.stateAt index)) →
    ∀ start, ∃ index, start ≤ index ∧ behavior.Takes action index

/-- After every moment with `source` there is one with `target`. -/
def LeadsTo (source target : State → Prop) : Prop :=
  ∀ start, source (behavior.stateAt start) →
    ∃ index, start ≤ index ∧ target (behavior.stateAt index)

variable {behavior} {invariant source target goal : State → Prop} {action : Label → Prop}

/-- A behavior rests or takes a step of its machine. -/
theorem rests_or_steps (behavior : machine.Behavior) (index : Nat) :
    behavior.stateAt (index + 1) = behavior.stateAt index ∨
      ∃ label, machine.step (behavior.stateAt index) label =
        some (behavior.stateAt (index + 1)) := by
  have moment := behavior.moment index
  generalize behavior.labelAt index = taken at moment
  cases moment with
  | rest same => exact .inl same
  | step step => exact .inr ⟨_, step⟩

/-- What the first state satisfies, and steps preserve from states of which something is
known at every moment, holds at every moment. -/
theorem always_given (known : ∀ index, source (behavior.stateAt index))
    (initial : invariant (behavior.stateAt 0))
    (preserved : ∀ {state label next}, source state → invariant state →
      machine.step state label = some next → invariant next) (index : Nat) :
    invariant (behavior.stateAt index) := by
  induction index with
  | zero => exact initial
  | succ index inductionHypothesis =>
      rcases behavior.rests_or_steps index with same | ⟨label, step⟩
      · rwa [same]
      · exact preserved (known index) inductionHypothesis step

/-- What the first state satisfies and steps preserve holds at every moment. -/
theorem always (initial : invariant (behavior.stateAt 0))
    (preserved : ∀ {state label next}, invariant state →
      machine.step state label = some next → invariant next) (index : Nat) :
    invariant (behavior.stateAt index) := by
  refine always_given ?_ initial (fun (_ : True) => preserved) index
  exact fun _ => trivial

/-- What steps preserve goes on to hold. -/
theorem stable (preserved : ∀ {state label next}, invariant state → source state →
      machine.step state label = some next → source next)
    (always : ∀ index, invariant (behavior.stateAt index)) {start : Nat}
    (holds : source (behavior.stateAt start)) {index : Nat} (later : start ≤ index) :
    source (behavior.stateAt index) := by
  induction later with
  | refl => exact holds
  | @step index _ inductionHypothesis =>
      rcases behavior.rests_or_steps index with same | ⟨label, step⟩
      · rwa [same]
      · exact preserved (always index) inductionHypothesis step

/-- What leads to a source leads to its target. -/
theorem LeadsTo.trans (first : behavior.LeadsTo source target)
    (second : behavior.LeadsTo target goal) : behavior.LeadsTo source goal := by
  intro start holds
  obtain ⟨middle, later, reached⟩ := first start holds
  obtain ⟨index, further, arrived⟩ := second middle reached
  exact ⟨index, Nat.le_trans later further, arrived⟩

/-- What implies its target under an invariant leads to it at once. -/
theorem LeadsTo.of_implies (always : ∀ index, invariant (behavior.stateAt index))
    (implies : ∀ state, invariant state → source state → target state) :
    behavior.LeadsTo source target :=
  fun start holds => ⟨start, Nat.le_refl start, implies _ (always start) holds⟩

/-- A rank that progress lowers: as long as the goal is not reached the rank
gets smaller again. -/
theorem LeadsTo.of_rank {rank : Nat → State → Prop}
    (decreases : ∀ bound, behavior.LeadsTo (rank bound) fun state =>
      target state ∨ ∃ less < bound, rank less state) (bound : Nat) :
    behavior.LeadsTo (rank bound) target := by
  induction bound using Nat.strongRecOn with
  | ind bound inductionHypothesis =>
      intro start holds
      obtain ⟨middle, later, arrived | ⟨less, smaller, again⟩⟩ := decreases bound start holds
      · exact ⟨middle, later, arrived⟩
      · obtain ⟨index, further, arrived⟩ := inductionHypothesis less smaller middle again
        exact ⟨index, Nat.le_trans later further, arrived⟩

/-- Before the goal is reached a state with `source` keeps it. -/
theorem stays_until (always : ∀ index, invariant (behavior.stateAt index))
    (stays : ∀ {state label next}, invariant state → source state →
      machine.step state label = some next → source next ∨ target next)
    {start : Nat} (holds : source (behavior.stateAt start))
    (never : ∀ index, start ≤ index → ¬ target (behavior.stateAt index)) {index : Nat}
    (later : start ≤ index) : source (behavior.stateAt index) := by
  induction later with
  | refl => exact holds
  | @step index later inductionHypothesis =>
      rcases behavior.rests_or_steps index with same | ⟨label, step⟩
      · rwa [same]
      · rcases stays (always index) inductionHypothesis step with kept | reached
        · exact kept
        · exact absurd reached (never _ (Nat.le_succ_of_le later))

/-- What happens again and again happens with `source`, unless the goal comes first. -/
theorem LeadsTo.meanwhile {recurrent : State → Prop}
    (always : ∀ index, invariant (behavior.stateAt index))
    (stays : ∀ {state label next}, invariant state → source state →
      machine.step state label = some next → source next ∨ target next)
    (recurs : ∀ start, ∃ index, start ≤ index ∧ recurrent (behavior.stateAt index)) :
    behavior.LeadsTo source fun state => target state ∨ source state ∧ recurrent state := by
  intro start holds
  by_cases reached : ∃ index, start ≤ index ∧ target (behavior.stateAt index)
  · obtain ⟨index, later, arrived⟩ := reached
    exact ⟨index, later, .inl arrived⟩
  · obtain ⟨index, later, again⟩ := recurs start
    refine ⟨index, later, .inr ⟨?_, again⟩⟩
    exact stays_until always stays holds
      (fun other further arrived => reached ⟨other, further, arrived⟩) later

/-- Progress by a fair action: `source` stays until the goal is reached, the
action keeps becoming enabled meanwhile, and taking it reaches the goal. -/
theorem leadsTo_of_fair (fair : behavior.Fair action)
    (always : ∀ index, invariant (behavior.stateAt index))
    (stays : ∀ {state label next}, invariant state → source state →
      machine.step state label = some next → source next ∨ target next)
    (recurs : behavior.LeadsTo source fun state => target state ∨ machine.Enabled action state)
    (helps : ∀ {state label next}, invariant state → source state → action label →
      machine.step state label = some next → target next) :
    behavior.LeadsTo source target := by
  intro start holds
  by_contra unreached
  have never : ∀ index, start ≤ index → ¬ target (behavior.stateAt index) :=
    fun index later reached => unreached ⟨index, later, reached⟩
  have kept := fun index (later : start ≤ index) =>
    stays_until always stays holds never later
  have often : ∀ origin, ∃ index, origin ≤ index ∧
      machine.Enabled action (behavior.stateAt index) := by
    intro origin
    obtain ⟨index, later, reached | enabled⟩ :=
      recurs (max start origin) (kept _ (Nat.le_max_left _ _))
    · exact absurd reached (never index (Nat.le_trans (Nat.le_max_left _ _) later))
    · exact ⟨index, Nat.le_trans (Nat.le_max_right _ _) later, enabled⟩
  obtain ⟨index, later, label, taken, acts⟩ := fair often start
  have moment := behavior.moment index
  rw [taken] at moment
  cases moment with
  | step step =>
      exact never _ (Nat.le_succ_of_le later) (helps (always index) (kept index later) acts step)

/-- Progress by a fair action that `source` enables whenever it meets what
happens again and again. -/
theorem leadsTo_of_recurrent {recurrent : State → Prop} (fair : behavior.Fair action)
    (always : ∀ index, invariant (behavior.stateAt index))
    (stays : ∀ {state label next}, invariant state → source state →
      machine.step state label = some next → source next ∨ target next)
    (recurs : ∀ start, ∃ index, start ≤ index ∧ recurrent (behavior.stateAt index))
    (enabled : ∀ {state}, invariant state → source state → recurrent state →
      target state ∨ machine.Enabled action state)
    (helps : ∀ {state label next}, invariant state → source state → action label →
      machine.step state label = some next → target next) :
    behavior.LeadsTo source target := by
  refine leadsTo_of_fair fair always stays (fun start holds => ?_) helps
  obtain ⟨index, later, reached | ⟨kept, again⟩⟩ :=
    LeadsTo.meanwhile always stays recurs start holds
  · exact ⟨index, later, .inl reached⟩
  · exact ⟨index, later, enabled (always index) kept again⟩

end Machine.Behavior

/-!
## Runs that come to rest
-/

namespace Machine

variable {State : Type u} {Label : Type v} {machine : Machine State Label}

/-- Two runs in a row. -/
theorem exec_append (state : State) (labels rest : List Label) :
    machine.exec state (labels ++ rest) =
      (machine.exec state labels).bind fun next => machine.exec next rest := by
  induction labels generalizing state with
  | nil => rfl
  | cons label others inductionHypothesis =>
      simp only [List.cons_append, exec, Option.bind_assoc, inductionHypothesis]

/-- A run gets as far as every moment on its way. -/
theorem exec_take {start final : State} {labels : List Label}
    (run : machine.exec start labels = some final) (index : Nat) :
    ∃ state, machine.exec start (labels.take index) = some state := by
  rw [← List.take_append_drop index labels, exec_append] at run
  obtain ⟨state, reached, _⟩ := Option.bind_eq_some_iff.mp run
  exact ⟨state, reached⟩

/-- Every state on the way of a run comes from the one before it. -/
theorem moment_of_run {start final : State} {labels : List Label}
    (run : machine.exec start labels = some final) (index : Nat) :
    machine.Moment ((machine.exec start (labels.take index)).getD start)
      ((machine.exec start (labels.take (index + 1))).getD start) labels[index]? := by
  cases place : labels[index]? with
  | none =>
      have past := List.getElem?_eq_none_iff.mp place
      refine .rest ?_
      rw [List.take_of_length_le past, List.take_of_length_le (Nat.le_succ_of_le past)]
  | some label =>
      obtain ⟨next, upTo⟩ := exec_take run (index + 1)
      have last := upTo
      rw [List.take_add_one, place, Option.toList_some, exec_append] at last
      obtain ⟨state, before, one⟩ := Option.bind_eq_some_iff.mp last
      obtain ⟨reached, step, same⟩ := exec_cons_eq_some.mp one
      cases same
      rw [before, upTo]
      exact .step step

/-- The behavior that goes through a run and then rests. -/
def Behavior.ofRun {start final : State} {labels : List Label}
    (run : machine.exec start labels = some final) : machine.Behavior where
  stateAt index := (machine.exec start (labels.take index)).getD start
  labelAt index := labels[index]?
  moment := moment_of_run run

/-- After its labels a run rests. -/
theorem Behavior.ofRun_rests {start final : State} {labels : List Label}
    (run : machine.exec start labels = some final) {index : Nat} (past : labels.length ≤ index) :
    (Behavior.ofRun run).stateAt index = final := by
  change (machine.exec start (labels.take index)).getD start = final
  rw [List.take_of_length_le past, run]
  rfl

/-- It is fair to an action that is not enabled where it rests. -/
theorem Behavior.ofRun_fair {start final : State} {labels : List Label}
    (run : machine.exec start labels = some final) {action : Label → Prop}
    (disabled : ∀ label, action label → machine.step final label = none) :
    (Behavior.ofRun run).Fair action := by
  intro often
  obtain ⟨index, past, label, next, acts, step⟩ := often labels.length
  rw [ofRun_rests run past, disabled label acts] at step
  cases step

/-- What every step of the run meets holds at every moment with a label. -/
theorem Behavior.ofRun_guarded {guard : State → Label → Prop} {start final : State}
    {labels : List Label} (run : machine.exec start labels = some final)
    (guarded : machine.Guarded guard start labels) {index : Nat} {label : Label}
    (taken : (Behavior.ofRun run).labelAt index = some label) :
    guard ((Behavior.ofRun run).stateAt index) label := by
  change guard ((machine.exec start (labels.take index)).getD start) label
  change labels[index]? = some label at taken
  induction labels generalizing start index with
  | nil => cases taken
  | cons first rest inductionHypothesis =>
      obtain ⟨next, step, onward⟩ := exec_cons_eq_some.mp run
      obtain ⟨allowed, guarded⟩ := guarded next step
      cases index with
      | zero =>
          cases taken
          exact allowed
      | succ index =>
          have later := inductionHypothesis onward guarded taken
          obtain ⟨state, reached⟩ := exec_take onward index
          rw [reached] at later
          rw [List.take_succ_cons, exec, step, Option.bind_some, reached]
          exact later

end Machine
end Sentinel.Semantics
