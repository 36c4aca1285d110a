import Mathlib.Logic.Function.Basic
import Sentinel.Risk.RulesEngine
import Sentinel.Semantics.Machine

/-!
# Evaluations during a reload

`load_rules` assigns a new empty list to `_rules_cache` and fills it on the event
loop, while `evaluate` iterates on worker threads. An iteration keeps the list
that it began with, but what it reads of the newest list depends on how far the
loader is: `wholeSets_iff`.
-/

namespace Sentinel.Risk

open Sentinel.Semantics

/-- Where a call of `evaluate` stands. -/
inductive EvaluationPhase (parser : Parser) where
  | absent
  /-- The loop holds a list and the index of the element to read next. -/
  | iterating (list index : Nat) (seen : List (CacheRule parser))
  | finished (list : Nat) (seen : List (CacheRule parser))

/-- The lists are numbered in the order in which loads created them, and
`_rules_cache` is the newest. -/
structure RuleSets (EvaluationID : Type) (parser : Parser) where
  lists : Nat → List (CacheRule parser)
  /-- The rows that the load of a list goes through. -/
  rows : Nat → List FraudRule
  newest : Nat
  /-- The rows that a load under way has still to go through. -/
  pending : Option (List FraudRule)
  evaluations : EvaluationID → EvaluationPhase parser

inductive RuleSetLabel (EvaluationID : Type) where
  /-- `self._rules_cache = []`, after a query that returned these rows. -/
  | assign (rows : List FraudRule)
  /-- One turn of the loop of `load_rules`, which appends the rule if it compiles. -/
  | append
  | loaded
  /-- `evaluate` reads `self._rules_cache`. -/
  | begin (evaluation : EvaluationID)
  /-- The loop of `evaluate` reads the next element, or finds the end. -/
  | next (evaluation : EvaluationID)

namespace RuleSets

variable {EvaluationID : Type} {parser : Parser}

/-- After the load at startup. -/
def start (rows : List FraudRule) : RuleSets EvaluationID parser where
  lists _ := loadRules parser rows
  rows _ := rows
  newest := 0
  pending := none
  evaluations _ := .absent

variable [DecidableEq EvaluationID]

def setEvaluation (state : RuleSets EvaluationID parser) (evaluation : EvaluationID)
    (phase : EvaluationPhase parser) : RuleSets EvaluationID parser :=
  { state with evaluations := Function.update state.evaluations evaluation phase }

def step (state : RuleSets EvaluationID parser) :
    RuleSetLabel EvaluationID → Option (RuleSets EvaluationID parser)
  | .assign rows =>
      match state.pending with
      | some _ => none
      | none =>
          some
            { state with
              lists := Function.update state.lists (state.newest + 1) []
              rows := Function.update state.rows (state.newest + 1) rows
              newest := state.newest + 1
              pending := some rows }
  | .append =>
      match state.pending with
      | some (rule :: rest) =>
          some
            { state with
              lists := Function.update state.lists state.newest
                (state.lists state.newest ++ (compileRule parser rule).toList)
              pending := some rest }
      | _ => none
  | .loaded =>
      match state.pending with
      | some [] => some { state with pending := none }
      | _ => none
  | .begin evaluation =>
      match state.evaluations evaluation with
      | .absent => some (state.setEvaluation evaluation (.iterating state.newest 0 []))
      | _ => none
  | .next evaluation =>
      match state.evaluations evaluation with
      | .iterating list index seen =>
          match (state.lists list)[index]? with
          | some rule =>
              some (state.setEvaluation evaluation (.iterating list (index + 1) (seen ++ [rule])))
          | none => some (state.setEvaluation evaluation (.finished list seen))
      | _ => none

/-- The rules that a list is still to receive. -/
def missing (state : RuleSets EvaluationID parser) (list : Nat) : List (CacheRule parser) :=
  if list = state.newest then loadRules parser (state.pending.getD []) else []

/-- Each finished evaluation went through the complete result of one load. -/
def WholeSets (state : RuleSets EvaluationID parser) : Prop :=
  ∀ evaluation list seen, state.evaluations evaluation = .finished list seen →
    list ≤ state.newest ∧ seen = loadRules parser (state.rows list)

/-- No loop finds the end of a list that is still to receive rules. -/
def EndsWhole (state : RuleSets EvaluationID parser) : RuleSetLabel EvaluationID → Prop
  | .next evaluation => ∀ list index seen,
      state.evaluations evaluation = .iterating list index seen →
        (state.lists list).length ≤ index → state.missing list = []
  | _ => True

structure Inv (state : RuleSets EvaluationID parser) : Prop where
  whole : state.WholeSets
  filled : ∀ list ≤ state.newest,
    state.lists list ++ state.missing list = loadRules parser (state.rows list)
  read : ∀ evaluation list index seen, state.evaluations evaluation = .iterating list index seen →
    list ≤ state.newest ∧ index ≤ (state.lists list).length ∧
      seen = (state.lists list).take index

end RuleSets

/-- One event loop and any number of worker threads. -/
def ruleSetMachine (EvaluationID : Type) [DecidableEq EvaluationID] (parser : Parser) :
    Machine (RuleSets EvaluationID parser) (RuleSetLabel EvaluationID) :=
  ⟨RuleSets.step⟩

namespace RuleSets

variable {EvaluationID : Type} [DecidableEq EvaluationID] {parser : Parser}
  {state next : RuleSets EvaluationID parser} {evaluation : EvaluationID}

omit [DecidableEq EvaluationID] in
/-- At the start the cache is a whole set. -/
theorem inv_start (rows : List FraudRule) :
    (start rows : RuleSets EvaluationID parser).Inv where
  whole := nofun
  filled list bound := by
    have complete : (start rows : RuleSets EvaluationID parser).missing list = [] := ite_self []
    rw [complete, List.append_nil]
    rfl
  read := nofun

omit [DecidableEq EvaluationID] in
/-- A step of the loader: lists only grow, and the evaluations are where they were. -/
theorem Inv.load (inv : state.Inv) (kept : next.evaluations = state.evaluations)
    (newer : state.newest ≤ next.newest)
    (rows : ∀ list ≤ state.newest, next.rows list = state.rows list)
    (grows : ∀ list ≤ state.newest, state.lists list <+: next.lists list)
    (filled : ∀ list ≤ next.newest,
      next.lists list ++ next.missing list = loadRules parser (next.rows list)) : next.Inv where
  whole evaluation list seen finished := by
    rw [kept] at finished
    obtain ⟨bound, whole⟩ := inv.whole evaluation list seen finished
    exact ⟨bound.trans newer, by rw [whole, rows list bound]⟩
  filled := filled
  read evaluation list index seen iterating := by
    rw [kept] at iterating
    obtain ⟨bound, short, same⟩ := inv.read evaluation list index seen iterating
    have longer := grows list bound
    refine ⟨bound.trans newer, short.trans longer.length_le, ?_⟩
    rw [same]
    obtain ⟨added, whole⟩ := longer
    rw [← whole, List.take_append_of_le_length short]

/-- The evaluation that moved has its new phase. -/
theorem setEvaluation_self (phase : EvaluationPhase parser) :
    (state.setEvaluation evaluation phase).evaluations evaluation = phase :=
  Function.update_self ..

/-- No other evaluation moves. -/
theorem setEvaluation_of_ne {other : EvaluationID} (distinct : other ≠ evaluation)
    (phase : EvaluationPhase parser) :
    (state.setEvaluation evaluation phase).evaluations other = state.evaluations other :=
  Function.update_of_ne distinct ..

/-- A step of one evaluation. -/
theorem Inv.evaluate (inv : state.Inv) {phase : EvaluationPhase parser}
    (finished : ∀ list seen, phase = .finished list seen →
      list ≤ state.newest ∧ seen = loadRules parser (state.rows list))
    (iterating : ∀ list index seen, phase = .iterating list index seen →
      list ≤ state.newest ∧ index ≤ (state.lists list).length ∧
        seen = (state.lists list).take index) :
    (state.setEvaluation evaluation phase).Inv where
  whole other list seen found := by
    by_cases same : other = evaluation
    · subst same
      exact finished list seen ((setEvaluation_self phase).symm.trans found)
    · exact inv.whole other list seen ((setEvaluation_of_ne same phase).symm.trans found)
  filled := inv.filled
  read other list index seen found := by
    by_cases same : other = evaluation
    · subst same
      exact iterating list index seen ((setEvaluation_self phase).symm.trans found)
    · exact inv.read other list index seen ((setEvaluation_of_ne same phase).symm.trans found)

omit [DecidableEq EvaluationID] in
/-- The end of a list that is complete is the end of its load. -/
theorem Inv.atEnd (inv : state.Inv) {list index : Nat} {seen : List (CacheRule parser)}
    (iterating : state.evaluations evaluation = .iterating list index seen)
    (ended : (state.lists list).length ≤ index) :
    list ≤ state.newest ∧ seen ++ state.missing list = loadRules parser (state.rows list) := by
  obtain ⟨bound, short, same⟩ := inv.read evaluation list index seen iterating
  refine ⟨bound, ?_⟩
  rw [same, List.take_of_length_le ended]
  exact inv.filled list bound

/-- Every step of evaluations that end whole keeps the invariant. -/
theorem Inv.step {label : RuleSetLabel EvaluationID} (inv : state.Inv)
    (guard : state.EndsWhole label) (step : state.step label = some next) : next.Inv := by
  cases label with
  | assign rows =>
      simp only [RuleSets.step] at step
      split at step
      · cases step
      · rename_i idle
        cases step
        have older : ∀ list ≤ state.newest, list ≠ state.newest + 1 := by
          intro list bound
          omega
        refine inv.load rfl (Nat.le_succ _) ?_ ?_ ?_
        · exact fun list bound => Function.update_of_ne (older list bound) ..
        · intro list bound
          dsimp only
          rw [Function.update_of_ne (older list bound)]
        · intro list bound
          by_cases itself : list = state.newest + 1
          · subst itself
            simp [missing]
          · have bound : list ≤ state.newest := by
              change list ≤ state.newest + 1 at bound
              omega
            have filled := inv.filled list bound
            simpa [missing, idle, itself, loadRules] using filled
  | append =>
      simp only [RuleSets.step] at step
      split at step
      · rename_i rule rest pending
        cases step
        refine inv.load rfl le_rfl (fun _ _ => rfl) ?_ ?_
        · intro list bound
          dsimp only
          by_cases itself : list = state.newest
          · subst itself
            rw [Function.update_self]
            exact List.prefix_append _ _
          · rw [Function.update_of_ne itself]
        · intro list bound
          have filled := inv.filled list bound
          by_cases itself : list = state.newest
          · subst itself
            rw [← filled]
            simp only [missing, Function.update_self, if_true, pending, Option.getD_some,
              List.append_assoc, loadRules]
            cases compiled : compileRule parser rule with
            | none => rw [List.filterMap_cons_none compiled, Option.toList_none, List.nil_append]
            | some entry => rw [List.filterMap_cons_some compiled]; rfl
          · simpa [missing, itself] using filled
      · cases step
  | loaded =>
      simp only [RuleSets.step] at step
      split at step
      · rename_i pending
        cases step
        refine inv.load rfl le_rfl (fun _ _ => rfl) (fun _ _ => List.prefix_refl _) ?_
        intro list bound
        have filled := inv.filled list bound
        simpa [missing, pending] using filled
      · cases step
  | begin evaluation =>
      simp only [RuleSets.step] at step
      split at step
      · cases step
        refine inv.evaluate ?_ ?_
        · rintro list seen ⟨⟩
        · rintro list index seen ⟨⟩
          exact ⟨le_rfl, Nat.zero_le _, rfl⟩
      · cases step
  | next evaluation =>
      simp only [RuleSets.step] at step
      split at step
      · rename_i list index seen iterating
        obtain ⟨bound, short, same⟩ := inv.read evaluation list index seen iterating
        split at step
        · rename_i rule present
          cases step
          refine inv.evaluate ?_ ?_
          · rintro _ _ ⟨⟩
          · rintro _ _ _ ⟨⟩
            obtain ⟨room, _⟩ := List.getElem?_eq_some_iff.mp present
            refine ⟨bound, room, ?_⟩
            rw [List.take_add_one, present, same]
            rfl
        · rename_i absent
          cases step
          refine inv.evaluate ?_ ?_
          · rintro _ _ ⟨⟩
            have ended := List.getElem?_eq_none_iff.mp absent
            obtain ⟨bound, whole⟩ := inv.atEnd iterating ended
            rw [guard list index seen iterating ended, List.append_nil] at whole
            exact ⟨bound, whole⟩
          · rintro _ _ _ ⟨⟩
      · cases step

/-- An evaluation that ends in a list still to be filled has gone through a part
of the load. -/
theorem Inv.needed {label : RuleSetLabel EvaluationID} (inv : state.Inv)
    (step : state.step label = some next) (whole : next.WholeSets) : state.EndsWhole label := by
  cases label with
  | next evaluation =>
      intro list index seen iterating ended
      simp only [RuleSets.step, iterating, List.getElem?_eq_none_iff.mpr ended] at step
      cases step
      obtain ⟨_, same⟩ := whole evaluation list seen (setEvaluation_self _)
      obtain ⟨_, filled⟩ := inv.atEnd iterating ended
      rw [same] at filled
      exact List.append_right_eq_self.mp filled
  | assign rows => trivial
  | append => trivial
  | loaded => trivial
  | begin evaluation => trivial

end RuleSets

/-- In every run, each evaluation goes through the complete result of one load
exactly when none comes to the end of the newest list before the loader has
appended the last rule to it. -/
theorem wholeSets_iff {EvaluationID : Type} [DecidableEq EvaluationID] {parser : Parser}
    (rows : List FraudRule) (labels : List (RuleSetLabel EvaluationID)) :
    (ruleSetMachine EvaluationID parser).Along RuleSets.WholeSets (.start rows) labels ↔
      (ruleSetMachine EvaluationID parser).Guarded RuleSets.EndsWhole (.start rows) labels :=
  Machine.along_iff_guarded (fun _ inv => inv.whole) (fun inv guard step => inv.step guard step)
    (fun inv step whole => inv.needed step whole) labels (RuleSets.inv_start rows)

/-- A reload of one rule, and a request that is scored before it is appended. -/
def evaluatedInTheGap : List (RuleSetLabel Nat) :=
  [.assign [newIpRule], .begin 0, .next 0, .append, .loaded]

/-- It goes through an empty list, which no load gave. -/
theorem wholeSets_fails :
    ¬ ∀ labels : List (RuleSetLabel Nat),
      (ruleSetMachine Nat nameParser).Along RuleSets.WholeSets (.start [newIpRule]) labels := by
  intro always
  have run : ((ruleSetMachine Nat nameParser).exec (.start [newIpRule]) evaluatedInTheGap).map
      (fun state => match state.evaluations 0 with
        | .finished list seen => (seen.length, (loadRules nameParser (state.rows list)).length)
        | _ => (0, 0)) = some (0, 1) := by
    decide +kernel
  obtain ⟨state, reached, observed⟩ := Option.map_eq_some_iff.mp run
  split at observed
  · rename_i list seen finished
    obtain ⟨_, whole⟩ := (always evaluatedInTheGap).final reached 0 list seen finished
    obtain ⟨none, one⟩ := Prod.mk.inj (Option.some.inj (congrArg some observed))
    rw [← whole, none] at one
    cases one
  · cases observed

end Sentinel.Risk
