import Mathlib.Data.List.Nodup
import Mathlib.Data.List.Perm.Basic
import Sentinel.Postgres.Table

/-!
# The table of fraud rules

`fraud_rules` with the constraints that its rows satisfy, and the statements of
`RulesRepo` on it. A statement is one atomic step on the table; an error leaves
the table as it was.
-/

namespace Sentinel.Risk

open Sentinel.Wire Sentinel.Postgres

inductive RuleAction where
  | block
  | challenge
  | review
  | flag
deriving DecidableEq

/-- The texts that the CHECK on the column `action` lets in. -/
def RuleAction.ofText (text : String) : Option RuleAction :=
  if text = "BLOCK" then some .block
  else if text = "CHALLENGE" then some .challenge
  else if text = "REVIEW" then some .review
  else if text = "FLAG" then some .flag
  else none

structure RuleUpdate where
  name : String
  description : String := ""
  expression : String
  scoreContribution : Int
  action : String
  isEnabled : Bool := true
  priority : Int := 50

structure RuleCreate extends RuleUpdate where
  ruleID : String

/-- The columns that a mutation assigns. -/
structure RuleColumns where
  name : String
  description : Option String
  expression : String
  scoreContribution : Int
  action : RuleAction
  isEnabled : Bool
  priority : Int
  scoreContribution_mem : 0 ≤ scoreContribution ∧ scoreContribution ≤ 100
deriving DecidableEq

structure FraudRule extends RuleColumns where
  id : Uuid
  ruleID : String
  hitCount : Int
  lastTriggeredAt : Option Int
  createdAt : Int
  updatedAt : Int
deriving DecidableEq

structure RulesTable where
  rows : List FraudRule
  id_nodup : (rows.map (·.id)).Nodup
  ruleID_nodup : (rows.map (·.ruleID)).Nodup

/-- Encode the arguments of a mutation and hand them to the server. -/
def RuleUpdate.bindArguments (rule : RuleUpdate) : Except SqlError Unit := do
  if !fitsInteger rule.scoreContribution then .error (.dataError "score_contribution")
  if !fitsInteger rule.priority then .error (.dataError "priority")
  discard ([rule.name, rule.description, rule.expression, rule.action].mapM fitText)

/-- Assign the arguments of a mutation to the columns. -/
def RuleUpdate.fit (rule : RuleUpdate) : Except SqlError RuleColumns := do
  let name ← fitVarchar 255 rule.name
  match RuleAction.ofText rule.action with
  | none => .error (.checkViolation "action")
  | some action =>
      if bounds : 0 ≤ rule.scoreContribution ∧ rule.scoreContribution ≤ 100 then
        .ok
          { name
            description := some rule.description
            expression := rule.expression
            scoreContribution := rule.scoreContribution
            action
            isEnabled := rule.isEnabled
            priority := rule.priority
            scoreContribution_mem := bounds }
      else .error (.checkViolation "score_contribution")

namespace RulesTable

variable (table : RulesTable)

/-- The results that `get_all_enabled` may have: the order among rules of equal
priority is up to the server. -/
def IsSnapshot (rows : List FraudRule) : Prop :=
  rows.Perm (table.rows.filter (·.isEnabled)) ∧
    rows.Pairwise fun rule later => later.priority ≤ rule.priority

instance (rows : List FraudRule) : Decidable (table.IsSnapshot rows) :=
  inferInstanceAs (Decidable (_ ∧ _))

/-- Append a row whose keys are fresh. -/
def append (rule : FraudRule) : Except SqlError RulesTable :=
  if freshRuleID : rule.ruleID ∉ table.rows.map (·.ruleID) then
    if freshID : rule.id ∉ table.rows.map (·.id) then
      .ok
        { rows := table.rows ++ [rule]
          id_nodup := by
            rw [List.map_append]
            exact List.nodup_append_comm.mp (List.nodup_cons.mpr ⟨freshID, table.id_nodup⟩)
          ruleID_nodup := by
            rw [List.map_append]
            exact List.nodup_append_comm.mp
              (List.nodup_cons.mpr ⟨freshRuleID, table.ruleID_nodup⟩) }
    else .error (.uniqueViolation "id")
  else .error (.uniqueViolation "rule_id")

/-- `create`; `id` and `now` are what the column defaults evaluate to. -/
def create (rule : RuleCreate) (id : Uuid) (now : Int) : Except SqlError RulesTable := do
  rule.bindArguments
  let ruleID ← fitVarchar 20 rule.ruleID
  let columns ← rule.fit
  table.append
    { columns with id, ruleID, hitCount := 0, lastTriggeredAt := none, createdAt := now,
                   updatedAt := now }

/-- Change rows without touching their keys. -/
def mapRows (change : FraudRule → FraudRule)
    (keys : ∀ rule, (change rule).id = rule.id ∧ (change rule).ruleID = rule.ruleID) :
    RulesTable where
  rows := table.rows.map change
  id_nodup := by
    have same : (table.rows.map change).map (·.id) = table.rows.map (·.id) := by
      rw [List.map_map]
      exact List.map_congr_left fun rule _ => (keys rule).1
    rw [same]
    exact table.id_nodup
  ruleID_nodup := by
    have same : (table.rows.map change).map (·.ruleID) = table.rows.map (·.ruleID) := by
      rw [List.map_map]
      exact List.map_congr_left fun rule _ => (keys rule).2
    rw [same]
    exact table.ruleID_nodup

/-- Assign the columns of a row that has the rule id. -/
def assign (ruleID : String) (columns : RuleColumns) (now : Int) (rule : FraudRule) : FraudRule :=
  if rule.ruleID = ruleID then { rule with toRuleColumns := columns, updatedAt := now } else rule

/-- An update keeps the two ids of a row. -/
theorem assign_keys (ruleID : String) (columns : RuleColumns) (now : Int) (rule : FraudRule) :
    (assign ruleID columns now rule).id = rule.id ∧
      (assign ruleID columns now rule).ruleID = rule.ruleID := by
  unfold assign
  split <;> exact ⟨rfl, rfl⟩

/-- `update_by_rule_id`, with `none` for a rule id that no row has. -/
def updateByRuleID (ruleID : String) (rule : RuleUpdate) (now : Int) :
    Except SqlError (Option RulesTable) := do
  rule.bindArguments
  let ruleID ← fitText ruleID
  if ruleID ∈ table.rows.map (·.ruleID) then
    let columns ← rule.fit
    .ok (some (table.mapRows (assign ruleID columns now) (assign_keys ruleID columns now)))
  else .ok none

/-- `delete_by_rule_id`, with `none` for a rule id that no row has. -/
def deleteByRuleID (ruleID : String) : Except SqlError (Option RulesTable) := do
  let ruleID ← fitText ruleID
  if ruleID ∈ table.rows.map (·.ruleID) then
    .ok (some
      { rows := table.rows.filter (·.ruleID ≠ ruleID)
        id_nodup := table.id_nodup.sublist (List.filter_sublist.map _)
        ruleID_nodup := table.ruleID_nodup.sublist (List.filter_sublist.map _) })
  else .ok none

/-- Count a hit of a row that is among the triggered ones. -/
def countHit (ids : List Uuid) (now : Int) (rule : FraudRule) : FraudRule :=
  if rule.id ∈ ids then { rule with hitCount := rule.hitCount + 1, lastTriggeredAt := some now }
  else rule

theorem countHit_keys (ids : List Uuid) (now : Int) (rule : FraudRule) :
    (countHit ids now rule).id = rule.id ∧ (countHit ids now rule).ruleID = rule.ruleID := by
  unfold countHit
  split <;> exact ⟨rfl, rfl⟩

/-- `increment_hit_counts` -/
def incrementHitCounts (ids : List Uuid) (now : Int) : RulesTable :=
  table.mapRows (countHit ids now) (countHit_keys ids now)

end RulesTable
end Sentinel.Risk
