import Sentinel.Risk.RuleMutations

/-!
# Reading rules back

The rules endpoints answer with rows of `fraud_rules` as the driver returns them,
validated against `RuleResponse`. The model wants a text for `id`, and the driver
returns a `uuid.UUID`: `readsBack_never`.
-/

namespace Sentinel.Risk

open Sentinel.Wire Sentinel.Postgres

/-- A value in a record of the driver. -/
inductive RecordValue where
  | none
  | bool (value : Bool)
  | int (value : Int)
  | str (text : String)
  | uuid (id : Uuid)
  | datetime (instant : Int)

namespace RecordValue

/-- The field type `str`, which converts nothing. -/
def asStr : RecordValue → Option String
  | .str text => some text
  | _ => Option.none

/-- The field type `int`. A numeric text would be converted too, but no text column
is read into a field of this type. -/
def asInt : RecordValue → Option Int
  | .int value => some value
  | .bool value => some (if value then 1 else 0)
  | _ => Option.none

/-- The field type `bool`. -/
def asBool : RecordValue → Option Bool
  | .bool value => some value
  | .int 0 => some false
  | .int 1 => some true
  | _ => Option.none

/-- The field type `datetime`. Numbers and texts would be converted too, but only
timestamps are read into fields of this type. -/
def asDatetime : RecordValue → Option Int
  | .datetime instant => some instant
  | _ => Option.none

/-- `Optional[datetime]` -/
def asOptionalDatetime : RecordValue → Option (Option Int)
  | .none => some Option.none
  | value => value.asDatetime.map some

end RecordValue

/-- The text that the column `action` holds. -/
def RuleAction.text : RuleAction → String
  | .block => "BLOCK"
  | .challenge => "CHALLENGE"
  | .review => "REVIEW"
  | .flag => "FLAG"

/-- The `dict` of a row, as the queries of `RulesRepo` select it. -/
def FraudRule.record (row : FraudRule) : List (String × RecordValue) :=
  [("id", .uuid row.id), ("rule_id", .str row.ruleID), ("name", .str row.name),
    ("description", match row.description with | some text => .str text | none => .none),
    ("expression", .str row.expression), ("score_contribution", .int row.scoreContribution),
    ("action", .str row.action.text), ("is_enabled", .bool row.isEnabled),
    ("priority", .int row.priority), ("hit_count", .int row.hitCount),
    ("last_triggered_at",
      match row.lastTriggeredAt with | some instant => .datetime instant | none => .none),
    ("created_at", .datetime row.createdAt)]

structure RuleResponse where
  id : String
  ruleID : String
  name : String
  description : String
  expression : String
  scoreContribution : Int
  action : String
  isEnabled : Bool
  priority : Int
  hitCount : Int
  lastTriggeredAt : Option Int
  createdAt : Int

/-- Validation against the response model; every field has to be there. -/
def RuleResponse.validate (record : List (String × RecordValue)) : Option RuleResponse := do
  let field name := record.lookup name
  return {
    id := ← (← field "id").asStr
    ruleID := ← (← field "rule_id").asStr
    name := ← (← field "name").asStr
    description := ← (← field "description").asStr
    expression := ← (← field "expression").asStr
    scoreContribution := ← (← field "score_contribution").asInt
    action := ← (← field "action").asStr
    isEnabled := ← (← field "is_enabled").asBool
    priority := ← (← field "priority").asInt
    hitCount := ← (← field "hit_count").asInt
    lastTriggeredAt := ← (← field "last_triggered_at").asOptionalDatetime
    createdAt := ← (← field "created_at").asDatetime }

/-- The answer of an endpoint that returns a row: a response that does not validate is
an internal error. -/
def answerRow (status : Nat) (row : FraudRule) : Nat × Option RuleResponse :=
  match RuleResponse.validate row.record with
  | some response => (status, some response)
  | none => (500, none)

/-- `get_all_rules` -/
def answerRows (rows : List FraudRule) : Nat × Option (List RuleResponse) :=
  match rows.mapM fun row => RuleResponse.validate row.record with
  | some responses => (200, some responses)
  | none => (500, none)

/-- The results that `get_all` may have. -/
def RulesTable.IsListing (table : RulesTable) (rows : List FraudRule) : Prop :=
  rows.Perm table.rows ∧ rows.Pairwise fun rule later =>
    later.priority < rule.priority ∨ later.priority = rule.priority ∧ rule.createdAt ≤ later.createdAt

/-- The response has the fields of the request. -/
structure RuleResponse.Submits (response : RuleResponse) (rule : RuleCreate) : Prop where
  ruleID : response.ruleID = rule.ruleID
  name : response.name = rule.name
  description : response.description = rule.description
  expression : response.expression = rule.expression
  scoreContribution : response.scoreContribution = rule.scoreContribution
  action : response.action = rule.action
  isEnabled : response.isEnabled = rule.isEnabled
  priority : response.priority = rule.priority

/-- The created row is answered with 201 and the submitted fields, and whoever lists the
rules of the table then finds it among them. -/
structure ReadsBack (table : RulesTable) (rule : RuleCreate) (row : FraudRule) : Prop where
  created : ∃ response, answerRow 201 row = (201, some response) ∧ response.Submits rule
  listed : ∀ rows, table.IsListing rows → ∃ responses, answerRows rows = (200, some responses) ∧
    ∃ response ∈ responses, response.id = row.id.string ∧ response.Submits rule

/-- The identifier of no row validates. -/
theorem validate_record (row : FraudRule) : RuleResponse.validate row.record = none := rfl

/-- With a text for its identifier, a row would validate unless its description is NULL. -/
theorem validate_textID_isSome_iff (row : FraudRule) (text : String) :
    (RuleResponse.validate (("id", .str text) :: row.record.tail)).isSome ↔
      row.description.isSome := by
  obtain ⟨⟨name, description, _, _, _, _, _, _⟩, _, _, _, lastTriggeredAt, _, _⟩ := row
  cases description <;> cases lastTriggeredAt <;>
    simp [RuleResponse.validate, FraudRule.record, RecordValue.asStr, RecordValue.asInt,
      RecordValue.asBool, RecordValue.asDatetime, RecordValue.asOptionalDatetime, List.lookup_cons]

/-- The rules can be listed when there are none. -/
theorem answerRows_eq_ok_iff {rows : List FraudRule} : (answerRows rows).1 = 200 ↔ rows = [] := by
  cases rows with
  | nil => simp [answerRows]
  | cons row rest => simp [answerRows, List.mapM_cons, validate_record]

section Requests

variable {parser : Parser} {adminServiceToken : String} {caller : Caller}
  {mutation : RuleMutation} {newID : Uuid} {now : Int} {fate : MutationFate}

/-- The response is what validation makes of some row. -/
def MutationFate.Validates (fate : MutationFate) : Prop :=
  ∃ row : FraudRule, fate.response = (RuleResponse.validate row.record).isSome

/-- Every request to create or update a rule is answered with an error, also when its
statement has taken effect. -/
theorem mutateRule_error (validates : fate.Validates) (responds : mutation.respondsWithRow)
    (store : RuleStore parser) :
    400 ≤ (mutateRule adminServiceToken caller mutation newID now fate store).1 := by
  obtain ⟨row, response⟩ := validates
  rw [validate_record] at response
  by_cases effect : ∃ changed, TakesEffect adminServiceToken caller mutation newID now fate parser
      store.table changed
  · obtain ⟨changed, effect⟩ := effect
    have interrupted : ¬Completes mutation fate changed := by
      intro completes
      have built := completes.response responds
      rw [response] at built
      cases built
    rw [(mutateRule_of_interrupted effect interrupted).1]
    decide
  · exact (mutateRule_of_refused fun changed reached => effect ⟨changed, reached⟩).1

end Requests

/-- No rule that the table accepts is read back: its creation is answered with an
internal error, and so is every listing from then on. -/
theorem readsBack_never (table : RulesTable) (rule : RuleCreate) (newID : Uuid) (now : Int)
    (changed : RulesTable) (accepted : table.create rule newID now = .ok changed) :
    (∀ row ∈ changed.rows, RuleResponse.validate row.record = none) ∧
      (∀ rows, changed.IsListing rows → (answerRows rows).1 = 500) ∧
      ∀ row ∈ changed.rows, ¬ReadsBack changed rule row := by
  refine ⟨fun row _ => validate_record row, fun rows listing => ?_, fun row _ readsBack => ?_⟩
  · have stored : rows ≠ [] := by
      rintro rfl
      have longer := RulesTable.length_create accepted
      rw [← listing.1.length_eq] at longer
      simp at longer
    obtain ⟨row, rest, rfl⟩ := List.exists_cons_of_ne_nil stored
    simp [answerRows, List.mapM_cons, validate_record]
  · obtain ⟨response, answered, -⟩ := readsBack.created
    simp [answerRow, validate_record] at answered

/-- A rule as an administrator submits it. -/
def submittedRule : RuleCreate where
  name := "New address"
  description := "The address is new to its user"
  expression := "is_new_ip"
  scoreContribution := 40
  action := "REVIEW"
  ruleID := "RULE_NEW_IP"

def noRules : RulesTable := ⟨[], by decide, by decide⟩

/-- The row that the table makes of it. -/
def submittedRow : FraudRule :=
  { newIpRule with
    description := some "The address is new to its user"
    scoreContribution_mem := scoreContribution_newIpRule
    createdAt := 0
    updatedAt := 0 }

/-- The table takes the submitted rule. -/
theorem create_submittedRule :
    noRules.create submittedRule newIpRule.id 0 = .ok ⟨[submittedRow], by decide, by decide⟩ := rfl

/-- Its row does not pass for a response. -/
theorem readsBack_never_submitted : RuleResponse.validate submittedRow.record = none :=
  (readsBack_never noRules submittedRule newIpRule.id 0 _ create_submittedRule).1 submittedRow
    (List.mem_singleton_self _)

/-- So it does not read back. -/
theorem readsBack_fails :
    ¬ ∀ (table : RulesTable) (rule : RuleCreate) (newID : Uuid) (now : Int) (changed : RulesTable),
      table.create rule newID now = .ok changed →
        ∃ row ∈ changed.rows, row.id = newID ∧ ReadsBack changed rule row := by
  intro always
  obtain ⟨row, _, _, readsBack⟩ := always noRules submittedRule newIpRule.id 0 _ create_submittedRule
  obtain ⟨response, answered, _⟩ := readsBack.created
  simp [answerRow, validate_record] at answered

end Sentinel.Risk
