import Sentinel.Postgres.Table
import Sentinel.Risk.Aggregator
import Sentinel.Wire.PythonParsers

/-!
# The record of decisions

`DecisionsRepo.save` against the table `risk_decisions` of the migrations. The
INSERT names a column that the table does not have, and `save` logs the error
and goes on, so no decision is recorded: `durable_never`.
-/

namespace Sentinel.Risk

open Sentinel.Wire Sentinel.Postgres

/-- `risk_decisions` as migration 6 creates it. -/
def riskDecisions : Table where
  columns :=
    [{ name := "id", type := .uuid, notNull := true, hasDefault := true },
      { name := "request_id", type := .varchar 255, notNull := true },
      { name := "user_id", type := .uuid },
      { name := "session_id", type := .uuid },
      { name := "ip_address", type := .inet, notNull := true },
      { name := "final_score", type := .numeric 5 2, notNull := true },
      { name := "action", type := .varchar 20, notNull := true },
      { name := "scores", type := .jsonb, notNull := true, hasDefault := true },
      { name := "triggered_rules", type := .textArray, notNull := true, hasDefault := true },
      { name := "shap_values", type := .jsonb },
      { name := "processing_time_ms", type := .integer },
      { name := "created_at", type := .timestamptz, notNull := true, hasDefault := true }]
  key := "id"

/-- `_as_uuid_or_none` -/
def asUuidOrNone : Option String → PyValue
  | none => .none
  | some text =>
      if text = "" then .none
      else match pythonUuid text with
        | some id => .uuid id
        | none => .none

/-- `_as_inet_or_none`: a text that is no address is stored as the unroutable one. -/
def asInetOrNone (address : String) : PyValue :=
  if address = "" then .none
  else if isIpAddress address then .str address
  else .str "0.0.0.0"

/-- `json.dumps(decision.scores)` -/
def ComponentScores.json (scores : ComponentScores) : Json :=
  .obj [("rules", .num scores.rules), ("ml", .num scores.ml), ("ip", .num scores.ip),
    ("velocity", .num scores.velocity)]

def ShapContribution.json (shap : ShapContribution) : Json :=
  .obj [("feature", .str shap.feature), ("contribution", .num shap.contribution)]

/-- An empty list is as good as none. -/
def shapArgument : Option (List ShapContribution) → PyValue
  | none | some [] => .none
  | some contributions => .jsonText (.arr (contributions.map ShapContribution.json))

namespace DecisionsRepo

/-- The columns that the INSERT of `save` names, with their arguments. -/
def statement (decision : RiskDecision) : Statement :=
  [("id", .str decision.decisionID.string),
    ("request_id", .str decision.requestID),
    ("user_id", asUuidOrNone decision.userID),
    ("ip_address", asInetOrNone decision.ipAddress),
    ("final_score", .float decision.finalScore),
    ("action", .str decision.action.text),
    ("scores", .jsonText decision.scores.json),
    ("triggered_rules", .strList decision.triggeredRules),
    ("shap_top5", shapArgument decision.shapTop5),
    ("processing_time_ms", .float decision.processingTimeMs)]

variable (driver : Driver) (defaults : String → SqlValue)

/-- The rows after `save`, which logs an error of the INSERT and swallows it. -/
def save (rows : List Row) (decision : RiskDecision) : List Row :=
  match insert driver defaults riskDecisions (statement decision) rows with
  | .ok after => after
  | .error _ => rows

/-- The INSERT is accepted, and the decision's row is in the table afterwards. -/
def Durable (rows : List Row) (decision : RiskDecision) : Prop :=
  (∃ after, insert driver defaults riskDecisions (statement decision) rows = .ok after) ∧
    ∃ row ∈ save driver defaults rows decision,
      row.lookup "id" = some (.uuid decision.decisionID)

variable (rows : List Row) (decision : RiskDecision)

/-- The server refuses the INSERT of every decision before it looks at a value. -/
theorem statement_refused :
    ∃ column, insert driver defaults riskDecisions (statement decision) rows =
      .error (.undefinedColumn column) := by
  have named : "shap_top5" ∈ (statement decision).map Prod.fst := by
    simp only [statement, List.map_cons, List.mem_cons, true_or, or_true]
  exact insert_undefinedColumn named rfl

/-- `save` never changes the table. -/
theorem save_unchanged : save driver defaults rows decision = rows := by
  obtain ⟨column, refused⟩ := statement_refused driver defaults rows decision
  rw [save, refused]

/-- No decision becomes durable: whatever encodes the arguments, whatever the
defaults are and whatever rows there are already. -/
theorem durable_never : ¬ Durable driver defaults rows decision := by
  rintro ⟨⟨after, accepted⟩, _⟩
  obtain ⟨column, refused⟩ := statement_refused driver defaults rows decision
  rw [refused] at accepted
  cases accepted

/-- The request of a high-risk login. -/
def highRiskRequest : ScoreRequest where
  eventID := "evt-1"
  eventType := "user.login"
  requestID := "req-1"
  ipAddress := "203.0.113.5"

/-- The decision that is made when every component scores 90. -/
def highRiskDecision : RiskDecision :=
  ({} : RiskAggregator).aggregate 90 90 90 90 ["RULE_002"] none highRiskRequest (Uuid.ofNat 1)

/-- `asyncpg`, for the column types and arguments that occur. -/
def asyncpg : Driver
  | .uuid, .uuid id => some (.uuid id)
  | .uuid, .str text => (Uuid.ofDigits (text.toList.filter (· ≠ '-'))).map .uuid
  | .varchar _, .str text | .text, .str text => some (.text text)
  | .textArray, .strList texts => some (.textArray texts)
  | .inet, .str text => if isIpAddress text then some (.inet text) else none
  | .numeric _ _, .float value => some (.numeric value)
  | .numeric _ _, .int value => some (.numeric value)
  | .integer, .int value => if fitsInteger value then some (.integer value) else none
  | .jsonb, .jsonText document => some (.jsonb document)
  | _, _ => none

/-- What the defaults of `risk_decisions` evaluate to at some moment. -/
def migrationDefaults (column : String) : SqlValue :=
  if column = "id" then .uuid (Uuid.ofNat 2)
  else if column = "scores" then .jsonb (.obj [])
  else if column = "triggered_rules" then .textArray []
  else .timestamptz 1735689600000000000

/-- The insert of a decision names a column that no migration creates. -/
theorem durable_fails : ¬ ∀ decision, Durable asyncpg migrationDefaults [] decision := by
  intro always
  obtain ⟨⟨after, accepted⟩, _⟩ := always highRiskDecision
  have refused : insert asyncpg migrationDefaults riskDecisions
      (statement highRiskDecision) [] = .error (.undefinedColumn "shap_top5") := rfl
  rw [refused] at accepted
  cases accepted

/-!
## The other columns

A table that had the missing column would still refuse: the time is a float
where the column is an integer, and an empty address becomes a null where the
column allows none.
-/

section

variable {driver defaults rows decision} {table : Table} {column : Column}

/-- No table whose `processing_time_ms` is an integer takes any decision, when
the driver does not encode a float as an integer. -/
theorem float_refused (integral : ∀ value, driver .integer (.float value) = none)
    (member : column ∈ table.columns) (named : column.name = "processing_time_ms")
    (typed : column.type = .integer) :
    ∃ problem, insert driver defaults table (statement decision) rows = .error problem := by
  have argument : (statement decision).lookup "processing_time_ms" =
      some (.float decision.processingTimeMs) := rfl
  have refused : cell driver defaults (statement decision) column =
      .error (.dataError "processing_time_ms") := by
    rw [cell, supplied, named, argument]
    simp only [typed, integral]
    rfl
  exact insert_refused member refused

/-- An address is stored as null exactly when the request's is empty. -/
theorem asInetOrNone_none_iff (address : String) : asInetOrNone address = .none ↔ address = "" := by
  unfold asInetOrNone
  split
  · simp [*]
  · split <;> simp [*]

/-- Whatever address is stored is a valid one. -/
theorem asInetOrNone_valid {address text : String} (stored : asInetOrNone address = .str text) :
    isIpAddress text := by
  unfold asInetOrNone at stored
  split at stored
  · cases stored
  · split at stored
    · rename_i valid
      cases stored
      exact valid
    · cases stored
      decide

/-- No table whose `ip_address` is declared NOT NULL takes the decision about a
request with an empty address. -/
theorem emptyAddress_refused (empty : decision.ipAddress = "") (member : column ∈ table.columns)
    (named : column.name = "ip_address") (required : column.notNull) :
    ∃ problem, insert driver defaults table (statement decision) rows = .error problem := by
  have argument : (statement decision).lookup "ip_address" = some .none := by
    rw [← (asInetOrNone_none_iff _).mpr empty]
    rfl
  have refused : cell driver defaults (statement decision) column =
      .error (.notNullViolation "ip_address") := by
    rw [cell, supplied, named, argument]
    simp only [bind, Except.bind, required, SqlValue.isNull, Bool.and_self, if_true]
  exact insert_refused member refused

end

end DecisionsRepo
end Sentinel.Risk
