import Sentinel.Risk.RuleCache
import Sentinel.Semantics.ExpressionTree

/-!
# Accepted rules at evaluation

`validate_expression` looks at the syntax of an expression and at the names in
it. Its value is met only in `evaluate`, for one feature vector after the other:
there an operator may raise on its operands. Then the rule is passed over for that
vector, and `acceptedRule_evaluates` says that it raises for no other reason and
that nothing else changes.
-/

namespace Sentinel.Risk

open Sentinel.Semantics

variable {parser : Parser} {features : Features}

/-- What the package says of a compiled expression: it is made of numbers, names and
operators (a call of a function is one too), and is evaluated from its operands up. -/
structure OperatorTrees (parser : Parser) where
  ofFloat : PyFloat → parser.Value
  undefinedVariable : String → String
  tree : parser.Expression → ExpressionTree parser.Value String
  listed : ∀ compiled, ∀ name ∈ (tree compiled).names, name ∈ parser.variableNames compiled
  evaluates : ∀ compiled (features : Features), parser.evaluate compiled features.asdict =
    (tree compiled).evaluate undefinedVariable fun name =>
      (features.asdict.lookup name).map ofFloat

/-- An operator of the expression raises on its operands, with this feature vector. -/
def OperatorTrees.Raises {parser : Parser} (trees : OperatorTrees parser)
    (compiled : parser.Expression) (features : Features) : Prop :=
  (trees.tree compiled).OperatorRaises trees.undefinedVariable fun name =>
    (features.asdict.lookup name).map trees.ofFloat

namespace RulesEngine

/-- The accumulators of `evaluate` at the end of its loop. -/
def evaluated (features : Features) (cache : List (CacheRule parser)) : Evaluation :=
  cache.foldl (evaluateRule features) ⟨0, [], []⟩

/-- Evaluating the cache evaluates the rule: it triggers when its expression comes to
something true, and when that raises the others are evaluated as without it. -/
structure EvaluatesRule (features : Features) (cache : List (CacheRule parser))
    (entry : CacheRule parser) : Prop where
  triggers : entry.id ∈ (evaluated features cache).triggeredDbIDs ↔
    ∃ result, parser.evaluate entry.compiled features.asdict = .ok result ∧
      parser.truthy result = true
  raises : ∀ problem, parser.evaluate entry.compiled features.asdict = .error problem →
    evaluated features cache = evaluated features (cache.filter fun other => other.id ≠ entry.id)

/-- A cached rule fires where its evaluation ends with a value that Python takes as true. -/
theorem triggers_iff {rule : CacheRule parser} :
    triggers features rule = true ↔
      ∃ result, parser.evaluate rule.compiled features.asdict = .ok result ∧
        parser.truthy result = true := by
  unfold triggers
  cases parser.evaluate rule.compiled features.asdict with
  | ok result => simp
  | error problem => simp

/-- A rule whose evaluation raises is skipped. -/
theorem triggers_of_raises {rule : CacheRule parser} {problem : String}
    (raises : parser.evaluate rule.compiled features.asdict = .error problem) :
    triggers features rule = false := by
  unfold triggers
  rw [raises]

/-- The loop depends on the triggered rules only. -/
theorem evaluated_congr {cache other : List (CacheRule parser)}
    (same : triggered features cache = triggered features other) :
    evaluated features cache = evaluated features other := by
  unfold evaluated
  rw [foldl_evaluateRule, foldl_evaluateRule, same]

/-- In a cache with one rule under each id, an entry's id stands for the entry. -/
theorem evaluatesRule {cache : List (CacheRule parser)} (distinct : (cache.map (·.id)).Nodup)
    {entry : CacheRule parser} (cached : entry ∈ cache) : EvaluatesRule features cache entry where
  triggers := by
    simp only [evaluated, foldl_evaluateRule, List.nil_append, List.mem_map]
    rw [← triggers_iff]
    constructor
    · rintro ⟨other, fires, same⟩
      obtain ⟨listed, fires⟩ := List.mem_filter.mp fires
      exact List.inj_on_of_nodup_map distinct listed cached same ▸ fires
    · intro fires
      exact ⟨entry, List.mem_filter.mpr ⟨cached, fires⟩, rfl⟩
  raises problem raised := by
    apply evaluated_congr
    unfold triggered
    rw [List.filter_filter]
    refine (List.filter_congr fun other listed => ?_).symm
    by_cases itself : other.id = entry.id
    · obtain rfl := List.inj_on_of_nodup_map distinct listed cached itself
      rw [triggers_of_raises raised, Bool.false_and]
    · simp [itself]

end RulesEngine

open RulesEngine

/-- Acceptance is about the syntax and the names. -/
theorem validateExpression_ok {expression : String}
    (accepted : validateExpression parser expression = .ok ()) :
    ∃ compiled, parser.parse expression = .ok compiled ∧
      ∀ name ∈ parser.variableNames compiled, name ∈ Features.featureNames := by
  unfold validateExpression at accepted
  split at accepted
  · cases accepted
  · split at accepted
    · cases accepted
    · rename_i compiled parsed
      simp only at accepted
      split at accepted
      · cases accepted
      · rename_i known
        refine ⟨compiled, parsed, fun name named => ?_⟩
        by_contra unknown
        apply known
        refine List.ne_nil_of_mem (List.mem_filter.mpr ⟨List.mem_dedup.mpr named, ?_⟩)
        simpa using unknown

/-- Every name of the feature vector has a value in `asdict`. -/
theorem lookup_isSome {name : String} (known : name ∈ Features.featureNames) :
    (features.asdict.lookup name).isSome := by
  rw [← Features.asdict_keys features] at known
  obtain ⟨field, listed, rfl⟩ := List.mem_map.mp known
  exact List.lookup_isSome_iff.mpr ⟨field, listed, beq_self_eq_true _⟩

/-- An expression all of whose names are features evaluates unless an operator raises. -/
theorem OperatorTrees.evaluates_iff (trees : OperatorTrees parser) {compiled : parser.Expression}
    (known : ∀ name ∈ parser.variableNames compiled, name ∈ Features.featureNames) :
    (∃ result, parser.evaluate compiled features.asdict = .ok result) ↔
      ¬ trees.Raises compiled features := by
  rw [trees.evaluates]
  refine ExpressionTree.evaluate_ok_iff _ fun name named => ?_
  rw [Option.isSome_map]
  exact lookup_isSome (known name (trees.listed compiled name named))

/-- Every enabled rule with an accepted expression is loaded, and evaluates for every
feature vector unless an operator of it raises on its operands; then all other rules are
evaluated as without it. -/
theorem acceptedRule_evaluates (parser : Parser) (trees : OperatorTrees parser)
    (table : RulesTable) (rows : List FraudRule)
    (snapshot : table.IsSnapshot rows) (rule : FraudRule) (stored : rule ∈ table.rows)
    (enabled : rule.isEnabled = true)
    (accepted : validateExpression parser rule.expression = .ok ()) (features : Features) :
    ∃ entry ∈ loadRules parser rows, entry.id = rule.id ∧ entry.ruleID = rule.ruleID ∧
      entry.scoreContribution = rule.scoreContribution ∧
      parser.parse rule.expression = .ok entry.compiled ∧
      (∀ name ∈ parser.variableNames entry.compiled, (features.asdict.lookup name).isSome) ∧
      ((∃ result, parser.evaluate entry.compiled features.asdict = .ok result) ↔
        ¬ trees.Raises entry.compiled features) ∧
      EvaluatesRule features (loadRules parser rows) entry := by
  obtain ⟨compiled, parsed, known⟩ := validateExpression_ok accepted
  have queried : rule ∈ rows := snapshot.1.mem_iff.mpr (List.mem_filter.mpr ⟨stored, enabled⟩)
  obtain ⟨entry, loaded⟩ : ∃ entry, compileRule parser rule = some entry := by
    unfold compileRule
    rw [if_pos enabled, parsed]
    exact ⟨_, rfl⟩
  obtain ⟨_, parsedAgain, sameID, sameRuleID, sameContribution⟩ :=
    compileRule_eq_some_iff.mp loaded
  obtain rfl := Except.ok.inj (parsed.symm.trans parsedAgain)
  have cached : entry ∈ loadRules parser rows := List.mem_filterMap.mpr ⟨rule, queried, loaded⟩
  have distinct : (rows.map (·.id)).Nodup :=
    (snapshot.1.map _).nodup_iff.mpr (table.id_nodup.sublist (List.filter_sublist.map _))
  exact ⟨entry, cached, sameID, sameRuleID, sameContribution, parsed,
    fun name named => lookup_isSome (known name named), trees.evaluates_iff known,
    evaluatesRule ((loadRules_ids rows).nodup distinct) cached⟩

/-- The share of an address's attempts that failed. -/
def failureRatio : String := "v_login_failures_5m / v_login_attempts_5m"

/-- Python's `/` on floats. -/
def divide : PyFloat → PyFloat → Except String PyFloat
  | .finite dividend, .finite divisor =>
      if divisor = 0 then .error "float division by zero" else .ok (.finite (dividend / divisor))
  | _, _ => .ok .nan

def ratioTree : ExpressionTree PyFloat String :=
  .binary divide (.named "v_login_failures_5m") (.named "v_login_attempts_5m")

/-- A parser of this one expression, on which it agrees with the real one. -/
def ratioParser : Parser where
  Expression := Unit
  Value := PyFloat
  parse text := if text = failureRatio then .ok () else .error "parse error"
  variableNames _ := ratioTree.names
  evaluate _ values := ratioTree.evaluate ("undefined variable: " ++ ·) fun name =>
    values.lookup name
  truthy value := value ≠ 0

def ratioTrees : OperatorTrees ratioParser where
  ofFloat := id
  undefinedVariable name := "undefined variable: " ++ name
  tree _ := ratioTree
  listed _ _ named := named
  evaluates _ features := by
    have same : (fun name => (features.asdict.lookup name).map id) =
        fun name => features.asdict.lookup name := funext fun name => by rw [Option.map_id, id]
    exact congrArg (ratioTree.evaluate ("undefined variable: " ++ ·)) same.symm

def ratioRule : FraudRule :=
  { newIpRule with
    ruleID := "RULE_RATIO"
    expression := failureRatio
    scoreContribution_mem := scoreContribution_newIpRule }

/-- The quotient of two features is an acceptable expression. -/
theorem accepted_ratio : validateExpression ratioParser failureRatio = .ok () := rfl

/-- The loaded rule evaluates but for the division by zero, and then it does not fire. -/
theorem acceptedRule_evaluates_ratio :
    ∃ entry ∈ loadRules ratioParser [ratioRule], entry.id = ratioRule.id ∧
      entry.ruleID = "RULE_RATIO" ∧ entry.scoreContribution = 40 ∧
      ratioParser.parse failureRatio = .ok entry.compiled ∧
      (∀ name ∈ ratioParser.variableNames entry.compiled,
        (Features.asdict {}).lookup name |>.isSome) ∧
      ((∃ result, ratioParser.evaluate entry.compiled (Features.asdict {}) = .ok result) ↔
        ¬ ratioTrees.Raises entry.compiled {}) ∧
      RulesEngine.EvaluatesRule {} (loadRules ratioParser [ratioRule]) entry :=
  acceptedRule_evaluates ratioParser ratioTrees ⟨[ratioRule], by decide, by decide⟩ [ratioRule]
    (by decide) ratioRule (by decide) rfl accepted_ratio {}

/-- `math.isfinite` -/
def PyFloat.isFinite : PyFloat → Bool
  | .finite _ => true
  | .posInf | .negInf | .nan => false

/-- Accepted rules are loaded, and evaluate for every vector of finite values. -/
def AlwaysEvaluates (parser : Parser) (expression : String) : Prop :=
  ∀ rule : FraudRule, rule.isEnabled = true → rule.expression = expression →
    ∃ entry, compileRule parser rule = some entry ∧ ∀ features : Features,
      features.asdict.all (·.2.isFinite) = true →
        ∃ result, parser.evaluate entry.compiled features.asdict = .ok result

/-- Without an attempt the ratio divides by zero. -/
theorem alwaysEvaluates_fails :
    ¬ ∀ (parser : Parser) (expression : String),
      validateExpression parser expression = .ok () → AlwaysEvaluates parser expression := by
  intro always
  obtain ⟨entry, -, evaluates⟩ := always ratioParser failureRatio accepted_ratio ratioRule rfl rfl
  obtain ⟨result, evaluated⟩ := evaluates {} (by decide)
  cases evaluated

end Sentinel.Risk
