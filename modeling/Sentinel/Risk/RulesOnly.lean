import Sentinel.Risk.IPIntelligence
import Sentinel.Risk.ModelReload
import Sentinel.Risk.Verdict

/-!
# The ceiling of the rules-only mode

Without a model and failing open, `score` is zero, and each other component is at
most 100. So the final score is at most what their weights leave room for, up to
the rounding to two decimals: `rulesOnly_ceiling`.
-/

namespace Sentinel.Risk

open Sentinel.Wire RulesEngine

variable {Model : Type} {parser : Parser}

/-- Rounding adds a half at most. -/
theorem roundHalfEven_le (value : ℚ) : (roundHalfEven value : ℚ) ≤ value + 1 / 2 := by
  have floor := Int.floor_le value
  rcases roundHalfEven_floor value with down | ⟨up, half⟩
  · rw [down]
    linarith
  · rw [up]
    push_cast
    linarith

/-- Rounding to two decimals adds half a hundredth at most. -/
theorem roundTo_two_le (value : ℚ) : roundTo 2 value ≤ value + 1 / 200 := by
  have rounded := roundHalfEven_le (value * 10 ^ 2)
  unfold roundTo
  rw [div_le_iff₀ (by norm_num)]
  linarith

/-- `score`. The probability and the five SHAP values are the model's and the
explainer's. -/
def LightGBMScorer.score (scorer : LightGBMScorer Model) (failOpen : Bool)
    (predict : Model → Features → ℚ) (shapValues : Model → Features → List ShapContribution)
    (features : Features) : Except PyException (ℚ × Option (List ShapContribution)) :=
  match scorer.modelLoaded, scorer.model with
  | true, some model =>
      let prob := predict model features
      let shapTop5 :=
        if 40 < prob * 100 then scorer.explainer.map fun explainer => shapValues explainer features
        else none
      .ok (roundTo 2 (prob * 100), shapTop5)
  | _, _ =>
      if failOpen then .ok (0, none) else .error (.runtimeError "risk model is unavailable")

/-- No model is loaded. -/
def LightGBMScorer.Missing (scorer : LightGBMScorer Model) : Prop :=
  scorer.modelLoaded = false ∨ scorer.model = none

/-- Without a model the scorer answers zero and no explanation. -/
theorem LightGBMScorer.Missing.score {scorer : LightGBMScorer Model} (missing : scorer.Missing)
    (predict : Model → Features → ℚ) (shapValues : Model → Features → List ShapContribution)
    (features : Features) : scorer.score true predict shapValues features = .ok (0, none) := by
  unfold LightGBMScorer.score
  rcases missing with unloaded | none
  · rw [unloaded]
    rfl
  · rw [none]
    split
    · rename_i present
      cases present
    · rfl

namespace RiskAggregator

/-- The weights are not negative. -/
structure NonnegWeights (aggregator : RiskAggregator) : Prop where
  rules : 0 ≤ aggregator.wRules
  ml : 0 ≤ aggregator.wMl
  ip : 0 ≤ aggregator.wIp
  velocity : 0 ≤ aggregator.wVelocity

/-- What the three other components can come to together. -/
def ceiling (aggregator : RiskAggregator) : ℚ :=
  100 * (aggregator.wRules + aggregator.wIp + aggregator.wVelocity)

variable {aggregator : RiskAggregator}

/-- Without the model's share the score is at most the rounded ceiling. -/
theorem NonnegWeights.finalScore_le (nonneg : aggregator.NonnegWeights) {rules ip velocity : ℚ}
    (rulesBelow : rules ≤ 100) (ipBelow : ip ≤ 100) (velocityBelow : velocity ≤ 100) :
    aggregator.finalScore rules 0 ip velocity ≤ roundTo 2 aggregator.ceiling := by
  have weighted : rules * aggregator.wRules + 0 * aggregator.wMl + ip * aggregator.wIp +
      velocity * aggregator.wVelocity ≤ aggregator.ceiling := by
    have first := mul_le_mul_of_nonneg_right rulesBelow nonneg.rules
    have second := mul_le_mul_of_nonneg_right ipBelow nonneg.ip
    have third := mul_le_mul_of_nonneg_right velocityBelow nonneg.velocity
    unfold ceiling
    linarith
  have positive : 0 ≤ aggregator.ceiling := by
    have sum := add_nonneg (add_nonneg nonneg.rules nonneg.ip) nonneg.velocity
    unfold ceiling
    positivity
  exact roundTo_mono ((min_le_left _ _).trans (max_le weighted positive))

/-- Scores under both thresholds are allowed, or reviewed at most. -/
theorem action_of_lt {final : ℚ} (challenge : final < aggregator.challengeThreshold)
    (block : final < aggregator.blockThreshold) :
    aggregator.action final = .allow ∨ aggregator.action final = .review := by
  unfold action
  rw [if_neg (not_le.mpr block), if_neg (not_le.mpr challenge)]
  split
  · exact .inr rfl
  · exact .inl rfl

end RiskAggregator

namespace RulesEngine

/-- The rules give 100 at most. -/
theorem ruleScore_le (features : Features) (cache : List (CacheRule parser)) :
    ruleScore features cache ≤ 100 := by
  simp only [ruleScore, foldl_evaluateRule]
  rw [foldl_max_le_iff]
  refine ⟨by norm_num, fun score member => ?_⟩
  obtain ⟨rule, _, rfl⟩ := List.mem_map.mp member
  exact rule.scoreContribution_mem.2

end RulesEngine

/-- The address gives 100 at most. -/
theorem IPIntelligence.computeScore_le {python : PythonJson} {data : Json} {risk : ℚ}
    (scored : computeScore python data = some risk) : risk ≤ 100 := by
  simp only [computeScore, Option.bind_eq_bind, Option.bind_eq_some_iff, Option.pure_def,
    Option.some.injEq] at scored
  obtain ⟨_, _, _, _, _, _, _, _, rfl⟩ := scored
  exact min_le_right _ _

theorem IPIntelligence.score_le {python : PythonJson} {cached : Option CacheContent}
    {outcome : LookupOutcome} {risk : ℚ}
    (answered : (IPIntelligence.score python cached outcome).1 = some risk) : risk ≤ 100 := by
  obtain ⟨data, _, scored⟩ := Option.bind_eq_some_iff.mp answered
  exact computeScore_le scored

/-- The decision on a request whose features, rules and IP intelligence are given. -/
def decisionOn (parser : Parser) (aggregator : RiskAggregator) (rows : List FraudRule)
    (features : Features) (ml ip : ℚ) (triggeredRules : List String) (shapTop5 : Option (List ShapContribution))
    (request : ScoreRequest) (decisionID : Uuid) : RiskDecision :=
  aggregator.aggregate (ruleScore features (loadRules parser rows)) ml ip features.velocityScore
    triggeredRules shapTop5 request decisionID

/-- Without a model and failing open, no final score exceeds the ceiling by more than
the rounding, and when the rounded ceiling is below the thresholds no request is
challenged or blocked. -/
theorem rulesOnly_ceiling (parser : Parser) (aggregator : RiskAggregator)
    (nonneg : aggregator.NonnegWeights) (scorer : LightGBMScorer Model) (missing : scorer.Missing)
    (predict : Model → Features → ℚ) (shapValues : Model → Features → List ShapContribution)
    (rows : List FraudRule) (features : Features) (python : PythonJson) (cached : Option CacheContent)
    (outcome : LookupOutcome) (ip ml : ℚ) (shapTop5 : Option (List ShapContribution))
    (answered : (IPIntelligence.score python cached outcome).1 = some ip)
    (scored : scorer.score true predict shapValues features = .ok (ml, shapTop5))
    (triggeredRules : List String) (request : ScoreRequest) (decisionID : Uuid) :
    let decision := decisionOn parser aggregator rows features ml ip triggeredRules shapTop5 request
      decisionID
    decision.finalScore ≤ roundTo 2 aggregator.ceiling ∧
      roundTo 2 aggregator.ceiling ≤ aggregator.ceiling + 1 / 200 ∧
      (roundTo 2 aggregator.ceiling < aggregator.challengeThreshold →
        roundTo 2 aggregator.ceiling < aggregator.blockThreshold →
          decision.action = .allow ∨ decision.action = .review) := by
  rw [missing.score] at scored
  cases scored
  have below := nonneg.finalScore_le (ruleScore_le features (loadRules parser rows))
    (IPIntelligence.score_le answered) features.velocityScore_mem.2
  refine ⟨below, roundTo_two_le _, fun challenge block => ?_⟩
  exact RiskAggregator.action_of_lt (below.trans_lt challenge) (below.trans_lt block)

/-- `score_request` then answers no request with CHALLENGE or BLOCK. -/
theorem scoreRequest_rulesOnly {cache : List (CacheRule parser)} {aggregator : RiskAggregator}
    (nonneg : aggregator.NonnegWeights) {scorer : LightGBMScorer Model} (missing : scorer.Missing)
    {predict : Model → Features → ℚ} {shapValues : Model → Features → List ShapContribution}
    (challenge : roundTo 2 aggregator.ceiling < aggregator.challengeThreshold)
    (block : roundTo 2 aggregator.ceiling < aggregator.blockThreshold) {features : Features}
    {ip : ℚ} (ipBelow : ip ≤ 100) {request : ScoreRequest} {decisionID : Uuid} {elapsedMs : ℚ}
    {tasks : List BackgroundTask} {response : ScoreResponse}
    (answered : (scoreRequest cache aggregator request (.ok features) (.ok ip)
      (scorer.score true predict shapValues features) decisionID elapsedMs tasks).1 =
        .ok response) :
    response.action = "ALLOW" ∨ response.action = "REVIEW" := by
  rw [missing.score] at answered
  simp only [scoreRequest] at answered
  split at answered
  · cases answered
  · rename_i ruleScore triggeredRules _ evaluated
    cases answered
    have score := evaluate_score (congrArg Prod.fst evaluated)
    have rulesBelow : ruleScore ≤ 100 := score ▸ ruleScore_le features cache
    have below := nonneg.finalScore_le rulesBelow ipBelow features.velocityScore_mem.2
    rcases RiskAggregator.action_of_lt (below.trans_lt challenge) (below.trans_lt block) with
      allow | review
    · exact .inl (congrArg DecisionAction.text allow)
    · exact .inr (congrArg DecisionAction.text review)

/-- A scorer that has never loaded a model. -/
def noModel : LightGBMScorer Unit := ⟨none, none, "none", false⟩

/-- With the shipped settings 55 is the most that any request gets. -/
theorem rulesOnly_shipped :
    (decisionOn nameParser {} [newIpRule] { isNewIp := 1 } 0 30 ["RULE_NEW_IP"] none newIpRequest
      ⟨List.replicate 16 1, rfl⟩).finalScore ≤ roundTo 2 (RiskAggregator.ceiling {}) :=
  (rulesOnly_ceiling nameParser {} (by constructor <;> norm_num) noModel (.inl rfl)
    (fun _ _ => 0) (fun _ _ => []) [newIpRule] { isNewIp := 1 } IPIntelligence.plainJson none
    .raised 30 0 none (by decide +kernel) rfl ["RULE_NEW_IP"] newIpRequest
    ⟨List.replicate 16 1, rfl⟩).1

/-- A rule with the largest contribution that the table admits. -/
def fullRule : FraudRule :=
  { newIpRule with scoreContribution := 100, scoreContribution_mem := by decide }

theorem length_ones : (List.replicate 16 (1 : UInt8)).length = 16 := rfl

/-- The decision on a login from a new address, when that rule is the only one. -/
def fullDecision (aggregator : RiskAggregator) : RiskDecision :=
  decisionOn nameParser aggregator [fullRule] { isNewIp := 1 } 0 0 ["RULE_NEW_IP"] none newIpRequest
    ⟨List.replicate 16 1, length_ones⟩

/-- Rounding lifts a score above the ceiling and up to a threshold, and a block threshold
under the other one blocks below that. -/
theorem ceiling_fails :
    (¬ ∀ aggregator : RiskAggregator, aggregator.NonnegWeights →
      (fullDecision aggregator).finalScore ≤ aggregator.ceiling) ∧
    (¬ ∀ aggregator : RiskAggregator, aggregator.Ordered →
      aggregator.ceiling < aggregator.challengeThreshold →
        (fullDecision aggregator).action ≠ .challenge) ∧
    ¬ ∀ aggregator : RiskAggregator, aggregator.NonnegWeights →
      aggregator.ceiling < aggregator.challengeThreshold →
        (fullDecision aggregator).action ≠ .block := by
  refine ⟨fun always => ?_, fun always => ?_, fun always => ?_⟩
  · have below := always { wRules := 12346 / 100000, wIp := 0, wVelocity := 0 }
      (by constructor <;> norm_num)
    exact absurd below (by decide +kernel)
  · have milder := always { wRules := 59996 / 100000, wIp := 0, wVelocity := 0 }
      (by constructor <;> norm_num) (by norm_num [RiskAggregator.ceiling])
    exact absurd milder (by decide +kernel)
  · have milder := always { wRules := 1 / 2, wIp := 0, wVelocity := 0, blockThreshold := 45 }
      (by constructor <;> norm_num) (by norm_num [RiskAggregator.ceiling])
    exact absurd milder (by decide +kernel)

end Sentinel.Risk
