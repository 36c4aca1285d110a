import Sentinel.Risk.RulesEngine

/-!
# The verdict is monotone

More evidence never lowers the final score and never makes the action milder:
larger component scores, further triggered rules, larger velocity counters. The
final score is rounded before it is compared, so rounding has to be monotone too.
-/

namespace Sentinel.Risk

open Sentinel.Wire RulesEngine

/-- Rounding is monotone. -/
theorem roundHalfEven_mono {value other : ℚ} (order : value ≤ other) :
    roundHalfEven value ≤ roundHalfEven other := by
  rcases (Int.floor_mono order).lt_or_eq with below | same
  · -- A whole number lies between the two.
    rcases roundHalfEven_floor value with down | ⟨up, -⟩ <;>
      rcases roundHalfEven_floor other with down' | ⟨up', -⟩ <;> omega
  · have rests : value - ⌊other⌋ ≤ other - ⌊other⌋ := by linarith
    unfold roundHalfEven
    simp only [same]
    split_ifs <;> first | omega | linarith

/-- To any number of digits. -/
theorem roundTo_mono {digits : Nat} {value other : ℚ} (order : value ≤ other) :
    roundTo digits value ≤ roundTo digits other := by
  have unit : (0 : ℚ) < 10 ^ digits := by positivity
  have scaled : value * 10 ^ digits ≤ other * 10 ^ digits :=
    mul_le_mul_of_nonneg_right order unit.le
  unfold roundTo
  gcongr
  exact roundHalfEven_mono scaled

/-- How severe an action is: ALLOW < REVIEW < CHALLENGE < BLOCK. -/
def DecisionAction.severity : DecisionAction → Nat
  | .allow => 0
  | .review => 1
  | .challenge => 2
  | .block => 3

/-- Weights that are not negative, and thresholds in their order. -/
structure RiskAggregator.Ordered (aggregator : RiskAggregator) : Prop where
  rules : 0 ≤ aggregator.wRules
  ml : 0 ≤ aggregator.wMl
  ip : 0 ≤ aggregator.wIp
  velocity : 0 ≤ aggregator.wVelocity
  review_le : aggregator.reviewThreshold ≤ aggregator.challengeThreshold
  challenge_le : aggregator.challengeThreshold ≤ aggregator.blockThreshold

/-- The other decision has no lower score and no milder action. -/
structure RiskDecision.NoStricter (decision other : RiskDecision) : Prop where
  score : decision.finalScore ≤ other.finalScore
  action : decision.action.severity ≤ other.action.severity

/-- The action is the one that the thresholds assign to the reported score. -/
structure RiskDecision.Assigned (aggregator : RiskAggregator) (decision : RiskDecision) : Prop where
  block : decision.action = .block ↔ aggregator.blockThreshold ≤ decision.finalScore
  challenge : decision.action = .challenge ↔
    aggregator.challengeThreshold ≤ decision.finalScore ∧
      decision.finalScore < aggregator.blockThreshold
  review : decision.action = .review ↔
    aggregator.reviewThreshold ≤ decision.finalScore ∧
      decision.finalScore < aggregator.challengeThreshold
  allow : decision.action = .allow ↔ decision.finalScore < aggregator.reviewThreshold

namespace RiskAggregator

variable {aggregator : RiskAggregator}

/-- A higher score has no milder action. -/
theorem Ordered.action_mono (ordered : aggregator.Ordered) {final other : ℚ}
    (order : final ≤ other) :
    (aggregator.action final).severity ≤ (aggregator.action other).severity := by
  have low := ordered.review_le
  have high := ordered.challenge_le
  unfold action
  split_ifs <;> first | decide | linarith

/-- Higher parts make no lower score. -/
theorem Ordered.finalScore_mono (ordered : aggregator.Ordered)
    {rules ml ip velocity rules' ml' ip' velocity' : ℚ} (rulesRaised : rules ≤ rules')
    (mlRaised : ml ≤ ml') (ipRaised : ip ≤ ip') (velocityRaised : velocity ≤ velocity') :
    aggregator.finalScore rules ml ip velocity ≤ aggregator.finalScore rules' ml' ip' velocity' := by
  have weightRules := ordered.rules
  have weightMl := ordered.ml
  have weightIp := ordered.ip
  have weightVelocity := ordered.velocity
  unfold finalScore
  apply roundTo_mono
  gcongr

/-- So the verdict on them is no milder. -/
theorem Ordered.aggregate_mono (ordered : aggregator.Ordered)
    {rules ml ip velocity rules' ml' ip' velocity' : ℚ} (rulesRaised : rules ≤ rules')
    (mlRaised : ml ≤ ml') (ipRaised : ip ≤ ip') (velocityRaised : velocity ≤ velocity')
    (triggeredRules triggeredRules' : List String) (shapTop5 : Option (List ShapContribution))
    (request : ScoreRequest) (decisionID : Uuid) :
    (aggregator.aggregate rules ml ip velocity triggeredRules shapTop5 request
        decisionID).NoStricter
      (aggregator.aggregate rules' ml' ip' velocity' triggeredRules' shapTop5 request
        decisionID) := by
  have score := ordered.finalScore_mono rulesRaised mlRaised ipRaised velocityRaised
  exact ⟨score, ordered.action_mono score⟩

/-- Which verdict a score gets. -/
theorem Ordered.assigned (ordered : aggregator.Ordered) (rules ml ip velocity : ℚ)
    (triggeredRules : List String) (shapTop5 : Option (List ShapContribution))
    (request : ScoreRequest) (decisionID : Uuid) :
    (aggregator.aggregate rules ml ip velocity triggeredRules shapTop5 request
      decisionID).Assigned aggregator := by
  have low := ordered.review_le
  have high := ordered.challenge_le
  constructor <;> simp only [aggregate, action] <;> split_ifs <;> simp <;>
    first | linarith | (intros; linarith) | (constructor <;> linarith)

end RiskAggregator

namespace RulesEngine

variable {parser : Parser}

/-- The `max_score` of the loop in `evaluate`. -/
def ruleScore (features : Features) (cache : List (CacheRule parser)) : ℚ :=
  (cache.foldl (evaluateRule features) ⟨0, [], []⟩).maxScore

/-- It is the score that `evaluate` returns, whenever it returns. -/
theorem evaluate_score {features : Features} {thread : ThreadKind}
    {cache : List (CacheRule parser)} {tasks : List BackgroundTask} {score : ℚ} {ids : List String}
    (returned : (evaluate features thread cache tasks).1 = .ok (score, ids)) :
    score = ruleScore features cache := by
  unfold evaluate at returned
  simp only at returned
  split at returned
  · cases returned
    rfl
  · split at returned
    · cases returned
      rfl
    · cases returned

/-- A running maximum is below a bound when all its values are. -/
theorem foldl_max_le_iff {scores : List ℚ} {start bound : ℚ} :
    scores.foldl max start ≤ bound ↔ start ≤ bound ∧ ∀ score ∈ scores, score ≤ bound := by
  induction scores generalizing start with
  | nil => simp
  | cons score rest ih => simp [ih, and_assoc]

/-- Further rules do not lower the score. -/
theorem ruleScore_mono {features : Features} {cache larger : List (CacheRule parser)}
    (more : cache ⊆ larger) : ruleScore features cache ≤ ruleScore features larger := by
  simp only [ruleScore, foldl_evaluateRule]
  rw [foldl_max_le_iff]
  obtain ⟨start, all⟩ := foldl_max_le_iff.mp (le_refl
    (((triggered features larger).map (·.scoreContribution)).foldl max 0))
  refine ⟨start, fun score member => all score ?_⟩
  obtain ⟨rule, fires, rfl⟩ := List.mem_map.mp member
  obtain ⟨present, triggers⟩ := List.mem_filter.mp fires
  exact List.mem_map_of_mem (List.mem_filter.mpr ⟨more present, triggers⟩)

end RulesEngine

/-- `value <= other`; a comparison with NaN is false. -/
def PyFloat.atMost : PyFloat → PyFloat → Bool
  | .nan, _ | _, .nan => false
  | .negInf, _ | _, .posInf => true
  | .finite value, .finite other => value ≤ other
  | .posInf, _ | _, .negInf => false

/-- What exceeds a bound still does when it is raised. -/
theorem PyFloat.exceeds_mono {value other : PyFloat} {bound : ℚ}
    (raised : value = other ∨ value.atMost other) (exceeds : value.exceeds bound) :
    other.exceeds bound := by
  rcases raised with rfl | raised
  · exact exceeds
  · cases value <;> cases other <;> simp_all [PyFloat.atMost, PyFloat.exceeds]
    linarith

/-- The counters that `velocity_score` reads are the same or larger. -/
structure Features.CountersRaised (features other : Features) : Prop where
  failures : features.vLoginFailures1m = other.vLoginFailures1m ∨
    features.vLoginFailures1m.atMost other.vLoginFailures1m
  attempts : features.vLoginAttempts5m = other.vLoginAttempts5m ∨
    features.vLoginAttempts5m.atMost other.vLoginAttempts5m
  ips : features.vUniqueIps1h = other.vUniqueIps1h ∨
    features.vUniqueIps1h.atMost other.vUniqueIps1h
  devices : features.vUniqueDevices24h = other.vUniqueDevices24h ∨
    features.vUniqueDevices24h.atMost other.vUniqueDevices24h

/-- Two tiers, of which the higher one counts for more. -/
theorem tiers_mono {value other : PyFloat} (raised : value = other ∨ value.atMost other)
    (high low : ℚ) {large small : ℚ} (order : small ≤ large) (nonneg : 0 ≤ small) :
    (if value.exceeds high then large else if value.exceeds low then small else 0) ≤
      if other.exceeds high then large else if other.exceeds low then small else 0 := by
  have keepsHigh : value.exceeds high → other.exceeds high := PyFloat.exceeds_mono raised
  have keepsLow : value.exceeds low → other.exceeds low := PyFloat.exceeds_mono raised
  split_ifs <;> first | linarith | simp_all

/-- A tier counts no less when its counter is raised. -/
theorem tier_mono {value other : PyFloat} (raised : value = other ∨ value.atMost other)
    (bound : ℚ) {amount : ℚ} (nonneg : 0 ≤ amount) :
    (if value.exceeds bound then amount else 0) ≤ if other.exceeds bound then amount else 0 := by
  have keeps : value.exceeds bound → other.exceeds bound := PyFloat.exceeds_mono raised
  split_ifs <;> first | linarith | simp_all

/-- So the velocity score is no lower. -/
theorem Features.velocityScore_mono {features other : Features}
    (raised : features.CountersRaised other) : features.velocityScore ≤ other.velocityScore := by
  have failures := tiers_mono raised.failures 5 2 (show (20 : ℚ) ≤ 40 by norm_num) (by norm_num)
  have attempts := tiers_mono raised.attempts 10 5 (show (15 : ℚ) ≤ 30 by norm_num) (by norm_num)
  have ips := tier_mono raised.ips 5 (show (0 : ℚ) ≤ 20 by norm_num)
  have devices := tier_mono raised.devices 3 (show (0 : ℚ) ≤ 10 by norm_num)
  exact min_le_min (add_le_add (add_le_add (add_le_add failures attempts) ips) devices) le_rfl

/-- Larger component scores, further rules and larger counters never lower the
score and never make the action milder; the score is a percentage, and the action
is the one that the thresholds assign to it. -/
theorem verdict_monotone {parser : Parser} (aggregator : RiskAggregator)
    (ordered : aggregator.Ordered) (rules ml ip velocity : ℚ) (triggeredRules : List String)
    (shapTop5 : Option (List ShapContribution)) (request : ScoreRequest) (decisionID : Uuid)
    (features : Features) (cache : List (CacheRule parser)) :
    (∀ (rules' ml' ip' velocity' : ℚ) (triggeredRules' : List String),
      rules ≤ rules' → ml ≤ ml' → ip ≤ ip' → velocity ≤ velocity' →
        (aggregator.aggregate rules ml ip velocity triggeredRules shapTop5 request
            decisionID).NoStricter
          (aggregator.aggregate rules' ml' ip' velocity' triggeredRules' shapTop5 request
            decisionID)) ∧
      (∀ (larger : List (CacheRule parser)) (triggeredRules' : List String), cache ⊆ larger →
        (aggregator.aggregate (ruleScore features cache) ml ip velocity triggeredRules shapTop5
            request decisionID).NoStricter
          (aggregator.aggregate (ruleScore features larger) ml ip velocity triggeredRules' shapTop5
            request decisionID)) ∧
      (∀ raised : Features, features.CountersRaised raised →
        (aggregator.aggregate rules ml ip features.velocityScore triggeredRules shapTop5 request
            decisionID).NoStricter
          (aggregator.aggregate rules ml ip raised.velocityScore triggeredRules shapTop5 request
            decisionID)) ∧
      (0 ≤ (aggregator.aggregate rules ml ip velocity triggeredRules shapTop5 request
          decisionID).finalScore ∧
        (aggregator.aggregate rules ml ip velocity triggeredRules shapTop5 request
          decisionID).finalScore ≤ 100) ∧
      (aggregator.aggregate rules ml ip velocity triggeredRules shapTop5 request
        decisionID).Assigned aggregator := by
  refine ⟨?_, ?_, ?_, aggregator.finalScore_mem rules ml ip velocity, ordered.assigned ..⟩
  · intro rules' ml' ip' velocity' triggeredRules' rulesRaised mlRaised ipRaised velocityRaised
    exact ordered.aggregate_mono rulesRaised mlRaised ipRaised velocityRaised ..
  · intro larger triggeredRules' more
    exact ordered.aggregate_mono (ruleScore_mono more) le_rfl le_rfl le_rfl ..
  · intro raised counters
    exact ordered.aggregate_mono le_rfl le_rfl le_rfl (Features.velocityScore_mono counters) ..

/-- The shipped weights and thresholds are in order. -/
theorem shipped_ordered : RiskAggregator.Ordered {} := by
  constructor <;> norm_num

/-- With the shipped settings, a triggered rule and a higher model score turn a
review into a block. -/
theorem verdict_monotone_shipped :
    (({} : RiskAggregator).aggregate 80 40 30 0 ["RULE_002"] none newIpRequest
        ⟨List.replicate 16 1, rfl⟩).NoStricter
      (({} : RiskAggregator).aggregate 90 95 65 100 ["RULE_002", "RULE_006"] none newIpRequest
        ⟨List.replicate 16 1, rfl⟩) :=
  (verdict_monotone {} shipped_ordered 80 40 30 0 ["RULE_002"] none newIpRequest
    ⟨List.replicate 16 1, rfl⟩ {} (loadRules nameParser [])).1 90 95 65 100
    ["RULE_002", "RULE_006"] (by norm_num) (by norm_num) (by norm_num) (by norm_num)

end Sentinel.Risk
