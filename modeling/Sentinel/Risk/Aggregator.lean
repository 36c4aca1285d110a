import Mathlib.Data.Rat.Floor
import Mathlib.Tactic.Linarith
import Mathlib.Tactic.NormNum
import Mathlib.Tactic.Positivity
import Sentinel.Risk.Features
import Sentinel.Wire.Uuid

/-!
# From component scores to a decision

`RiskAggregator.aggregate` over exact rational arithmetic: the weighted sum is
clamped, rounded to two decimals and compared with the thresholds.
-/

namespace Sentinel.Risk

open Sentinel.Wire

/-- The nearest integer; a tie goes to the even one. -/
def roundHalfEven (value : ℚ) : ℤ :=
  let below := ⌊value⌋
  let rest := value - below
  if rest < 1 / 2 then below
  else if 1 / 2 < rest then below + 1
  else if below % 2 = 0 then below else below + 1

/-- `round(value, digits)` -/
def roundTo (digits : Nat) (value : ℚ) : ℚ := roundHalfEven (value * 10 ^ digits) / 10 ^ digits

/-- Rounding goes to the floor, or up from the half on. -/
theorem roundHalfEven_floor (value : ℚ) :
    roundHalfEven value = ⌊value⌋ ∨
      roundHalfEven value = ⌊value⌋ + 1 ∧ 1 / 2 ≤ value - ⌊value⌋ := by
  unfold roundHalfEven
  simp only
  split_ifs with small large even
  · exact .inl rfl
  · exact .inr ⟨rfl, large.le⟩
  · exact .inl rfl
  · exact .inr ⟨rfl, not_lt.mp small⟩

/-- Rounding does not leave an interval with integer ends. -/
theorem roundHalfEven_mem {value : ℚ} {low high : ℤ} (above : (low : ℚ) ≤ value)
    (below : value ≤ high) : low ≤ roundHalfEven value ∧ roundHalfEven value ≤ high := by
  have lower : low ≤ ⌊value⌋ := Int.le_floor.mpr above
  have upper : ⌊value⌋ ≤ high := Int.cast_le.mp ((Int.floor_le value).trans below)
  rcases roundHalfEven_floor value with same | ⟨up, half⟩
  · rw [same]
    exact ⟨lower, upper⟩
  · -- A value that is rounded up is no integer, so its floor is below `high`.
    have strict : ⌊value⌋ < high := by
      have gap : ((⌊value⌋ : ℤ) : ℚ) < (high : ℚ) := by linarith
      exact Int.cast_lt.mp gap
    rw [up]
    omega

/-- A score between 0 and 100 stays there when it is rounded. -/
theorem roundTo_mem {digits : Nat} {value : ℚ} (above : 0 ≤ value) (below : value ≤ 100) :
    0 ≤ roundTo digits value ∧ roundTo digits value ≤ 100 := by
  have unit : (0 : ℚ) < 10 ^ digits := by positivity
  have scaledAbove : ((0 : ℤ) : ℚ) ≤ value * 10 ^ digits := by
    push_cast
    positivity
  have scaledBelow : value * 10 ^ digits ≤ ((100 * 10 ^ digits : ℤ) : ℚ) := by
    push_cast
    exact mul_le_mul_of_nonneg_right below unit.le
  obtain ⟨lower, upper⟩ := roundHalfEven_mem scaledAbove scaledBelow
  have lower : (0 : ℚ) ≤ roundHalfEven (value * 10 ^ digits) := by exact_mod_cast lower
  have upper : (roundHalfEven (value * 10 ^ digits) : ℚ) ≤ 100 * 10 ^ digits := by
    exact_mod_cast upper
  exact ⟨div_nonneg lower unit.le, (div_le_iff₀ unit).mpr upper⟩

inductive DecisionAction where
  | allow
  | review
  | challenge
  | block
deriving DecidableEq

/-- The text stored and sent for an action. -/
def DecisionAction.text : DecisionAction → String
  | .allow => "ALLOW"
  | .review => "REVIEW"
  | .challenge => "CHALLENGE"
  | .block => "BLOCK"

/-- The breakdown `{rules, ml, ip, velocity}`. -/
structure ComponentScores where
  rules : ℚ
  ml : ℚ
  ip : ℚ
  velocity : ℚ

structure RiskDecision where
  decisionID : Uuid
  requestID : String
  userID : Option String
  ipAddress : String
  finalScore : ℚ
  action : DecisionAction
  scores : ComponentScores
  triggeredRules : List String
  shapTop5 : Option (List ShapContribution)
  processingTimeMs : ℚ := 0
  country : String := ""
  countryCode : String := ""
  lat : PyFloat := 0
  lon : PyFloat := 0

structure ScoreResponse where
  decisionID : String
  requestID : String
  score : ℚ
  action : String
  processingTimeMs : ℚ
  triggeredRules : List String
  shapTop5 : Option (List ShapContribution)
  scores : ComponentScores

def RiskDecision.toResponse (decision : RiskDecision) : ScoreResponse where
  decisionID := decision.decisionID.string
  requestID := decision.requestID
  score := decision.finalScore
  action := decision.action.text
  processingTimeMs := decision.processingTimeMs
  triggeredRules := decision.triggeredRules
  shapTop5 := decision.shapTop5
  scores := decision.scores

/-- The weights and thresholds of `settings`, which the environment may override. -/
structure RiskAggregator where
  wRules : ℚ := 30 / 100
  wMl : ℚ := 45 / 100
  wIp : ℚ := 15 / 100
  wVelocity : ℚ := 10 / 100
  blockThreshold : ℚ := 80
  challengeThreshold : ℚ := 60
  reviewThreshold : ℚ := 40

namespace RiskAggregator

variable (aggregator : RiskAggregator)

/-- The weighted sum, clamped and rounded. -/
def finalScore (ruleScore mlScore ipScore velocityScore : ℚ) : ℚ :=
  roundTo 2 (min (max
    (ruleScore * aggregator.wRules + mlScore * aggregator.wMl + ipScore * aggregator.wIp +
      velocityScore * aggregator.wVelocity) 0) 100)

def action (final : ℚ) : DecisionAction :=
  if aggregator.blockThreshold ≤ final then .block
  else if aggregator.challengeThreshold ≤ final then .challenge
  else if aggregator.reviewThreshold ≤ final then .review
  else .allow

/-- `aggregate`; `decisionID` is what `uuid4()` returns. -/
def aggregate (ruleScore mlScore ipScore velocityScore : ℚ) (triggeredRules : List String)
    (shapTop5 : Option (List ShapContribution)) (request : ScoreRequest) (decisionID : Uuid) :
    RiskDecision :=
  let final := aggregator.finalScore ruleScore mlScore ipScore velocityScore
  { decisionID := decisionID
    requestID := request.requestID
    userID := request.userID
    ipAddress := request.ipAddress
    finalScore := final
    action := aggregator.action final
    scores := ⟨roundTo 2 ruleScore, roundTo 2 mlScore, roundTo 2 ipScore,
      roundTo 2 velocityScore⟩
    triggeredRules := triggeredRules
    shapTop5 := shapTop5
    country := request.geo.countryName
    countryCode := request.geo.countryCode
    lat := request.geo.lat
    lon := request.geo.lon }

/-- Whatever the weights and the component scores are, the final score is a
percentage. -/
theorem finalScore_mem (ruleScore mlScore ipScore velocityScore : ℚ) :
    0 ≤ aggregator.finalScore ruleScore mlScore ipScore velocityScore ∧
      aggregator.finalScore ruleScore mlScore ipScore velocityScore ≤ 100 :=
  roundTo_mem (le_min (le_max_right _ _) (by norm_num)) (min_le_right _ _)

end RiskAggregator
end Sentinel.Risk
