import Sentinel.Risk.Lifespan
import Sentinel.Risk.RulesOnly
import Sentinel.Semantics.Rollup

/-!
# The explanation of a score

Above a probability of 0.4 `score` names the five features whose SHAP values are
the largest in magnitude. The values are rounded to four decimals after they have
been ordered, and the score to two after the probability has been compared, so what
the reader of a decision sees is neither what was ordered nor what was compared:
`decision_explained` says what still holds of it.
-/

namespace Sentinel.Risk

open Sentinel.Wire Sentinel.Semantics

/-- Whole numbers are their own rounding. -/
theorem roundHalfEven_intCast (whole : ℤ) : roundHalfEven (whole : ℚ) = whole := by
  simp [roundHalfEven]

/-- Ties go to the even neighbour on either side of zero. -/
theorem roundHalfEven_neg (value : ℚ) : roundHalfEven (-value) = -roundHalfEven value := by
  rcases (Int.floor_le value).eq_or_lt with whole | above
  · rw [← whole, ← Int.cast_neg, roundHalfEven_intCast, roundHalfEven_intCast]
  · have below := Int.lt_floor_add_one value
    have floor : ⌊-value⌋ = -⌊value⌋ - 1 := by
      rw [Int.floor_eq_iff]
      push_cast
      constructor <;> linarith
    unfold roundHalfEven
    simp only [floor]
    push_cast
    split_ifs <;> first | omega | linarith

/-- Rounding is symmetric about zero. -/
theorem roundTo_neg (digits : Nat) (value : ℚ) :
    roundTo digits (-value) = -roundTo digits value := by
  rw [roundTo, roundTo, neg_mul, roundHalfEven_neg, Int.cast_neg, neg_div]

/-- Zero is its own rounding. -/
theorem roundTo_zero (digits : Nat) : roundTo digits 0 = 0 := by
  have whole : roundHalfEven 0 = 0 := roundHalfEven_intCast 0
  rw [roundTo, zero_mul, whole, Int.cast_zero, zero_div]

/-- So a rounded value has the rounded magnitude. -/
theorem abs_roundTo (digits : Nat) (value : ℚ) :
    |roundTo digits value| = roundTo digits |value| := by
  rcases le_total 0 value with positive | negative
  · have kept : roundTo digits 0 ≤ roundTo digits value := roundTo_mono positive
    rw [roundTo_zero] at kept
    rw [abs_of_nonneg positive, abs_of_nonneg kept]
  · have kept : roundTo digits value ≤ roundTo digits 0 := roundTo_mono negative
    rw [roundTo_zero] at kept
    rw [abs_of_nonpos negative, abs_of_nonpos kept, roundTo_neg]

/-- Rounding keeps the order of magnitudes. -/
theorem abs_roundTo_mono {digits : Nat} {value other : ℚ} (order : |value| ≤ |other|) :
    |roundTo digits value| ≤ |roundTo digits other| := by
  rw [abs_roundTo, abs_roundTo]
  exact roundTo_mono order

/-- The first five of `sorted` by `abs`, in reverse, which keeps the order of equal keys. -/
def largestPairs (names : List String) (values : List ℚ) : List (String × ℚ) :=
  ((names.zip values).mergeSort fun first second => |second.2| ≤ |first.2|).take 5

/-- `shap_top5`, of the names of the features and the SHAP values of one row. -/
def shapTop5 (names : List String) (values : List ℚ) : List ShapContribution :=
  (largestPairs names values).map fun pair => ⟨pair.1, roundTo 4 pair.2⟩

/-- What an explanation tells its reader about the values of all features. -/
structure Explains (names : List String) (values : List ℚ)
    (explanation : List ShapContribution) : Prop where
  five : explanation.length = 5
  distinct : (explanation.map (·.feature)).Nodup
  own : ∀ shown ∈ explanation, ∃ value, (shown.feature, value) ∈ names.zip values ∧
    shown.contribution = roundTo 4 value
  descending : explanation.Pairwise fun first second =>
    |second.contribution| ≤ |first.contribution|
  /-- Before rounding, no feature that is left out had a larger value than one that is shown. -/
  largest : ∀ shown ∈ names.zip values, ∀ other ∈ names.zip values,
    shown.1 ∈ explanation.map (·.feature) → other.1 ∉ explanation.map (·.feature) →
      |other.2| ≤ |shown.2|

section Pairs

variable {names : List String} {values : List ℚ}

/-- The five pairs are the first page in the order of their magnitudes. -/
theorem isPage_largestPairs (names : List String) (values : List ℚ) :
    IsPage (fun pair : String × ℚ => |pair.2|) (names.zip values) 5 0
      (largestPairs names values) :=
  ⟨_, isArranged_mergeSort _ _, rfl⟩

/-- The explanation names the features of these pairs. -/
theorem feature_shapTop5 (names : List String) (values : List ℚ) :
    (shapTop5 names values).map (·.feature) = (largestPairs names values).map Prod.fst := by
  rw [shapTop5, List.map_map]
  rfl

/-- The largest magnitude stands first. -/
theorem descending_largestPairs (names : List String) (values : List ℚ) :
    (largestPairs names values).Pairwise fun first second => |second.2| ≤ |first.2| :=
  (isArranged_mergeSort (fun pair : String × ℚ => |pair.2|) (names.zip values)).descending.sublist
    (List.take_sublist _ _)

/-- So `shap_top5` explains a score: five features, none of the others with a larger
value. -/
theorem explains_shapTop5 (unique : names.Nodup) (whole : values.length = names.length)
    (enough : 5 ≤ names.length) : Explains names values (shapTop5 names values) := by
  have isPage := isPage_largestPairs names values
  obtain ⟨rest, perm, above, -⟩ := isPage.top
  have keys : (names.zip values).map Prod.fst = names := List.map_fst_zip whole.ge
  have unique : ((names.zip values).map Prod.fst).Nodup := by rwa [keys]
  refine ⟨?_, ?_, ?_, ?_, ?_⟩
  · rw [shapTop5, List.length_map, isPage.length, List.length_zip, whole]
    omega
  · rw [feature_shapTop5]
    have all := (perm.map Prod.fst).nodup_iff.mpr unique
    rw [List.map_append] at all
    exact all.of_append_left
  · intro shown member
    obtain ⟨pair, listed, rfl⟩ := List.mem_map.mp member
    exact ⟨pair.2, perm.subset (List.mem_append_left rest listed), rfl⟩
  · rw [shapTop5, List.pairwise_map]
    exact (descending_largestPairs names values).imp abs_roundTo_mono
  · intro shown member other left listed absent
    rw [feature_shapTop5] at listed absent
    obtain ⟨pair, page, same⟩ := List.mem_map.mp listed
    obtain rfl : pair = shown := List.inj_on_of_nodup_map unique
      (perm.subset (List.mem_append_left rest page)) member same
    rcases List.mem_append.mp (perm.symm.subset left) with page' | later
    · exact absurd (List.mem_map_of_mem page') absent
    · exact above pair page other later

end Pairs

variable {Model : Type} {scorer : LightGBMScorer Model} {explainerValues : Model → List ℚ}
  {score : ℚ} {explanation : Option (List ShapContribution)}

/-- No feature stands twice in the vector. -/
theorem featureNames_nodup : Features.featureNames.Nodup := by decide +kernel

/-- A score of 40 needs no rounding. -/
theorem roundTo_forty : roundTo 2 40 = 40 := by
  have whole : roundHalfEven (4000 : ℚ) = 4000 := roundHalfEven_intCast 4000
  norm_num [roundTo, whole]

/-- Rounding does not carry a score below the bound. -/
theorem forty_le_roundTo {value : ℚ} (enough : 40 ≤ value) : 40 ≤ roundTo 2 value := by
  rw [← roundTo_forty]
  exact roundTo_mono enough

/-- It does not carry one above the bound either, though it may carry one up to it. -/
theorem forty_lt_of_roundTo {value : ℚ} (above : 40 < roundTo 2 value) : 40 < value := by
  by_contra below
  have rounded : roundTo 2 value ≤ roundTo 2 40 := roundTo_mono (not_lt.mp below)
  rw [roundTo_forty] at rounded
  exact absurd above rounded.not_gt

/-- An explanation comes with a score of at least 40 and is one of the explainer's values, and
each score above 40 has one if there is an explainer. -/
structure Explained (scorer : LightGBMScorer Model) (explainerValues : Model → List ℚ) (score : ℚ)
    (explanation : Option (List ShapContribution)) : Prop where
  shown : ∀ contributions, explanation = some contributions →
    40 ≤ score ∧ ∃ explainer, scorer.explainer = some explainer ∧
      Explains Features.featureNames (explainerValues explainer) contributions
  complete : 40 < score → scorer.explainer.isSome → explanation.isSome

/-- What the scorer answers with a model is explained by the values of its explainer. -/
theorem explained_score {failOpen : Bool} {predict : Model → Features → ℚ}
    {values : Model → Features → List ℚ} {features : Features}
    (whole : ∀ explainer, (values explainer features).length = Features.featureNames.length)
    (scored : scorer.score failOpen predict
      (fun explainer features => shapTop5 Features.featureNames (values explainer features))
      features = .ok (score, explanation)) :
    Explained scorer (values · features) score explanation := by
  unfold LightGBMScorer.score at scored
  split at scored
  · rename_i model _ _
    obtain ⟨rfl, rfl⟩ := Prod.mk.inj (Except.ok.inj scored)
    refine ⟨fun contributions given => ?_, fun above present => ?_⟩
    · split at given
      · rename_i above
        obtain ⟨explainer, present, rfl⟩ := Option.map_eq_some_iff.mp given
        exact ⟨forty_le_roundTo above.le, explainer, present,
          explains_shapTop5 featureNames_nodup (whole explainer) (by decide)⟩
      · cases given
    · rw [if_pos (forty_lt_of_roundTo above), Option.isSome_map]
      exact present
  · split at scored
    · obtain ⟨rfl, rfl⟩ := Prod.mk.inj (Except.ok.inj scored)
      refine ⟨fun contributions given => ?_, fun above => ?_⟩
      · cases given
      · exact absurd above (by norm_num)
    · cases scored

/-- The breakdown of a decision rounds the score again. -/
theorem Explained.rounded (explained : Explained scorer explainerValues score explanation) :
    Explained scorer explainerValues (roundTo 2 score) explanation where
  shown contributions given := by
    obtain ⟨enough, explains⟩ := explained.shown contributions given
    exact ⟨forty_le_roundTo enough, explains⟩
  complete above := explained.complete (forty_lt_of_roundTo above)

variable {parser : Parser} {cache : List (CacheRule parser)} {aggregator : RiskAggregator}
  {request : ScoreRequest} {features : Features} {ipIntel : Except PyException ℚ}
  {model : Except PyException (ℚ × Option (List ShapContribution))} {decisionID : Uuid}
  {elapsedMs : ℚ} {tasks : List BackgroundTask} {response : ScoreResponse}
  {decision : RiskDecision}

/-- A decision is written with what the model said. -/
theorem model_of_decision
    (scored : scoreRequest cache aggregator request (.ok features) ipIntel model decisionID
      elapsedMs tasks = (.ok response, tasks ++ decisionTasks (decision, request))) :
    ∃ mlScore, model = .ok (mlScore, decision.shapTop5) ∧
      decision.scores.ml = roundTo 2 mlScore := by
  unfold scoreRequest at scored
  cases ipIntel with
  | error problem => cases scored
  | ok ipScore =>
      dsimp only at scored
      by_cases silent : RulesEngine.triggered features cache = []
      · rw [RulesEngine.evaluate_eq, if_pos silent] at scored
        cases model with
        | error problem => cases scored
        | ok said =>
            obtain ⟨mlScore, shapTop5⟩ := said
            have written := List.append_cancel_left (Prod.mk.inj scored).2
            obtain ⟨save, -⟩ := List.cons.inj written
            obtain rfl := BackgroundTask.save.inj save
            exact ⟨mlScore, rfl, rfl⟩
      · rw [RulesEngine.evaluate_worker_raises tasks silent] at scored
        cases scored

/-- The decision that a request writes is explained, whatever model and explainer the scorer
holds and however their values are rounded. -/
theorem decision_explained {failOpen : Bool} {predict : Model → Features → ℚ}
    {values : Model → Features → List ℚ}
    (whole : ∀ explainer, (values explainer features).length = Features.featureNames.length)
    (scored : scoreRequest cache aggregator request (.ok features) ipIntel
      (scorer.score failOpen predict
        (fun explainer features => shapTop5 Features.featureNames (values explainer features))
        features) decisionID elapsedMs tasks =
      (.ok response, tasks ++ decisionTasks (decision, request))) :
    Explained scorer (values · features) decision.scores.ml decision.shapTop5 := by
  obtain ⟨mlScore, said, rounded⟩ := model_of_decision scored
  rw [rounded]
  exact (explained_score whole said).rounded

/-- Each feature counts for more than all before it. -/
def rising (_ : Unit) (_ : Features) : List ℚ :=
  (List.range Features.featureNames.length).map Nat.cast

def halfScorer : LightGBMScorer Unit := ⟨some (), some (), "v1", true⟩

def halfDecision : RiskDecision :=
  { RiskAggregator.aggregate {} 0 (roundTo 2 (1 / 2 * 100)) 0 (Features.velocityScore {}) []
      (some (shapTop5 Features.featureNames (rising () {}))) newIpRequest
      ⟨List.replicate 16 1, length_ones⟩ with
    processingTimeMs := roundTo 3 1 }

/-- One scored request: no rules, and the model says a half. -/
theorem scored_half :
    scoreRequest ([] : List (CacheRule nameParser)) {} newIpRequest (.ok {}) (.ok 0)
      (halfScorer.score true (fun _ _ => 1 / 2)
        (fun explainer features => shapTop5 Features.featureNames (rising explainer features)) {})
      ⟨List.replicate 16 1, length_ones⟩ 1 [] =
      (.ok halfDecision.toResponse, [] ++ decisionTasks (halfDecision, newIpRequest)) := by
  have above : (40 : ℚ) < 1 / 2 * 100 := by norm_num
  simp only [LightGBMScorer.score, halfScorer, if_pos above, Option.map_some]
  rfl

/-- The decision of that request is explained. -/
theorem decision_explained_half :
    Explained halfScorer (rising · {}) halfDecision.scores.ml halfDecision.shapTop5 :=
  decision_explained (fun _ => by rw [rising, List.length_map, List.length_range]) scored_half

end Sentinel.Risk
