import Sentinel.Risk.Aggregator
import Sentinel.Risk.RulesRepo

/-!
# The rules engine and a scoring request

`load_rules` compiles the enabled rules into a cache, `evaluate` folds over the
cache, and `score_request` runs `evaluate` on a worker thread. There the
counting of hits raises, so a request that triggers a rule gets no decision:
`scoring_iff`.
-/

namespace Sentinel.Risk

open Sentinel.Wire

/-- The expression parser, a package outside this repository. An exception is
known by its text. -/
structure Parser where
  Expression : Type
  /-- Results of an evaluation: numbers, truth values, texts, lists. -/
  Value : Type
  parse : String → Except String Expression
  /-- `variables()` -/
  variableNames : Expression → List String
  evaluate : Expression → List (String × PyFloat) → Except String Value
  truthy : Value → Bool

/-- An entry of `_rules_cache`. -/
structure CacheRule (parser : Parser) where
  id : Uuid
  ruleID : String
  compiled : parser.Expression
  scoreContribution : ℚ
  scoreContribution_mem : 0 ≤ scoreContribution ∧ scoreContribution ≤ 100

section Loading

variable (parser : Parser)

/-- One turn of the loop of `load_rules`: a rule that does not compile is left out. -/
def compileRule (rule : FraudRule) : Option (CacheRule parser) :=
  if rule.isEnabled then
    match parser.parse rule.expression with
    | .ok compiled =>
        some
          { id := rule.id
            ruleID := rule.ruleID
            compiled
            scoreContribution := rule.scoreContribution
            scoreContribution_mem :=
              ⟨by exact_mod_cast rule.scoreContribution_mem.1,
                by exact_mod_cast rule.scoreContribution_mem.2⟩ }
    | .error _ => none
  else none

/-- The cache that `load_rules` makes of the rows of its query. -/
def loadRules (rows : List FraudRule) : List (CacheRule parser) :=
  rows.filterMap (compileRule parser)

variable {parser}

/-- What is cached of a rule: its id, its score and the parsed expression, if it is
enabled. -/
theorem compileRule_eq_some_iff {rule : FraudRule} {entry : CacheRule parser} :
    compileRule parser rule = some entry ↔
      rule.isEnabled ∧ parser.parse rule.expression = .ok entry.compiled ∧ entry.id = rule.id ∧
        entry.ruleID = rule.ruleID ∧ entry.scoreContribution = rule.scoreContribution := by
  unfold compileRule
  split
  · rename_i enabled
    split
    · rename_i compiled parsed
      constructor
      · rintro ⟨⟩
        exact ⟨enabled, parsed, rfl, rfl, rfl⟩
      · rintro ⟨_, again, sameID, sameRuleID, sameContribution⟩
        cases entry
        cases parsed.symm.trans again
        cases sameID
        cases sameRuleID
        cases sameContribution
        rfl
    · rename_i problem raised
      simp [raised]
  · rename_i disabled
    simp [disabled]

/-- The cache holds the enabled rules that compile. -/
theorem mem_loadRules {rows : List FraudRule} {entry : CacheRule parser} :
    entry ∈ loadRules parser rows ↔ ∃ rule ∈ rows,
      rule.isEnabled ∧ parser.parse rule.expression = .ok entry.compiled ∧ entry.id = rule.id ∧
        entry.ruleID = rule.ruleID ∧ entry.scoreContribution = rule.scoreContribution := by
  simp only [loadRules, List.mem_filterMap, compileRule_eq_some_iff]

/-- The cache keeps the order of the rows, and has no other ids. -/
theorem loadRules_ids (rows : List FraudRule) :
    List.Sublist ((loadRules parser rows).map (·.id)) (rows.map (·.id)) := by
  induction rows with
  | nil => exact List.Sublist.slnil
  | cons rule rest ih =>
      cases compiled : compileRule parser rule with
      | none =>
          rw [loadRules, List.filterMap_cons_none compiled]
          exact ih.cons _
      | some entry =>
          have same : entry.id = rule.id := (compileRule_eq_some_iff.mp compiled).2.2.1
          rw [loadRules, List.filterMap_cons_some compiled, List.map_cons, List.map_cons, same]
          exact ih.cons_cons _

/-- Dropping the disabled rules already in the query changes nothing. -/
theorem loadRules_filter (rows : List FraudRule) :
    loadRules parser (rows.filter (·.isEnabled)) = loadRules parser rows := by
  rw [loadRules, List.filterMap_filter]
  refine List.filterMap_congr fun rule _ => ?_
  unfold compileRule
  split <;> rfl

/-- Two snapshots of a table are cached alike, up to the order. -/
theorem loadRules_snapshot {table : RulesTable} {rows : List FraudRule}
    (snapshot : table.IsSnapshot rows) :
    (loadRules parser rows).Perm (loadRules parser table.rows) := by
  rw [← loadRules_filter table.rows]
  exact snapshot.1.filterMap _

/-- Counting hits changes nothing that is loaded. -/
theorem loadRules_incrementHitCounts (table : RulesTable) (ids : List Uuid) (now : Int) :
    loadRules parser (table.incrementHitCounts ids now).rows = loadRules parser table.rows := by
  change (table.rows.map (RulesTable.countHit ids now)).filterMap (compileRule parser) = _
  rw [List.filterMap_map]
  refine List.filterMap_congr fun rule _ => ?_
  simp only [Function.comp_apply, RulesTable.countHit]
  split <;> rfl

end Loading

inductive PyException where
  | runtimeError (message : String)
  | other (message : String)

/-- Work handed to the event loop. -/
inductive BackgroundTask where
  | incrementHitCounts (ids : List Uuid)
  | save (decision : RiskDecision)
  | publishDecision (decision : RiskDecision)
  | updateVelocity (request : ScoreRequest)

/-- The kind of thread that code runs on. Only the event loop's own thread has
a running event loop. -/
inductive ThreadKind where
  | eventLoop
  | worker

/-- `asyncio.create_task` -/
def createTask (thread : ThreadKind) (task : BackgroundTask) (tasks : List BackgroundTask) :
    Except PyException Unit × List BackgroundTask :=
  match thread with
  | .eventLoop => (.ok (), tasks ++ [task])
  | .worker => (.error (.runtimeError "no running event loop"), tasks)

namespace RulesEngine

variable {parser : Parser} (features : Features)

/-- The accumulators of the loop in `evaluate`. -/
structure Evaluation where
  maxScore : ℚ
  triggeredIDs : List String
  triggeredDbIDs : List Uuid

/-- One turn of the loop: an exception is logged and the rule passed over. -/
def evaluateRule (found : Evaluation) (rule : CacheRule parser) : Evaluation :=
  match parser.evaluate rule.compiled features.asdict with
  | .ok result =>
      if parser.truthy result then
        { maxScore := max found.maxScore rule.scoreContribution
          triggeredIDs := found.triggeredIDs ++ [rule.ruleID]
          triggeredDbIDs := found.triggeredDbIDs ++ [rule.id] }
      else found
  | .error _ => found

def evaluate (thread : ThreadKind) (cache : List (CacheRule parser))
    (tasks : List BackgroundTask) :
    Except PyException (ℚ × List String) × List BackgroundTask :=
  let found := cache.foldl (evaluateRule features) ⟨0, [], []⟩
  if found.triggeredDbIDs = [] then (.ok (found.maxScore, found.triggeredIDs), tasks)
  else
    match createTask thread (.incrementHitCounts found.triggeredDbIDs) tasks with
    | (.ok (), tasks) => (.ok (found.maxScore, found.triggeredIDs), tasks)
    | (.error problem, tasks) => (.error problem, tasks)

/-- The rule's expression evaluates, and to something true. -/
def triggers (rule : CacheRule parser) : Bool :=
  match parser.evaluate rule.compiled features.asdict with
  | .ok result => parser.truthy result
  | .error _ => false

def triggered (cache : List (CacheRule parser)) : List (CacheRule parser) :=
  cache.filter (triggers features)

/-- The largest contribution of some rules, zero when there are none. -/
def maxContribution (rules : List (CacheRule parser)) : ℚ :=
  ((rules.map (·.scoreContribution)).max?).getD 0

/-- The evaluation returns the largest contribution and the ids of the triggered
rules in the order of the cache, and schedules one increment for them. -/
def EvaluatesExactly (thread : ThreadKind) (cache : List (CacheRule parser))
    (tasks : List BackgroundTask) : Prop :=
  evaluate features thread cache tasks =
    (.ok (maxContribution (triggered features cache), (triggered features cache).map (·.ruleID)),
      tasks ++ if triggered features cache = [] then []
        else [.incrementHitCounts ((triggered features cache).map (·.id))])

variable {features}

/-- One turn of the loop over the cache. -/
theorem evaluateRule_eq (found : Evaluation) (rule : CacheRule parser) :
    evaluateRule features found rule =
      if triggers features rule then
        { maxScore := max found.maxScore rule.scoreContribution
          triggeredIDs := found.triggeredIDs ++ [rule.ruleID]
          triggeredDbIDs := found.triggeredDbIDs ++ [rule.id] }
      else found := by
  unfold evaluateRule triggers
  split <;> rfl

/-- The loop adds the triggered rules to its accumulators and nothing else. -/
theorem foldl_evaluateRule (cache : List (CacheRule parser)) (found : Evaluation) :
    cache.foldl (evaluateRule features) found =
      { maxScore :=
          ((triggered features cache).map (·.scoreContribution)).foldl max found.maxScore
        triggeredIDs := found.triggeredIDs ++ (triggered features cache).map (·.ruleID)
        triggeredDbIDs := found.triggeredDbIDs ++ (triggered features cache).map (·.id) } := by
  induction cache generalizing found with
  | nil => simp [triggered]
  | cons rule rest ih =>
      rw [List.foldl_cons, ih, evaluateRule_eq]
      cases fires : triggers features rule with
      | true =>
          have shown : triggered features (rule :: rest) = rule :: triggered features rest :=
            List.filter_cons_of_pos fires
          rw [shown]
          simp only [if_true, List.map_cons, List.foldl_cons, List.append_assoc,
            List.singleton_append]
      | false =>
          have hidden : triggered features (rule :: rest) = triggered features rest :=
            List.filter_cons_of_neg (Bool.eq_false_iff.mp fires)
          rw [hidden]
          rfl

/-- Contributions are not negative, so starting from zero changes no maximum. -/
theorem foldl_max_contribution (rules : List (CacheRule parser)) :
    (rules.map (·.scoreContribution)).foldl max 0 = maxContribution rules := by
  rw [List.foldl_max, maxContribution]
  cases largest : (rules.map (·.scoreContribution)).max? with
  | none => rfl
  | some score =>
      obtain ⟨rule, _, rfl⟩ := List.mem_map.mp (List.max?_mem largest)
      exact max_eq_right rule.scoreContribution_mem.1

/-- What `evaluate` does, on either kind of thread. -/
theorem evaluate_eq (thread : ThreadKind) (cache : List (CacheRule parser))
    (tasks : List BackgroundTask) :
    evaluate features thread cache tasks =
      if triggered features cache = [] then (.ok (0, []), tasks)
      else
        match createTask thread
          (.incrementHitCounts ((triggered features cache).map (·.id))) tasks with
        | (.ok (), tasks) =>
            (.ok (maxContribution (triggered features cache),
              (triggered features cache).map (·.ruleID)), tasks)
        | (.error problem, tasks) => (.error problem, tasks) := by
  simp only [evaluate, foldl_evaluateRule, foldl_max_contribution, List.nil_append,
    List.map_eq_nil_iff]
  split
  · rename_i silent
    rw [silent]
    rfl
  · rfl

/-- On the event loop's own thread the evaluation is right for every cache. -/
theorem evaluatesExactly_eventLoop (cache : List (CacheRule parser))
    (tasks : List BackgroundTask) : EvaluatesExactly features .eventLoop cache tasks := by
  rw [EvaluatesExactly, evaluate_eq]
  split
  · rename_i silent
    rw [silent]
    simp [maxContribution]
  · rfl

/-- On a worker thread a rule that fires makes the whole evaluation raise. -/
theorem evaluate_worker_raises {cache : List (CacheRule parser)} (tasks : List BackgroundTask)
    (fires : triggered features cache ≠ []) :
    evaluate features .worker cache tasks =
      (.error (.runtimeError "no running event loop"), tasks) := by
  rw [evaluate_eq, if_neg fires]
  rfl

/-- So there it evaluates exactly when none fires. -/
theorem evaluatesExactly_worker_iff (cache : List (CacheRule parser))
    (tasks : List BackgroundTask) :
    EvaluatesExactly features .worker cache tasks ↔ triggered features cache = [] := by
  constructor
  · intro exactly
    by_contra fires
    rw [EvaluatesExactly, evaluate_worker_raises tasks fires] at exactly
    cases exactly
  · intro silent
    rw [EvaluatesExactly, evaluate_eq, silent]
    simp [maxContribution]

end RulesEngine

/-! ## The scoring request -/

section Scoring

variable {parser : Parser}

open RulesEngine

/-- `score_request`, given what the awaited components have returned or raised
for the request: the feature extractor, the IP intelligence and, once the rules
are evaluated, the model. -/
def scoreRequest (cache : List (CacheRule parser)) (aggregator : RiskAggregator)
    (request : ScoreRequest) (extracted : Except PyException Features)
    (ipIntel : Except PyException ℚ)
    (model : Except PyException (ℚ × Option (List ShapContribution))) (decisionID : Uuid)
    (elapsedMs : ℚ) (tasks : List BackgroundTask) :
    Except PyException ScoreResponse × List BackgroundTask :=
  match extracted, ipIntel with
  | .error problem, _ => (.error problem, tasks)
  | .ok _, .error problem => (.error problem, tasks)
  | .ok features, .ok ipScore =>
      -- `asyncio.to_thread(rules_engine.evaluate, features)`
      match evaluate features .worker cache tasks with
      | (.error problem, tasks) => (.error problem, tasks)
      | (.ok (ruleScore, triggeredRules), tasks) =>
          match model with
          | .error problem => (.error problem, tasks)
          | .ok (mlScore, shapTop5) =>
              let decision :=
                { aggregator.aggregate ruleScore mlScore ipScore features.velocityScore
                    triggeredRules shapTop5 request decisionID with
                  processingTimeMs := roundTo 3 elapsedMs }
              (.ok decision.toResponse,
                tasks ++ [.save decision, .publishDecision decision, .updateVelocity request])

/-- The evaluation of the rules is exact, and the request gets a decision once
the other components have answered. -/
def ScoresExactly (cache : List (CacheRule parser)) (aggregator : RiskAggregator)
    (request : ScoreRequest) (features : Features) (ipScore mlScore : ℚ)
    (shapTop5 : Option (List ShapContribution)) (decisionID : Uuid) (elapsedMs : ℚ)
    (tasks : List BackgroundTask) : Prop :=
  EvaluatesExactly features .worker cache tasks ∧
    ∃ response, (scoreRequest cache aggregator request (.ok features) (.ok ipScore)
      (.ok (mlScore, shapTop5)) decisionID elapsedMs tasks).1 = .ok response

/-- A scoring request is answered as it should be exactly when no rule in the
cache triggers on its features. -/
theorem scoring_iff (cache : List (CacheRule parser)) (aggregator : RiskAggregator)
    (request : ScoreRequest) (features : Features) (ipScore mlScore : ℚ)
    (shapTop5 : Option (List ShapContribution)) (decisionID : Uuid) (elapsedMs : ℚ)
    (tasks : List BackgroundTask) :
    ScoresExactly cache aggregator request features ipScore mlScore shapTop5 decisionID elapsedMs
        tasks ↔
      ∀ rule ∈ cache, triggers features rule = false := by
  have none_triggered : triggered features cache = [] ↔
      ∀ rule ∈ cache, triggers features rule = false := by
    simp only [triggered, List.filter_eq_nil_iff, Bool.not_eq_true]
  rw [← none_triggered, ← evaluatesExactly_worker_iff cache tasks]
  constructor
  · exact And.left
  · intro exactly
    refine ⟨exactly, ?_⟩
    simp only [scoreRequest]
    rw [exactly]
    exact ⟨_, rfl⟩

end Scoring

/-- A parser of bare feature names, on which it agrees with the real one. -/
def nameParser : Parser where
  Expression := String
  Value := PyFloat
  parse text :=
    if text ≠ "" && text.toList.all (fun char => char.isAlphanum || char = '_') then .ok text
    else .error "parse error"
  variableNames name := [name]
  evaluate name values :=
    match values.lookup name with
    | some value => .ok value
    | none => .error ("undefined variable: " ++ name)
  truthy value := value ≠ 0

/-- A rule that fires whenever an address is new to its user. -/
def newIpRule : FraudRule where
  id := ⟨List.replicate 16 7, rfl⟩
  ruleID := "RULE_NEW_IP"
  name := "New address"
  description := some ""
  expression := "is_new_ip"
  scoreContribution := 40
  action := .review
  isEnabled := true
  priority := 50
  scoreContribution_mem := by decide
  hitCount := 0
  lastTriggeredAt := none
  createdAt := 1735689600000000000
  updatedAt := 1735689600000000000

theorem scoreContribution_newIpRule :
    0 ≤ newIpRule.scoreContribution ∧ newIpRule.scoreContribution ≤ 100 := by decide

/-- A login from an address that the user has not been seen at. -/
def newIpRequest : ScoreRequest where
  eventID := "evt-1"
  eventType := "user.login"
  userID := some "user-1"
  requestID := "req-1"
  ipAddress := "203.0.113.5"

/-- A request on which a rule fires gets no decision. -/
theorem scoring_fails :
    ¬ ∀ (cache : List (CacheRule nameParser)) (features : Features),
      ScoresExactly cache {} newIpRequest features 0 0 none ⟨List.replicate 16 1, rfl⟩ 1 [] := by
  intro always
  obtain ⟨evaluates, -⟩ := always (loadRules nameParser [newIpRule]) { isNewIp := 1 }
  have silent := (RulesEngine.evaluatesExactly_worker_iff _ _).mp evaluates
  have fires : (RulesEngine.triggered { isNewIp := 1 }
      (loadRules nameParser [newIpRule])).length = 1 := by decide +kernel
  rw [silent] at fires
  cases fires

end Sentinel.Risk
