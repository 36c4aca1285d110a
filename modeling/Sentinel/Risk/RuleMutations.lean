import Sentinel.Risk.RuleCache

/-!
# What a failed rule mutation leaves behind

One request to create, update or delete a rule, with every call in it that can
fail. The statement commits by itself, and nothing undoes it when the engine,
the reload or the response fails afterwards: `mutateRule_atomic_iff`.
-/

namespace Sentinel.Risk

open Sentinel.Wire Sentinel.Postgres

/-- `fraud_rules` and `_rules_cache`. -/
structure RuleStore (parser : Parser) where
  table : RulesTable
  cache : List (CacheRule parser)

/-- What becomes of the mutation's statement. -/
inductive StatementFate where
  /-- The server does not execute it. -/
  | unsent
  /-- The server executes it, and the answer is lost. -/
  | unanswered
  | answered
deriving DecidableEq

/-- How the calls of one request turn out. -/
structure MutationFate where
  /-- `get_db` has a pool. -/
  pool : Bool := true
  statement : StatementFate := .answered
  /-- `get_rules_engine` has an engine. -/
  engine : Bool := true
  /-- The rows that `get_all_enabled` returns, unless it fails. -/
  query : (table : RulesTable) → Option { rows : List FraudRule // table.IsSnapshot rows }
  /-- The row passes the validation of `RuleResponse`. -/
  response : Bool := true

/-- The endpoints that answer with the row. -/
def RuleMutation.respondsWithRow : RuleMutation → Bool
  | .create _ | .update _ _ => true
  | .delete _ => false

variable {parser : Parser} (adminServiceToken : String) (caller : Caller)
  (mutation : RuleMutation) (newID : Uuid) (now : Int) (fate : MutationFate)

/-- `get_rules_engine().reload_rules()` and the response. -/
def reloadAndRespond (store : RuleStore parser) : Nat × RuleStore parser :=
  if fate.engine then
    match fate.query store.table with
    | none => (500, store)
    | some rows =>
        let reloaded := { store with cache := loadRules parser rows.1 }
        if mutation.respondsWithRow && !fate.response then (500, reloaded)
        else (mutation.success, reloaded)
  else (500, store)

/-- The call of the repository, and what follows it. -/
def executeRule (store : RuleStore parser) : Nat × RuleStore parser :=
  match fate.statement, mutation.execute store.table newID now with
  | .unsent, _ => (500, store)
  | _, .error problem => (mutation.failure problem, store)
  | .unanswered, .ok none => (500, store)
  | .unanswered, .ok (some table) => (500, { store with table })
  | .answered, .ok none => (404, store)
  | .answered, .ok (some table) => reloadAndRespond mutation fate { store with table }

/-- `create_rule`, `update_rule` and `delete_rule`: the status and what is stored after. -/
def mutateRule (store : RuleStore parser) : Nat × RuleStore parser :=
  match requireAdmin adminServiceToken caller with
  | .error problem => (problem.status, store)
  | .ok _ =>
      if fate.pool then
        match mutation.validate parser with
        | .error problem => (problem.status, store)
        | .ok () => executeRule mutation newID now fate store
      else (500, store)

/-- An error leaves the table and the cache as they were; a success leaves the
table with the change, and a cache of its enabled rules that compile. -/
structure AtomicOutcome (mutation : RuleMutation) (newID : Uuid) (now : Int)
    (before : RuleStore parser) (outcome : Nat × RuleStore parser) : Prop where
  error : 400 ≤ outcome.1 → outcome.2 = before
  success : outcome.1 < 400 →
    mutation.execute before.table newID now = .ok (some outcome.2.table) ∧
      outcome.2.cache.Perm (loadRules parser outcome.2.table.rows)

/-- The request gets as far as a statement that makes `changed` of the table. -/
structure TakesEffect (parser : Parser) (table changed : RulesTable) : Prop where
  admin : ∃ role, requireAdmin adminServiceToken caller = .ok role
  pool : fate.pool = true
  valid : mutation.validate parser = .ok ()
  sent : fate.statement ≠ .unsent
  executed : mutation.execute table newID now = .ok (some changed)

/-- Nothing fails after the statement. -/
structure Completes (changed : RulesTable) : Prop where
  answered : fate.statement = .answered
  engine : fate.engine = true
  query : (fate.query changed).isSome
  response : mutation.respondsWithRow → fate.response = true

/-- The statement and the reload, as far as it gets, put everything back as it was. -/
structure ChangesNothing (store : RuleStore parser) (changed : RulesTable) : Prop where
  table : changed = store.table
  cache : fate.statement = .answered → fate.engine = true → ∀ rows,
    fate.query changed = some rows → loadRules parser rows.1 = store.cache

/-- Who is refused gets an error status. -/
theorem requireAdmin_error {problem : HTTPException}
    (refused : requireAdmin adminServiceToken caller = .error problem) : 400 ≤ problem.status := by
  unfold requireAdmin at refused
  split at refused
  · cases refused
  · split at refused <;> cases refused
    decide

/-- An expression that is refused is answered 422. -/
theorem validateExpression_error {expression : String} {problem : HTTPException}
    (refused : validateExpression parser expression = .error problem) :
    problem.status = 422 := by
  unfold validateExpression at refused
  split at refused
  · cases refused
    rfl
  · split at refused
    · cases refused
      rfl
    · simp only at refused
      split at refused
      · cases refused
        rfl
      · split at refused <;> cases refused
        rfl

/-- So a mutation that is refused gets an error status. -/
theorem RuleMutation.validate_error {problem : HTTPException}
    (refused : mutation.validate parser = .error problem) : 400 ≤ problem.status := by
  cases mutation with
  | create rule => rw [validateExpression_error refused]; decide
  | update ruleID rule => rw [validateExpression_error refused]; decide
  | delete ruleID => cases refused

/-- A statement that fails does too. -/
theorem RuleMutation.failure_error (problem : SqlError) : 400 ≤ mutation.failure problem := by
  unfold failure
  split
  · split <;> decide
  · decide
  · decide

/-- The status of a success is none of these. -/
theorem RuleMutation.success_ok : mutation.success < 400 := by
  cases mutation <;> simp [success]

variable {adminServiceToken caller mutation newID now fate} {store : RuleStore parser}
  {changed : RulesTable}

/-- A request that does not reach its statement's effect is an error without one. -/
theorem mutateRule_of_refused
    (refused : ∀ changed,
      ¬ TakesEffect adminServiceToken caller mutation newID now fate parser store.table changed) :
    400 ≤ (mutateRule adminServiceToken caller mutation newID now fate store).1 ∧
      (mutateRule adminServiceToken caller mutation newID now fate store).2 = store := by
  have failed : 400 ≤ 500 := by decide
  have missing : 400 ≤ 404 := by decide
  unfold mutateRule
  split
  · rename_i problem unauthorized
    exact ⟨requireAdmin_error _ _ unauthorized, rfl⟩
  · rename_i role admin
    split
    · rename_i pool
      split
      · rename_i problem invalid
        exact ⟨mutation.validate_error invalid, rfl⟩
      · rename_i valid
        unfold executeRule
        split
        · exact ⟨failed, rfl⟩
        · exact ⟨mutation.failure_error _, rfl⟩
        · exact ⟨failed, rfl⟩
        · rename_i table statement executed
          exact absurd ⟨⟨role, admin⟩, pool, valid, by simp [statement], executed⟩ (refused table)
        · exact ⟨missing, rfl⟩
        · rename_i table statement executed
          exact absurd ⟨⟨role, admin⟩, pool, valid, by simp [statement], executed⟩ (refused table)
    · exact ⟨failed, rfl⟩

/-- Once the statement has taken effect, its answer, the reload and the response remain. -/
theorem mutateRule_of_takesEffect
    (effect : TakesEffect adminServiceToken caller mutation newID now fate parser store.table
      changed) :
    mutateRule adminServiceToken caller mutation newID now fate store =
      if fate.statement = .answered then
        reloadAndRespond mutation fate { store with table := changed }
      else (500, { store with table := changed }) := by
  obtain ⟨role, admin⟩ := effect.admin
  simp only [mutateRule, admin, effect.pool, effect.valid, if_true, executeRule, effect.executed]
  cases statement : fate.statement with
  | unsent => exact absurd statement effect.sent
  | unanswered => rfl
  | answered => rfl

/-- With nothing in the way the rules are loaded and the success is answered. -/
theorem reloadAndRespond_of_completes (completes : Completes mutation fate changed) :
    ∃ rows, fate.query changed = some rows ∧
      reloadAndRespond mutation fate { store with table := changed } =
        (mutation.success, ⟨changed, loadRules parser rows.1⟩) := by
  obtain ⟨rows, found⟩ := Option.isSome_iff_exists.mp completes.query
  have built : (mutation.respondsWithRow && !fate.response) = false := by
    cases responds : mutation.respondsWithRow with
    | false => rfl
    | true => simp [completes.response responds]
  exact ⟨rows, found, by simp [reloadAndRespond, completes.engine, found, built]⟩

/-- A request that is interrupted after its statement is an error, and leaves the
stores as they were only if it has changed nothing so far. -/
theorem mutateRule_of_interrupted
    (effect : TakesEffect adminServiceToken caller mutation newID now fate parser store.table
      changed) (interrupted : ¬ Completes mutation fate changed) :
    (mutateRule adminServiceToken caller mutation newID now fate store).1 = 500 ∧
      ((mutateRule adminServiceToken caller mutation newID now fate store).2 = store ↔
        ChangesNothing fate store changed) := by
  have unreloaded : { store with table := changed } = store ↔ changed = store.table := by
    cases store
    simp
  rw [mutateRule_of_takesEffect effect]
  by_cases answered : fate.statement = .answered
  · rw [if_pos answered, reloadAndRespond]
    by_cases engine : fate.engine = true
    · rw [if_pos engine]
      cases found : fate.query changed with
      | none =>
          refine ⟨rfl, unreloaded.trans ⟨fun same => ⟨same, ?_⟩, ChangesNothing.table⟩⟩
          intro _ _ rows present
          rw [found] at present
          cases present
      | some rows =>
          have unbuilt : (mutation.respondsWithRow && !fate.response) = true := by
            by_contra built
            refine interrupted ⟨answered, engine, by rw [found]; rfl, fun responds => ?_⟩
            simpa [responds] using built
          simp only [unbuilt, if_true, true_and]
          have reloaded : (⟨changed, loadRules parser rows.1⟩ : RuleStore parser) = store ↔
              changed = store.table ∧ loadRules parser rows.1 = store.cache := by
            cases store
            simp
          rw [reloaded]
          constructor
          · rintro ⟨table, cache⟩
            refine ⟨table, fun _ _ others present => ?_⟩
            obtain rfl : rows = others := Option.some.inj (found.symm.trans present)
            exact cache
          · intro nothing
            exact ⟨nothing.table, nothing.cache answered engine rows found⟩
    · rw [if_neg engine]
      refine ⟨rfl, unreloaded.trans ⟨fun same => ⟨same, ?_⟩, ChangesNothing.table⟩⟩
      exact fun _ running => absurd running engine
  · rw [if_neg answered]
    refine ⟨rfl, unreloaded.trans ⟨fun same => ⟨same, ?_⟩, ChangesNothing.table⟩⟩
    exact fun arrived => absurd arrived answered

/-- The outcome of a mutation is atomic exactly when nothing fails after its
statement has taken effect, except where nothing has changed by then. -/
theorem mutateRule_atomic_iff (adminServiceToken : String) (caller : Caller)
    (mutation : RuleMutation) (newID : Uuid) (now : Int) (fate : MutationFate)
    (store : RuleStore parser) :
    AtomicOutcome mutation newID now store
        (mutateRule adminServiceToken caller mutation newID now fate store) ↔
      ∀ changed,
        TakesEffect adminServiceToken caller mutation newID now fate parser store.table changed →
          Completes mutation fate changed ∨ ChangesNothing fate store changed := by
  constructor
  · intro atomic changed effect
    refine or_iff_not_imp_left.mpr fun interrupted => ?_
    obtain ⟨failed, unchanged⟩ := mutateRule_of_interrupted effect interrupted
    exact unchanged.mp (atomic.error (by rw [failed]; decide))
  · intro condition
    by_cases effect : ∃ changed, TakesEffect adminServiceToken caller mutation newID now fate parser
        store.table changed
    · obtain ⟨changed, effect⟩ := effect
      by_cases completes : Completes mutation fate changed
      · obtain ⟨rows, found, outcome⟩ := reloadAndRespond_of_completes completes
        rw [mutateRule_of_takesEffect effect, if_pos completes.answered, outcome]
        refine ⟨fun failed => absurd mutation.success_ok (Nat.not_lt.mpr failed), fun _ => ?_⟩
        exact ⟨effect.executed, loadRules_snapshot rows.2⟩
      · have nothing := (condition changed effect).resolve_left completes
        obtain ⟨failed, unchanged⟩ := mutateRule_of_interrupted effect completes
        refine ⟨fun _ => unchanged.mpr nothing, fun succeeded => ?_⟩
        rw [failed] at succeeded
        exact absurd succeeded (by decide)
    · obtain ⟨failed, unchanged⟩ :=
        mutateRule_of_refused fun changed reached => effect ⟨changed, reached⟩
      exact ⟨fun _ => unchanged, fun succeeded => absurd succeeded (Nat.not_lt.mpr failed)⟩

/-- A rule that is created is one more row. -/
theorem RulesTable.length_create {table next : RulesTable} {rule : RuleCreate}
    (created : table.create rule newID now = .ok next) :
    next.rows.length = table.rows.length + 1 := by
  simp only [create, bind, Except.bind] at created
  split at created
  · cases created
  · split at created
    · cases created
    · split at created
      · cases created
      · unfold append at created
        split at created
        · split at created
          · cases created
            exact List.length_append
          · cases created
        · cases created

/-- A rule that is deleted is one less. -/
theorem RulesTable.length_delete {table next : RulesTable} {ruleID : String}
    (deleted : table.deleteByRuleID ruleID = .ok (some next)) :
    next.rows.length < table.rows.length := by
  simp only [deleteByRuleID, bind, Except.bind] at deleted
  split at deleted
  · cases deleted
  · rename_i ruleID fits
    split at deleted
    · rename_i member
      cases deleted
      obtain ⟨rule, member, same⟩ := List.mem_map.mp member
      exact List.length_filter_lt_length_iff_exists.mpr ⟨rule, member, by simp [same]⟩
    · cases deleted

/-- Only an update can change nothing: the other statements add or remove a row. -/
theorem update_of_unchanged {table : RulesTable}
    (executed : mutation.execute table newID now = .ok (some table)) :
    ∃ ruleID rule, mutation = .update ruleID rule := by
  cases mutation with
  | create rule =>
      cases created : table.create rule newID now with
      | error problem => simp [RuleMutation.execute, created, Except.map] at executed
      | ok next =>
          obtain rfl : next = table := by
            simpa [RuleMutation.execute, created, Except.map] using executed
          exact absurd (RulesTable.length_create created) (Nat.succ_ne_self _).symm
  | update ruleID rule => exact ⟨ruleID, rule, rfl⟩
  | delete ruleID => exact absurd (RulesTable.length_delete executed) (Nat.lt_irrefl _)

/-- The query after a deletion fails. -/
def reloadFails : MutationFate where
  query _ := none

/-- A reload that fails after the statement leaves a change behind an error. -/
theorem mutateRule_atomic_fails :
    ¬ ∀ (mutation : RuleMutation) (fate : MutationFate) (store : RuleStore nameParser),
      AtomicOutcome mutation newIpRule.id 0 store
        (mutateRule "" adminCaller mutation newIpRule.id 0 fate store) := by
  intro always
  have atomic := always (.delete "RULE_TOR") reloadFails ⟨twoRules.table, []⟩
  have run : (mutateRule "" adminCaller (.delete "RULE_TOR") newIpRule.id 0 reloadFails
      (⟨twoRules.table, []⟩ : RuleStore nameParser)).1 = 500 ∧
      (mutateRule "" adminCaller (.delete "RULE_TOR") newIpRule.id 0 reloadFails
        (⟨twoRules.table, []⟩ : RuleStore nameParser)).2.table.rows.length = 1 := by
    decide +kernel
  have unchanged := atomic.error (by rw [run.1]; decide)
  have rows := run.2
  rw [unchanged] at rows
  exact absurd rows (by decide)

end Sentinel.Risk
