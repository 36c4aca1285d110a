import Mathlib.Logic.Function.Basic
import Sentinel.Risk.RulesEngine
import Sentinel.Semantics.Machine

/-!
# Keeping the rule cache up to date

The endpoints that create, update, delete and reload rules, run by any number of
concurrent requests. Each mutates the table in one statement, then queries the
enabled rules, then replaces the cache, and other requests may step in between.
A replacement by rows that were read before another request's mutation leaves
the cache stale. `cacheAgrees_of_guarded` is the condition that excludes this.
-/

namespace Sentinel.Risk

open Sentinel.Wire Sentinel.Postgres Sentinel.Semantics

/-! ## The endpoints up to their statement -/

/-- The headers that `require_admin` reads. -/
structure Caller where
  serviceToken : Option String := none
  role : String := ""

structure HTTPException where
  status : Nat
  detail : String

def requireAdmin (adminServiceToken : String) (caller : Caller) : Except HTTPException String :=
  if adminServiceToken ≠ "" ∧ caller.serviceToken = some adminServiceToken then .ok "service"
  else if caller.role = "admin" then .ok "admin"
  else .error ⟨403, "admin role required"⟩

def validateExpression (parser : Parser) (expression : String) : Except HTTPException Unit :=
  if expression = "" ∨ 512 < expression.length then
    .error ⟨422, "expression must be 1-512 characters"⟩
  else match parser.parse expression with
    | .error problem => .error ⟨422, "expression does not compile: " ++ problem⟩
    | .ok ast =>
        let names := (parser.variableNames ast).dedup
        let unknown := names.filter (· ∉ Features.featureNames)
        if unknown ≠ [] then
          .error ⟨422, "unknown feature(s): " ++
            ", ".intercalate (unknown.mergeSort fun name other => decide (name ≤ other)) ++
            ". See /api/v1/rules/features"⟩
        else if names = [] then .error ⟨422, "expression must reference at least one feature"⟩
        else .ok ()

inductive RuleMutation where
  | create (rule : RuleCreate)
  | update (ruleID : String) (rule : RuleUpdate)
  | delete (ruleID : String)

inductive RuleRequest where
  | mutate (mutation : RuleMutation)
  | reload

namespace RuleMutation

def validate (parser : Parser) : RuleMutation → Except HTTPException Unit
  | .create rule => validateExpression parser rule.expression
  | .update _ rule => validateExpression parser rule.expression
  | .delete _ => .ok ()

/-- The statement of the mutation; `none` when no row has the rule id. -/
def execute (table : RulesTable) (newID : Uuid) (now : Int) :
    RuleMutation → Except SqlError (Option RulesTable)
  | .create rule => (table.create rule newID now).map some
  | .update ruleID rule => table.updateByRuleID ruleID rule now
  | .delete ruleID => table.deleteByRuleID ruleID

/-- The status of a mutation that went through. -/
def success : RuleMutation → Nat
  | .create _ => 201
  | .update _ _ => 200
  | .delete _ => 204

/-- The status of a mutation whose statement failed. -/
def failure (problem : SqlError) : RuleMutation → Nat
  | .create _ =>
      match problem with
      | .uniqueViolation _ => 409
      | _ => 500
  | .update _ _ | .delete _ => 500

end RuleMutation

/-! ## Requests as steps -/

/-- How far a request has come. -/
inductive RequestPhase where
  | absent
  | mutating (mutation : RuleMutation)
  /-- In `load_rules`, before the query. -/
  | querying (status : Nat)
  /-- In `load_rules`, with the rows of the query, which the table had as of
  `version`. -/
  | loaded (status : Nat) (rows : List FraudRule) (version : Nat)
  | finished (status : Nat)

/-- A request in this phase will put the table's contents as of `version` into
the cache, unless a query fails. -/
def RequestPhase.brings (version : Nat) : RequestPhase → Prop
  | .querying _ => True
  | .loaded _ _ held => held = version
  | _ => False

def RequestPhase.isDone : RequestPhase → Bool
  | .absent | .finished _ => true
  | _ => false

/-- A request that is done brings nothing more to the cache. -/
theorem RequestPhase.not_brings_of_isDone {version : Nat} {phase : RequestPhase}
    (done : phase.isDone = true) : ¬ phase.brings version := by
  cases phase with
  | absent => exact id
  | finished _ => exact id
  | mutating _ => cases done
  | querying _ => cases done
  | loaded _ _ _ => cases done

/-- The versions count the mutations of the table. The code knows nothing of them. -/
structure CacheState (RequestID : Type) (parser : Parser) where
  table : RulesTable
  cache : List (CacheRule parser)
  phases : RequestID → RequestPhase
  tableVersion : Nat
  /-- The version of the table that the cache was made from. -/
  cacheVersion : Nat

inductive CacheLabel (RequestID : Type) where
  /-- A request arrives, and its caller and its expression are checked. -/
  | begin (id : RequestID) (caller : Caller) (request : RuleRequest)
  | execute (id : RequestID) (newID : Uuid) (now : Int)
  /-- The database fails before the statement takes effect. -/
  | executeFails (id : RequestID)
  /-- The query of `load_rules` reads the table. -/
  | query (id : RequestID) (rows : List FraudRule)
  | queryFails (id : RequestID)
  /-- `load_rules` runs from its query to its end, on the event loop, in one go. -/
  | install (id : RequestID)
  /-- `increment_hit_counts`, scheduled by a scoring request. -/
  | countHits (ids : List Uuid) (now : Int)

/-- What the query of `load_rules` returned when the service started. -/
structure StartupLoad where
  table : RulesTable
  rows : List FraudRule
  isSnapshot : table.IsSnapshot rows

section

variable {RequestID : Type} [DecidableEq RequestID] {parser : Parser}
variable (adminServiceToken : String)

/-- A request up to its first statement. -/
def arrive (parser : Parser) (caller : Caller) : RuleRequest → RequestPhase
  | .mutate mutation =>
      match requireAdmin adminServiceToken caller, mutation.validate parser with
      | .error problem, _ => .finished problem.status
      | .ok _, .error problem => .finished problem.status
      | .ok _, .ok () => .mutating mutation
  | .reload =>
      match requireAdmin adminServiceToken caller with
      | .error problem => .finished problem.status
      | .ok _ => .querying 200

namespace CacheState

def start (initial : StartupLoad) : CacheState RequestID parser where
  table := initial.table
  cache := loadRules parser initial.rows
  phases _ := .absent
  tableVersion := 0
  cacheVersion := 0

def setPhase (state : CacheState RequestID parser) (id : RequestID) (phase : RequestPhase) :
    CacheState RequestID parser :=
  { state with phases := Function.update state.phases id phase }

/-- The statement of a mutation has taken effect. -/
def mutated (state : CacheState RequestID parser) (id : RequestID) (table : RulesTable)
    (status : Nat) : CacheState RequestID parser :=
  { state.setPhase id (.querying status) with
    table := table
    tableVersion := state.tableVersion + 1 }

/-- The cache is replaced by the rows of a query. -/
def installed (state : CacheState RequestID parser) (id : RequestID) (status : Nat)
    (rows : List FraudRule) (version : Nat) : CacheState RequestID parser :=
  { state.setPhase id (.finished status) with
    cache := loadRules parser rows
    cacheVersion := version }

def step (state : CacheState RequestID parser) :
    CacheLabel RequestID → Option (CacheState RequestID parser)
  | .begin id caller request =>
      match state.phases id with
      | .absent => some (state.setPhase id (arrive adminServiceToken parser caller request))
      | _ => none
  | .execute id newID now =>
      match state.phases id with
      | .mutating mutation =>
          match mutation.execute state.table newID now with
          | .ok (some table) => some (state.mutated id table mutation.success)
          | .ok none => some (state.setPhase id (.finished 404))
          | .error problem => some (state.setPhase id (.finished (mutation.failure problem)))
      | _ => none
  | .executeFails id =>
      match state.phases id with
      | .mutating _ => some (state.setPhase id (.finished 500))
      | _ => none
  | .query id rows =>
      match state.phases id with
      | .querying status =>
          if state.table.IsSnapshot rows then
            some (state.setPhase id (.loaded status rows state.tableVersion))
          else none
      | _ => none
  | .queryFails id =>
      match state.phases id with
      | .querying _ => some (state.setPhase id (.finished 500))
      | _ => none
  | .install id =>
      match state.phases id with
      | .loaded status rows version => some (state.installed id status rows version)
      | _ => none
  | .countHits ids now => some { state with table := state.table.incrementHitCounts ids now }

/-- Every request that has arrived is answered. -/
def Quiescent (state : CacheState RequestID parser) : Prop :=
  ∀ id, (state.phases id).isDone

/-- The cache holds exactly the enabled rules of the table that compile, each
once and with its present expression and contribution. -/
structure CacheAgrees (state : CacheState RequestID parser) : Prop where
  exact : ∀ entry, entry ∈ state.cache ↔ ∃ rule ∈ state.table.rows,
    rule.isEnabled ∧ parser.parse rule.expression = .ok entry.compiled ∧ entry.id = rule.id ∧
      entry.ruleID = rule.ruleID ∧ entry.scoreContribution = rule.scoreContribution
  once : (state.cache.map (·.id)).Nodup

/-- Some unfinished request, perhaps the one that takes the step, is still to
read the table or holds its present contents. -/
def Awaited (state : CacheState RequestID parser) : Prop :=
  ∃ id, (state.phases id).brings state.tableVersion

/-- The cache is replaced only while the present contents of the table are
awaited, and a query fails only when the cache has them or another request
brings them. -/
def KeepsAwaited (state : CacheState RequestID parser) : CacheLabel RequestID → Prop
  | .install _ => state.Awaited
  | .queryFails id => state.cacheVersion = state.tableVersion ∨
      ∃ other, other ≠ id ∧ (state.phases other).brings state.tableVersion
  | _ => True

structure Inv (state : CacheState RequestID parser) : Prop where
  cache_le : state.cacheVersion ≤ state.tableVersion
  cache_current : state.cacheVersion = state.tableVersion →
    state.cache.Perm (loadRules parser state.table.rows)
  loaded_le : ∀ id status rows version, state.phases id = .loaded status rows version →
    version ≤ state.tableVersion
  loaded_current : ∀ id status rows, state.phases id = .loaded status rows state.tableVersion →
    (loadRules parser rows).Perm (loadRules parser state.table.rows)
  reached : state.cacheVersion = state.tableVersion ∨ state.Awaited

variable {adminServiceToken} {state next : CacheState RequestID parser} {id : RequestID}

omit [DecidableEq RequestID] in
/-- Once nothing is under way, nothing is awaited. -/
theorem Quiescent.not_awaited (quiet : state.Quiescent) : ¬ state.Awaited := by
  rintro ⟨id, brings⟩
  exact RequestPhase.not_brings_of_isDone (quiet id) brings

omit [DecidableEq RequestID] in
/-- A cache of the table's rules in another order agrees with the table. -/
theorem cacheAgrees_of_perm (same : state.cache.Perm (loadRules parser state.table.rows)) :
    state.CacheAgrees where
  exact entry := by
    rw [same.mem_iff, mem_loadRules]
  once := by
    refine (same.map _).nodup_iff.mpr ?_
    exact state.table.id_nodup.sublist (loadRules_ids state.table.rows)

omit [DecidableEq RequestID] in
/-- When nothing is under way, the invariant is the agreement. -/
theorem Inv.agrees (inv : state.Inv) (quiet : state.Quiescent) : state.CacheAgrees :=
  cacheAgrees_of_perm (inv.cache_current (inv.reached.resolve_right quiet.not_awaited))

omit [DecidableEq RequestID] in
/-- It holds when the service starts. -/
theorem inv_start (initial : StartupLoad) :
    (start initial : CacheState RequestID parser).Inv where
  cache_le := le_rfl
  cache_current _ := loadRules_snapshot initial.isSnapshot
  loaded_le := nofun
  loaded_current := nofun
  reached := .inl rfl

/-- A request that holds rows held them before another one changed its phase. -/
theorem loaded_of_setPhase {other : RequestID} {phase : RequestPhase} {status : Nat}
    {rows : List FraudRule} {version : Nat}
    (held : (state.setPhase id phase).phases other = .loaded status rows version)
    (unloaded : ∀ status rows version, phase ≠ .loaded status rows version) :
    state.phases other = .loaded status rows version := by
  by_cases itself : other = id
  · subst itself
    simp only [CacheState.setPhase, Function.update_self] at held
    exact (unloaded status rows version held).elim
  · simp only [CacheState.setPhase, Function.update_of_ne itself] at held
    exact held

/-- A step that changes the phase of one request only. -/
theorem Inv.setPhase (inv : state.Inv) {phase : RequestPhase}
    (fits : ∀ status rows version, phase = .loaded status rows version →
      version ≤ state.tableVersion ∧ (version = state.tableVersion →
        (loadRules parser rows).Perm (loadRules parser state.table.rows)))
    (reached : state.cacheVersion = state.tableVersion ∨ (state.setPhase id phase).Awaited) :
    (state.setPhase id phase).Inv where
  cache_le := inv.cache_le
  cache_current := inv.cache_current
  loaded_le other status rows version held := by
    by_cases itself : other = id
    · subst itself
      simp only [CacheState.setPhase, Function.update_self] at held
      exact (fits status rows version held).1
    · simp only [CacheState.setPhase, Function.update_of_ne itself] at held
      exact inv.loaded_le other status rows version held
  loaded_current other status rows held := by
    by_cases itself : other = id
    · subst itself
      simp only [CacheState.setPhase, Function.update_self] at held
      exact (fits status rows _ held).2 rfl
    · simp only [CacheState.setPhase, Function.update_of_ne itself] at held
      exact inv.loaded_current other status rows held
  reached := reached

/-- What is awaited of other requests does not change with the phase of one. -/
theorem awaited_setPhase_of_ne {other : RequestID} {phase : RequestPhase} (different : other ≠ id)
    (brings : (state.phases other).brings state.tableVersion) :
    (state.setPhase id phase).Awaited := by
  refine ⟨other, ?_⟩
  simp only [CacheState.setPhase, Function.update_of_ne different]
  exact brings

/-- A request that brought nothing may go on to any phase. -/
theorem Inv.setPhase_of_not_brings (inv : state.Inv) {phase : RequestPhase}
    (idle : ¬ (state.phases id).brings state.tableVersion)
    (fits : ∀ status rows version, phase ≠ .loaded status rows version) :
    (state.setPhase id phase).Inv := by
  refine inv.setPhase (fun status rows version held => (fits status rows version held).elim) ?_
  refine inv.reached.imp_right fun ⟨other, brings⟩ => ?_
  refine awaited_setPhase_of_ne (fun same => idle ?_) brings
  rw [← same]
  exact brings

/-- No request has read the rows when it arrives. -/
theorem arrive_ne_loaded (caller : Caller) (request : RuleRequest) (status : Nat)
    (rows : List FraudRule) (version : Nat) :
    arrive adminServiceToken parser caller request ≠ .loaded status rows version := by
  unfold arrive
  split <;> split <;> nofun

/-- A mutation awaits its own reload. -/
theorem Inv.mutated (inv : state.Inv) (table : RulesTable) (status : Nat) :
    (state.mutated id table status).Inv where
  cache_le := Nat.le_succ_of_le inv.cache_le
  cache_current same := absurd same (Nat.ne_of_lt (Nat.lt_succ_of_le inv.cache_le))
  loaded_le other _ _ _ held :=
    Nat.le_succ_of_le (inv.loaded_le other _ _ _ (loaded_of_setPhase held nofun))
  loaded_current other _ _ held :=
    absurd (inv.loaded_le other _ _ _ (loaded_of_setPhase held nofun)) (Nat.not_succ_le_self _)
  reached := .inr ⟨id, by
    simp only [CacheState.mutated, CacheState.setPhase, Function.update_self]
    trivial⟩

/-- Whatever is installed, the present contents stay awaited or are installed. -/
theorem Inv.installed (inv : state.Inv) {status : Nat} {rows : List FraudRule} {version : Nat}
    (held : state.phases id = .loaded status rows version) (awaited : state.Awaited) :
    (state.installed id status rows version).Inv where
  cache_le := inv.loaded_le id status rows version held
  cache_current same := by
    change version = state.tableVersion at same
    rw [same] at held
    exact inv.loaded_current id status rows held
  loaded_le other _ _ _ otherHeld := inv.loaded_le other _ _ _ (loaded_of_setPhase otherHeld nofun)
  loaded_current other _ _ otherHeld :=
    inv.loaded_current other _ _ (loaded_of_setPhase otherHeld nofun)
  reached := by
    obtain ⟨other, brings⟩ := awaited
    by_cases itself : other = id
    · subst itself
      left
      rw [held] at brings
      exact brings
    · exact .inr (awaited_setPhase_of_ne itself brings)

/-- A replacement that the condition excludes leaves an older version in the
cache, which no request under way will replace by the present one. -/
theorem Inv.stale_of_not_awaited (inv : state.Inv) {status : Nat} {rows : List FraudRule}
    {version : Nat} (held : state.phases id = .loaded status rows version)
    (lost : ¬ state.Awaited) :
    (state.installed id status rows version).cacheVersion < state.tableVersion ∧
      ¬ (state.installed id status rows version).Awaited := by
  constructor
  · refine Nat.lt_of_le_of_ne (inv.loaded_le id status rows version held) fun same => lost ⟨id, ?_⟩
    rw [held]
    exact same
  · rintro ⟨other, brings⟩
    by_cases itself : other = id
    · subst itself
      simp only [CacheState.installed, CacheState.setPhase, Function.update_self] at brings
      exact brings
    · simp only [CacheState.installed, CacheState.setPhase,
        Function.update_of_ne itself] at brings
      exact lost ⟨other, brings⟩

omit [DecidableEq RequestID] in
/-- Hits change no rule that is cached. -/
theorem Inv.countHits (inv : state.Inv) (ids : List Uuid) (now : Int) :
    { state with table := state.table.incrementHitCounts ids now }.Inv where
  cache_le := inv.cache_le
  cache_current same := by
    rw [loadRules_incrementHitCounts]
    exact inv.cache_current same
  loaded_le := inv.loaded_le
  loaded_current id status rows held := by
    rw [loadRules_incrementHitCounts]
    exact inv.loaded_current id status rows held
  reached := inv.reached

/-- Every step that keeps the awaited requests keeps the invariant. -/
theorem Inv.step (inv : state.Inv) {label : CacheLabel RequestID}
    (guard : state.KeepsAwaited label) (step : state.step adminServiceToken label = some next) :
    next.Inv := by
  cases label with
  | begin id caller request =>
      simp only [CacheState.step] at step
      split at step
      · rename_i phase
        cases step
        exact inv.setPhase_of_not_brings (by rw [phase]; nofun) (arrive_ne_loaded caller request)
      · cases step
  | execute id newID now =>
      simp only [CacheState.step] at step
      split at step
      · rename_i mutation phase
        have idle : ¬ (state.phases id).brings state.tableVersion := by rw [phase]; nofun
        split at step
        · cases step
          exact inv.mutated _ _
        · cases step
          exact inv.setPhase_of_not_brings idle nofun
        · cases step
          exact inv.setPhase_of_not_brings idle nofun
      · cases step
  | executeFails id =>
      simp only [CacheState.step] at step
      split at step
      · rename_i mutation phase
        cases step
        exact inv.setPhase_of_not_brings (by rw [phase]; nofun) nofun
      · cases step
  | query id rows =>
      simp only [CacheState.step] at step
      split at step
      · split at step
        · rename_i snapshot
          cases step
          refine inv.setPhase (fun otherStatus otherRows version held => ?_) (.inr ⟨id, ?_⟩)
          · cases held
            exact ⟨le_rfl, fun _ => loadRules_snapshot snapshot⟩
          · simp only [CacheState.setPhase, Function.update_self]
            rfl
        · cases step
      · cases step
  | queryFails id =>
      simp only [CacheState.step] at step
      split at step
      · cases step
        refine inv.setPhase nofun (guard.imp_right fun ⟨other, different, brings⟩ => ?_)
        exact awaited_setPhase_of_ne different brings
      · cases step
  | install id =>
      simp only [CacheState.step] at step
      split at step
      · rename_i status rows version held
        cases step
        exact inv.installed held guard
      · cases step
  | countHits ids now =>
      cases step
      exact inv.countHits ids now

end CacheState

variable (parser) in
/-- The rules endpoints over one table and one cache. -/
def ruleCacheMachine : Machine (CacheState RequestID parser) (CacheLabel RequestID) where
  step := CacheState.step adminServiceToken

variable {adminServiceToken}

/-- In every run of any number of requests in which the present contents of the
table stay awaited until they are installed, the cache agrees with the table
whenever all requests have finished. -/
theorem cacheAgrees_of_guarded {initial : StartupLoad} {labels : List (CacheLabel RequestID)}
    (guarded : (ruleCacheMachine parser adminServiceToken).Guarded
      CacheState.KeepsAwaited (.start initial) labels) :
    (ruleCacheMachine parser adminServiceToken).Along
      (fun state => state.Quiescent → state.CacheAgrees) (.start initial) labels := by
  have invariant : (ruleCacheMachine parser adminServiceToken).Along CacheState.Inv
      (.start initial) labels :=
    Machine.along_of_guarded (fun inv guard step => CacheState.Inv.step inv guard step)
      (CacheState.inv_start initial) guarded
  exact invariant.mono fun state inv quiet => inv.agrees quiet

end

/-! ## Two administrators -/

def adminCaller : Caller := { role := "admin" }

/-- A rule against addresses of the Tor network. -/
def torRule : FraudRule :=
  { newIpRule with
    id := ⟨List.replicate 16 8, rfl⟩
    ruleID := "RULE_TOR"
    name := "Tor"
    expression := "ip_is_tor" }

/-- A service that starts with two rules. -/
def twoRules : StartupLoad where
  table := ⟨[newIpRule, torRule], by decide, by decide⟩
  rows := [newIpRule, torRule]
  isSnapshot := by decide

instance {version : Nat} : DecidablePred (RequestPhase.brings version)
  | .querying _ => isTrue trivial
  | .loaded _ _ held => inferInstanceAs (Decidable (held = version))
  | .absent | .mutating _ | .finished _ => isFalse id

instance {parser : Parser} (state : CacheState Bool parser) :
    DecidablePred state.KeepsAwaited
  | .install _ => inferInstanceAs (Decidable (∃ id, (state.phases id).brings state.tableVersion))
  | .queryFails id => inferInstanceAs (Decidable (_ ∨
      ∃ other, other ≠ id ∧ (state.phases other).brings state.tableVersion))
  | .begin _ _ _ | .execute _ _ _ | .executeFails _ | .query _ _ | .countHits _ _ => isTrue trivial

/-- Both delete a rule, and the one who reads the table last replaces the cache last. -/
def nestedDeletions : List (CacheLabel Bool) :=
  [.begin false adminCaller (.mutate (.delete "RULE_NEW_IP")),
    .begin true adminCaller (.mutate (.delete "RULE_TOR")),
    .execute false newIpRule.id 0, .query false [torRule], .execute true torRule.id 0,
    .countHits [torRule.id] 0, .install false, .query true [], .install true]

/-- Two deletions, one inside the other, and the cache agrees at the end. -/
theorem cacheAgrees_nestedDeletions :
    (ruleCacheMachine nameParser "").Along (fun state => state.Quiescent → state.CacheAgrees)
        (.start twoRules) nestedDeletions ∧
      ((ruleCacheMachine nameParser "").exec (.start twoRules) nestedDeletions).map
        (fun state => (state.cacheVersion, state.tableVersion, (state.phases false).isDone,
          (state.phases true).isDone)) = some (2, 2, true, true) := by
  constructor
  · exact cacheAgrees_of_guarded (Machine.guarded_of_decide (by decide +kernel))
  · decide +kernel

/-- Both delete a rule; the one who reads the table first replaces the cache last. -/
def crossedDeletions : List (CacheLabel Bool) :=
  [.begin false adminCaller (.mutate (.delete "RULE_NEW_IP")),
    .begin true adminCaller (.mutate (.delete "RULE_TOR")),
    .execute false newIpRule.id 0, .query false [torRule],
    .execute true torRule.id 0, .query true [], .install true, .install false]

/-- Two deletions that cross leave a rule in the cache that the table no longer has. -/
theorem cacheAgrees_fails :
    ¬ ∀ labels : List (CacheLabel Bool), (ruleCacheMachine nameParser "").Along
      (fun state => state.Quiescent → state.CacheAgrees) (.start twoRules) labels := by
  intro always
  have run : ((ruleCacheMachine nameParser "").exec (.start twoRules) crossedDeletions).map
      (fun state => (state.cache.length, state.table.rows.length, (state.phases false).isDone,
        (state.phases true).isDone)) = some (1, 0, true, true) := by decide +kernel
  obtain ⟨state, reached, observed⟩ := Option.map_eq_some_iff.mp run
  simp only [Prod.mk.injEq] at observed
  obtain ⟨cached, empty, first, second⟩ := observed
  have quiet : state.Quiescent := Bool.rec first second
  have agrees : state.CacheAgrees := (always crossedDeletions).final reached quiet
  obtain ⟨entry, cached⟩ := List.length_eq_one_iff.mp cached
  have inside : entry ∈ state.cache := by
    rw [cached]
    exact List.mem_singleton_self entry
  obtain ⟨rule, member, _⟩ := (agrees.exact entry).mp inside
  rw [List.length_eq_zero_iff.mp empty] at member
  cases member

end Sentinel.Risk
