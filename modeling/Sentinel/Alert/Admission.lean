import Sentinel.Alert.Redis
import Sentinel.Semantics.Machine
import Sentinel.Semantics.Quota

/-!
# The account of admitted alerts

Calls of `AllowAlert`, one after another on Redis's clock. A mark under the
dedup key stands for the last admission of an alert, and the counter of a user
for a quota that its first alert opens: `Mirrors` is this reading of Redis, and
every call keeps it.
-/

namespace Sentinel.Alert

open Sentinel.Semantics

structure AlertCall where
  alertID : String
  userID : String
  instant : Millis

/-- An answered call, with the user's counter as the script left it. -/
structure Answer where
  call : AlertCall
  verdict : Verdict
  counter : Option RedisEntry

namespace Answer

def admits (answer : Answer) : Bool := answer.verdict = .allowed

def marks (alertID : String) (answer : Answer) : Bool :=
  answer.admits && answer.call.alertID = alertID

def spends (userID : String) (answer : Answer) : Bool :=
  answer.admits && answer.call.userID = userID

def instant (answer : Answer) : Millis := answer.call.instant

/-- The end of the counter's lifetime. -/
def lifetime (answer : Answer) : Option Millis := answer.counter.bind RedisEntry.expiresAt

end Answer

/-- The answers are logged from the newest to the oldest. -/
structure AdmissionState where
  redis : AlertRedis
  clock : Millis
  log : List Answer

namespace AdmissionState

def start (redis : AlertRedis) (clock : Millis) : AdmissionState := ⟨redis, clock, []⟩

/-- When the alert was admitted. -/
def marks (state : AdmissionState) (alertID : String) : List Millis :=
  (state.log.filter (Answer.marks alertID)).map Answer.instant

/-- When alerts of the user were admitted. -/
def spent (state : AdmissionState) (userID : String) : List Millis :=
  (state.log.filter (Answer.spends userID)).map Answer.instant

/-- The alerts admitted for the user while one counter lived. -/
def perLifetime (state : AdmissionState) (userID : String) (expiry : Millis) : Nat :=
  state.log.countP fun answer => answer.spends userID && answer.lifetime = some expiry

def answered (state : AdmissionState) (call : AlertCall) (verdict : Verdict)
    (redis : AlertRedis) : AdmissionState where
  redis := redis
  clock := call.instant
  log := ⟨call, verdict, redis (rateLimitKey call.userID)⟩ :: state.log

def step (state : AdmissionState) (call : AlertCall) : Option AdmissionState :=
  if state.clock ≤ call.instant then
    let (verdict, redis) := allowAlert call.alertID call.userID call.instant state.redis
    some (state.answered call verdict redis)
  else none

end AdmissionState

/-- Atomic calls at instants that do not decrease. -/
def admission : Machine AdmissionState AlertCall := ⟨AdmissionState.step⟩

/-- Neither kind of key exists yet. -/
structure AlertRedis.Fresh (redis : AlertRedis) : Prop where
  unmarked : ∀ alertID, redis (dedupKey alertID) = none
  uncounted : ∀ userID, redis (rateLimitKey userID) = none

/-- A refusal of this call leaves Redis as it is, and it has one of two reasons:
the alert was admitted less than ten minutes ago, or five alerts were admitted
for the user in the lifetime of a counter that has at most a minute left. -/
structure AdmissionState.Justified (state : AdmissionState) (call : AlertCall) : Prop where
  unchanged : (allowAlert call.alertID call.userID call.instant state.redis).2 = state.redis
  reason : (∃ mark ∈ state.marks call.alertID, call.instant < mark + 600000) ∨
    ∃ expiry, call.instant < expiry ∧ expiry ≤ call.instant + 60000 ∧
      state.perLifetime call.userID expiry = 5

/-- What the admissions so far and the next call satisfy. -/
structure AdmissionState.Accounted (state : AdmissionState) : Prop where
  apart : ∀ alertID, (state.marks alertID).Pairwise fun newer older => older + 600000 ≤ newer
  expires : ∀ userID entry, state.redis (rateLimitKey userID) = some entry →
    ∃ expiry, entry.expiresAt = some expiry ∧ expiry ≤ state.clock + 60000
  perLifetime : ∀ userID expiry, state.perLifetime userID expiry ≤ 5
  perMinute : ∀ userID start, windowCount id 60000 start (state.spent userID) ≤ 9
  refuses : ∀ call : AlertCall, state.clock ≤ call.instant →
    (allowAlert call.alertID call.userID call.instant state.redis).1 ≠ .allowed →
      state.Justified call

/-! ## One call -/

/-- The counter that stands for a quota. -/
def counterOf (quota : Quota) : RedisEntry := ⟨quota.used, some (quota.openedAt + 60000)⟩

section

variable {redis : AlertRedis} {alertID userID : String} {now : Millis} {last : Option Quota}
  {quota : Quota}

/-- A counter is seen until its minute is over. -/
theorem entry_counterOf (counter : redis (rateLimitKey userID) = some (counterOf quota)) :
    redis.entry now (rateLimitKey userID) =
      if now < quota.openedAt + 60000 then some (counterOf quota) else none := by
  simp [AlertRedis.entry, counter, counterOf, Option.filter]

/-- An alert that is marked is refused and changes nothing. -/
theorem allowAlert_duplicate (marked : redis.contains now (dedupKey alertID)) :
    allowAlert alertID userID now redis = (.duplicate, redis) :=
  if_pos marked

/-- A user with five alerts in a running minute is refused, and the mark is taken back. -/
theorem allowAlert_limited (unmarked : redis.contains now (dedupKey alertID) = false)
    (counter : redis (rateLimitKey userID) = some (counterOf quota))
    (running : quota.Running 60000 now) (full : 5 ≤ quota.used) :
    allowAlert alertID userID now redis = (.limited, redis) := by
  have reached : (redis.get now (rateLimitKey userID)).any (5 ≤ ·) := by
    rw [AlertRedis.get, entry_counterOf counter, if_pos (id running : now < _)]
    simpa [counterOf] using Int.ofNat_le.mpr full
  simp [allowAlert, alertLuaScript, unmarked, reached]

/-- Redis after an admission. -/
def AlertRedis.admitted (redis : AlertRedis) (alertID userID : String) (now : Millis)
    (last : Option Quota) : AlertRedis :=
  Function.update
    (Function.update redis (dedupKey alertID) (some ⟨1, some (now + 600000)⟩))
    (rateLimitKey userID) (some (counterOf (Quota.use 60000 now last)))

/-- Otherwise the alert is marked and counted. -/
theorem allowAlert_allowed (unmarked : redis.contains now (dedupKey alertID) = false)
    (counter : redis (rateLimitKey userID) = last.map counterOf)
    (used : ∀ quota, last = some quota → 0 < quota.used)
    (room : ∀ quota, last = some quota → quota.Running 60000 now → quota.used < 5) :
    allowAlert alertID userID now redis = (.allowed, redis.admitted alertID userID now last) := by
  have below : (redis.get now (rateLimitKey userID)).any (5 ≤ ·) = false := by
    cases last with
    | none => simp [AlertRedis.get, AlertRedis.entry, counter]
    | some quota =>
        rw [AlertRedis.get, entry_counterOf counter]
        split
        · rename_i running
          simpa [counterOf] using Int.ofNat_lt.mpr (room quota rfl running)
        · rfl
  have kept : (redis.setEx now (dedupKey alertID) 1 600) (rateLimitKey userID) =
      last.map counterOf :=
    (Function.update_of_ne (dedupKey_ne_rateLimitKey alertID userID).symm ..).trans counter
  simp only [allowAlert, alertLuaScript, unmarked, below, Bool.false_eq_true, if_false]
  generalize marked : redis.setEx now (dedupKey alertID) 1 600 = after at kept
  by_cases running : ∃ quota, last = some quota ∧ quota.Running 60000 now
  · obtain ⟨quota, rfl, running⟩ := running
    have counted : after.incr now (rateLimitKey userID) =
        Function.update after (rateLimitKey userID)
          (some (counterOf { quota with used := quota.used + 1 })) := by
      rw [AlertRedis.incr, entry_counterOf kept, if_pos (id running : now < _)]
      rfl
    have several :
        (after.incr now (rateLimitKey userID)).get now (rateLimitKey userID) ≠ some 1 := by
      have positive := used quota rfl
      rw [counted, AlertRedis.get, entry_counterOf (Function.update_self ..),
        if_pos (id running : now < _)]
      simp [counterOf]
      omega
    rw [if_neg several, counted, AlertRedis.admitted, Quota.use_of_running running, ← marked]
    rfl
  · have ended : ∀ quota, last = some quota → ¬ quota.Running 60000 now :=
      fun quota present holds => running ⟨quota, present, holds⟩
    have absent : after.entry now (rateLimitKey userID) = none := by
      cases last with
      | none => simp [AlertRedis.entry, kept]
      | some quota => rw [entry_counterOf kept, if_neg (id (ended quota rfl) : ¬ now < _)]
    have counted : after.incr now (rateLimitKey userID) =
        Function.update after (rateLimitKey userID) (some ⟨1, none⟩) := by
      rw [AlertRedis.incr, absent]
    have first : AlertRedis.entry (Function.update after (rateLimitKey userID) (some ⟨1, none⟩))
        now (rateLimitKey userID) = some ⟨1, none⟩ := by
      simp [AlertRedis.entry]
    rw [counted, if_pos (by rw [AlertRedis.get, first]; rfl), AlertRedis.expire, first,
      AlertRedis.admitted, Quota.use_of_ended ended, Function.update_idem, ← marked]
    rfl

end

/-! ## Redis against the log -/

namespace AdmissionState

/-- Redis holds what the log says, and the log keeps the quotas. -/
structure Inv (state : AdmissionState) : Prop where
  sorted : state.log.Pairwise fun newer older => older.instant ≤ newer.instant
  past : ∀ answer ∈ state.log, answer.instant ≤ state.clock
  mark : ∀ alertID, state.redis (dedupKey alertID) =
    (state.marks alertID).head?.map fun mark => ⟨1, some (mark + 600000)⟩
  counter : ∀ userID, state.redis (rateLimitKey userID) =
    (quotaOf 60000 (state.spent userID)).map counterOf
  lifetimes : ∀ userID, (state.log.filter (Answer.spends userID)).map Answer.lifetime =
    (openings 60000 (state.spent userID)).map fun opening => some (opening + 60000)
  within : ∀ userID, WithinQuota 60000 5 (state.spent userID)
  apart : ∀ alertID, (state.marks alertID).Pairwise fun newer older => older + 600000 ≤ newer

variable {state next : AdmissionState} {call : AlertCall} {redis : AlertRedis}

/-- On a fresh Redis nothing was admitted. -/
theorem inv_start {clock : Millis} (fresh : redis.Fresh) : (start redis clock).Inv where
  sorted := .nil
  past := nofun
  mark := fresh.unmarked
  counter := fresh.uncounted
  lifetimes _ := rfl
  within _ := trivial
  apart _ := .nil

/-- The admissions of a user are kept in their order. -/
theorem Inv.spent_sorted (inv : state.Inv) (userID : String) :
    NewestFirst id (state.spent userID) :=
  (inv.sorted.sublist List.filter_sublist).map _ fun _ _ order => order

/-- None of them is in the future. -/
theorem Inv.spent_past (inv : state.Inv) {userID : String} {instant : Millis}
    (member : instant ∈ state.spent userID) : instant ≤ state.clock := by
  obtain ⟨answer, logged, rfl⟩ := List.mem_map.mp member
  exact inv.past answer (List.mem_of_mem_filter logged)

/-- A counter's lifetime is known by the admission that opened it. -/
theorem Inv.perLifetime_eq (inv : state.Inv) (userID : String) (expiry : Millis) :
    state.perLifetime userID expiry =
      (openings 60000 (state.spent userID)).count (expiry - 60000) := by
  have flagged : state.perLifetime userID expiry =
      ((state.log.filter (Answer.spends userID)).map Answer.lifetime).count (some expiry) := by
    rw [List.count, List.countP_map, List.countP_filter]
    refine List.countP_congr fun answer _ => ?_
    simp [and_comm]
  rw [flagged, inv.lifetimes, List.count, List.countP_map, List.count]
  refine List.countP_congr fun opening _ => ?_
  simp only [Function.comp_apply, beq_iff_eq, Option.some.injEq]
  exact eq_sub_iff_add_eq.symm

/-- The dedup key is there until ten minutes after the last admission. -/
theorem Inv.contains_iff (inv : state.Inv) {alertID : String} {now : Millis} :
    state.redis.contains now (dedupKey alertID) ↔
      ∃ mark, (state.marks alertID).head? = some mark ∧ now < mark + 600000 := by
  rw [AlertRedis.contains, AlertRedis.entry, inv.mark]
  cases (state.marks alertID).head? with
  | none => simp
  | some mark => simp [Option.filter]

/-! ## Answers in the log -/

section

variable {verdict : Verdict}

/-- A refusal marks nothing. -/
theorem marks_refused (refused : verdict ≠ .allowed) (alertID : String) :
    (state.answered call verdict redis).marks alertID = state.marks alertID := by
  simp [marks, answered, Answer.marks, Answer.admits, refused]

/-- A refusal spends nothing. -/
theorem spent_refused (refused : verdict ≠ .allowed) (userID : String) :
    (state.answered call verdict redis).spent userID = state.spent userID := by
  simp [spent, answered, Answer.spends, Answer.admits, refused]

/-- An admission marks its alert. -/
theorem marks_allowed (alertID : String) :
    (state.answered call .allowed redis).marks alertID =
      if call.alertID = alertID then call.instant :: state.marks alertID
      else state.marks alertID := by
  by_cases same : call.alertID = alertID <;>
    simp [marks, answered, Answer.marks, Answer.admits, Answer.instant, same]

/-- An admission counts against its user. -/
theorem spent_allowed (userID : String) :
    (state.answered call .allowed redis).spent userID =
      if call.userID = userID then call.instant :: state.spent userID
      else state.spent userID := by
  by_cases same : call.userID = userID <;>
    simp [spent, answered, Answer.spends, Answer.admits, Answer.instant, same]

/-- The answers are logged in their order. -/
theorem Inv.log_answered (inv : state.Inv) (later : state.clock ≤ call.instant) :
    (state.answered call verdict redis).log.Pairwise
        (fun newer older => older.instant ≤ newer.instant) ∧
      ∀ answer ∈ (state.answered call verdict redis).log, answer.instant ≤ call.instant := by
  have past : ∀ answer ∈ state.log, answer.instant ≤ call.instant :=
    fun answer logged => (inv.past answer logged).trans later
  refine ⟨List.pairwise_cons.mpr ⟨past, inv.sorted⟩, ?_⟩
  rintro answer (_ | ⟨_, logged⟩)
  · exact Int.le_refl _
  · exact past answer logged

/-- A refusal changes neither Redis nor what was admitted. -/
theorem Inv.refuse (inv : state.Inv) (later : state.clock ≤ call.instant)
    (refused : verdict ≠ .allowed) : (state.answered call verdict state.redis).Inv where
  sorted := (inv.log_answered later).1
  past := (inv.log_answered later).2
  mark alertID := by
    rw [marks_refused refused]
    exact inv.mark alertID
  counter userID := by
    rw [spent_refused refused]
    exact inv.counter userID
  lifetimes userID := by
    rw [spent_refused refused, ← inv.lifetimes userID]
    simp [answered, Answer.spends, Answer.admits, refused]
  within userID := by
    rw [spent_refused refused]
    exact inv.within userID
  apart alertID := by
    rw [marks_refused refused]
    exact inv.apart alertID

/-- An admission moves the alert's mark and takes one from the user's quota. -/
theorem Inv.allow (inv : state.Inv) (later : state.clock ≤ call.instant)
    (unmarked : state.redis.contains call.instant (dedupKey call.alertID) = false)
    (room : ∀ quota, quotaOf 60000 (state.spent call.userID) = some quota →
      quota.Running 60000 call.instant → quota.used < 5) :
    (state.answered call .allowed (state.redis.admitted call.alertID call.userID call.instant
      (quotaOf 60000 (state.spent call.userID)))).Inv where
  sorted := (inv.log_answered later).1
  past := (inv.log_answered later).2
  mark alertID := by
    rw [marks_allowed]
    simp only [answered, AlertRedis.admitted]
    rw [Function.update_of_ne (dedupKey_ne_rateLimitKey alertID call.userID)]
    by_cases same : call.alertID = alertID
    · subst same
      rw [Function.update_self, if_pos rfl]
      rfl
    · rw [Function.update_of_ne (fun keys => same (dedupKey_inj.mp keys).symm), if_neg same]
      exact inv.mark alertID
  counter userID := by
    rw [spent_allowed]
    simp only [answered, AlertRedis.admitted]
    by_cases same : call.userID = userID
    · subst same
      rw [Function.update_self, if_pos rfl]
      rfl
    · rw [Function.update_of_ne (fun keys => same (rateLimitKey_inj.mp keys).symm),
        Function.update_of_ne (dedupKey_ne_rateLimitKey call.alertID userID).symm, if_neg same]
      exact inv.counter userID
  lifetimes userID := by
    rw [spent_allowed]
    by_cases same : call.userID = userID
    · subst same
      rw [if_pos rfl, openings, List.map_cons, ← inv.lifetimes call.userID]
      simp [answered, Answer.spends, Answer.admits, Answer.lifetime, AlertRedis.admitted,
        counterOf]
    · rw [if_neg same, ← inv.lifetimes userID]
      simp [answered, Answer.spends, Answer.admits, same]
  within userID := by
    rw [spent_allowed]
    by_cases same : call.userID = userID
    · subst same
      rw [if_pos rfl]
      exact ⟨Quota.use_used_le (by decide) room, inv.within call.userID⟩
    · rw [if_neg same]
      exact inv.within userID
  apart alertID := by
    rw [marks_allowed]
    by_cases same : call.alertID = alertID
    · subst same
      rw [if_pos rfl, List.pairwise_cons]
      refine ⟨fun mark member => ?_, inv.apart call.alertID⟩
      -- The last mark has expired, and all others are older.
      cases marked : state.marks call.alertID with
      | nil =>
          rw [marked] at member
          cases member
      | cons last older =>
          have expired : last + 600000 ≤ call.instant := by
            refine Int.not_lt.mp fun live => ?_
            have present := inv.contains_iff.mpr ⟨last, by rw [marked]; rfl, live⟩
            rw [unmarked] at present
            cases present
          have order := inv.apart call.alertID
          rw [marked] at member order
          rcases List.mem_cons.mp member with rfl | member
          · exact expired
          · have before : mark + 600000 ≤ last := (List.pairwise_cons.mp order).1 mark member
            have order : last ≤ last + 600000 := Int.le_add_of_nonneg_right (by decide)
            exact before.trans (order.trans expired)
    · rw [if_neg same]
      exact inv.apart alertID

end

/-- What one call does: it is refused for a reason, or it is admitted. -/
theorem Inv.call_cases (inv : state.Inv) (later : state.clock ≤ call.instant) :
    (∃ verdict, verdict ≠ .allowed ∧
      allowAlert call.alertID call.userID call.instant state.redis = (verdict, state.redis) ∧
        state.Justified call) ∨
    state.redis.contains call.instant (dedupKey call.alertID) = false ∧
      (∀ quota, quotaOf 60000 (state.spent call.userID) = some quota →
        quota.Running 60000 call.instant → quota.used < 5) ∧
      allowAlert call.alertID call.userID call.instant state.redis =
        (.allowed, state.redis.admitted call.alertID call.userID call.instant
          (quotaOf 60000 (state.spent call.userID))) := by
  cases marked : state.redis.contains call.instant (dedupKey call.alertID) with
  | true =>
      have same : allowAlert call.alertID call.userID call.instant state.redis =
          (.duplicate, state.redis) := allowAlert_duplicate marked
      obtain ⟨mark, last, live⟩ := inv.contains_iff.mp marked
      refine .inl ⟨.duplicate, nofun, same, ?_, .inl ⟨mark, ?_, live⟩⟩
      · rw [same]
      · exact List.mem_of_mem_head? last
  | false =>
      by_cases full : ∃ quota, quotaOf 60000 (state.spent call.userID) = some quota ∧
          quota.Running 60000 call.instant ∧ 5 ≤ quota.used
      · obtain ⟨quota, last, running, full⟩ := full
        have counter := inv.counter call.userID
        rw [last] at counter
        have same := allowAlert_limited marked counter running full
        have spent := (inv.within call.userID).used_le last
        have opened := inv.spent_past (openedAt_mem last)
        have count := (count_openings (by decide) (inv.spent_sorted call.userID) last).1
        refine .inl ⟨.limited, nofun, same, ?_, .inr ⟨quota.openedAt + 60000, running, ?_, ?_⟩⟩
        · rw [same]
        · exact Int.add_le_add_right (opened.trans later) _
        · rw [inv.perLifetime_eq, Int.add_sub_cancel, count]
          omega
      · have room : ∀ quota, quotaOf 60000 (state.spent call.userID) = some quota →
            quota.Running 60000 call.instant → quota.used < 5 := by
          intro quota last running
          exact Nat.not_le.mp fun spent => full ⟨quota, last, running, spent⟩
        refine .inr ⟨rfl, room, ?_⟩
        exact allowAlert_allowed marked (inv.counter call.userID) (fun _ => used_pos) room

/-- Every call keeps the invariant. -/
theorem Inv.step (inv : state.Inv) (step : state.step call = some next) : next.Inv := by
  unfold AdmissionState.step at step
  split at step
  · rename_i later
    rcases inv.call_cases later with ⟨verdict, refused, same, _⟩ | ⟨unmarked, room, admitted⟩
    · rw [same] at step
      cases step
      exact inv.refuse later refused
    · rw [admitted] at step
      cases step
      exact inv.allow later unmarked room
  · cases step

/-- What the admissions amount to follows from the invariant. -/
theorem Inv.accounted (inv : state.Inv) : state.Accounted where
  apart := inv.apart
  expires userID entry present := by
    rw [inv.counter userID] at present
    obtain ⟨quota, last, rfl⟩ := Option.map_eq_some_iff.mp present
    have opened := inv.spent_past (openedAt_mem last)
    exact ⟨quota.openedAt + 60000, rfl, Int.add_le_add_right opened _⟩
  perLifetime userID expiry := by
    rw [inv.perLifetime_eq]
    exact (inv.within userID).count_openings_le (by decide) (inv.spent_sorted userID) _
  perMinute userID start := by
    have bound := (inv.within userID).windowCount_lt (inv.spent_sorted userID) (by decide) start
    exact Nat.le_of_lt_succ bound
  refuses call later refused := by
    rcases inv.call_cases later with ⟨_, _, _, justified⟩ | ⟨_, _, admitted⟩
    · exact justified
    · rw [admitted] at refused
      exact absurd rfl refused

end AdmissionState

/-- At every point of every sequence of calls. -/
theorem admission_accounted {redis : AlertRedis} (fresh : redis.Fresh) (clock : Millis)
    (calls : List AlertCall) :
    admission.Along AdmissionState.Accounted (.start redis clock) calls := by
  have kept : admission.Along AdmissionState.Inv (.start redis clock) calls :=
    Machine.along_of_preserved (fun inv step => inv.step step) (AdmissionState.inv_start fresh)
      calls
  exact kept.mono fun state inv => inv.accounted

/-- An alert that is repeated is admitted again only after ten minutes. -/
theorem admission_accounted_repeated :
    admission.Along AdmissionState.Accounted (.start .empty 0)
      [⟨"d1", "u1", 0⟩, ⟨"d1", "u1", 1000⟩, ⟨"d1", "u1", 600000⟩] :=
  admission_accounted ⟨fun _ => rfl, fun _ => rfl⟩ 0 _

/-- Nine is reached: four alerts end one lifetime and five begin the next. -/
example :
    (admission.exec (.start .empty 0)
      [⟨"a", "u", 0⟩, ⟨"b", "u", 50000⟩, ⟨"c", "u", 50001⟩, ⟨"d", "u", 50002⟩, ⟨"e", "u", 50003⟩,
        ⟨"f", "u", 60000⟩, ⟨"g", "u", 60001⟩, ⟨"h", "u", 60002⟩, ⟨"i", "u", 60003⟩,
        ⟨"j", "u", 60004⟩]).map (fun state => windowCount id 60000 50000 (state.spent "u")) =
      some 9 := by
  decide +kernel

end Sentinel.Alert
