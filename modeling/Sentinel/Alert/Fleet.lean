import Sentinel.Alert.Admission
import Sentinel.Alert.Consumer
import Sentinel.Semantics.Tally

/-!
# Alert services that share one Redis

Any number of instances of `KafkaConsumer.Start`, which come and go, fetch messages again
and again and dispatch at the same time. What keeps them from telling a decision too often
is the account of admissions in Redis: `restrained_of_run`.
-/

namespace Sentinel.Alert

open Sentinel.Wire Sentinel.Semantics

/-- An instance and the partition that it reads. -/
structure Instance where
  partition : Nat
  state : AlertState

structure Fleet where
  admission : AdmissionState
  instances : List Instance

inductive FleetLabel where
  /-- An instance begins to read a partition at some offset. -/
  | join (partition offset : Nat)
  | advance (index : Nat) (label : AlertLabel)

/-- What is looked for among alerts: some of them, and their letters. -/
structure Watch where
  chosen : String → String → Bool
  letters : String → Bool
  chosen_of_letters : ∀ alertID userID, letters alertID = true → chosen alertID userID = true

namespace Watch

def alert (alertID : String) : Watch :=
  ⟨fun id _ => id = alertID, fun id => id = alertID, fun _ _ same => same⟩

/-- A letter does not name the user at its top. -/
def user (userID : String) : Watch := ⟨fun _ id => id = userID, fun _ => false, by simp⟩

def holds (watch : Watch) (alert : AlertEvent) : Bool := watch.chosen alert.alertID alert.userID

end Watch

namespace AlertState

/-- How often the webhook or the dead-letter topic was told. -/
def told (watch : Watch) (state : AlertState) : Nat :=
  state.delivered.countP watch.holds + state.deadLetters.countP fun letter => watch.letters letter.1

/-- What the dispatch that is under way may still tell. -/
def pending (watch : Watch) (state : AlertState) : Nat :=
  match state.phase with
  | .dispatching alert _ => if watch.holds alert then 1 else 0
  | .fetching | .deciding _ | .committing _ => 0

def owed (watch : Watch) (state : AlertState) : Nat := state.told watch + state.pending watch

/-- The call of `AllowAlert` that a step makes, if Redis gets to run it. -/
def asks (state : AlertState) : AlertLabel → Option AlertCall
  | .allowAlert now reply =>
      match state.phase, reply with
      | .deciding _, .failed false => none
      | .deciding alert, _ => some ⟨alert.alertID, alert.userID, now⟩
      | _, _ => none
  | .fetch | .dispatch _ _ | .commit _ | .restart => none

end AlertState

namespace AdmissionState

/-- Redis after a step that may have asked it. -/
def asked (state : AdmissionState) : Option AlertCall → Option AdmissionState
  | some call => state.step call
  | none => some state

/-- How many of the calls so far were admitted. -/
def admitted (watch : Watch) (state : AdmissionState) : Nat :=
  state.log.countP fun answer =>
    answer.admits && watch.chosen answer.call.alertID answer.call.userID

end AdmissionState

namespace Fleet

def start (redis : AlertRedis) (clock : Millis) : Fleet := ⟨.start redis clock, []⟩

variable (webhook : String) (partitions : Nat → Nat → Option Json)

/-- One step of an instance, over the Redis that all share. -/
def advance (fleet : Fleet) (index : Nat) (reader : Instance) (label : AlertLabel) :
    Option Fleet :=
  let before := { reader.state with redis := fleet.admission.redis }
  match before.step webhook (partitions reader.partition) label,
      fleet.admission.asked (before.asks label) with
  | some state, some admission =>
      some ⟨admission, fleet.instances.set index { reader with state }⟩
  | _, _ => none

def step (fleet : Fleet) : FleetLabel → Option Fleet
  | .join partition offset =>
      let state := { AlertState.start fleet.admission.redis with cursor := ⟨offset, offset, []⟩ }
      some { fleet with instances := fleet.instances ++ [⟨partition, state⟩] }
  | .advance index label =>
      fleet.instances[index]?.bind fun reader =>
        fleet.advance webhook partitions index reader label

/-- How often all instances have told. -/
def told (watch : Watch) (fleet : Fleet) : Nat :=
  total (fun reader => reader.state.told watch) fleet.instances

end Fleet

def fleetMachine (webhook : String) (partitions : Nat → Nat → Option Json) :
    Machine Fleet FleetLabel :=
  ⟨Fleet.step webhook partitions⟩

namespace AlertState

variable {webhook : String} {partition : Nat → Option Json} {state next : AlertState}

/-- What Redis is after a step that may have asked it. -/
def redisAfter (redis : AlertRedis) : Option AlertCall → AlertRedis
  | some call => (allowAlert call.alertID call.userID call.instant redis).2
  | none => redis

/-- Whether a step was allowed to tell an alert that is looked for. -/
def allows (watch : Watch) (redis : AlertRedis) : Option AlertCall → Nat
  | some call =>
      if (allowAlert call.alertID call.userID call.instant redis).1 = .allowed then
        if watch.chosen call.alertID call.userID then 1 else 0
      else 0
  | none => 0

/-- A step of a dispatch does not touch Redis. -/
theorem redis_sent (alert : AlertEvent) (phase : DispatchPhase) (label : DispatchLabel)
    (now : Int) : (state.sent alert phase label now).redis = state.redis := by
  unfold sent
  split
  · split <;> rfl
  · rfl
  · rfl

/-- What a dispatch tells by a step, of the one alert that it is about. -/
theorem told_sent (watch : Watch) {alert : AlertEvent} {phase after : DispatchPhase}
    {label : DispatchLabel} (now : Int) (step : phase.step label = some after) :
    (state.sent alert phase label now).told watch ≤
      state.told watch + if watch.holds alert then 1 else 0 := by
  unfold sent
  split
  · split
    · simp only [told, List.countP_cons]
      omega
    · exact Nat.le_add_right _ _
  · simp only [told, List.countP_cons]
    have letter : watch.letters alert.alertID = true → watch.holds alert = true :=
      watch.chosen_of_letters _ _
    by_cases written : watch.letters alert.alertID = true
    · rw [if_pos written, if_pos (letter written)]
      omega
    · rw [if_neg written]
      omega
  · exact Nat.le_add_right _ _

/-- A dispatch that goes on has told nothing yet. -/
theorem told_sent_of_unreturned (watch : Watch) {alert : AlertEvent} {phase after : DispatchPhase}
    {label : DispatchLabel} (now : Int) (step : phase.step label = some after)
    (going : ∀ error, after ≠ .returned error) :
    (state.sent alert phase label now).told watch = state.told watch := by
  unfold sent
  split
  · rename_i outcome
    split
    · rename_i succeeded
      cases phase with
      | requesting attempt =>
          simp only [DispatchPhase.step] at step
          split at step
          · rename_i uncreated
            rw [uncreated] at succeeded
            cases succeeded
          · exact absurd (Option.some.inj step).symm (going none)
      | preparing | backingOff _ | deadLettering _ _ | returned _ => cases step
    · rfl
  · exact absurd (Option.some.inj step).symm (going _)
  · rfl

/-- What the answer of Redis makes of the decision in hand. -/
structure Asked (webhook : String) (state next : AlertState) (alert : AlertEvent) (now : Millis)
    (reply : RedisReply) : Prop where
  deciding : state.phase = .deciding alert
  delivered : next.delivered = state.delivered
  deadLetters : next.deadLetters = state.deadLetters
  redis : next.redis = if reply = .failed false then state.redis
    else (allowAlert alert.alertID alert.userID now state.redis).2
  dispatching : ∀ sent phase, next.phase = .dispatching sent phase →
    reply = .answered ∧ (allowAlert alert.alertID alert.userID now state.redis).1 = .allowed ∧
      sent = { alert with webhook }

/-- A reply of the admission script comes to a question about one alert. -/
theorem asked_of_step {now : Millis} {reply : RedisReply}
    (step : state.step webhook partition (.allowAlert now reply) = some next) :
    ∃ alert, Asked webhook state next alert now reply := by
  simp only [AlertState.step] at step
  split at step
  · rename_i alert deciding
    refine ⟨alert, ?_⟩
    cases reply with
    | failed executed =>
        cases step
        cases executed with
        | true => exact ⟨deciding, rfl, rfl, rfl, by simp⟩
        | false => exact ⟨deciding, rfl, rfl, rfl, by simp⟩
    | answered =>
        cases verdict : (allowAlert alert.alertID alert.userID now state.redis).1 with
        | allowed =>
            simp only [verdict] at step
            split at step
            · cases step
              exact ⟨deciding, rfl, rfl, rfl, by simp⟩
            · cases step
              refine ⟨deciding, rfl, rfl, rfl, ?_⟩
              rintro sent phase ⟨⟩
              exact ⟨rfl, verdict, rfl⟩
        | duplicate =>
            simp only [verdict] at step
            cases step
            exact ⟨deciding, rfl, rfl, rfl, by simp⟩
        | limited =>
            simp only [verdict] at step
            cases step
            exact ⟨deciding, rfl, rfl, rfl, by simp⟩
  · cases step

/-- The question is about the alert in hand. -/
theorem asks_of_deciding {alert : AlertEvent} (deciding : state.phase = .deciding alert)
    (now : Millis) (reply : RedisReply) : state.asks (.allowAlert now reply) =
      if reply = .failed false then none else some ⟨alert.alertID, alert.userID, now⟩ := by
  unfold asks
  simp only [deciding]
  cases reply with
  | answered => rfl
  | failed executed => cases executed <;> rfl

/-- The steps of one instance change Redis as its calls do. -/
theorem redis_step {label : AlertLabel} (step : state.step webhook partition label = some next) :
    next.redis = redisAfter state.redis (state.asks label) := by
  cases label with
  | fetch =>
      simp only [AlertState.step] at step
      split at step
      · split at step
        · cases step
          rfl
        · split at step
          · cases step
            rfl
          · cases step
            rfl
      · cases step
  | allowAlert now reply =>
      obtain ⟨alert, asked⟩ := asked_of_step step
      rw [asked.redis, asks_of_deciding asked.deciding]
      split <;> rfl
  | dispatch label now =>
      simp only [AlertState.step] at step
      split at step
      · split at step
        · cases step
        · cases step
          exact redis_sent ..
        · cases step
          exact redis_sent ..
      · cases step
  | commit succeeded =>
      simp only [AlertState.step] at step
      split at step
      · cases step
        rfl
      · cases step
  | restart =>
      cases step
      rfl

/-- Nothing is pending outside a dispatch. -/
theorem pending_of_undispatching (watch : Watch)
    (otherwise : ∀ alert phase, state.phase ≠ .dispatching alert phase) :
    state.pending watch = 0 := by
  unfold pending
  split
  · rename_i dispatching
    exact absurd dispatching (otherwise _ _)
  · rfl
  · rfl
  · rfl

/-- A step owes no more than its call was allowed. -/
theorem owed_step (watch : Watch) {label : AlertLabel}
    (step : state.step webhook partition label = some next) :
    next.owed watch ≤ state.owed watch + allows watch state.redis (state.asks label) := by
  cases label with
  | fetch =>
      simp only [AlertState.step] at step
      split at step
      · split at step
        · cases step
          exact Nat.le_add_right _ _
        · split at step
          · cases step
            exact Nat.le_add_right _ _
          · cases step
            exact Nat.le_add_right _ _
      · cases step
  | allowAlert now reply =>
      obtain ⟨alert, asked⟩ := asked_of_step step
      have told : next.told watch = state.told watch := by
        rw [AlertState.told, AlertState.told, asked.delivered, asked.deadLetters]
      rw [owed, owed, told]
      by_cases dispatched : ∃ sent phase, next.phase = .dispatching sent phase
      · obtain ⟨sent, phase, dispatching⟩ := dispatched
        obtain ⟨rfl, allowed, rfl⟩ := asked.dispatching sent phase dispatching
        have tells : next.pending watch =
            if watch.chosen alert.alertID alert.userID then 1 else 0 := by
          rw [pending, dispatching]
          rfl
        have allows : allows watch state.redis (state.asks (.allowAlert now .answered)) =
            if watch.chosen alert.alertID alert.userID then 1 else 0 := by
          rw [asks_of_deciding asked.deciding, if_neg (by decide), AlertState.allows, if_pos allowed]
        rw [tells, allows]
        exact Nat.add_le_add_right (Nat.le_add_right _ _) _
      · have nothing : next.pending watch = 0 := pending_of_undispatching watch
          fun sent phase dispatching => dispatched ⟨sent, phase, dispatching⟩
        rw [nothing]
        omega
  | dispatch label now =>
      simp only [AlertState.step] at step
      split at step
      · rename_i alert phase dispatching
        split at step
        · cases step
        · rename_i moves
          cases step
          have told : (state.sent alert phase label now).told watch ≤
              state.told watch + if watch.holds alert then 1 else 0 := told_sent watch now moves
          rw [owed, owed, pending, pending, dispatching]
          simp only [AlertState.told] at told ⊢
          omega
        · rename_i after unreturned moves
          cases step
          have told : (state.sent alert phase label now).told watch = state.told watch :=
            told_sent_of_unreturned watch now moves fun error same => unreturned error same
          rw [owed, owed, pending, pending, dispatching]
          simp only [AlertState.told] at told ⊢
          omega
      · cases step
  | commit succeeded =>
      simp only [AlertState.step] at step
      split at step
      · cases step
        rename_i committing
        rw [owed, owed, pending]
        exact Nat.le_add_right _ _ |>.trans' (Nat.add_le_add_left (Nat.zero_le _) _)
      · cases step
  | restart =>
      cases step
      exact (Nat.add_le_add_left (Nat.zero_le _) _).trans (Nat.le_add_right _ _)

end AlertState

namespace AdmissionState

variable {state next : AdmissionState}

/-- The account after a call, which agrees with Redis and counts what was allowed. -/
theorem asked_ok (watch : Watch) {call : Option AlertCall} (asked : state.asked call = some next) :
    next.redis = AlertState.redisAfter state.redis call ∧ state.clock ≤ next.clock ∧
      next.admitted watch = state.admitted watch + AlertState.allows watch state.redis call := by
  cases call with
  | none =>
      obtain rfl := Option.some.inj asked
      exact ⟨rfl, Int.le_refl _, rfl⟩
  | some call =>
      unfold AdmissionState.asked AdmissionState.step at asked
      dsimp only at asked
      split at asked
      · rename_i later
        obtain rfl := Option.some.inj asked
        refine ⟨rfl, later, ?_⟩
        rw [admitted, answered, List.countP_cons, admitted, AlertState.allows, Answer.admits]
        by_cases allowed :
            (allowAlert call.alertID call.userID call.instant state.redis).1 = .allowed
        · simp [allowed]
        · simp [allowed]
      · cases asked

/-- All calls so far were made since the start. -/
def Since (began : Millis) (state : AdmissionState) : Prop :=
  began ≤ state.clock ∧ ∀ answer ∈ state.log, began ≤ answer.instant

/-- The admissions stay after the beginning. -/
theorem Since.asked {began : Millis} (since : state.Since began) {call : Option AlertCall}
    (asked : state.asked call = some next) : next.Since began := by
  cases call with
  | none =>
      obtain rfl := Option.some.inj asked
      exact since
  | some call =>
      unfold AdmissionState.asked AdmissionState.step at asked
      dsimp only at asked
      split at asked
      · rename_i later
        obtain rfl := Option.some.inj asked
        have begun := since.1.trans later
        exact ⟨begun, List.forall_mem_cons.mpr ⟨begun, since.2⟩⟩
      · cases asked

/-- An answered question keeps the invariant of the admissions. -/
theorem Inv.asked (inv : state.Inv) {call : Option AlertCall}
    (asked : state.asked call = some next) : next.Inv := by
  cases call with
  | none => exact Option.some.inj asked ▸ inv
  | some call => exact inv.step asked

/-- The admissions of an alert are its marks. -/
theorem admitted_alert (alertID : String) :
    state.admitted (.alert alertID) = (state.marks alertID).length := by
  rw [admitted, marks, List.length_map, List.countP_eq_length_filter]
  rfl

/-- The admissions of a user are those that count against it. -/
theorem admitted_user (userID : String) :
    state.admitted (.user userID) = (state.spent userID).length := by
  rw [admitted, spent, List.length_map, List.countP_eq_length_filter]
  rfl

/-- An alert is admitted once in ten minutes. -/
theorem Inv.marks_le (inv : state.Inv) {began : Millis} (since : state.Since began)
    (alertID : String) :
    ((state.marks alertID).length : Int) ≤ (state.clock - began) / 600000 + 1 := by
  refine length_le_of_apart (by decide) (inv.apart alertID) (fun instant member => ?_)
    (fun instant member => ?_) since.1
  · obtain ⟨answer, logged, rfl⟩ := List.mem_map.mp member
    exact since.2 answer (List.mem_of_mem_filter logged)
  · obtain ⟨answer, logged, rfl⟩ := List.mem_map.mp member
    exact inv.past answer (List.mem_of_mem_filter logged)

/-- Five alerts of a user are admitted for each minute that has begun. -/
theorem Inv.spent_le (inv : state.Inv) {began : Millis} (since : state.Since began)
    (userID : String) :
    ((state.spent userID).length : Int) ≤ 5 * ((state.clock - began) / 60000 + 1) := by
  have order : (0 : Int) ≤ (state.clock - began) / 60000 :=
    Int.ediv_nonneg (Int.sub_nonneg.mpr since.1) (by decide)
  cases last : quotaOf 60000 (state.spent userID) with
  | none =>
      cases spent : state.spent userID with
      | nil =>
          simp only [List.length_nil]
          omega
      | cons instant rest =>
          rw [spent] at last
          cases last
  | some quota =>
      have few := (inv.within userID).length_le (by decide) (inv.spent_sorted userID)
        (fun instant member => by
          obtain ⟨answer, logged, rfl⟩ := List.mem_map.mp member
          exact since.2 answer (List.mem_of_mem_filter logged)) last
      have used := (inv.within userID).used_le last
      have opened := inv.spent_past (openedAt_mem last)
      have later : (quota.openedAt - began) / 60000 ≤ (state.clock - began) / 60000 :=
        Int.ediv_le_ediv (by decide) (Int.sub_le_sub_right opened _)
      omega

end AdmissionState

namespace Fleet

variable {webhook : String} {partitions : Nat → Nat → Option Json} {fleet next : Fleet}

/-- The account is in order, and no instance owes more than was admitted. -/
structure Inv (began : Millis) (fleet : Fleet) : Prop where
  admission : fleet.admission.Inv
  since : fleet.admission.Since began
  covered : ∀ watch : Watch,
    total (fun reader => reader.state.owed watch) fleet.instances ≤ fleet.admission.admitted watch

/-- At the start no service has admitted or told anything. -/
theorem inv_start {redis : AlertRedis} (fresh : redis.Fresh) (clock : Millis) :
    (start redis clock).Inv clock where
  admission := AdmissionState.inv_start fresh
  since := ⟨Int.le_refl _, nofun⟩
  covered _ := Nat.le_refl _

/-- Every step of a service keeps the fleet's invariant. -/
theorem Inv.step {began : Millis} (inv : fleet.Inv began) {label : FleetLabel}
    (step : fleet.step webhook partitions label = some next) : next.Inv began := by
  cases label with
  | join partition offset =>
      obtain rfl := Option.some.inj step
      refine ⟨inv.admission, inv.since, fun watch => ?_⟩
      rw [total_append_singleton]
      exact inv.covered watch
  | advance index label =>
      obtain ⟨reader, found, moves⟩ := Option.bind_eq_some_iff.mp step
      unfold Fleet.advance at moves
      dsimp only at moves
      split at moves
      · rename_i state admission advanced asked
        obtain rfl := Option.some.inj moves
        refine ⟨?_, inv.since.asked asked, fun watch => ?_⟩
        · exact inv.admission.asked asked
        · have owed := AlertState.owed_step watch advanced
          change state.owed watch ≤ reader.state.owed watch + AlertState.allows watch
            fleet.admission.redis _ at owed
          have counted := (AdmissionState.asked_ok watch asked).2.2
          have covered := inv.covered watch
          have exchanged :
              total (fun reader => reader.state.owed watch)
                  (fleet.instances.set index { reader with state }) + reader.state.owed watch =
                total (fun reader => reader.state.owed watch) fleet.instances +
                  state.owed watch := total_set_add { reader with state } found
          change total (fun reader => reader.state.owed watch)
            (fleet.instances.set index { reader with state }) ≤ admission.admitted watch
          rw [counted]
          omega
      · cases moves

/-- What is told was admitted, each time by an admission of its own. Those of one decision
are ten minutes apart, and of those on one user five at most fall into the lifetime of a
counter, which is a minute. The totals are over the whole time since the start. -/
structure Restrained (began : Millis) (fleet : Fleet) : Prop where
  admitted : ∀ watch : Watch, fleet.told watch ≤ fleet.admission.admitted watch
  once : ∀ alertID, fleet.admission.admitted (.alert alertID) =
      (fleet.admission.marks alertID).length ∧
    (fleet.admission.marks alertID).Pairwise fun newer older => older + 600000 ≤ newer
  fivePerCounter : ∀ userID, fleet.admission.admitted (.user userID) =
      (fleet.admission.spent userID).length ∧
    ∀ expiry, fleet.admission.perLifetime userID expiry ≤ 5
  perAlert : ∀ alertID,
    (fleet.told (.alert alertID) : Int) ≤ (fleet.admission.clock - began) / 600000 + 1
  perUser : ∀ userID,
    (fleet.told (.user userID) : Int) ≤ 5 * ((fleet.admission.clock - began) / 60000 + 1)

/-- No more is told than was admitted. -/
theorem Inv.told_le {began : Millis} (inv : fleet.Inv began) (watch : Watch) :
    fleet.told watch ≤ fleet.admission.admitted watch := by
  refine le_trans ?_ (inv.covered watch)
  exact total_le_total fun reader => Nat.le_add_right _ _

/-- So the fleet tells with restraint. -/
theorem Inv.restrained {began : Millis} (inv : fleet.Inv began) : fleet.Restrained began where
  admitted := inv.told_le
  once alertID := ⟨AdmissionState.admitted_alert alertID, inv.admission.apart alertID⟩
  fivePerCounter userID :=
    ⟨AdmissionState.admitted_user userID, inv.admission.accounted.perLifetime userID⟩
  perAlert alertID := by
    have told := inv.told_le (.alert alertID)
    rw [AdmissionState.admitted_alert] at told
    exact (Int.ofNat_le.mpr told).trans (inv.admission.marks_le inv.since alertID)
  perUser userID := by
    have told := inv.told_le (.user userID)
    rw [AdmissionState.admitted_user] at told
    exact (Int.ofNat_le.mpr told).trans (inv.admission.spent_le inv.since userID)

/-- Redis is what the instances make of it: no step changes it but by its call. -/
theorem redis_agrees {index : Nat} {reader : Instance} {label : AlertLabel}
    (found : fleet.instances[index]? = some reader)
    (moves : fleet.advance webhook partitions index reader label = some next) :
    ∃ after, next.instances[index]? = some after ∧
      after.state.redis = next.admission.redis := by
  unfold Fleet.advance at moves
  dsimp only at moves
  split at moves
  · rename_i state admission advanced asked
    obtain rfl := Option.some.inj moves
    refine ⟨_, List.getElem?_set_self (List.getElem?_eq_some_iff.mp found).1, ?_⟩
    rw [AlertState.redis_step advanced, (AdmissionState.asked_ok (.alert "") asked).1]
  · cases moves

end Fleet

/-- However many instances there are, and whatever is fetched again after a crash, a failed
commit or an error of Redis: a decision is told no more often than it was admitted, which it
is once in ten minutes, and a user's decisions are admitted five times a counter's minute. -/
theorem restrained_of_run (webhook : String) (partitions : Nat → Nat → Option Json)
    (redis : AlertRedis) (fresh : redis.Fresh) (clock : Millis) (labels : List FleetLabel) :
    (fleetMachine webhook partitions).Along (Fleet.Restrained clock) (.start redis clock)
      labels := by
  have preserved : ∀ {fleet next : Fleet} {label : FleetLabel}, fleet.Inv clock →
      (fleetMachine webhook partitions).step fleet label = some next → next.Inv clock :=
    fun inv step => inv.step step
  have along := Machine.along_of_preserved (fun inv step => preserved inv step)
    (Fleet.inv_start fresh clock) labels
  exact along.mono fun fleet inv => inv.restrained

/-- A second instance fetches what the first has in hand. -/
def fetchedTwice : List FleetLabel :=
  [.join 0 0, .join 0 0, .advance 0 .fetch, .advance 1 .fetch,
    .advance 0 (.allowAlert 0 .answered), .advance 1 (.allowAlert 1000 .answered),
    .advance 0 (.dispatch (.prepare .ready) 0), .advance 0 (.dispatch (.request (.status 200)) 0)]

/-- A message that is fetched twice is told once. -/
theorem restrained_fetchedTwice :
    (fleetMachine "https://hooks.example.com" fun _ => decisions).Along (Fleet.Restrained 0)
      (.start .empty 0) fetchedTwice :=
  restrained_of_run "https://hooks.example.com" (fun _ => decisions) .empty
    ⟨fun _ => rfl, fun _ => rfl⟩ 0 fetchedTwice

/-- The decision is told by one of the two. -/
example : ((fleetMachine "https://hooks.example.com" fun _ => decisions).exec (.start .empty 0)
    fetchedTwice).map (Fleet.told (.alert "0")) = some 1 := by
  decide +kernel

end Sentinel.Alert
