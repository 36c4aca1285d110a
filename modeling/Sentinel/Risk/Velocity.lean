import Mathlib.Data.List.Count
import Sentinel.Risk.FeatureStore

/-!
# Velocity counters and whose they are

Two writers increment the counters, the consumer of auth events and
`update_velocity`, and `extract` reads them for a request. An `Attempt` is what
either writer counts; `attemptsBy` counts attempts over a history of calls.
-/

namespace Sentinel.Risk

open Sentinel.Wire Sentinel.Redis

/-- `str` of a Python value, as an f-string and a Redis argument spell it. -/
structure PythonText where
  text : Json → String
  text_str : ∀ value, text (.str value) = value

/-- The counters that `update_velocity` increments in one window. -/
def actorIncrements (ip userID : String) (window : Nat) : List StoreCommand :=
  (if ip ≠ "" then [.incrementVelocity ip "login_attempts" window] else []) ++
    if userID ≠ "" then [.incrementVelocity userID "login_attempts" window] else []

/-- `update_velocity` -/
def updateVelocity (request : ScoreRequest) : List StoreCommand :=
  let userID := request.userID.getD ""
  let ip := request.ipAddress
  let fingerprint := request.device.fingerprint
  let country := request.geo.countryCode
  let devices : List StoreCommand :=
    if fingerprint ≠ "" then [.addUnique userID "devices" fingerprint 86400] else []
  let countries : List StoreCommand :=
    if country ≠ "" then [.addUnique userID "countries" country 604800] else []
  let ips : List StoreCommand :=
    if ip ≠ "" then [.addUnique userID "ips" ip 3600, .addUnique userID "ips" ip 86400] else []
  [60, 300, 900, 3600].flatMap (actorIncrements ip userID) ++
    if userID ≠ "" then devices ++ countries ++ ips else []

/-- `request.user_id or request.ip_address` -/
def ScoreRequest.actor (request : ScoreRequest) : String :=
  if request.userID.getD "" ≠ "" then request.userID.getD "" else request.ipAddress

/-- The counters that `extract` reads. -/
def extractReads (request : ScoreRequest) : List StoreCommand :=
  ["login_attempts", "login_failures"].flatMap (fun metric =>
    [60, 300, 900, 3600].map fun window => .getVelocity request.ipAddress metric window) ++
  [.getUniqueCount request.actor "ips" 3600, .getUniqueCount request.actor "ips" 86400,
    .getUniqueCount request.actor "devices" 86400, .getUniqueCount request.actor "countries" 604800]

/-- `float` of a count -/
def PyFloat.ofCount (count : Nat) : PyFloat := .finite count

/-- `extract` up to the end of its `gather`. -/
def extractVelocity (store : FeatureStore) (now : Int) (request : ScoreRequest) : Features :=
  let velocity metric window :=
    PyFloat.ofCount (store.getVelocity now request.ipAddress metric window)
  let unique dimension window :=
    PyFloat.ofCount (store.getUniqueCount now request.actor dimension window)
  { vLoginAttempts1m := velocity "login_attempts" 60
    vLoginAttempts5m := velocity "login_attempts" 300
    vLoginAttempts15m := velocity "login_attempts" 900
    vLoginAttempts1h := velocity "login_attempts" 3600
    vLoginFailures1m := velocity "login_failures" 60
    vLoginFailures5m := velocity "login_failures" 300
    vLoginFailures15m := velocity "login_failures" 900
    vLoginFailures1h := velocity "login_failures" 3600
    vUniqueIps1h := unique "ips" 3600
    vUniqueIps24h := unique "ips" 86400
    vUniqueDevices24h := unique "devices" 86400
    vNewCountries7d := unique "countries" 604800 }

/-- A call of the store's users, about one event or request. -/
inductive StoreCall where
  /-- `_process_event` -/
  | processEvent (event : Json)
  /-- `extract` -/
  | extract (request : ScoreRequest)
  /-- `update_velocity` -/
  | updateVelocity (request : ScoreRequest)

/-- The client of Redis refuses a member that is no text and no number. -/
def FeatureUpdate.commands (python : PythonText) : FeatureUpdate → List StoreCommand
  | .incrementVelocity key metric window => [.incrementVelocity (python.text key) metric window]
  | .addUnique key dimension value window =>
      match value with
      | .str _ | .num _ | .time _ =>
          [.addUnique (python.text key) dimension (python.text value) window]
      | _ => []

def StoreCall.commands (python : PythonText) : StoreCall → List StoreCommand
  | .processEvent event => ((Risk.processEvent event).getD []).flatMap (FeatureUpdate.commands python)
  | .extract request => extractReads request
  | .updateVelocity request => Risk.updateVelocity request

/-- A login attempt: who made it, from where, and whether it failed. -/
structure Attempt where
  userID : Option String
  ipAddress : Option String
  failed : Bool
deriving DecidableEq

/-- The counters that an attempt belongs to. -/
def Attempt.metrics (attempt : Attempt) : List String :=
  "login_attempts" :: if attempt.failed then ["login_failures"] else []

/-- A value that Python takes for true, as a text. -/
def PythonText.known (python : PythonText) (value : Json) : Option String :=
  if value.truthy then some (python.text value) else none

/-- Address, user and outcome, as `_process_event` finds them in an event. -/
def eventFacts (event : Json) : Option (Json × Json × Bool) := do
  let ip ← (← event.get "ip_address" (.str "")).orElse
    ((event.get "source" (.obj [])).bind (·.get "ip_address" (.str "")))
  let subject ← event.get "subject" (.obj [])
  let userID ← (← event.get "user_id" .null).orElse (subject.get "user_id" .null)
  let isFailure ← (← event.get "event_type" .null).isText "auth.user.login_failed"
  return (ip, userID, isFailure)

/-- A text that Python takes for true. -/
def nonempty (text : String) : Option String := if text ≠ "" then some text else none

/-- The attempt that a call counts. An event whose processing raises counts as none. -/
def StoreCall.attempt (python : PythonText) : StoreCall → Option Attempt
  | .processEvent event =>
      if (Risk.processEvent event).isSome then
        (eventFacts event).map fun (ip, userID, isFailure) =>
          ⟨python.known userID, python.known ip, isFailure⟩
      else none
  | .extract _ => none
  | .updateVelocity request =>
      some ⟨nonempty (request.userID.getD ""), nonempty request.ipAddress, false⟩

/-- The increments of one window for an attempt. -/
def Attempt.commands (attempt : Attempt) (window : Nat) : List StoreCommand :=
  (attempt.ipAddress.toList ++ attempt.userID.toList).flatMap fun key =>
    attempt.metrics.map fun metric => .incrementVelocity key metric window

/-- How often an attempt increments a counter of a key. -/
def Attempt.hits (attempt : Attempt) (key metric : String) : Nat :=
  if metric ∈ attempt.metrics then
    (if attempt.ipAddress = some key then 1 else 0) + if attempt.userID = some key then 1 else 0
  else 0

variable {python : PythonText} {key metric : String} {window : Nat}

/-- The counters that one event moves in a window. -/
theorem velocityUpdates_commands (ip userID : Json) (isFailure : Bool) (window : Nat) :
    (velocityUpdates ip userID isFailure window).flatMap (FeatureUpdate.commands python) =
      Attempt.commands ⟨python.known userID, python.known ip, isFailure⟩ window := by
  unfold velocityUpdates Attempt.commands Attempt.metrics PythonText.known
  cases ip.truthy <;> cases userID.truthy <;> cases isFailure <;> rfl

/-- What an event's processing starts: the increments of its attempt, and then
updates of other kinds. -/
theorem processEvent_updates {event : Json} {updates : List FeatureUpdate}
    (processed : processEvent event = some updates) :
    ∃ ip userID isFailure others, eventFacts event = some (ip, userID, isFailure) ∧
      updates = [60, 300, 900, 3600].flatMap (velocityUpdates ip userID isFailure) ++ others ∧
      ∀ update ∈ others, ∃ key dimension value window,
        update = .addUnique key dimension value window := by
  unfold processEvent at processed
  obtain ⟨flat, flatFound, processed⟩ := Option.bind_eq_some_iff.mp processed
  obtain ⟨ip, ipFound, processed⟩ := Option.bind_eq_some_iff.mp processed
  obtain ⟨subject, subjectFound, processed⟩ := Option.bind_eq_some_iff.mp processed
  obtain ⟨named, namedFound, processed⟩ := Option.bind_eq_some_iff.mp processed
  obtain ⟨userID, userFound, processed⟩ := Option.bind_eq_some_iff.mp processed
  obtain ⟨source, _, processed⟩ := Option.bind_eq_some_iff.mp processed
  obtain ⟨device, _, processed⟩ := Option.bind_eq_some_iff.mp processed
  obtain ⟨fingerprint, _, processed⟩ := Option.bind_eq_some_iff.mp processed
  obtain ⟨data, _, processed⟩ := Option.bind_eq_some_iff.mp processed
  obtain ⟨geo, _, processed⟩ := Option.bind_eq_some_iff.mp processed
  obtain ⟨place, _, processed⟩ := Option.bind_eq_some_iff.mp processed
  obtain ⟨code, _, processed⟩ := Option.bind_eq_some_iff.mp processed
  obtain ⟨country, _, processed⟩ := Option.bind_eq_some_iff.mp processed
  obtain ⟨kind, kindFound, processed⟩ := Option.bind_eq_some_iff.mp processed
  obtain ⟨isFailure, failureFound, processed⟩ := Option.bind_eq_some_iff.mp processed
  have facts : eventFacts event = some (ip, userID, isFailure) := by
    simp [eventFacts, flatFound, ipFound, subjectFound, namedFound, userFound, kindFound,
      failureFound]
  split at processed
  · rename_i unknown
    obtain ⟨noAddress, noUser⟩ : ip.truthy = false ∧ userID.truthy = false := by
      simpa using unknown
    obtain rfl := Option.some.inj processed
    refine ⟨ip, userID, isFailure, [], facts, ?_, nofun⟩
    simp [velocityUpdates, noAddress, noUser]
  · obtain rfl := Option.some.inj processed
    refine ⟨ip, userID, isFailure, _, facts, rfl, ?_⟩
    intro update member
    simp only [List.mem_ite_nil_right, List.mem_append, List.mem_cons, List.not_mem_nil,
      or_false] at member
    rcases member with ⟨_, (⟨_, rfl | rfl⟩ | ⟨_, rfl⟩) | ⟨_, rfl⟩⟩ <;> exact ⟨_, _, _, _, rfl⟩

/-- A command that neither increments nor reads a velocity counter. -/
def StoreCommand.Unrelated (command : StoreCommand) : Prop :=
  ∃ key dimension value window, command = .addUnique key dimension value window

/-- A call that writes issues the increments of its attempt. -/
theorem commands_of_attempt {call : StoreCall} {attempt : Attempt}
    (counted : call.attempt python = some attempt) :
    ∃ others, call.commands python = [60, 300, 900, 3600].flatMap attempt.commands ++ others ∧
      ∀ command ∈ others, command.Unrelated := by
  cases call with
  | processEvent event =>
      obtain ⟨succeeds, facts⟩ := Option.ite_none_right_eq_some.mp counted
      obtain ⟨updates, processed⟩ := Option.isSome_iff_exists.mp succeeds
      obtain ⟨ip, userID, isFailure, others, found, shape, unique⟩ :=
        processEvent_updates processed
      rw [found, Option.map_some, Option.some.injEq] at facts
      subst facts
      refine ⟨others.flatMap (FeatureUpdate.commands python), ?_, ?_⟩
      · simp only [StoreCall.commands, processed, Option.getD_some, shape, List.flatMap_append,
          List.flatMap_assoc, velocityUpdates_commands]
      · intro command member
        obtain ⟨update, known, issued⟩ := List.mem_flatMap.mp member
        obtain ⟨key, dimension, value, window, rfl⟩ := unique update known
        simp only [FeatureUpdate.commands] at issued
        split at issued
        · exact ⟨_, _, _, _, List.mem_singleton.mp issued⟩
        · exact ⟨_, _, _, _, List.mem_singleton.mp issued⟩
        · exact ⟨_, _, _, _, List.mem_singleton.mp issued⟩
        · cases issued
  | extract request => cases counted
  | updateVelocity request =>
      obtain rfl := Option.some.inj counted
      refine ⟨_, congrArg (· ++ _) (List.flatMap_congr fun window _ => ?_), ?_⟩
      · unfold actorIncrements Attempt.commands Attempt.metrics nonempty
        by_cases noAddress : request.ipAddress = "" <;>
          by_cases noUser : request.userID.getD "" = "" <;> simp [noAddress, noUser]
      · intro command member
        simp only [List.mem_ite_nil_right, List.mem_append, List.mem_cons, List.not_mem_nil,
          or_false] at member
        rcases member with ⟨_, (⟨_, rfl⟩ | ⟨_, rfl⟩) | ⟨_, rfl | rfl⟩⟩ <;> exact ⟨_, _, _, _, rfl⟩

/-- A call that counts no attempt only reads, or does nothing. -/
theorem commands_of_no_attempt {call : StoreCall} (uncounted : call.attempt python = none) :
    (∃ request, call = .extract request) ∨ call.commands python = [] := by
  cases call with
  | processEvent event =>
      right
      cases processed : processEvent event with
      | none => simp [StoreCall.commands, processed]
      | some updates =>
          obtain ⟨ip, userID, isFailure, others, found, _⟩ := processEvent_updates processed
          simp [StoreCall.attempt, processed, found] at uncounted
  | extract request => exact .inl ⟨request, rfl⟩
  | updateVelocity request => cases uncounted

/-- No metric's name has a colon. -/
theorem metrics_plain (attempt : Attempt) : ∀ metric ∈ attempt.metrics, ':' ∉ metric.toList := by
  unfold Attempt.metrics
  cases attempt.failed <;> decide

/-- How often an attempt moves one counter of one name. -/
theorem count_metrics (attempt : Attempt) (other : String) (span : Nat) :
    (attempt.metrics.map fun metric => StoreCommand.incrementVelocity other metric span).count
        (.incrementVelocity key metric window) =
      if other = key ∧ span = window ∧ metric ∈ attempt.metrics then 1 else 0 := by
  have nodup : attempt.metrics.Nodup := by
    unfold Attempt.metrics
    cases attempt.failed <;> decide
  by_cases same : other = key ∧ span = window
  · obtain ⟨rfl, rfl⟩ := same
    have injective : Function.Injective fun metric =>
        StoreCommand.incrementVelocity other metric span := by
      intro first second equal
      exact (StoreCommand.incrementVelocity.inj equal).2.1
    have counted := List.count_map_of_injective attempt.metrics _ injective metric
    rw [counted, nodup.count]
    simp
  · rw [if_neg fun held => same ⟨held.1, held.2.1⟩, List.count_eq_zero]
    intro member
    obtain ⟨metric, _, equal⟩ := List.mem_map.mp member
    cases equal
    exact same ⟨rfl, rfl⟩

theorem count_attempt (attempt : Attempt) (span : Nat) :
    (attempt.commands span).count (.incrementVelocity key metric window) =
      if span = window then attempt.hits key metric else 0 := by
  have single : ∀ known : Option String,
      (known.toList.flatMap fun key => attempt.metrics.map fun metric =>
        StoreCommand.incrementVelocity key metric span).count
          (.incrementVelocity key metric window) =
      if known = some key ∧ span = window ∧ metric ∈ attempt.metrics then 1 else 0 := by
    intro known
    cases known with
    | none => simp
    | some other => simp [count_metrics]
  rw [Attempt.commands, List.flatMap_append, List.count_append, single, single, Attempt.hits]
  by_cases same : span = window <;> by_cases counted : metric ∈ attempt.metrics <;>
    simp [same, counted]

/-- A call increments each counter as often as its attempt hits it. -/
theorem count_commands (call : StoreCall) (read : window ∈ [60, 300, 900, 3600]) :
    (call.commands python).count (.incrementVelocity key metric window) =
      ((call.attempt python).map fun attempt => attempt.hits key metric).getD 0 := by
  cases counted : call.attempt python with
  | none =>
      refine List.count_eq_zero.mpr fun issued => ?_
      rcases commands_of_no_attempt counted with ⟨request, rfl⟩ | nothing
      · simp [StoreCall.commands, extractReads] at issued
      · simp [nothing] at issued
  | some attempt =>
      obtain ⟨others, shape, unrelated⟩ := commands_of_attempt counted
      have rest : others.count (.incrementVelocity key metric window) = 0 := by
        refine List.count_eq_zero.mpr fun member => ?_
        obtain ⟨_, _, _, _, equal⟩ := unrelated _ member
        cases equal
      rw [shape, List.count_append, rest, Option.map_some, Option.getD_some]
      simp only [List.flatMap_cons, List.flatMap_nil, List.count_append, List.count_nil,
        count_attempt]
      simp only [List.mem_cons, List.not_mem_nil, or_false] at read
      rcases read with rfl | rfl | rfl | rfl <;> simp

/-- Every command that is sent has a plain metric. -/
theorem commands_plain (call : StoreCall) :
    ∀ command ∈ call.commands python, command.Plain := by
  intro command issued
  cases counted : call.attempt python with
  | some attempt =>
      obtain ⟨others, shape, unrelated⟩ := commands_of_attempt counted
      rw [shape] at issued
      rcases List.mem_append.mp issued with increments | rest
      · obtain ⟨span, _, one⟩ := List.mem_flatMap.mp increments
        obtain ⟨key, _, listed⟩ := List.mem_flatMap.mp one
        obtain ⟨metric, named, rfl⟩ := List.mem_map.mp listed
        exact metrics_plain attempt metric named
      · obtain ⟨_, _, _, _, rfl⟩ := unrelated command rest
        trivial
  | none =>
      rcases commands_of_no_attempt counted with ⟨request, rfl⟩ | nothing
      · revert command
        simp [StoreCall.commands, extractReads, StoreCommand.Plain]
      · simp [nothing] at issued

def velocityMetrics : List String := ["login_attempts", "login_failures"]

def velocityWindows : List Nat := [60, 300, 900, 3600]

/-- The store after a call at `now`. -/
def StoreCall.apply (python : PythonText) (now : Int) (call : StoreCall) (store : FeatureStore) :
    FeatureStore :=
  (call.commands python).foldl (fun store command => store.execute now command) store

/-- The metrics that are read are plain. -/
theorem velocityMetrics_plain : ∀ metric ∈ velocityMetrics, ':' ∉ metric.toList := by decide

/-- The windows that are read are positive. -/
theorem velocityWindows_pos : ∀ window ∈ velocityWindows, 0 < window := by decide

/-- Commands that do not touch a counter leave its sorted set alone. -/
theorem sortedSets_foldl {commands : List StoreCommand} {now : Int} (plain : ':' ∉ metric.toList)
    (allPlain : ∀ command ∈ commands, command.Plain)
    (untouched : ∀ command ∈ commands, command ≠ .incrementVelocity key metric window ∧
      command ≠ .getVelocity key metric window) (store : FeatureStore) :
    (commands.foldl (fun store command => store.execute now command) store).sortedSets
        (velocityKey key metric window) = store.sortedSets (velocityKey key metric window) := by
  induction commands generalizing store with
  | nil => rfl
  | cons command rest ih =>
      have others := ih (fun command member => allPlain command (List.mem_cons_of_mem _ member))
        fun command member => untouched command (List.mem_cons_of_mem _ member)
      have first := untouched command List.mem_cons_self
      rw [List.foldl_cons, others, execute_sortedSets_of_ne plain
        (allPlain command List.mem_cons_self) first.1 first.2]

/-- Commands that do not read a counter add their increments of it. -/
theorem getVelocity_foldl {commands : List StoreCommand} {now : Int} (positive : 0 < window)
    (plain : ':' ∉ metric.toList) (allPlain : ∀ command ∈ commands, command.Plain)
    (unread : .getVelocity key metric window ∉ commands) (store : FeatureStore) :
    (commands.foldl (fun store command => store.execute now command) store).getVelocity now
        key metric window = store.getVelocity now key metric window +
      commands.count (.incrementVelocity key metric window) := by
  induction commands generalizing store with
  | nil => rfl
  | cons command rest ih =>
      have others := ih (fun command member => allPlain command (List.mem_cons_of_mem _ member))
        fun member => unread (List.mem_cons_of_mem _ member)
      have notRead : command ≠ .getVelocity key metric window := by
        rintro rfl
        exact unread List.mem_cons_self
      rw [List.foldl_cons, others, getVelocity_execute positive plain
        (allPlain command List.mem_cons_self) notRead, List.count_cons]
      simp only [beq_iff_eq]
      omega

/-- Every counter that `extract` reads for an address counts what it counted
before, whenever it is read. -/
def CountersUnchanged (address : String) (before after : FeatureStore) : Prop :=
  ∀ metric ∈ velocityMetrics, ∀ window ∈ velocityWindows, ∀ later,
    after.getVelocity later address metric window = before.getVelocity later address metric window

/-- A call about another address leaves an address's counters alone exactly when
its user is not named like the address. -/
theorem countersUnchanged_iff (python : PythonText) (store : FeatureStore) (now : Int)
    (call : StoreCall) (address : String) (writes : ∀ request, call ≠ .extract request)
    (elsewhere : ∀ attempt, call.attempt python = some attempt →
      attempt.ipAddress ≠ some address) :
    CountersUnchanged address store (call.apply python now store) ↔
      ∀ attempt, call.attempt python = some attempt → attempt.userID ≠ some address := by
  have unread : ∀ metric window, .getVelocity address metric window ∉ call.commands python := by
    intro metric window issued
    cases counted : call.attempt python with
    | none =>
        rcases commands_of_no_attempt counted with ⟨request, equal⟩ | nothing
        · exact writes request equal
        · simp [nothing] at issued
    | some attempt =>
        obtain ⟨others, shape, unrelated⟩ := commands_of_attempt counted
        rw [shape] at issued
        rcases List.mem_append.mp issued with increments | rest
        · simp [Attempt.commands] at increments
        · obtain ⟨_, _, _, _, equal⟩ := unrelated _ rest
          cases equal
  constructor
  · rintro unchanged attempt counted itself
    have hit : attempt.hits address "login_attempts" = 1 := by
      simp [Attempt.hits, Attempt.metrics, elsewhere attempt counted, itself]
    have one : (call.commands python).count
        (.incrementVelocity address "login_attempts" 60) = 1 := by
      rw [count_commands call (by decide), counted, Option.map_some, Option.getD_some, hit]
    have same := unchanged "login_attempts" (by decide) 60 (by decide) now
    rw [StoreCall.apply, getVelocity_foldl (by decide) (by decide) (commands_plain call)
      (unread _ _), one] at same
    omega
  · intro other metric named window read later
    have none : (call.commands python).count (.incrementVelocity address metric window) = 0 := by
      rw [count_commands call read]
      cases counted : call.attempt python with
      | none => rfl
      | some attempt =>
          simp [Attempt.hits, elsewhere attempt counted, other attempt counted]
    have untouched : ∀ command ∈ call.commands python,
        command ≠ .incrementVelocity address metric window ∧
          command ≠ .getVelocity address metric window := by
      intro command issued
      refine ⟨?_, ?_⟩
      · rintro rfl
        exact List.count_eq_zero.mp none issued
      · rintro rfl
        exact unread _ _ issued
    rw [FeatureStore.getVelocity, StoreCall.apply,
      sortedSets_foldl (velocityMetrics_plain metric named) (commands_plain call) untouched,
      FeatureStore.getVelocity]

/-- Strings spell themselves; the rest plays no part below. -/
def plainPython : PythonText where
  text
    | .str value => value
    | _ => ""
  text_str _ := rfl

def failedFrom (userID ip : String) : Json :=
  .obj [("event_type", .str "auth.user.login_failed"), ("user_id", .str userID),
    ("ip_address", .str ip)]

def scoringFrom (userID : Option String) (ip : String) : ScoreRequest where
  eventID := "e1"
  eventType := "auth.user.login"
  userID
  requestID := "r1"
  ipAddress := ip

/-- A request whose user is named like an address that it does not come from. -/
def namesake : StoreCall := .updateVelocity (scoringFrom (some "198.51.100.1") "203.0.113.9")

/-- A request leaves the counters of an uninvolved address alone. -/
theorem countersUnchanged_ofThird :
    CountersUnchanged "192.0.2.5" .empty (namesake.apply plainPython 0 .empty) := by
  refine (countersUnchanged_iff plainPython .empty 0 namesake "192.0.2.5" (by simp [namesake])
    ?_).mpr ?_
  · rintro attempt ⟨⟩
    decide
  · rintro attempt ⟨⟩
    decide

/-- A user who is named like an address moves that address's counters. -/
theorem countersUnchanged_fails :
    ¬ ∀ (python : PythonText) (store : FeatureStore) (now : Int) (call : StoreCall)
      (address : String), (∀ request, call ≠ .extract request) →
      (∀ attempt, call.attempt python = some attempt → attempt.ipAddress ≠ some address) →
        CountersUnchanged address store (call.apply python now store) := by
  intro always
  have unchanged := always plainPython .empty 0 namesake "198.51.100.1" (by simp [namesake])
    (by rintro attempt ⟨⟩; decide) "login_attempts" (by decide) 60 (by decide) 0
  exact absurd unchanged (by decide +kernel)

/-- The commands of a history of calls, each at its call's instant. -/
def commandHistory (python : PythonText) (calls : List (Int × StoreCall)) :
    List (Int × StoreCommand) :=
  calls.flatMap fun entry => (entry.2.commands python).map (Prod.mk entry.1)

/-- How many attempts of one kind fall into a window that ends at `now`. -/
def attemptsBy (python : PythonText) (calls : List (Int × StoreCall)) (now : Int)
    (kind : Attempt → Bool) (metric : String) (window : Nat) : Nat :=
  calls.countP fun entry => now - seconds window < entry.1 &&
    (entry.2.attempt python).any fun attempt => metric ∈ attempt.metrics && kind attempt

/-- Of commands sent in one moment all are recent or none. -/
theorem recent_increments (commands : List StoreCommand) (now instant : Int) :
    (recent (seconds window) now (increments key metric window
        (commands.map (Prod.mk instant)))).length =
      if now - seconds window < instant then
        commands.count (.incrementVelocity key metric window) else 0 := by
  induction commands with
  | nil => simp [increments, recent]
  | cons command rest ih =>
      rw [List.map_cons, ← List.singleton_append, increments_append, recent_append,
        List.length_append, ih, List.count_cons]
      by_cases increment : command = .incrementVelocity key metric window <;>
        by_cases held : now - seconds window < instant <;>
          simp [increments, recent, increment, held, Nat.add_comm]

/-- A counter holds the attempts from its key as an address and those by its key
as a user. -/
theorem recent_commandHistory (calls : List (Int × StoreCall)) (now : Int)
    (read : window ∈ velocityWindows) :
    (recent (seconds window) now
        (increments key metric window (commandHistory python calls))).length =
      attemptsBy python calls now (·.ipAddress = some key) metric window +
        attemptsBy python calls now (·.userID = some key) metric window := by
  induction calls with
  | nil => rfl
  | cons entry rest ih =>
      simp only [commandHistory, List.flatMap_cons, attemptsBy, List.countP_cons] at ih ⊢
      rw [increments_append, recent_append, List.length_append, ih, recent_increments,
        count_commands entry.2 read]
      by_cases held : now - seconds window < entry.1
      · cases counted : entry.2.attempt python with
        | none => simp [held]
        | some attempt =>
            by_cases named : metric ∈ attempt.metrics <;>
              simp [held, named, Attempt.hits]
            all_goals omega
      · simp [held]

/-- A counter shows the attempts of its key within the window. -/
theorem getVelocity_commandHistory {calls : List (Int × StoreCall)} {now : Int}
    (chronological : Chronological now calls) (named : metric ∈ velocityMetrics)
    (read : window ∈ velocityWindows) :
    (FeatureStore.run (commandHistory python calls)).getVelocity now key metric window =
      attemptsBy python calls now (·.ipAddress = some key) metric window +
        attemptsBy python calls now (·.userID = some key) metric window := by
  have allPlain : ∀ entry ∈ commandHistory python calls, entry.2.Plain := by
    intro entry member
    obtain ⟨call, _, issued⟩ := List.mem_flatMap.mp member
    obtain ⟨command, listed, rfl⟩ := List.mem_map.mp issued
    exact commands_plain call.2 command listed
  have history : Chronological now (commandHistory python calls) := chronological.flatMap _
  rw [getVelocity_run history (velocityMetrics_plain metric named) allPlain
    (velocityWindows_pos window read)]
  exact recent_commandHistory calls now read

/-- The attempts of the request's user or, without one, from its address. -/
def ScoreRequest.owns (request : ScoreRequest) (attempt : Attempt) : Bool :=
  match nonempty (request.userID.getD "") with
  | some userID => attempt.userID = some userID
  | none => attempt.ipAddress = some request.ipAddress

/-- The velocity features are the counts of the actor's own attempts. -/
def ReportsActor (features : Features) (own : String → Nat → Nat) : Prop :=
  features.vLoginAttempts1m = .ofCount (own "login_attempts" 60) ∧
  features.vLoginAttempts5m = .ofCount (own "login_attempts" 300) ∧
  features.vLoginAttempts15m = .ofCount (own "login_attempts" 900) ∧
  features.vLoginAttempts1h = .ofCount (own "login_attempts" 3600) ∧
  features.vLoginFailures1m = .ofCount (own "login_failures" 60) ∧
  features.vLoginFailures5m = .ofCount (own "login_failures" 300) ∧
  features.vLoginFailures15m = .ofCount (own "login_failures" 900) ∧
  features.vLoginFailures1h = .ofCount (own "login_failures" 3600)

/-- Different counts are different floats. -/
theorem PyFloat.ofCount_inj {count other : Nat} : PyFloat.ofCount count = .ofCount other ↔
    count = other := by
  simp [PyFloat.ofCount]

/-- The vector reports the actor when the address's counters do. -/
theorem reportsActor_extractVelocity (store : FeatureStore) (now : Int) (request : ScoreRequest)
    (own : String → Nat → Nat) :
    ReportsActor (extractVelocity store now request) own ↔
      ∀ metric ∈ velocityMetrics, ∀ window ∈ velocityWindows,
        store.getVelocity now request.ipAddress metric window = own metric window := by
  simp [ReportsActor, extractVelocity, PyFloat.ofCount_inj, velocityMetrics, velocityWindows,
    and_assoc]

/-- Attempts of one kind are those of another kind too, and the rest. -/
theorem attemptsBy_split (python : PythonText) (calls : List (Int × StoreCall)) (now : Int)
    (kind other : Attempt → Bool) (metric : String) (window : Nat) :
    attemptsBy python calls now kind metric window =
      attemptsBy python calls now (fun attempt => kind attempt && other attempt) metric window +
        attemptsBy python calls now (fun attempt => kind attempt && !other attempt) metric
          window := by
  induction calls with
  | nil => rfl
  | cons entry rest ih =>
      simp only [attemptsBy, List.countP_cons] at ih ⊢
      rw [ih]
      cases entry.2.attempt python with
      | none => simp
      | some attempt =>
          cases ofKind : kind attempt <;> cases ofOther : other attempt <;>
            simp [ofKind, ofOther]
          all_goals omega

/-- In every window as many attempts that are not the actor's are counted under
the request's address as attempts of the actor are counted elsewhere only. -/
def Balanced (python : PythonText) (calls : List (Int × StoreCall)) (now : Int)
    (request : ScoreRequest) : Prop :=
  ∀ metric ∈ velocityMetrics, ∀ window ∈ velocityWindows,
    attemptsBy python calls now
        (fun attempt => attempt.ipAddress = some request.ipAddress && !request.owns attempt)
        metric window +
      attemptsBy python calls now (·.userID = some request.ipAddress) metric window =
    attemptsBy python calls now
      (fun attempt => !(attempt.ipAddress = some request.ipAddress) && request.owns attempt)
      metric window

/-- That is, when the history has balanced attempts. -/
theorem reportsActor_iff (python : PythonText) (calls : List (Int × StoreCall)) (now : Int)
    (chronological : Chronological now calls) (request : ScoreRequest) :
    ReportsActor
        (extractVelocity (FeatureStore.run (commandHistory python calls)) now request)
        (attemptsBy python calls now request.owns) ↔
      Balanced python calls now request := by
  rw [reportsActor_extractVelocity]
  refine forall_congr' fun metric => forall_congr' fun named => forall_congr' fun window =>
    forall_congr' fun read => ?_
  have here := attemptsBy_split python calls now
    (fun attempt => attempt.ipAddress = some request.ipAddress) request.owns metric window
  have own := attemptsBy_split python calls now request.owns
    (fun attempt => attempt.ipAddress = some request.ipAddress) metric window
  simp only [Bool.and_comm (request.owns _)] at own
  rw [getVelocity_commandHistory chronological named read]
  omega

/-- A user's failures from other addresses than the one that is scored fall into the same
windows as those of other users from that one. -/
def balancedFailures : List (Int × StoreCall) :=
  [(seconds 300, .processEvent (failedFrom "7d444840" "203.0.113.9")),
    (seconds 1500, .processEvent (failedFrom "7d444840" "198.51.100.1")),
    (seconds 2000, .processEvent (failedFrom "9dad1d33" "203.0.113.9")),
    (seconds 3970, .processEvent (failedFrom "a3bb189e" "203.0.113.9")),
    (seconds 3980, .processEvent (failedFrom "7d444840" "192.0.2.5")),
    (seconds 3990, .processEvent (failedFrom "7d444840" "203.0.113.9"))]

theorem chronological_balancedFailures : Chronological (seconds 4000) balancedFailures where
  ordered := by decide
  nonneg := by decide
  past := by decide

/-- Three failures of the hour are the user's, of which two in the last minute. -/
theorem reportsActor_balancedFailures :
    ReportsActor
        (extractVelocity (FeatureStore.run (commandHistory plainPython balancedFailures))
          (seconds 4000) (scoringFrom (some "7d444840") "203.0.113.9"))
        (attemptsBy plainPython balancedFailures (seconds 4000)
          (scoringFrom (some "7d444840") "203.0.113.9").owns) ∧
      [60, 3600].map (attemptsBy plainPython balancedFailures (seconds 4000)
        (scoringFrom (some "7d444840") "203.0.113.9").owns "login_failures") = [2, 3] := by
  constructor
  · refine (reportsActor_iff plainPython balancedFailures (seconds 4000)
      chronological_balancedFailures (scoringFrom (some "7d444840") "203.0.113.9")).mpr ?_
    unfold Balanced
    decide +kernel
  · decide +kernel

/-- A user has failed to log in from one address. -/
def oneFailure : List (Int × StoreCall) :=
  [(1000000000, .processEvent (failedFrom "7d444840" "203.0.113.9"))]

theorem chronological_oneFailure : Chronological 2000000000 oneFailure := by
  constructor <;> simp [oneFailure]

/-- The user scores from another address. -/
theorem reportsActor_fails :
    ¬ ∀ (python : PythonText) (calls : List (Int × StoreCall)) (now : Int),
      Chronological now calls → ∀ request : ScoreRequest,
        ReportsActor (extractVelocity (FeatureStore.run (commandHistory python calls)) now request)
          (attemptsBy python calls now request.owns) := by
  intro always
  have reported := (reportsActor_extractVelocity _ _ _ _).mp
    (always plainPython oneFailure 2000000000 chronological_oneFailure
      (scoringFrom (some "7d444840") "198.51.100.1"))
    "login_attempts" (by decide) 60 (by decide)
  exact absurd reported (by decide +kernel)

end Sentinel.Risk
