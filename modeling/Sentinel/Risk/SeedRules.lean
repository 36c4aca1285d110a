import Sentinel.Risk.Extractor
import Sentinel.Risk.RulesEngine
import Sentinel.Risk.UniqueCount

/-!
# Which seeded rules can fire

The rules that `seed_rules.py` installs, each a conjunction of comparisons. Many
of them compare features that the extractor assigns from a user's history only,
which nothing writes, or never. Such a rule can fire exactly when its comparisons
of these features hold of the defaults.
-/

namespace Sentinel.Risk

open Sentinel.Wire Sentinel.Redis

inductive Operator where
  | gt
  | lt
  | eq
deriving DecidableEq

def Operator.text : Operator → String
  | .gt => ">"
  | .lt => "<"
  | .eq => "=="

/-- A comparison of one feature with a number. -/
structure Comparison where
  feature : String
  operator : Operator
  bound : Nat
deriving DecidableEq

namespace Comparison

def text (comparison : Comparison) : String :=
  comparison.feature ++ " " ++ comparison.operator.text ++ " " ++ toString comparison.bound

/-- Its truth for the values of a feature dictionary. -/
def holds (comparison : Comparison) (values : List (String × PyFloat)) : Bool :=
  (values.lookup comparison.feature).any fun value =>
    match comparison.operator with
    | .gt => value.exceeds comparison.bound
    | .lt => value.lessThan (.finite comparison.bound)
    | .eq => value.equals (.finite comparison.bound)

end Comparison

/-- An entry of `RULES`, with the comparisons that its expression joins. -/
structure SeedRule where
  ruleID : String
  name : String
  expression : String
  scoreContribution : Nat
  action : RuleAction
  comparisons : List Comparison
  expression_eq : expression = " and ".intercalate (comparisons.map Comparison.text) := by decide +kernel

/-- `RULES` -/
def seedRules : List SeedRule :=
  [
    { ruleID := "RULE_001"
      name := "Impossible Travel"
      expression := "geo_distance_from_last_login_km > 500 and hours_since_last_login < 2"
      scoreContribution := 95
      action := .block
      comparisons :=
        [⟨"geo_distance_from_last_login_km", .gt, 500⟩,
          ⟨"hours_since_last_login", .lt, 2⟩] },
    { ruleID := "RULE_002"
      name := "Velocity Breach - Failures"
      expression := "v_login_failures_1m > 5"
      scoreContribution := 80
      action := .block
      comparisons := [⟨"v_login_failures_1m", .gt, 5⟩] },
    { ruleID := "RULE_003"
      name := "TOR Exit Node"
      expression := "ip_is_tor == 1"
      scoreContribution := 75
      action := .challenge
      comparisons := [⟨"ip_is_tor", .eq, 1⟩] },
    { ruleID := "RULE_004"
      name := "New Device and New Country"
      expression := "is_new_device == 1 and is_new_country == 1"
      scoreContribution := 60
      action := .challenge
      comparisons := [⟨"is_new_device", .eq, 1⟩, ⟨"is_new_country", .eq, 1⟩] },
    { ruleID := "RULE_005"
      name := "Off-Hours High Velocity"
      expression := "is_off_hours == 1 and v_login_attempts_1h > 10"
      scoreContribution := 70
      action := .challenge
      comparisons := [⟨"is_off_hours", .eq, 1⟩, ⟨"v_login_attempts_1h", .gt, 10⟩] },
    { ruleID := "RULE_006"
      name := "Brute Force Attack"
      expression := "v_login_failures_5m > 15"
      scoreContribution := 90
      action := .block
      comparisons := [⟨"v_login_failures_5m", .gt, 15⟩] },
    { ruleID := "RULE_007"
      name := "Headless Browser"
      expression := "is_headless_browser == 1"
      scoreContribution := 85
      action := .block
      comparisons := [⟨"is_headless_browser", .eq, 1⟩] },
    { ruleID := "RULE_008"
      name := "Bot User Agent"
      expression := "is_bot_user_agent == 1"
      scoreContribution := 85
      action := .block
      comparisons := [⟨"is_bot_user_agent", .eq, 1⟩] },
    { ruleID := "RULE_009"
      name := "Datacenter IP New Device"
      expression := "ip_is_datacenter == 1 and is_new_device == 1"
      scoreContribution := 55
      action := .challenge
      comparisons := [⟨"ip_is_datacenter", .eq, 1⟩, ⟨"is_new_device", .eq, 1⟩] },
    { ruleID := "RULE_010"
      name := "Repeated Lockouts"
      expression := "locked_count_30d > 3"
      scoreContribution := 65
      action := .review
      comparisons := [⟨"locked_count_30d", .gt, 3⟩] },
    { ruleID := "RULE_011"
      name := "VPN New Country"
      expression := "ip_is_vpn == 1 and is_new_country == 1"
      scoreContribution := 65
      action := .challenge
      comparisons := [⟨"ip_is_vpn", .eq, 1⟩, ⟨"is_new_country", .eq, 1⟩] },
    { ruleID := "RULE_012"
      name := "Multiple IPs One Hour"
      expression := "v_unique_ips_1h > 5"
      scoreContribution := 70
      action := .challenge
      comparisons := [⟨"v_unique_ips_1h", .gt, 5⟩] },
    { ruleID := "RULE_013"
      name := "Excessive Sessions"
      expression := "active_sessions_count > 5"
      scoreContribution := 40
      action := .review
      comparisons := [⟨"active_sessions_count", .gt, 5⟩] },
    { ruleID := "RULE_014"
      name := "Extreme Velocity"
      expression := "v_login_attempts_1m > 10"
      scoreContribution := 90
      action := .block
      comparisons := [⟨"v_login_attempts_1m", .gt, 10⟩] },
    { ruleID := "RULE_015"
      name := "New Device Off Hours"
      expression := "is_new_device == 1 and is_off_hours == 1 and is_new_ip == 1"
      scoreContribution := 65
      action := .challenge
      comparisons :=
        [⟨"is_new_device", .eq, 1⟩, ⟨"is_off_hours", .eq, 1⟩, ⟨"is_new_ip", .eq, 1⟩] },
    { ruleID := "RULE_016"
      name := "High Failed Login Total"
      expression := "total_failed_login_count > 50"
      scoreContribution := 45
      action := .review
      comparisons := [⟨"total_failed_login_count", .gt, 50⟩] },
    { ruleID := "RULE_017"
      name := "Unusual Login Hour"
      expression := "login_hour_z_score > 3"
      scoreContribution := 40
      action := .review
      comparisons := [⟨"login_hour_z_score", .gt, 3⟩] },
    { ruleID := "RULE_018"
      name := "No Email Verification"
      expression := "email_verified == 0 and account_age_days > 7"
      scoreContribution := 25
      action := .flag
      comparisons := [⟨"email_verified", .eq, 0⟩, ⟨"account_age_days", .gt, 7⟩] },
    { ruleID := "RULE_019"
      name := "Weekend Off Hours New IP"
      expression := "is_weekend == 1 and is_off_hours == 1 and is_new_ip == 1"
      scoreContribution := 45
      action := .review
      comparisons :=
        [⟨"is_weekend", .eq, 1⟩, ⟨"is_off_hours", .eq, 1⟩, ⟨"is_new_ip", .eq, 1⟩] },
    { ruleID := "RULE_020"
      name := "VPN Brute Force"
      expression := "ip_is_vpn == 1 and v_login_failures_5m > 3"
      scoreContribution := 80
      action := .block
      comparisons := [⟨"ip_is_vpn", .eq, 1⟩, ⟨"v_login_failures_5m", .gt, 3⟩] },
    { ruleID := "RULE_021"
      name := "Extreme Distance"
      expression := "geo_distance_from_last_login_km > 1000 and hours_since_last_login < 6"
      scoreContribution := 95
      action := .block
      comparisons :=
        [⟨"geo_distance_from_last_login_km", .gt, 1000⟩,
          ⟨"hours_since_last_login", .lt, 6⟩] },
    { ruleID := "RULE_022"
      name := "New Country High Risk"
      expression := "is_new_country == 1 and country_risk_score > 60"
      scoreContribution := 55
      action := .challenge
      comparisons := [⟨"is_new_country", .eq, 1⟩, ⟨"country_risk_score", .gt, 60⟩] },
    { ruleID := "RULE_023"
      name := "Proxy High Velocity"
      expression := "ip_is_proxy == 1 and v_login_attempts_5m > 5"
      scoreContribution := 75
      action := .block
      comparisons := [⟨"ip_is_proxy", .eq, 1⟩, ⟨"v_login_attempts_5m", .gt, 5⟩] },
    { ruleID := "RULE_024"
      name := "New Account Suspicious"
      expression := "account_age_days < 1 and v_login_attempts_1h > 3"
      scoreContribution := 50
      action := .review
      comparisons := [⟨"account_age_days", .lt, 1⟩, ⟨"v_login_attempts_1h", .gt, 3⟩] },
    { ruleID := "RULE_025"
      name := "Mobile Datacenter"
      expression := "is_mobile == 1 and ip_is_datacenter == 1"
      scoreContribution := 60
      action := .challenge
      comparisons := [⟨"is_mobile", .eq, 1⟩, ⟨"ip_is_datacenter", .eq, 1⟩] }]

namespace SeedRule

/-- The rule's expression is true of the features, all its comparisons being so. -/
def Holds (rule : SeedRule) (features : Features) : Prop :=
  ∀ comparison ∈ rule.comparisons, comparison.holds features.asdict

/-- The expression compiles and evaluates to something true. -/
def Fires (parser : Parser) (rule : SeedRule) (features : Features) : Prop :=
  ∃ compiled value, parser.parse rule.expression = .ok compiled ∧
    parser.evaluate compiled features.asdict = .ok value ∧ parser.truthy value

end SeedRule

/-- The parser reads each seeded expression as the conjunction that it spells. -/
def ReadsSeeds (parser : Parser) : Prop :=
  ∀ rule ∈ seedRules, ∃ compiled, parser.parse rule.expression = .ok compiled ∧
    ∀ features : Features, ∃ value, parser.evaluate compiled features.asdict = .ok value ∧
      (parser.truthy value ↔ rule.Holds features)

/-- In some run there is a request whose features make the rule fire. -/
def CanFire (python : ExtractorPython) (parser : Parser) (rule : SeedRule) : Prop :=
  ∃ (calls : List (Int × StoreCall)) (now clock : Int) (cached : Option CacheContent)
    (forScore forFlags : LookupOutcome) (request : ScoreRequest) (features : Features),
    Chronological now calls ∧
      FeatureExtractor.extract python (RiskStore.run python.toPythonText calls) now clock cached
        forScore forFlags request = some features ∧
      rule.Fires parser features

/-- A seeded rule fires where its comparisons hold. -/
theorem ReadsSeeds.fires_iff {parser : Parser} (reads : ReadsSeeds parser) {rule : SeedRule}
    (member : rule ∈ seedRules) (features : Features) :
    rule.Fires parser features ↔ rule.Holds features := by
  obtain ⟨compiled, parsed, evaluates⟩ := reads rule member
  obtain ⟨value, evaluated, truth⟩ := evaluates features
  constructor
  · rintro ⟨other, another, parsedToo, evaluatedToo, truthy⟩
    obtain rfl := Except.ok.inj (parsed.symm.trans parsedToo)
    obtain rfl := Except.ok.inj (evaluated.symm.trans evaluatedToo)
    exact truth.mp truthy
  · intro holds
    exact ⟨compiled, value, parsed, evaluated, truth.mpr holds⟩

/-! ## Features that no run touches -/

/-- The features that `extract` assigns from a user's history or not at all. -/
def untouched : List String :=
  ["hours_since_last_login", "account_age_days", "days_since_email_verified",
    "typical_login_hour_mean", "typical_login_hour_std", "login_hour_z_score", "is_new_ip",
    "is_new_device", "is_new_country", "is_new_city", "total_login_count",
    "total_failed_login_count", "locked_count_30d", "active_sessions_count",
    "historical_avg_risk_score", "failed_login_streak", "geo_distance_from_usual_km",
    "geo_distance_from_last_login_km", "asn_risk_score", "country_risk_score",
    "is_high_risk_country", "password_age_days", "has_mfa_enabled", "email_verified",
    "account_suspended_count", "is_active", "days_since_last_password_change",
    "device_trust_score", "browser_type_encoded", "os_type_encoded", "days_to_nearest_holiday",
    "is_holiday_in_user_country"]

namespace Features

/-- The values of these features, in the same order. -/
def untouchedValues (features : Features) : List PyFloat :=
  [features.hoursSinceLastLogin, features.accountAgeDays, features.daysSinceEmailVerified,
    features.typicalLoginHourMean, features.typicalLoginHourStd, features.loginHourZScore,
    features.isNewIp, features.isNewDevice, features.isNewCountry, features.isNewCity,
    features.totalLoginCount, features.totalFailedLoginCount, features.lockedCount30d,
    features.activeSessionsCount, features.historicalAvgRiskScore, features.failedLoginStreak,
    features.geoDistanceFromUsualKm, features.geoDistanceFromLastLoginKm, features.asnRiskScore,
    features.countryRiskScore, features.isHighRiskCountry, features.passwordAgeDays,
    features.hasMfaEnabled, features.emailVerified, features.accountSuspendedCount,
    features.isActive, features.daysSinceLastPasswordChange, features.deviceTrustScore,
    features.browserTypeEncoded, features.osTypeEncoded, features.daysToNearestHoliday,
    features.isHolidayInUserCountry]

/-- They all have their defaults. -/
def AtDefaults (features : Features) : Prop :=
  features.untouchedValues = ({} : Features).untouchedValues

/-- The values of the untouched features. -/
theorem lookup_untouched (features : Features) :
    (untouched.map fun name => features.asdict.lookup name) =
      features.untouchedValues.map some := by
  rfl

/-- They are looked up as in the default vector. -/
theorem AtDefaults.lookup {features : Features} (defaults : features.AtDefaults) {name : String}
    (member : name ∈ untouched) :
    features.asdict.lookup name = ({} : Features).asdict.lookup name := by
  have same : (untouched.map fun name => features.asdict.lookup name) =
      untouched.map fun name => ({} : Features).asdict.lookup name := by
    rw [lookup_untouched, lookup_untouched, defaults]
  exact List.map_inj_left.mp same name member

end Features

namespace FeatureExtractor

variable {python : ExtractorPython} {features : Features}

/-- No call writes a hash. -/
theorem hashes_run (python : PythonText) (calls : List (Int × StoreCall)) (key : String) :
    (RiskStore.run python calls).hashes key = [] := by
  induction calls using List.reverseRecOn with
  | nil => rfl
  | append_singleton earlier entry ih =>
      rw [RiskStore.run, List.foldl_append]
      exact ih

/-- The calls reach the feature store as commands, in their order. -/
theorem features_run (python : PythonText) (calls : List (Int × StoreCall)) :
    (RiskStore.run python calls).features = FeatureStore.run (commandHistory python calls) := by
  induction calls using List.reverseRecOn with
  | nil => rfl
  | append_singleton earlier entry ih =>
      rw [RiskStore.run, List.foldl_append, commandHistory, List.flatMap_append, FeatureStore.run,
        List.foldl_append]
      change entry.2.apply python entry.1 (RiskStore.run python earlier).features = _
      rw [ih, StoreCall.apply, commandHistory, FeatureStore.run]
      simp [List.foldl_map]

/-- The address intelligence touches none of them. -/
theorem withIntelligence_atDefaults (defaults : features.AtDefaults) (cached : Option CacheContent)
    (forScore forFlags : LookupOutcome) (ipAddress : String) :
    (withIntelligence python cached forScore forFlags ipAddress features).AtDefaults := by
  unfold withIntelligence
  split
  · exact defaults
  · simp only
    split
    · exact defaults
    · split <;> exact defaults

theorem withClock_atDefaults (defaults : features.AtDefaults) (clock : Int) :
    (withClock clock features).AtDefaults := defaults

theorem withDevice_atDefaults (defaults : features.AtDefaults) (request : ScoreRequest) :
    (withDevice python request features).AtDefaults := defaults

theorem extractVelocity_atDefaults (store : FeatureStore) (now : Int) (request : ScoreRequest) :
    (extractVelocity store now request).AtDefaults := rfl

/-- What `extract` returns when there is no history of the user. -/
theorem extract_without_history {store : RiskStore} (unwritten : ∀ key, store.hashes key = [])
    (now clock : Int) (cached : Option CacheContent) (forScore forFlags : LookupOutcome)
    (request : ScoreRequest) :
    extract python store now clock cached forScore forFlags request =
      some (withDevice python request (withClock clock
        (withIntelligence python cached forScore forFlags request.ipAddress
          (extractVelocity store.features now request)))) := by
  unfold extract
  cases nonempty (request.userID.getD "") with
  | none => rfl
  | some userID =>
      simp only [RiskStore.getUserHistory, unwritten, withHistory]
      rfl

/-- So they are at their defaults in every vector that is extracted after any calls. -/
theorem extract_atDefaults {calls : List (Int × StoreCall)} {now clock : Int}
    {cached : Option CacheContent} {forScore forFlags : LookupOutcome} {request : ScoreRequest}
    (extracted : extract python (RiskStore.run python.toPythonText calls) now clock cached forScore
      forFlags request = some features) : features.AtDefaults := by
  rw [extract_without_history (hashes_run _ calls)] at extracted
  obtain rfl := Option.some.inj extracted
  apply withDevice_atDefaults
  apply withClock_atDefaults
  apply withIntelligence_atDefaults
  exact extractVelocity_atDefaults ..

end FeatureExtractor

/-! ## A run that raises every other alarm -/

/-- A count above a bound exceeds it as a float. -/
theorem exceeds_ofCount {count bound : Nat} (above : bound < count) :
    (PyFloat.ofCount count).exceeds bound := by
  unfold PyFloat.ofCount PyFloat.exceeds
  exact decide_eq_true (Nat.cast_lt.mpr above)

/-- The seeded comparisons of features that runs do touch. -/
def alarms : List Comparison :=
  [⟨"v_login_failures_1m", .gt, 5⟩, ⟨"v_login_failures_5m", .gt, 15⟩,
    ⟨"v_login_failures_5m", .gt, 3⟩, ⟨"v_login_attempts_1m", .gt, 10⟩,
    ⟨"v_login_attempts_5m", .gt, 5⟩, ⟨"v_login_attempts_1h", .gt, 10⟩,
    ⟨"v_login_attempts_1h", .gt, 3⟩, ⟨"v_unique_ips_1h", .gt, 5⟩, ⟨"ip_is_vpn", .eq, 1⟩,
    ⟨"ip_is_tor", .eq, 1⟩, ⟨"ip_is_datacenter", .eq, 1⟩, ⟨"ip_is_proxy", .eq, 1⟩,
    ⟨"is_weekend", .eq, 1⟩, ⟨"is_off_hours", .eq, 1⟩, ⟨"is_mobile", .eq, 1⟩,
    ⟨"is_headless_browser", .eq, 1⟩, ⟨"is_bot_user_agent", .eq, 1⟩]

/-- Every seeded comparison is of an untouched feature or in the list. -/
theorem mem_alarms : ∀ rule ∈ seedRules, ∀ comparison ∈ rule.comparisons,
    comparison.feature ∉ untouched → comparison ∈ alarms := by
  decide +kernel

/-- Features on which all these comparisons are true. -/
structure Features.Alarming (features : Features) : Prop where
  failures1m : features.vLoginFailures1m = .ofCount 16
  failures5m : features.vLoginFailures5m = .ofCount 16
  attempts1m : features.vLoginAttempts1m = .ofCount 16
  attempts5m : features.vLoginAttempts5m = .ofCount 16
  attempts1h : features.vLoginAttempts1h = .ofCount 16
  ips1h : features.vUniqueIps1h.exceeds (5 : Nat)
  vpn : features.ipIsVpn = 1
  tor : features.ipIsTor = 1
  datacenter : features.ipIsDatacenter = 1
  proxy : features.ipIsProxy = 1
  weekend : features.isWeekend = 1
  offHours : features.isOffHours = 1
  mobile : features.isMobile = 1
  headless : features.isHeadlessBrowser = 1
  bot : features.isBotUserAgent = 1

/-- On alarming features the whole list holds. -/
theorem Features.Alarming.holds {features : Features} (alarming : features.Alarming)
    {comparison : Comparison} (member : comparison ∈ alarms) :
    comparison.holds features.asdict := by
  have counted {name : String} {value : PyFloat} {bound : Nat}
      (found : features.asdict.lookup name = some value) (same : value = .ofCount 16)
      (below : bound < 16) : (Comparison.mk name .gt bound).holds features.asdict := by
    rw [Comparison.holds, found, same]
    exact exceeds_ofCount below
  have flagged {name : String} {value : PyFloat} (found : features.asdict.lookup name = some value)
      (same : value = 1) : (Comparison.mk name .eq 1).holds features.asdict := by
    rw [Comparison.holds, found, same]
    exact (by decide : PyFloat.equals 1 (.finite (1 : Nat)) = true)
  simp only [alarms, List.mem_cons, List.not_mem_nil, or_false] at member
  rcases member with rfl | rfl | rfl | rfl | rfl | rfl | rfl | rfl | rfl | rfl | rfl | rfl | rfl |
    rfl | rfl | rfl | rfl
  · exact counted rfl alarming.failures1m (by decide)
  · exact counted rfl alarming.failures5m (by decide)
  · exact counted rfl alarming.failures5m (by decide)
  · exact counted rfl alarming.attempts1m (by decide)
  · exact counted rfl alarming.attempts5m (by decide)
  · exact counted rfl alarming.attempts1h (by decide)
  · exact counted rfl alarming.attempts1h (by decide)
  · exact alarming.ips1h
  · exact flagged rfl alarming.vpn
  · exact flagged rfl alarming.tor
  · exact flagged rfl alarming.datacenter
  · exact flagged rfl alarming.proxy
  · exact flagged rfl alarming.weekend
  · exact flagged rfl alarming.offHours
  · exact flagged rfl alarming.mobile
  · exact flagged rfl alarming.headless
  · exact flagged rfl alarming.bot

/-- Sixteen failures from one address and one from each of five others. -/
def addresses : List String :=
  List.replicate 16 "203.0.113.1" ++
    ["203.0.113.2", "203.0.113.3", "203.0.113.4", "203.0.113.5", "203.0.113.6"]

/-- The first Saturday of the epoch, at midnight. -/
def saturday : Int := seconds 172800

def burst : List (Int × StoreCall) :=
  addresses.map fun ip => (saturday, .processEvent (failedFrom "u1" ip))

/-- None of the addresses is empty. -/
theorem addresses_named : ∀ ip ∈ addresses, ip ≠ "" := by decide

/-- All of the burst happens in one moment, so it is in order. -/
theorem chronological_burst : Chronological saturday burst where
  ordered := List.pairwise_map.mpr (List.pairwise_of_forall fun _ _ => le_refl saturday)
  nonneg entry member := by
    obtain ⟨ip, -, rfl⟩ := List.mem_map.mp member
    show (0 : Int) ≤ saturday
    decide
  past entry member := by
    obtain ⟨ip, -, rfl⟩ := List.mem_map.mp member
    exact le_refl saturday

section

variable (python : PythonText) {ip : String}

/-- The commands that one failure sends. -/
theorem commands_failedFrom (named : ip ≠ "") :
    (StoreCall.processEvent (failedFrom "u1" ip)).commands python =
      [60, 300, 900, 3600].flatMap
          (Attempt.commands ⟨python.known (.str "u1"), python.known (.str ip), true⟩) ++
        [.addUnique "u1" "ips" ip 3600, .addUnique "u1" "ips" ip 86400] := by
  have processed : processEvent (failedFrom "u1" ip) =
      some ([60, 300, 900, 3600].flatMap (velocityUpdates (.str ip) (.str "u1") true) ++
        [.addUnique (.str "u1") "ips" (.str ip) 3600,
          .addUnique (.str "u1") "ips" (.str ip) 86400]) := by
    simp [processEvent, failedFrom, Json.get, Json.orElse, Json.isText, Json.isNotText,
      Json.truthy, named]
  rw [StoreCall.commands, processed, Option.getD_some, List.flatMap_append, List.flatMap_assoc]
  simp only [velocityUpdates_commands, FeatureUpdate.commands, List.flatMap_cons,
    List.flatMap_nil, python.text_str, List.append_nil, List.singleton_append]

/-- It counts as a failed attempt of the user from the address. -/
theorem attempt_failedFrom (named : ip ≠ "") :
    (StoreCall.processEvent (failedFrom "u1" ip)).attempt python =
      some ⟨some "u1", some ip, true⟩ := by
  simp [StoreCall.attempt, processEvent, eventFacts, failedFrom, Json.get, Json.orElse,
    Json.isText, PythonText.known, python.text_str, Json.truthy, named]

/-- The addresses are those of the attempts. -/
theorem attemptsBy_burst {metric : String} (named : metric ∈ velocityMetrics) {window : Nat}
    (read : window ∈ velocityWindows) (kind : Attempt → Bool) :
    attemptsBy python burst saturday kind metric window =
      addresses.countP fun ip => kind ⟨some "u1", some ip, true⟩ := by
  have recent (instant : Int) : instant - seconds window < instant :=
    sub_lt_self instant (seconds_pos (velocityWindows_pos window read))
  have listed (ip : String) : metric ∈ Attempt.metrics ⟨some "u1", some ip, true⟩ := named
  rw [attemptsBy, burst, List.countP_map]
  generalize saturday = instant
  refine List.countP_congr fun ip member => ?_
  rw [Function.comp_apply, attempt_failedFrom python (addresses_named ip member),
    Option.any_some, decide_eq_true (recent instant), decide_eq_true (listed ip), Bool.true_and,
    Bool.true_and]

/-- Every counter of the address that is read shows sixteen. -/
theorem getVelocity_burst {metric : String} (named : metric ∈ velocityMetrics) {window : Nat}
    (read : window ∈ velocityWindows) :
    (FeatureStore.run (commandHistory python burst)).getVelocity saturday "203.0.113.1" metric
      window = 16 := by
  rw [getVelocity_commandHistory chronological_burst named read,
    attemptsBy_burst python named read, attemptsBy_burst python named read]
  rfl

/-- No command of the burst has a colon in its dimension. -/
theorem plainDimension_burst :
    ∀ entry ∈ commandHistory python burst, entry.2.PlainDimension := by
  intro entry member
  obtain ⟨call, listed, issued⟩ := List.mem_flatMap.mp member
  obtain ⟨ip, present, rfl⟩ := List.mem_map.mp listed
  obtain ⟨command, one, rfl⟩ := List.mem_map.mp issued
  rw [commands_failedFrom python (addresses_named ip present)] at one
  rcases List.mem_append.mp one with increment | addition
  · obtain ⟨window, -, counted⟩ := List.mem_flatMap.mp increment
    obtain ⟨key, -, mapped⟩ := List.mem_flatMap.mp counted
    obtain ⟨metric, -, rfl⟩ := List.mem_map.mp mapped
    trivial
  · simp only [List.mem_cons, List.not_mem_nil, or_false] at addition
    rcases addition with rfl | rfl <;> exact (by decide : ':' ∉ "ips".toList)

/-- Each address was added to the user's. -/
theorem addition_burst {ip : String} (present : ip ∈ addresses) :
    (saturday, .addUnique "u1" "ips" ip 3600) ∈ commandHistory python burst := by
  refine List.mem_flatMap.mpr ⟨_, List.mem_map_of_mem present, List.mem_map_of_mem ?_⟩
  rw [commands_failedFrom python (addresses_named ip present)]
  exact List.mem_append_right _ List.mem_cons_self

/-- The user's set holds all six addresses. -/
theorem getUniqueCount_burst :
    6 ≤ (FeatureStore.run (commandHistory python burst)).getUniqueCount saturday "u1" "ips"
      3600 := by
  have chronological : Chronological saturday (commandHistory python burst) :=
    chronological_burst.flatMap _
  have holds := @holds_run "u1" _ 3600 _ (by decide : ':' ∉ "ips".toList)
    (plainDimension_burst python) (by decide)
  have subset : addresses.dedup ⊆ (UniqueSet.live saturday
      ((FeatureStore.run (commandHistory python burst)).sets
        (uniqueKey "u1" "ips" 3600))).members := by
    intro ip member
    refine holds.mem_live.mpr (UniqueSet.lasting_of_recent (additions_ordered chronological)
      (fun entry listed => chronological.past _ (mem_additions.mp listed))
      (show seconds 3600 ≤ seconds 3600 * 2 by decide) (mem_recentMembers.mpr ?_))
    exact ⟨saturday, mem_additions.mpr (addition_burst python (List.mem_dedup.mp member)),
      by decide, le_refl saturday⟩
  exact (List.subperm_of_subset (List.nodup_dedup addresses) subset).length_le

/-- A request of that user from the busiest address, by what calls itself a bot. -/
def burstRequest : ScoreRequest where
  eventID := "e1"
  eventType := "auth.user.login"
  userID := some "u1"
  requestID := "r1"
  ipAddress := "203.0.113.1"
  userAgent := "bot"
  device := { isMobile := true, isHeadless := true }

/-- The reply about a hosted proxy of TOR. -/
def torReply : LookupOutcome :=
  .answered 200 (some (.obj [("proxy", .bool true), ("hosting", .bool true), ("isp", .str "tor")]))

end

section

variable (python : ExtractorPython)

/-- A text in small letters is its own lower-casing. -/
theorem lower_literal {text : String} (plain : ∀ char ∈ text.toList, 'a' ≤ char ∧ char ≤ 'z') :
    python.lower text = text :=
  python.lower_plain text plain

/-- A user agent that is taken for a bot's. -/
theorem isBotUA_bot : FeatureExtractor.isBotUA python "bot" = true := by
  rw [FeatureExtractor.isBotUA,
    lower_literal python (List.forall_iff_forall_mem.mp (by decide : List.Forall _ _))]
  decide

/-- A reply that names Tor raises all four flags. -/
theorem withIntelligence_torReply (features : Features) :
    FeatureExtractor.withIntelligence python none .raised torReply "203.0.113.1" features =
      { features with
        ipReputationScore := .finite 30
        ipIsVpn := 1
        ipIsTor := 1
        ipIsDatacenter := 1
        ipIsProxy := 1 } := by
  have scored : IPIntelligence.score python.toPythonJson none .raised = (some 30, none) := by
    have clean : IPIntelligence.mentionsTor python.toPythonJson (.str "") = some false := by
      rw [IPIntelligence.mentionsTor, lower_literal python (by simp)]
      decide
    simp only [IPIntelligence.score, IPIntelligence.getOrFetch, IPIntelligence.readCache,
      IPIntelligence.fetchIPData, IPIntelligence.computeScore, Json.get, Option.bind_eq_bind,
      Option.bind_some]
    simp [clean, Json.truthy]
    norm_num
  have flagged : (IPIntelligence.getFlags python.toPythonJson none torReply).1 =
      some ⟨true, true, true, true⟩ := by
    have tor : IPIntelligence.mentionsTor python.toPythonJson (.str "tor") = some true := by
      rw [IPIntelligence.mentionsTor,
        lower_literal python (List.forall_iff_forall_mem.mp (by decide : List.Forall _ _))]
      decide
    simp [IPIntelligence.getFlags, IPIntelligence.getOrFetch, IPIntelligence.readCache,
      IPIntelligence.fetchIPData, torReply, IPIntelligence.flags, Json.get, tor, Json.truthy]
  simp only [FeatureExtractor.withIntelligence, scored, flagged]
  rfl

/-- After the burst a request has alarming features. -/
theorem alarming_burst :
    ∃ features, FeatureExtractor.extract python (RiskStore.run python.toPythonText burst) saturday
        saturday none .raised torReply burstRequest = some features ∧ features.Alarming := by
  refine ⟨_, FeatureExtractor.extract_without_history (FeatureExtractor.hashes_run _ burst) ..,
    ?_⟩
  rw [FeatureExtractor.features_run, show burstRequest.ipAddress = "203.0.113.1" from rfl,
    withIntelligence_torReply]
  have counted {metric : String} (named : metric ∈ velocityMetrics) {window : Nat}
      (read : window ∈ velocityWindows) :=
    congrArg PyFloat.ofCount (getVelocity_burst python.toPythonText named read)
  constructor
  · exact counted (by decide) (by decide)
  · exact counted (by decide) (by decide)
  · exact counted (by decide) (by decide)
  · exact counted (by decide) (by decide)
  · exact counted (by decide) (by decide)
  · exact exceeds_ofCount (getUniqueCount_burst python.toPythonText)
  · rfl
  · rfl
  · rfl
  · rfl
  · rfl
  · rfl
  · rfl
  · rfl
  · exact congrArg PyFloat.ofBool (isBotUA_bot python)

end

/-- A seeded rule can fire exactly when its comparisons of features that no run
touches are true of the defaults. -/
theorem canFire_iff (python : ExtractorPython) (parser : Parser) (reads : ReadsSeeds parser)
    (rule : SeedRule) (member : rule ∈ seedRules) :
    CanFire python parser rule ↔
      ∀ comparison ∈ rule.comparisons, comparison.feature ∈ untouched →
        comparison.holds ({} : Features).asdict := by
  have fixed {features : Features} (defaults : features.AtDefaults) {comparison : Comparison}
      (quiet : comparison.feature ∈ untouched) :
      comparison.holds features.asdict = comparison.holds ({} : Features).asdict := by
    rw [Comparison.holds, Comparison.holds, defaults.lookup quiet]
  constructor
  · rintro ⟨calls, now, clock, cached, forScore, forFlags, request, features, -, extracted, fires⟩
      comparison listed quiet
    rw [← fixed (FeatureExtractor.extract_atDefaults extracted) quiet]
    exact (reads.fires_iff member features).mp fires comparison listed
  · intro defaults
    obtain ⟨features, extracted, alarming⟩ := alarming_burst python
    refine ⟨burst, saturday, saturday, none, .raised, torReply, burstRequest, features,
      chronological_burst, extracted, (reads.fires_iff member features).mpr ?_⟩
    intro comparison listed
    by_cases quiet : comparison.feature ∈ untouched
    · rw [fixed (FeatureExtractor.extract_atDefaults extracted) quiet]
      exact defaults comparison listed quiet
    · exact alarming.holds (mem_alarms rule member comparison listed quiet)

/-- The rules that can fire. -/
example : (seedRules.filter fun rule => rule.comparisons.all fun comparison =>
      comparison.feature ∉ untouched || comparison.holds ({} : Features).asdict).map (·.ruleID) =
    ["RULE_002", "RULE_003", "RULE_005", "RULE_006", "RULE_007", "RULE_008", "RULE_012",
      "RULE_014", "RULE_020", "RULE_023", "RULE_024", "RULE_025"] := by
  decide +kernel

/-- A parser of the seeded expressions. -/
def seedParser : Parser where
  Expression := List Comparison
  Value := Bool
  parse text :=
    match seedRules.find? (·.expression = text) with
    | some rule => .ok rule.comparisons
    | none => .error "unexpected expression"
  variableNames comparisons := comparisons.map (·.feature)
  evaluate comparisons values := .ok (comparisons.all (·.holds values))
  truthy value := value

/-- The parser of the example reads the seeded expressions. -/
theorem readsSeeds_seedParser : ReadsSeeds seedParser := by
  intro rule member
  have found : (seedRules.find? (·.expression = rule.expression)).map SeedRule.comparisons =
      some rule.comparisons := by
    revert rule
    decide +kernel
  obtain ⟨same, first, comparisons⟩ := Option.map_eq_some_iff.mp found
  refine ⟨rule.comparisons, ?_, fun features => ⟨_, rfl, List.all_eq_true⟩⟩
  simp only [seedParser, first, comparisons]

/-- Python on the texts of the burst. -/
def burstPython : ExtractorPython where
  toPythonText := plainPython
  loads _ := .valueError
  dumps _ := "\x7b\x7d"
  lower text := text
  lower_plain _ _ := rfl
  float _ := none
  greatCircle _ _ _ _ := none

/-- The rule about five failures within a minute fires. -/
theorem canFire_velocityBreach : ∃ rule ∈ seedRules, rule.ruleID = "RULE_002" ∧
    CanFire burstPython seedParser rule := by
  refine ⟨seedRules[1], List.getElem_mem _, rfl, ?_⟩
  exact (canFire_iff burstPython seedParser readsSeeds_seedParser seedRules[1]
    (List.getElem_mem _)).mpr (by decide +kernel)

/-- The rule about repeated lockouts never does. -/
theorem canFire_fails :
    ¬ ∀ (python : ExtractorPython) (parser : Parser), ReadsSeeds parser →
      ∀ rule ∈ seedRules, CanFire python parser rule := by
  intro always
  have member : seedRules[9] ∈ seedRules := List.getElem_mem _
  obtain ⟨calls, now, clock, cached, forScore, forFlags, request, features, -, extracted, fires⟩ :=
    always burstPython seedParser readsSeeds_seedParser seedRules[9] member
  have holds := (readsSeeds_seedParser.fires_iff member features).mp fires
    ⟨"locked_count_30d", .gt, 3⟩ (by decide +kernel)
  rw [Comparison.holds, (FeatureExtractor.extract_atDefaults extracted).lookup (by decide)] at holds
  exact absurd holds (by decide +kernel)

end Sentinel.Risk
