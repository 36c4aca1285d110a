import Mathlib.Data.Rat.Floor
import Mathlib.Tactic.Linarith
import Mathlib.Tactic.NormNum
import Sentinel.Wire.Json

/-!
# Scoring requests and the feature vector

`ScoreRequest` as the schema accepts it and the 56 fields of `Features` with
their defaults. A Python float is a rational number, computed with exactly, or
one of the three values that are not numbers.
-/

namespace Sentinel.Risk

open Sentinel.Wire

inductive PyFloat where
  | finite (value : ℚ)
  | posInf
  | negInf
  | nan
deriving DecidableEq

instance (n : Nat) : OfNat PyFloat n := ⟨.finite n⟩

/-- `value > bound`; a comparison with NaN is false. -/
def PyFloat.exceeds (value : PyFloat) (bound : ℚ) : Bool :=
  match value with
  | .finite number => bound < number
  | .posInf => true
  | .negInf | .nan => false

structure GeoInfo where
  countryCode : String := "XX"
  countryName : String := "Unknown"
  region : String := ""
  city : String := ""
  lat : PyFloat := 0
  lon : PyFloat := 0
  timezone : String := ""
  asn : String := ""
  isp : String := ""

structure DeviceInfo where
  fingerprint : String := ""
  browser : String := ""
  browserVersion : String := ""
  os : String := ""
  osVersion : String := ""
  isMobile : Bool := false
  isHeadless : Bool := false
  screenResolution : String := ""
  language : String := ""

structure ScoreRequest where
  eventID : String
  eventType : String
  userID : Option String := none
  sessionID : Option String := none
  requestID : String
  ipAddress : String
  userAgent : String := ""
  geo : GeoInfo := {}
  device : DeviceInfo := {}
  metadata : List (String × Json) := []

/-- One of the five largest SHAP contributions. -/
structure ShapContribution where
  feature : String
  contribution : ℚ

structure Features where
  -- velocity
  vLoginAttempts1m : PyFloat := 0
  vLoginAttempts5m : PyFloat := 0
  vLoginAttempts15m : PyFloat := 0
  vLoginAttempts1h : PyFloat := 0
  vLoginFailures1m : PyFloat := 0
  vLoginFailures5m : PyFloat := 0
  vLoginFailures15m : PyFloat := 0
  vLoginFailures1h : PyFloat := 0
  vUniqueIps1h : PyFloat := 0
  vUniqueIps24h : PyFloat := 0
  vUniqueDevices24h : PyFloat := 0
  vNewCountries7d : PyFloat := 0
  -- behavioural history
  hoursSinceLastLogin : PyFloat := 0
  accountAgeDays : PyFloat := 0
  daysSinceEmailVerified : PyFloat := 0
  typicalLoginHourMean : PyFloat := 12
  typicalLoginHourStd : PyFloat := 4
  loginHourZScore : PyFloat := 0
  isNewIp : PyFloat := 0
  isNewDevice : PyFloat := 0
  isNewCountry : PyFloat := 0
  isNewCity : PyFloat := 0
  totalLoginCount : PyFloat := 0
  totalFailedLoginCount : PyFloat := 0
  lockedCount30d : PyFloat := 0
  activeSessionsCount : PyFloat := 0
  historicalAvgRiskScore : PyFloat := 0
  failedLoginStreak : PyFloat := 0
  -- geography and network
  geoDistanceFromUsualKm : PyFloat := 0
  geoDistanceFromLastLoginKm : PyFloat := 0
  ipIsVpn : PyFloat := 0
  ipIsTor : PyFloat := 0
  ipIsDatacenter : PyFloat := 0
  ipIsProxy : PyFloat := 0
  ipReputationScore : PyFloat := 50
  asnRiskScore : PyFloat := 50
  countryRiskScore : PyFloat := 0
  isHighRiskCountry : PyFloat := 0
  -- account state
  passwordAgeDays : PyFloat := 0
  hasMfaEnabled : PyFloat := 0
  emailVerified : PyFloat := 0
  accountSuspendedCount : PyFloat := 0
  isActive : PyFloat := 1
  daysSinceLastPasswordChange : PyFloat := 0
  -- device and client
  deviceTrustScore : PyFloat := 50
  browserTypeEncoded : PyFloat := 0
  osTypeEncoded : PyFloat := 0
  isMobile : PyFloat := 0
  isHeadlessBrowser : PyFloat := 0
  isBotUserAgent : PyFloat := 0
  -- temporal
  hourOfDay : PyFloat := 12
  dayOfWeek : PyFloat := 1
  isWeekend : PyFloat := 0
  isOffHours : PyFloat := 0
  daysToNearestHoliday : PyFloat := 30
  isHolidayInUserCountry : PyFloat := 0

namespace Features

/-- `dataclasses.asdict`, in declaration order. -/
def asdict (features : Features) : List (String × PyFloat) :=
  [("v_login_attempts_1m", features.vLoginAttempts1m),
    ("v_login_attempts_5m", features.vLoginAttempts5m),
    ("v_login_attempts_15m", features.vLoginAttempts15m),
    ("v_login_attempts_1h", features.vLoginAttempts1h),
    ("v_login_failures_1m", features.vLoginFailures1m),
    ("v_login_failures_5m", features.vLoginFailures5m),
    ("v_login_failures_15m", features.vLoginFailures15m),
    ("v_login_failures_1h", features.vLoginFailures1h),
    ("v_unique_ips_1h", features.vUniqueIps1h),
    ("v_unique_ips_24h", features.vUniqueIps24h),
    ("v_unique_devices_24h", features.vUniqueDevices24h),
    ("v_new_countries_7d", features.vNewCountries7d),
    ("hours_since_last_login", features.hoursSinceLastLogin),
    ("account_age_days", features.accountAgeDays),
    ("days_since_email_verified", features.daysSinceEmailVerified),
    ("typical_login_hour_mean", features.typicalLoginHourMean),
    ("typical_login_hour_std", features.typicalLoginHourStd),
    ("login_hour_z_score", features.loginHourZScore),
    ("is_new_ip", features.isNewIp),
    ("is_new_device", features.isNewDevice),
    ("is_new_country", features.isNewCountry),
    ("is_new_city", features.isNewCity),
    ("total_login_count", features.totalLoginCount),
    ("total_failed_login_count", features.totalFailedLoginCount),
    ("locked_count_30d", features.lockedCount30d),
    ("active_sessions_count", features.activeSessionsCount),
    ("historical_avg_risk_score", features.historicalAvgRiskScore),
    ("failed_login_streak", features.failedLoginStreak),
    ("geo_distance_from_usual_km", features.geoDistanceFromUsualKm),
    ("geo_distance_from_last_login_km", features.geoDistanceFromLastLoginKm),
    ("ip_is_vpn", features.ipIsVpn),
    ("ip_is_tor", features.ipIsTor),
    ("ip_is_datacenter", features.ipIsDatacenter),
    ("ip_is_proxy", features.ipIsProxy),
    ("ip_reputation_score", features.ipReputationScore),
    ("asn_risk_score", features.asnRiskScore),
    ("country_risk_score", features.countryRiskScore),
    ("is_high_risk_country", features.isHighRiskCountry),
    ("password_age_days", features.passwordAgeDays),
    ("has_mfa_enabled", features.hasMfaEnabled),
    ("email_verified", features.emailVerified),
    ("account_suspended_count", features.accountSuspendedCount),
    ("is_active", features.isActive),
    ("days_since_last_password_change", features.daysSinceLastPasswordChange),
    ("device_trust_score", features.deviceTrustScore),
    ("browser_type_encoded", features.browserTypeEncoded),
    ("os_type_encoded", features.osTypeEncoded),
    ("is_mobile", features.isMobile),
    ("is_headless_browser", features.isHeadlessBrowser),
    ("is_bot_user_agent", features.isBotUserAgent),
    ("hour_of_day", features.hourOfDay),
    ("day_of_week", features.dayOfWeek),
    ("is_weekend", features.isWeekend),
    ("is_off_hours", features.isOffHours),
    ("days_to_nearest_holiday", features.daysToNearestHoliday),
    ("is_holiday_in_user_country", features.isHolidayInUserCountry)]

/-- `Features.FEATURE_NAMES`, the vocabulary of rule expressions. -/
def featureNames : List String := (asdict {}).map Prod.fst

/-- The dictionary a rule is evaluated on has exactly the vocabulary as keys. -/
theorem asdict_keys (features : Features) : features.asdict.map Prod.fst = featureNames := rfl

example : featureNames.length = 56 := rfl

def velocityScore (features : Features) : ℚ :=
  let failures : ℚ :=
    if features.vLoginFailures1m.exceeds 5 then 40
    else if features.vLoginFailures1m.exceeds 2 then 20 else 0
  let attempts : ℚ :=
    if features.vLoginAttempts5m.exceeds 10 then 30
    else if features.vLoginAttempts5m.exceeds 5 then 15 else 0
  let ips : ℚ := if features.vUniqueIps1h.exceeds 5 then 20 else 0
  let devices : ℚ := if features.vUniqueDevices24h.exceeds 3 then 10 else 0
  min (failures + attempts + ips + devices) 100

/-- The velocity score lies between 0 and 100. -/
theorem velocityScore_mem (features : Features) :
    0 ≤ features.velocityScore ∧ features.velocityScore ≤ 100 := by
  refine ⟨le_min ?_ (by norm_num), min_le_right _ _⟩
  split_ifs <;> norm_num

end Features
end Sentinel.Risk
