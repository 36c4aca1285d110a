import Sentinel.Risk.Aggregator
import Sentinel.Risk.IPIntelligence
import Sentinel.Risk.Velocity

/-!
# The feature extractor

`FeatureExtractor.extract` over the velocity counters, the answers of the IP
intelligence, the clock, the user's history and the request. Nothing in the
system writes a history, so the features that depend on one keep their defaults.
-/

namespace Sentinel.Risk

open Sentinel.Wire

namespace PyFloat

/-- `bool(value)` -/
def truthy : PyFloat → Bool
  | .finite value => value ≠ 0
  | _ => true

/-- `value == other` -/
def equals : PyFloat → PyFloat → Bool
  | .finite value, .finite other => value = other
  | .posInf, .posInf | .negInf, .negInf => true
  | _, _ => false

/-- `value < other` -/
def lessThan : PyFloat → PyFloat → Bool
  | .finite value, .finite other => value < other
  | .negInf, .finite _ | .negInf, .posInf | .finite _, .posInf => true
  | _, _ => false

/-- `value - other` -/
def sub : PyFloat → PyFloat → PyFloat
  | .nan, _ | _, .nan | .posInf, .posInf | .negInf, .negInf => .nan
  | .finite value, .finite other => .finite (value - other)
  | .posInf, _ | _, .negInf => .posInf
  | .negInf, _ | _, .posInf => .negInf

/-- `abs(value)` -/
def abs : PyFloat → PyFloat
  | .finite value => .finite |value|
  | .negInf => .posInf
  | value => value

/-- `value / other`, for a positive divisor -/
def div : PyFloat → PyFloat → PyFloat
  | .finite value, .finite other => .finite (value / other)
  | .finite _, .posInf => .finite 0
  | .posInf, .finite _ => .posInf
  | .negInf, .finite _ => .negInf
  | _, _ => .nan

/-- `min(value, other)` -/
def min (value other : PyFloat) : PyFloat := if other.lessThan value then other else value

/-- `round(value, digits)` -/
def round (digits : Nat) : PyFloat → PyFloat
  | .finite value => .finite (roundTo digits value)
  | value => value

/-- `1.0 if condition else 0.0` -/
def ofBool (condition : Bool) : PyFloat := if condition then 1 else 0

end PyFloat

/-- What the extractor uses of Python: `float` of a text, which may raise, and the
great-circle distance of two distinct points, which may raise too. -/
structure ExtractorPython extends PythonText, PythonJson where
  float : String → Option PyFloat
  greatCircle : PyFloat → PyFloat → PyFloat → PyFloat → Option PyFloat

/-- The keys in Redis that the extractor reads: the counters and the hashes. -/
structure RiskStore where
  features : FeatureStore
  hashes : String → List (String × String)

namespace RiskStore

def empty : RiskStore := ⟨.empty, fun _ => []⟩

/-- `get_user_history` -/
def getUserHistory (store : RiskStore) (userID : String) : List (String × String) :=
  store.hashes ("user_hist:" ++ userID)

/-- A call of the store's users writes counters and sets only. -/
def apply (python : PythonText) (store : RiskStore) (entry : Int × StoreCall) : RiskStore :=
  { store with features := entry.2.apply python entry.1 store.features }

/-- The calls of a history, the oldest first. -/
def run (python : PythonText) (calls : List (Int × StoreCall)) : RiskStore :=
  calls.foldl (apply python) empty

end RiskStore

namespace FeatureExtractor

variable (python : ExtractorPython)

/-- `text in other` -/
def occurs (text other : String) : Bool := text.toList <:+: other.toList

/-- `_is_bot_ua` -/
def isBotUA (userAgent : String) : Bool :=
  ["bot", "crawler", "spider", "scraper", "headless", "python-requests", "curl", "wget",
    "go-http-client"].any fun bot => occurs bot (python.lower userAgent)

/-- `haversine_km` -/
def haversineKm (lat1 lon1 lat2 lon2 : PyFloat) : Option PyFloat :=
  if lat1.equals lat2 && lon1.equals lon2 then some 0
  else python.greatCircle lat1 lon1 lat2 lon2

/-- `float(history.get(key, default))` -/
def number (history : List (String × String)) (key : String) (default : PyFloat) :
    Option PyFloat :=
  match history.lookup key with
  | some text => python.float text
  | none => some default

/-- `float(history.get(key, 0) or 0)` -/
def coordinate (history : List (String × String)) (key : String) : Option PyFloat :=
  match history.lookup key with
  | some text => if text ≠ "" then python.float text else some 0
  | none => some 0

/-- The distances, as far as nothing raises. -/
def withDistances (history : List (String × String)) (geo : GeoInfo) (features : Features) :
    Features :=
  let coordinates := do
    return (← coordinate python history "usual_lat", ← coordinate python history "usual_lon",
      ← coordinate python history "last_lat", ← coordinate python history "last_lon")
  match coordinates with
  | none => features
  | some (usualLat, usualLon, lastLat, lastLon) =>
      let usual :=
        if usualLat.truthy || usualLon.truthy then
          (haversineKm python geo.lat geo.lon usualLat usualLon).map fun distance =>
            { features with geoDistanceFromUsualKm := distance.round 1 }
        else some features
      match usual with
      | none => features
      | some features =>
          if lastLat.truthy || lastLon.truthy then
            match haversineKm python geo.lat geo.lon lastLat lastLon with
            | none => features
            | some distance => { features with geoDistanceFromLastLoginKm := distance.round 1 }
          else features

/-- The block about the user's history, which may raise. -/
def withHistory (history : List (String × String)) (request : ScoreRequest)
    (features : Features) : Option Features := do
  if history = [] then
    return features
  let hoursSinceLastLogin ← number python history "hours_since_last_login" 0
  let mean ← number python history "typical_login_hour_mean" 12
  let given ← number python history "typical_login_hour_std" 4
  let std := if given.truthy then given else 4
  let away := (features.hourOfDay.sub mean).abs
  let delta := away.min (PyFloat.sub 24 away)
  let totalLoginCount ← number python history "total_login_count" 0
  let totalFailedLoginCount ← number python history "total_failed_login_count" 0
  let known key := (history.lookup key).getD ""
  let isNew text key := PyFloat.ofBool !(text ≠ "" && occurs text (known key))
  return withDistances python history request.geo
    { features with
      hoursSinceLastLogin
      typicalLoginHourMean := mean
      typicalLoginHourStd := std
      loginHourZScore := if std.exceeds 0 then (delta.div std).round 3 else features.loginHourZScore
      totalLoginCount
      totalFailedLoginCount
      isNewIp := isNew request.ipAddress "known_ips"
      isNewDevice := isNew request.device.fingerprint "known_devices"
      isNewCountry := isNew request.geo.countryCode "known_countries" }

/-- The block about the address: each of the two calls may look it up, and what
raises ends the block. -/
def withIntelligence (cached : Option CacheContent) (forScore forFlags : LookupOutcome)
    (ipAddress : String) (features : Features) : Features :=
  if ipAddress = "" then features
  else
    let (risk, cached) := IPIntelligence.score python.toPythonJson cached forScore
    match risk with
    | none => features
    | some risk =>
        let features := { features with ipReputationScore := .finite risk }
        match (IPIntelligence.getFlags python.toPythonJson cached forFlags).1 with
        | none => features
        | some flags =>
            { features with
              ipIsVpn := .ofBool flags.ipIsVpn
              ipIsTor := .ofBool flags.ipIsTor
              ipIsDatacenter := .ofBool flags.ipIsDatacenter
              ipIsProxy := .ofBool flags.ipIsProxy }

/-- The hour of the day, in UTC. -/
def hourOf (clock : Int) : Nat := (clock / seconds 3600 % 24).toNat

/-- `weekday()`: the epoch was a Thursday. -/
def weekdayOf (clock : Int) : Nat := ((clock / seconds 86400 + 3) % 7).toNat

def withClock (clock : Int) (features : Features) : Features :=
  let hour := hourOf clock
  let weekday := weekdayOf clock
  { features with
    hourOfDay := .ofCount hour
    dayOfWeek := .ofCount weekday
    isWeekend := .ofBool (5 ≤ weekday)
    isOffHours := .ofBool (hour < 6 || 23 < hour) }

def withDevice (request : ScoreRequest) (features : Features) : Features :=
  { features with
    isMobile := .ofBool request.device.isMobile
    isHeadlessBrowser := .ofBool request.device.isHeadless
    isBotUserAgent := .ofBool (isBotUA python request.userAgent) }

/-- `extract`, when its counters are read at `now` and its clock at `clock`, and the
cache and the lookups answer the IP intelligence as given. -/
def extract (store : RiskStore) (now clock : Int) (cached : Option CacheContent)
    (forScore forFlags : LookupOutcome) (request : ScoreRequest) : Option Features := do
  let features := extractVelocity store.features now request
  let features := withIntelligence python cached forScore forFlags request.ipAddress features
  let features := withClock clock features
  let features ←
    match nonempty (request.userID.getD "") with
    | some userID => withHistory python (store.getUserHistory userID) request features
    | none => some features
  return withDevice python request features

end FeatureExtractor
end Sentinel.Risk
