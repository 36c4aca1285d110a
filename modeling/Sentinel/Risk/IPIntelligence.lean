import Mathlib.Data.List.Infix
import Mathlib.Tactic.Linarith
import Mathlib.Tactic.NormNum
import Sentinel.Wire.Python

/-!
# IP intelligence

`IPIntelligence` over whatever the cache holds for an address and whatever the
lookup brings. It treats every value that it gets as a dictionary with a textual
`isp`, takes a reply that reports a failure for one about a clean address, and
expects of a corrupted cache entry only what `json.loads` calls a `ValueError`.
-/

namespace Sentinel.Risk

open Sentinel.Wire

/-- What becomes of the GET to the lookup service. -/
inductive LookupOutcome where
  /-- A timeout or another exception of the client. -/
  | raised
  /-- An answer; a body that is no JSON makes `r.json()` raise. -/
  | answered (status : Nat) (body : Option Json)

/-- `get_flags` -/
structure IPFlags where
  ipIsVpn : Bool
  ipIsTor : Bool
  ipIsDatacenter : Bool
  ipIsProxy : Bool

/-- What the cache holds under a key, as the Redis client reads it. -/
inductive CacheContent where
  | text (text : String)
  /-- The bytes are no UTF-8: the GET raises a `UnicodeDecodeError`. -/
  | undecodable
deriving DecidableEq

/-- What `json.loads` makes of a text. -/
inductive LoadsOutcome where
  | value (data : Json)
  /-- The text is no JSON. -/
  | valueError
  /-- Its arrays or objects are nested too deeply. -/
  | recursionError

/-- `json.loads`, `json.dumps` and `str.lower`. -/
structure PythonJson where
  loads : String → LoadsOutcome
  dumps : Json → String
  lower : String → String
  lower_plain : ∀ text, (∀ char ∈ text.toList, 'a' ≤ char ∧ char ≤ 'z') → lower text = text

namespace IPIntelligence

variable (python : PythonJson)

/-- `_fetch_ip_data` -/
def fetchIPData : LookupOutcome → Json
  | .raised => .obj []
  | .answered status body => if status = 200 then body.getD (.obj []) else .obj []

/-- What `_get_or_fetch` finds in the cache. -/
inductive CacheRead where
  | found (data : Json)
  /-- Nothing, or a text that is empty or no JSON. -/
  | missing
  | raised

def readCache : Option CacheContent → CacheRead
  | none => .missing
  | some .undecodable => .raised
  | some (.text text) =>
      if text = "" then .missing
      else match python.loads text with
        | .value data => .found data
        | .valueError => .missing
        | .recursionError => .raised

/-- `_get_or_fetch`: the data, if it does not raise, and what the cache holds for the
address after it. -/
def getOrFetch (cached : Option CacheContent) (outcome : LookupOutcome) :
    Option Json × Option CacheContent :=
  match readCache python cached with
  | .found data => (some data, cached)
  | .raised => (none, cached)
  | .missing =>
      let data := fetchIPData outcome
      (some data, if data.truthy then some (.text (python.dumps data)) else cached)

/-- `"tor" in value.lower()`; only a text has the method. -/
def mentionsTor : Json → Option Bool
  | .str text => some ("tor".toList <:+: (python.lower text).toList)
  | .time instant => some ("tor".toList <:+: (python.lower (rfc3339 instant)).toList)
  | _ => none

/-- `_compute_score` -/
def computeScore (data : Json) : Option ℚ := do
  let proxy ← data.get "proxy" .null
  let hosting ← data.get "hosting" .null
  let isp ← data.get "isp" (.str "")
  let tor ← mentionsTor python isp
  let score := (if proxy.truthy then 35 else 0) + (if hosting.truthy then 30 else 0) +
    if tor then 40 else 0
  return min (if data.truthy then score else 30) 100

/-- `_is_vpn`, `_is_tor`, `_is_datacenter` and `_is_proxy` -/
def flags (data : Json) : Option IPFlags := do
  let vpn ← data.get "proxy" .null
  let isp ← data.get "isp" (.str "")
  let tor ← mentionsTor python isp
  let datacenter ← data.get "hosting" .null
  let proxy ← data.get "proxy" .null
  return ⟨vpn.truthy, tor, datacenter.truthy, proxy.truthy⟩

/-- `score`, and what the cache holds after it. -/
def score (cached : Option CacheContent) (outcome : LookupOutcome) :
    Option ℚ × Option CacheContent :=
  let (data, cached) := getOrFetch python cached outcome
  (data.bind (computeScore python), cached)

/-- `get_flags`, and what the cache holds after it. -/
def getFlags (cached : Option CacheContent) (outcome : LookupOutcome) :
    Option IPFlags × Option CacheContent :=
  let (data, cached) := getOrFetch python cached outcome
  (data.bind (flags python), cached)

/-- No data at all, or a reply that reports a failure. -/
def Unusable (data : Json) : Prop :=
  data.truthy = false ∨ data.get "status" .null = some (.str "fail")

/-- Neither call raises, the score is a percentage, and without usable data it is
the moderate risk of an unknown address. -/
def FailsOpen (cached : Option CacheContent) (outcome : LookupOutcome) : Prop :=
  ∃ data risk, (getOrFetch python cached outcome).1 = some data ∧
    (score python cached outcome).1 = some risk ∧ 0 ≤ risk ∧ risk ≤ 100 ∧
    (Unusable data → risk = 30) ∧ (getFlags python cached outcome).1.isSome

/-- The JSON value that the cache, or else the lookup, delivers. A cache entry that
cannot be decoded or is nested too deeply delivers nothing. -/
def Delivers (cached : Option CacheContent) (outcome : LookupOutcome) (data : Json) : Prop :=
  readCache python cached = .found data ∨
    readCache python cached = .missing ∧ fetchIPData outcome = data

/-- The data is a dictionary whose `isp`, if it has one, is a text. -/
def Readable (data : Json) : Prop :=
  ∃ entries, data = .obj entries ∧ ∃ isp, data.get "isp" (.str "") = some isp ∧
    (mentionsTor python isp).isSome

/-- A failure report that names a hosting address, and neither a proxy nor TOR. -/
def ReportsHosting (data : Json) : Prop :=
  ∃ proxy hosting isp, data.get "proxy" .null = some proxy ∧ proxy.truthy = false ∧
    data.get "hosting" .null = some hosting ∧ hosting.truthy ∧
    data.get "isp" (.str "") = some isp ∧ mentionsTor python isp = some false

variable {python} {data : Json}

/-- The risk of readable data, by its three fields. -/
def riskOf (data proxy hosting : Json) (tor : Bool) : ℚ :=
  min (if data.truthy then
    (if proxy.truthy then 35 else 0) + (if hosting.truthy then 30 else 0) + if tor then 40 else 0
  else 30) 100

/-- The risk of an address lies between 0 and 100. -/
theorem riskOf_mem (data proxy hosting : Json) (tor : Bool) :
    0 ≤ riskOf data proxy hosting tor ∧ riskOf data proxy hosting tor ≤ 100 := by
  refine ⟨le_min ?_ (by norm_num), min_le_right _ _⟩
  split_ifs <;> norm_num

/-- Only hosting, without a proxy and TOR, gives data the risk of no data. -/
theorem riskOf_eq_iff {proxy hosting : Json} {tor : Bool} (present : data.truthy) :
    riskOf data proxy hosting tor = 30 ↔
      proxy.truthy = false ∧ hosting.truthy ∧ tor = false := by
  unfold riskOf
  rw [if_pos present]
  cases proxy.truthy <;> cases hosting.truthy <;> cases tor <;> norm_num

/-- What both calls make of a dictionary. -/
theorem readings (entries : List (String × Json)) :
    ∃ proxy hosting isp, (Json.obj entries).get "proxy" .null = some proxy ∧
      (Json.obj entries).get "hosting" .null = some hosting ∧
      (Json.obj entries).get "isp" (.str "") = some isp ∧
      computeScore python (.obj entries) =
        (mentionsTor python isp).map (riskOf (.obj entries) proxy hosting) ∧
      flags python (.obj entries) = (mentionsTor python isp).map fun tor =>
        ⟨proxy.truthy, tor, hosting.truthy, proxy.truthy⟩ := by
  refine ⟨_, _, _, rfl, rfl, rfl, ?_, ?_⟩
  · simp only [computeScore, Json.get, Option.bind_eq_bind, Option.bind_some]
    cases mentionsTor python _ <;> rfl
  · simp only [flags, Json.get, Option.bind_eq_bind, Option.bind_some]
    cases mentionsTor python _ <;> rfl

/-- A reply that is no object has no score: `.get` raises. -/
theorem computeScore_eq_none (other : ∀ entries, data ≠ .obj entries) :
    computeScore python data = none := by
  cases data with
  | obj entries => exact absurd rfl (other entries)
  | _ => rfl

/-- An object that Python takes as false is empty, so it has no status. -/
theorem status_of_empty (entries : List (String × Json))
    (empty : (Json.obj entries).truthy = false) :
    (Json.obj entries).get "status" .null = some .null := by
  obtain rfl : entries = [] := by simpa [Json.truthy] using empty
  rfl

/-- When a call gives data, and which. -/
theorem getOrFetch_eq_some_iff {cached : Option CacheContent} {outcome : LookupOutcome} :
    (getOrFetch python cached outcome).1 = some data ↔ Delivers python cached outcome data := by
  unfold getOrFetch Delivers
  cases readCache python cached with
  | found other => simp
  | missing => simp
  | raised => simp

/-- The calls on data that have been delivered fail open exactly when the data are a
dictionary with a textual `isp` or none, and a report of a failure happens to be scored
as hosting. -/
theorem readable_iff :
    (∃ risk, computeScore python data = some risk ∧ 0 ≤ risk ∧ risk ≤ 100 ∧
        (Unusable data → risk = 30) ∧ (flags python data).isSome) ↔
      Readable python data ∧
        (data.get "status" .null = some (.str "fail") → ReportsHosting python data) := by
  constructor
  · rintro ⟨risk, scored, -, -, unknown, -⟩
    obtain ⟨entries, rfl⟩ : ∃ entries, data = .obj entries := by
      by_contra other
      rw [computeScore_eq_none fun entries same => other ⟨entries, same⟩] at scored
      cases scored
    obtain ⟨proxy, hosting, isp, hasProxy, hasHosting, hasIsp, computed, -⟩ :=
      @readings python entries
    rw [computed] at scored
    obtain ⟨tor, mentions, rfl⟩ := Option.map_eq_some_iff.mp scored
    refine ⟨⟨entries, rfl, isp, hasIsp, by simp [mentions]⟩, fun failed => ?_⟩
    have present : (Json.obj entries).truthy := by
      by_contra empty
      rw [status_of_empty entries (by simpa using empty)] at failed
      cases failed
    obtain ⟨noProxy, isHosting, rfl⟩ := (riskOf_eq_iff present).mp (unknown (.inr failed))
    exact ⟨proxy, hosting, isp, hasProxy, noProxy, hasHosting, isHosting, hasIsp, mentions⟩
  · rintro ⟨⟨entries, rfl, isp, hasIsp, texts⟩, reports⟩
    obtain ⟨tor, mentions⟩ := Option.isSome_iff_exists.mp texts
    obtain ⟨proxy, hosting, _, hasProxy, hasHosting, same, computed, flagged⟩ :=
      @readings python entries
    obtain rfl := Option.some.inj (hasIsp.symm.trans same)
    obtain ⟨low, high⟩ := riskOf_mem (.obj entries) proxy hosting tor
    refine ⟨riskOf (.obj entries) proxy hosting tor, ?_, low, high, ?_, ?_⟩
    · rw [computed, mentions]
      rfl
    · rintro (empty | failed)
      · simp [riskOf, empty]
        norm_num
      · obtain ⟨other, another, text, hasOther, noProxy, hasAnother, isHosting, hasText, plain⟩ :=
          reports failed
        obtain rfl := Option.some.inj (hasProxy.symm.trans hasOther)
        obtain rfl := Option.some.inj (hasHosting.symm.trans hasAnother)
        obtain rfl := Option.some.inj (hasIsp.symm.trans hasText)
        obtain rfl := Option.some.inj (mentions.symm.trans plain)
        have present : (Json.obj entries).truthy := by
          by_contra empty
          rw [status_of_empty entries (by simpa using empty)] at failed
          cases failed
        exact (riskOf_eq_iff present).mpr ⟨noProxy, isHosting, rfl⟩
    · rw [flagged, mentions]
      rfl

/-- The lookup fails open exactly when there is a JSON value for the address, it is a
dictionary with a textual `isp` or none, and a report of a failure happens to be scored
as hosting. -/
theorem failsOpen_iff (python : PythonJson) (cached : Option CacheContent)
    (outcome : LookupOutcome) :
    FailsOpen python cached outcome ↔
      ∃ data, Delivers python cached outcome data ∧ Readable python data ∧
        (data.get "status" .null = some (.str "fail") → ReportsHosting python data) := by
  unfold FailsOpen score getFlags
  constructor
  · rintro ⟨data, risk, got, scored, low, high, unknown, flagged⟩
    simp only [got, Option.bind_some] at scored flagged
    exact ⟨data, getOrFetch_eq_some_iff.mp got,
      readable_iff.mp ⟨risk, scored, low, high, unknown, flagged⟩⟩
  · rintro ⟨data, delivers, readable⟩
    have got := getOrFetch_eq_some_iff.mpr delivers
    obtain ⟨risk, scored, rest⟩ := readable_iff.mpr readable
    exact ⟨data, risk, got, by simpa only [got, Option.bind_some] using ⟨scored, rest⟩⟩

/-- The JSON texts that are met below. -/
def plainJson : PythonJson where
  loads
    | "null" => .value .null
    | "[[[" => .recursionError
    | _ => .valueError
  dumps _ := "{}"
  lower text := text
  lower_plain _ _ := rfl

/-- A cache entry that is nested too deeply or no UTF-8 raises, a cached `null` raises, and
a well-formed report of a failure scores zero. -/
theorem failsOpen_fails :
    ¬ FailsOpen plainJson (some (.text "[[[")) .raised ∧
      ¬ FailsOpen plainJson (some .undecodable) .raised ∧
      ¬ FailsOpen plainJson (some (.text "null")) .raised ∧
      ¬ ∀ outcome, FailsOpen plainJson none outcome := by
  refine ⟨?_, ?_, ?_, ?_⟩
  · rintro ⟨data, risk, got, -⟩
    cases got
  · rintro ⟨data, risk, got, -⟩
    cases got
  · rintro ⟨data, risk, got, scored, -⟩
    cases scored
  · intro always
    obtain ⟨data, risk, got, scored, -, -, unknown, -⟩ :=
      always (.answered 200 (some (.obj [("status", .str "fail")])))
    have clean : risk = 0 := by
      have computed : (score plainJson none
          (.answered 200 (some (.obj [("status", .str "fail")])))).1 = some 0 := by decide +kernel
      exact Option.some.inj (scored.symm.trans computed)
    cases got
    rw [unknown (.inr rfl)] at clean
    norm_num at clean

end IPIntelligence
end Sentinel.Risk
