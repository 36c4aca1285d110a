import Mathlib
import Sentinel.Analytics.LiveStream
import Sentinel.Semantics.Rollup
import Sentinel.Wire.Float64

/-!
# The queries behind the dashboard

The endpoints of the analytics API and the ClickHouse queries they answer from.
`GetOverview` and `GetFraudRate` are determined by the table and the clock; the
others leave the order of equal rows open, and an answer is any that the query
permits.
-/

namespace Sentinel.Analytics

open Sentinel.Wire Sentinel.Semantics

/-- `strconv.Atoi` -/
def atoi (text : String) : Option Int :=
  let (negative, digits) := match text.toList with
    | '-' :: rest => (true, rest)
    | '+' :: rest => (false, rest)
    | plain => (false, plain)
  let magnitude : Int := Nat.ofDigitChars 10 digits 0
  let value := if negative then -magnitude else magnitude
  if digits ≠ [] ∧ digits.all Char.isDigit ∧ -2 ^ 63 ≤ value ∧ value < 2 ^ 63 then some value
  else none

/-- A number that fits is read back. -/
theorem atoi_toString {number : Nat} (small : number < 2 ^ 63) :
    atoi (toString number) = some (number : Int) := by
  have isDigit : ∀ char ∈ Nat.toDigits 10 number, char.isDigit := fun char member =>
    Nat.isDigit_of_mem_toDigits (by decide) (by decide) member
  have nonempty : Nat.toDigits 10 number ≠ [] := Nat.toDigits_ne_nil
  have unsigned : ∀ rest, Nat.toDigits 10 number ≠ '-' :: rest ∧
      Nat.toDigits 10 number ≠ '+' :: rest := by
    intro rest
    constructor
    all_goals
      intro signed
      exact absurd (isDigit _ (signed ▸ List.mem_cons_self)) (by decide)
  have split : (match Nat.toDigits 10 number with
      | '-' :: rest => (true, rest)
      | '+' :: rest => (false, rest)
      | plain => (false, plain)) = (false, Nat.toDigits 10 number) := by
    split
    · exact absurd ‹_› (unsigned _).1
    · exact absurd ‹_› (unsigned _).2
    · rfl
  have inRange : (-2 ^ 63 : Int) ≤ number ∧ (number : Int) < 2 ^ 63 := by omega
  simp only [atoi, Nat.toString_eq_ofList_toDigits, String.toList_ofList, split,
    Nat.ofDigitChars_ten_toDigits]
  rw [if_neg Bool.false_ne_true, if_pos ⟨nonempty, List.all_eq_true.mpr isDigit, inRange⟩]

/-- `c.Query(key, fallback)` -/
def queryParam (value : Option String) (fallback : String) : String :=
  match value with
  | none | some "" => fallback
  | some text => text

/-- What the columns Float32 and DateTime of `events` keep, and how the payload is read. -/
structure EventColumns where
  clickHouse : ClickHouseJson
  round : ℚ → ℚ
  truncate : Int → Int

/-- The event of a row of the table. -/
def EventColumns.scan (columns : EventColumns) (row : EventRow) : Event :=
  row.scan columns.clickHouse columns.round columns.truncate

/-- An hour in nanoseconds. -/
def hour : Int := 3600 * 10 ^ 9

def toStartOfHour (timestamp : Int) : Int := timestamp / hour * hour

/-- `timestamp >= now() - INTERVAL 24 HOUR` -/
def isRecent (now : Int) (event : Event) : Bool := now - 24 * hour ≤ event.timestamp

/-- `risk_score >= 60` -/
def isFraud (event : Event) : Bool := 60 ≤ event.riskScore

structure Overview where
  totalEvents : Nat
  fraudEvents : Nat
  fraudRate : ℚ

/-- `GetOverview` on the events of the table. -/
def getOverview (double : Float64) (stored : List Event) (now : Int) : Overview :=
  let totalEvents := stored.countP (isRecent now)
  let fraudEvents := stored.countP fun event => isRecent now event && isFraud event
  let fraudRate := if totalEvents > 0 then double.percentage fraudEvents totalEvents else 0
  { totalEvents, fraudEvents, fraudRate }

structure FraudRatePoint where
  timeBucket : Int
  total : Nat
  fraud : Nat

/-- `GetFraudRate` -/
def getFraudRate (stored : List Event) (now : Int) : List FraudRatePoint :=
  let recent := stored.filter (isRecent now)
  let bucket := fun event : Event => toStartOfHour event.timestamp
  ((recent.map bucket).dedup.mergeSort (· ≤ ·)).map fun timeBucket =>
    { timeBucket
      total := recent.countP (bucket · = timeBucket)
      fraud := recent.countP fun event => bucket event = timeBucket && isFraud event }

/-- `GetTopThreats` -/
def GetTopThreats (stored : List Event) : List (String × Nat) → Prop :=
  IsTally (·.ipAddress) (stored.filter isFraud) 10

/-- `GetGeo` -/
def GetGeo (stored : List Event) : List (String × Nat) → Prop :=
  IsTally (·.country) (stored.filter (·.country ≠ "")) 20

/-- `GetEvents` -/
def GetEvents (stored : List Event) (limit offset : Nat) : List Event → Prop :=
  IsPage (·.timestamp) stored limit offset

/-- What a handler answers. -/
inductive Reply (Data : Type) where
  | badRequest (error : String)
  | failed (error : String)
  | ok (data : Data)

/-- `handleEvents`; `repo` is what `s.repo.GetEvents` returns. -/
def handleEvents (repo : Nat → Nat → Except String (List Event)) (limit offset : Option String) :
    Reply (List Event) :=
  match atoi (queryParam limit "50") with
  | none => .badRequest "limit must be between 1 and 500"
  | some limit =>
      if limit < 1 ∨ limit > 500 then .badRequest "limit must be between 1 and 500"
      else match atoi (queryParam offset "0") with
        | none => .badRequest "offset must be non-negative"
        | some offset =>
            if offset < 0 then .badRequest "offset must be non-negative"
            else match repo limit.toNat offset.toNat with
              | .error error => .failed error
              | .ok events => .ok events

/-- Status and body, as `c.Status(status).JSON(body)` sends them. -/
def Reply.response {Data : Type} (encode : Data → Json) : Reply Data → Nat × Json
  | .badRequest error => (400, .obj [("error", .str error)])
  | .failed error => (500, .obj [("error", .str error)])
  | .ok data => (200, encode data)

section Pages

variable {stored : List Event} {limit offset number : Nat}

/-- What the API can answer from the table. -/
def EventsReply (stored : List Event) (limit offset : Option String) (reply : Reply (List Event)) :
    Prop :=
  ∃ repo, (∀ limit offset, ∃ events, repo limit offset = .ok events ∧
    GetEvents stored limit offset events) ∧ reply = handleEvents repo limit offset

/-- A number is never the empty parameter. -/
theorem queryParam_toString (number : Nat) (fallback : String) :
    queryParam (some (toString number)) fallback = toString number := by
  unfold queryParam
  split
  · rename_i missing
    cases missing
  · rename_i empty
    have chars := congrArg String.toList (Option.some.inj empty)
    rw [Nat.toString_eq_ofList_toDigits, String.toList_ofList] at chars
    exact absurd chars Nat.toDigits_ne_nil
  · rename_i text _ same
    exact (Option.some.inj same).symm

/-- A request for a page is answered by one. -/
theorem eventsReply_iff (least : 1 ≤ limit) (most : limit ≤ 500) (small : offset < 2 ^ 63)
    {events : List Event} :
    EventsReply stored (some (toString limit)) (some (toString offset)) (.ok events) ↔
      GetEvents stored limit offset events := by
  have read : ∀ repo, handleEvents repo (some (toString limit)) (some (toString offset)) =
      match repo limit offset with
      | .error error => .failed error
      | .ok events => .ok events := by
    intro repo
    have within : ¬ ((limit : Int) < 1 ∨ (limit : Int) > 500) := by omega
    have nonneg : ¬ (offset : Int) < 0 := by omega
    simp only [handleEvents, queryParam_toString, atoi_toString small,
      atoi_toString (show limit < 2 ^ 63 by omega), if_neg within, if_neg nonneg, Int.toNat_natCast]
  constructor
  · rintro ⟨repo, answers, same⟩
    obtain ⟨found, isFound, page⟩ := answers limit offset
    rw [read, isFound] at same
    exact (Reply.ok.inj same) ▸ page
  · intro page
    refine ⟨fun one two => .ok (if one = limit ∧ two = offset then events
      else ((stored.mergeSort fun first second => second.timestamp ≤ first.timestamp).drop two).take
        one), fun one two => ⟨_, rfl, ?_⟩, ?_⟩
    · split
      · rename_i own
        exact own.1 ▸ own.2 ▸ page
      · exact ⟨_, isArranged_mergeSort _ stored, rfl⟩
    · rw [read, if_pos ⟨rfl, rfl⟩]

/-- Who walks through the pages of an unchanged table gets every event exactly once in
any case if and only if no page ends between two events of one timestamp. -/
theorem walk_perm_iff (least : 1 ≤ limit) (most : limit ≤ 500)
    (enough : stored.length ≤ number * limit) (small : number * limit < 2 ^ 63) :
    (∀ pages : Nat → List Event,
        (∀ index < number, EventsReply stored (some (toString limit))
          (some (toString (index * limit))) (.ok (pages index))) →
        ((List.range number).flatMap pages).Perm stored) ↔
      ∀ index ≤ number, ¬ Straddled (·.timestamp) stored (index * limit) := by
  rw [← pages_perm_iff enough]
  refine forall_congr' fun pages => imp_congr_left (forall_congr' fun index => ?_)
  refine imp_congr_right fun below => eventsReply_iff least most ?_
  exact Nat.lt_of_le_of_lt (Nat.mul_le_mul_right limit below.le) small

/-- Two events of one second, one on each page. -/
theorem walk_of_two :
    ¬ ∀ pages : Nat → List Event,
      (∀ index < 2, EventsReply [{ id := "first" }, { id := "second" }] (some (toString 1))
        (some (toString (index * 1))) (.ok (pages index))) →
      ((List.range 2).flatMap pages).Perm [{ id := "first" }, { id := "second" }] := by
  rw [walk_perm_iff (by decide) (by decide) (by decide) (by decide)]
  intro apart
  refine apart 1 (by decide) ⟨{ id := "first" }, by simp, { id := "second" }, by simp, rfl, ?_,
    by decide, by decide⟩
  exact fun same => absurd (congrArg Event.id same) (by decide)

end Pages

section Rates

variable {stored : List Event} {now : Int}

/-- The hours of a chart, and the counts beside it, tell of the same events. -/
structure Charts (stored : List Event) (now : Int) (points : List FraudRatePoint)
    (overview : Overview) : Prop where
  ascending : (points.map (·.timeBucket)).Pairwise (· < ·)
  counted : ∀ point ∈ points, hour ∣ point.timeBucket ∧ 0 < point.total ∧
    point.fraud ≤ point.total ∧ point.total = stored.countP fun event =>
      isRecent now event && (point.timeBucket ≤ event.timestamp &&
        event.timestamp < point.timeBucket + hour)
  total : (points.map (·.total)).sum = overview.totalEvents
  fraud : (points.map (·.fraud)).sum = overview.fraudEvents
  rate : 0 ≤ overview.fraudRate ∧ overview.fraudRate ≤ 100
  few : (∀ event ∈ stored, event.timestamp ≤ now) → points.length ≤ 25

/-- An hour collects the instants from its start to the next one's. -/
theorem toStartOfHour_eq_iff {timestamp bucket : Int} (aligned : hour ∣ bucket) :
    toStartOfHour timestamp = bucket ↔ bucket ≤ timestamp ∧ timestamp < bucket + hour := by
  obtain ⟨number, rfl⟩ := aligned
  unfold toStartOfHour hour
  omega

/-- The rate is a percentage, rounded or not. -/
theorem fraudRate_bounds (double : Float64) (stored : List Event) (now : Int) :
    0 ≤ (getOverview double stored now).fraudRate ∧
      (getOverview double stored now).fraudRate ≤ 100 := by
  have fewer : stored.countP (fun event => isRecent now event && isFraud event) ≤
      stored.countP (isRecent now) :=
    List.countP_mono_left fun event _ both => (Bool.and_eq_true_iff.mp both).1
  simp only [getOverview]
  split
  · rename_i some
    exact double.percentage_bounds some fewer
  · exact ⟨le_refl 0, by norm_num⟩

/-- The hours are the keys of `GROUP BY`, in ascending order. -/
theorem getFraudRate_groups (stored : List Event) (now : Int) :
    IsGroups (fun event => toStartOfHour event.timestamp) (stored.filter (isRecent now))
      ((getFraudRate stored now).map (·.timeBucket)) ∧
        ((getFraudRate stored now).map (·.timeBucket)).Pairwise (· < ·) := by
  have buckets : (getFraudRate stored now).map (·.timeBucket) =
      (((stored.filter (isRecent now)).map fun event =>
        toStartOfHour event.timestamp).dedup.mergeSort (· ≤ ·)) :=
    (List.map_map ..).trans (List.map_id _)
  have isGroups : IsGroups (fun event : Event => toStartOfHour event.timestamp) _ _ :=
    isGroups_dedup.perm (List.mergeSort_perm ((stored.filter (isRecent now)).map fun event =>
        toStartOfHour event.timestamp).dedup fun one two => one ≤ two)
  rw [buckets]
  refine ⟨isGroups, ?_⟩
  have sorted := List.pairwise_mergeSort' (· ≤ ·) ((stored.filter (isRecent now)).map fun event =>
        toStartOfHour event.timestamp).dedup
  exact (sorted.and isGroups.distinct).imp fun both => lt_of_le_of_ne both.1 both.2

/-- A point counts the recent events of its hour. -/
theorem counts_of_point {point : FraudRatePoint} (member : point ∈ getFraudRate stored now) :
    point.total = (stored.filter (isRecent now)).countP
        (fun event => toStartOfHour event.timestamp = point.timeBucket && true) ∧
      point.fraud = (stored.filter (isRecent now)).countP
        (fun event => toStartOfHour event.timestamp = point.timeBucket && isFraud event) := by
  obtain ⟨bucket, _, rfl⟩ := List.mem_map.mp member
  simp only [Bool.and_true, and_self]

/-- Summed over the hours, the counts are those of all recent events. -/
theorem sum_points {value : FraudRatePoint → Nat} {kind : Event → Bool}
    (counts : ∀ point ∈ getFraudRate stored now, value point =
      (stored.filter (isRecent now)).countP
        fun event => toStartOfHour event.timestamp = point.timeBucket && kind event) :
    ((getFraudRate stored now).map value).sum =
      stored.countP fun event => isRecent now event && kind event := by
  have summed := (getFraudRate_groups stored now).1.sum_countP kind
  rw [List.map_map] at summed
  rw [List.map_congr_left counts]
  refine summed.trans ?_
  rw [List.countP_filter]
  exact List.countP_congr fun event _ => by rw [Bool.and_comm]

/-- The recent events lie in the last twenty-five hours of the clock. -/
theorem recent_hours (recent : ∀ event ∈ stored, event.timestamp ≤ now) {bucket : Int}
    (member : bucket ∈ (getFraudRate stored now).map (·.timeBucket)) :
    bucket / hour ∈ Finset.Icc (now / hour - 24) (now / hour) := by
  obtain ⟨event, among, rfl⟩ := ((getFraudRate_groups stored now).1.complete bucket).mp member
  obtain ⟨listed, after⟩ := List.mem_filter.mp among
  have before := recent event listed
  have bound := of_decide_eq_true after
  rw [Finset.mem_Icc]
  simp only [toStartOfHour, hour] at bound ⊢
  omega

/-- The overview and the hourly chart tell the same of every table. -/
theorem charts_of_table (double : Float64) (stored : List Event) (now : Int) :
    Charts stored now (getFraudRate stored now) (getOverview double stored now) := by
  obtain ⟨isGroups, ascending⟩ := getFraudRate_groups stored now
  have aligned : ∀ point ∈ getFraudRate stored now, hour ∣ point.timeBucket := by
    intro point member
    obtain ⟨event, _, same⟩ := (isGroups.complete _).mp (List.mem_map_of_mem member)
    exact same ▸ Dvd.intro_left _ rfl
  refine ⟨ascending, fun point member => ⟨aligned point member, ?_, ?_, ?_⟩, ?_, ?_,
    fraudRate_bounds double stored now, fun recent => ?_⟩
  · obtain ⟨event, among, same⟩ := (isGroups.complete _).mp (List.mem_map_of_mem member)
    rw [(counts_of_point member).1]
    refine List.countP_pos_iff.mpr ⟨event, among, ?_⟩
    rw [Bool.and_true]
    exact decide_eq_true same
  · rw [(counts_of_point member).1, (counts_of_point member).2]
    refine List.countP_mono_left fun event _ both => ?_
    rw [Bool.and_true]
    exact (Bool.and_eq_true_iff.mp both).1
  · rw [(counts_of_point member).1, List.countP_filter]
    refine List.countP_congr fun event _ => ?_
    simp only [Bool.and_true, Bool.and_eq_true, decide_eq_true_eq,
      toStartOfHour_eq_iff (aligned point member)]
    exact And.comm
  · rw [sum_points fun point member => (counts_of_point member).1]
    simp only [Bool.and_true]
    rfl
  · exact sum_points fun point member => (counts_of_point member).2
  · have distinct : (((getFraudRate stored now).map (·.timeBucket)).map (· / hour)).Nodup := by
      refine List.Nodup.map_on (fun one oneIn two twoIn same => ?_) isGroups.distinct
      obtain ⟨onePoint, oneMember, rfl⟩ := List.mem_map.mp oneIn
      obtain ⟨twoPoint, twoMember, rfl⟩ := List.mem_map.mp twoIn
      exact (Int.ediv_left_inj (aligned _ oneMember) (aligned _ twoMember)).mp same
    have inside : (((getFraudRate stored now).map (·.timeBucket)).map (· / hour)).toFinset ⊆
        Finset.Icc (now / hour - 24) (now / hour) := by
      intro number member
      obtain ⟨bucket, listed, rfl⟩ := List.mem_map.mp (List.mem_toFinset.mp member)
      exact recent_hours recent listed
    have number := Finset.card_le_card inside
    rw [List.toFinset_card_of_nodup distinct, List.length_map, List.length_map,
      Int.card_Icc] at number
    omega

example : (getOverview Float64.exactly [{ riskScore := 60 }, {}] zeroTime).fraudRate = 50 := by
  decide +kernel

end Rates

/-- The addresses listed account for most of the attempts, and the countries for most of
the events, however the database breaks ties. -/
theorem tallies_top {threats others countries : List (String × Nat)}
    (asked : GetTopThreats stored threats) (again : GetTopThreats stored others)
    (geo : GetGeo stored countries) :
    TopTally (·.ipAddress) (stored.filter isFraud) 10 threats ∧
      threats.map Prod.snd = others.map Prod.snd ∧
        TopTally (·.country) (stored.filter (·.country ≠ "")) 20 countries :=
  ⟨asked.top, asked.counts_eq again, geo.top⟩

/-- Two addresses are tied, and one of the risky events has no country. -/
def tiedEvents : List Event :=
  [{ ipAddress := "10.0.0.1", country := "Germany", riskScore := 90 },
    { ipAddress := "10.0.0.2", country := "France", riskScore := 75 },
    { ipAddress := "10.0.0.3", riskScore := 61 },
    { ipAddress := "10.0.0.1", country := "Germany", riskScore := 60 },
    { ipAddress := "10.0.0.4", country := "France", riskScore := 10 },
    { ipAddress := "10.0.0.2", country := "Germany", riskScore := 80 }]

/-- Both orders of the tied addresses are answers. -/
theorem tallies_top_tied :
    TopTally (·.ipAddress) (tiedEvents.filter isFraud) 10
        [("10.0.0.1", 2), ("10.0.0.2", 2), ("10.0.0.3", 1)] ∧
      [("10.0.0.1", 2), ("10.0.0.2", 2), ("10.0.0.3", 1)].map Prod.snd =
          [("10.0.0.2", 2), ("10.0.0.1", 2), ("10.0.0.3", 1)].map Prod.snd ∧
        TopTally (fun event : Event => event.country) (tiedEvents.filter (·.country ≠ "")) 20
          [("Germany", 3), ("France", 2)] := by
  have asked : GetTopThreats tiedEvents [("10.0.0.1", 2), ("10.0.0.2", 2), ("10.0.0.3", 1)] :=
    isTally_of_descending (@IsGroups.perm _ _ _ _ _ ["10.0.0.1", "10.0.0.2", "10.0.0.3"]
      isGroups_dedup (by decide +kernel)) (by decide +kernel) (by decide) (by decide +kernel)
  have again : GetTopThreats tiedEvents [("10.0.0.2", 2), ("10.0.0.1", 2), ("10.0.0.3", 1)] :=
    isTally_of_descending (@IsGroups.perm _ _ _ _ _ ["10.0.0.2", "10.0.0.1", "10.0.0.3"]
      isGroups_dedup (by decide +kernel)) (by decide +kernel) (by decide) (by decide +kernel)
  have geo : GetGeo tiedEvents [("Germany", 3), ("France", 2)] :=
    isTally_of_descending (@IsGroups.perm _ _ _ _ _ ["Germany", "France"]
      isGroups_dedup (by decide +kernel)) (by decide +kernel) (by decide) (by decide +kernel)
  exact tallies_top asked again geo

end Sentinel.Analytics
