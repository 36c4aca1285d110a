import Sentinel.Alert.Dispatcher
import Sentinel.Analytics.Event
import Sentinel.Risk.Decisions
import Sentinel.Wire.PythonStr

/-!
# Publication of decisions

`RiskDecisionProducer.publish_decision` and what the two services that consume
the topic read. Python writes NaN and the infinities as bare words, which are no
JSON, and neither consumer gets anything out of such a message. A surrogate that the
request's texts hold is lost on the way to Go.
-/

namespace Sentinel.Risk

open Sentinel.Wire Sentinel.Analytics Sentinel.Alert

/-- A value that `json.dumps` writes. -/
inductive Dumped where
  | json (value : Json)
  | float (value : PyFloat)

/-- What the scanner of `encoding/json` makes of it. -/
def Dumped.scan : Dumped → Option Json
  | .json value => some value
  | .float (.finite value) => some (.num value)
  | .float .posInf | .float .negInf | .float .nan => none

/-- The bytes of an object, as the scanner reads them: one value that it rejects
spoils the whole. -/
def scanObject (entries : List (String × Dumped)) : Option Json :=
  (entries.mapM fun (entry : String × Dumped) => entry.2.scan.map (Prod.mk entry.1)).map .obj

def textOrNull : Option String → Json
  | none => .null
  | some text => .str text

/-- The event of `publish_decision`; the clock is read twice. -/
def decisionEvent (decision : RiskDecision) (timestamp occurredAt : Int) :
    List (String × Dumped) :=
  [("event_type", .json (.str "risk.decision.created")),
    ("schema_version", .json (.num 1)),
    ("producer", .json (.str "risk-engine")),
    ("decision_id", .json (.str decision.decisionID.string)),
    ("request_id", .json (.str decision.requestID)),
    ("user_id", .json (textOrNull decision.userID)),
    ("ip_address", .json (.str decision.ipAddress)),
    ("final_score", .json (.num decision.finalScore)),
    ("action", .json (.str decision.action.text)),
    ("scores", .json decision.scores.json),
    ("triggered_rules", .json (.arr (decision.triggeredRules.map .str))),
    ("shap_top5", .json (match decision.shapTop5 with
      | none => .null
      | some contributions => .arr (contributions.map ShapContribution.json))),
    ("processing_time_ms", .json (.num decision.processingTimeMs)),
    ("country", .json (.str decision.country)),
    ("country_code", .json (.str decision.countryCode)),
    ("lat", .float decision.lat),
    ("lon", .float decision.lon),
    ("timestamp", .json (.time timestamp)),
    ("occurred_at", .json (.time occurredAt)),
    ("data", .json (.obj
      [("final_score", .num decision.finalScore), ("action", .str decision.action.text),
        ("scores", decision.scores.json),
        ("triggered_rules", .arr (decision.triggeredRules.map .str))]))]

/-- The message on the topic, as a Go service reads it: the texts of the decision are what
Go makes of them. -/
def publishedMessage (decision : RiskDecision) (timestamp occurredAt : Int) : Option Json :=
  scanObject (decisionEvent decision timestamp occurredAt)

/-- The alert that the alert service decodes, with its action filled in. -/
def decodeAlert (message : Option Json) : Option AlertEvent :=
  (message.bind AlertEvent.unmarshal).map AlertEvent.withAction

/-- The event carries the decision. -/
structure EventCarries (event : Event) (decision : RiskDecision) : Prop where
  eventID : event.eventID = decision.decisionID.string
  id : event.id = decision.decisionID.string
  userID : event.userID = decision.userID.getD ""
  requestID : event.requestID = decision.requestID
  ipAddress : event.ipAddress = decision.ipAddress
  action : event.action = decision.action.text
  riskScore : event.riskScore = decision.finalScore
  country : event.country = decision.country
  countryCode : event.countryCode = decision.countryCode
  lat : PyFloat.finite event.lat = decision.lat
  lon : PyFloat.finite event.lon = decision.lon

structure AlertCarries (alert : AlertEvent) (decision : RiskDecision) : Prop where
  alertID : alert.alertID = decision.decisionID.string
  userID : alert.userID = decision.userID.getD ""
  action : alert.action = decision.action.text
  score : alert.score = decision.finalScore

/-- A decision with finite coordinates is published as the document of its members. -/
theorem publishedMessage_finite {decision : RiskDecision} {lat lon : ℚ}
    (north : decision.lat = .finite lat) (east : decision.lon = .finite lon)
    (timestamp occurredAt : Int) :
    publishedMessage decision timestamp occurredAt =
      some (.obj ((decisionEvent decision timestamp occurredAt).map fun entry =>
        (entry.1, entry.2.scan.getD .null))) := by
  simp [publishedMessage, scanObject, decisionEvent, Dumped.scan, north, east]

/-- The keys of a decision that an event has no field for. -/
theorem event_skips : ∀ key ∈ ["scores", "triggered_rules", "shap_top5", "processing_time_ms", "data"],
    ∀ field ∈ Event.fields, foldName field.tag ≠ foldName key := by
  decide +kernel

/-- What the analytics service's decoder reads from it. -/
theorem unmarshal_event {decision : RiskDecision} {lat lon : ℚ}
    (north : decision.lat = .finite lat) (east : decision.lon = .finite lon)
    (timestamp occurredAt : Int) :
    Event.unmarshal (.obj ((decisionEvent decision timestamp occurredAt).map fun entry =>
        (entry.1, entry.2.scan.getD .null))) =
      some {
        eventType := "risk.decision.created"
        schemaVersion := 1
        producer := "risk-engine"
        decisionID := decision.decisionID.string
        requestID := decision.requestID
        userID := decision.userID.getD ""
        ipAddress := decision.ipAddress
        finalScore := decision.finalScore
        action := decision.action.text
        country := decision.country
        countryCode := decision.countryCode
        lat, lon, timestamp, occurredAt } := by
  have skip : ∀ key ∈ ["scores", "triggered_rules", "shap_top5", "processing_time_ms", "data"],
      ∀ json value, JsonField.readEntry Event.fields value (key, json) = some value :=
    fun key member json value => JsonField.readEntry_skip (event_skips key member) json value
  simp only [decisionEvent, List.map_cons, List.map_nil, Dumped.scan, north, east,
    Option.getD_some]
  unfold Event.unmarshal JsonField.unmarshal
  cases decision.userID
  all_goals
    iterate 9 refine JsonField.foldlM_readEntry rfl ?_
    iterate 4 refine JsonField.foldlM_readEntry (skip _ (by decide) _ _) ?_
    iterate 6 refine JsonField.foldlM_readEntry rfl ?_
    exact JsonField.foldlM_readEntry (skip _ (by decide) _ _) rfl

/-- The keys of a decision that the geography has no field for. -/
theorem geo_skips : ∀ key ∈ ["event_type", "schema_version", "producer", "decision_id",
    "request_id", "user_id", "ip_address", "final_score", "action", "scores", "triggered_rules",
    "shap_top5", "processing_time_ms", "timestamp", "occurred_at", "data"],
    ∀ field ∈ Geo.fields, foldName field.tag ≠ foldName key := by
  decide +kernel

theorem unmarshal_geo {decision : RiskDecision} {lat lon : ℚ}
    (north : decision.lat = .finite lat) (east : decision.lon = .finite lon)
    (timestamp occurredAt : Int) :
    JsonField.unmarshal Geo.fields {} (.obj ((decisionEvent decision timestamp occurredAt).map
        fun entry => (entry.1, entry.2.scan.getD .null))) =
      some ⟨decision.country, decision.countryCode, lat, lon⟩ := by
  have skip : ∀ key ∈ ["event_type", "schema_version", "producer", "decision_id",
      "request_id", "user_id", "ip_address", "final_score", "action", "scores", "triggered_rules",
      "shap_top5", "processing_time_ms", "timestamp", "occurred_at", "data"],
      ∀ json value, JsonField.readEntry Geo.fields value (key, json) = some value :=
    fun key member json value => JsonField.readEntry_skip (geo_skips key member) json value
  simp only [decisionEvent, List.map_cons, List.map_nil, Dumped.scan, north, east,
    Option.getD_some]
  unfold JsonField.unmarshal
  iterate 13 refine JsonField.foldlM_readEntry (skip _ (by decide) _ _) ?_
  iterate 4 refine JsonField.foldlM_readEntry rfl ?_
  iterate 2 refine JsonField.foldlM_readEntry (skip _ (by decide) _ _) ?_
  exact JsonField.foldlM_readEntry (skip _ (by decide) _ _) rfl

/-- The keys of a decision that an alert has no field for. -/
theorem alert_skips : ∀ key ∈ ["event_type", "schema_version", "producer", "ip_address",
    "triggered_rules", "shap_top5", "processing_time_ms", "country", "country_code", "lat", "lon",
    "timestamp", "occurred_at"],
    ∀ field ∈ AlertEvent.fields, foldName field.tag ≠ foldName key := by
  decide +kernel

/-- The alert service reads the same decision. -/
theorem unmarshal_alert {decision : RiskDecision} {lat lon : ℚ}
    (north : decision.lat = .finite lat) (east : decision.lon = .finite lon)
    (timestamp occurredAt : Int) :
    ∃ alert, AlertEvent.unmarshal (.obj ((decisionEvent decision timestamp occurredAt).map
        fun entry => (entry.1, entry.2.scan.getD .null))) = some alert ∧
      AlertCarries alert decision := by
  have skip : ∀ key ∈ ["event_type", "schema_version", "producer", "ip_address",
      "triggered_rules", "shap_top5", "processing_time_ms", "country", "country_code", "lat", "lon",
      "timestamp", "occurred_at"],
      ∀ json value, JsonField.readEntry AlertEvent.fields value (key, json) = some value :=
    fun key member json value => JsonField.readEntry_skip (alert_skips key member) json value
  simp only [decisionEvent, List.map_cons, List.map_nil, Dumped.scan, north, east,
    Option.getD_some]
  unfold AlertEvent.unmarshal JsonField.unmarshal
  refine ⟨{ AlertEvent.zero with
    alertID := decision.decisionID.string
    userID := decision.userID.getD ""
    payload := decision.scores.json
    requestID := decision.requestID
    action := decision.action.text
    score := decision.finalScore
    data := [("final_score", .num decision.finalScore), ("action", .str decision.action.text),
      ("scores", decision.scores.json),
      ("triggered_rules", .arr (decision.triggeredRules.map .str))] }, ?_, rfl, rfl, rfl, rfl⟩
  cases decision.userID
  all_goals
    iterate 3 refine JsonField.foldlM_readEntry (skip _ (by decide) _ _) ?_
    iterate 3 refine JsonField.foldlM_readEntry rfl ?_
    refine JsonField.foldlM_readEntry (skip _ (by decide) _ _) ?_
    iterate 3 refine JsonField.foldlM_readEntry rfl ?_
    iterate 9 refine JsonField.foldlM_readEntry (skip _ (by decide) _ _) ?_
    exact JsonField.foldlM_readEntry rfl rfl

/-- A value that every writer of JSON can write. -/
def PyFloat.IsFinite (value : PyFloat) : Prop := ∃ number, value = .finite number

/-- A decision's id is never the empty text. -/
theorem decisionID_ne_empty (id : Uuid) : id.string ≠ "" := by
  intro empty
  have parsed := Uuid.parse_string id
  rw [empty, show Uuid.parse "" = none by decide] at parsed
  cases parsed

/-- Every member of an object that can be read back can be read back. -/
theorem scan_of_scanObject {entries : List (String × Dumped)} {document : Json}
    (scanned : scanObject entries = some document) :
    ∀ entry ∈ entries, entry.2.scan.isSome = true := by
  obtain ⟨read, mapped, same⟩ := Option.map_eq_some_iff.mp scanned
  clear scanned same
  induction entries generalizing read with
  | nil => nofun
  | cons first rest ih =>
      simp only [List.mapM_cons, Option.bind_eq_bind, Option.bind_eq_some_iff] at mapped
      obtain ⟨one, firstRead, others, restRead, _⟩ := mapped
      intro entry member
      rcases List.mem_cons.mp member with rfl | later
      · obtain ⟨json, scanned, _⟩ := Option.map_eq_some_iff.mp firstRead
        exact Option.isSome_iff_exists.mpr ⟨json, scanned⟩
      · exact ih others restRead entry later

/-- Of the floats only the finite ones can. -/
theorem isFinite_of_scan {value : PyFloat} (scanned : (Dumped.float value).scan.isSome = true) :
    value.IsFinite := by
  cases value with
  | finite number => exact ⟨number, rfl⟩
  | posInf | negInf | nan => cases scanned

/-- Giving the event an id takes nothing from what it carries. -/
theorem EventCarries.normalize {event : Event} {decision : RiskDecision} (blank : event.id = "")
    (carries : EventCarries { event with id := event.eventID } decision) (newID : String)
    (now : Int) : EventCarries (event.normalize newID now) decision := by
  have named : event.eventID ≠ "" := by
    rw [carries.eventID]
    exact decisionID_ne_empty decision.decisionID
  obtain ⟨timestamp, normal⟩ := Event.normalize_named blank named newID now
  rw [normal]
  exact ⟨carries.eventID, carries.id, carries.userID, carries.requestID, carries.ipAddress,
    carries.action, carries.riskScore, carries.country, carries.countryCode, carries.lat,
    carries.lon⟩

/-- The event decoded from a decision carries it. -/
theorem eventCarries_decodeMessage {decision : RiskDecision} {lat lon : ℚ}
    (north : decision.lat = .finite lat) (east : decision.lon = .finite lon)
    (parse : String → Option Json) (newID : String) (timestamp occurredAt now : Int) :
    ∃ event, decodeMessage parse newID now (publishedMessage decision timestamp occurredAt) =
      some event ∧ EventCarries event decision := by
  have geo := unmarshal_geo north east timestamp occurredAt
  rw [publishedMessage_finite north east]
  simp only [decodeMessage, unmarshal_event north east, Option.bind_eq_bind, Option.bind_some,
    if_true]
  rw [extractGeo_message rfl geo rfl rfl]
  refine ⟨_, rfl, EventCarries.normalize rfl ?_ newID now⟩
  exact ⟨rfl, rfl, rfl, rfl, rfl, rfl, rfl, rfl, rfl, north.symm, east.symm⟩

/-- No action is written as the empty text. -/
theorem DecisionAction.text_ne_empty (action : DecisionAction) : action.text ≠ "" := by
  cases action <;> decide

/-- The alert has its action already, so nothing is filled in. -/
theorem alertCarries_decodeAlert {decision : RiskDecision} {lat lon : ℚ}
    (north : decision.lat = .finite lat) (east : decision.lon = .finite lon)
    (timestamp occurredAt : Int) :
    ∃ alert, decodeAlert (publishedMessage decision timestamp occurredAt) = some alert ∧
      AlertCarries alert decision := by
  obtain ⟨alert, decoded, carries⟩ := unmarshal_alert north east timestamp occurredAt
  have acted : alert.action ≠ "" := by
    rw [carries.action]
    exact decision.action.text_ne_empty
  refine ⟨alert, ?_, carries⟩
  rw [publishedMessage_finite north east, decodeAlert, Option.bind_some, decoded, Option.map_some,
    AlertEvent.withAction, if_neg acted]

/-- What is published has finite coordinates. -/
theorem isFinite_of_published {decision : RiskDecision} {timestamp occurredAt : Int}
    {document : Json} (published : publishedMessage decision timestamp occurredAt = some document) :
    decision.lat.IsFinite ∧ decision.lon.IsFinite := by
  have scanned := scan_of_scanObject published
  have north : ("lat", .float decision.lat) ∈ decisionEvent decision timestamp occurredAt := by
    simp [decisionEvent]
  have east : ("lon", .float decision.lon) ∈ decisionEvent decision timestamp occurredAt := by
    simp [decisionEvent]
  exact ⟨isFinite_of_scan (scanned _ north), isFinite_of_scan (scanned _ east)⟩

/-- The texts of a request that its decision copies, as they were received. -/
structure RequestTexts where
  requestID : PyStr
  userID : Option PyStr
  ipAddress : PyStr
  countryCode : PyStr
  countryName : PyStr

/-- A request with these texts, as `json.loads` and pydantic let it in, neither of which
objects to a surrogate. Its strings are what a Go service would read of the texts. -/
def RequestTexts.into (texts : RequestTexts) (request : ScoreRequest) : ScoreRequest :=
  { request with
    requestID := texts.requestID.decoded
    userID := texts.userID.map PyStr.decoded
    ipAddress := texts.ipAddress.decoded
    geo := { request.geo with
      countryCode := texts.countryCode.decoded
      countryName := texts.countryName.decoded } }

/-- `None` arrives as an empty text. -/
def UserArrives (userID : Option PyStr) (arrived : String) : Prop :=
  match userID with
  | some str => str.Is arrived
  | none => arrived = ""

/-- The texts that the analytics service has are the ones that were received. -/
structure EventKeeps (event : Event) (texts : RequestTexts) : Prop where
  requestID : texts.requestID.Is event.requestID
  userID : UserArrives texts.userID event.userID
  ipAddress : texts.ipAddress.Is event.ipAddress
  countryCode : texts.countryCode.Is event.countryCode
  country : texts.countryName.Is event.country

/-- Both consumers get the decision out of what was published for it, with the texts of its
request. -/
def Agrees (parse : String → Option Json) (newID : String) (timestamp occurredAt now : Int)
    (texts : RequestTexts) (decision : RiskDecision) : Prop :=
  (∃ event, decodeMessage parse newID now (publishedMessage decision timestamp occurredAt) =
      some event ∧ EventCarries event decision ∧ EventKeeps event texts) ∧
    ∃ alert, decodeAlert (publishedMessage decision timestamp occurredAt) = some alert ∧
      AlertCarries alert decision ∧ UserArrives texts.userID alert.userID

/-- No text holds a surrogate. -/
structure RequestTexts.Scalar (texts : RequestTexts) : Prop where
  requestID : texts.requestID.Scalar
  userID : ∀ str ∈ texts.userID, str.Scalar
  ipAddress : texts.ipAddress.Scalar
  countryCode : texts.countryCode.Scalar
  countryName : texts.countryName.Scalar

/-- The user's id arrives where it is written in scalar values only. -/
theorem userArrives_iff {userID : Option PyStr} :
    UserArrives userID ((userID.map PyStr.decoded).getD "") ↔ ∀ str ∈ userID, str.Scalar := by
  cases userID with
  | none => simp [UserArrives]
  | some str => simp [UserArrives, PyStr.is_decoded_iff]

/-- An event that carries the decision of a request keeps its texts if they can be kept. -/
theorem eventKeeps_iff {texts : RequestTexts} {event : Event} {decision : RiskDecision}
    (carries : EventCarries event decision)
    (requestID : decision.requestID = texts.requestID.decoded)
    (userID : decision.userID = texts.userID.map PyStr.decoded)
    (ipAddress : decision.ipAddress = texts.ipAddress.decoded)
    (countryCode : decision.countryCode = texts.countryCode.decoded)
    (country : decision.country = texts.countryName.decoded) :
    EventKeeps event texts ↔ texts.Scalar := by
  have request := carries.requestID.trans requestID
  have user : event.userID = (texts.userID.map PyStr.decoded).getD "" := by
    rw [carries.userID, userID]
  have ip := carries.ipAddress.trans ipAddress
  have code := carries.countryCode.trans countryCode
  have name := carries.country.trans country
  constructor
  · intro keeps
    exact ⟨PyStr.is_decoded_iff.mp (request ▸ keeps.requestID),
      userArrives_iff.mp (user ▸ keeps.userID), PyStr.is_decoded_iff.mp (ip ▸ keeps.ipAddress),
      PyStr.is_decoded_iff.mp (code ▸ keeps.countryCode),
      PyStr.is_decoded_iff.mp (name ▸ keeps.country)⟩
  · intro scalar
    constructor
    · rw [request]
      exact PyStr.is_decoded_iff.mpr scalar.requestID
    · rw [user]
      exact userArrives_iff.mpr scalar.userID
    · rw [ip]
      exact PyStr.is_decoded_iff.mpr scalar.ipAddress
    · rw [code]
      exact PyStr.is_decoded_iff.mpr scalar.countryCode
    · rw [name]
      exact PyStr.is_decoded_iff.mpr scalar.countryName

/-- A decision arrives at both consumers exactly when the request's coordinates
are numbers and its texts hold no surrogate. -/
theorem agrees_iff (aggregator : RiskAggregator) (ruleScore mlScore ipScore velocityScore : ℚ)
    (triggeredRules : List String) (shapTop5 : Option (List ShapContribution))
    (request : ScoreRequest) (texts : RequestTexts) (decisionID : Uuid) (processingTimeMs : ℚ)
    (parse : String → Option Json) (newID : String) (timestamp occurredAt now : Int) :
    Agrees parse newID timestamp occurredAt now texts
        { aggregator.aggregate ruleScore mlScore ipScore velocityScore triggeredRules shapTop5
            (texts.into request) decisionID with processingTimeMs } ↔
      request.geo.lat.IsFinite ∧ request.geo.lon.IsFinite ∧ texts.Scalar := by
  generalize made : ({ aggregator.aggregate ruleScore mlScore ipScore velocityScore triggeredRules
    shapTop5 (texts.into request) decisionID with processingTimeMs } : RiskDecision) = decision
  have lat : decision.lat = request.geo.lat := by rw [← made]; rfl
  have lon : decision.lon = request.geo.lon := by rw [← made]; rfl
  have kept : ∀ event, EventCarries event decision → (EventKeeps event texts ↔ texts.Scalar) := by
    intro event carries
    subst made
    exact eventKeeps_iff carries rfl rfl rfl rfl rfl
  rw [← lat, ← lon]
  constructor
  · rintro ⟨⟨event, decoded, carries, keeps⟩, _⟩
    obtain ⟨document, published, _⟩ := Option.bind_eq_some_iff.mp decoded
    obtain ⟨north, east⟩ := isFinite_of_published published
    exact ⟨north, east, (kept event carries).mp keeps⟩
  · rintro ⟨⟨lat, north⟩, ⟨lon, east⟩, scalar⟩
    obtain ⟨event, decoded, carries⟩ :=
      eventCarries_decodeMessage north east parse newID timestamp occurredAt now
    obtain ⟨alert, alerted, alertCarries⟩ := alertCarries_decodeAlert north east timestamp occurredAt
    have keeps := (kept event carries).mpr scalar
    have sameUser : alert.userID = event.userID := alertCarries.userID.trans carries.userID.symm
    exact ⟨⟨event, decoded, carries, keeps⟩, alert, alerted, alertCarries, sameUser ▸ keeps.userID⟩

/-- A login with these texts, from this latitude. -/
def locatedLogin (lat : PyFloat) (texts : RequestTexts) : ScoreRequest :=
  texts.into
    { eventID := "evt-1", eventType := "user.login", requestID := "", ipAddress := "",
      geo := { lat, lon := 13 } }

def loginTexts (countryName : PyStr) : RequestTexts where
  requestID := .ofString "req-1"
  userID := none
  ipAddress := .ofString "203.0.113.5"
  countryCode := .ofString "XX"
  countryName

/-- Neither a decision whose latitude is the word NaN arrives, nor one with a surrogate for
the name of the country. -/
theorem agrees_fails :
    ¬ Agrees (fun _ => none) "evt-9" 1735689600000000000 1735689600000000000 1735689601000000000
        (loginTexts (.ofString "Unknown")) (({} : RiskAggregator).aggregate 90 90 90 90
          ["RULE_002"] none (locatedLogin .nan (loginTexts (.ofString "Unknown"))) (Uuid.ofNat 1)) ∧
      ¬ Agrees (fun _ => none) "evt-9" 1735689600000000000 1735689600000000000
        1735689601000000000 (loginTexts ⟨[.surrogate 0]⟩) (({} : RiskAggregator).aggregate
          90 90 90 90 ["RULE_002"] none (locatedLogin 52 (loginTexts ⟨[.surrogate 0]⟩))
          (Uuid.ofNat 1)) := by
  constructor
  · rintro ⟨⟨event, decoded, _⟩, _⟩
    cases decoded
  · rintro ⟨⟨event, _, _, keeps⟩, _⟩
    have kept : PyStr.mk [.surrogate 0] = .ofString event.country := keeps.country
    have scalar := PyStr.scalar_ofString event.country
    rw [← kept] at scalar
    obtain ⟨char, same⟩ := scalar (.surrogate 0) List.mem_cons_self
    cases same

end Sentinel.Risk
