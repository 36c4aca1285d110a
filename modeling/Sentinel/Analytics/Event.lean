import Sentinel.Wire.Json

/-!
# Events of the analytics service

`Event` with its tags, and what the consumer makes of a message before it hands
the event to the batch engine: decode, fill in id and score, take the geography
out of the payload, and normalize.
-/

namespace Sentinel.Analytics

open Sentinel.Wire

/-- The zero value of `time.Time`, the first of January of the year 1. -/
def zeroTime : Int := -62135596800000000000

/-- What a `Payload` is the text of. -/
inductive Payload where
  /-- A text that came with the event. -/
  | text (value : String)
  /-- The message that the event was decoded from. -/
  | message (document : Json)

structure Event where
  id : String := ""
  eventID : String := ""
  decisionID : String := ""
  schemaVersion : Int := 0
  producer : String := ""
  sessionID : String := ""
  userID : String := ""
  eventType : String := ""
  payload : Payload := .text ""
  ipAddress : String := ""
  userAgent : String := ""
  timestamp : Int := zeroTime
  occurredAt : Int := zeroTime
  requestID : String := ""
  action : String := ""
  riskScore : ℚ := 0
  finalScore : ℚ := 0
  country : String := ""
  countryCode : String := ""
  lat : ℚ := 0
  lon : ℚ := 0

namespace Event

/-- The field `payload` of a message is a text. -/
def payloadField : JsonField Event :=
  .text "payload" (fun event => match event.payload with
    | .text value => value
    | .message _ => "") (fun value event => { event with payload := .text value }) true

def fields : List (JsonField Event) :=
  [.text "id" (·.id) (fun value event => { event with id := value }) false,
    .text "event_id" (·.eventID) (fun value event => { event with eventID := value }) true,
    .text "decision_id" (·.decisionID) (fun value event => { event with decisionID := value }) true,
    .integer "schema_version" (·.schemaVersion) fun value event =>
      { event with schemaVersion := value },
    .text "producer" (·.producer) (fun value event => { event with producer := value }) true,
    .text "session_id" (·.sessionID) (fun value event => { event with sessionID := value }) false,
    .text "user_id" (·.userID) (fun value event => { event with userID := value }) false,
    .text "event_type" (·.eventType) (fun value event => { event with eventType := value }) false,
    payloadField,
    .text "ip_address" (·.ipAddress) (fun value event => { event with ipAddress := value }) false,
    .text "user_agent" (·.userAgent) (fun value event => { event with userAgent := value }) false,
    .instant "timestamp" (·.timestamp) fun value event => { event with timestamp := value },
    .instant "occurred_at" (·.occurredAt) fun value event => { event with occurredAt := value },
    .text "request_id" (·.requestID) (fun value event => { event with requestID := value }) true,
    .text "action" (·.action) (fun value event => { event with action := value }) true,
    .number "risk_score" (·.riskScore) fun value event => { event with riskScore := value },
    .number "final_score" (·.finalScore) fun value event => { event with finalScore := value },
    .text "country" (·.country) (fun value event => { event with country := value }) true,
    .text "country_code" (·.countryCode) (fun value event => { event with countryCode := value })
      true,
    .number "lat" (·.lat) fun value event => { event with lat := value },
    .number "lon" (·.lon) fun value event => { event with lon := value }]

def unmarshal (document : Json) : Option Event := JsonField.unmarshal fields {} document

/-- `newID` is what `uuid.NewString()` returns and `now` what the clock says. -/
def normalize (newID : String) (now : Int) (event : Event) : Event :=
  let event := if event.id = "" then { event with id := event.eventID } else event
  let event := if event.id = "" then { event with id := newID } else event
  let event := if event.timestamp = zeroTime then { event with timestamp := event.occurredAt }
    else event
  let event := if event.timestamp = zeroTime then { event with timestamp := now } else event
  if event.eventID = "" then { event with eventID := event.id } else event

/-- An event with a name of its own is normalized to that, without a new one. -/
theorem normalize_named {event : Event} (blank : event.id = "") (named : event.eventID ≠ "")
    (newID : String) (now : Int) :
    ∃ timestamp, event.normalize newID now = { event with id := event.eventID, timestamp } := by
  unfold normalize
  simp only [blank, if_true, named, if_false]
  split
  · split
    · exact ⟨now, rfl⟩
    · exact ⟨event.occurredAt, rfl⟩
  · exact ⟨event.timestamp, rfl⟩

end Event

/-- The struct that `extractGeo` decodes into. -/
structure Geo where
  country : String := ""
  countryCode : String := ""
  lat : ℚ := 0
  lon : ℚ := 0

def Geo.fields : List (JsonField Geo) :=
  [.text "country" (·.country) (fun value geo => { geo with country := value }) false,
    .text "country_code" (·.countryCode) (fun value geo => { geo with countryCode := value }) false,
    .number "lat" (·.lat) fun value geo => { geo with lat := value },
    .number "lon" (·.lon) fun value geo => { geo with lon := value }]

/-- `extractGeo`; `parse` reads a payload that came as a text. -/
def extractGeo (parse : String → Option Json) (event : Event) : Event :=
  let document := match event.payload with
    | .text value => if value = "" then none else parse value
    | .message document => some document
  match document.bind (JsonField.unmarshal Geo.fields {}) with
  | none => event
  | some geo =>
      let event := { event with country := geo.country, countryCode := geo.countryCode }
      if geo.lat ≠ 0 ∨ geo.lon ≠ 0 then { event with lat := geo.lat, lon := geo.lon } else event

/-- A message whose coordinates the event has already only adds the country. -/
theorem extractGeo_message {parse : String → Option Json} {event : Event} {document : Json}
    {geo : Geo} (message : event.payload = .message document)
    (read : JsonField.unmarshal Geo.fields {} document = some geo) (lat : event.lat = geo.lat)
    (lon : event.lon = geo.lon) :
    extractGeo parse event =
      { event with country := geo.country, countryCode := geo.countryCode } := by
  simp only [extractGeo, message, Option.bind_some, read, ← lat, ← lon]
  split <;> rfl

/-- The consumer's handling of a message up to `AddEvent`; a message that is no
document, or does not fit the struct, is none. -/
def decodeMessage (parse : String → Option Json) (newID : String) (now : Int)
    (message : Option Json) : Option Event := do
  let document ← message
  let event ← Event.unmarshal document
  let event := { event with payload := .message document }
  let event := if event.eventID = "" then { event with eventID := event.decisionID } else event
  let event := if event.riskScore = 0 then { event with riskScore := event.finalScore } else event
  return (extractGeo parse event).normalize newID now

/-- The consumer's fill-in between decoding and `extractGeo`. -/
def Event.filledIn (document : Json) (event : Event) : Event :=
  let event := { event with payload := .message document }
  let event := if event.eventID = "" then { event with eventID := event.decisionID } else event
  if event.riskScore = 0 then { event with riskScore := event.finalScore } else event

/-- A message that is an object with fitting fields becomes an event. -/
theorem decodeMessage_eq_some_iff {parse : String → Option Json} {newID : String} {now : Int}
    {document : Json} {event : Event} :
    decodeMessage parse newID now (some document) = some event ↔
      ∃ read, Event.unmarshal document = some read ∧
        (extractGeo parse (read.filledIn document)).normalize newID now = event := by
  change (Event.unmarshal document).bind (fun read =>
    some ((extractGeo parse (read.filledIn document)).normalize newID now)) = some event ↔ _
  rw [Option.bind_eq_some_iff]
  simp only [Option.some.injEq]

end Sentinel.Analytics
