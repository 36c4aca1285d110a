import Sentinel.Auth.Service
import Sentinel.Wire.JsonSchema

/-!
# Publication of auth events

`Producer.PublishEvent`: it fills in what the service leaves out and encodes the
event. `omitempty` acts on the filled event, so an empty map is left out again.
-/

namespace Sentinel.Auth

open Sentinel.Wire

/-- A value of type `map[string]any`; `none` is the nil map. -/
abbrev AnyMap := Option (List (String × Json))

/-- `kafka.AuthEvent`; `none` is the zero time. -/
structure KafkaAuthEvent where
  eventID : String
  eventType : String
  schemaVersion : Int := 0
  timestamp : Time
  producer : String := ""
  userID : String
  email : String
  ipAddress : String
  metadata : AnyMap := none
  occurredAt : Option Time := none
  data : AnyMap := none
  source : AnyMap := none

/-- The event as `RegisterUser` and `Login` build it. -/
def AuthEvent.toKafka (event : AuthEvent) : KafkaAuthEvent where
  eventID := event.eventID.string
  eventType := event.eventType.text
  timestamp := event.timestamp
  userID := event.userID.string
  email := event.email
  ipAddress := event.ipAddress

namespace KafkaAuthEvent

/-- The defaults of `PublishEvent`. -/
def filled (event : KafkaAuthEvent) : KafkaAuthEvent :=
  { event with
    schemaVersion := if event.schemaVersion = 0 then 1 else event.schemaVersion
    occurredAt := some (event.occurredAt.getD event.timestamp)
    data := some (event.data.getD [])
    source := some (event.source.getD [("ip_address", .str event.ipAddress)])
    producer := if event.producer = "" then "auth-service" else event.producer }

/-- What `omitempty` leaves of a map. -/
def nonemptyMap : AnyMap → Option Json
  | none | some [] => none
  | some entries => some (.obj entries)

/-- An empty map that is filled in is left out like a nil one. -/
theorem nonemptyMap_getD (map : AnyMap) : nonemptyMap (some (map.getD [])) = nonemptyMap map := by
  rcases map with _ | _ | _ <;> rfl

/-- What `omitempty` leaves of a text. -/
def nonemptyText (text : String) : Option Json := if text = "" then none else some (.str text)

/-- A field under its tag, unless it is left out. -/
def tagged (tag : String) (value : Option Json) : List (String × Json) :=
  (value.map (Prod.mk tag)).toList

/-- `json.Marshal` -/
def marshal (event : KafkaAuthEvent) : List (String × Json) :=
  [("event_id", .str event.eventID), ("event_type", .str event.eventType),
    ("schema_version", .num event.schemaVersion), ("timestamp", .time event.timestamp),
    ("producer", .str event.producer)] ++
    tagged "user_id" (nonemptyText event.userID) ++
    [("email", .str event.email), ("ip_address", .str event.ipAddress)] ++
    tagged "metadata" (nonemptyMap event.metadata) ++
    [("occurred_at", .time (event.occurredAt.getD 0))] ++
    tagged "data" (nonemptyMap event.data) ++
    tagged "source" (nonemptyMap event.source)

/-- A field is found under its own tag. -/
theorem lookup_tagged {tag name : String} {value : Option Json} :
    (tagged tag value).lookup name = if name = tag then value else none := by
  cases value with
  | none => simp [tagged]
  | some json =>
      by_cases same : name = tag
      · simp [tagged, same]
      · simp [tagged, List.lookup_cons, beq_false_of_ne same, same]

/-- The fields that a reader finds under the names of the contract. -/
structure Encoded (event : KafkaAuthEvent) (entries : List (String × Json)) : Prop where
  eventID : entries.lookup "event_id" = some (.str event.eventID)
  eventType : entries.lookup "event_type" = some (.str event.eventType)
  schemaVersion : entries.lookup "schema_version" = some (.num event.schemaVersion)
  producer : entries.lookup "producer" = some (.str event.producer)
  occurredAt : entries.lookup "occurred_at" = some (.time (event.occurredAt.getD 0))
  data : entries.lookup "data" = nonemptyMap event.data
  source : entries.lookup "source" = nonemptyMap event.source
  requestID : entries.lookup "request_id" = none
  subject : entries.lookup "subject" = none

/-- An event is encoded with every field under its tag. -/
theorem encoded_marshal (event : KafkaAuthEvent) : Encoded event event.marshal := by
  constructor <;> simp [marshal, List.lookup_append, List.lookup_cons, lookup_tagged]

/-- The object that `PublishEvent` puts on the topic. -/
def publishEvent (event : KafkaAuthEvent) : Json := .obj event.filled.marshal

end KafkaAuthEvent

end Sentinel.Auth
