import Sentinel.Auth.EventProducer
import Sentinel.Risk.Producer
import Sentinel.Risk.RulesEngine

/-!
# Events against the contract

The schema `event-v1` and what the two producers put on Kafka. Neither producer
ever meets it: an auth event lacks `data` and a decision lacks `event_id`.
-/

namespace Sentinel.Deployment

open Sentinel.Wire Sentinel.Auth Sentinel.Risk

/-- `contracts/event.schema.json` -/
def eventSchema : ObjectSchema where
  required := ["event_id", "event_type", "schema_version", "occurred_at", "producer", "data"]
  properties :=
    [("event_id", .uuid), ("event_type", .text 1), ("schema_version", .constant 1),
      ("occurred_at", .dateTime), ("producer", .text 1), ("request_id", .text 0),
      ("subject", .object), ("source", .object), ("data", .object)]

/-- A map that is sent is an object. -/
theorem accepts_nonemptyMap (map : AnyMap) :
    (KafkaAuthEvent.nonemptyMap map).any (!ValueSchema.object.accepts ·) = false := by
  unfold KafkaAuthEvent.nonemptyMap
  split <;> rfl

/-- Of the required fields only the data can be missing. -/
theorem missing_publishEvent (event : KafkaAuthEvent) :
    eventSchema.missing event.filled.marshal =
      if (KafkaAuthEvent.nonemptyMap event.data).isNone then ["data"] else [] := by
  have encoded := event.filled.encoded_marshal
  have data : KafkaAuthEvent.nonemptyMap event.filled.data =
      KafkaAuthEvent.nonemptyMap event.data := KafkaAuthEvent.nonemptyMap_getD event.data
  simp only [ObjectSchema.missing, eventSchema, List.filter_cons, List.filter_nil,
    encoded.eventID, encoded.eventType, encoded.schemaVersion, encoded.occurredAt,
    encoded.producer, encoded.data, data, Option.isNone_some, Bool.false_eq_true, if_false]

/-- A text of at least one character is one that is not empty. -/
theorem accepts_text_iff {text : String} :
    (ValueSchema.text 1).accepts (.str text) = true ↔ text ≠ "" := by
  rw [ValueSchema.accepts, decide_eq_true_eq, Nat.one_le_iff_ne_zero, ne_eq,
    String.length_eq_zero_iff]

/-- Which events have a field that the schema rejects. -/
theorem rejected_publishEvent (event : KafkaAuthEvent) :
    eventSchema.rejected event.filled.marshal = [] ↔
      (Uuid.ofHyphenated event.eventID.toList).isSome ∧ event.eventType ≠ "" ∧
        (event.schemaVersion = 0 ∨ event.schemaVersion = 1) := by
  have encoded := event.filled.encoded_marshal
  have producer : (ValueSchema.text 1).accepts (.str event.filled.producer) = true := by
    rw [accepts_text_iff]
    simp only [KafkaAuthEvent.filled]
    split
    · decide
    · assumption
  have version : (ValueSchema.constant 1).accepts (.num event.filled.schemaVersion) = true ↔
      event.schemaVersion = 0 ∨ event.schemaVersion = 1 := by
    rw [ValueSchema.accepts, decide_eq_true_eq]
    simp only [KafkaAuthEvent.filled]
    split
    · rename_i unset
      simp [unset]
    · rename_i chosen
      simp [chosen]
  have eventID : ValueSchema.uuid.accepts (.str event.filled.eventID) =
      (Uuid.ofHyphenated event.eventID.toList).isSome := rfl
  have eventType : (ValueSchema.text 1).accepts (.str event.filled.eventType) = true ↔
      event.eventType ≠ "" := accepts_text_iff
  have occurredAt : ValueSchema.dateTime.accepts
      (.time (event.filled.occurredAt.getD 0)) = true := rfl
  rw [ObjectSchema.rejected, List.map_eq_nil_iff, List.filter_eq_nil_iff]
  simp only [eventSchema, List.forall_mem_cons, encoded.eventID, encoded.eventType,
    encoded.schemaVersion, encoded.occurredAt, encoded.producer, encoded.requestID,
    encoded.subject, encoded.source, encoded.data, accepts_nonemptyMap, Option.any_some,
    Option.any_none, Bool.not_eq_true, Bool.not_eq_false', eventID, eventType, version, producer,
    occurredAt, and_true, List.not_mem_nil, false_implies, implies_true]

/-- An auth event meets the contract exactly when it brings an id, a type, a
version that is unset or one, and data that is not empty. -/
theorem publishEvent_satisfies_iff (event : KafkaAuthEvent) :
    eventSchema.Satisfies event.publishEvent ↔
      ((Uuid.ofHyphenated event.eventID.toList).isSome ∧ event.eventType ≠ "" ∧
        (event.schemaVersion = 0 ∨ event.schemaVersion = 1)) ∧
        (KafkaAuthEvent.nonemptyMap event.data).isSome := by
  rw [KafkaAuthEvent.publishEvent, ObjectSchema.satisfies_obj_iff, rejected_publishEvent,
    missing_publishEvent, and_comm]
  cases KafkaAuthEvent.nonemptyMap event.data <;> simp

/-- The object that `publish_decision` puts on the topic, when all in it is JSON. -/
def decisionEntries (decision : RiskDecision) (timestamp occurredAt : Int) :
    List (String × Json) :=
  (decisionEvent decision timestamp occurredAt).map fun entry =>
    (entry.1, entry.2.scan.getD .null)

/-- A decision's own id stands under another name. -/
theorem missing_decisionEvent (decision : RiskDecision) (timestamp occurredAt : Int) :
    eventSchema.missing (decisionEntries decision timestamp occurredAt) = ["event_id"] := by
  rfl

/-- A decision has none. -/
theorem rejected_decisionEvent (decision : RiskDecision) (timestamp occurredAt : Int) :
    eventSchema.rejected (decisionEntries decision timestamp occurredAt) = [] := by
  rfl

/-- No event that the services publish meets the contract. -/
theorem events_violate (event : AuthEvent) (decision : RiskDecision)
    (timestamp occurredAt : Int) :
    ¬ eventSchema.Satisfies event.toKafka.publishEvent ∧
      ¬ ∃ message, publishedMessage decision timestamp occurredAt = some message ∧
        eventSchema.Satisfies message := by
  constructor
  · intro satisfies
    have brought := ((publishEvent_satisfies_iff event.toKafka).mp satisfies).2
    cases brought
  · rintro ⟨message, published, satisfies⟩
    obtain ⟨⟨lat, north⟩, lon, east⟩ := isFinite_of_published published
    rw [publishedMessage_finite north east] at published
    obtain rfl := Option.some.inj published
    have complete := (ObjectSchema.satisfies_obj_iff.mp satisfies).1
    rw [show List.map _ _ = decisionEntries decision timestamp occurredAt from rfl,
      missing_decisionEvent] at complete
    cases complete

/-- A first registration. -/
def someRegistration : AuthEvent :=
  ⟨Uuid.ofNat 1, .userRegistered, 1735689600000000000, Uuid.ofNat 2, "ada@example.com",
    "203.0.113.5"⟩

def someDecision : RiskDecision :=
  ({} : RiskAggregator).aggregate 90 90 90 90 ["RULE_002"] none newIpRequest (Uuid.ofNat 1)

/-- The data of a registration are missing, and the id of every decision. -/
theorem events_contract_fails :
    (¬ ∀ event : AuthEvent, eventSchema.Satisfies event.toKafka.publishEvent) ∧
      ¬ ∀ (decision : RiskDecision) (timestamp occurredAt : Int),
        ∃ message, publishedMessage decision timestamp occurredAt = some message ∧
          eventSchema.Satisfies message := by
  constructor
  · intro always
    have complete := (ObjectSchema.satisfies_obj_iff.mp (always someRegistration)).1
    rw [missing_publishEvent] at complete
    cases complete
  · intro always
    obtain ⟨message, published, satisfies⟩ := always someDecision 0 0
    rw [publishedMessage_finite rfl rfl] at published
    obtain rfl := Option.some.inj published
    have complete := (ObjectSchema.satisfies_obj_iff.mp satisfies).1
    rw [show List.map _ _ = decisionEntries someDecision 0 0 from rfl,
      missing_decisionEvent] at complete
    cases complete

end Sentinel.Deployment
