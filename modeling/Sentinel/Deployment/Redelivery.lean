import Sentinel.Auth.EventProducer
import Sentinel.Risk.Producer

/-!
# Redelivered events

A message may be delivered any number of times, and only its ids tell. What the
analytics service makes of a message of either producer has the producer's id and
timestamp each time: `recognisable`.
-/

namespace Sentinel.Deployment

open Sentinel.Wire Sentinel.Auth Sentinel.Risk Sentinel.Analytics

/-- A message of one of the two producers. -/
inductive ProducerMessage where
  /-- `PublishEvent` -/
  | auth (event : KafkaAuthEvent)
  /-- `publish_decision`, which reads the clock twice -/
  | decision (decision : RiskDecision) (timestamp occurredAt : Int)

namespace ProducerMessage

/-- The document on the topic, as a Go service reads it. -/
def document : ProducerMessage → Option Json
  | .auth event => some event.publishEvent
  | .decision made timestamp occurredAt => publishedMessage made timestamp occurredAt

/-- The producer's `event_id` or `decision_id`. -/
def producerID : ProducerMessage → String
  | .auth event => event.eventID
  | .decision made _ _ => made.decisionID.string

def timestamp : ProducerMessage → Int
  | .auth event => event.timestamp
  | .decision _ timestamp _ => timestamp

/-- The message is named, and dated by a clock that is not at the zero time. -/
structure Identified (message : ProducerMessage) : Prop where
  named : message.producerID ≠ ""
  dated : message.timestamp ≠ Analytics.zeroTime

/-- Both producers identify their messages: the service gives every event a new UUID and
the aggregator every decision. -/
theorem identified_toKafka {event : AuthEvent} (dated : event.timestamp ≠ Analytics.zeroTime) :
    (ProducerMessage.auth event.toKafka).Identified :=
  ⟨decisionID_ne_empty event.eventID, dated⟩

/-- A decision has an id and a time. -/
theorem identified_decision (decision : RiskDecision) {timestamp : Int}
    (dated : timestamp ≠ Analytics.zeroTime) (occurredAt : Int) :
    (ProducerMessage.decision decision timestamp occurredAt).Identified :=
  ⟨decisionID_ne_empty decision.decisionID, dated⟩

end ProducerMessage

/-- The keys of an auth event that an analytics event has no field for. -/
theorem authEvent_skips : ∀ key ∈ ["email", "metadata", "data", "source"],
    ∀ field ∈ Event.fields, foldName field.tag ≠ foldName key := by
  decide +kernel

/-- A field that the table has no column for is skipped. -/
theorem foldlM_tagged {key : String} (skipped : key ∈ ["email", "metadata", "data", "source"])
    (value : Option Json) {rest : List (String × Json)} {event : Event} {result : Option Event}
    (remaining : rest.foldlM (JsonField.readEntry Event.fields) event = result) :
    (KafkaAuthEvent.tagged key value ++ rest).foldlM (JsonField.readEntry Event.fields) event =
      result := by
  have known : ∀ entry ∈ KafkaAuthEvent.tagged key value,
      ∀ field ∈ Event.fields, foldName field.tag ≠ foldName entry.1 := by
    intro entry member
    cases value with
    | none => cases member
    | some json =>
        obtain rfl := List.mem_singleton.mp member
        exact authEvent_skips key skipped
  rw [List.foldlM_append, JsonField.foldlM_skip known event]
  exact remaining

/-- A user that is left out reads as the empty text that it is. -/
theorem foldlM_userID (userID : String) {rest : List (String × Json)} {event : Event}
    {result : Option Event} (unread : event.userID = "")
    (remaining : rest.foldlM (JsonField.readEntry Event.fields) { event with userID } = result) :
    (KafkaAuthEvent.tagged "user_id" (KafkaAuthEvent.nonemptyText userID) ++ rest).foldlM
      (JsonField.readEntry Event.fields) event = result := by
  unfold KafkaAuthEvent.nonemptyText
  by_cases empty : userID = ""
  · rw [if_pos empty]
    rwa [empty, ← unread] at remaining
  · rw [if_neg empty]
    exact JsonField.foldlM_readEntry rfl remaining

/-- The version of a message that decodes fits an `int`. -/
theorem readEntry_schemaVersion (version : Int) (event : Event) :
    JsonField.readEntry Event.fields event ("schema_version", .num version) =
      if -9223372036854775808 ≤ version ∧ version < 9223372036854775808 then
        some { event with schemaVersion := version } else none := by
  change (if (version : ℚ).den = 1 ∧ -9223372036854775808 ≤ (version : ℚ).num ∧
    (version : ℚ).num < 9223372036854775808 then some _ else none) = _
  simp only [Rat.den_intCast, Rat.num_intCast, true_and]

/-- What an auth event is decoded into. -/
theorem unmarshal_publishEvent (event : KafkaAuthEvent) :
    Event.unmarshal event.publishEvent =
      if -9223372036854775808 ≤ event.filled.schemaVersion ∧
          event.filled.schemaVersion < 9223372036854775808 then
        some {
          eventID := event.eventID
          eventType := event.eventType
          schemaVersion := event.filled.schemaVersion
          timestamp := event.timestamp
          producer := event.filled.producer
          userID := event.userID
          ipAddress := event.ipAddress
          occurredAt := event.occurredAt.getD event.timestamp }
      else none := by
  have skipEmail : ∀ json value,
      JsonField.readEntry Event.fields value ("email", json) = some value :=
    fun json value => JsonField.readEntry_skip (authEvent_skips "email" (by decide)) json value
  unfold Event.unmarshal JsonField.unmarshal KafkaAuthEvent.publishEvent
  simp only [KafkaAuthEvent.marshal, List.cons_append, List.nil_append, List.append_assoc]
  iterate 2 refine JsonField.foldlM_readEntry rfl ?_
  rw [List.foldlM_cons, readEntry_schemaVersion]
  split
  · change List.foldlM _ _ _ = _
    iterate 2 refine JsonField.foldlM_readEntry rfl ?_
    refine foldlM_userID _ rfl ?_
    refine JsonField.foldlM_readEntry (skipEmail _ _) ?_
    refine JsonField.foldlM_readEntry rfl ?_
    refine foldlM_tagged (by decide) _ ?_
    refine JsonField.foldlM_readEntry rfl ?_
    refine foldlM_tagged (by decide) _ ?_
    rw [← List.append_nil (KafkaAuthEvent.tagged "source" _)]
    exact foldlM_tagged (by decide) _ rfl
  · rfl

/-- What `json.Unmarshal` makes of a message of either producer: no id yet, the producer's
id under one name or the other, and its timestamp. -/
theorem unmarshal_document {message : ProducerMessage} {document : Json} {read : Event}
    (published : message.document = some document) (decoded : Event.unmarshal document = some read) :
    read.id = "" ∧
      (if read.eventID = "" then read.decisionID else read.eventID) = message.producerID ∧
      read.timestamp = message.timestamp := by
  cases message with
  | auth event =>
      obtain rfl : event.publishEvent = document := Option.some.inj published
      rw [unmarshal_publishEvent] at decoded
      obtain ⟨_, same⟩ := Option.ite_none_right_eq_some.mp decoded
      obtain rfl := Option.some.inj same
      refine ⟨rfl, ?_, rfl⟩
      split
      · rename_i unnamed
        exact unnamed.symm
      · rfl
  | decision made timestamp occurredAt =>
      obtain ⟨⟨lat, north⟩, lon, east⟩ := isFinite_of_published published
      obtain rfl := Option.some.inj ((publishedMessage_finite north east _ _).symm.trans published)
      rw [unmarshal_event north east] at decoded
      obtain rfl := Option.some.inj decoded
      exact ⟨rfl, rfl, rfl⟩

/-- `extractGeo` names and dates nothing. -/
theorem extractGeo_frame (parse : String → Option Json) (event : Event) :
    (extractGeo parse event).id = event.id ∧ (extractGeo parse event).eventID = event.eventID ∧
      (extractGeo parse event).timestamp = event.timestamp := by
  unfold extractGeo
  simp only
  split
  · exact ⟨rfl, rfl, rfl⟩
  · split <;> exact ⟨rfl, rfl, rfl⟩

/-- With a name and a date of its own an event gets neither from `Normalize`. -/
theorem normalize_identified {event : Event} (blank : event.id = "") (named : event.eventID ≠ "")
    (dated : event.timestamp ≠ Analytics.zeroTime) (newID : String) (now : Int) :
    event.normalize newID now = { event with id := event.eventID } := by
  simp only [Event.normalize, blank, if_true, named, if_false, dated]

/-- An event with ids and a time is not normalised. -/
theorem normalize_normal {event : Event} (identified : event.id ≠ "") (named : event.eventID ≠ "")
    (dated : event.timestamp ≠ Analytics.zeroTime) (newID : String) (now : Int) :
    event.normalize newID now = event := by
  simp only [Event.normalize, identified, if_false, named, dated]

/-- What filling in makes of the ids and the time. -/
theorem filledIn_fields (document : Json) (event : Event) :
    (event.filledIn document).id = event.id ∧
      (event.filledIn document).eventID =
        (if event.eventID = "" then event.decisionID else event.eventID) ∧
      (event.filledIn document).timestamp = event.timestamp := by
  unfold Event.filledIn
  simp only
  split_ifs <;> exact ⟨rfl, rfl, rfl⟩

/-- Processing an identified message asks for no new id and no clock. -/
theorem decodeMessage_identified {parse : String → Option Json} {message : ProducerMessage}
    (identified : message.Identified) {newID : String} {now : Int} {row : Event}
    (processed : decodeMessage parse newID now message.document = some row) :
    row.id = message.producerID ∧ row.eventID = message.producerID ∧
      row.timestamp = message.timestamp ∧
      ∀ newID now, decodeMessage parse newID now message.document = some row := by
  obtain ⟨document, published, _⟩ := Option.bind_eq_some_iff.mp processed
  rw [published, decodeMessage_eq_some_iff] at processed
  obtain ⟨read, decoded, rfl⟩ := processed
  obtain ⟨blank, name, timestamp⟩ := unmarshal_document published decoded
  obtain ⟨sameID, sameName, sameTime⟩ := filledIn_fields document read
  obtain ⟨keptID, keptName, keptTime⟩ := extractGeo_frame parse (read.filledIn document)
  have eventID : (extractGeo parse (read.filledIn document)).eventID = message.producerID :=
    keptName.trans (sameName.trans name)
  have time : (extractGeo parse (read.filledIn document)).timestamp = message.timestamp :=
    keptTime.trans (sameTime.trans timestamp)
  have normal := normalize_identified (keptID.trans (sameID.trans blank))
    (eventID ▸ identified.named) (time ▸ identified.dated)
  rw [normal]
  refine ⟨eventID, eventID, time, fun newID now => ?_⟩
  rw [published]
  exact decodeMessage_eq_some_iff.mpr ⟨read, decoded, normal newID now⟩

/-- Every time a message is processed it gives the same row, with the producer's id and
timestamp; normalizing that row again changes nothing, and no message with another id
gives a row with the same one. -/
theorem recognisable (parse : String → Option Json) (message : ProducerMessage)
    (identified : message.Identified) (newID : String) (now : Int) (row : Event)
    (processed : decodeMessage parse newID now message.document = some row) :
    (row.id = message.producerID ∧ row.eventID = message.producerID ∧ row.id ≠ "") ∧
      row.timestamp = message.timestamp ∧
      (∀ newID now, decodeMessage parse newID now message.document = some row) ∧
      (∀ newID now, row.normalize newID now = row) ∧
      ∀ other : ProducerMessage, other.Identified → other.producerID ≠ message.producerID →
        ∀ newID now row', decodeMessage parse newID now other.document = some row' →
          row'.id ≠ row.id := by
  obtain ⟨id, eventID, timestamp, again⟩ := decodeMessage_identified identified processed
  have named : row.id ≠ "" := id ▸ identified.named
  have dated : row.timestamp ≠ Analytics.zeroTime := timestamp ▸ identified.dated
  refine ⟨⟨id, eventID, named⟩, timestamp, again,
    normalize_normal named (eventID ▸ identified.named) dated, ?_⟩
  intro other otherIdentified different newID now row' alsoProcessed same
  have otherID := (decodeMessage_identified otherIdentified alsoProcessed).1
  exact different (otherID.symm.trans (same.trans id))

/-- The event of a first registration. -/
def registrationMessage : ProducerMessage :=
  .auth (AuthEvent.toKafka ⟨Uuid.ofNat 1, .userRegistered, 1735689600000000000, Uuid.ofNat 2,
    "ada@example.com", "203.0.113.5"⟩)

/-- A registration comes to its row under its own id. -/
theorem recognisable_registration :
    ∃ row, decodeMessage (fun _ => none) "evt-9" 1735689601000000000 registrationMessage.document =
      some row ∧ row.id = (Uuid.ofNat 1).string ∧ row.timestamp = 1735689600000000000 := by
  obtain ⟨row, processed⟩ : ∃ row, decodeMessage (fun _ => none) "evt-9" 1735689601000000000
      registrationMessage.document = some row := ⟨_, rfl⟩
  obtain ⟨⟨id, _⟩, timestamp, _⟩ := recognisable (fun _ => none) registrationMessage
    (ProducerMessage.identified_toKafka (by decide)) "evt-9" 1735689601000000000 row processed
  exact ⟨row, processed, id, timestamp⟩

end Sentinel.Deployment
