import Sentinel.Analytics.Event
import Sentinel.Wire.JsonKeys

/-!
# The live stream and the stored events

The engine broadcasts an event once its row is stored, and `GetEvents` reads the
row back. The geography is no column: the query extracts it from the payload, by
the exact names of the keys, while the event was decoded by `encoding/json`.
`liveAgrees_iff` says of which messages and bodies both make the same: it is a
matter of how often, in which case and with which values the keys occur.
-/

namespace Sentinel.Analytics

open Sentinel.Wire

/-- The geography of an event. -/
def Event.geo (event : Event) : Geo := ⟨event.country, event.countryCode, event.lat, event.lon⟩

/-- The fields of an event that are not about its geography. -/
def Event.plainFields : List (JsonField Event) := Event.fields.take 17

def Event.geoFields : List (JsonField Event) := Event.fields.drop 17

/-- The fields besides `geo` leave the geo data alone. -/
theorem Event.plainFields_keep (geo : Geo) :
    ∀ field ∈ plainFields, field.Keeps fun event => event.geo = geo := by
  have text : ∀ tag get set omitEmpty,
      (∀ value event, Event.geo (set value event) = event.geo) →
        (JsonField.text tag get set omitEmpty).Keeps fun event => event.geo = geo :=
    fun _ _ _ _ same => JsonField.keeps_text fun value event holds => (same value event).trans holds
  intro field member
  simp only [plainFields, fields, List.take_succ_cons, List.take_zero, List.mem_cons,
    List.not_mem_nil, or_false] at member
  rcases member with rfl | rfl | rfl | rfl | rfl | rfl | rfl | rfl | rfl | rfl | rfl | rfl | rfl |
    rfl | rfl | rfl | rfl
  all_goals first
    | exact text _ _ _ _ fun _ _ => rfl
    | exact JsonField.keeps_integer fun _ _ holds => holds
    | exact JsonField.keeps_instant fun _ _ holds => holds
    | exact JsonField.keeps_number fun _ _ holds => holds

/-- No two fields of an event fold to one name. -/
theorem Event.fields_distinct : (fields.map fun field => foldName field.tag).Nodup := by
  decide +kernel

theorem Geo.fields_distinct : (Geo.fields.map fun field => foldName field.tag).Nodup := by
  decide +kernel

/-- A field about the geography is read into an event as into a `Geo`. -/
theorem Event.geoFields_read (index : Fin 4) (json : Json) (event : Event) :
    (geoFields[index]).tag = (Geo.fields[index]).tag ∧ (geoFields[index]).visible = true ∧
      (Geo.fields[index]).visible = true ∧ ((geoFields[index]).read json event).map Event.geo =
        (Geo.fields[index]).read json event.geo := by
  match index with
  | 0 | 1 | 2 | 3 =>
      refine ⟨rfl, rfl, rfl, ?_⟩
      cases json <;> rfl

/-- An entry changes the geography of an event as it changes a `Geo`. -/
theorem readEntry_geo {event after : Event} {entry : String × Json}
    (read : JsonField.readEntry Event.fields event entry = some after) :
    JsonField.readEntry Geo.fields event.geo entry = some after.geo := by
  by_cases located : ∃ index : Fin 4, foldName (Geo.fields[index]).tag = foldName entry.1
  · obtain ⟨index, folds⟩ := located
    obtain ⟨tag, visible, alsoVisible, reads⟩ := Event.geoFields_read index entry.2 event
    have ofEvent : JsonField.select Event.fields entry.1 = some Event.geoFields[index] :=
      JsonField.select_of_fold Event.fields_distinct
        (List.mem_of_mem_drop (List.getElem_mem _)) visible (tag ▸ folds)
    have ofGeo : JsonField.select Geo.fields entry.1 = some Geo.fields[index] :=
      JsonField.select_of_fold Geo.fields_distinct (List.getElem_mem _) alsoVisible folds
    simp only [JsonField.readEntry, ofEvent] at read
    simp only [JsonField.readEntry, ofGeo]
    rw [← reads, read]
    rfl
  · have unknown : ∀ field ∈ Geo.fields, foldName field.tag ≠ foldName entry.1 := by
      intro field member folds
      obtain ⟨index, below, rfl⟩ := List.mem_iff_getElem.mp member
      exact located ⟨⟨index, below⟩, folds⟩
    rw [show entry = (entry.1, entry.2) from rfl, JsonField.readEntry_skip unknown]
    unfold JsonField.readEntry at read
    split at read
    · rename_i field selected
      have folds := JsonField.foldName_of_select selected
      have listed : field ∈ Event.plainFields ++ Event.geoFields := by
        unfold Event.plainFields Event.geoFields
        rw [List.take_append_drop]
        exact (JsonField.select_mem selected).1
      rcases List.mem_append.mp listed with plain | geographic
      · exact congrArg some (Event.plainFields_keep event.geo field plain _ _ _ rfl read).symm
      · obtain ⟨index, below, rfl⟩ := List.mem_iff_getElem.mp geographic
        have tag := (Event.geoFields_read ⟨index, below⟩ entry.2 event).1
        exact absurd ⟨⟨index, below⟩, (congrArg foldName tag.symm).trans folds⟩ located
    · cases read
      rfl

/-- So the two readings of a document agree. -/
theorem unmarshal_geo_of_event {document : Json} {event : Event}
    (read : Event.unmarshal document = some event) :
    JsonField.unmarshal Geo.fields {} document = some event.geo := by
  cases document with
  | obj entries =>
      change entries.foldlM (JsonField.readEntry Geo.fields) (Event.geo {}) = some event.geo
      change entries.foldlM (JsonField.readEntry Event.fields) {} = some event at read
      generalize ({} : Event) = start at read ⊢
      induction entries generalizing start with
      | nil =>
          cases read
          rfl
      | cons entry rest ih =>
          simp only [List.foldlM_cons, Option.bind_eq_bind, Option.bind_eq_some_iff] at read ⊢
          obtain ⟨middle, first, read⟩ := read
          exact ⟨middle.geo, readEntry_geo first, ih middle read⟩
  | null =>
      cases read
      rfl
  | bool _ | num _ | str _ | time _ | arr _ => cases read

/-- The JSON functions of ClickHouse: the document that they read in a payload, if they
read one, and the text or the number that they make of a value. For a value of a wrong type
the versions differ. -/
structure ClickHouseJson where
  read : Payload → Option Json
  ofText : Json → String
  ofNumber : Json → ℚ
  read_blank : read (.text "") = none
  /-- A message may be refused, say for an integer that does not fit 64 bits. -/
  read_message : ∀ message document, read (.message message) = some document →
    document = message
  ofText_str : ∀ text, ofText (.str text) = text
  ofText_time : ∀ instant, ofText (.time instant) = rfc3339 instant
  ofText_null : ofText .null = ""
  ofNumber_num : ∀ number, ofNumber (.num number) = number
  ofNumber_null : ofNumber .null = 0

namespace ClickHouseJson

variable (clickHouse : ClickHouseJson)

/-- The value under a key in the payload. -/
def value (payload : Payload) (key : String) : Option Json :=
  (clickHouse.read payload).bind (·.exact key)

/-- `JSONExtractString`, which is empty for a key that is missing. -/
def extractString (payload : Payload) (key : String) : String :=
  (clickHouse.value payload key).elim "" clickHouse.ofText

/-- `JSONExtractFloat` -/
def extractFloat (payload : Payload) (key : String) : ℚ :=
  (clickHouse.value payload key).elim 0 clickHouse.ofNumber

end ClickHouseJson

/-- The geography that `GetEvents` extracts from a payload. -/
def ClickHouseJson.geo (clickHouse : ClickHouseJson) (payload : Payload) : Geo where
  country := clickHouse.extractString payload "country"
  countryCode := clickHouse.extractString payload "country_code"
  lat := clickHouse.extractFloat payload "lat"
  lon := clickHouse.extractFloat payload "lon"

/-- A row of `events`. -/
structure EventRow where
  id : String
  eventID : String
  sessionID : String
  userID : String
  eventType : String
  producer : String
  payload : Payload
  ipAddress : String
  userAgent : String
  requestID : String
  action : String
  riskScore : ℚ
  timestamp : Int

/-- The columns that `InsertBatch` appends for an event. -/
def Event.row (event : Event) : EventRow where
  id := event.id
  eventID := event.eventID
  sessionID := event.sessionID
  userID := event.userID
  eventType := event.eventType
  producer := event.producer
  payload := event.payload
  ipAddress := event.ipAddress
  userAgent := event.userAgent
  requestID := event.requestID
  action := event.action
  riskScore := event.riskScore
  timestamp := event.timestamp

/-- The event that `GetEvents` scans a row into. `round` and `truncate` are what the types
Float32 and DateTime keep of a score and a timestamp. -/
def EventRow.scan (clickHouse : ClickHouseJson) (round : ℚ → ℚ) (truncate : Int → Int)
    (row : EventRow) : Event where
  id := row.id
  eventID := row.eventID
  sessionID := row.sessionID
  userID := row.userID
  eventType := row.eventType
  producer := row.producer
  payload := row.payload
  ipAddress := row.ipAddress
  userAgent := row.userAgent
  requestID := row.requestID
  action := row.action
  riskScore := round row.riskScore
  timestamp := truncate row.timestamp
  country := (clickHouse.geo row.payload).country
  countryCode := (clickHouse.geo row.payload).countryCode
  lat := (clickHouse.geo row.payload).lat
  lon := (clickHouse.geo row.payload).lon

/-- How an event enters the service. -/
inductive Entrance where
  /-- A message that the consumer fetches, if it is a document. -/
  | kafka (message : Option Json)
  /-- What `BodyParser` makes of the body of a POST to `/ingest`. -/
  | ingest (body : Event)

/-- The event that is handed to `AddEvent`. -/
def Entrance.event (parse : String → Option Json) (newID : String) (now : Int) :
    Entrance → Option Event
  | .kafka message => decodeMessage parse newID now message
  | .ingest body => some (body.normalize newID now)

/-- The event that is broadcast and the event that is queried are the same to a client. -/
structure LiveAgrees (live queried : Event) : Prop where
  id : live.id = queried.id
  eventID : live.eventID = queried.eventID
  userID : live.userID = queried.userID
  ipAddress : live.ipAddress = queried.ipAddress
  action : live.action = queried.action
  country : live.country = queried.country
  countryCode : live.countryCode = queried.countryCode
  lat : live.lat = queried.lat
  lon : live.lon = queried.lon

/-- A key with a text for its value: the last value of the document that is not `null`
under the key in any case, and the first one under exactly this key in what is read of the
document, are the same text; a missing value or `null` counts as the empty one. -/
def SameText (document : Json) (read : Option Json) (key : String) : Prop :=
  (document.caseless key).elim "" Json.asText = (read.bind (·.exact key)).elim "" Json.asText

/-- The same for a key with a number, where a missing value counts as 0. -/
def SameNumber (document : Json) (read : Option Json) (key : String) : Prop :=
  (document.caseless key).elim 0 Json.asNumber = (read.bind (·.exact key)).elim 0 Json.asNumber

/-- A field of a body and the payload of the body: there is a value under exactly the key
that comes to the field, or there is none and the field is empty. -/
def HoldsField {α : Type} (make : Json → α) (empty : α) (value : Option Json) (field : α) :
    Prop :=
  match value with
  | some json => make json = field
  | none => field = empty

/-- The geography is in the payload as it entered. Of a message, each key has the same value
under its exact name as in any case; of a body, each field is in the payload's text. -/
def Entrance.GeoInPayload (clickHouse : ClickHouseJson) : Entrance → Prop
  | .kafka message => ∀ document, message = some document →
      (∀ key ∈ ["country", "country_code"],
        SameText document (clickHouse.read (.message document)) key) ∧
      ∀ key ∈ ["lat", "lon"], SameNumber document (clickHouse.read (.message document)) key
  | .ingest body =>
      HoldsField clickHouse.ofText "" (clickHouse.value body.payload "country") body.country ∧
      HoldsField clickHouse.ofText "" (clickHouse.value body.payload "country_code")
        body.countryCode ∧
      HoldsField clickHouse.ofNumber 0 (clickHouse.value body.payload "lat") body.lat ∧
      HoldsField clickHouse.ofNumber 0 (clickHouse.value body.payload "lon") body.lon

/-- A field holds what its key brings, or nothing when the key is missing. -/
theorem holdsField_iff {α : Type} {make : Json → α} {empty field : α} {value : Option Json} :
    HoldsField make empty value field ↔ field = value.elim empty make := by
  cases value with
  | some json => exact eq_comm
  | none => exact Iff.rfl

/-- Two geographies are the same if they are so field by field. -/
theorem Geo.eq_iff {geo other : Geo} :
    geo = other ↔ geo.country = other.country ∧ geo.countryCode = other.countryCode ∧
      geo.lat = other.lat ∧ geo.lon = other.lon :=
  Iff.of_eq (Geo.mk.injEq ..)

/-- What the fields of `Geo` other than the one under `tag` leave alone. -/
theorem Geo.others_keep {α : Type} {tag : String} {get : Geo → α}
    (country : "country" ≠ tag → ∀ value geo, get { geo with country := value } = get geo)
    (countryCode : "country_code" ≠ tag →
      ∀ value geo, get { geo with countryCode := value } = get geo)
    (lat : "lat" ≠ tag → ∀ value geo, get { geo with lat := value } = get geo)
    (lon : "lon" ≠ tag → ∀ value geo, get { geo with lon := value } = get geo) :
    ∀ other ∈ Geo.fields, other.tag ≠ tag → ∀ kept, other.Keeps fun geo => get geo = kept := by
  intro other member different kept
  simp only [Geo.fields, List.mem_cons, List.not_mem_nil, or_false] at member
  rcases member with rfl | rfl | rfl | rfl
  · exact JsonField.keeps_text fun value geo same => (country different value geo).trans same
  · exact JsonField.keeps_text fun value geo same => (countryCode different value geo).trans same
  · exact JsonField.keeps_number fun value geo same => (lat different value geo).trans same
  · exact JsonField.keeps_number fun value geo same => (lon different value geo).trans same

/-- A text is read from its own key only. -/
theorem Geo.fills_text {tag : String} {get : Geo → String} {set : String → Geo → Geo}
    (found : ∀ value geo, get (set value geo) = value)
    (others : ∀ other ∈ Geo.fields, other.tag ≠ tag → ∀ kept, other.Keeps fun geo =>
      get geo = kept) :
    JsonField.Fills Geo.fields (.text tag get set false) get Json.asText where
  own json before after read := by
    cases json with
    | str _ | time _ =>
        cases read
        exact found _ _
    | null =>
        cases read
        rfl
    | bool _ | num _ | arr _ | obj _ => cases read
  others := others

theorem Geo.fills_number {tag : String} {get : Geo → ℚ} {set : ℚ → Geo → Geo}
    (found : ∀ value geo, get (set value geo) = value)
    (others : ∀ other ∈ Geo.fields, other.tag ≠ tag → ∀ kept, other.Keeps fun geo =>
      get geo = kept) :
    JsonField.Fills Geo.fields (.number tag get set) get Json.asNumber where
  own json before after read := by
    cases json with
    | num _ =>
        cases read
        exact found _ _
    | null =>
        cases read
        rfl
    | bool _ | str _ | time _ | arr _ | obj _ => cases read
  others := others

theorem Geo.fills_country : JsonField.Fills Geo.fields Geo.fields[0] Geo.country Json.asText :=
  fills_text (fun _ _ => rfl)
    (others_keep (absurd rfl) (fun _ _ _ => rfl) (fun _ _ _ => rfl) fun _ _ _ => rfl)

theorem Geo.fills_countryCode :
    JsonField.Fills Geo.fields Geo.fields[1] Geo.countryCode Json.asText :=
  fills_text (fun _ _ => rfl)
    (others_keep (fun _ _ _ => rfl) (absurd rfl) (fun _ _ _ => rfl) fun _ _ _ => rfl)

theorem Geo.fills_lat : JsonField.Fills Geo.fields Geo.fields[2] Geo.lat Json.asNumber :=
  fills_number (fun _ _ => rfl)
    (others_keep (fun _ _ _ => rfl) (fun _ _ _ => rfl) (absurd rfl) fun _ _ _ => rfl)

theorem Geo.fills_lon : JsonField.Fills Geo.fields Geo.fields[3] Geo.lon Json.asNumber :=
  fills_number (fun _ _ => rfl)
    (others_keep (fun _ _ _ => rfl) (fun _ _ _ => rfl) (fun _ _ _ => rfl) (absurd rfl))

/-- The geography that `encoding/json` reads is under its keys in any case. -/
theorem geo_caseless {document : Json} {geo : Geo}
    (located : JsonField.unmarshal Geo.fields {} document = some geo) :
    geo.country = (document.caseless "country").elim "" Json.asText ∧
      geo.countryCode = (document.caseless "country_code").elim "" Json.asText ∧
      geo.lat = (document.caseless "lat").elim 0 Json.asNumber ∧
      geo.lon = (document.caseless "lon").elim 0 Json.asNumber :=
  ⟨JsonField.unmarshal_get Geo.fills_country Geo.fields_distinct (List.getElem_mem _) rfl located,
    JsonField.unmarshal_get Geo.fills_countryCode Geo.fields_distinct (List.getElem_mem _) rfl
      located,
    JsonField.unmarshal_get Geo.fills_lat Geo.fields_distinct (List.getElem_mem _) rfl located,
    JsonField.unmarshal_get Geo.fills_lon Geo.fields_distinct (List.getElem_mem _) rfl located⟩

namespace ClickHouseJson

variable {clickHouse : ClickHouseJson} {document : Json} {geo : Geo} {key tag : String}

/-- What is read under a key of a message stands in the message under this key. -/
theorem mem_of_value {json : Json}
    (extracted : clickHouse.value (.message document) key = some json) :
    (key, json) ∈ document.entries := by
  obtain ⟨read, found, first⟩ := Option.bind_eq_some_iff.mp extracted
  obtain rfl := clickHouse.read_message _ _ found
  exact Json.exact_mem first

/-- A value that fits a field of Go fits ClickHouse's function for the type. -/
theorem ofText_of_read {get : Geo → String} {set : String → Geo → Geo} {json : Json}
    {before stored : Geo} (read : (JsonField.text tag get set false).read json before = some stored) :
    clickHouse.ofText json = json.asText := by
  cases json with
  | str text => exact clickHouse.ofText_str text
  | time instant => exact clickHouse.ofText_time instant
  | null => exact clickHouse.ofText_null
  | bool _ | num _ | arr _ | obj _ => cases read

/-- ClickHouse reads a number that Go has accepted as Go does. -/
theorem ofNumber_of_read {get : Geo → ℚ} {set : ℚ → Geo → Geo} {json : Json}
    {before stored : Geo} (read : (JsonField.number tag get set).read json before = some stored) :
    clickHouse.ofNumber json = json.asNumber := by
  cases json with
  | num number => exact clickHouse.ofNumber_num number
  | null => exact clickHouse.ofNumber_null
  | bool _ | str _ | time _ | arr _ | obj _ => cases read

/-- A message that was decoded has texts under the keys of texts. -/
theorem extractString_message {get : Geo → String} {set : String → Geo → Geo}
    (located : JsonField.unmarshal Geo.fields {} document = some geo)
    (selected : JsonField.select Geo.fields key = some (.text tag get set false)) :
    clickHouse.extractString (.message document) key =
      (clickHouse.value (.message document) key).elim "" Json.asText := by
  unfold extractString
  cases extracted : clickHouse.value (.message document) key with
  | none => rfl
  | some json =>
      obtain ⟨before, stored, fits⟩ :=
        JsonField.read_of_unmarshal located (mem_of_value extracted) selected
      exact ofText_of_read fits

/-- From a message that was decoded, ClickHouse extracts the same numbers. -/
theorem extractFloat_message {get : Geo → ℚ} {set : ℚ → Geo → Geo}
    (located : JsonField.unmarshal Geo.fields {} document = some geo)
    (selected : JsonField.select Geo.fields key = some (.number tag get set)) :
    clickHouse.extractFloat (.message document) key =
      (clickHouse.value (.message document) key).elim 0 Json.asNumber := by
  unfold extractFloat
  cases extracted : clickHouse.value (.message document) key with
  | none => rfl
  | some json =>
      obtain ⟨before, stored, fits⟩ :=
        JsonField.read_of_unmarshal located (mem_of_value extracted) selected
      exact ofNumber_of_read fits

end ClickHouseJson

/-- Every field is found under its own tag. -/
theorem Geo.select_field (index : Fin 4) :
    JsonField.select Geo.fields (Geo.fields[index]).tag = some Geo.fields[index] := by
  refine JsonField.select_of_fold Geo.fields_distinct (List.getElem_mem _) ?_ rfl
  match index with
  | 0 | 1 | 2 | 3 => rfl

/-- A decoded message has the geography that ClickHouse extracts from it exactly if its keys
are as `GeoInPayload` says. -/
theorem geoInMessage_iff {clickHouse : ClickHouseJson} {document : Json} {geo : Geo}
    (located : JsonField.unmarshal Geo.fields {} document = some geo) :
    geo = clickHouse.geo (.message document) ↔
      (Entrance.kafka (some document)).GeoInPayload clickHouse := by
  obtain ⟨country, countryCode, lat, lon⟩ := geo_caseless located
  have keys : (Entrance.kafka (some document)).GeoInPayload clickHouse ↔
      SameText document (clickHouse.read (.message document)) "country" ∧
      SameText document (clickHouse.read (.message document)) "country_code" ∧
      SameNumber document (clickHouse.read (.message document)) "lat" ∧
      SameNumber document (clickHouse.read (.message document)) "lon" := by
    simp [Entrance.GeoInPayload, and_assoc]
  have extracted : clickHouse.geo (.message document) =
      ⟨(clickHouse.value (.message document) "country").elim "" Json.asText,
        (clickHouse.value (.message document) "country_code").elim "" Json.asText,
        (clickHouse.value (.message document) "lat").elim 0 Json.asNumber,
        (clickHouse.value (.message document) "lon").elim 0 Json.asNumber⟩ :=
    Geo.eq_iff.mpr ⟨ClickHouseJson.extractString_message located (Geo.select_field 0),
      ClickHouseJson.extractString_message located (Geo.select_field 1),
      ClickHouseJson.extractFloat_message located (Geo.select_field 2),
      ClickHouseJson.extractFloat_message located (Geo.select_field 3)⟩
  rw [keys, Geo.eq_iff, country, countryCode, lat, lon, extracted]
  exact Iff.rfl

/-- The columns come back as they are; the geography is the extracted one. -/
theorem liveAgrees_scan_iff {clickHouse : ClickHouseJson} {round : ℚ → ℚ} {truncate : Int → Int}
    {event : Event} :
    LiveAgrees event (event.row.scan clickHouse round truncate) ↔
      event.geo = clickHouse.geo event.payload := by
  constructor
  · intro agrees
    exact Geo.mk.injEq .. |>.mpr ⟨agrees.country, agrees.countryCode, agrees.lat, agrees.lon⟩
  · intro same
    exact ⟨rfl, rfl, rfl, rfl, rfl, congrArg Geo.country same, congrArg Geo.countryCode same,
      congrArg Geo.lat same, congrArg Geo.lon same⟩

/-- A conditional change keeps what the change keeps. -/
theorem keeps_ite {α β : Type} (read : α → β) {condition : Prop} [Decidable condition]
    {changed value : α} (same : read changed = read value) :
    read (if condition then changed else value) = read value := by
  split
  · exact same
  · rfl

/-- What does not depend on the ids and times outlives `Normalize`. -/
theorem normalize_keeps {β : Type} (read : Event → β)
    (id : ∀ (event : Event) value, read { event with id := value } = read event)
    (eventID : ∀ (event : Event) value, read { event with eventID := value } = read event)
    (timestamp : ∀ (event : Event) value, read { event with timestamp := value } = read event)
    (newID : String) (now : Int) (event : Event) :
    read (event.normalize newID now) = read event :=
  calc read (event.normalize newID now)
      = read _ := keeps_ite read (eventID _ _)
    _ = read _ := keeps_ite read (timestamp _ _)
    _ = read _ := keeps_ite read (timestamp _ _)
    _ = read _ := keeps_ite read (id _ _)
    _ = read event := keeps_ite read (id _ _)

/-- `Normalize` changes neither the geo data nor the payload. -/
theorem normalize_frame (newID : String) (now : Int) (event : Event) :
    (event.normalize newID now).geo = event.geo ∧
      (event.normalize newID now).payload = event.payload :=
  ⟨normalize_keeps Event.geo (fun _ _ => rfl) (fun _ _ => rfl) (fun _ _ => rfl) newID now event,
    normalize_keeps Event.payload (fun _ _ => rfl) (fun _ _ => rfl) (fun _ _ => rfl) newID now
      event⟩

/-- Filling in changes no geo data, and the payload becomes the message. -/
theorem filledIn_frame (document : Json) (event : Event) :
    (event.filledIn document).geo = event.geo ∧
      (event.filledIn document).payload = .message document := by
  unfold Event.filledIn
  simp only
  split_ifs <;> exact ⟨rfl, rfl⟩

/-- The consumer keeps the geography that it has decoded, and the message with it. -/
theorem decodeMessage_geo {parse : String → Option Json} {newID : String} {now : Int}
    {document : Json} {event : Event}
    (decoded : decodeMessage parse newID now (some document) = some event) :
    JsonField.unmarshal Geo.fields {} document = some event.geo ∧
      event.payload = .message document := by
  obtain ⟨read, unmarshalled, rfl⟩ := decodeMessage_eq_some_iff.mp decoded
  have located := unmarshal_geo_of_event unmarshalled
  obtain ⟨sameGeo, payload⟩ := filledIn_frame document read
  have extracted := @extractGeo_message parse _ _ _ payload located
    (congrArg Geo.lat sameGeo) (congrArg Geo.lon sameGeo)
  obtain ⟨keptGeo, keptPayload⟩ :=
    normalize_frame newID now (extractGeo parse (read.filledIn document))
  rw [keptGeo, keptPayload, extracted]
  refine ⟨?_, payload⟩
  change _ = some (Geo.mk read.geo.country read.geo.countryCode (read.filledIn document).geo.lat
    (read.filledIn document).geo.lon)
  rw [located, sameGeo]

/-- An event is live as it is queried exactly when its payload holds its geography. -/
theorem liveAgrees_iff (clickHouse : ClickHouseJson) (round : ℚ → ℚ) (truncate : Int → Int)
    (parse : String → Option Json) (newID : String) (now : Int) (entrance : Entrance)
    (event : Event) (entered : entrance.event parse newID now = some event) :
    LiveAgrees event (event.row.scan clickHouse round truncate) ↔
      entrance.GeoInPayload clickHouse := by
  rw [liveAgrees_scan_iff]
  cases entrance with
  | kafka message =>
      obtain ⟨document, rfl, _⟩ := Option.bind_eq_some_iff.mp entered
      obtain ⟨located, payload⟩ := decodeMessage_geo entered
      rw [payload]
      exact geoInMessage_iff located
  | ingest body =>
      obtain rfl := Option.some.inj entered
      obtain ⟨located, payload⟩ := normalize_frame newID now body
      rw [located, payload, Geo.eq_iff]
      simp only [Entrance.GeoInPayload, holdsField_iff]
      exact Iff.rfl

/-- A body without a payload has to come without a geography. -/
theorem geoInPayload_ingest_iff (clickHouse : ClickHouseJson) {body : Event}
    (bare : body.payload = .text "") :
    (Entrance.ingest body).GeoInPayload clickHouse ↔ body.geo = {} := by
  have missing : ∀ key, clickHouse.value body.payload key = none := by
    intro key
    rw [bare, ClickHouseJson.value, clickHouse.read_blank]
    rfl
  simp only [Entrance.GeoInPayload, missing, HoldsField, Geo.eq_iff]
  exact Iff.rfl

/-- A message with each key at most once, under its exact name, and never `null`, needs no
more than that ClickHouse reads it. -/
theorem geoInPayload_of_exact (clickHouse : ClickHouseJson) {document : Json}
    (read : clickHouse.read (.message document) = some document)
    (spelled : ∀ key ∈ ["country", "country_code", "lat", "lon"],
      document.caseless key = document.exact key) :
    (Entrance.kafka (some document)).GeoInPayload clickHouse := by
  rintro _ ⟨⟩
  rw [read]
  constructor
  · intro key member
    rw [SameText, spelled key (List.mem_append_left ["lat", "lon"] member)]
    rfl
  · intro key member
    rw [SameNumber, spelled key (List.mem_append_right ["country", "country_code"] member)]
    rfl

/-- ClickHouse on payloads that are messages, with a wrong type counting as missing. -/
def plainClickHouse : ClickHouseJson where
  read
    | .message document => some document
    | .text _ => none
  ofText := Json.asText
  ofNumber := Json.asNumber
  read_blank := rfl
  read_message _ _ same := (Option.some.inj same).symm
  ofText_str _ := rfl
  ofText_time _ := rfl
  ofText_null := rfl
  ofNumber_num _ := rfl
  ofNumber_null := rfl

/-- A decision on a login from Berlin, with the country under the given name. -/
def berlinMessage (countryKey : String) : Json :=
  .obj [("decision_id", .str "7d444840"), ("timestamp", .time 1735689600000000000),
    (countryKey, .str "Germany"), ("country_code", .str "DE"), ("lat", .num 52), ("lon", .num 13)]

/-- The message has each key once and under its exact name. -/
theorem berlinMessage_exact : ∀ key ∈ ["country", "country_code", "lat", "lon"],
    (berlinMessage "country").caseless key = (berlinMessage "country").exact key := by
  intro key member
  simp only [List.mem_cons, List.not_mem_nil, or_false] at member
  rcases member with rfl | rfl | rfl | rfl <;> rfl

/-- A message with exact keys is read alike by both. -/
theorem liveAgrees_berlin :
    ∃ event, (Entrance.kafka (some (berlinMessage "country"))).event (fun _ => none) "evt-9" 0 =
      some event ∧ LiveAgrees event (event.row.scan plainClickHouse id id) := by
  obtain ⟨event, entered⟩ : ∃ event, (Entrance.kafka (some (berlinMessage "country"))).event
      (fun _ => none) "evt-9" 0 = some event := ⟨_, rfl⟩
  exact ⟨event, entered, (liveAgrees_iff plainClickHouse id id (fun _ => none) "evt-9" 0 _ event
    entered).mpr (geoInPayload_of_exact plainClickHouse rfl berlinMessage_exact)⟩

/-- An event posted with its geography in fields, and a message that spells a key
otherwise. -/
theorem liveAgrees_fails :
    (¬ ∀ body event : Event, (Entrance.ingest body).event (fun _ => none) "evt-9" 0 = some event →
      LiveAgrees event (event.row.scan plainClickHouse id id)) ∧
    ¬ ∀ (message : Option Json) (event : Event),
      (Entrance.kafka message).event (fun _ => none) "evt-9" 0 = some event →
        LiveAgrees event (event.row.scan plainClickHouse id id) := by
  constructor
  · intro always
    have agrees := always { eventID := "evt-1", country := "Germany", countryCode := "DE" } _ rfl
    exact absurd agrees.country (by decide)
  · intro always
    have agrees := always (some (berlinMessage "Country")) _ rfl
    exact absurd agrees.country (by decide +kernel)

end Sentinel.Analytics
