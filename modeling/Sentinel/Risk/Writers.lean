import Sentinel.Risk.Velocity

/-!
# The two writers of the feature store

`update_velocity` writes for a scored request what `_process_event` writes for
the auth event about the same login. An event carries its facts as flat fields or
in its `subject`, `source` and `data`; `writersAgree_iff` says for which facts
both write the same.
-/

namespace Sentinel.Wire.Json

/-- The text under a path of keys. A missing or null value on the way stands for
the empty text. -/
def textAt : List String → Json → Option String
  | [], .null => some ""
  | [], .str text => some text
  | [], _ => none
  | _ :: _, .null => some ""
  | key :: rest, value => (value.get key .null).bind (textAt rest)

/-- The value is the text or, for the empty text, missing. -/
def Denotes (value : Json) (text : String) : Prop :=
  value = .str text ∨ text = "" ∧ value = .null

/-- The value under a key, whatever the default for a missing one is. -/
theorem get_denotes {entries : List (String × Json)} {key text : String} {default : Json}
    (absent : default.Denotes "") (read : textAt [key] (.obj entries) = some text) :
    ∃ value, (Json.obj entries).get key default = some value ∧ value.Denotes text := by
  simp only [textAt, get, Option.bind_some] at read ⊢
  refine ⟨_, rfl, ?_⟩
  cases found : (entries.reverse.find? (·.1 = key)).map Prod.snd with
  | none =>
      simp only [found, Option.getD_none, textAt, Option.some.injEq] at read ⊢
      subst read
      exact absent
  | some value =>
      simp only [found, Option.getD_some] at read ⊢
      cases value with
      | null => exact .inr ⟨(Option.some.inj read).symm, rfl⟩
      | str same => exact .inl (congrArg Json.str (Option.some.inj read))
      | bool _ | num _ | time _ | arr _ | obj _ => cases read

/-- A value is taken as true where the text that it denotes is not empty. -/
theorem Denotes.truthy_iff {value : Json} {text : String} (denotes : value.Denotes text) :
    value.truthy = true ↔ text ≠ "" := by
  rcases denotes with rfl | ⟨rfl, rfl⟩
  · simp [truthy]
  · simp [truthy]

/-- The text of `first or second`. -/
def firstText (first second : String) : String := if first ≠ "" then first else second

/-- The first of two values denotes the first of two texts. -/
theorem orElse_denotes {first second : Json} {one two : String} (denotes : first.Denotes one)
    (otherwise : second.Denotes two) :
    ∃ value, first.orElse (some second) = some value ∧ value.Denotes (firstText one two) := by
  unfold orElse firstText
  by_cases told : one ≠ ""
  · rw [if_pos (denotes.truthy_iff.mpr told), if_pos told]
    exact ⟨first, rfl, denotes⟩
  · rw [if_neg (mt denotes.truthy_iff.mp told), if_neg told]
    exact ⟨second, rfl, otherwise⟩

/-- A part of a document that is an object, or that is missing. -/
theorem textAt_part {entries part : List (String × Json)} {key next : String}
    {rest : List String} (found : (Json.obj entries).get key (.obj []) = some (.obj part)) :
    textAt (key :: next :: rest) (.obj entries) = textAt (next :: rest) (.obj part) := by
  simp only [get, Option.some.injEq] at found
  cases value : (entries.reverse.find? (·.1 = key)).map Prod.snd with
  | none =>
      simp only [value, Option.getD_none, obj.injEq] at found
      subst found
      simp only [textAt, get, value, Option.getD_none, Option.bind_some]
      cases rest <;> rfl
  | some present =>
      simp only [value, Option.getD_some] at found
      subst found
      simp only [textAt, get, value, Option.getD_some, Option.bind_some]

/-- `value.get(key, {}) or {}` -/
theorem part_orElse {entries : List (String × Json)} {key next text : String}
    (read : textAt [key, next] (.obj entries) = some text) :
    ∃ value part, (Json.obj entries).get key (.obj []) = some value ∧
      value.orElse (some (.obj [])) = some (.obj part) ∧
      textAt [next] (.obj part) = some text := by
  cases found : (entries.reverse.find? (·.1 = key)).map Prod.snd with
  | none =>
      simp only [textAt, get, found, Option.getD_none, Option.bind_some] at read
      exact ⟨.obj [], [], by simp [get, found], rfl, read⟩
  | some value =>
      simp only [textAt, get, found, Option.getD_some, Option.bind_some] at read
      cases value with
      | null => exact ⟨.null, [], by simp [get, found], rfl, read⟩
      | obj part =>
          refine ⟨.obj part, part, by simp [get, found], ?_, read⟩
          unfold orElse
          cases part <;> rfl
      | bool _ | num _ | str _ | time _ | arr _ => cases read

end Sentinel.Wire.Json

namespace Sentinel.Risk

open Sentinel.Wire

/-- Each place tells the fact or nothing, and one of them tells it. A fact that
is missing is the empty text. -/
def Carries (event : Json) (places : List (List String)) (fact : String) : Prop :=
  ∃ texts, places.mapM (Json.textAt · event) = some texts ∧
    (∀ text ∈ texts, text = "" ∨ text = fact) ∧ fact ∈ texts

/-- Where the consumer looks for the country. -/
def countryPlaces : List (List String) :=
  [["data", "geo", "country_code"], ["source", "country_code"]]

/-- Where an event with flat fields has it. -/
def flatCountryPlaces : List (List String) := [["country_code"], ["geo", "country_code"]]

/-- An event about the login of a request, with the same facts. The country of an
event that tells none is unknown, which a request spells as XX. -/
structure CarriesFacts (event : Json) (request : ScoreRequest) : Prop where
  notFailed :
    (event.get "event_type" .null).bind (·.isText "auth.user.login_failed") = some false
  parts : ∀ key ∈ ["subject", "source", "device", "data"],
    ∃ part, event.get key (.obj []) = some (.obj part)
  ipAddress : Carries event [["ip_address"], ["source", "ip_address"]] request.ipAddress
  userID : Carries event [["user_id"], ["subject", "user_id"]] (request.userID.getD "")
  device : Carries event [["source", "device_id"], ["device", "fingerprint"]]
    request.device.fingerprint
  country :
    Carries event (countryPlaces ++ flatCountryPlaces) request.geo.countryCode ∨
      request.geo.countryCode = "XX" ∧ Carries event (countryPlaces ++ flatCountryPlaces) ""

/-- The consumer finds the country of a user's login, and it is not the one that it
takes for unknown. -/
def CountryReaches (event : Json) (request : ScoreRequest) : Prop :=
  request.userID.getD "" ≠ "" → request.geo.countryCode ≠ "" →
    request.geo.countryCode ≠ "XX" ∧
      ∃ place ∈ countryPlaces, Json.textAt place event = some request.geo.countryCode

/-- Both writers issue the same commands, whatever the order. -/
def WritersAgree (python : PythonText) (event : Json) (request : ScoreRequest) : Prop :=
  (updateVelocity request).Perm ((StoreCall.processEvent event).commands python)

/-- The updates of an event that reports no failure. -/
def startedUpdates (ip userID device country : Json) : List FeatureUpdate :=
  if !ip.truthy && !userID.truthy then [] else
    [60, 300, 900, 3600].flatMap (velocityUpdates ip userID false) ++
      if userID.truthy then
        (if ip.truthy then
          [.addUnique userID "ips" ip 3600, .addUnique userID "ips" ip 86400] else []) ++
        (if device.truthy then [.addUnique userID "devices" device 86400] else []) ++
        if country.truthy && country.isNotText "XX" then
          [.addUnique userID "countries" country 604800]
        else []
      else []

/-- A member of one of the user's sets, unless it is missing. -/
def setMember (userID dimension member : String) (window : Nat) : List StoreCommand :=
  if member ≠ "" then [.addUnique userID dimension member window] else []

/-- The increments of a login that did not fail. -/
def loginIncrements (ip userID : String) : List StoreCommand :=
  [60, 300, 900, 3600].flatMap (Attempt.commands ⟨nonempty userID, nonempty ip, false⟩)

variable {python : PythonText} {event : Json} {request : ScoreRequest}

/-- Both writers read the carried fact from the event. -/
theorem Carries.texts {first second : List String} {fact : String}
    (carried : Carries event [first, second] fact) :
    ∃ one two, Json.textAt first event = some one ∧ Json.textAt second event = some two ∧
      Json.firstText one two = fact := by
  obtain ⟨texts, read, plain, told⟩ := carried
  simp only [List.mapM_cons, List.mapM_nil, Option.pure_def, Option.bind_eq_bind,
    Option.bind_eq_some_iff, Option.bind_some, Option.some.injEq] at read
  obtain ⟨one, readOne, _, ⟨two, readTwo, rfl⟩, rfl⟩ := read
  refine ⟨one, two, readOne, readTwo, ?_⟩
  have firstPlain := plain one (by simp)
  have secondPlain := plain two (by simp)
  unfold Json.firstText
  simp only [List.mem_cons, List.not_mem_nil, or_false] at told
  by_cases missing : one = ""
  · subst missing
    rw [if_neg (by simp)]
    rcases told with rfl | rfl
    · simpa using secondPlain
    · rfl
  · rw [if_pos missing]
    exact firstPlain.resolve_left missing

/-- A value is known where its text is not empty. -/
theorem nonempty_of_denotes {value : Json} {text : String} (denotes : value.Denotes text) :
    python.known value = nonempty text := by
  unfold PythonText.known nonempty
  rcases denotes with rfl | ⟨rfl, rfl⟩
  · simp [Json.truthy, python.text_str]
  · simp [Json.truthy]

/-- The country that the consumer writes, by the texts of its two places. -/
def consumedCountry (one two : String) : String :=
  let told := Json.firstText one (Json.firstText two "XX")
  if told = "XX" then "" else told

/-- A set of the user's, as the consumer writes it. -/
theorem commands_addUnique {userID member : Json} {user text dimension : String} {window : Nat}
    (ofUser : userID.Denotes user) (known : user ≠ "") (denotes : member.Denotes text) :
    (if member.truthy then [FeatureUpdate.addUnique userID dimension member window]
      else []).flatMap (FeatureUpdate.commands python) = setMember user dimension text window := by
  obtain rfl : userID = .str user := ofUser.resolve_right fun missing => known missing.1
  unfold setMember
  rcases denotes with rfl | ⟨rfl, rfl⟩
  · by_cases empty : text = ""
    · simp [Json.truthy, empty]
    · simp [Json.truthy, empty, FeatureUpdate.commands, python.text_str]
  · simp [Json.truthy]

/-- The set of the countries leaves out the unknown one. -/
theorem commands_addCountry {userID country : Json} {user code : String}
    (ofUser : userID.Denotes user) (known : user ≠ "") (denotes : country.Denotes code) :
    (if country.truthy && country.isNotText "XX" then
        [FeatureUpdate.addUnique userID "countries" country 604800]
      else []).flatMap (FeatureUpdate.commands python) =
      setMember user "countries" (if code = "XX" then "" else code) 604800 := by
  by_cases unknown : code = "XX"
  · subst unknown
    obtain rfl : country = .str "XX" := denotes.resolve_right (by simp)
    rfl
  · rw [if_neg unknown]
    have named : country.isNotText "XX" = true := by
      rcases denotes with rfl | ⟨rfl, rfl⟩
      · simpa [Json.isNotText] using unknown
      · rfl
    rw [named, Bool.and_true]
    exact commands_addUnique ofUser known denotes

namespace CarriesFacts

/-- A part of the event, and what is under its keys. -/
theorem textAt_eq (carries : CarriesFacts event request) (key : String)
    (known : key ∈ ["subject", "source", "device", "data"]) :
    ∃ part, event.get key (.obj []) = some (.obj part) ∧ ∀ next rest,
      Json.textAt (key :: next :: rest) event = Json.textAt (next :: rest) (.obj part) := by
  obtain ⟨part, found⟩ := carries.parts key known
  refine ⟨part, found, fun next rest => ?_⟩
  cases event with
  | obj entries => exact Json.textAt_part found
  | null | bool _ | num _ | str _ | time _ | arr _ => cases found

/-- What the two places of the country tell. -/
theorem countryTexts (carries : CarriesFacts event request) :
    ∃ one two, Json.textAt ["data", "geo", "country_code"] event = some one ∧
      Json.textAt ["source", "country_code"] event = some two := by
  obtain ⟨_, read⟩ : ∃ texts, (countryPlaces ++ flatCountryPlaces).mapM (Json.textAt · event) =
      some texts := by
    rcases carries.country with ⟨texts, read, _⟩ | ⟨_, texts, read, _⟩ <;> exact ⟨texts, read⟩
  simp only [countryPlaces, flatCountryPlaces, List.cons_append, List.nil_append, List.mapM_cons,
    Option.pure_def, Option.bind_eq_bind, Option.bind_eq_some_iff] at read
  obtain ⟨one, readOne, _, ⟨two, readTwo, _⟩, _⟩ := read
  exact ⟨one, two, readOne, readTwo⟩

/-- Neither place tells another country than the request. -/
theorem country_plain (carries : CarriesFacts event request) {one two : String}
    (readOne : Json.textAt ["data", "geo", "country_code"] event = some one)
    (readTwo : Json.textAt ["source", "country_code"] event = some two) :
    (one = "" ∨ one = request.geo.countryCode) ∧
      (two = "" ∨ two = request.geo.countryCode) := by
  have told : ∃ texts, (countryPlaces ++ flatCountryPlaces).mapM (Json.textAt · event) =
      some texts ∧ ∀ text ∈ texts, text = "" ∨ text = request.geo.countryCode := by
    rcases carries.country with ⟨texts, read, plain, _⟩ | ⟨_, texts, read, plain, _⟩
    · exact ⟨texts, read, plain⟩
    · exact ⟨texts, read, fun text member => .inl ((or_self_iff).mp (plain text member))⟩
  obtain ⟨texts, read, plain⟩ := told
  simp only [countryPlaces, flatCountryPlaces, List.cons_append, List.nil_append, List.mapM_cons,
    readOne, readTwo, Option.pure_def, Option.bind_eq_bind, Option.bind_some,
    Option.bind_eq_some_iff, Option.some.injEq] at read
  obtain ⟨_, ⟨rest, _, rfl⟩, rfl⟩ := read
  exact ⟨plain one (by simp), plain two (by simp)⟩

/-- The consumer finds the facts of the request, and for its country the text that it
reads or XX. -/
theorem processEvent_eq (carries : CarriesFacts event request) {one two : String}
    (readOne : Json.textAt ["data", "geo", "country_code"] event = some one)
    (readTwo : Json.textAt ["source", "country_code"] event = some two) :
    ∃ ip userID device country, ip.Denotes request.ipAddress ∧
      userID.Denotes (request.userID.getD "") ∧ device.Denotes request.device.fingerprint ∧
      country.Denotes (Json.firstText one (Json.firstText two "XX")) ∧
      processEvent event = some (startedUpdates ip userID device country) := by
  obtain ⟨flatIp, nestedIp, readFlatIp, readNestedIp, isIp⟩ := carries.ipAddress.texts
  obtain ⟨flatUser, nestedUser, readFlatUser, readNestedUser, isUser⟩ := carries.userID.texts
  obtain ⟨deviceID, fingerprint, readDeviceID, readFingerprint, isDevice⟩ := carries.device.texts
  obtain ⟨subject, subjectFound, inSubject⟩ := carries.textAt_eq "subject" (by simp)
  obtain ⟨source, sourceFound, inSource⟩ := carries.textAt_eq "source" (by simp)
  obtain ⟨devicePart, deviceFound, inDevice⟩ := carries.textAt_eq "device" (by simp)
  obtain ⟨data, dataFound, inData⟩ := carries.textAt_eq "data" (by simp)
  rw [inSource] at readNestedIp readDeviceID readTwo
  rw [inSubject] at readNestedUser
  rw [inDevice] at readFingerprint
  rw [inData] at readOne
  obtain ⟨entries, rfl⟩ : ∃ entries, event = .obj entries := by
    cases event with
    | obj entries => exact ⟨entries, rfl⟩
    | null | bool _ | num _ | str _ | time _ | arr _ => cases sourceFound
  have blank : (Json.str "").Denotes "" := .inl rfl
  have missing : Json.null.Denotes "" := .inr ⟨rfl, rfl⟩
  obtain ⟨ip, ipFound, ipDenotes⟩ := Json.get_denotes blank readFlatIp
  obtain ⟨sourceIp, sourceIpFound, sourceIpDenotes⟩ := Json.get_denotes blank readNestedIp
  obtain ⟨user, userFound, userDenotes⟩ := Json.get_denotes missing readFlatUser
  obtain ⟨subjectUser, subjectUserFound, subjectUserDenotes⟩ :=
    Json.get_denotes missing readNestedUser
  obtain ⟨device, deviceIDFound, deviceDenotes⟩ := Json.get_denotes missing readDeviceID
  obtain ⟨print, printFound, printDenotes⟩ := Json.get_denotes blank readFingerprint
  obtain ⟨geoValue, geo, geoFound, geoIs, readGeo⟩ := Json.part_orElse readOne
  obtain ⟨geoCountry, geoCountryFound, geoCountryDenotes⟩ := Json.get_denotes missing readGeo
  obtain ⟨sourceCountry, sourceCountryFound, sourceCountryDenotes⟩ :=
    Json.get_denotes missing readTwo
  obtain ⟨anIp, ipIs, anIpDenotes⟩ := Json.orElse_denotes ipDenotes sourceIpDenotes
  obtain ⟨aUser, userIs, aUserDenotes⟩ := Json.orElse_denotes userDenotes subjectUserDenotes
  obtain ⟨aDevice, deviceIs, aDeviceDenotes⟩ := Json.orElse_denotes deviceDenotes printDenotes
  obtain ⟨fallback, fallbackIs, fallbackDenotes⟩ :=
    Json.orElse_denotes sourceCountryDenotes (.inl rfl : (Json.str "XX").Denotes "XX")
  obtain ⟨aCountry, countryIs, aCountryDenotes⟩ :=
    Json.orElse_denotes geoCountryDenotes fallbackDenotes
  refine ⟨anIp, aUser, aDevice, aCountry, isIp ▸ anIpDenotes, isUser ▸ aUserDenotes,
    isDevice ▸ aDeviceDenotes, aCountryDenotes, ?_⟩
  obtain ⟨kind, kindFound, notFailed⟩ := Option.bind_eq_some_iff.mp carries.notFailed
  simp only [processEvent, startedUpdates, ipFound, sourceFound, sourceIpFound, subjectFound,
    userFound, subjectUserFound, deviceIDFound, deviceFound, printFound, dataFound, geoFound,
    geoIs, geoCountryFound, sourceCountryFound, kindFound, notFailed, ipIs, userIs, deviceIs,
    fallbackIs, countryIs, Option.bind_eq_bind, Option.bind_some, Option.pure_def]
  split <;> rfl

end CarriesFacts

/-- The consumer's increments for an event of an address and a user. -/
theorem velocityUpdates_denoting {ip userID : Json} {address user : String}
    (ipDenotes : ip.Denotes address) (userDenotes : userID.Denotes user) :
    ([60, 300, 900, 3600].flatMap (velocityUpdates ip userID false)).flatMap
      (FeatureUpdate.commands python) = loginIncrements address user := by
  rw [List.flatMap_assoc]
  refine List.flatMap_congr fun window _ => ?_
  rw [velocityUpdates_commands, nonempty_of_denotes ipDenotes, nonempty_of_denotes userDenotes]

/-- What the consumer writes for facts that it has found. -/
theorem commands_startedUpdates {ip userID device country : Json}
    {address user fingerprint code : String} (ipDenotes : ip.Denotes address)
    (userDenotes : userID.Denotes user) (deviceDenotes : device.Denotes fingerprint)
    (countryDenotes : country.Denotes code) :
    (startedUpdates ip userID device country).flatMap (FeatureUpdate.commands python) =
      loginIncrements address user ++ if user ≠ "" then
        (setMember user "ips" address 3600 ++ setMember user "ips" address 86400) ++
          setMember user "devices" fingerprint 86400 ++
            setMember user "countries" (if code = "XX" then "" else code) 604800
      else [] := by
  unfold startedUpdates
  split
  · rename_i unknown
    have nobody : ¬ip.truthy = true ∧ ¬userID.truthy = true := by simpa using unknown
    have noAddress : address = "" := by simpa using mt ipDenotes.truthy_iff.mpr nobody.1
    have noUser : user = "" := by simpa using mt userDenotes.truthy_iff.mpr nobody.2
    subst noAddress noUser
    rfl
  · rw [List.flatMap_append, velocityUpdates_denoting ipDenotes userDenotes]
    congr 1
    by_cases known : user ≠ ""
    · have twice : (if ip.truthy then [FeatureUpdate.addUnique userID "ips" ip 3600,
            .addUnique userID "ips" ip 86400] else []) =
          (if ip.truthy then [.addUnique userID "ips" ip 3600] else []) ++
            if ip.truthy then [.addUnique userID "ips" ip 86400] else [] := by
        cases ip.truthy <;> rfl
      rw [if_pos (userDenotes.truthy_iff.mpr known), if_pos known, twice]
      simp only [List.flatMap_append]
      rw [commands_addUnique userDenotes known ipDenotes,
        commands_addUnique userDenotes known ipDenotes,
        commands_addUnique userDenotes known deviceDenotes,
        commands_addCountry userDenotes known countryDenotes]
    · rw [if_neg (mt userDenotes.truthy_iff.mp known), if_neg known]
      rfl

/-- The engine's increments are the same. -/
theorem actorIncrements_eq (ip userID : String) :
    [60, 300, 900, 3600].flatMap (actorIncrements ip userID) = loginIncrements ip userID := by
  refine List.flatMap_congr fun window _ => ?_
  unfold actorIncrements Attempt.commands Attempt.metrics nonempty
  by_cases noAddress : ip = "" <;> by_cases noUser : userID = "" <;> simp [noAddress, noUser]

/-- What the engine sends besides them. -/
theorem updateVelocity_eq (request : ScoreRequest) :
    updateVelocity request =
      loginIncrements request.ipAddress (request.userID.getD "") ++
        if request.userID.getD "" ≠ "" then
          setMember (request.userID.getD "") "devices" request.device.fingerprint 86400 ++
            setMember (request.userID.getD "") "countries" request.geo.countryCode 604800 ++
              (setMember (request.userID.getD "") "ips" request.ipAddress 3600 ++
                setMember (request.userID.getD "") "ips" request.ipAddress 86400)
        else [] := by
  simp only [updateVelocity, actorIncrements_eq, setMember]
  by_cases noAddress : request.ipAddress = "" <;> simp [noAddress]

/-- Members of one set are the same when they are the same text. -/
theorem setMember_perm_iff {user dimension member other : String} {window : Nat} :
    (setMember user dimension member window).Perm (setMember user dimension other window) ↔
      member = other := by
  unfold setMember
  constructor
  · intro same
    by_cases none : member = "" <;> by_cases noOther : other = "" <;>
      simp [none, noOther] at same ⊢
    exact same
  · rintro rfl
    exact List.Perm.refl _

/-- The country that the consumer writes is the country of the request exactly when
that reaches it. -/
theorem CarriesFacts.written_iff (carries : CarriesFacts event request) {one two : String}
    (readOne : Json.textAt ["data", "geo", "country_code"] event = some one)
    (readTwo : Json.textAt ["source", "country_code"] event = some two) :
    request.geo.countryCode = consumedCountry one two ↔
      (request.geo.countryCode ≠ "" → request.geo.countryCode ≠ "XX" ∧
        ∃ place ∈ countryPlaces, Json.textAt place event = some request.geo.countryCode) := by
  have plain := carries.country_plain readOne readTwo
  have reached : (∃ place ∈ countryPlaces,
      Json.textAt place event = some request.geo.countryCode) ↔
        one = request.geo.countryCode ∨ two = request.geo.countryCode := by
    simp [countryPlaces, readOne, readTwo]
  rw [reached]
  unfold consumedCountry Json.firstText
  generalize request.geo.countryCode = code at plain
  rcases plain with ⟨rfl | rfl, rfl | rfl⟩
  · by_cases empty : code = "" <;> simp [empty]
  · by_cases empty : two = "" <;> by_cases unknown : two = "XX" <;> simp [empty, unknown]
  · by_cases empty : one = "" <;> by_cases unknown : one = "XX" <;> simp [empty, unknown]
  · by_cases empty : two = "" <;> by_cases unknown : two = "XX" <;> simp [empty, unknown]

/-- Both writers write the same exactly when the country of a user's login reaches
the consumer and is not the one that it takes for unknown. -/
theorem writersAgree_iff (python : PythonText) (event : Json) (request : ScoreRequest)
    (carries : CarriesFacts event request) :
    WritersAgree python event request ↔ CountryReaches event request := by
  obtain ⟨one, two, readOne, readTwo⟩ := carries.countryTexts
  obtain ⟨ip, userID, device, country, ipDenotes, userDenotes, deviceDenotes, countryDenotes,
    processed⟩ := carries.processEvent_eq readOne readTwo
  unfold WritersAgree CountryReaches
  rw [updateVelocity_eq, StoreCall.commands, processed, Option.getD_some,
    commands_startedUpdates ipDenotes userDenotes deviceDenotes countryDenotes,
    List.perm_append_left_iff]
  by_cases known : request.userID.getD "" ≠ ""
  · rw [if_pos known, if_pos known, ← carries.written_iff readOne readTwo]
    have middle : ∀ ips devices countries others : List StoreCommand,
        (devices ++ countries ++ ips).Perm (ips ++ devices ++ others) ↔ countries.Perm others := by
      intro ips devices countries others
      simp only [List.perm_iff_count, List.count_append]
      refine forall_congr' fun command => ?_
      omega
    rw [middle, setMember_perm_iff]
    exact ⟨fun same _ => same, fun same => same known⟩
  · simp [known]

/-- A login event with its facts in the envelope. -/
def loginFrom (code : String) : Json :=
  .obj [("event_type", .str "auth.user.logged_in"),
    ("subject", .obj [("user_id", .str "7d444840")]),
    ("source", .obj [("ip_address", .str "203.0.113.9")]),
    ("data", .obj [("geo", .obj [("country_code", .str code)])])]

/-- The request that scores it. -/
def scoringIn (code : String) : ScoreRequest :=
  { scoringFrom (some "7d444840") "203.0.113.9" with geo := { countryCode := code } }

/-- The event of the example carries the facts of its request. -/
theorem carriesFacts_loginFrom (code : String) :
    CarriesFacts (loginFrom code) (scoringIn code) where
  notFailed := rfl
  parts := by simp [loginFrom, Json.get]
  ipAddress := ⟨["", "203.0.113.9"], rfl, by simp [scoringIn, scoringFrom],
    by simp [scoringIn, scoringFrom]⟩
  userID := ⟨["", "7d444840"], rfl, by simp [scoringIn, scoringFrom],
    by simp [scoringIn, scoringFrom]⟩
  device := ⟨["", ""], rfl, by simp, by simp [scoringIn, scoringFrom]⟩
  country := .inl ⟨[code, "", "", ""], rfl, by simp [scoringIn], by simp [scoringIn]⟩

/-- From a known country both write the same. -/
theorem writersAgree_known : WritersAgree plainPython (loginFrom "RU") (scoringIn "RU") := by
  refine (writersAgree_iff plainPython _ _ (carriesFacts_loginFrom "RU")).mpr fun _ _ => ?_
  exact ⟨by decide, ["data", "geo", "country_code"], by decide, rfl⟩

/-- A login from an unknown country: `update_velocity` adds XX to the user's countries. -/
theorem writersAgree_fails :
    ¬ ∀ (python : PythonText) (event : Json) (request : ScoreRequest),
      CarriesFacts event request → WritersAgree python event request := by
  intro always
  have agree := always plainPython _ _ (carriesFacts_loginFrom "XX")
  exact absurd agree.length_eq (by decide +kernel)

end Sentinel.Risk
