import Sentinel.Alert.Dispatcher
import Sentinel.Semantics.Machine
import Sentinel.Wire.Http

/-!
# The addresses that a webhook is delivered to

`Dispatch` looks the webhook's host up when it checks the URL, and each delivery
attempt looks it up again to connect. The check speaks only about the first
answer: `contactsPublic_of_guarded`. `strings.ToLower` and `url.Parse` are
parameters.
-/

namespace Sentinel.Alert

open Sentinel.Wire Sentinel.Semantics

/-- What `Dispatch` reads of a `url.URL`. -/
structure WebhookURL where
  scheme : String
  hostname : String

structure WebhookDispatcher where
  toLower : String → String
  parseURL : String → Option WebhookURL
  /-- `idna.Lookup.ToASCII`, which maps wide digits to plain ones. -/
  toASCII : String → Option String
  allowlist : List String
  production : Bool

/-- `NewWebhookDispatcher` -/
def newWebhookDispatcher (toLower : String → String) (parseURL : String → Option WebhookURL)
    (toASCII : String → Option String) (allowlist environment : String) : WebhookDispatcher where
  toLower := toLower
  parseURL := parseURL
  toASCII := toASCII
  allowlist := ((splitComma allowlist).map fun value => toLower (trimSpace value)).filter (· ≠ "")
  production := equalFold environment "production"

/-- What a lookup answers; `none` is an error. -/
abbrev DnsAnswer := Option (List IpAddress)

/-- `net.LookupIP`: an address is not looked up. -/
def lookupIP (host : String) (answer : DnsAnswer) : DnsAnswer :=
  match literalAddress host.toList with
  | some address => some [address]
  | none => answer

def localhost : IpAddress := ⟨[0, 0, 0, 0, 0, 0xffff, 0x7f00, 1], rfl⟩

/-- A lookup that fails counts as one of a private address. -/
def resolveIPs (host : String) (answer : DnsAnswer) : List IpAddress :=
  (lookupIP host answer).getD [localhost]

/-- The addresses that `validateWebhook` refuses. -/
def isInternal (address : IpAddress) : Bool :=
  address.isLoopback || address.isPrivate || address.isLinkLocalUnicast || address.isUnspecified

namespace WebhookDispatcher

variable (dispatcher : WebhookDispatcher)

def validateWebhook (raw : String) (answer : DnsAnswer) : Except String Unit :=
  match dispatcher.parseURL raw with
  | none => .error "invalid webhook URL"
  | some url =>
      if url.scheme = "" ∨ url.hostname = "" then .error "invalid webhook URL"
      else if dispatcher.production ∧ !equalFold url.scheme "https" then
        .error "production webhooks must use HTTPS"
      else if dispatcher.allowlist ≠ [] ∧
          dispatcher.toLower url.hostname ∉ dispatcher.allowlist then
        .error "webhook host is not allowlisted"
      else if (resolveIPs url.hostname answer).any isInternal then
        .error "webhook resolves to a private address"
      else .ok ()

/-- The host that `net/http` connects to: other than `validateWebhook`, it
converts a host that is not ASCII. -/
def dialHost (hostname : String) : String :=
  if hostname.toList.all fun char => char.toNat < 128 then hostname
  else (dispatcher.toASCII hostname).getD hostname

/-- The addresses that an attempt connects to: those of its lookup, one after
another until one accepts. Redirects are not followed. -/
def dialed (raw : String) (answer : DnsAnswer) (tried : Nat) : List IpAddress :=
  match dispatcher.parseURL raw with
  | none => []
  | some url =>
      if url.scheme = "http" ∨ url.scheme = "https" then
        ((lookupIP (dispatcher.dialHost url.hostname) answer).getD []).take tried
      else []

end WebhookDispatcher

inductive WebhookLabel where
  /-- `validateWebhook` with the answer of its lookup, then `json.Marshal`. -/
  | validate (answer : DnsAnswer) (marshals : Bool)
  /-- `httpClient.Do` with the answer of its lookup; without a status it fails. -/
  | attempt (answer : DnsAnswer) (tried : Nat) (status : Option Nat)
  | backoffElapsed
  | cancelled
  | publish (succeeded : Bool)

structure DeliveryState where
  phase : DispatchPhase
  /-- The addresses to which connections were opened. -/
  contacted : List IpAddress

namespace WebhookDispatcher

variable (dispatcher : WebhookDispatcher) (raw : String)

/-- The step of `Dispatch` that a label stands for. -/
def dispatchLabel : WebhookLabel → DispatchLabel
  | .validate answer marshals =>
      match dispatcher.validateWebhook raw answer with
      | .error _ => .prepare .invalidWebhook
      | .ok () => .prepare (if marshals then .ready else .marshalError)
  | .attempt _ _ status => .request (status.elim .transportError .status)
  | .backoffElapsed => .backoffElapsed
  | .cancelled => .cancelled
  | .publish succeeded => .publish succeeded

def contacts : WebhookLabel → List IpAddress
  | .attempt answer tried _ => dispatcher.dialed raw answer tried
  | _ => []

/-- One call of `Dispatch` for a webhook. -/
def delivery : Machine DeliveryState WebhookLabel where
  step state label := (state.phase.step (dispatcher.dispatchLabel raw label)).map fun phase =>
    ⟨phase, state.contacted ++ dispatcher.contacts raw label⟩

end WebhookDispatcher

namespace DeliveryState

def start : DeliveryState := ⟨.preparing, []⟩

/-- No connection was opened to an address that the check refuses. -/
def ContactsPublic (state : DeliveryState) : Prop :=
  ∀ address ∈ state.contacted, isInternal address = false

/-- The webhook names its host by an address, which is dialed as it was checked. -/
def Literal (dispatcher : WebhookDispatcher) (url : WebhookURL) : Prop :=
  (literalAddress url.hostname.toList).isSome ∧ dispatcher.dialHost url.hostname = url.hostname

/-- No attempt's lookup of a host's name answers with such an address. -/
def AnswersPublic (dispatcher : WebhookDispatcher) (raw : String) : WebhookLabel → Prop
  | .attempt answer _ _ => ∀ url, dispatcher.parseURL raw = some url → ¬ Literal dispatcher url →
      ∀ addresses, lookupIP (dispatcher.dialHost url.hostname) answer = some addresses →
        ∀ address ∈ addresses, isInternal address = false
  | _ => True

/-- The check has been passed. -/
def Validated (dispatcher : WebhookDispatcher) (raw : String) : DispatchPhase → Prop
  | .requesting _ | .backingOff _ => ∃ answer, dispatcher.validateWebhook raw answer = .ok ()
  | _ => True

variable {dispatcher : WebhookDispatcher} {raw : String} {state next : DeliveryState}
  {label : WebhookLabel}

/-- An address that is written out is checked itself. -/
theorem validate_literal {answer : DnsAnswer} {url : WebhookURL} {address : IpAddress}
    (valid : dispatcher.validateWebhook raw answer = .ok ())
    (parsed : dispatcher.parseURL raw = some url)
    (literal : literalAddress url.hostname.toList = some address) : isInternal address = false := by
  have resolved : resolveIPs url.hostname answer = [address] := by
    simp [resolveIPs, lookupIP, literal]
  simp only [WebhookDispatcher.validateWebhook, parsed, resolved] at valid
  by_contra inner
  simp only [List.any_cons, List.any_nil, Bool.or_false, Bool.not_eq_false] at valid inner
  rw [inner] at valid
  split at valid
  · cases valid
  · split at valid
    · cases valid
    · split at valid <;> cases valid

/-- Attempts are made only after the check. -/
theorem Validated.step {phase after : DispatchPhase} (validated : Validated dispatcher raw phase)
    (step : phase.step (dispatcher.dispatchLabel raw label) = some after) :
    Validated dispatcher raw after := by
  unfold DispatchPhase.step at step
  split at step
  · rename_i outcome prepared
    split at step
    · cases step
      trivial
    · cases step
      trivial
    · cases step
      cases label with
      | validate answer marshals =>
          cases valid : dispatcher.validateWebhook raw answer with
          | ok _ => exact ⟨answer, valid⟩
          | error problem => simp [WebhookDispatcher.dispatchLabel, valid] at prepared
      | attempt answer tried status => cases prepared
      | backoffElapsed => cases prepared
      | cancelled => cases prepared
      | publish succeeded => cases prepared
  · split at step
    · cases step
      trivial
    · split at step
      · cases step
        trivial
      · split at step
        · cases step
          exact validated
        · cases step
          trivial
  · cases step
    exact validated
  · cases step
    trivial
  · cases step
    trivial
  · cases step

/-- An attempt contacts no internal address: the host is an address that was
checked, or a name whose lookup is public. -/
theorem dialed_public {answer : DnsAnswer} {tried : Nat} {status : Option Nat}
    (validated : ∃ answer, dispatcher.validateWebhook raw answer = .ok ())
    (guard : AnswersPublic dispatcher raw (.attempt answer tried status)) :
    ∀ address ∈ dispatcher.dialed raw answer tried, isInternal address = false := by
  intro address member
  unfold WebhookDispatcher.dialed at member
  split at member
  · cases member
  · rename_i url parsed
    split at member
    · have member := List.mem_of_mem_take member
      by_cases literal : Literal dispatcher url
      · obtain ⟨checked, valid⟩ := validated
        obtain ⟨found, same⟩ := literal
        obtain ⟨own, found⟩ := Option.isSome_iff_exists.mp found
        have only : address = own := by
          simpa [same, lookupIP, found] using member
        rw [only]
        exact validate_literal valid parsed found
      · cases looked : lookupIP (dispatcher.dialHost url.hostname) answer with
        | none =>
            rw [looked] at member
            cases member
        | some addresses =>
            rw [looked] at member
            exact guard url parsed literal addresses looked address member
    · cases member

/-- Only a dispatch that is requesting gets a response. -/
theorem requesting_of_step {phase after : DispatchPhase} {outcome : RequestOutcome}
    (step : phase.step (.request outcome) = some after) :
    ∃ attempt, phase = .requesting attempt := by
  cases phase with
  | requesting attempt => exact ⟨attempt, rfl⟩
  | preparing => cases step
  | backingOff attempt => cases step
  | deadLettering reason error => cases step
  | returned error => cases step

structure Inv (dispatcher : WebhookDispatcher) (raw : String) (state : DeliveryState) : Prop where
  validated : Validated dispatcher raw state.phase
  contacts : state.ContactsPublic

/-- With public answers every step keeps the invariant. -/
theorem Inv.step (inv : state.Inv dispatcher raw) (guard : AnswersPublic dispatcher raw label)
    (step : (dispatcher.delivery raw).step state label = some next) :
    next.Inv dispatcher raw := by
  obtain ⟨phase, moved, rfl⟩ := Option.map_eq_some_iff.mp step
  refine ⟨inv.validated.step moved, fun address member => ?_⟩
  rcases List.mem_append.mp member with before | now
  · exact inv.contacts address before
  · cases label with
    | attempt answer tried status =>
        obtain ⟨attempt, located⟩ := requesting_of_step moved
        have passed := inv.validated
        rw [located] at passed
        exact dialed_public passed guard address now
    | validate answer marshals => cases now
    | backoffElapsed => cases now
    | cancelled => cases now
    | publish succeeded => cases now

/-- At the start nothing was contacted. -/
theorem inv_start : start.Inv dispatcher raw := ⟨trivial, nofun⟩

/-- An attempt that goes through the answer of a lookup contacts all of it. -/
theorem attempt_contacts {url : WebhookURL} {addresses : List IpAddress} {attempt : Nat}
    {answer : DnsAnswer} (located : state.phase = .requesting attempt)
    (parsed : dispatcher.parseURL raw = some url)
    (scheme : url.scheme = "http" ∨ url.scheme = "https")
    (looked : lookupIP (dispatcher.dialHost url.hostname) answer = some addresses) :
    ∃ next, (dispatcher.delivery raw).step state (.attempt answer addresses.length (some 200)) =
      some next ∧ ∀ address ∈ addresses, address ∈ next.contacted := by
  have moved : state.phase.step (.request (.status 200)) = some (.returned none) := by
    rw [located]
    rfl
  refine ⟨⟨.returned none, state.contacted ++ addresses⟩, ?_, fun address member => ?_⟩
  · change (state.phase.step (.request (.status 200))).map _ = _
    rw [moved]
    simp [WebhookDispatcher.contacts, WebhookDispatcher.dialed, parsed, scheme, looked]
  · exact List.mem_append_right _ member

end DeliveryState

/-- While every attempt's lookup of the host's name answers with public
addresses, no connection is opened to an internal one, and an attempt that goes
through any other answer opens one. -/
theorem delivery_contactsPublic (dispatcher : WebhookDispatcher) (raw : String) :
    (∀ labels, (dispatcher.delivery raw).Guarded
        (fun _ label => DeliveryState.AnswersPublic dispatcher raw label) .start labels →
      (dispatcher.delivery raw).Along DeliveryState.ContactsPublic .start labels) ∧
    ∀ (state : DeliveryState) (attempt : Nat) (url : WebhookURL) (answer : DnsAnswer)
      (addresses : List IpAddress), state.phase = .requesting attempt →
        dispatcher.parseURL raw = some url → (url.scheme = "http" ∨ url.scheme = "https") →
        lookupIP (dispatcher.dialHost url.hostname) answer = some addresses →
        (∃ address ∈ addresses, isInternal address = true) →
        ∃ next, (dispatcher.delivery raw).step state
            (.attempt answer addresses.length (some 200)) = some next ∧ ¬ next.ContactsPublic := by
  constructor
  · intro labels guarded
    have kept : (dispatcher.delivery raw).Along (DeliveryState.Inv dispatcher raw) .start labels :=
      Machine.along_of_guarded (fun inv guard step => inv.step guard step) DeliveryState.inv_start
        guarded
    exact kept.mono fun state inv => inv.contacts
  · intro state attempt url answer addresses located parsed scheme looked inner
    obtain ⟨address, member, inner⟩ := inner
    obtain ⟨next, step, contacted⟩ :=
      DeliveryState.attempt_contacts located parsed scheme looked
    refine ⟨next, step, fun isPublic => ?_⟩
    rw [isPublic address (contacted address member)] at inner
    cases inner

/-- A dispatcher in production that knows one webhook. -/
def hooksDispatcher : WebhookDispatcher :=
  newWebhookDispatcher id
    (fun raw => if raw = "https://hooks.example.com/risk" then
      some ⟨"https", "hooks.example.com"⟩ else none)
    some "hooks.example.com" "production"

def publicAddress : IpAddress := ⟨[0, 0, 0, 0, 0, 0xffff, 0xcb00, 0x7107], rfl⟩

/-- A name whose addresses stay public. -/
theorem delivery_contactsPublic_steady :
    (hooksDispatcher.delivery "https://hooks.example.com/risk").Along
      DeliveryState.ContactsPublic .start
      [.validate (some [publicAddress]) true, .attempt (some [publicAddress]) 1 (some 204)] := by
  refine (delivery_contactsPublic hooksDispatcher _).1 _ ?_
  refine fun next step => ⟨trivial, fun next step => ⟨?_, trivial⟩⟩
  rintro url parsed - addresses looked address member
  obtain rfl : url = ⟨"https", "hooks.example.com"⟩ :=
    (Option.some.inj parsed).symm
  obtain rfl : [publicAddress] = addresses := Option.some.inj looked
  obtain rfl := List.mem_singleton.mp member
  decide

/-- A name that answers differently at the attempt is contacted all the same. -/
theorem delivery_contactsPublic_fails :
    ¬ ∀ (dispatcher : WebhookDispatcher) (raw : String) (labels : List WebhookLabel),
      (dispatcher.delivery raw).Along DeliveryState.ContactsPublic .start labels := by
  intro always
  have run : ((hooksDispatcher.delivery "https://hooks.example.com/risk").exec .start
      [.validate (some [publicAddress]) true, .attempt (some [localhost]) 1 (some 200)]).map
        (·.contacted) = some [localhost] := by
    decide +kernel
  obtain ⟨state, reached, contacted⟩ := Option.map_eq_some_iff.mp run
  have isPublic := (always hooksDispatcher _ _).final reached localhost
    (contacted ▸ List.mem_singleton_self _)
  exact absurd isPublic (by decide)

end Sentinel.Alert
