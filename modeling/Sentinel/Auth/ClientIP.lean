import Sentinel.Gateway.RateLimit
import Sentinel.Gateway.ReverseProxy

/-!
# The client address that the auth service records

A public request passes `RealIP` and the reverse proxy in the gateway and then
`RealIP` again in the auth service, before `clientIP` resolves an address from
it. `AddressSource` says which of these steps decided.
-/

namespace Sentinel.Auth

open Sentinel.Wire Sentinel.Gateway

def normalizeIP (ip : String) : String :=
  match parseIP ip.toList with
  | none => "0.0.0.0"
  | some parsed => parsed.string

/-- The host of an address, which may have no port. -/
def hostOf (remoteAddr : String) : String :=
  match splitHostPort remoteAddr.toList with
  | none => remoteAddr
  | some (host, _) => String.ofList host

def clientIP (request : Request) : String :=
  let forwarded := request.header.get "X-Forwarded-For"
  let first := if forwarded ≠ "" then trimSpace (firstEntry forwarded) else ""
  let realIP := trimSpace (request.header.get "X-Real-IP")
  if first ≠ "" then normalizeIP first
  else if realIP ≠ "" then normalizeIP realIP
  else normalizeIP (hostOf request.remoteAddr)

/-- The gateway's handling of a public request that the limiter allows. -/
def throughGateway (realIP : RealIP) (peer : Peer) (request : Request) :
    Except HTTPError Request :=
  reverseProxy (realIP.serve (request.arriving peer))

/-- What `clientIP` resolves in the auth service, whose own peer is the gateway. -/
def recordedIP (realIP : RealIP) (peer gateway : Peer) (request : Request) :
    Except HTTPError String :=
  (throughGateway realIP peer request).map fun received =>
    clientIP (realIP.serve (received.arriving gateway))

/-- Whose choice the recorded address is. -/
inductive AddressSource where
  /-- The client's headers name this text. -/
  | client (named : String)
  | peer
  | gateway
deriving DecidableEq, Repr

namespace AddressSource

def text (peer gateway : Peer) : AddressSource → String
  | .client named => named
  | .peer => String.ofList peer.host
  | .gateway => String.ofList gateway.host

end AddressSource

/-- What is left of a header's first value when the proxy has sent it on. -/
def remaining (header : Header) (name : String) : String := (endToEnd header name).headD ""

/-- The headers that name an address, in the order in which they are heeded. The
proxy puts the peer into an empty `X-Forwarded-For` only if `RealIP` found
nothing before. -/
def addressSource (realIP : RealIP) (request : Request) : AddressSource :=
  let first := trimSpace (firstEntry (remaining request.header "X-Forwarded-For"))
  let named := trimSpace (remaining request.header "X-Real-IP")
  let client := trimString (remaining request.header "True-Client-IP")
  if endToEnd request.header "X-Forwarded-For" = [] ∧ realIP.address request.header = none then
    .peer
  else if first ≠ "" then .client first
  else if named ≠ "" then .client named
  else if (parseIP client.toList).isSome then .client client
  else .gateway

/-- The address is that of the first element of the header, or of the peer. -/
theorem clientIP_eq (request : Request) :
    clientIP request =
      let first := trimSpace (firstEntry (request.header.get "X-Forwarded-For"))
      let realIP := trimSpace (request.header.get "X-Real-IP")
      if first ≠ "" then normalizeIP first
      else if realIP ≠ "" then normalizeIP realIP
      else normalizeIP (hostOf request.remoteAddr) := by
  unfold clientIP
  by_cases empty : request.header.get "X-Forwarded-For" = ""
  · have blank : trimSpace (firstEntry "") = "" := by decide
    simp [empty, blank]
  · simp [empty]

variable {realIP : RealIP} {peer gateway : Peer} {request : Request}

/-- The entry that `clientIP` takes from what the proxy made of `X-Forwarded-For`. -/
theorem firstEntry_outgoing :
    trimSpace (firstEntry ((outgoing (realIP.serve (request.arriving peer))).get "X-Forwarded-For")) =
      if endToEnd request.header "X-Forwarded-For" = [] ∧ realIP.address request.header = none
      then String.ofList peer.host
      else trimSpace (firstEntry (remaining request.header "X-Forwarded-For")) := by
  have remote := realIP.serve_arriving_remoteAddr request peer
  have plain : ∀ char ∈ peer.host, isSpace char = false :=
    fun char member => (peer.host_plain char member).2.2.2
  have noComma : ',' ∉ peer.host := fun member => (peer.host_plain ',' member).2.2.1 rfl
  rw [Header.get_eq, values_outgoing_forwardedFor, forwardedChain, realIP.serve_arriving_header,
    remaining]
  cases found : realIP.address request.header with
  | none =>
      rw [found] at remote
      rw [remote, Option.getD_none, peer.splitHostPort_remoteAddr]
      cases chain : endToEnd request.header "X-Forwarded-For" with
      | nil =>
          simp [String.intercalate_singleton, firstEntry_of_plain noComma,
            trimSpace_of_plain plain]
      | cons first rest =>
          simp [firstEntry_intercalate]
  | some ip =>
      rw [found] at remote
      obtain ⟨address, parsed⟩ :=
        Option.isSome_iff_exists.mp (realIP.parses request.header ip found)
      rw [remote, Option.getD_some, splitHostPort_of_parseIP parsed]
      simp

/-- The address that is left when no header names one. -/
theorem hostOf_serve (received : Request) :
    hostOf (realIP.serve (received.arriving gateway)).remoteAddr =
      (realIP.address received.header).getD (String.ofList gateway.host) := by
  rw [realIP.serve_arriving_remoteAddr]
  cases found : realIP.address received.header with
  | none => simp only [Option.getD_none, hostOf, gateway.splitHostPort_remoteAddr]
  | some ip =>
      obtain ⟨address, parsed⟩ :=
        Option.isSome_iff_exists.mp (realIP.parses received.header ip found)
      simp only [Option.getD_some, hostOf, splitHostPort_of_parseIP parsed]

/-- A header of which the proxy makes nothing reaches the auth service trimmed. -/
theorem get_received {name : String}
    (own : canonicalHeaderKey name ∉ proxyNames.map canonicalHeaderKey)
    (other : canonicalHeaderKey name ≠ canonicalHeaderKey "X-Forwarded-For") :
    (transmitted (outgoing (realIP.serve (request.arriving peer)))).get name =
      trimString (remaining request.header name) := by
  rw [get_transmitted, Header.get_eq, values_outgoing own other, realIP.serve_arriving_header,
    remaining]

/-- What `clientIP` makes of the request that the proxy sends on. -/
theorem clientIP_received {received : Request}
    (sent : received.header = transmitted (outgoing (realIP.serve (request.arriving peer)))) :
    clientIP (realIP.serve (received.arriving gateway)) =
      normalizeIP ((addressSource realIP request).text peer gateway) := by
  have first : trimSpace (firstEntry ((transmitted (outgoing (realIP.serve
      (request.arriving peer)))).get "X-Forwarded-For")) =
      trimSpace (firstEntry ((outgoing (realIP.serve (request.arriving peer))).get
        "X-Forwarded-For")) := by
    rw [get_transmitted, trimSpace_firstEntry_trimString]
  have real : trimSpace ((transmitted (outgoing (realIP.serve (request.arriving peer)))).get
      "X-Real-IP") = trimSpace (remaining request.header "X-Real-IP") := by
    rw [get_received (by decide) (by decide), trimSpace_trimString]
  have client : (transmitted (outgoing (realIP.serve (request.arriving peer)))).get
      "True-Client-IP" = trimString (remaining request.header "True-Client-IP") :=
    get_received (by decide) (by decide)
  rw [firstEntry_outgoing] at first
  rw [clientIP_eq, hostOf_serve, realIP.serve_arriving_header, sent, addressSource]
  dsimp only
  by_cases peers : endToEnd request.header "X-Forwarded-For" = [] ∧
      realIP.address request.header = none
  · have named : String.ofList peer.host ≠ "" :=
      fun empty => peer.host_ne_nil (String.ofList_injective empty)
    rw [if_pos peers] at first
    rw [first, if_pos named, if_pos peers]
    rfl
  · rw [if_neg peers] at first
    rw [first, real, if_neg peers]
    split
    · rfl
    · rename_i blank
      split
      · rfl
      · rename_i unnamed
        rw [realIP.address_of_blank (by rw [real]; exact not_not.mp unnamed)
          (by rw [first]; exact not_not.mp blank), client]
        split <;> rfl

/-- The proxy sends the request on: what it asks to switch to is printable, and the
identity headers hold no control character. -/
def Forwards (request : Request) : Prop :=
  isPrint (upgradeType (director request.header)) = true ∧
    ∀ name ∈ identityNames, ∀ value ∈ endToEnd request.header name,
      validHeaderFieldValue value = true

/-- The transport sends a request on when all its end-to-end values can be sent. -/
theorem validHeaders_outgoing :
    validHeaders (outgoing (realIP.serve (request.arriving peer))) = true ↔
      ∀ name ∈ identityNames, ∀ value ∈ endToEnd request.header name,
        validHeaderFieldValue value = true := by
  have kept : ∀ name ∈ identityNames,
      (outgoing (realIP.serve (request.arriving peer))).values name =
        endToEnd request.header name := by
    intro name member
    have proper : ∀ name ∈ identityNames,
        canonicalHeaderKey name ∉ proxyNames.map canonicalHeaderKey ∧
          canonicalHeaderKey name ≠ canonicalHeaderKey "X-Forwarded-For" := by decide +kernel
    rw [values_outgoing (proper name member).1 (proper name member).2, realIP.serve_arriving_header]
  simp only [validHeaders, List.all_eq_true]
  exact forall₂_congr fun name member => by rw [kept name member]

/-- The four steps together record the address of the request's source. -/
theorem recordedIP_ok_iff {recorded : String} :
    recordedIP realIP peer gateway request = .ok recorded ↔
      Forwards request ∧
        normalizeIP ((addressSource realIP request).text peer gateway) = recorded := by
  have passes : Forwards request ↔
      isPrint (upgradeType (director (realIP.serve (request.arriving peer)).header)) = true ∧
        validHeaders (outgoing (realIP.serve (request.arriving peer))) = true := by
    rw [realIP.serve_arriving_header, validHeaders_outgoing, Forwards]
  rw [passes, recordedIP, throughGateway, reverseProxy]
  split
  · rename_i sent
    have received : ∀ received : Request,
        received.header = transmitted (outgoing (realIP.serve (request.arriving peer))) →
          clientIP (realIP.serve (received.arriving gateway)) =
            normalizeIP ((addressSource realIP request).text peer gateway) :=
      fun _ => clientIP_received
    simp only [Except.map, Except.ok.injEq, sent, true_and]
    rw [received _ rfl]
  · rename_i refused
    simp only [Except.map, reduceCtorEq, refused, false_and]

/-- What is recorded of a text that is no address. -/
def unspecified : IpAddress := ⟨[0, 0, 0, 0, 0, 0xffff, 0, 0], rfl⟩

/-- Two texts denote one address, if any. -/
def SameAddress (one other : String) : Prop :=
  (parseIP one.toList).getD unspecified = (parseIP other.toList).getD unspecified

/-- What is no address is recorded as the unspecified one. -/
theorem normalizeIP_eq (ip : String) :
    normalizeIP ip = ((parseIP ip.toList).getD unspecified).string := by
  unfold normalizeIP
  cases parseIP ip.toList with
  | none => exact (by decide +kernel : "0.0.0.0" = unspecified.string)
  | some address => rfl

/-- Two texts are recorded alike when they name one address. -/
theorem normalizeIP_eq_iff {one other : String} :
    normalizeIP one = normalizeIP other ↔ SameAddress one other := by
  rw [normalizeIP_eq, normalizeIP_eq, IpAddress.string_injective.eq_iff]
  rfl

/-- None of the headers that name an address is there. -/
def Unforwarded (request : Request) : Prop :=
  ∀ name ∈ realIPNames, request.header.values name = []

/-- Without forwarding headers the peer's own address is recorded. -/
theorem addressSource_unforwarded (plain : Unforwarded request) :
    addressSource realIP request = .peer := by
  have chain : endToEnd request.header "X-Forwarded-For" = [] := by
    rw [endToEnd, plain "X-Forwarded-For" (by decide), ite_self]
  rw [addressSource]
  exact if_pos ⟨chain, realIP.address_absent plain⟩

/-- Two requests of one peer that are sent on leave the same address exactly when the
texts that are heeded in their headers denote one address, the peer's own standing for
none of them. It is so if no request has such a header. -/
theorem recordedIP_same_iff (realIP : RealIP) (peer gateway : Peer) (first second : Request) :
    ((∀ one other, recordedIP realIP peer gateway first = .ok one →
        recordedIP realIP peer gateway second = .ok other → one = other) ↔
      (Forwards first → Forwards second →
        SameAddress ((addressSource realIP first).text peer gateway)
          ((addressSource realIP second).text peer gateway))) ∧
    (Unforwarded first → Unforwarded second →
      ∀ one other, recordedIP realIP peer gateway first = .ok one →
        recordedIP realIP peer gateway second = .ok other → one = other) := by
  simp only [recordedIP_ok_iff]
  refine ⟨⟨?_, ?_⟩, ?_⟩
  · intro same forwards also
    exact normalizeIP_eq_iff.mp (same _ _ ⟨forwards, rfl⟩ ⟨also, rfl⟩)
  · rintro same one other ⟨forwards, rfl⟩ ⟨also, rfl⟩
    exact normalizeIP_eq_iff.mpr (same forwards also)
  · rintro plain also one other ⟨_, rfl⟩ ⟨_, rfl⟩
    rw [addressSource_unforwarded plain, addressSource_unforwarded also]

def gatewayPeer : Peer where
  host := "10.0.0.2".toList
  port := "51000".toList
  host_ne_nil := by decide +kernel
  host_plain := List.forall_iff_forall_mem.mp (by decide)
  port_plain := List.forall_iff_forall_mem.mp (by decide)

/-- A client writes the first entry of the chain itself. -/
def prepended : Request where
  header := Header.set (fun _ => []) "X-Forwarded-For" "203.0.113.9"

/-- The client chooses the recorded address with a header. -/
theorem recordedIP_chosen :
    ¬ ∀ (realIP : RealIP) (peer gateway : Peer) (first second : Request),
      ∀ one other, recordedIP realIP peer gateway first = .ok one →
        recordedIP realIP peer gateway second = .ok other → one = other := by
  intro always
  have plain : recordedIP chiRealIP somePeer gatewayPeer {} = .ok "198.51.100.1" := by
    decide +kernel
  have chosen : recordedIP chiRealIP somePeer gatewayPeer prepended = .ok "203.0.113.9" := by
    decide +kernel
  exact absurd (always _ _ _ _ _ _ _ plain chosen) (by decide)

end Sentinel.Auth
