import Sentinel.Wire.Http

/-!
# The key under which the gateway limits a request

`main` installs chi's `RealIP` before `RateLimit`. `RealIP` is a parameter with
what its documentation says: it reads three headers in this order and takes what
parses as an address. It replaces the peer's address before the middleware reads
it.
-/

namespace Sentinel.Gateway

open Sentinel.Wire

/-- The headers of which `RealIP` reads an address. -/
def realIPNames : List String := ["True-Client-IP", "X-Real-IP", "X-Forwarded-For"]

/-- `middleware.RealIP` of chi. -/
structure RealIP where
  address : Header → Option String
  parses : ∀ header ip, address header = some ip → (parseIP ip.toList).isSome
  /-- No other header matters. -/
  reads : ∀ header other, (∀ name ∈ realIPNames, header.values name = other.values name) →
    address header = address other
  /-- The address is the text of a header, or the first entry of `X-Forwarded-For`. -/
  named : ∀ header ip, address header = some ip →
    ip = header.get "True-Client-IP" ∨ ip = header.get "X-Real-IP" ∨
      ip = firstEntry (header.get "X-Forwarded-For")
  /-- `True-Client-IP` comes first. -/
  preferred : ∀ header, (parseIP (header.get "True-Client-IP").toList).isSome →
    address header = some (header.get "True-Client-IP")

namespace RealIP

/-- Of the other two headers nothing is read if they are blank. -/
theorem address_of_blank (realIP : RealIP) {header : Header}
    (real : trimSpace (header.get "X-Real-IP") = "")
    (forwarded : trimSpace (firstEntry (header.get "X-Forwarded-For")) = "") :
    realIP.address header =
      if (parseIP (header.get "True-Client-IP").toList).isSome then
        some (header.get "True-Client-IP") else none := by
  split
  · rename_i parses
    exact realIP.preferred header parses
  · rename_i unparsed
    refine Option.eq_none_iff_forall_ne_some.mpr fun ip found => ?_
    have parses := realIP.parses header ip found
    rcases realIP.named header ip found with rfl | rfl | rfl
    · exact unparsed parses
    · rw [parseIP_blank real] at parses
      cases parses
    · rw [parseIP_blank forwarded] at parses
      cases parses

/-- Without the three headers there is no address. -/
theorem address_absent (realIP : RealIP) {header : Header}
    (absent : ∀ name ∈ realIPNames, header.values name = []) : realIP.address header = none := by
  simp only [realIPNames, List.forall_mem_cons, List.not_mem_nil, false_implies, implies_true,
    and_true] at absent
  obtain ⟨client, real, forwarded⟩ := absent
  have empty : ∀ {name}, header.values name = [] → header.get name = "" := by
    intro name nothing
    rw [Header.get_eq, nothing]
    rfl
  rw [realIP.address_of_blank (by rw [empty real]; decide) (by rw [empty forwarded]; decide),
    empty client]
  rfl

def serve (realIP : RealIP) (request : Request) : Request :=
  match realIP.address request.header with
  | some ip => { request with remoteAddr := ip }
  | none => request

/-- `RealIP` changes no header. -/
theorem serve_header (realIP : RealIP) (request : Request) :
    (realIP.serve request).header = request.header := by
  unfold serve
  split <;> rfl

theorem serve_arriving_header (realIP : RealIP) (request : Request) (peer : Peer) :
    (realIP.serve (request.arriving peer)).header = request.header :=
  realIP.serve_header (request.arriving peer)

/-- The remote address is that of the headers, if they give one. -/
theorem serve_arriving_remoteAddr (realIP : RealIP) (request : Request) (peer : Peer) :
    (realIP.serve (request.arriving peer)).remoteAddr =
      (realIP.address request.header).getD peer.remoteAddr := by
  unfold serve
  split <;> simp_all [Request.arriving]

end RealIP

/-- The key of `RateLimit`. -/
def rateLimitKey (trustProxy : Bool) (request : Request) : String :=
  let host := match splitHostPort request.remoteAddr.toList with
    | some (host, _) => String.ofList host
    | none => ""
  let ip := if host = "" then request.remoteAddr else host
  let forwarded := request.header.get "X-Forwarded-For"
  if trustProxy ∧ forwarded ≠ "" then trimSpace (firstEntry forwarded) else ip

/-- `allow` is `Allow` of the limiter; an error is `none`. -/
def rateLimit (allow : String → Option Bool) (trustProxy : Bool) (request : Request) :
    Except HTTPError Request :=
  match allow (rateLimitKey trustProxy request) with
  | none => .error ⟨503, "rate limiting temporarily unavailable"⟩
  | some false => .error ⟨429, "Too Many Requests"⟩
  | some true => .ok request

/-- A request that is let through is not changed. -/
theorem rateLimit_ok {allow : String → Option Bool} {trustProxy : Bool} {request passed : Request}
    (allowed : rateLimit allow trustProxy request = .ok passed) : passed = request := by
  unfold rateLimit at allowed
  split at allowed <;> cases allowed
  rfl

/-- The key of a request with a port is its host. -/
theorem rateLimitKey_of_peer {request : Request} {peer : Peer}
    (accepted : request.remoteAddr = peer.remoteAddr) :
    rateLimitKey false request = String.ofList peer.host := by
  have nonempty : String.ofList peer.host ≠ "" := by
    intro empty
    exact peer.host_ne_nil (String.ofList_injective empty)
  simp [rateLimitKey, accepted, peer.splitHostPort_remoteAddr, nonempty]

/-- The key of an address without one is the address. -/
theorem rateLimitKey_of_parses {request : Request}
    (parses : (parseIP request.remoteAddr.toList).isSome) :
    rateLimitKey false request = request.remoteAddr := by
  obtain ⟨address, parsed⟩ := Option.isSome_iff_exists.mp parses
  simp [rateLimitKey, splitHostPort_of_parseIP parsed]

/-- The middlewares of `main` up to the limiter, for a request that arrives
from `peer`. -/
def limiterKey (realIP : RealIP) (trustProxy : Bool) (peer : Peer) (request : Request) : String :=
  rateLimitKey trustProxy (realIP.serve (request.arriving peer))

/-- Whatever address the headers carry comes before the peer's own. -/
theorem limiterKey_eq (realIP : RealIP) (peer : Peer) (request : Request) :
    limiterKey realIP false peer request =
      (realIP.address request.header).getD (String.ofList peer.host) := by
  have remote := realIP.serve_arriving_remoteAddr request peer
  cases found : realIP.address request.header with
  | none =>
      rw [found] at remote
      exact rateLimitKey_of_peer remote
  | some ip =>
      rw [found] at remote
      have parses := realIP.parses request.header ip found
      rw [limiterKey, rateLimitKey_of_parses (by rwa [remote]), remote]
      rfl

/-- The headers carry no address, or the peer's own. -/
def ClaimsNoOther (realIP : RealIP) (peer : Peer) (request : Request) : Prop :=
  ∀ ip, realIP.address request.header = some ip → ip = String.ofList peer.host

/-- The three headers are the same in both requests. -/
def SameClaims (first second : Request) : Prop :=
  ∀ name ∈ realIPNames, first.header.values name = second.header.values name

/-- Two requests of one peer are limited together exactly when their headers
carry the same address, or neither carries one that is not the peer's. -/
theorem limiterKey_eq_iff (realIP : RealIP) (peer : Peer) (first second : Request) :
    limiterKey realIP false peer first = limiterKey realIP false peer second ↔
      realIP.address first.header = realIP.address second.header ∨
        ClaimsNoOther realIP peer first ∧ ClaimsNoOther realIP peer second := by
  simp only [limiterKey_eq, ClaimsNoOther]
  cases realIP.address first.header with
  | none =>
      cases realIP.address second.header with
      | none => simp
      | some other => simp [eq_comm]
  | some ip =>
      cases realIP.address second.header with
      | none => simp
      | some other =>
          simp only [Option.getD_some, Option.some.injEq, forall_eq']
          constructor
          · exact .inl
          · rintro (same | ⟨one, two⟩)
            · exact same
            · exact one.trans two.symm

/-- Both together: whatever else the two requests carry, they are limited together
if the three headers are the same in them. -/
theorem limiterKey_same_iff (realIP : RealIP) (peer : Peer) (first second : Request) :
    (limiterKey realIP false peer first = limiterKey realIP false peer second ↔
      realIP.address first.header = realIP.address second.header ∨
        ClaimsNoOther realIP peer first ∧ ClaimsNoOther realIP peer second) ∧
    (SameClaims first second →
      limiterKey realIP false peer first = limiterKey realIP false peer second) := by
  have exactly := limiterKey_eq_iff realIP peer first second
  exact ⟨exactly, fun same => exactly.mpr (.inl (realIP.reads _ _ same))⟩

/-- The first of the three headers that is not empty. -/
def claimedAddress (header : Header) : String :=
  if header.get "True-Client-IP" ≠ "" then header.get "True-Client-IP"
  else if header.get "X-Real-IP" ≠ "" then header.get "X-Real-IP"
  else firstEntry (header.get "X-Forwarded-For")

/-- An instance that takes the claimed address if it parses. -/
def chiRealIP : RealIP where
  address header :=
    if (parseIP (claimedAddress header).toList).isSome then some (claimedAddress header) else none
  parses header ip found := by
    obtain ⟨parses, same⟩ := Option.ite_none_right_eq_some.mp found
    exact Option.some.inj same ▸ parses
  reads header other same := by
    simp only [realIPNames, List.forall_mem_cons, List.not_mem_nil, false_implies, implies_true,
      and_true] at same
    obtain ⟨client, real, forwarded⟩ := same
    have claimed : claimedAddress header = claimedAddress other := by
      unfold claimedAddress
      rw [Header.get_eq, Header.get_eq, Header.get_eq, client, real, forwarded]
      rfl
    rw [claimed]
  named header ip found := by
    obtain ⟨_, same⟩ := Option.ite_none_right_eq_some.mp found
    obtain rfl := Option.some.inj same
    unfold claimedAddress
    split
    · exact .inl rfl
    · split
      · exact .inr (.inl rfl)
      · exact .inr (.inr rfl)
  preferred header parses := by
    have nonempty : header.get "True-Client-IP" ≠ "" := by
      intro empty
      rw [empty] at parses
      cases parses
    rw [claimedAddress, if_pos nonempty, if_pos parses]

def somePeer : Peer where
  host := "198.51.100.1".toList
  port := "40000".toList
  host_ne_nil := by decide +kernel
  host_plain := List.forall_iff_forall_mem.mp (by decide)
  port_plain := List.forall_iff_forall_mem.mp (by decide)

/-- A request whose client names an address of its choice. -/
def forged : Request where
  header := Header.set (fun _ => []) "X-Real-IP" "203.0.113.9"

/-- The client chooses its key with a header. -/
theorem limiterKey_chosen :
    ¬ ∀ (realIP : RealIP) (peer : Peer) (first second : Request),
      limiterKey realIP false peer first = limiterKey realIP false peer second := by
  intro always
  have same := always chiRealIP somePeer {} forged
  rw [limiterKey_eq, limiterKey_eq] at same
  exact absurd same (by decide +kernel)

end Sentinel.Gateway
