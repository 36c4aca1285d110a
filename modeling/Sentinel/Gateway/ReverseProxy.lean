import Sentinel.Wire.Http

/-!
# The gateway's reverse proxy

`outgoing` is what `httputil.ReverseProxy` makes of a request's headers with the
`Director` that `NewReverseProxy` installs, and `transmitted` what the transport
puts on the wire of it. A header that the proxy does not set itself reaches the
service without the blanks at the ends of its values, or not at all.
-/

namespace Sentinel.Gateway

open Sentinel.Wire

/-- The `Director`, after the one of `NewSingleHostReverseProxy`. -/
def director (header : Header) : Header :=
  (header.set "X-Forwarded-Host" (header.get "Host")).set "X-Forwarded-Proto" "http"

/-- `textproto.TrimString` -/
def trimString (text : String) : String :=
  String.ofList (trimBoth (· ∈ [' ', '\t', '\n', '\r']) text.toList)

/-- `httpguts.HeaderValuesContainsToken` -/
def containsToken (values : List String) (token : String) : Bool :=
  (values.flatMap splitComma).any fun part =>
    (trimBoth (· ∈ [' ', '\t']) part.toList).map Char.toLower = token.toList.map Char.toLower

def upgradeType (header : Header) : String :=
  if containsToken (header.values "Connection") "Upgrade" then header.get "Upgrade" else ""

/-- `ascii.IsPrint` -/
def isPrint (text : String) : Bool := text.toList.all fun char => ' ' ≤ char ∧ char ≤ '~'

def hopHeaders : List String :=
  ["Connection", "Proxy-Connection", "Keep-Alive", "Proxy-Authenticate", "Proxy-Authorization",
    "Te", "Trailer", "Transfer-Encoding", "Upgrade"]

/-- The names that `Connection` gives to the next hop only. -/
def nominated (header : Header) : List String :=
  (((header.values "Connection").flatMap splitComma).map trimString).filter (· ≠ "")

def removeHopByHopHeaders (header : Header) : Header :=
  (header.delAll (nominated header)).delAll hopHeaders

/-- Append the client to `X-Forwarded-For`, if the address has a port. -/
def appendForwardedFor (remoteAddr : String) (header : Header) : Header :=
  match splitHostPort remoteAddr.toList with
  | some (clientIP, _) =>
      header.set "X-Forwarded-For"
        (", ".intercalate (header.values "X-Forwarded-For" ++ [String.ofList clientIP]))
  | none => header

/-- The headers for the next hop, without hop-by-hop ones but for a protocol
switch and trailers. -/
def nextHop (header : Header) : Header :=
  let directed := director header
  let kept := removeHopByHopHeaders directed
  let kept := if containsToken (header.values "Te") "trailers" then kept.set "Te" "trailers"
    else kept
  if upgradeType directed ≠ "" then
    (kept.set "Connection" "Upgrade").set "Upgrade" (upgradeType directed)
  else kept

def defaultUserAgent (header : Header) : Header :=
  if header.values "User-Agent" = [] then header.set "User-Agent" "" else header

/-- The headers that `ServeHTTP` sends on. -/
def outgoing (request : Request) : Header :=
  defaultUserAgent (appendForwardedFor request.remoteAddr (nextHop request.header))

/-- `httpguts.ValidHeaderFieldValue`: no control character but the tab. -/
def validHeaderFieldValue (value : String) : Bool :=
  value.toList.all fun char => (' ' ≤ char ∧ char ≠ Char.ofNat 127) ∨ char = '\t'

/-- The headers that the gateway fills in from a token. -/
def identityNames : List String := ["X-User-ID", "X-User-Role", "X-User-Email"]

/-- The check that the transport makes of every value. The gateway's own server has
made it of what the client sent, so it can only fail on an identity header. -/
def validHeaders (header : Header) : Bool :=
  identityNames.all fun name => (header.values name).all validHeaderFieldValue

/-- The values as the transport writes them: without the blanks at their ends. -/
def transmitted (header : Header) : Header := fun name => (header name).map trimString

/-- The request as the service behind the proxy receives it. A switch to a
protocol whose name is not printable and an invalid header are answered by the
error handler instead. -/
def reverseProxy (request : Request) : Except HTTPError Request :=
  if isPrint (upgradeType (director request.header)) ∧ validHeaders (outgoing request) then
    .ok { request with header := transmitted (outgoing request) }
  else .error ⟨502, "\x7b\"error\":\"upstream service unavailable\"\x7d"⟩

/-- On the wire every value is trimmed. -/
theorem values_transmitted (header : Header) (name : String) :
    (transmitted header).values name = (header.values name).map trimString := rfl

theorem get_transmitted (header : Header) (name : String) :
    (transmitted header).get name = trimString (header.get name) := by
  rw [Header.get_eq, values_transmitted, Header.get_eq]
  cases header.values name with
  | nil => rfl
  | cons value rest => rfl

/-- The blanks that are lost on the wire are white space and no commas. -/
theorem blank_isSpace : ∀ char : Char, decide (char ∈ [' ', '\t', '\n', '\r']) = true →
    isSpace char = true ∧ decide (char ≠ ',') = true := by
  intro char blank
  simp only [decide_eq_true_eq, List.mem_cons, List.not_mem_nil, or_false] at blank
  rcases blank with rfl | rfl | rfl | rfl <;> decide

/-- Trimming on the wire is undone by nothing that trims later. -/
theorem trimSpace_trimString (text : String) : trimSpace (trimString text) = trimSpace text := by
  rw [trimSpace, trimString, String.toList_ofList,
    trimBoth_of_imp fun char blank => (blank_isSpace char blank).1, trimSpace]

theorem trimSpace_firstEntry_trimString (text : String) :
    trimSpace (firstEntry (trimString text)) = trimSpace (firstEntry text) := by
  simp only [trimSpace, firstEntry, trimString, String.toList_ofList]
  rw [trimBoth_takeWhile blank_isSpace]

/-- An id has no blanks to lose. -/
theorem trimString_uuid (id : Uuid) : trimString id.string = id.string := by
  have plain : ∀ char ∈ id.string.toList, decide (char ∈ [' ', '\t', '\n', '\r']) = false := by
    intro char member
    rcases Uuid.mem_string member with rfl | ⟨value, small, rfl⟩
    · decide
    · have digits : ∀ value < 16, decide (hexDigit value ∈ [' ', '\t', '\n', '\r']) = false := by
        decide
      exact digits value small
  rw [trimString, trimBoth_of_plain plain, String.ofList_toList]

/-- A request that is forwarded differs in its headers only. -/
theorem reverseProxy_ok {request sent : Request} (forwarded : reverseProxy request = .ok sent) :
    sent = { request with header := transmitted (outgoing request) } := by
  unfold reverseProxy at forwarded
  split at forwarded <;> cases forwarded
  rfl

/-- The names that do not go beyond the next hop. -/
def HopByHop (header : Header) (name : String) : Prop :=
  canonicalHeaderKey name ∈ (nominated header ++ hopHeaders).map canonicalHeaderKey

instance (header : Header) (name : String) : Decidable (HopByHop header name) :=
  inferInstanceAs (Decidable (_ ∈ _))

/-- What is left of a request's own values after the hop-by-hop removal. -/
def endToEnd (header : Header) (name : String) : List String :=
  if HopByHop header name then [] else header.values name

/-- The names that the proxy gives values of its own. -/
def proxyNames : List String :=
  ["X-Forwarded-Host", "X-Forwarded-Proto", "Te", "Connection", "Upgrade", "User-Agent"]

variable {request : Request} {header : Header} {name : String}

/-- The director leaves other headers alone. -/
theorem values_director
    (own : canonicalHeaderKey name ∉ proxyNames.map canonicalHeaderKey) :
    (director header).values name = header.values name := by
  simp only [proxyNames, List.map_cons, List.mem_cons, not_or] at own
  rw [director, Header.values_set_of_ne own.2.1, Header.values_set_of_ne own.1]

/-- It nominates none for removal. -/
theorem nominated_director (header : Header) : nominated (director header) = nominated header := by
  have same : (director header).values "Connection" = header.values "Connection" := by
    rw [director, Header.values_set_of_ne (by decide), Header.values_set_of_ne (by decide)]
  rw [nominated, same, nominated]

/-- The hop-by-hop headers go, and those that are end to end stay. -/
theorem values_removeHopByHopHeaders
    (own : canonicalHeaderKey name ∉ proxyNames.map canonicalHeaderKey) :
    (removeHopByHopHeaders (director header)).values name = endToEnd header name := by
  rw [removeHopByHopHeaders, Header.values_delAll, Header.values_delAll, nominated_director,
    values_director own, endToEnd]
  simp only [HopByHop, List.map_append, List.mem_append]
  by_cases hop : canonicalHeaderKey name ∈ hopHeaders.map canonicalHeaderKey <;>
    simp only [hop, or_true, or_false, if_true, if_false]

/-- For a header that is not the proxy's own the next hop gets what is end to end. -/
theorem values_nextHop (own : canonicalHeaderKey name ∉ proxyNames.map canonicalHeaderKey) :
    (nextHop header).values name = endToEnd header name := by
  have removed : (removeHopByHopHeaders (director header)).values name = endToEnd header name :=
    values_removeHopByHopHeaders own
  simp only [proxyNames, List.map_cons, List.mem_cons, not_or] at own
  obtain ⟨-, -, te, connection, upgrade, -⟩ := own
  simp only [nextHop]
  split <;> split <;>
    simp only [Header.values_set_of_ne te, Header.values_set_of_ne connection,
      Header.values_set_of_ne upgrade, removed]

/-- The forwarding header is the only one that is appended to. -/
theorem values_appendForwardedFor {remoteAddr : String}
    (other : canonicalHeaderKey name ≠ canonicalHeaderKey "X-Forwarded-For") :
    (appendForwardedFor remoteAddr header).values name = header.values name := by
  unfold appendForwardedFor
  split
  · exact Header.values_set_of_ne other
  · rfl

/-- The user agent is the only one that is given a default. -/
theorem values_defaultUserAgent
    (own : canonicalHeaderKey name ∉ proxyNames.map canonicalHeaderKey) :
    (defaultUserAgent header).values name = header.values name := by
  simp only [proxyNames, List.map_cons, List.mem_cons, not_or] at own
  unfold defaultUserAgent
  split
  · exact Header.values_set_of_ne own.2.2.2.2.2.1
  · rfl

/-- The proxy may drop a header that is not its own, and does nothing else to it. -/
theorem values_outgoing (own : canonicalHeaderKey name ∉ proxyNames.map canonicalHeaderKey)
    (other : canonicalHeaderKey name ≠ canonicalHeaderKey "X-Forwarded-For") :
    (outgoing request).values name = endToEnd request.header name := by
  rw [outgoing, values_defaultUserAgent own, values_appendForwardedFor other, values_nextHop own]

/-- A header arrives as it was sent, or not at all. -/
theorem values_outgoing_or (request : Request)
    (own : canonicalHeaderKey name ∉ proxyNames.map canonicalHeaderKey)
    (other : canonicalHeaderKey name ≠ canonicalHeaderKey "X-Forwarded-For") :
    (outgoing request).values name = [] ∨
      (outgoing request).values name = request.header.values name := by
  rw [values_outgoing own other, endToEnd]
  split
  · exact .inl rfl
  · exact .inr rfl

/-- The chain of forwarded addresses, with the client at its end if the
request's address has a port. -/
def forwardedChain (request : Request) : List String :=
  match splitHostPort request.remoteAddr.toList with
  | some (clientIP, _) =>
      [", ".intercalate (endToEnd request.header "X-Forwarded-For" ++ [String.ofList clientIP])]
  | none => endToEnd request.header "X-Forwarded-For"

/-- The forwarding header arrives with the peer appended. -/
theorem values_outgoing_forwardedFor (request : Request) :
    (outgoing request).values "X-Forwarded-For" = forwardedChain request := by
  rw [outgoing, values_defaultUserAgent (by decide), appendForwardedFor, forwardedChain,
    values_nextHop (by decide)]
  split
  · exact Header.values_set_self
  · exact values_nextHop (by decide)

end Sentinel.Gateway
