import Mathlib.Data.List.Sort
import Sentinel.Gateway.ReverseProxy

/-!
# Verification of access tokens in the gateway

`jwt.Parse` is a parameter that comes with what its options promise of a token
it accepts. `verifyJWT` forwards the claims of such a token as headers, and no
value that the client sent under the same names.
-/

namespace Sentinel.Gateway

open Sentinel.Wire

structure Token where
  alg : String
  /-- `jwt.MapClaims` -/
  claims : String → Option Json

namespace Token

/-- A claim that is a string. -/
def text (token : Token) (name : String) : Option String :=
  match token.claims name with
  | some (.str value) => some value
  | _ => none

/-- The claim `aud` is a string or an array of strings. -/
def audience (token : Token) : List String :=
  match token.claims "aud" with
  | some (.str value) => [value]
  | some (.arr items) => items.filterMap fun | .str value => some value | _ => none
  | _ => []

/-- The claim `exp`, in seconds since the Unix epoch. -/
def expiresAt (token : Token) : Option ℚ :=
  match token.claims "exp" with
  | some (.num value) => some value
  | _ => none

end Token

structure ParserOptions where
  validMethods : List String
  issuer : String
  audience : String
  expirationRequired : Bool

/-- The JWT library. `parse` yields the token if there is no error and the token
is valid; an empty issuer or audience is not checked. -/
structure Jwt (PublicKey : Type) where
  decode : String → Option Token
  /-- The signature over a token's text verifies under a key. -/
  signed : String → PublicKey → String → Prop
  parse : PublicKey → ParserOptions → ℚ → String → Option Token
  decodes : ∀ key options now text token,
    parse key options now text = some token → decode text = some token
  verifies : ∀ key options now text token, parse key options now text = some token →
    token.alg ∈ options.validMethods ∧ signed token.alg key text
  issued : ∀ key options now text token, parse key options now text = some token →
    options.issuer ≠ "" → token.text "iss" = some options.issuer
  addressed : ∀ key options now text token, parse key options now text = some token →
    options.audience ≠ "" → options.audience ∈ token.audience
  expires : ∀ key options now text token, parse key options now text = some token →
    options.expirationRequired → ∃ instant, token.expiresAt = some instant ∧ now < instant

/-- A library that decodes a token and then makes every check of its options. -/
def Jwt.checking {PublicKey : Type} (decode : String → Option Token)
    (signed : String → PublicKey → String → Bool) : Jwt PublicKey where
  decode
  signed alg key text := signed alg key text = true
  parse key options now text := (decode text).filter fun token =>
    token.alg ∈ options.validMethods ∧ signed token.alg key text ∧
      (options.issuer ≠ "" → token.text "iss" = some options.issuer) ∧
      (options.audience ≠ "" → options.audience ∈ token.audience) ∧
      (options.expirationRequired → token.expiresAt.any (now < ·))
  decodes key options now text token parsed := (Option.filter_eq_some_iff.mp parsed).1
  verifies key options now text token parsed := by
    have checked := of_decide_eq_true (Option.filter_eq_some_iff.mp parsed).2
    exact ⟨checked.1, checked.2.1⟩
  issued key options now text token parsed := by
    have checked := of_decide_eq_true (Option.filter_eq_some_iff.mp parsed).2
    exact checked.2.2.1
  addressed key options now text token parsed := by
    have checked := of_decide_eq_true (Option.filter_eq_some_iff.mp parsed).2
    exact checked.2.2.2.1
  expires key options now text token parsed required := by
    have checked := of_decide_eq_true (Option.filter_eq_some_iff.mp parsed).2
    have later := checked.2.2.2.2 required
    cases found : token.expiresAt with
    | none => simp [found] at later
    | some instant => exact ⟨instant, rfl, by simpa [found] using later⟩

/-- The library accepts a token that passes its checks. -/
theorem Jwt.checking_parse {PublicKey : Type} {decode : String → Option Token}
    {signed : String → PublicKey → String → Bool} {key : PublicKey} {options : ParserOptions}
    {now : ℚ} {text : String} {token : Token} (decoded : decode text = some token)
    (method : token.alg ∈ options.validMethods) (verified : signed token.alg key text)
    (issuer : options.issuer ≠ "" → token.text "iss" = some options.issuer)
    (audience : options.audience ≠ "" → options.audience ∈ token.audience)
    (expires : ∃ instant, token.expiresAt = some instant ∧ now < instant) :
    (Jwt.checking decode signed).parse key options now text = some token := by
  refine Option.filter_eq_some_iff.mpr ⟨decoded, decide_eq_true ?_⟩
  obtain ⟨instant, found, later⟩ := expires
  refine ⟨method, verified, issuer, audience, fun _ => ?_⟩
  rw [found]
  exact decide_eq_true later

/-- `publicKey` is what the atomic pointer holds when the request is served. -/
structure AuthMiddleware (PublicKey : Type) where
  publicKey : Option PublicKey
  issuer : String
  audience : String

namespace AuthMiddleware

variable {PublicKey : Type}

def options (middleware : AuthMiddleware PublicKey) : ParserOptions :=
  ⟨["RS256"], middleware.issuer, middleware.audience, true⟩

end AuthMiddleware

def isWebSocketUpgrade (request : Request) : Bool :=
  equalFold (request.header.get "Connection") "Upgrade" &&
    equalFold (request.header.get "Upgrade") "websocket"

/-- The credentials of a request, which a WebSocket handshake may carry in its
query. -/
def authorization (request : Request) : String :=
  let header := request.header.get "Authorization"
  let accessToken := (request.query "access_token").headD ""
  if header = "" ∧ isWebSocketUpgrade request ∧ accessToken ≠ "" then "Bearer " ++ accessToken
  else header

/-- How `fmt` prints a float64: an integer is printed in full up to six digits. -/
structure FloatFormat where
  print : ℚ → String
  integer : ∀ count : Int, count.natAbs < 10 ^ 6 → print count = toString count

mutual

/-- `fmt.Sprintf` with the verb `%v`, of what `encoding/json` decodes into. -/
def sprintValue (format : FloatFormat) : Json → String
  | .null => "<nil>"
  | .bool value => if value then "true" else "false"
  | .num value => format.print value
  | .str text => text
  | .time instant => rfc3339 instant
  | .arr items => "[" ++ " ".intercalate (sprintItems format items) ++ "]"
  | .obj entries =>
      let sorted := (sprintEntries format entries).insertionSort fun one other => one.1 ≤ other.1
      "map[" ++ " ".intercalate (sorted.map fun entry => entry.1 ++ ":" ++ entry.2) ++ "]"

def sprintItems (format : FloatFormat) : List Json → List String
  | [] => []
  | item :: rest => sprintValue format item :: sprintItems format rest

/-- Of several entries with one key a map keeps the last. -/
def sprintEntries (format : FloatFormat) : List (String × Json) → List (String × String)
  | [] => []
  | (key, value) :: rest =>
      if key ∈ rest.map Prod.fst then sprintEntries format rest
      else (key, sprintValue format value) :: sprintEntries format rest

end

@[simp] theorem sprintValue_str (format : FloatFormat) (text : String) :
    sprintValue format (.str text) = text := by
  rw [sprintValue]

/-- The claim that each identity header forwards. -/
def identityClaims (sprint : Json → String) (token : Token) : List (String × Option String) :=
  [("X-User-ID", (token.claims "sub").map sprint), ("X-User-Role", token.text "role"),
    ("X-User-Email", token.text "email")]

def setClaim (header : Header) (claim : String × Option String) : Header :=
  match claim.2 with
  | some value => header.set claim.1 value
  | none => header

/-- Remove what the client sent, then set what the token says. -/
def forwardClaims (sprint : Json → String) (token : Token) (header : Header) : Header :=
  (identityClaims sprint token).foldl setClaim
    (header.delAll identityNames)

variable {PublicKey : Type} (jwt : Jwt PublicKey) (sprint : Json → String)

/-- `sprint` prints the claim `sub`, which need not be a text. -/
def verifyJWT (middleware : AuthMiddleware PublicKey) (now : ℚ) (request : Request) :
    Except HTTPError Request :=
  if authorization request = "" then .error ⟨401, "missing authorization header"⟩
  else match fields (authorization request) with
    | ["Bearer", tokenString] =>
        match middleware.publicKey with
        | none => .error ⟨503, "auth key unavailable"⟩
        | some pubKey =>
            match jwt.parse pubKey middleware.options now tokenString with
            | none => .error ⟨401, "invalid or expired token"⟩
            | some token =>
                .ok { request with header := forwardClaims sprint token request.header }
    | _ => .error ⟨401, "invalid authorization header format"⟩

/-- The text decodes to the token, and the token is signed with RS256, issued
and meant as configured, and not yet expired. -/
structure Verified (middleware : AuthMiddleware PublicKey) (now : ℚ) (text : String)
    (token : Token) : Prop where
  decodes : jwt.decode text = some token
  algorithm : token.alg = "RS256"
  signed : ∃ key, middleware.publicKey = some key ∧ jwt.signed "RS256" key text
  issuer : token.text "iss" = some middleware.issuer
  audience : middleware.audience ∈ token.audience
  expires : ∃ instant, token.expiresAt = some instant ∧ now < instant

variable {jwt sprint} {token : Token} {header : Header} {name : String}

/-- Setting one claim leaves the other headers alone. -/
theorem values_setClaim_of_ne {other : String} {claim : Option String}
    (distinct : canonicalHeaderKey name ≠ canonicalHeaderKey other) :
    (setClaim header (other, claim)).values name = header.values name := by
  cases claim with
  | none => rfl
  | some value => exact Header.values_set_of_ne distinct

/-- The header of a claim holds the claim. -/
theorem values_setClaim_self {claim : Option String} (absent : header.values name = []) :
    (setClaim header (name, claim)).values name = claim.toList := by
  cases claim with
  | none => exact absent
  | some value => exact Header.values_set_self

/-- Each identity header has its claim's value, or is absent with the claim. -/
theorem values_forwardClaims {claim : Option String}
    (identity : (name, claim) ∈ identityClaims sprint token) :
    (forwardClaims sprint token header).values name = claim.toList := by
  have removed : ∀ name ∈ identityNames, (header.delAll identityNames).values name = [] := by
    intro name member
    rw [Header.values_delAll, if_pos (List.mem_map_of_mem member)]
  simp only [identityClaims, List.mem_cons, List.not_mem_nil, or_false, Prod.mk.injEq] at identity
  simp only [forwardClaims, identityClaims, List.foldl_cons, List.foldl_nil]
  rcases identity with ⟨rfl, rfl⟩ | ⟨rfl, rfl⟩ | ⟨rfl, rfl⟩
  · rw [values_setClaim_of_ne (by decide), values_setClaim_of_ne (by decide)]
    exact values_setClaim_self (removed _ (by decide))
  · rw [values_setClaim_of_ne (by decide)]
    refine values_setClaim_self ?_
    rw [values_setClaim_of_ne (by decide), removed _ (by decide)]
  · refine values_setClaim_self ?_
    rw [values_setClaim_of_ne (by decide), values_setClaim_of_ne (by decide),
      removed _ (by decide)]

/-- The middleware leaves every other header alone. -/
theorem values_forwardClaims_of_ne
    (other : canonicalHeaderKey name ∉ identityNames.map canonicalHeaderKey) :
    (forwardClaims sprint token header).values name = header.values name := by
  have distinct := other
  simp only [identityNames, List.map_cons, List.mem_cons, not_or] at distinct
  simp only [forwardClaims, identityClaims, List.foldl_cons, List.foldl_nil]
  rw [values_setClaim_of_ne distinct.2.2.1, values_setClaim_of_ne distinct.2.1,
    values_setClaim_of_ne distinct.1, Header.values_delAll, if_neg other]

/-- What a request that passes the middleware carries, and what it becomes. -/
theorem verifyJWT_ok {middleware : AuthMiddleware PublicKey} {now : ℚ} {request passed : Request}
    (issuer : middleware.issuer ≠ "") (audience : middleware.audience ≠ "")
    (accepted : verifyJWT jwt sprint middleware now request = .ok passed) :
    ∃ text token, fields (authorization request) = ["Bearer", text] ∧
      Verified jwt middleware now text token ∧
      passed.header = forwardClaims sprint token request.header := by
  unfold verifyJWT at accepted
  split at accepted
  · cases accepted
  · split at accepted
    · rename_i text carried
      split at accepted
      · cases accepted
      · rename_i key current
        split at accepted
        · cases accepted
        · rename_i token parsed
          cases accepted
          have decodes := jwt.decodes _ _ _ _ _ parsed
          obtain ⟨method, signed⟩ := jwt.verifies _ _ _ _ _ parsed
          have algorithm : token.alg = "RS256" := List.mem_singleton.mp method
          have issued := jwt.issued _ _ _ _ _ parsed issuer
          have addressed := jwt.addressed _ _ _ _ _ parsed audience
          have expires := jwt.expires _ _ _ _ _ parsed rfl
          refine ⟨text, token, carried, ?_, rfl⟩
          exact ⟨decodes, algorithm, ⟨key, current, algorithm ▸ signed⟩, issued, addressed,
            expires⟩
    · cases accepted

/-- A request that bears a token passes exactly when the token parses under the
middleware's key. -/
theorem verifyJWT_bearing {middleware : AuthMiddleware PublicKey} {now : ℚ} {request : Request}
    {text : String} (bears : fields (authorization request) = ["Bearer", text]) :
    (∃ passed, verifyJWT jwt sprint middleware now request = .ok passed) ↔
      ∃ key token, middleware.publicKey = some key ∧
        jwt.parse key middleware.options now text = some token := by
  have authorized : authorization request ≠ "" := by
    intro absent
    rw [absent] at bears
    cases bears
  simp only [verifyJWT, authorized, if_false, bears]
  cases middleware.publicKey with
  | none => simp
  | some key => cases parsed : jwt.parse key middleware.options now text <;> simp [parsed]

/-- A request with the token in its `Authorization` header. -/
def bearerRequest (text : String) : Request where
  header := Header.set (fun _ => []) "Authorization" ("Bearer " ++ text)

/-- The request carries the token. -/
theorem header_bearerRequest (text : String) :
    (bearerRequest text).header.get "Authorization" = "Bearer " ++ text := by
  rw [Header.get_eq, bearerRequest, Header.values_set_self]
  rfl

/-- A bearer header has two fields. -/
theorem fields_bearer {request : Request} {text : String} (word : IsWord text)
    (header : request.header.get "Authorization" = "Bearer " ++ text) :
    fields (authorization request) = ["Bearer", text] := by
  have spaced : "Bearer " ++ text = "Bearer" ++ " " ++ text := rfl
  have present : "Bearer" ++ " " ++ text ≠ "" := by simp
  have direct : authorization request = "Bearer" ++ " " ++ text := by
    simp only [authorization, header, spaced, present, false_and, if_false]
  rw [direct]
  exact fields_pair ⟨by decide, List.forall_iff_forall_mem.mp (by decide)⟩ word

end Sentinel.Gateway
