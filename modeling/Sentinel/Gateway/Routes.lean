import Sentinel.Gateway.RateLimit
import Sentinel.Gateway.VerifyJWT
import Sentinel.Risk.RuleCache

/-!
# The gateway's routes

`serve` is the handler that `main` builds, for the paths that are forwarded to
a service. Behind it `require_admin` of the risk engine decides on the headers
of the forwarded request alone.
-/

namespace Sentinel.Gateway

open Sentinel.Wire

inductive Upstream where
  | auth
  | risk
  | analytics
deriving DecidableEq, Repr

/-- A mounted path with what stands for its final star, and its handler. -/
structure Route where
  path : String
  upstream : Upstream
  verified : Bool

def routes : List Route :=
  [⟨"/api/v1/auth/", .auth, false⟩, ⟨"/api/v1/risk/", .risk, true⟩,
    ⟨"/api/v1/rules/", .risk, true⟩, ⟨"/api/v1/analytics/", .analytics, true⟩]

def Route.matches (route : Route) (path : String) : Bool :=
  route.path.toList.isPrefixOf path.toList

def getEnv (environment : String → String) (key fallback : String) : String :=
  if trimSpace (environment key) ≠ "" then trimSpace (environment key) else fallback

/-- A default that is not empty leaves no variable empty. -/
theorem getEnv_ne_empty (environment : String → String) (key fallback : String)
    (nonempty : fallback ≠ "") : getEnv environment key fallback ≠ "" := by
  unfold getEnv
  split <;> assumption

structure Server (PublicKey : Type) where
  environment : String → String
  jwt : Jwt PublicKey
  floatFormat : FloatFormat
  realIP : RealIP

namespace Server

variable {PublicKey : Type} (server : Server PublicKey)

/-- `fmt.Sprintf` with the verb `%v`. -/
def sprint : Json → String := sprintValue server.floatFormat

/-- `NewAuthMiddleware` with the configuration of `Load`. -/
def middleware (publicKey : Option PublicKey) : AuthMiddleware PublicKey where
  publicKey
  issuer := getEnv server.environment "JWT_ISSUER" "sentinel-auth-service"
  audience := getEnv server.environment "JWT_AUDIENCE" "sentinel-api"

/-- Both defaults are texts, so both claims are checked. -/
theorem middleware_configured (publicKey : Option PublicKey) :
    (server.middleware publicKey).issuer ≠ "" ∧ (server.middleware publicKey).audience ≠ "" := by
  have issuer := getEnv_ne_empty server.environment "JWT_ISSUER" "sentinel-auth-service"
    (by decide)
  have audience := getEnv_ne_empty server.environment "JWT_AUDIENCE" "sentinel-api" (by decide)
  simp only [middleware]
  exact ⟨issuer, audience⟩

def trustProxy : Bool := equalFold (getEnv server.environment "TRUST_PROXY" "false") "true"

/-- The upstream service and the request that it receives, or the gateway's own
answer. `allow` is the limiter and `publicKey` the key at this moment. -/
def serve (allow : String → Option Bool) (publicKey : Option PublicKey) (now : ℚ) (peer : Peer)
    (request : Request) : Except HTTPError (Upstream × Request) :=
  match rateLimit allow server.trustProxy (server.realIP.serve (request.arriving peer)) with
  | .error problem => .error problem
  | .ok request =>
      match routes.find? fun route => route.matches request.path with
      | none => .error ⟨404, "404 page not found"⟩
      | some route =>
          match if route.verified then
              verifyJWT server.jwt server.sprint (server.middleware publicKey) now request
            else .ok request with
          | .error problem => .error problem
          | .ok request => (reverseProxy request).map fun sent => (route.upstream, sent)

/-- Only the auth service is reached without verification. -/
theorem routes_verified : ∀ route ∈ routes, route.upstream ≠ .auth → route.verified = true := by
  decide

/-- The request that a service receives comes out of the proxy, after the
middleware if the route has it. -/
theorem serve_ok {server : Server PublicKey} {allow : String → Option Bool}
    {publicKey : Option PublicKey} {now : ℚ} {peer : Peer} {request sent : Request}
    {upstream : Upstream} (forwarded : server.serve allow publicKey now peer request =
      .ok (upstream, sent)) (guarded : upstream ≠ .auth) :
    ∃ passed, verifyJWT server.jwt server.sprint (server.middleware publicKey) now
        (server.realIP.serve (request.arriving peer)) = .ok passed ∧
      sent.header = transmitted (outgoing passed) := by
  unfold serve at forwarded
  split at forwarded
  · cases forwarded
  · rename_i limited allowed
    obtain rfl := rateLimit_ok allowed
    split at forwarded
    · cases forwarded
    · rename_i route found
      split at forwarded
      · cases forwarded
      · rename_i passed verified
        cases through : reverseProxy passed with
        | error problem => simp [through, Except.map] at forwarded
        | ok proxied =>
            simp only [through, Except.map, Except.ok.injEq, Prod.mk.injEq] at forwarded
            obtain ⟨rfl, rfl⟩ := forwarded
            have member := List.mem_of_find?_eq_some found
            rw [if_pos (routes_verified route member guarded)] at verified
            exact ⟨passed, verified, by rw [reverseProxy_ok through]⟩

end Server

/-- The headers that `require_admin` reads from a forwarded request. -/
def caller (request : Request) : Risk.Caller where
  serviceToken := (request.header.values "X-Service-Token").head?
  role := (request.header.values "X-User-Role").headD ""

namespace Server

variable {PublicKey : Type}

/-- The client's request carries a token that verifies under the current key. -/
def Carries (server : Server PublicKey) (publicKey : Option PublicKey) (now : ℚ)
    (request : Request) (token : Token) : Prop :=
  ∃ text, fields (authorization request) = ["Bearer", text] ∧
    Verified server.jwt (server.middleware publicKey) now text token

/-- The client sends the configured service token. -/
def Presents (adminServiceToken : String) (request : Request) : Prop :=
  adminServiceToken ≠ "" ∧
    ∃ value ∈ request.header.values "X-Service-Token", trimString value = adminServiceToken

/-- What a service is to rely on when it receives `sent` for a request with this token. -/
structure Vouched (server : Server PublicKey) (request sent : Request) (token : Token) : Prop where
  /-- An identity header is absent or shows its claim. -/
  claimed : ∀ name claim, (name, claim) ∈ identityClaims server.sprint token →
    sent.header.values name = [] ∨
      ∃ value, claim = some value ∧ sent.header.values name = [value]
  /-- `require_admin` answers to the role claim or to the service token. -/
  administers : ∀ adminServiceToken answer,
    Risk.requireAdmin adminServiceToken (caller sent) = .ok answer →
      token.text "role" = some "admin" ∨ Presents adminServiceToken request

/-- No claim that is sent on has blanks at its ends, which the transport would take away. -/
def Unpadded (server : Server PublicKey) (request : Request) (token : Token) : Prop :=
  ∀ name value, (name, some value) ∈ identityClaims server.sprint token →
    HopByHop request.header name ∨ trimString value = value

/-- A text decodes to one token. -/
theorem Carries.unique {server : Server PublicKey} {publicKey : Option PublicKey} {now : ℚ}
    {request : Request} {token other : Token} (carries : server.Carries publicKey now request token)
    (also : server.Carries publicKey now request other) : token = other := by
  obtain ⟨text, fields, verified⟩ := carries
  obtain ⟨same, again, verifiedAgain⟩ := also
  obtain rfl : text = same := by simpa using fields.symm.trans again
  exact Option.some.inj (verified.decodes.symm.trans verifiedAgain.decodes)

/-- `RealIP` leaves the authorization alone. -/
theorem authorization_serve (server : Server PublicKey) (request : Request) (peer : Peer) :
    authorization (server.realIP.serve (request.arriving peer)) = authorization request := by
  unfold RealIP.serve
  split <;> rfl

/-- The identity headers are not the proxy's own. -/
theorem identity_not_proxy {sprint : Json → String} {token : Token} {name : String}
    {claim : Option String} (identity : (name, claim) ∈ identityClaims sprint token) :
    canonicalHeaderKey name ∉ proxyNames.map canonicalHeaderKey ∧
      canonicalHeaderKey name ≠ canonicalHeaderKey "X-Forwarded-For" := by
  simp only [identityClaims, List.mem_cons, List.not_mem_nil, or_false, Prod.mk.injEq] at identity
  rcases identity with ⟨rfl, _⟩ | ⟨rfl, _⟩ | ⟨rfl, _⟩ <;> decide +kernel

/-- A claim arrives without the blanks at its ends, unless its header is dropped. -/
theorem values_sent {sprint : Json → String} {token : Token} {passed sent : Request}
    {header : Header} {name : String} {claim : Option String}
    (identity : (name, claim) ∈ identityClaims sprint token)
    (passedHeader : passed.header = forwardClaims sprint token header)
    (sentHeader : sent.header = transmitted (outgoing passed)) :
    sent.header.values name =
      if HopByHop header name then [] else claim.toList.map trimString := by
  obtain ⟨own, other⟩ := identity_not_proxy identity
  have connection : (forwardClaims sprint token header).values "Connection" =
      header.values "Connection" := values_forwardClaims_of_ne (by decide +kernel)
  have same : HopByHop (forwardClaims sprint token header) name ↔ HopByHop header name := by
    rw [HopByHop, nominated, connection, HopByHop, nominated]
  rw [sentHeader, values_transmitted, values_outgoing own other, passedHeader, endToEnd,
    values_forwardClaims identity]
  by_cases dropped : HopByHop header name
  · rw [if_pos dropped, if_pos (same.mpr dropped), List.map_nil]
  · rw [if_neg dropped, if_neg (mt same.mp dropped)]

/-- What a service receives for a request with this token: the claims, without the blanks at
their ends. -/
structure Shows (server : Server PublicKey) (request sent : Request) (token : Token) : Prop where
  claims : ∀ name claim, (name, claim) ∈ identityClaims server.sprint token →
    sent.header.values name =
      if HopByHop request.header name then [] else claim.toList.map trimString
  /-- A service token comes from the client. -/
  serviceToken : ∀ value ∈ sent.header.values "X-Service-Token",
    ∃ given ∈ request.header.values "X-Service-Token", trimString given = value

/-- Whatever headers, query and path a request has: it reaches the risk engine
or the analytics service only with a verified token, and its identity headers show
that token's claims. -/
theorem shows_of_forwarded {server : Server PublicKey} {allow : String → Option Bool}
    {publicKey : Option PublicKey} {now : ℚ} {peer : Peer} {request sent : Request}
    {upstream : Upstream}
    (forwarded : server.serve allow publicKey now peer request = .ok (upstream, sent))
    (guarded : upstream ≠ .auth) :
    ∃ token, server.Carries publicKey now request token ∧ server.Shows request sent token := by
  obtain ⟨passed, accepted, sentHeader⟩ := serve_ok forwarded guarded
  obtain ⟨issuer, audience⟩ := server.middleware_configured publicKey
  obtain ⟨text, token, carried, verified, passedHeader⟩ := verifyJWT_ok issuer audience accepted
  rw [authorization_serve] at carried
  rw [server.realIP.serve_arriving_header] at passedHeader
  refine ⟨token, ⟨text, carried, verified⟩,
    ⟨fun _ _ identity => values_sent identity passedHeader sentHeader, fun value shown => ?_⟩⟩
  have unchanged := values_outgoing_or passed
    (by decide +kernel : canonicalHeaderKey "X-Service-Token" ∉ proxyNames.map canonicalHeaderKey)
    (by decide +kernel)
  rw [sentHeader, values_transmitted] at shown
  obtain ⟨given, listed, rfl⟩ := List.mem_map.mp shown
  refine ⟨given, ?_, rfl⟩
  rcases unchanged with dropped | kept
  · rw [dropped] at listed
    cases listed
  · rwa [kept, passedHeader, values_forwardClaims_of_ne (by decide +kernel)] at listed

/-- `require_admin` lets through who presents the service token or shows the role. -/
theorem Shows.requireAdmin_ok {server : Server PublicKey} {request sent : Request} {token : Token}
    (shows_ : server.Shows request sent token) {adminServiceToken answer : String}
    (allowed : Risk.requireAdmin adminServiceToken (caller sent) = .ok answer) :
    Presents adminServiceToken request ∨
      ∃ rest, sent.header.values "X-User-Role" = "admin" :: rest := by
  unfold Risk.requireAdmin at allowed
  split at allowed
  · rename_i service
    exact .inl ⟨service.1, shows_.serviceToken _ (List.mem_of_head? service.2)⟩
  · split at allowed
    · rename_i admin
      refine .inr ?_
      cases values : sent.header.values "X-User-Role" with
      | nil => simp [caller, values] at admin
      | cons first rest =>
          obtain rfl : first = "admin" := by simpa [caller, values] using admin
          exact ⟨rest, rfl⟩
    · cases allowed

/-- The upstream is shown the claims exactly where they need no trimming. -/
theorem Shows.vouched_iff {server : Server PublicKey} {request sent : Request} {token : Token}
    (shows_ : server.Shows request sent token) :
    server.Vouched request sent token ↔ server.Unpadded request token := by
  constructor
  · intro vouched name value identity
    by_cases dropped : HopByHop request.header name
    · exact .inl dropped
    · have values := shows_.claims name _ identity
      rw [if_neg dropped] at values
      rcases vouched.claimed name _ identity with absent | ⟨claim, same, shown⟩
      · rw [absent] at values
        cases values
      · obtain rfl := Option.some.inj same
        rw [shown] at values
        exact .inr (List.singleton_inj.mp values).symm
  · intro unpadded
    have claimed : ∀ name claim, (name, claim) ∈ identityClaims server.sprint token →
        sent.header.values name = [] ∨
          ∃ value, claim = some value ∧ sent.header.values name = [value] := by
      intro name claim identity
      have values := shows_.claims name claim identity
      cases claim with
      | none => exact .inl (by rw [values]; exact ite_self _)
      | some value =>
          rcases unpadded name value identity with dropped | trimmed
          · exact .inl (by rw [values, if_pos dropped])
          · rw [Option.toList_some, List.map_singleton, trimmed] at values
            split at values
            · exact .inl values
            · exact .inr ⟨value, rfl, values⟩
    refine ⟨claimed, fun adminServiceToken answer allowed => ?_⟩
    rcases shows_.requireAdmin_ok allowed with service | ⟨rest, shown⟩
    · exact .inr service
    · rcases claimed "X-User-Role" (token.text "role") (by simp [identityClaims]) with
        absent | ⟨value, claim, values⟩
      · rw [absent] at shown
        cases shown
      · rw [shown] at values
        obtain ⟨rfl, _⟩ := List.cons.inj values
        exact .inl claim

/-- Every request that reaches the risk engine or the analytics service carries a verified
token, and the services may rely on its identity headers exactly if no claim that is sent
on has blanks at its ends. -/
theorem vouched_iff_unpadded (server : Server PublicKey) (allow : String → Option Bool)
    (publicKey : Option PublicKey) (now : ℚ) (peer : Peer) (request sent : Request)
    (upstream : Upstream)
    (forwarded : server.serve allow publicKey now peer request = .ok (upstream, sent))
    (guarded : upstream ≠ .auth) :
    (∃ token, server.Carries publicKey now request token) ∧
      ∀ token, server.Carries publicKey now request token →
        (server.Vouched request sent token ↔ server.Unpadded request token) := by
  obtain ⟨token, carries, shows_⟩ := shows_of_forwarded forwarded guarded
  refine ⟨⟨token, carries⟩, fun other also => ?_⟩
  obtain rfl := carries.unique also
  exact shows_.vouched_iff

end Server

/-- A token that expires in a minute, with this role. -/
def claimingToken (role : String) : Token where
  alg := "RS256"
  claims name := match name with
    | "sub" => some (.str "7d444840-9dc0-11d1-b245-5ffdce74fad2")
    | "role" => some (.str role)
    | "iss" => some (.str "sentinel-auth-service")
    | "aud" => some (.arr [.str "sentinel-api"])
    | "exp" => some (.num 60)
    | _ => none

/-- A format that agrees with `fmt` on integers of six digits. -/
def plainFloats : FloatFormat where
  print value := if value.den = 1 then toString value.num else toString value.num ++ "e+00"
  integer count _ := by simp

def claimingServer (role : String) : Server Unit where
  environment _ := ""
  jwt := .checking (fun text => if text = "e30.e30.c2ln" then some (claimingToken role) else none)
    fun alg _ text => alg = "RS256" ∧ text = "e30.e30.c2ln"
  floatFormat := plainFloats
  realIP := chiRealIP

/-- The bearer of the token scores a request and claims to be somebody else. -/
def impostorRequest : Request where
  path := "/api/v1/risk/score"
  header := Header.set (Header.set (fun _ => []) "Authorization" "Bearer e30.e30.c2ln")
    "X-User-ID" "root"

/-- Where the request is sent on to, and the role that arrives there. -/
def roleArriving (role : String) : Except HTTPError (Upstream × List String) :=
  ((claimingServer role).serve (fun _ => some true) (some ()) 0 somePeer impostorRequest).map
    fun result => (result.1, result.2.header.values "X-User-Role")

/-- The request is served as the role that arrives says. -/
theorem serve_of_roleArriving {role : String} {upstream : Upstream} {values : List String}
    (arriving : roleArriving role = .ok (upstream, values)) :
    ∃ sent, (claimingServer role).serve (fun _ => some true) (some ()) 0 somePeer impostorRequest =
      .ok (upstream, sent) ∧ sent.header.values "X-User-Role" = values := by
  unfold roleArriving at arriving
  cases forwarded : (claimingServer role).serve (fun _ => some true) (some ()) 0 somePeer
      impostorRequest with
  | error problem => simp [forwarded, Except.map] at arriving
  | ok result =>
      simp only [forwarded, Except.map, Except.ok.injEq, Prod.mk.injEq] at arriving
      obtain ⟨rfl, rfl⟩ := arriving
      exact ⟨result.2, rfl, rfl⟩

/-- For an administrator's token the two are one. -/
theorem vouched_iff_ofAdmin : ∃ sent,
    (∃ token, (claimingServer "admin").Carries (some ()) 0 impostorRequest token) ∧
      ∀ token, (claimingServer "admin").Carries (some ()) 0 impostorRequest token →
        ((claimingServer "admin").Vouched impostorRequest sent token ↔
          (claimingServer "admin").Unpadded impostorRequest token) := by
  have arriving : roleArriving "admin" = .ok (.risk, ["admin"]) := by decide +kernel
  obtain ⟨sent, forwarded, _⟩ := serve_of_roleArriving arriving
  exact ⟨sent, (claimingServer "admin").vouched_iff_unpadded (fun _ => some true) (some ()) 0
    somePeer impostorRequest sent .risk forwarded (by decide)⟩

/-- A verified role that is not `admin` but for a blank administers. -/
theorem padded_role_administers :
    ¬ ∀ (server : Server Unit) (allow : String → Option Bool) (publicKey : Option Unit) (now : ℚ)
        (peer : Peer) (request sent : Request) (upstream : Upstream),
      server.serve allow publicKey now peer request = .ok (upstream, sent) → upstream ≠ .auth →
        ∃ token, server.Carries publicKey now request token ∧ server.Vouched request sent token := by
  intro always
  have arriving : roleArriving "admin " = .ok (.risk, ["admin"]) := by decide +kernel
  obtain ⟨sent, forwarded, values⟩ := serve_of_roleArriving arriving
  obtain ⟨token, ⟨text, _, verified⟩, vouched⟩ := always _ _ _ _ _ _ _ _ forwarded (by decide)
  have decoded : token = claimingToken "admin " := by
    have decodes := verified.decodes
    simp only [claimingServer, Jwt.checking] at decodes
    exact (Option.ite_none_right_eq_some.mp decodes).2 |> Option.some.inj |>.symm
  have answer : Risk.requireAdmin "" (caller sent) = .ok "admin" := by
    simp [Risk.requireAdmin, caller, values]
  rcases vouched.administers "" "admin" answer with role | service
  · rw [decoded] at role
    exact absurd role (by decide)
  · exact service.1 rfl

end Sentinel.Gateway
