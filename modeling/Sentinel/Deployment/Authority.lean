import Sentinel.Auth.Provenance
import Sentinel.Deployment.KeyRotation
import Sentinel.Gateway.Routes

/-!
# Who acts as administrator

Two gates ask for the role `admin`: `require_admin` of the risk engine, on the headers
that the gateway has set, and `RequireRole` of the auth service, on the claims that
`RequireAuth` has read. Behind both stands the signature of the auth service.
-/

namespace Sentinel.Deployment

open Sentinel.Wire Sentinel.Semantics Sentinel.Gateway Sentinel.Auth

variable {PrivateKey PublicKey : Type}

/-! ## The routes of the auth service that need a token -/

/-- `ParseWithClaims` into `CustomClaims`: it accepts what `Parse` accepts if the claims fit,
as they do when they were signed from that struct. -/
structure ClaimsParser (signing : Signing PrivateKey PublicKey) where
  parseWithClaims : PublicKey → ParserOptions → ℚ → String → Option CustomClaims
  parses : ∀ key options now text claims, parseWithClaims key options now text = some claims →
    ∃ token, signing.parse key options now text = some token
  reads : ∀ key options now private_ claims keyID token,
    signing.parse key options now (signing.sign private_ claims keyID) = some token →
      parseWithClaims key options now (signing.sign private_ claims keyID) = some claims

/-- `strings.Split` at a space. -/
def splitSpace (text : String) : List String := (text.toList.splitOn ' ').map String.ofList

section

variable {signing : Signing PrivateKey PublicKey} (parser : ClaimsParser signing)

def validateAccessToken (tokens : JWTTokenService) (publicKey : PublicKey) (now : ℚ)
    (tokenString : String) : Option CustomClaims :=
  parser.parseWithClaims publicKey ⟨["RS256"], tokens.issuer, tokens.audience, true⟩ now tokenString

def requireAuth (tokens : JWTTokenService) (publicKey : PublicKey) (now : ℚ) (request : Request) :
    Except HTTPError CustomClaims :=
  let authHeader := request.header.get "Authorization"
  if authHeader = "" then .error ⟨401, "missing authorization header"⟩
  else match splitSpace authHeader with
    | ["Bearer", tokenString] =>
        match validateAccessToken parser tokens publicKey now tokenString with
        | none => .error ⟨401, "invalid or expired token"⟩
        | some claims => .ok claims
    | _ => .error ⟨401, "invalid authorization header format"⟩

def requireRole (allowedRoles : List String) (claims : CustomClaims) : Except HTTPError Unit :=
  if claims.role ∈ allowedRoles then .ok () else .error ⟨403, "forbidden"⟩

/-- `GET /api/v1/auth/admin-stats` -/
def adminStats (tokens : JWTTokenService) (publicKey : PublicKey) (now : ℚ) (request : Request) :
    Except HTTPError String :=
  match requireAuth parser tokens publicKey now request with
  | .error problem => .error problem
  | .ok claims => (requireRole ["admin"] claims).map fun _ => "super secret admin stats"

end

/-! ## Signatures -/

/-- The text that a gate takes for the request's token. -/
def Bears (request : Request) (text : String) : Prop :=
  fields (authorization request) = ["Bearer", text] ∨
    splitSpace (request.header.get "Authorization") = ["Bearer", text]

/-- The auth service signs with the key, and a request bears no other text that verifies
under it. -/
structure Signs (signing : Signing PrivateKey PublicKey) (key : PrivateKey)
    (tokens : JWTTokenService) (grants : List Grant) (request : Request) : Prop where
  sign : tokens.sign = signing.sign key
  unforged : ∀ text, Bears request text → signing.signed "RS256" (signing.publicKey key) text →
    ∃ grant ∈ grants, text = tokens.sign (grant.claims tokens) tokens.keyID

/-- The gateway with the JWT library of the auth service. -/
def gateway (signing : Signing PrivateKey PublicKey) (environment : String → String)
    (floatFormat : FloatFormat) (realIP : RealIP) : Server PublicKey :=
  ⟨environment, signing.toJwt, floatFormat, realIP⟩

variable {signing : Signing PrivateKey PublicKey} {key : PrivateKey} {tokens : JWTTokenService}
  {grants : List Grant} {request : Request}

/-- What verifies under the service's key is a token that it has signed. -/
theorem Signs.granted (signs : Signs signing key tokens grants request) {now : ℚ} {text : String}
    {token : Gateway.Token} (bears : Bears request text) (decodes : signing.decode text = some token)
    (signed : signing.signed "RS256" (signing.publicKey key) text)
    (expires : ∃ instant, token.expiresAt = some instant ∧ now < instant) :
    ∃ grant ∈ grants, text = signing.sign key (grant.claims tokens) tokens.keyID ∧
      token = claimsToken (grant.claims tokens) ∧ now < (grant.claims tokens).expiresAt := by
  obtain ⟨grant, member, same⟩ := signs.unforged text bears signed
  rw [signs.sign] at same
  rw [same, signing.decode_sign] at decodes
  obtain rfl := Option.some.inj decodes
  obtain ⟨instant, found, early⟩ := expires
  cases found
  exact ⟨grant, member, same, rfl, early⟩

/-- The administrators' role is the only one with that name. -/
theorem role_of_text {role : Role} (text : role.text = "admin") : role = .admin := by
  cases role with
  | admin => rfl
  | user => exact absurd text (by decide)
  | service => exact absurd text (by decide)

/-- No role is written with blanks around it. -/
theorem trimString_role (role : Role) : trimString role.text = role.text := by
  cases role <;> decide

/-- A request bears a signed token that has not expired. -/
def BearsGrant (tokens : JWTTokenService) (now : ℚ) (request : Request) (grant : Grant) : Prop :=
  now < (grant.claims tokens).expiresAt ∧
    Bears request (tokens.sign (grant.claims tokens) tokens.keyID)

/-- The headers of a forwarded request show the claims of a signed token. -/
theorem Signs.forwarded (signs : Signs signing key tokens grants request)
    {environment : String → String} {floatFormat : FloatFormat} {realIP : RealIP}
    {allow : String → Option Bool} {publicKey : Option PublicKey} {now : ℚ} {peer : Peer}
    {sent : Request} {upstream : Upstream}
    (fetched : ∀ held, publicKey = some held → held = signing.publicKey key)
    (forwarded : (gateway signing environment floatFormat realIP).serve allow publicKey now peer
      request = .ok (upstream, sent))
    (guarded : upstream ≠ .auth) :
    ∃ grant ∈ grants, BearsGrant tokens now request grant ∧
      (gateway signing environment floatFormat realIP).Shows request sent
        (claimsToken (grant.claims tokens)) := by
  obtain ⟨token, ⟨text, carried, verified⟩, shown⟩ := Server.shows_of_forwarded forwarded guarded
  obtain ⟨held, current, signed⟩ := verified.signed
  rw [fetched held current] at signed
  obtain ⟨grant, member, rfl, rfl, early⟩ := signs.granted (.inl carried) verified.decodes signed
    verified.expires
  rw [← signs.sign] at carried
  exact ⟨grant, member, ⟨early, .inl carried⟩, shown⟩

/-- The user id that the risk engine is shown is the token's. -/
theorem subject_of_shows {server : Server PublicKey} {sent : Request} {grant : Grant}
    (shown : server.Shows request sent (claimsToken (grant.claims tokens))) :
    ∀ value ∈ sent.header.values "X-User-ID", value = (grant.claims tokens).subject := by
  intro value listed
  rw [shown.claims "X-User-ID" _ (.head _)] at listed
  split at listed
  · cases listed
  · obtain ⟨claim, found, rfl⟩ := List.mem_map.mp listed
    have claimed := Option.mem_toList.mp found
    simp only [claimsToken, omitEmpty] at claimed
    split at claimed
    · cases claimed
    · simp only [Option.map_some, Option.some.injEq, Server.sprint, sprintValue_str] at claimed
      rw [← claimed]
      exact trimString_uuid grant.user.id

/-- And so is the role. -/
theorem role_of_shows {server : Server PublicKey} {sent : Request} {grant : Grant}
    (shown : server.Shows request sent (claimsToken (grant.claims tokens))) :
    ∀ value ∈ sent.header.values "X-User-Role", value = grant.user.role.text := by
  intro value listed
  rw [shown.claims "X-User-Role" (some grant.user.role.text) (.tail _ (.head _))] at listed
  split at listed
  · cases listed
  · rw [Option.toList_some, List.map_singleton, trimString_role] at listed
    exact List.mem_singleton.mp listed

/-- The claims that `RequireAuth` reads are those of a signed token. -/
theorem Signs.authenticated (signs : Signs signing key tokens grants request)
    {parser : ClaimsParser signing} {now : ℚ} {claims : CustomClaims}
    (accepted : requireAuth parser tokens (signing.publicKey key) now request = .ok claims) :
    ∃ grant ∈ grants, BearsGrant tokens now request grant ∧ claims = grant.claims tokens := by
  unfold requireAuth at accepted
  dsimp only at accepted
  split at accepted
  · cases accepted
  · split at accepted
    · rename_i text bears
      split at accepted
      · cases accepted
      · rename_i read
        cases accepted
        obtain ⟨token, parsed⟩ := parser.parses _ _ _ _ _ read
        obtain ⟨method, signed⟩ := signing.verifies _ _ _ _ _ parsed
        rw [List.mem_singleton.mp method] at signed
        obtain ⟨grant, member, rfl, _, early⟩ := signs.granted (.inr bears)
          (signing.decodes _ _ _ _ _ parsed) signed (signing.expires _ _ _ _ _ parsed rfl)
        have same := parser.reads _ _ _ _ _ _ _ parsed
        rw [← signs.sign] at bears
        exact ⟨grant, member, ⟨early, .inr bears⟩, Option.some.inj (read.symm.trans same)⟩
    · cases accepted

/-- Who sees the statistics has a token that says it is an administrator's. -/
theorem adminStats_ok {parser : ClaimsParser signing} {publicKey : PublicKey} {now : ℚ}
    {body : String} (answered : adminStats parser tokens publicKey now request = .ok body) :
    ∃ claims, requireAuth parser tokens publicKey now request = .ok claims ∧
      claims.role = "admin" := by
  unfold adminStats at answered
  split at answered
  · cases answered
  · rename_i claims authenticated
    refine ⟨claims, authenticated, ?_⟩
    unfold requireRole at answered
    split at answered
    · rename_i allowed
      exact List.mem_singleton.mp allowed
    · cases answered

theorem adminStats_admin {parser : ClaimsParser signing} {publicKey : PublicKey} {now : ℚ}
    {claims : CustomClaims}
    (authenticated : requireAuth parser tokens publicKey now request = .ok claims)
    (role : claims.role = "admin") :
    adminStats parser tokens publicKey now request = .ok "super secret admin stats" := by
  simp only [adminStats, authenticated, requireRole, role, List.mem_singleton, if_true, Except.map]

section Gates

/-- A request that one of the gates lets through, with the users that the service behind it is
told of: the risk engine by the headers that it receives, the auth service by the claims. -/
inductive Admitted {signing : Signing PrivateKey PublicKey} (parser : ClaimsParser signing)
    (key : PrivateKey) (tokens : JWTTokenService) (environment : String → String)
    (floatFormat : FloatFormat) (realIP : RealIP) (adminServiceToken : String) (now : ℚ)
    (request : Request) : List String → Prop where
  | riskEngine {allow publicKey peer sent upstream answer}
      (fetched : ∀ held, publicKey = some held → held = signing.publicKey key)
      (forwarded : (gateway signing environment floatFormat realIP).serve allow publicKey now peer
        request = .ok (upstream, sent))
      (guarded : upstream ≠ .auth)
      (allowed : Risk.requireAdmin adminServiceToken (caller sent) = .ok answer) :
      Admitted parser key tokens environment floatFormat realIP adminServiceToken now request
        (sent.header.values "X-User-ID")
  | authService {claims body}
      (authenticated : requireAuth parser tokens (signing.publicKey key) now request = .ok claims)
      (answered : adminStats parser tokens (signing.publicKey key) now request = .ok body) :
      Admitted parser key tokens environment floatFormat realIP adminServiceToken now request
        [claims.subject]

variable {parser : ClaimsParser signing} {environment : String → String} {floatFormat : FloatFormat}
  {realIP : RealIP} {adminServiceToken : String} {now : ℚ} {shown : List String}

/-- Whoever is admitted bears an unexpired token, and it has the role unless the request
presents the service token. -/
theorem Signs.admitted (signs : Signs signing key tokens grants request)
    (admitted : Admitted parser key tokens environment floatFormat realIP adminServiceToken now
      request shown) :
    ∃ grant ∈ grants, BearsGrant tokens now request grant ∧
      (grant.user.role = .admin ∨ Server.Presents adminServiceToken request) ∧
      ∀ value ∈ shown, value = grant.user.id.string := by
  cases admitted with
  | riskEngine fetched forwarded guarded allowed =>
      obtain ⟨grant, member, bears, shows_⟩ := signs.forwarded fetched forwarded guarded
      refine ⟨grant, member, bears, ?_, subject_of_shows shows_⟩
      rcases shows_.requireAdmin_ok allowed with service | ⟨rest, values⟩
      · exact .inr service
      · exact .inl (role_of_text (role_of_shows shows_ "admin" (by simp [values])).symm)
  | authService authenticated answered =>
      obtain ⟨claims, again, role⟩ := adminStats_ok answered
      obtain rfl := Except.ok.inj (authenticated.symm.trans again)
      obtain ⟨grant, member, bears, rfl⟩ := signs.authenticated authenticated
      exact ⟨grant, member, bears, .inl (role_of_text role),
        fun value listed => List.mem_singleton.mp listed⟩

end Gates

/-! ## Administrators over whole runs -/

section Runs

variable {Store : Type}

/-- The request bears an unexpired token of this row's user, whose password was given for the
session. -/
def StandsBehind (service : AuthService) (state : Provenance Store) (now : ℚ) (request : Request)
    (row : User) : Prop :=
  ∃ grant ∈ state.grants, BearsGrant service.tokens now request grant ∧
    state.Traced service (grant.claims service.tokens) row

/-- Whoever is admitted in a state of a run, one row of the table stands behind the request. -/
theorem stands_of_admitted (service : AuthService) (registrar : Registrar)
    (repository : OwnedRepository Store) {labels : List ProvenanceLabel} {final : Provenance Store}
    (run : (provenanceMachine service registrar repository.toSessionRepository).exec
      (.start repository.empty) labels = some final)
    {request : Request} (signs : Signs signing key service.tokens final.grants request)
    {parser : ClaimsParser signing} {environment : String → String} {floatFormat : FloatFormat}
    {realIP : RealIP} {adminServiceToken : String} {now : ℚ} {shown : List String}
    (admitted : Admitted parser key service.tokens environment floatFormat realIP
      adminServiceToken now request shown) :
    ∃ row ∈ final.world.users, StandsBehind service final now request row ∧
      (row.role = .admin ∨ Server.Presents adminServiceToken request) ∧
      ∀ value ∈ shown, value = row.id.string := by
  obtain ⟨grant, member, bears, role, subject⟩ := signs.admitted admitted
  obtain ⟨row, traced⟩ := (Provenance.inv_run run).traced member
  refine ⟨row, traced.listed, ⟨grant, member, bears, traced⟩, ?_, fun value listed => ?_⟩
  · refine role.imp_left fun admin => role_of_text ?_
    rw [← traced.role]
    exact congrArg Role.text admin
  · rw [subject value listed]
    exact traced.subject

/-- Whatever is registered, logged in and refreshed in between: a request that one of the
gates lets through bears an unexpired token of a user whose password was given, who has the
role in the table unless the request presents the service token. -/
theorem administers_of_run (service : AuthService) (registrar : Registrar)
    (repository : OwnedRepository Store) (labels : List ProvenanceLabel) (final : Provenance Store)
    (run : (provenanceMachine service registrar repository.toSessionRepository).exec
      (.start repository.empty) labels = some final)
    (request : Request) (signs : Signs signing key service.tokens final.grants request)
    (parser : ClaimsParser signing) (environment : String → String) (floatFormat : FloatFormat)
    (realIP : RealIP) (adminServiceToken : String) (now : ℚ) (shown : List String)
    (admitted : Admitted parser key service.tokens environment floatFormat realIP
      adminServiceToken now request shown) :
    ∃ row ∈ final.world.users, StandsBehind service final now request row ∧
      (row.role = .admin ∨ Server.Presents adminServiceToken request) ∧
      ∀ value ∈ shown, value = row.id.string :=
  stands_of_admitted service registrar repository run signs admitted

/-- When no administrator is inserted into a table that has rows, one user stands behind every
request that a gate lets through without the service token. -/
theorem sole_administrator (service : AuthService) (registrar : Registrar)
    (repository : OwnedRepository Store) (labels : List ProvenanceLabel) (final : Provenance Store)
    (guarded : (provenanceMachine service registrar repository.toSessionRepository).Guarded
      Provenance.AdminFirst (.start repository.empty) labels)
    (run : (provenanceMachine service registrar repository.toSessionRepository).exec
      (.start repository.empty) labels = some final)
    (parser : ClaimsParser signing) (environment : String → String) (floatFormat : FloatFormat)
    (realIP : RealIP) (adminServiceToken : String) :
    ∃ user : Uuid, ∀ request, Signs signing key service.tokens final.grants request →
      ∀ now shown, Admitted parser key service.tokens environment floatFormat realIP
          adminServiceToken now request shown →
        Server.Presents adminServiceToken request ∨
          (∃ row ∈ final.world.users, row.id = user ∧ row.role = .admin ∧
            StandsBehind service final now request row) ∧
          ∀ value ∈ shown, value = user.string := by
  have few := Provenance.admins_of_guarded guarded run
  by_cases somebody : ∃ row ∈ final.world.users, row.role = .admin
  · obtain ⟨row, listed, admin⟩ := somebody
    refine ⟨row.id, fun request signs now shown admitted => ?_⟩
    obtain ⟨other, also, stands, role, subject⟩ :=
      stands_of_admitted service registrar repository run signs admitted
    refine role.symm.imp_right fun otherAdmin => ?_
    obtain rfl := Provenance.admin_unique few listed also admin otherAdmin
    exact ⟨⟨_, listed, rfl, admin, stands⟩, subject⟩
  · refine ⟨Installed.uuid 0, fun request signs now shown admitted => ?_⟩
    obtain ⟨other, also, _, role, _⟩ :=
      stands_of_admitted service registrar repository run signs admitted
    exact role.symm.imp_right fun otherAdmin => absurd ⟨other, also, otherAdmin⟩ somebody

end Runs

/-! ## An administrator with a signed token -/

def byteParser : ClaimsParser byteSigning where
  parseWithClaims key options now text :=
    if (byteSigning.parse key options now text).isSome then (readToken text).map Prod.snd else none
  parses key options now text claims parsed := by
    split at parsed
    · rename_i accepted
      exact Option.isSome_iff_exists.mp accepted
    · cases parsed
  reads key options now private_ claims keyID token parsed := by
    have read := readToken_signBytes private_ claims keyID
    rw [parsed]
    simp [byteSigning, read]

/-- The service that signs with the first key. -/
def byteService : AuthService :=
  { Installed.service with
    tokens := ⟨signBytes 1, 900 * second, 604800 * second, "sentinel-auth-service", "sentinel-api",
      "sentinel-2026-01"⟩ }

def afterFirst : Provenance RedisStore :=
  ((provenanceMachine byteService plainRegistrar sessionRedis).exec (.start .empty)
    Provenance.firstLogin).getD (.start .empty)

/-- The run up to the first login. -/
theorem firstLogin_run : (provenanceMachine byteService plainRegistrar sessionRedis).exec
    (.start .empty) Provenance.firstLogin = some afterFirst := by rfl

def firstGrant : Grant := afterFirst.grants.headD ⟨Installed.user, Installed.uuid 0, 0⟩

def firstText : String :=
  signBytes 1 (firstGrant.claims byteService.tokens) byteService.tokens.keyID

/-- A bearer header is split in two. -/
theorem splitSpace_plain {text header : String} (word : IsWord text)
    (plain : header = "Bearer " ++ text) : splitSpace header = ["Bearer", text] := by
  have noSpace : ' ' ∉ text.toList := by
    intro member
    exact absurd (word.2 ' ' member) (by decide)
  have characters : ("Bearer " ++ text).toList = "Bearer".toList ++ ' ' :: text.toList := by simp
  rw [plain, splitSpace, characters, List.splitOn_append_cons_self,
    List.splitOn_eq_singleton (by decide), List.splitOn_eq_singleton noSpace]
  simp

theorem signs_first : Signs byteSigning 1 byteService.tokens afterFirst.grants
    (bearerRequest firstText) where
  sign := rfl
  unforged text bears _ := by
    have word : IsWord firstText := isWord_signBytes ..
    have same : text = firstText := by
      rcases bears with carried | split
      · rw [fields_bearer word (header_bearerRequest _)] at carried
        simpa using carried.symm
      · rw [splitSpace_plain word (header_bearerRequest _)] at split
        simpa using split.symm
    have only : afterFirst.grants = [firstGrant] := by rfl
    exact ⟨firstGrant, by rw [only]; exact List.mem_cons_self, same⟩

/-- A request gets through to the claims of the token that it bears. -/
theorem requireAuth_plain {parser : ClaimsParser signing} {publicKey : PublicKey} {now : ℚ}
    {claims : CustomClaims} {text : String} (word : IsWord text)
    (header : request.header.get "Authorization" = "Bearer " ++ text)
    (valid : validateAccessToken parser tokens publicKey now text = some claims) :
    requireAuth parser tokens publicKey now request = .ok claims := by
  have present : request.header.get "Authorization" ≠ "" := by simp [header]
  simp only [requireAuth, if_neg present, splitSpace_plain word header, valid]

/-- What the service signs is read back until it expires. -/
theorem byteParser_valid {key : UInt8} {claims : CustomClaims} {keyID : String} {now : ℚ}
    (issuer : claims.issuer = tokens.issuer) (audience : claims.audience = [tokens.audience])
    (begun : claims.notBefore ≤ now) (early : now < claims.expiresAt) :
    validateAccessToken byteParser tokens key now (byteSigning.sign key claims keyID) =
      some claims := by
  refine byteParser.reads _ _ _ _ _ _ (claimsToken claims) ?_
  refine byteSigning.accepts _ _ _ _ _ (byteSigning.decode_sign _ _ _) List.mem_cons_self
    ((byteSigning.signed_sign _ _ _ _).mpr rfl) (fun nonempty => ?_) (fun _ => ?_)
    ⟨_, rfl, early⟩ (fun instant found => ?_)
  · simp only [ne_eq] at nonempty
    simp [Gateway.Token.text, claimsToken, omitEmpty, issuer, nonempty]
  · simp [Gateway.Token.audience, claimsToken, audience]
  · cases found
    exact begun

/-- The auth service verifies it. -/
theorem authenticated_first : requireAuth byteParser byteService.tokens (byteSigning.publicKey 1) 60
    (bearerRequest firstText) = .ok (firstGrant.claims byteService.tokens) := by
  have instant : firstGrant.instant = 0 := by rfl
  have unexpired : (firstGrant.claims byteService.tokens).expiresAt = 900 := by
    rw [Grant.claims, JWTTokenService.claims, instant]
    rfl
  have begun : (firstGrant.claims byteService.tokens).notBefore = 0 := by
    rw [Grant.claims, JWTTokenService.claims, instant]
    rfl
  refine requireAuth_plain (isWord_signBytes ..) (header_bearerRequest _)
    (byteParser_valid rfl rfl ?_ ?_)
  · rw [begun]
    norm_num
  · rw [unexpired]
    norm_num

/-- It shows the statistics. -/
theorem answered_first : adminStats byteParser byteService.tokens (byteSigning.publicKey 1) 60
    (bearerRequest firstText) = .ok "super secret admin stats" := by
  have admin : firstGrant.user.role = .admin := by rfl
  exact adminStats_admin authenticated_first (congrArg Role.text admin)

/-- The one who sees them is the administrator of the table. -/
theorem administers_first : ∃ row ∈ afterFirst.world.users,
    StandsBehind byteService afterFirst 60 (bearerRequest firstText) row ∧
      (row.role = .admin ∨ Server.Presents "" (bearerRequest firstText)) ∧
      ∀ value ∈ [(firstGrant.claims byteService.tokens).subject], value = row.id.string :=
  administers_of_run byteService plainRegistrar ownedRedis Provenance.firstLogin afterFirst
    firstLogin_run (bearerRequest firstText) signs_first byteParser (fun _ => "") plainFloats
    chiRealIP "" 60 _ (.authService authenticated_first answered_first)

/-- In this run the administrator was registered first. -/
theorem guarded_first : (provenanceMachine byteService plainRegistrar sessionRedis).Guarded
    Provenance.AdminFirst (.start .empty) Provenance.firstLogin := by
  refine Machine.guarded_cons _ rfl trivial (Machine.guarded_cons _ rfl trivial ?_)
  -- The table is empty when the one administrator is inserted.
  refine Machine.guarded_cons _ rfl (fun _ _ _ _ _ => rfl) ?_
  exact Machine.guarded_of_forall (by simp [Provenance.AdminFirst]) _

theorem sole_first : ∃ user : Uuid, ∀ request,
    Signs byteSigning 1 byteService.tokens afterFirst.grants request → ∀ now shown,
      Admitted byteParser 1 byteService.tokens (fun _ => "") plainFloats chiRealIP "" now request
          shown →
        Server.Presents "" request ∨
          (∃ row ∈ afterFirst.world.users, row.id = user ∧ row.role = .admin ∧
            StandsBehind byteService afterFirst now request row) ∧
          ∀ value ∈ shown, value = user.string :=
  sole_administrator byteService plainRegistrar ownedRedis Provenance.firstLogin afterFirst
    guarded_first firstLogin_run byteParser (fun _ => "") plainFloats chiRealIP ""

end Sentinel.Deployment
