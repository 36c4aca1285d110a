import Sentinel.Deployment.Authority

/-!
# Two verifiers of one token

The gateway's `VerifyJWT` and the auth service's `RequireAuth` read the same header
and call the same library with the same options. What the second accepts the first
forwards under the same identity. The first takes the header's words apart at any
white space, the second at single spaces, and that is all in which they differ
(`verifiers_agree`).
-/

namespace Sentinel.Deployment

open Sentinel.Wire Sentinel.Gateway Sentinel.Auth

variable {PrivateKey PublicKey : Type} {signing : Signing PrivateKey PublicKey}
  {parser : ClaimsParser signing} {key : PrivateKey} {tokens : JWTTokenService}
  {grants : List Grant} {request passed : Request} {floatFormat : FloatFormat}
  {middleware : AuthMiddleware PublicKey} {now : ℚ} {claims : CustomClaims}

/-- The header is the scheme, one space and a word. -/
def PlainBearer (request : Request) : Prop :=
  ∃ text, IsWord text ∧ request.header.get "Authorization" = "Bearer " ++ text

/-- The identity headers are the claims. -/
structure SameIdentity (claims : CustomClaims) (passed : Request) : Prop where
  subject : passed.header.values "X-User-ID" = [claims.subject]
  role : passed.header.values "X-User-Role" = [claims.role]
  email : passed.header.values "X-User-Email" = [claims.email]

/-- The gateway holds the key and the configuration of the auth service. -/
structure Attuned (signing : Signing PrivateKey PublicKey) (key : PrivateKey)
    (tokens : JWTTokenService) (middleware : AuthMiddleware PublicKey) : Prop where
  publicKey : middleware.publicKey = some (signing.publicKey key)
  issuer : middleware.issuer = tokens.issuer
  audience : middleware.audience = tokens.audience

/-- Both verifiers check the same algorithm, issuer and audience. -/
theorem Attuned.options (attuned : Attuned signing key tokens middleware) :
    middleware.options = ⟨["RS256"], tokens.issuer, tokens.audience, true⟩ := by
  rw [AuthMiddleware.options, attuned.issuer, attuned.audience]

/-- What is split in two was joined by a blank. -/
theorem splitSpace_pair {header text : String} (split : splitSpace header = ["Bearer", text]) :
    header = "Bearer " ++ text := by
  have parts : header.toList.splitOn ' ' = ["Bearer".toList, text.toList] := by
    have lists := congrArg (List.map String.toList) split
    rw [splitSpace, List.map_map] at lists
    simpa using lists
  have joined : [' '].intercalate (header.toList.splitOn ' ') = header.toList :=
    List.intercalate_splitOn ' '
  rw [parts] at joined
  apply String.toList_injective
  rw [← joined]
  simp [List.intercalate]

/-- What `RequireAuth` accepts is a signed token after the scheme and one space. -/
theorem requireAuth_ok
    (accepted : requireAuth parser tokens (signing.publicKey key) now request = .ok claims) :
    ∃ text, splitSpace (request.header.get "Authorization") = ["Bearer", text] ∧
      validateAccessToken parser tokens (signing.publicKey key) now text = some claims := by
  unfold requireAuth at accepted
  dsimp only at accepted
  split at accepted
  · cases accepted
  · split at accepted
    · rename_i text bears
      split at accepted
      · cases accepted
      · rename_i read
        cases accepted
        exact ⟨text, bears, read⟩
    · cases accepted

/-- A token that parses and was signed by the service is one that it has granted. -/
theorem Signs.parsed (signs : Signs signing key tokens grants request) {options : ParserOptions}
    (methods : options.validMethods = ["RS256"]) (required : options.expirationRequired = true)
    {text : String} {token : Gateway.Token} (bears : Bears request text)
    (parsed : signing.parse (signing.publicKey key) options now text = some token) :
    ∃ grant ∈ grants, text = signing.sign key (grant.claims tokens) tokens.keyID ∧
      token = claimsToken (grant.claims tokens) := by
  obtain ⟨method, signed⟩ := signing.verifies _ _ _ _ _ parsed
  rw [methods] at method
  rw [List.mem_singleton.mp method] at signed
  obtain ⟨grant, member, same, decoded, _⟩ := signs.granted bears
    (signing.decodes _ _ _ _ _ parsed) signed (signing.expires _ _ _ _ _ parsed required)
  exact ⟨grant, member, same, decoded⟩

/-- A claim that is there is forwarded as it is. -/
theorem sameIdentity (passed : Request) (claims : CustomClaims) (subject : claims.subject ≠ "")
    (forwarded : passed.header =
      forwardClaims (sprintValue floatFormat) (claimsToken claims) request.header) :
    SameIdentity claims passed where
  subject := by
    have shown : passed.header.values "X-User-ID" =
        (((claimsToken claims).claims "sub").map (sprintValue floatFormat)).toList := by
      rw [forwarded]
      exact values_forwardClaims (.head _)
    simpa [claimsToken, omitEmpty, subject] using shown
  role := by
    rw [forwarded]
    exact values_forwardClaims (.tail _ (.head _))
  email := by
    rw [forwarded]
    exact values_forwardClaims (.tail _ (.tail _ (.head _)))

/-- A token that is parsed is forwarded with its claims. -/
theorem verifyJWT_forwards (attuned : Attuned signing key tokens middleware) {text : String}
    {token : Gateway.Token} (bears : fields (authorization request) = ["Bearer", text])
    (parsed : signing.parse (signing.publicKey key)
      ⟨["RS256"], tokens.issuer, tokens.audience, true⟩ now text = some token) :
    verifyJWT signing.toJwt (sprintValue floatFormat) middleware now request =
      .ok { request with header := forwardClaims (sprintValue floatFormat) token request.header } := by
  have authorized : authorization request ≠ "" := by
    intro absent
    rw [absent] at bears
    cases bears
  simp only [verifyJWT, if_neg authorized, bears, attuned.publicKey, attuned.options, parsed]

/-- A request that is forwarded had such a token. -/
theorem verifyJWT_parsed (attuned : Attuned signing key tokens middleware)
    (forwarded : verifyJWT signing.toJwt (sprintValue floatFormat) middleware now request = .ok passed) :
    ∃ text token, fields (authorization request) = ["Bearer", text] ∧
      signing.parse (signing.publicKey key) ⟨["RS256"], tokens.issuer, tokens.audience, true⟩ now
        text = some token := by
  unfold verifyJWT at forwarded
  split at forwarded
  · cases forwarded
  · split at forwarded
    · rename_i text bears
      rw [attuned.publicKey, attuned.options] at forwarded
      dsimp only at forwarded
      split at forwarded
      · cases forwarded
      · rename_i token parsed
        exact ⟨text, token, bears, parsed⟩
    · cases forwarded

/-- A token that `RequireAuth` accepts is forwarded as the same user's, and came plainly. -/
theorem forwarded_of_authenticated (attuned : Attuned signing key tokens middleware)
    (signs : Signs signing key tokens grants request)
    (accepted : requireAuth parser tokens (signing.publicKey key) now request = .ok claims) :
    PlainBearer request ∧
      ∃ passed, verifyJWT signing.toJwt (sprintValue floatFormat) middleware now request = .ok passed ∧
        SameIdentity claims passed := by
  obtain ⟨text, split, valid⟩ := requireAuth_ok accepted
  obtain ⟨token, parsed⟩ := parser.parses _ _ _ _ _ valid
  obtain ⟨grant, _, rfl, rfl⟩ := signs.parsed rfl rfl (.inr split) parsed
  have word := signing.sign_compact key (grant.claims tokens) tokens.keyID
  have header := splitSpace_pair split
  have read := parser.reads _ _ _ _ _ _ _ parsed
  obtain rfl := Option.some.inj (valid.symm.trans read)
  exact ⟨⟨_, word, header⟩, _, verifyJWT_forwards attuned (fields_bearer word header) parsed,
    sameIdentity _ _ (Uuid.string_ne_empty _) rfl⟩

/-- A request that bears nothing signed but tokens of the service: what `RequireAuth` accepts
the gateway forwards as the same user, and what the gateway forwards `RequireAuth` accepts
exactly if one space stands between the scheme and the token and nothing around them. -/
theorem verifiers_agree (attuned : Attuned signing key tokens middleware)
    (signs : Signs signing key tokens grants request) :
    (∀ claims, requireAuth parser tokens (signing.publicKey key) now request = .ok claims →
      ∃ passed, verifyJWT signing.toJwt (sprintValue floatFormat) middleware now request = .ok passed ∧
        SameIdentity claims passed) ∧
    ∀ passed, verifyJWT signing.toJwt (sprintValue floatFormat) middleware now request = .ok passed →
      ((∃ claims, requireAuth parser tokens (signing.publicKey key) now request = .ok claims) ↔
        PlainBearer request) := by
  refine ⟨fun claims accepted => (forwarded_of_authenticated attuned signs accepted).2,
    fun passed forwarded => ⟨?_, ?_⟩⟩
  · rintro ⟨claims, accepted⟩
    have both : PlainBearer request ∧
        ∃ passed, verifyJWT signing.toJwt (sprintValue floatFormat) middleware now request = .ok passed ∧
          SameIdentity claims passed := forwarded_of_authenticated attuned signs accepted
    exact both.1
  · rintro ⟨text, word, header⟩
    obtain ⟨own, token, bears, parsed⟩ := verifyJWT_parsed attuned forwarded
    rw [fields_bearer word header] at bears
    obtain rfl : text = own := by simpa using bears
    obtain ⟨grant, _, rfl, rfl⟩ :=
      signs.parsed rfl rfl (.inr (splitSpace_plain word header)) parsed
    exact ⟨_, requireAuth_plain word header (parser.reads _ _ _ _ _ _ _ parsed)⟩

def byteMiddleware : AuthMiddleware UInt8 :=
  ⟨some (byteSigning.publicKey 1), byteService.tokens.issuer, byteService.tokens.audience⟩

/-- Both accept the token of the first login. -/
theorem verifiers_agree_first :
    (∀ claims, requireAuth byteParser byteService.tokens (byteSigning.publicKey 1) 60
        (bearerRequest firstText) = .ok claims →
      ∃ passed, verifyJWT byteSigning.toJwt (sprintValue plainFloats) byteMiddleware 60
        (bearerRequest firstText) = .ok passed ∧ SameIdentity claims passed) ∧
    ∀ passed, verifyJWT byteSigning.toJwt (sprintValue plainFloats) byteMiddleware 60
        (bearerRequest firstText) = .ok passed →
      ((∃ claims, requireAuth byteParser byteService.tokens (byteSigning.publicKey 1) 60
        (bearerRequest firstText) = .ok claims) ↔ PlainBearer (bearerRequest firstText)) :=
  verifiers_agree ⟨rfl, rfl, rfl⟩ signs_first

end Sentinel.Deployment
