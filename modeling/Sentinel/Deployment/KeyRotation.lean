import Mathlib.Algebra.Order.Field.Basic
import Mathlib.Algebra.Order.Ring.Rat
import Mathlib.Logic.Equiv.List
import Sentinel.Auth.Token
import Sentinel.Gateway.KeyPoller
import Sentinel.Semantics.Machine

/-!
# Rotation of the signing key

The auth service signs with one key, the gateway verifies with the last one it
has fetched, whatever a token's `kid` says. So an unexpired token is refused
from the moment at which the two keys are of different generations: when it is
issued before the gateway's poll, or signed before the rotation that the poll
picks up. Both services read the same clock and the same configuration.
-/

namespace Sentinel.Deployment

open Sentinel.Wire Sentinel.Semantics Sentinel.Gateway Sentinel.Auth

/-- `omitempty` on a text. -/
def omitEmpty (text : String) : Option Json := if text = "" then none else some (.str text)

/-- The token as the gateway reads it, claim by claim in `jwt.MapClaims`. -/
def claimsToken (claims : CustomClaims) : Gateway.Token where
  alg := "RS256"
  claims
    | "email" => some (.str claims.email)
    | "role" => some (.str claims.role)
    | "session_id" => some (.str claims.sessionID)
    | "iss" => omitEmpty claims.issuer
    | "sub" => omitEmpty claims.subject
    | "aud" => if claims.audience = [] then none else some (.arr (claims.audience.map .str))
    | "exp" => some (.num claims.expiresAt)
    | "nbf" => some (.num claims.notBefore)
    | "iat" => some (.num claims.issuedAt)
    | _ => none

/-- The claim `nbf`, in seconds since the Unix epoch. -/
def tokenNotBefore (token : Gateway.Token) : Option ℚ :=
  match token.claims "nbf" with
  | some (.num value) => some value
  | _ => none

/-- The JWT library on both sides: what `SignedString` makes under a private key
verifies under its public key and no other, and `Parse` accepts a token that
passes its checks. -/
structure Signing (PrivateKey PublicKey : Type) extends Jwt PublicKey where
  publicKey : PrivateKey → PublicKey
  /-- RS256 over the claims, with a `kid` in the header. -/
  sign : PrivateKey → CustomClaims → String → String
  decode_sign : ∀ key claims keyID, decode (sign key claims keyID) = some (claimsToken claims)
  signed_sign : ∀ key other claims keyID,
    signed "RS256" other (sign key claims keyID) ↔ other = publicKey key
  sign_compact : ∀ key claims keyID, IsWord (sign key claims keyID)
  accepts : ∀ key (options : ParserOptions) (now : ℚ) text token, decode text = some token →
    token.alg ∈ options.validMethods → signed token.alg key text →
    (options.issuer ≠ "" → token.text "iss" = some options.issuer) →
    (options.audience ≠ "" → options.audience ∈ token.audience) →
    (∃ instant, token.expiresAt = some instant ∧ now < instant) →
    (∀ instant, tokenNotBefore token = some instant → instant ≤ now) →
    parse key options now text = some token

/-- What both services are configured with. -/
structure JwtConfig where
  accessTTL : Time
  refreshTTL : Time
  issuer : String
  audience : String

/-- A token that the auth service has issued. -/
structure IssuedToken (PrivateKey : Type) where
  key : PrivateKey
  keyID : String
  claims : CustomClaims

variable {PrivateKey PublicKey : Type}

structure KeyWorld (PrivateKey PublicKey : Type) where
  clock : Time
  signingKey : PrivateKey
  keyID : String
  middleware : AuthMiddleware PublicKey
  poller : KeyPoller PublicKey
  /-- The outcome of the poller's `client.Get`, once it has one. -/
  outcome : Option (Except String HTTPResponse)
  issued : List (IssuedToken PrivateKey)

inductive KeyLabel (PrivateKey : Type) where
  | wait (duration : Nat)
  /-- `GenerateTokenPair` -/
  | issue (user : User) (sessionID : Uuid)
  /-- The auth service restarts with a key and its `JWT_KEY_ID`. -/
  | rotate (key : PrivateKey) (keyID : String)
  /-- The auth service serves its public key to the poller. -/
  | serve
  /-- The poll fails or returns an unparsable body. -/
  | fault (outcome : Except String HTTPResponse)
  /-- The poller handles the outcome of its poll. -/
  | handle
  /-- `VerifyJWT`, which leaves both services as they are. -/
  | verify (request : Request)

section Steps

variable (signing : Signing PrivateKey PublicKey) (format : KeyFormat PublicKey)
  (config : JwtConfig) [DecidableEq PublicKey]

namespace KeyWorld

/-- The auth service's `JWTTokenService`. -/
def tokens (world : KeyWorld PrivateKey PublicKey) : JWTTokenService where
  sign := signing.sign world.signingKey
  accessTTL := config.accessTTL
  refreshTTL := config.refreshTTL
  issuer := config.issuer
  audience := config.audience
  keyID := world.keyID

/-- The access token that `GenerateTokenPair` makes for the user now. -/
def nextToken (world : KeyWorld PrivateKey PublicKey) (user : User) (sessionID : Uuid) :
    IssuedToken PrivateKey where
  key := world.signingKey
  keyID := world.keyID
  claims := (world.tokens signing config).claims user sessionID world.clock

def step (world : KeyWorld PrivateKey PublicKey) :
    KeyLabel PrivateKey → Option (KeyWorld PrivateKey PublicKey)
  | .wait duration => some { world with clock := world.clock + duration }
  | .issue user sessionID =>
      some { world with issued := world.nextToken signing config user sessionID :: world.issued }
  | .rotate key keyID => some { world with signingKey := key, keyID }
  | .serve =>
      if world.outcome.isNone then
        let pemBytes := getPublicKeyPEM format (signing.publicKey world.signingKey)
        some { world with outcome := some (.ok ⟨200, .ok pemBytes⟩) }
      else none
  | .fault outcome =>
      if world.outcome.isNone ∧ fetchedKey format outcome = none then
        some { world with outcome := some outcome }
      else none
  | .handle => world.outcome.map fun outcome =>
      let (poller, middleware) := world.poller.handle format world.middleware outcome
      { world with poller, middleware, outcome := none }
  | .verify _ => some world

end KeyWorld

/-- The auth service and the gateway with its poller. -/
def keyRotation : Machine (KeyWorld PrivateKey PublicKey) (KeyLabel PrivateKey) :=
  ⟨KeyWorld.step signing format config⟩

end Steps

namespace IssuedToken

def text (signing : Signing PrivateKey PublicKey) (token : IssuedToken PrivateKey) : String :=
  signing.sign token.key token.claims token.keyID

end IssuedToken

namespace KeyWorld

/-- The clock in seconds since the Unix epoch. -/
def now (world : KeyWorld PrivateKey PublicKey) : ℚ := world.clock / (second : ℤ)

def Unexpired (world : KeyWorld PrivateKey PublicKey) (token : IssuedToken PrivateKey) : Prop :=
  world.now < token.claims.expiresAt

instance (world : KeyWorld PrivateKey PublicKey) (token : IssuedToken PrivateKey) :
    Decidable (world.Unexpired token) :=
  inferInstanceAs (Decidable (_ < _))

variable (signing : Signing PrivateKey PublicKey) (sprint : Json → String)

/-- `VerifyJWT` passes every request that bears the token. -/
def Accepts (world : KeyWorld PrivateKey PublicKey) (token : IssuedToken PrivateKey) : Prop :=
  ∀ request, fields (authorization request) = ["Bearer", token.text signing] →
    ∃ passed, verifyJWT signing.toJwt sprint world.middleware world.now request = .ok passed

/-- Every unexpired token that was issued is accepted. -/
def NoOutage (world : KeyWorld PrivateKey PublicKey) : Prop :=
  ∀ token ∈ world.issued, world.Unexpired token → world.Accepts signing sprint token

end KeyWorld

section Guard

variable (signing : Signing PrivateKey PublicKey) (format : KeyFormat PublicKey)
  (config : JwtConfig)

/-- The gateway's key is the auth service's when a token is issued, and the
poller puts in its place only a key that has signed every unexpired token. -/
def KeyLabel.InTime (world : KeyWorld PrivateKey PublicKey) : KeyLabel PrivateKey → Prop
  | .issue user sessionID =>
      world.Unexpired (world.nextToken signing config user sessionID) →
        world.middleware.publicKey = some (signing.publicKey world.signingKey)
  | .handle => ∀ key, world.outcome.bind (fetchedKey format) = some key →
      ∀ token ∈ world.issued, world.Unexpired token → signing.publicKey token.key = key
  | _ => True

/-- The gateway has started with the auth service's key, under which every token
was issued so far. -/
structure KeyWorld.Started (world : KeyWorld PrivateKey PublicKey) : Prop where
  fetched : world.middleware.publicKey = some (signing.publicKey world.signingKey)
  unpolled : world.poller = .new
  issuer : world.middleware.issuer = config.issuer
  audience : world.middleware.audience = config.audience
  earlier : ∀ token ∈ world.issued, ∃ (maker : KeyWorld PrivateKey PublicKey) (user : User)
    (sessionID : Uuid), maker.clock ≤ world.clock ∧ maker.signingKey = world.signingKey ∧
      token = maker.nextToken signing config user sessionID

end Guard

section Acceptance

variable {signing : Signing PrivateKey PublicKey} {config : JwtConfig} {sprint : Json → String}
  {world maker : KeyWorld PrivateKey PublicKey} {user : User} {sessionID : Uuid}

/-- The seconds go with the clock. -/
theorem now_mono {earlier later : KeyWorld PrivateKey PublicKey}
    (passed : earlier.clock ≤ later.clock) : earlier.now ≤ later.now := by
  have positive : (0 : ℚ) < (second : ℤ) := Int.cast_pos.mpr (by decide)
  exact (div_le_div_iff_of_pos_right positive).mpr (by exact_mod_cast passed)

/-- A token may be used from the moment at which it is made. -/
theorem notBefore_le_now (maker : KeyWorld PrivateKey PublicKey) :
    ((maker.nextToken signing config user sessionID).claims.notBefore : ℚ) ≤ maker.now := by
  have positive : (0 : ℚ) < (second : ℤ) := Int.cast_pos.mpr (by decide)
  rw [KeyWorld.now, le_div_iff₀ positive]
  have whole : maker.clock / second * second ≤ maker.clock :=
    Int.ediv_mul_le maker.clock (by decide)
  exact_mod_cast whole

/-- An unexpired token is accepted exactly when the gateway holds the key that
verifies it. -/
theorem accepts_iff (issuer : world.middleware.issuer = config.issuer)
    (audience : world.middleware.audience = config.audience) (past : maker.clock ≤ world.clock)
    (unexpired : world.Unexpired (maker.nextToken signing config user sessionID)) :
    world.Accepts signing sprint (maker.nextToken signing config user sessionID) ↔
      world.middleware.publicKey = some (signing.publicKey maker.signingKey) := by
  constructor
  · intro accepts
    have bears := fields_bearer (signing.sign_compact maker.signingKey
      (maker.nextToken signing config user sessionID).claims maker.keyID) (header_bearerRequest _)
    obtain ⟨key, token, held, parsed⟩ := (verifyJWT_bearing bears).mp (accepts _ bears)
    obtain ⟨method, signed⟩ := signing.verifies _ _ _ _ _ parsed
    rw [List.mem_singleton.mp method] at signed
    rw [held, (signing.signed_sign _ _ _ _).mp signed]
  · intro held request bears
    refine (verifyJWT_bearing bears).mpr
      ⟨_, claimsToken (maker.nextToken signing config user sessionID).claims, held, ?_⟩
    refine signing.accepts _ _ _ _ _ (signing.decode_sign _ _ _) List.mem_cons_self ?_ ?_ ?_ ?_ ?_
    · exact (signing.signed_sign _ _ _ _).mpr rfl
    · intro nonempty
      have same : config.issuer ≠ "" := issuer ▸ nonempty
      change (claimsToken _).text "iss" = some world.middleware.issuer
      rw [issuer]
      simp [Gateway.Token.text, claimsToken, omitEmpty, KeyWorld.nextToken, KeyWorld.tokens,
        JWTTokenService.claims, same]
    · intro nonempty
      change world.middleware.audience ∈ (claimsToken _).audience
      rw [audience]
      simp [Gateway.Token.audience, claimsToken, KeyWorld.nextToken, KeyWorld.tokens,
        JWTTokenService.claims]
    · exact ⟨_, rfl, unexpired⟩
    · intro instant notBefore
      cases notBefore
      exact (notBefore_le_now maker).trans (now_mono past)

end Acceptance

section Runs

variable {signing : Signing PrivateKey PublicKey} {format : KeyFormat PublicKey}
  {config : JwtConfig} {sprint : Json → String} {world next : KeyWorld PrivateKey PublicKey}
  {label : KeyLabel PrivateKey}

variable (signing config) in
/-- What holds while there is no outage: the gateway's key verifies every
unexpired token, and the poller knows no other key. -/
structure KeyWorld.Steady (world : KeyWorld PrivateKey PublicKey) : Prop where
  issuer : world.middleware.issuer = config.issuer
  audience : world.middleware.audience = config.audience
  known : world.poller.current = none ∨ world.poller.current = world.middleware.publicKey
  made : ∀ token ∈ world.issued, ∃ (maker : KeyWorld PrivateKey PublicKey) (user : User)
    (sessionID : Uuid), maker.clock ≤ world.clock ∧
      token = maker.nextToken signing config user sessionID
  verifies : ∀ token ∈ world.issued, world.Unexpired token →
    world.middleware.publicKey = some (signing.publicKey token.key)

/-- What the token of an earlier moment needs in order to be accepted now. -/
theorem KeyWorld.Steady.accepts_iff (steady : world.Steady signing config)
    {token : IssuedToken PrivateKey} (member : token ∈ world.issued)
    (unexpired : world.Unexpired token) :
    world.Accepts signing sprint token ↔
      world.middleware.publicKey = some (signing.publicKey token.key) := by
  obtain ⟨maker, user, sessionID, past, rfl⟩ := steady.made token member
  exact Deployment.accepts_iff steady.issuer steady.audience past unexpired

/-- A steady world has no outage. -/
theorem KeyWorld.Steady.noOutage (steady : world.Steady signing config) :
    world.NoOutage signing sprint := fun token member unexpired =>
  (steady.accepts_iff member unexpired).mpr (steady.verifies token member unexpired)

/-- At the start it is steady. -/
theorem KeyWorld.Started.steady (started : world.Started signing config) :
    world.Steady signing config where
  issuer := started.issuer
  audience := started.audience
  known := by
    rw [started.unpolled]
    exact .inl rfl
  made token member := by
    obtain ⟨maker, user, sessionID, past, -, made⟩ := started.earlier token member
    exact ⟨maker, user, sessionID, past, made⟩
  verifies token member _ := by
    obtain ⟨maker, user, sessionID, -, same, rfl⟩ := started.earlier token member
    rw [started.fetched, ← same]
    rfl

/-- Whether a token is expired depends on the clock only. -/
theorem unexpired_congr {token : IssuedToken PrivateKey} (clock : next.clock = world.clock) :
    next.Unexpired token ↔ world.Unexpired token := by
  rw [KeyWorld.Unexpired, KeyWorld.Unexpired, KeyWorld.now, KeyWorld.now, clock]

/-- Time only ends the life of tokens. -/
theorem KeyWorld.Steady.wait (steady : world.Steady signing config) (duration : Nat) :
    KeyWorld.Steady signing config { world with clock := world.clock + duration } where
  issuer := steady.issuer
  audience := steady.audience
  known := steady.known
  made token member := by
    obtain ⟨maker, user, sessionID, past, made⟩ := steady.made token member
    exact ⟨maker, user, sessionID, past.trans (Int.le_add_of_nonneg_right (by simp)), made⟩
  verifies token member unexpired := by
    refine steady.verifies token member (lt_of_le_of_lt (now_mono ?_) unexpired)
    exact Int.le_add_of_nonneg_right (by simp)

/-- A token that is issued in time keeps it so. -/
theorem KeyWorld.Steady.issue (steady : world.Steady signing config) {user : User}
    {sessionID : Uuid}
    (inTime : (KeyLabel.issue user sessionID).InTime signing format config world) :
    KeyWorld.Steady signing config
      { world with issued := world.nextToken signing config user sessionID :: world.issued } where
  issuer := steady.issuer
  audience := steady.audience
  known := steady.known
  made token member := by
    rcases List.mem_cons.mp member with rfl | member
    · exact ⟨world, user, sessionID, le_rfl, rfl⟩
    · exact steady.made token member
  verifies token member unexpired := by
    rcases List.mem_cons.mp member with rfl | member
    · exact inTime unexpired
    · exact steady.verifies token member unexpired

variable [DecidableEq PublicKey]

/-- What handling an outcome does to the world: nothing but to the poller, or the
fetched key becomes the gateway's. -/
theorem KeyWorld.step_handle (known : world.poller.current = none ∨
      world.poller.current = world.middleware.publicKey)
    (step : world.step signing format config .handle = some next) :
    ∃ outcome, world.outcome = some outcome ∧
      next.clock = world.clock ∧ next.issued = world.issued ∧
      match fetchedKey format outcome with
      | none => next.poller.current = world.poller.current ∧ next.middleware = world.middleware
      | some key => next.poller.current = some key ∧
          next.middleware = { world.middleware with publicKey := some key } := by
  obtain ⟨outcome, fetched, rfl⟩ := Option.map_eq_some_iff.mp step
  refine ⟨outcome, fetched, rfl, rfl, ?_⟩
  cases parsed : fetchedKey format outcome with
  | none => exact KeyPoller.handle_of_none parsed
  | some key =>
      refine ⟨?_, KeyPoller.handle_current parsed known⟩
      rw [KeyPoller.handle_of_some parsed]

theorem KeyWorld.Steady.handle (steady : world.Steady signing config)
    (inTime : KeyLabel.handle.InTime signing format config world)
    (step : world.step signing format config .handle = some next) :
    next.Steady signing config := by
  obtain ⟨outcome, fetched, clock, issued, handled⟩ := KeyWorld.step_handle steady.known step
  have made : ∀ token ∈ next.issued, ∃ (maker : KeyWorld PrivateKey PublicKey) (user : User)
      (sessionID : Uuid), maker.clock ≤ next.clock ∧
        token = maker.nextToken signing config user sessionID := by
    rw [issued, clock]
    exact steady.made
  cases parsed : fetchedKey format outcome with
  | none =>
      rw [parsed] at handled
      obtain ⟨current, middleware⟩ := handled
      refine ⟨middleware ▸ steady.issuer, middleware ▸ steady.audience, ?_, made, ?_⟩
      · rw [current, middleware]
        exact steady.known
      · rw [issued, middleware]
        intro token member unexpired
        exact steady.verifies token member ((unexpired_congr clock).mp unexpired)
  | some key =>
      rw [parsed] at handled
      obtain ⟨current, middleware⟩ := handled
      have issuer : next.middleware.issuer = config.issuer := by
        rw [middleware]
        exact steady.issuer
      have audience : next.middleware.audience = config.audience := by
        rw [middleware]
        exact steady.audience
      refine ⟨issuer, audience, .inr (by rw [current, middleware]), made, ?_⟩
      rw [issued, middleware]
      intro token member unexpired
      have found : world.outcome.bind (fetchedKey format) = some key := by
        rw [fetched]
        exact parsed
      have signed := inTime key found token member ((unexpired_congr clock).mp unexpired)
      exact congrArg some signed.symm

theorem KeyWorld.Steady.step (steady : world.Steady signing config)
    (inTime : label.InTime signing format config world)
    (step : world.step signing format config label = some next) : next.Steady signing config := by
  cases label with
  | wait duration =>
      cases step
      exact steady.wait duration
  | issue user sessionID =>
      cases step
      exact steady.issue inTime
  | rotate key keyID =>
      cases step
      exact ⟨steady.issuer, steady.audience, steady.known, steady.made, steady.verifies⟩
  | serve =>
      obtain ⟨-, served⟩ := Option.ite_none_right_eq_some.mp step
      cases served
      exact ⟨steady.issuer, steady.audience, steady.known, steady.made, steady.verifies⟩
  | fault outcome =>
      obtain ⟨-, faulted⟩ := Option.ite_none_right_eq_some.mp step
      cases faulted
      exact ⟨steady.issuer, steady.audience, steady.known, steady.made, steady.verifies⟩
  | handle => exact steady.handle inTime step
  | verify request =>
      cases step
      exact steady

/-- A step that is not in time leaves an unexpired token that is refused. -/
theorem KeyWorld.Steady.inTime (steady : world.Steady signing config)
    (step : world.step signing format config label = some next)
    (noOutage : next.NoOutage signing sprint) : label.InTime signing format config world := by
  cases label with
  | wait duration => trivial
  | issue user sessionID =>
      cases step
      intro unexpired
      have accepted := noOutage _ List.mem_cons_self unexpired
      exact (Deployment.accepts_iff steady.issuer steady.audience le_rfl unexpired).mp accepted
  | rotate key keyID => trivial
  | serve => trivial
  | fault outcome => trivial
  | handle =>
      intro key fetched token member unexpired
      obtain ⟨outcome, found, clock, issued, handled⟩ := KeyWorld.step_handle steady.known step
      rw [found, Option.bind_some] at fetched
      rw [fetched] at handled
      obtain ⟨-, middleware⟩ := handled
      have lives := (unexpired_congr clock).mpr unexpired
      have accepted := noOutage token (issued ▸ member) lives
      obtain ⟨maker, user, sessionID, past, rfl⟩ := steady.made token member
      have issuer : next.middleware.issuer = config.issuer := by
        rw [middleware]
        exact steady.issuer
      have audience : next.middleware.audience = config.audience := by
        rw [middleware]
        exact steady.audience
      have held :=
        (Deployment.accepts_iff issuer audience (clock ▸ past) lives).mp accepted
      rw [middleware] at held
      exact (Option.some.inj held).symm
  | verify request => trivial

/-- There is no outage in a run exactly when each token is issued under the key
that the gateway holds, and each key that the poller puts in place has signed
every unexpired token. A poll that fetches no key never replaces the gateway's. -/
theorem keyRotation_noOutage_iff (signing : Signing PrivateKey PublicKey)
    (format : KeyFormat PublicKey) (config : JwtConfig) (sprint : Json → String)
    (world : KeyWorld PrivateKey PublicKey) (started : world.Started signing config)
    (labels : List (KeyLabel PrivateKey)) :
    ((keyRotation signing format config).Along (KeyWorld.NoOutage signing sprint) world labels ↔
      (keyRotation signing format config).Guarded
        (fun world label => label.InTime signing format config world) world labels) ∧
      ∀ state next : KeyWorld PrivateKey PublicKey,
        state.outcome.bind (fetchedKey format) = none →
        (keyRotation signing format config).step state .handle = some next →
        next.middleware = state.middleware := by
  constructor
  · exact Machine.along_iff_guarded (fun state steady => KeyWorld.Steady.noOutage steady)
      (fun steady inTime step => KeyWorld.Steady.step steady inTime step)
      (fun steady step noOutage => KeyWorld.Steady.inTime steady step noOutage) labels
      started.steady
  · intro state next failed step
    obtain ⟨outcome, found, rfl⟩ := Option.map_eq_some_iff.mp step
    rw [found, Option.bind_some] at failed
    exact (KeyPoller.handle_of_none failed).2

end Runs

/-! ## Keys of one byte -/

/-- The PKIX form of a key is its byte, and PEM marks it with a dash. -/
def byteFormat : KeyFormat UInt8 where
  encodePEM bytes := 45 :: bytes
  decodePEM
    | 45 :: bytes => some bytes
    | _ => none
  marshalPKIX key := [key]
  parsePKIX
    | [key] => .ok (.rsa key)
    | _ => .error "asn1: structure error"
  decodePEM_encodePEM _ := rfl
  parsePKIX_marshalPKIX _ := rfl

def textCode (text : String) : List ℕ := text.toList.map Char.toNat

def codeText (code : List ℕ) : String := String.ofList (code.map Char.ofNat)

/-- A text is read back from its code. -/
theorem codeText_textCode (text : String) : codeText (textCode text) = text := by
  simp [codeText, textCode, Function.comp_def]

/-- The key, texts, audience and instants of a token. -/
abbrev TokenCode := ℕ × List (List ℕ) × List (List ℕ) × List ℤ

def tokenCode (key : UInt8) (claims : CustomClaims) (keyID : String) : TokenCode :=
  (key.toNat,
    [claims.email, claims.role, claims.sessionID, claims.subject, claims.issuer, keyID].map
      textCode,
    claims.audience.map textCode, [claims.issuedAt, claims.expiresAt, claims.notBefore])

def readCode : TokenCode → Option (UInt8 × CustomClaims)
  | (key, [email, role, sessionID, subject, issuer, _], audience,
      [issuedAt, expiresAt, notBefore]) =>
      some (UInt8.ofNat key,
        { email := codeText email
          role := codeText role
          sessionID := codeText sessionID
          subject := codeText subject
          issuer := codeText issuer
          audience := audience.map codeText
          issuedAt
          expiresAt
          notBefore })
  | _ => none

/-- A token's text is a numeral. -/
def signBytes (key : UInt8) (claims : CustomClaims) (keyID : String) : String :=
  String.ofList (Nat.toDigits 10 (Encodable.encode (tokenCode key claims keyID)))

def readToken (text : String) : Option (UInt8 × CustomClaims) :=
  (Encodable.decode (Nat.ofDigitChars 10 text.toList 0)).bind readCode

/-- A token is read back from its bytes. -/
theorem readToken_signBytes (key : UInt8) (claims : CustomClaims) (keyID : String) :
    readToken (signBytes key claims keyID) = some (key, claims) := by
  rw [readToken, signBytes, String.toList_ofList, Nat.ofDigitChars_toDigits (by decide) (by decide),
    Encodable.encodek, Option.bind_some]
  simp [readCode, tokenCode, codeText_textCode, Function.comp_def]

/-- No digit is a blank. -/
theorem isSpace_of_isDigit {char : Char} (digit : char.isDigit) : isSpace char = false := by
  obtain ⟨lower, upper⟩ : 48 ≤ char.toNat ∧ char.toNat ≤ 57 := Char.isDigit_iff_toNat.mp digit
  have notBlank : char ≠ ' ' := by
    rintro rfl
    exact absurd lower (by decide)
  rw [Bool.eq_false_iff]
  intro space
  simp [isSpace, isAsciiSpace, isWideSpace, notBlank] at space
  omega

/-- A token has no blanks. -/
theorem isWord_signBytes (key : UInt8) (claims : CustomClaims) (keyID : String) :
    IsWord (signBytes key claims keyID) := by
  constructor
  · intro empty
    exact Nat.toDigits_ne_nil (String.ofList_eq_empty_iff.mp empty)
  · intro char member
    rw [signBytes, String.toList_ofList] at member
    exact isSpace_of_isDigit (Nat.isDigit_of_mem_toDigits (by decide) (by decide) member)

/-- A signature that holds the key it was made with. -/
def byteSigning : Signing UInt8 UInt8 where
  toJwt := Jwt.checking (fun text => (readToken text).map fun read => claimsToken read.2)
    fun alg key text => alg = "RS256" ∧ (readToken text).map Prod.fst = some key
  publicKey := id
  sign := signBytes
  decode_sign key claims keyID := by simp [Jwt.checking, readToken_signBytes]
  signed_sign key other claims keyID := by
    simp only [Jwt.checking, readToken_signBytes]
    simp [eq_comm (a := key)]
  sign_compact := isWord_signBytes
  accepts _ _ _ _ _ decoded method signed issuer audience expires _ :=
    Jwt.checking_parse decoded method signed issuer audience expires

def jwtConfig : JwtConfig :=
  ⟨900 * second, 604800 * second, "sentinel-auth-service", "sentinel-api"⟩

/-- The gateway has fetched the first key. -/
def firstKey : KeyWorld UInt8 UInt8 where
  clock := 0
  signingKey := 1
  keyID := "sentinel-2026-01"
  middleware := ⟨some 1, "sentinel-auth-service", "sentinel-api"⟩
  poller := .new
  outcome := none
  issued := []

/-- The first key is known on both sides. -/
theorem firstKey_started : firstKey.Started byteSigning jwtConfig :=
  ⟨rfl, rfl, rfl, rfl, nofun⟩

def someUser : User where
  id := Session.zero.id
  email := "ana@example.com"
  passwordHash := ""
  fullName := "Ana"
  role := .user
  isActive := true
  emailVerified := true
  createdAt := 0
  updatedAt := 0
  lastLoginAt := none
  failedLoginCount := 0
  lockedUntil := none

/-- A token, and a rotation whose key the gateway fetches when the token has expired. -/
def lateRotation : List (KeyLabel UInt8) :=
  [.issue someUser Session.zero.id, .wait (901 * 1000000000), .rotate 2 "sentinel-2026-02", .serve,
    .handle]

/-- The poller is about to handle the second key. -/
def tokenExpired : KeyWorld UInt8 UInt8 where
  clock := 901 * second
  signingKey := 2
  keyID := "sentinel-2026-02"
  middleware := ⟨some 1, "sentinel-auth-service", "sentinel-api"⟩
  poller := .new
  outcome := some (.ok ⟨200, .ok [45, 2]⟩)
  issued := [firstKey.nextToken byteSigning jwtConfig someUser Session.zero.id]

/-- A key that is retired after its tokens have expired. -/
theorem keyRotation_noOutage_expired :
    (keyRotation byteSigning byteFormat jwtConfig).Along
      (KeyWorld.NoOutage byteSigning fun _ => "") firstKey lateRotation := by
  refine (keyRotation_noOutage_iff byteSigning byteFormat jwtConfig (fun _ => "") firstKey
    firstKey_started _).1.mpr ?_
  have late : KeyLabel.handle.InTime byteSigning byteFormat jwtConfig tokenExpired := by
    intro key fetched token member unexpired
    obtain rfl := List.mem_singleton.mp member
    exact absurd unexpired (by decide +kernel)
  refine Machine.guarded_cons _ rfl (fun _ => rfl) ?_
  refine Machine.guarded_cons _ rfl trivial (Machine.guarded_cons _ rfl trivial ?_)
  exact Machine.guarded_cons tokenExpired rfl trivial
    (Machine.guarded_cons _ rfl late trivial)

/-- A token, and a rotation that the gateway picks up at once. -/
def promptRotation : List (KeyLabel UInt8) :=
  [.issue someUser Session.zero.id, .rotate 2 "sentinel-2026-02", .serve, .handle]

/-- Where it leads: the gateway has the second key, the token is of the first. -/
def secondKey : KeyWorld UInt8 UInt8 where
  clock := 0
  signingKey := 2
  keyID := "sentinel-2026-02"
  middleware := ⟨some 2, "sentinel-auth-service", "sentinel-api"⟩
  poller := ⟨some 2, ""⟩
  outcome := none
  issued := [firstKey.nextToken byteSigning jwtConfig someUser Session.zero.id]

/-- A token of the old key is refused after the poll. -/
theorem keyRotation_noOutage_fails :
    ¬ ∀ labels : List (KeyLabel UInt8), (keyRotation byteSigning byteFormat jwtConfig).Along
      (KeyWorld.NoOutage byteSigning fun _ => "") firstKey labels := by
  intro always
  have run : (keyRotation byteSigning byteFormat jwtConfig).exec firstKey promptRotation =
      some secondKey := rfl
  have unexpired : secondKey.Unexpired
      (firstKey.nextToken byteSigning jwtConfig someUser Session.zero.id) := by decide +kernel
  have accepted := (always promptRotation).final run _ List.mem_cons_self unexpired
  have past : firstKey.clock ≤ secondKey.clock := le_refl (0 : Time)
  have held : secondKey.middleware.publicKey = some (byteSigning.publicKey firstKey.signingKey) :=
    (accepts_iff rfl rfl past unexpired).mp accepted
  exact absurd held (by decide)

end Sentinel.Deployment
