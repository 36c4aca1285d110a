import Sentinel.Auth.Domain
import Sentinel.Wire.Base64

/-!
# Token pairs

`JWTTokenService`: an access token is a signed JWT, whose signature is a
parameter here, and a refresh token is the session id, a dot and 32 random
bytes in unpadded base64url. Signing and drawing random bytes do not fail.
-/

namespace Sentinel.Auth

open Sentinel.Wire

/-- The 32 random bytes of a refresh token. -/
structure Secret where
  bytes : List UInt8
  length_bytes : bytes.length = 32
deriving DecidableEq

/-- `domain.CustomClaims`; a `jwt.NumericDate` counts whole seconds. -/
structure CustomClaims where
  email : String
  role : String
  sessionID : String
  subject : String
  issuer : String
  audience : List String
  issuedAt : Int
  expiresAt : Int
  notBefore : Int
deriving DecidableEq, Repr

structure JWTTokenService where
  /-- RS256 over the claims with the private key, `kid` in the header. -/
  sign : CustomClaims → String → String
  accessTTL : Time
  refreshTTL : Time
  issuer : String
  audience : String
  keyID : String

/-- The text of a refresh token. -/
def refreshTokenText (sessionID : Uuid) (secret : Secret) : String :=
  String.ofList (sessionID.string.toList ++ '.' :: Base64.encode secret.bytes)

namespace JWTTokenService

def claims (service : JWTTokenService) (user : User) (sessionID : Uuid) (now : Time) :
    CustomClaims where
  email := user.email
  role := user.role.text
  sessionID := sessionID.string
  subject := user.id.string
  issuer := service.issuer
  audience := [service.audience]
  issuedAt := now / second
  expiresAt := (now + service.accessTTL) / second
  notBefore := now / second

/-- `GenerateTokenPair` with the clock at `now` and `secret` drawn. -/
def generateTokenPair (service : JWTTokenService) (user : User) (sessionID : Uuid) (now : Time)
    (secret : Secret) : TokenPair where
  accessToken := service.sign (service.claims user sessionID now) service.keyID
  refreshToken := refreshTokenText sessionID secret
  expiresIn := service.accessTTL / second

end JWTTokenService

inductive RefreshTokenError where
  | format
  | session
  | secret
deriving DecidableEq, Repr

def RefreshTokenError.message : RefreshTokenError → String
  | .format => "invalid refresh token format"
  | .session => "invalid refresh token session"
  | .secret => "invalid refresh token secret"

/-- `ValidateRefreshToken`: the session id that the token names. -/
def validateRefreshToken (token : String) : Except RefreshTokenError Uuid :=
  match token.toList.splitOn '.' with
  | [first, rest] =>
      match Uuid.parse (String.ofList first) with
      | none => .error .session
      | some sessionID =>
          match Base64.decode rest with
          | none => .error .secret
          | some secret => if secret.length = 32 then .ok sessionID else .error .secret
  | _ => .error .format

/-- A generated token is accepted. -/
theorem validateRefreshToken_refreshTokenText (sessionID : Uuid) (secret : Secret) :
    validateRefreshToken (refreshTokenText sessionID secret) = .ok sessionID := by
  have noDot : '.' ∉ Base64.encode secret.bytes :=
    fun member => (Base64.mem_encode member).2.2 rfl
  have parts : (refreshTokenText sessionID secret).toList.splitOn '.' =
      [sessionID.string.toList, Base64.encode secret.bytes] := by
    rw [refreshTokenText, String.toList_ofList, List.splitOn_append_cons_self,
      List.splitOn_eq_singleton sessionID.dot_not_mem_string, List.splitOn_eq_singleton noDot]
    rfl
  simp only [validateRefreshToken, parts, String.ofList_toList, Uuid.parse_string,
    Base64.decode_encode, secret.length_bytes, if_true]

/-- A refresh token names its session. -/
theorem refreshTokenText_session {first second : Uuid} {firstSecret secondSecret : Secret}
    (same : refreshTokenText first firstSecret = refreshTokenText second secondSecret) :
    first = second := by
  have validated := validateRefreshToken_refreshTokenText first firstSecret
  rw [same, validateRefreshToken_refreshTokenText] at validated
  exact (Except.ok.inj validated).symm

/-- A SHA-256 digest. -/
structure Digest where
  bytes : List UInt8
  length_bytes : bytes.length = 32
deriving DecidableEq

/-- The form in which a refresh token is stored: the hexadecimal digest of the
token's text. `sum256` stands for `sha256.Sum256`. -/
def refreshTokenHash (sum256 : String → Digest) (token : String) : String :=
  hexEncode (sum256 token).bytes

/-- No token has the empty hash that a stored session is read back with. -/
theorem refreshTokenHash_ne_empty (sum256 : String → Digest) (token : String) :
    refreshTokenHash sum256 token ≠ "" := by
  intro empty
  have length := length_hexEncode (sum256 token).bytes
  rw [show hexEncode (sum256 token).bytes = "" from empty, (sum256 token).length_bytes] at length
  exact absurd length (by decide)

/-- Two tokens have the same stored form only if their digests collide. -/
theorem refreshTokenHash_inj {sum256 : String → Digest} {first second : String} :
    refreshTokenHash sum256 first = refreshTokenHash sum256 second ↔
      sum256 first = sum256 second := by
  constructor
  · intro same
    have bytes := hexDecode_flatMap (sum256 first).bytes
    rw [String.ofList_injective same, hexDecode_flatMap] at bytes
    have equal := Option.some.inj bytes
    cases left : sum256 first
    cases right : sum256 second
    rw [left, right] at equal
    cases equal
    rfl
  · intro same
    rw [refreshTokenHash, refreshTokenHash, same]

end Sentinel.Auth
