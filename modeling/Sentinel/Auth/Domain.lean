import Sentinel.Wire.Json
import Sentinel.Wire.Uuid

/-!
# Users, sessions and errors of the auth service

`domain.User`, `domain.Session` and `domain.TokenPair` with the JSON form of a
session. Instants and durations are nanoseconds.
-/

namespace Sentinel.Auth

open Sentinel.Wire

abbrev Time := Int

def second : Time := 1000000000

/-- The zero `time.Time`, midnight of 1 January of year 1. -/
def zeroTime : Time := -62135596800 * second

inductive Role where
  | user
  | admin
  | service
deriving DecidableEq, Repr

def Role.text : Role → String
  | .user => "user"
  | .admin => "admin"
  | .service => "service"

structure User where
  id : Uuid
  email : String
  passwordHash : String
  fullName : String
  role : Role
  isActive : Bool
  emailVerified : Bool
  createdAt : Time
  updatedAt : Time
  lastLoginAt : Option Time
  failedLoginCount : Int
  lockedUntil : Option Time
deriving DecidableEq

/-- `User.IsLocked` with the clock at `now`. -/
def User.isLocked (user : User) (now : Time) : Bool :=
  match user.lockedUntil with
  | none => false
  | some lockedUntil => now < lockedUntil

/-- The errors a `SessionRepository` returns. -/
inductive RepositoryError where
  | sessionNotFound
  | sessionExpired
  | malformed
deriving DecidableEq, Repr

def RepositoryError.message : RepositoryError → String
  | .sessionNotFound => "session not found"
  | .sessionExpired => "session already expired"
  | .malformed => "json: cannot unmarshal"

inductive AuthError where
  | invalidEmail
  | weakPassword
  | accountLocked
  | accountInactive
  | invalidPassword
  | invalidRefresh
  | refreshReuse
  | repository (error : RepositoryError)
deriving DecidableEq, Repr

def AuthError.message : AuthError → String
  | .invalidEmail => "invalid email format"
  | .weakPassword =>
      "password must be at least 12 characters, with 1 uppercase, 1 lowercase, 1 digit, and 1 special character"
  | .accountLocked => "account is locked due to multiple failed login attempts"
  | .accountInactive => "account is inactive"
  | .invalidPassword => "invalid email or password"
  | .invalidRefresh => "invalid or expired refresh token"
  | .refreshReuse => "refresh token reuse detected"
  | .repository error => error.message

structure TokenPair where
  accessToken : String
  refreshToken : String
  /-- Access token lifetime in seconds. -/
  expiresIn : Int
deriving DecidableEq, Repr

structure Session where
  id : Uuid
  userID : Uuid
  refreshTokenHash : String
  tokenFamily : Uuid
  deviceInfo : Json
  ipAddress : String
  userAgent : String
  isRevoked : Bool
  expiresAt : Time
  createdAt : Time
  lastUsedAt : Time

namespace Session

/-- The zero value that `json.Unmarshal` starts from. -/
def zero : Session where
  id := ⟨List.replicate 16 0, rfl⟩
  userID := ⟨List.replicate 16 0, rfl⟩
  refreshTokenHash := ""
  tokenFamily := ⟨List.replicate 16 0, rfl⟩
  deviceInfo := .null
  ipAddress := ""
  userAgent := ""
  isRevoked := false
  expiresAt := zeroTime
  createdAt := zeroTime
  lastUsedAt := zeroTime

/-- A `uuid.UUID` field. -/
def uuidField (tag : String) (get : Session → Uuid) (set : Uuid → Session → Session) :
    JsonField Session :=
  .textual tag Uuid.string Uuid.parse get set

/-- The fields of `domain.Session` under their tags. The hash is tagged `-`. -/
def fields : List (JsonField Session) :=
  [uuidField "id" (·.id) fun value session => { session with id := value },
    uuidField "user_id" (·.userID) fun value session => { session with userID := value },
    .text "-" (·.refreshTokenHash)
      (fun value session => { session with refreshTokenHash := value }) false,
    uuidField "token_family" (·.tokenFamily)
      fun value session => { session with tokenFamily := value },
    .any "device_info" (·.deviceInfo) fun value session => { session with deviceInfo := value },
    .text "ip_address" (·.ipAddress)
      (fun value session => { session with ipAddress := value }) false,
    .text "user_agent" (·.userAgent)
      (fun value session => { session with userAgent := value }) false,
    .boolean "is_revoked" (·.isRevoked) fun value session => { session with isRevoked := value },
    .instant "expires_at" (·.expiresAt) fun value session => { session with expiresAt := value },
    .instant "created_at" (·.createdAt) fun value session => { session with createdAt := value },
    .instant "last_used_at" (·.lastUsedAt)
      fun value session => { session with lastUsedAt := value }]

/-- `json.Marshal(session)`. -/
def marshal (session : Session) : Json := JsonField.marshal fields session

/-- `json.Unmarshal(data, &session)` into a zero session. -/
def unmarshal (json : Json) : Option Session := JsonField.unmarshal fields zero json

/-- Whatever document is read, the session comes back without a hash. -/
theorem unmarshal_hash {json : Json} {session : Session} (read : unmarshal json = some session) :
    session.refreshTokenHash = "" := by
  suffices kept : ∀ field ∈ fields, field.visible →
      field.Keeps fun session => session.refreshTokenHash = "" from
    JsonField.unmarshal_invariant kept rfl read
  intro field member visible
  simp only [fields, List.mem_cons, List.not_mem_nil, or_false] at member
  rcases member with rfl | rfl | rfl | rfl | rfl | rfl | rfl | rfl | rfl | rfl | rfl
  · exact JsonField.keeps_textual fun _ _ kept => kept
  · exact JsonField.keeps_textual fun _ _ kept => kept
  · cases visible
  · exact JsonField.keeps_textual fun _ _ kept => kept
  · exact JsonField.keeps_any fun _ _ kept => kept
  · exact JsonField.keeps_text fun _ _ kept => kept
  · exact JsonField.keeps_text fun _ _ kept => kept
  · exact JsonField.keeps_boolean fun _ _ kept => kept
  · exact JsonField.keeps_instant fun _ _ kept => kept
  · exact JsonField.keeps_instant fun _ _ kept => kept
  · exact JsonField.keeps_instant fun _ _ kept => kept

/-- A marshalled session is read back with every field but its hash. -/
theorem unmarshal_marshal (session : Session) :
    unmarshal session.marshal = some { session with refreshTokenHash := "" } := by
  -- Every key that was written selects its own field; the hash has no key.
  simp [marshal, unmarshal, JsonField.marshal, JsonField.unmarshal, fields, JsonField.visible,
    JsonField.readEntry, JsonField.select, uuidField, JsonField.text, JsonField.textual,
    JsonField.any, JsonField.boolean, JsonField.instant, Uuid.parse_string]
  rfl

end Session
end Sentinel.Auth
