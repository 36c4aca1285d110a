import Sentinel.Auth.Repository
import Sentinel.Auth.Token

/-!
# The auth service

`AuthService.Login`, `Refresh` and `Logout` over a user table and a session
repository. Clock readings, fresh ids and random bytes are inputs. `refreshStep`
cuts `Refresh` at its calls of the repositories, for callers that interleave;
`refresh_eq_refreshSteps` says that it is the same function.
-/

namespace Sentinel.Auth

open Sentinel.Wire

inductive EventType where
  | userRegistered
  | userLoggedIn
  | loginFailed
  | accountLocked
deriving DecidableEq, Repr

def EventType.text : EventType → String
  | .userRegistered => "auth.user.registered"
  | .userLoggedIn => "auth.user.logged_in"
  | .loginFailed => "auth.user.login_failed"
  | .accountLocked => "auth.user.account_locked"

/-- The fields of `kafka.AuthEvent` that the service fills in. -/
structure AuthEvent where
  eventID : Uuid
  eventType : EventType
  timestamp : Time
  userID : Uuid
  email : String
  ipAddress : String
deriving DecidableEq

/-- The rows of `users`, under the statements of `UserPostgres`. -/
abbrev Users := List User

namespace Users

def getByEmail (users : Users) (email : String) : Option User :=
  users.find? (·.email = email)

def getByID (users : Users) (id : Uuid) : Option User :=
  users.find? (·.id = id)

/-- `UPDATE users SET failed_login_count = failed_login_count + 1, ...` -/
def incrementFailedLogin (users : Users) (now : Time) (email : String)
    (maxAttempts lockDurationMinutes : Int) : Users :=
  users.map fun user =>
    if user.email = email then
      { user with
        failedLoginCount := user.failedLoginCount + 1
        lockedUntil :=
          if maxAttempts ≤ user.failedLoginCount + 1 then
            some (now + lockDurationMinutes * 60 * second)
          else user.lockedUntil }
    else user

def resetFailedLogin (users : Users) (id : Uuid) : Users :=
  users.map fun user =>
    if user.id = id then { user with failedLoginCount := 0, lockedUntil := none } else user

def updateLastLogin (users : Users) (now : Time) (id : Uuid) : Users :=
  users.map fun user => if user.id = id then { user with lastLoginAt := some now } else user

end Users

/-- The service's configuration and the library functions it calls. -/
structure AuthService where
  tokens : JWTTokenService
  /-- `sha256.Sum256` of a text. -/
  sum256 : String → Digest
  /-- `bcrypt.CompareHashAndPassword` returns nil. -/
  compareHashAndPassword : String → String → Bool
  trimSpace : String → String
  toLower : String → String
  refreshTTL : Time

structure LoginRequest where
  email : String
  password : String
  ipAddress : String
  userAgent : String
  deviceInfo : Json

/-- What one call of `Login` draws from its environment. -/
structure LoginInput where
  now : Time
  storedAt : Time
  sessionID : Uuid
  tokenFamily : Uuid
  secret : Secret
  eventID : Uuid

/-- The user table, the session store and the events handed to Kafka. -/
structure World (Store : Type) where
  users : Users
  sessions : Store
  events : List AuthEvent

/-- What one call of `Refresh` draws: the clock at its expiry check, at
`GenerateTokenPair` and at its write, the user table it reads, and the secret. -/
structure RefreshInput where
  checkedAt : Time
  issuedAt : Time
  storedAt : Time
  users : Users
  secret : Secret

/-- What a single step of `Refresh` draws. -/
structure StepInput where
  now : Time
  users : Users
  secret : Secret

/-- Where a call of `Refresh` stands, with its local variables. -/
inductive RefreshPhase where
  | validating
  | reading (sessionID : Uuid)
  | comparing (session : Session)
  | revoking (tokenFamily : Uuid)
  | readingUser (session : Session)
  | generating (session : Session) (user : User)
  | storing (session : Session) (pair : TokenPair)
  | returned (result : Except AuthError TokenPair)

namespace AuthService

variable {Store : Type} (service : AuthService) (repository : SessionRepository Store)

def hash (token : String) : String := refreshTokenHash service.sum256 token

def event (user : User) (eventType : EventType) (request : LoginRequest) (input : LoginInput) :
    AuthEvent :=
  ⟨input.eventID, eventType, input.now, user.id, user.email, request.ipAddress⟩

/-- The session that a successful login stores. -/
def newSession (user : User) (pair : TokenPair) (request : LoginRequest) (input : LoginInput) :
    Session where
  id := input.sessionID
  userID := user.id
  refreshTokenHash := service.hash pair.refreshToken
  tokenFamily := input.tokenFamily
  deviceInfo := request.deviceInfo
  ipAddress := request.ipAddress
  userAgent := request.userAgent
  isRevoked := false
  expiresAt := input.now + service.refreshTTL
  createdAt := input.now
  lastUsedAt := input.now

/-- `AuthService.Login`, with a user table that answers every statement. -/
def login (request : LoginRequest) (input : LoginInput) (world : World Store) :
    Except AuthError TokenPair × World Store :=
  let email := service.toLower (service.trimSpace request.email)
  match world.users.getByEmail email with
  | none => (.error .invalidPassword, world)
  | some user =>
      if user.isLocked input.now then (.error .accountLocked, world)
      else if !user.isActive then (.error .accountInactive, world)
      else if !service.compareHashAndPassword user.passwordHash request.password then
        (.error .invalidPassword,
          { world with
            users := world.users.incrementFailedLogin input.now email 5 15
            events := world.events ++ [event user .loginFailed request input] })
      else
        let users :=
          (if 0 < user.failedLoginCount then world.users.resetFailedLogin user.id
            else world.users).updateLastLogin input.now user.id
        let pair := service.tokens.generateTokenPair user input.sessionID input.now input.secret
        match repository.create input.storedAt (service.newSession user pair request input)
            world.sessions with
        | .error error => (.error (.repository error), { world with users := users })
        | .ok sessions =>
            (.ok pair,
              { users := users
                sessions := sessions
                events := world.events ++ [event user .userLoggedIn request input] })

/-- The session as `Refresh` writes it back. -/
def rotated (session : Session) (pair : TokenPair) (now : Time) : Session :=
  { session with refreshTokenHash := service.hash pair.refreshToken, lastUsedAt := now }

/-- `AuthService.Refresh`. -/
def refresh (token : String) (input : RefreshInput) (store : Store) :
    Except AuthError TokenPair × Store :=
  match validateRefreshToken token with
  | .error _ => (.error .invalidRefresh, store)
  | .ok sessionID =>
      match repository.getByID input.checkedAt sessionID store with
      | .error _ => (.error .invalidRefresh, store)
      | .ok session =>
          if session.isRevoked ∨ session.expiresAt < input.checkedAt then
            (.error .invalidRefresh, store)
          else if service.hash token ≠ session.refreshTokenHash then
            match repository.revokeFamily input.checkedAt session.tokenFamily store with
            | .ok next => (.error .refreshReuse, next)
            | .error _ => (.error .refreshReuse, store)
          else
            match input.users.getByID session.userID with
            | none => (.error .invalidRefresh, store)
            | some user =>
                if !user.isActive then (.error .invalidRefresh, store)
                else
                  let pair := service.tokens.generateTokenPair user session.id input.issuedAt
                    input.secret
                  match repository.create input.storedAt
                      (service.rotated session pair input.issuedAt) store with
                  | .error error => (.error (.repository error), store)
                  | .ok next => (.ok pair, next)

/-- One step of `Refresh`: at most one repository call. -/
def refreshStep (token : String) (input : StepInput) :
    RefreshPhase × Store → RefreshPhase × Store
  | (.validating, store) =>
      match validateRefreshToken token with
      | .error _ => (.returned (.error .invalidRefresh), store)
      | .ok sessionID => (.reading sessionID, store)
  | (.reading sessionID, store) =>
      match repository.getByID input.now sessionID store with
      | .error _ => (.returned (.error .invalidRefresh), store)
      | .ok session =>
          if session.isRevoked ∨ session.expiresAt < input.now then
            (.returned (.error .invalidRefresh), store)
          else (.comparing session, store)
  | (.comparing session, store) =>
      if service.hash token ≠ session.refreshTokenHash then (.revoking session.tokenFamily, store)
      else (.readingUser session, store)
  | (.revoking tokenFamily, store) =>
      match repository.revokeFamily input.now tokenFamily store with
      | .ok next => (.returned (.error .refreshReuse), next)
      | .error _ => (.returned (.error .refreshReuse), store)
  | (.readingUser session, store) =>
      match input.users.getByID session.userID with
      | none => (.returned (.error .invalidRefresh), store)
      | some user =>
          if !user.isActive then (.returned (.error .invalidRefresh), store)
          else (.generating session user, store)
  | (.generating session user, store) =>
      let pair := service.tokens.generateTokenPair user session.id input.now input.secret
      (.storing (service.rotated session pair input.now) pair, store)
  | (.storing session pair, store) =>
      match repository.create input.now session store with
      | .error error => (.returned (.error (.repository error)), store)
      | .ok next => (.returned (.ok pair), next)
  | (.returned result, store) => (.returned result, store)

/-- `AuthService.Logout`. -/
def logout (now : Time) (sessionID : Uuid) (store : Store) : Except RepositoryError Unit × Store :=
  match repository.revokeByID now sessionID store with
  | .ok next => (.ok (), next)
  | .error error => (.error error, store)

/-- The inputs of the six steps of an undisturbed call. -/
def stepInputs (input : RefreshInput) : List StepInput :=
  List.replicate 4 ⟨input.checkedAt, input.users, input.secret⟩ ++
    [⟨input.issuedAt, input.users, input.secret⟩, ⟨input.storedAt, input.users, input.secret⟩]

/-- Undisturbed, the steps of `Refresh` compute `refresh`. -/
theorem refresh_eq_refreshSteps (token : String) (input : RefreshInput) (store : Store) :
    (stepInputs input).foldl (fun state step => service.refreshStep repository token step state)
        (.validating, store) =
      (.returned (service.refresh repository token input store).1,
        (service.refresh repository token input store).2) := by
  simp only [stepInputs, List.replicate, List.cons_append, List.nil_append, List.foldl_cons,
    List.foldl_nil, refresh]
  cases validated : validateRefreshToken token with
  | error _ => simp only [refreshStep, validated]
  | ok sessionID =>
      cases read : repository.getByID input.checkedAt sessionID store with
      | error _ => simp only [refreshStep, validated, read]
      | ok session =>
          by_cases dead : session.isRevoked ∨ session.expiresAt < input.checkedAt
          · simp only [refreshStep, validated, read, if_pos dead]
          by_cases replaced : service.hash token ≠ session.refreshTokenHash
          · cases revoked : repository.revokeFamily input.checkedAt session.tokenFamily store <;>
              simp only [refreshStep, validated, read, if_neg dead, if_pos replaced, revoked]
          cases found : input.users.getByID session.userID with
          | none => simp only [refreshStep, validated, read, if_neg dead, if_neg replaced, found]
          | some user =>
              simp only [refreshStep, validated, read, if_neg dead, if_neg replaced, found]
              cases user.isActive with
              | false => rfl
              | true =>
                  simp only [Bool.not_true, Bool.false_eq_true, if_false]
                  split <;> rfl

variable {service repository}

/-- What a successful login leaves behind. -/
theorem login_ok {request : LoginRequest} {input : LoginInput} {world next : World Store}
    {pair : TokenPair}
    (loggedIn : service.login repository request input world = (.ok pair, next)) :
    ∃ user, world.users.getByEmail (service.toLower (service.trimSpace request.email)) = some user ∧
      pair = service.tokens.generateTokenPair user input.sessionID input.now input.secret ∧
      repository.create input.storedAt (service.newSession user pair request input)
        world.sessions = .ok next.sessions := by
  simp only [login] at loggedIn
  split at loggedIn
  · cases loggedIn
  rename_i user found
  split at loggedIn
  · cases loggedIn
  split at loggedIn
  · cases loggedIn
  split at loggedIn
  · cases loggedIn
  split at loggedIn
  · cases loggedIn
  · rename_i sessions created
    cases loggedIn
    exact ⟨user, found, rfl, created⟩

/-- Whoever logs in has an open account and gives its password. -/
theorem open_of_login {request : LoginRequest} {input : LoginInput} {world next : World Store}
    {pair : TokenPair}
    (loggedIn : service.login repository request input world = (.ok pair, next)) :
    ∃ user, world.users.getByEmail (service.toLower (service.trimSpace request.email)) = some user ∧
      user.isLocked input.now = false ∧ user.isActive = true ∧
      service.compareHashAndPassword user.passwordHash request.password = true := by
  simp only [login] at loggedIn
  split at loggedIn
  · cases loggedIn
  rename_i user found
  split at loggedIn
  · cases loggedIn
  rename_i unlocked
  split at loggedIn
  · cases loggedIn
  rename_i active
  split at loggedIn
  · cases loggedIn
  rename_i matched
  exact ⟨user, found, by simpa using unlocked, by simpa using active, by simpa using matched⟩

/-- A login of a user that is found stores a session for the pair that it returns. -/
theorem login_ok_of_found {request : LoginRequest} {input : LoginInput} {world next : World Store}
    {user : User} {pair : TokenPair}
    (found : world.users.getByEmail (service.toLower (service.trimSpace request.email)) = some user)
    (loggedIn : service.login repository request input world = (.ok pair, next)) :
    pair = service.tokens.generateTokenPair user input.sessionID input.now input.secret ∧
      repository.create input.storedAt (service.newSession user pair request input)
        world.sessions = .ok next.sessions := by
  obtain ⟨other, present, generated, created⟩ := login_ok loggedIn
  rw [found] at present
  cases present
  exact ⟨generated, created⟩

end AuthService

/-! ### An installation for runs on fixed inputs -/

namespace Installed

def uuid (byte : UInt8) : Uuid := ⟨List.replicate 16 byte, rfl⟩

def secret (byte : UInt8) : Secret := ⟨List.replicate 32 byte, rfl⟩

/-- The last 32 characters of a text, for a digest: they hold the secret. -/
def lastCharacters (text : String) : Digest :=
  ⟨((text.toList.reverse.map fun char : Char => UInt8.ofNat char.toNat) ++ List.replicate 32 0).take 32, by simp⟩

def service : AuthService where
  tokens := ⟨fun claims _ => claims.subject, 900 * second, 604800 * second, "sentinel", "api", "k1"⟩
  sum256 := lastCharacters
  compareHashAndPassword := fun hash password => hash == password
  trimSpace := id
  toLower := id
  refreshTTL := 604800 * second

def user : User where
  id := uuid 1
  email := "ada@example.com"
  passwordHash := "Correct-Horse-9"
  fullName := "Ada"
  role := .user
  isActive := true
  emailVerified := true
  createdAt := 0
  updatedAt := 0
  lastLoginAt := none
  failedLoginCount := 0
  lockedUntil := none

def loginRequest : LoginRequest :=
  ⟨"ada@example.com", "Correct-Horse-9", "203.0.113.7", "curl", .null⟩

/-- A world with the one user and nothing published. -/
def world {Store : Type} (sessions : Store) : World Store := ⟨[user], sessions, []⟩

def loginInput : LoginInput := ⟨0, 0, uuid 2, uuid 3, secret 4, uuid 5⟩

/-- The refresh token that the login returns. -/
def token : String := refreshTokenText (uuid 2) (secret 4)

def stepInput (byte : UInt8) : StepInput := ⟨0, [user], secret byte⟩

/-- A call at the given instant that draws the given secret. -/
def refreshInput (now : Time) (byte : UInt8) : RefreshInput :=
  ⟨now, now, now, [user], secret byte⟩

end Installed
end Sentinel.Auth
