import Sentinel.Auth.Service

/-!
# Rotation over the installed session store

`SessionRedis` stores a session as JSON and the tag of its token hash is `-`, so
a session that is read back never matches a presented token. The newest token of
a session is taken for a replaced one and its family is revoked.
-/

namespace Sentinel.Auth

open Sentinel.Wire

/-- A call of `Refresh` with the token that it presents. -/
structure RefreshCall where
  token : String
  input : RefreshInput

/-- The call runs before the session expires and finds the user active. -/
structure RefreshCall.InTime (call : RefreshCall) (userID : Uuid) (expiresAt : Time) : Prop where
  issued : call.input.checkedAt ≤ call.input.issuedAt
  stored : call.input.issuedAt ≤ call.input.storedAt
  unexpired : call.input.storedAt < expiresAt
  active : ∃ user, call.input.users.getByID userID = some user ∧ user.isActive

namespace AuthService

variable (service : AuthService)

/-- What rotation owes to a call: a new pair for the session, which stays stored
and unrevoked. -/
structure Rotates (session : Session) (call : RefreshCall)
    (outcome : Except AuthError TokenPair × RedisStore) : Prop where
  renewed : ∃ user, call.input.users.getByID session.userID = some user ∧
    outcome.1 = .ok (service.tokens.generateTokenPair user session.id call.input.issuedAt
      call.input.secret)
  kept : ∃ record, SessionRedis.getByID call.input.storedAt session.id outcome.2 = .ok record ∧
    record.isRevoked = false

/-- Every call that presents what the call before it returned is served. -/
def RotationHolds (session : Session) : Option TokenPair → RedisStore → List RefreshCall → Prop
  | _, _, [] => True
  | previous, store, call :: calls =>
      (previous.map TokenPair.refreshToken = some call.token →
        call.InTime session.userID session.expiresAt →
        service.Rotates session call (service.refresh sessionRedis call.token call.input store)) ∧
      RotationHolds session (service.refresh sessionRedis call.token call.input store).1.toOption
        (service.refresh sessionRedis call.token call.input store).2 calls

variable {service} {Store : Type} {repository : SessionRepository Store}

/-- A live session with another hash: the family is revoked. -/
theorem refresh_of_mismatch {token : String} {input : RefreshInput} {store : Store}
    {sessionID : Uuid} {session : Session} (validated : validateRefreshToken token = .ok sessionID)
    (read : repository.getByID input.checkedAt sessionID store = .ok session)
    (live : ¬ (session.isRevoked ∨ session.expiresAt < input.checkedAt))
    (mismatch : service.hash token ≠ session.refreshTokenHash) :
    service.refresh repository token input store =
      match repository.revokeFamily input.checkedAt session.tokenFamily store with
      | .ok next => (.error .refreshReuse, next)
      | .error _ => (.error .refreshReuse, store) := by
  cases revoked : repository.revokeFamily input.checkedAt session.tokenFamily store <;>
    simp only [refresh, validated, read, if_neg live, if_pos mismatch, revoked]

/-- A refresh that succeeds has matched the hash that was stored. -/
theorem refresh_ok_hash {token : String} {input : RefreshInput} {store next : Store}
    {pair : TokenPair}
    (succeeded : service.refresh repository token input store = (.ok pair, next)) :
    ∃ sessionID session, repository.getByID input.checkedAt sessionID store = .ok session ∧
      service.hash token = session.refreshTokenHash := by
  unfold refresh at succeeded
  split at succeeded
  · cases succeeded
  rename_i sessionID _
  split at succeeded
  · cases succeeded
  rename_i session read
  split at succeeded
  · cases succeeded
  split at succeeded
  · split at succeeded <;> cases succeeded
  rename_i matched
  exact ⟨sessionID, session, read, not_not.mp matched⟩

/-- Over the installed store no refresh succeeds, whatever the store holds. -/
theorem refresh_sessionRedis_ne_ok (token : String) (input : RefreshInput) (store : RedisStore)
    (pair : TokenPair) : (service.refresh sessionRedis token input store).1 ≠ .ok pair := by
  cases outcome : service.refresh sessionRedis token input store with
  | mk result next =>
      rintro ⟨rfl⟩
      obtain ⟨sessionID, session, read, matched⟩ := refresh_ok_hash outcome
      rw [SessionRedis.getByID_hash read] at matched
      exact refreshTokenHash_ne_empty service.sum256 token matched

/-- After a call that returned no pair nothing more is owed. -/
theorem rotationHolds_none (session : Session) (store : RedisStore) (calls : List RefreshCall) :
    service.RotationHolds session none store calls := by
  induction calls generalizing store with
  | nil => trivial
  | cons call calls ih =>
      refine ⟨fun presented => (Option.some_ne_none _ presented.symm).elim, ?_⟩
      cases outcome : (service.refresh sessionRedis call.token call.input store).1 with
      | error _ => exact ih _
      | ok pair => exact (refresh_sessionRedis_ne_ok call.token call.input store pair outcome).elim

/-- Rotation holds after a login exactly when the first call does not present,
in time, the token that the login returned. -/
theorem rotationHolds_iff {request : LoginRequest} {input : LoginInput}
    {world next : World RedisStore} {user : User} {pair : TokenPair}
    (found : world.users.getByEmail (service.toLower (service.trimSpace request.email)) = some user)
    (loggedIn : service.login sessionRedis request input world = (.ok pair, next))
    (calls : List RefreshCall) :
    service.RotationHolds (service.newSession user pair request input) (some pair) next.sessions
        calls ↔
      ∀ call, calls.head? = some call → call.token = refreshTokenText input.sessionID input.secret →
        ¬ call.InTime user.id (input.now + service.refreshTTL) := by
  obtain ⟨rfl, -⟩ := login_ok_of_found found loggedIn
  cases calls with
  | nil => simp [RotationHolds]
  | cons call calls =>
      constructor
      · rintro ⟨served, -⟩ first ⟨rfl⟩ presented inTime
        obtain ⟨renewer, -, renewed⟩ := (served (congrArg some presented.symm) inTime).renewed
        exact refresh_sessionRedis_ne_ok _ _ _ _ renewed
      · intro unowed
        refine ⟨fun presented inTime => ?_, ?_⟩
        · exact (unowed call rfl (Option.some.inj presented).symm inTime).elim
        · cases outcome : (service.refresh sessionRedis call.token call.input next.sessions).1 with
          | error _ => exact rotationHolds_none _ _ _
          | ok renewed =>
              exact (refresh_sessionRedis_ne_ok call.token call.input _ renewed outcome).elim

/-- The condition is met when none of the session's tokens is presented. -/
theorem rotationHolds_foreign :
    ∃ pair next,
      Installed.service.login sessionRedis Installed.loginRequest Installed.loginInput
        (Installed.world RedisStore.empty) = (.ok pair, next) ∧
      Installed.service.RotationHolds
        (Installed.service.newSession Installed.user pair Installed.loginRequest
          Installed.loginInput)
        (some pair) next.sessions [⟨"foreign", Installed.refreshInput (60 * second) 6⟩] := by
  obtain ⟨pair, next, loggedIn⟩ : ∃ pair next,
      Installed.service.login sessionRedis Installed.loginRequest Installed.loginInput
        (Installed.world RedisStore.empty) = (.ok pair, next) := ⟨_, _, rfl⟩
  refine ⟨pair, next, loggedIn, (rotationHolds_iff rfl loggedIn _).mpr ?_⟩
  rintro call ⟨rfl⟩ presented
  exact absurd presented (by decide)

/-- What becomes of the newest token instead: the call reports its reuse and
deletes the session's record. -/
theorem refresh_newest_revokes {request : LoginRequest} {input : LoginInput}
    {world next : World RedisStore} {user : User} {pair : TokenPair}
    (found : world.users.getByEmail (service.toLower (service.trimSpace request.email)) = some user)
    (loggedIn : service.login sessionRedis request input world = (.ok pair, next))
    (call : RefreshInput) (later : Time)
    (live : call.checkedAt + second ≤ input.now + service.refreshTTL) :
    ∃ store, service.refresh sessionRedis pair.refreshToken call next.sessions =
        (.error .refreshReuse, store) ∧
      SessionRedis.getByID later input.sessionID store = .error .sessionNotFound := by
  obtain ⟨generated, created⟩ := login_ok_of_found found loggedIn
  generalize stored : service.newSession user pair request input = session at created
  have id : session.id = input.sessionID := by rw [← stored]; rfl
  have expiry : session.expiresAt = input.now + service.refreshTTL := by rw [← stored]; rfl
  have unrevoked : session.isRevoked = false := by rw [← stored]; rfl
  rw [← expiry] at live
  have read : sessionRedis.getByID call.checkedAt input.sessionID next.sessions =
      .ok { session with refreshTokenHash := "" } := by
    rw [← id]
    exact SessionRedis.getByID_create created (SessionRedis.lt_add_truncated (by decide)
      (Int.le_trans (Int.add_le_add_left (by decide) _) live))
  obtain ⟨store, revoked, absent⟩ := SessionRedis.revokeFamily_member
    (SessionRedis.sMembers_create created live)
  rw [id] at absent
  have validated : validateRefreshToken pair.refreshToken = .ok input.sessionID := by
    rw [generated]
    exact validateRefreshToken_refreshTokenText _ _
  have alive : ¬ (session.isRevoked ∨ session.expiresAt < call.checkedAt) := by
    rw [unrevoked]
    rintro (revoked | expired)
    · cases revoked
    · exact Int.not_le.mpr expired
        (Int.le_trans (Int.le_add_of_nonneg_right (by decide)) live)
  refine ⟨store, ?_, absent⟩
  rw [refresh_of_mismatch validated read alive
    (refreshTokenHash_ne_empty service.sum256 pair.refreshToken)]
  simp only [show sessionRedis.revokeFamily call.checkedAt session.tokenFamily next.sessions =
    .ok store from revoked]

/-- A login and one refresh that presents its token within a minute. -/
theorem rotation_fails :
    ∃ pair next,
      Installed.service.login sessionRedis Installed.loginRequest Installed.loginInput
        (Installed.world RedisStore.empty) = (.ok pair, next) ∧
      ¬ Installed.service.RotationHolds
        (Installed.service.newSession Installed.user pair Installed.loginRequest
          Installed.loginInput)
        (some pair) next.sessions [⟨pair.refreshToken, Installed.refreshInput (60 * second) 6⟩] := by
  refine ⟨_, _, rfl, fun holds => ?_⟩
  obtain ⟨renewer, -, renewed⟩ := (holds.1 rfl ⟨by decide, by decide, by decide,
    Installed.user, rfl, rfl⟩).renewed
  exact refresh_sessionRedis_ne_ok _ _ _ _ renewed

end AuthService
end Sentinel.Auth
