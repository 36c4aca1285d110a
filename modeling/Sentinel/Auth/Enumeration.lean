import Sentinel.Auth.Lockout
import Sentinel.Wire.Http

/-!
# What failed logins tell about an account

A wrong password for an account is answered like a login with an email that
nobody has registered, until the account's lock is held or when the account is
inactive. `responses_eq_unregistered_iff` says after which attempts that is.
-/

namespace Sentinel.Auth

open Sentinel.Wire

namespace AuthHandler

/-- How `AuthHandler.Login` answers what the service returns. -/
def loginResponse : Except AuthError TokenPair → Except HTTPError TokenPair
  | .ok pair => .ok pair
  | .error error =>
      if error = .invalidPassword ∨ error = .accountLocked ∨ error = .accountInactive then
        .error ⟨401, error.message⟩
      else .error ⟨500, "login failed"⟩

variable {Store : Type} (service : AuthService) (repository : SessionRepository Store)

/-- `AuthHandler.Login`, when the body decodes to a request or to an error. -/
def login (body : Except String LoginRequest) (input : LoginInput) (world : World Store) :
    Except HTTPError TokenPair × World Store :=
  match body with
  | .error message => (.error ⟨400, message⟩, world)
  | .ok request =>
      let (result, after) := service.login repository request input world
      (loginResponse result, after)

/-- The responses to a sequence of requests. -/
def responses (world : World Store) :
    List (LoginRequest × LoginInput) → List (Except HTTPError TokenPair)
  | [] => []
  | (request, input) :: later =>
      let (response, after) := login service repository (.ok request) input world
      response :: responses after later

/-- The answer to a login with an email that nobody has registered. -/
def refusal : Except HTTPError TokenPair := .error ⟨401, "invalid email or password"⟩

/-- The same attempt with another email. -/
def naming (email : String) (attempt : LoginRequest × LoginInput) : LoginRequest × LoginInput :=
  ({ attempt.1 with email }, attempt.2)

end AuthHandler

/-! ## The row under wrong passwords -/

namespace User

/-- The row after a wrong password. -/
def afterFailure (user : User) (now : Time) : User :=
  { user with
    failedLoginCount := user.failedLoginCount + 1
    lockedUntil :=
      if 5 ≤ user.failedLoginCount + 1 then some (now + 15 * 60 * second) else user.lockedUntil }

/-- At none of these instants, with a wrong password at each, is the account
inactive or locked. -/
def StaysOpen : User → List Time → Prop
  | _, [] => True
  | user, now :: later =>
      user.isLocked now = false ∧ user.isActive ∧ StaysOpen (user.afterFailure now) later

/-- No lock is set as long as the failures stay below five. -/
theorem isLocked_afterFailure {user : User} (few : user.failedLoginCount + 1 < 5)
    (now later : Time) : (user.afterFailure now).isLocked later = user.isLocked later := by
  unfold isLocked afterFailure
  rw [if_neg (by omega)]

/-- The attempts up to the fifth failure find the account open. -/
theorem staysOpen_of_few {user : User} {instants : List Time} (active : user.isActive)
    (ordered : instants.Pairwise (· ≤ ·))
    (unlocked : ∀ now ∈ instants.head?, user.isLocked now = false)
    (few : user.failedLoginCount + instants.length ≤ 5) : user.StaysOpen instants := by
  induction instants generalizing user with
  | nil => trivial
  | cons now later ih =>
      have here : user.isLocked now = false := unlocked now rfl
      refine ⟨here, active, ih active ordered.of_cons (fun next found => ?_) ?_⟩
      · have member : next ∈ later := List.mem_of_head? found
        have more : 0 < later.length := List.length_pos_of_mem member
        rw [List.length_cons] at few
        rw [isLocked_afterFailure (by omega)]
        exact not_isLocked_mono (List.rel_of_pairwise_cons ordered member) here
      · simp only [afterFailure, List.length_cons] at few ⊢
        omega

end User

/-- A counted failure is seen on the row that is looked up. -/
theorem Users.getByEmail_incrementFailedLogin (users : Users) (now : Time) (email : String) :
    (users.incrementFailedLogin now email 5 15).getByEmail email =
      (users.getByEmail email).map (·.afterFailure now) := by
  rw [incrementFailedLogin, getByEmail_map fun user => by split <;> rfl]
  refine Option.map_congr fun user found => ?_
  exact if_pos (getByEmail_email found)

namespace AuthHandler

section

variable {Store : Type} {service : AuthService} {repository : SessionRepository Store}
  {world : World Store}

/-- An address that is not registered is refused, and nothing changes. -/
theorem login_unregistered {request : LoginRequest} {input : LoginInput}
    (absent : world.users.getByEmail (service.normalized request) = none) :
    login service repository (.ok request) input world = (refusal, world) := by
  rw [AuthService.normalized] at absent
  simp only [login, AuthService.login, absent]
  rfl

/-- A wrong password for an account that is open is answered in the same way. -/
theorem login_open {request : LoginRequest} {input : LoginInput} {row : User}
    (found : world.users.getByEmail (service.normalized request) = some row)
    (wrong : service.compareHashAndPassword row.passwordHash request.password = false)
    (unlocked : row.isLocked input.now = false) (active : row.isActive) :
    ∃ after, login service repository (.ok request) input world = (refusal, after) ∧
      after.users.getByEmail (service.normalized request) = some (row.afterFailure input.now) := by
  have counted : (world.users.incrementFailedLogin input.now (service.normalized request) 5
      15).getByEmail (service.normalized request) = some (row.afterFailure input.now) := by
    rw [Users.getByEmail_incrementFailedLogin, found]
    rfl
  rw [AuthService.normalized] at found counted
  simp only [login, AuthService.login, found, unlocked, active, wrong]
  exact ⟨_, rfl, counted⟩

/-- It is answered differently when the account is locked or inactive. -/
theorem login_closed {request : LoginRequest} {input : LoginInput} {row : User}
    (found : world.users.getByEmail (service.normalized request) = some row)
    (closed : ¬ (row.isLocked input.now = false ∧ row.isActive)) :
    (login service repository (.ok request) input world).1 ≠ refusal := by
  rw [AuthService.normalized] at found
  cases locked : row.isLocked input.now with
  | true =>
      simp only [login, AuthService.login, found, locked]
      exact (by decide : loginResponse (.error .accountLocked) ≠ refusal)
  | false =>
      have inactive : row.isActive = false := by simpa [locked] using closed
      simp only [login, AuthService.login, found, locked, inactive]
      exact (by decide : loginResponse (.error .accountInactive) ≠ refusal)

/-- The first answer, and then those in the world that it leaves. -/
theorem responses_cons {request : LoginRequest} {input : LoginInput} {after : World Store}
    {response : Except HTTPError TokenPair} (later : List (LoginRequest × LoginInput))
    (answered : login service repository (.ok request) input world = (response, after)) :
    responses service repository world ((request, input) :: later) =
      response :: responses service repository after later := by
  simp only [responses, answered]

/-- An email that is not registered is always refused in the same words. -/
theorem responses_unregistered {attempts : List (LoginRequest × LoginInput)}
    (absent : ∀ attempt ∈ attempts,
      world.users.getByEmail (service.normalized attempt.1) = none) :
    responses service repository world attempts = attempts.map fun _ => refusal := by
  induction attempts with
  | nil => rfl
  | cons attempt later ih =>
      obtain ⟨request, input⟩ := attempt
      have first := absent _ List.mem_cons_self
      have rest := ih fun attempt member => absent attempt (List.mem_cons_of_mem _ member)
      rw [responses_cons later (login_unregistered first), rest, List.map_cons]

/-- Wrong passwords are all refused in those words exactly when they find the
account open. -/
theorem responses_eq_refusals_iff {email : String} {row : User}
    {attempts : List (LoginRequest × LoginInput)}
    (found : world.users.getByEmail email = some row)
    (named : ∀ attempt ∈ attempts, service.normalized attempt.1 = email)
    (wrong : ∀ attempt ∈ attempts,
      service.compareHashAndPassword row.passwordHash attempt.1.password = false) :
    (responses service repository world attempts = attempts.map fun _ => refusal) ↔
      row.StaysOpen (attempts.map (·.2.now)) := by
  induction attempts generalizing world row with
  | nil => simp [responses, User.StaysOpen]
  | cons attempt later ih =>
      obtain ⟨request, input⟩ := attempt
      obtain rfl := named _ List.mem_cons_self
      have mistaken := wrong _ List.mem_cons_self
      by_cases opened : row.isLocked input.now = false ∧ row.isActive
      · obtain ⟨after, answered, counted⟩ :=
          @login_open _ _ repository _ _ _ _ found mistaken opened.1 opened.2
        have rest := ih counted (fun attempt member => named attempt (List.mem_cons_of_mem _ member))
          fun attempt member => wrong attempt (List.mem_cons_of_mem _ member)
        rw [responses_cons later answered, List.map_cons, List.map_cons, User.StaysOpen,
          List.cons.injEq, rest]
        simp [opened.1, opened.2]
      · rw [responses_cons later rfl, List.map_cons, List.map_cons, User.StaysOpen,
          List.cons.injEq]
        constructor
        · rintro ⟨same, -⟩
          exact absurd same (login_closed found opened)
        · rintro ⟨unlocked, active, -⟩
          exact absurd ⟨unlocked, active⟩ opened

end

/-- Wrong passwords for an email are answered as they are for an unregistered
one exactly when there is no account, or it is active and the failures so far
have not locked it at any of the attempts. -/
theorem responses_eq_unregistered_iff {Store : Type} (service : AuthService)
    (repository : SessionRepository Store) (world : World Store) (email other : String)
    (unregistered : world.users.getByEmail (service.toLower (service.trimSpace other)) = none)
    (attempts : List (LoginRequest × LoginInput))
    (named : ∀ attempt ∈ attempts, service.normalized attempt.1 = email)
    (wrong : ∀ row, world.users.getByEmail email = some row → ∀ attempt ∈ attempts,
      service.compareHashAndPassword row.passwordHash attempt.1.password = false) :
    responses service repository world attempts =
        responses service repository world (attempts.map (naming other)) ↔
      ∀ row, world.users.getByEmail email = some row →
        row.StaysOpen (attempts.map (·.2.now)) := by
  have refused : responses service repository world (attempts.map (naming other)) =
      attempts.map fun _ => refusal := by
    rw [responses_unregistered, List.map_map]
    · rfl
    · intro attempt member
      obtain ⟨original, -, rfl⟩ := List.mem_map.mp member
      exact unregistered
  rw [refused]
  cases found : world.users.getByEmail email with
  | none =>
      have alike : responses service repository world attempts =
          attempts.map fun _ => refusal := by
        refine responses_unregistered fun attempt member => ?_
        rw [named attempt member, found]
      simp [alike]
  | some row =>
      rw [responses_eq_refusals_iff found named (wrong row found)]
      simp

/-- So many attempts with a wrong password within a second. -/
def guesses (count : Nat) : List (LoginRequest × LoginInput) :=
  List.replicate count
    ({ Installed.loginRequest with password := "Wrong-Horse-99" }, Installed.loginInput)

/-- Five wrong passwords are answered as for an address that is not registered. -/
theorem responses_fiveGuesses :
    responses Installed.service sessionRedis (Installed.world .empty) (guesses 5) =
      responses Installed.service sessionRedis (Installed.world .empty)
        ((guesses 5).map (naming "bob@example.com")) := by
  refine (responses_eq_unregistered_iff Installed.service sessionRedis (Installed.world .empty)
    "ada@example.com" "bob@example.com" rfl (guesses 5) ?_ ?_).mpr ?_
  · intro attempt member
    rw [List.eq_of_mem_replicate member]
    rfl
  · rintro row ⟨⟩ attempt member
    rw [List.eq_of_mem_replicate member]
    decide
  · rintro row ⟨⟩
    exact User.staysOpen_of_few rfl (by decide) (by decide) (by decide)

/-- The sixth guess is told of the lock. -/
theorem responses_fails :
    ¬ ∀ (service : AuthService) (repository : SessionRepository RedisStore)
      (world : World RedisStore) (email other : String),
      world.users.getByEmail (service.toLower (service.trimSpace other)) = none →
      ∀ attempts : List (LoginRequest × LoginInput),
        (∀ attempt ∈ attempts, service.normalized attempt.1 = email) →
        (∀ row, world.users.getByEmail email = some row → ∀ attempt ∈ attempts,
          service.compareHashAndPassword row.passwordHash attempt.1.password = false) →
        responses service repository world attempts =
          responses service repository world (attempts.map (naming other)) := by
  intro always
  have same := always Installed.service sessionRedis (Installed.world .empty) "ada@example.com"
    "bob@example.com" rfl (guesses 6)
    (fun attempt member => by rw [List.eq_of_mem_replicate member]; rfl)
    (by
      rintro row ⟨⟩ attempt member
      rw [List.eq_of_mem_replicate member]
      decide)
  exact absurd same (by decide +kernel)

end AuthHandler
end Sentinel.Auth
