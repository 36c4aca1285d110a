import Sentinel.Auth.Registration
import Sentinel.Wire.Http

/-!
# A registration and the login after it

`RegisterUser` as one call, over the libraries that it shares with `Login`:
bcrypt and the two text functions that normalize an email. A valid password of
at most 72 bytes is registered, and logs in under every spelling of the email that
is normalized like it.
-/

namespace Sentinel.Auth

open Sentinel.Wire Sentinel.Postgres Sentinel.Semantics

/-- What one call of `RegisterUser` draws from its environment. -/
structure RegisterInput where
  salt : List UInt8
  id : Uuid
  now : Time
  eventID : Uuid
  publishedAt : Time

namespace Registrar

/-- `AuthService.RegisterUser`, with a user table that answers every statement. -/
def registerUser {Store : Type} (registrar : Registrar) (request : RegisterRequest)
    (input : RegisterInput) (world : World Store) : Except RegisterError User × World Store :=
  let email := registrar.toLower (registrar.trimSpace request.email)
  if !email.toList.contains '@' || 255 < email.utf8ByteSize then
    (.error (.domain .invalidEmail), world)
  else match validatePassword request.password with
    | .error error => (.error (.domain error), world)
    | .ok () =>
        match registrar.generateFromPassword request.password 12 input.salt with
        | none => (.error .hashing, world)
        | some hash =>
            let user := newUser email hash request.fullName world.users.count input.id
            match world.users.create input.now user with
            | .error error => (.error (.statement error), world)
            | .ok users =>
                (.ok user,
                  { world with
                    users := users
                    events := world.events ++ [⟨input.eventID, .userRegistered, input.publishedAt,
                      user.id, user.email, request.ipAddress⟩] })

/-- A request that passes every check is inserted. -/
theorem registerUser_of_created {Store : Type} {registrar : Registrar} {request : RegisterRequest}
    {input : RegisterInput} {world : World Store} {email hash : String} {users : Users}
    (normal : registrar.toLower (registrar.trimSpace request.email) = email)
    (addressed : ¬ (!email.toList.contains '@' || 255 < email.utf8ByteSize))
    (valid : validatePassword request.password = .ok ())
    (hashed : registrar.generateFromPassword request.password 12 input.salt = some hash)
    (created : world.users.create input.now
      (newUser email hash request.fullName world.users.count input.id) = .ok users) :
    registrar.registerUser request input world =
      (.ok (newUser email hash request.fullName world.users.count input.id),
        ⟨users, world.sessions, world.events ++ [⟨input.eventID, .userRegistered,
          input.publishedAt, input.id, email, request.ipAddress⟩]⟩) := by
  subst normal
  simp only [registerUser, if_neg addressed, valid, hashed, created]
  rfl

/-- The steps of a call that nothing disturbs. -/
def registerLabels (request : RegisterRequest) (input : RegisterInput) : List RegisterLabel :=
  [.begin 0 request input.salt, .count 0 input.id, .insert 0 input.now,
    .publish 0 input.eventID input.publishedAt]

/-- Undisturbed, the steps of a registration compute `registerUser`. -/
theorem exec_registerLabels {Store : Type} {registrar : Registrar} {request : RegisterRequest}
    {input : RegisterInput} {world after : World Store} {user : User}
    (registered : registrar.registerUser request input world = (.ok user, after)) :
    ∃ state, (registerMachine registrar).exec ⟨world.users, fun _ => none, world.events⟩
        (registerLabels request input) = some state ∧
      state.users = after.users ∧ state.events = after.events ∧
      state.phase 0 = some (.returned (.ok user)) := by
  simp only [registerUser] at registered
  split at registered
  · cases registered
  rename_i addressed
  split at registered
  · cases registered
  rename_i valid
  split at registered
  · cases registered
  rename_i hash hashed
  split at registered
  · cases registered
  rename_i users created
  cases registered
  have prepared : registrar.prepare request input.salt =
      .counting (registrar.toLower (registrar.trimSpace request.email)) hash request.fullName := by
    simp only [prepare, if_neg addressed, valid, hashed]
  simp [registerLabels, Machine.exec, registerMachine, RegisterState.phase, RegisterState.advance,
    prepared, created]

end Registrar

/-- What both calls use of their libraries: bcrypt, which takes at most 72 bytes,
writes 60 characters without a null and knows a password by its own hash, and the
mapping of letters to lower case, which neither makes nor removes white space.
`upper` is the opposite mapping, which the calls do not use. -/
structure PasswordLibrary where
  lower : Char → Char
  upper : Char → Char
  generateFromPassword : String → Nat → List UInt8 → Option String
  compareHashAndPassword : String → String → Bool
  isSpace_lower : ∀ char, isSpace (lower char) = isSpace char
  generate_isSome : ∀ password salt,
    (generateFromPassword password 12 salt).isSome ↔ password.utf8ByteSize ≤ 72
  length_hash : ∀ {password salt hash}, generateFromPassword password 12 salt = some hash →
    hash.length = 60
  hash_plain : ∀ {password salt hash}, generateFromPassword password 12 salt = some hash →
    Char.ofNat 0 ∉ hash.toList
  compare_hash : ∀ {password salt hash}, generateFromPassword password 12 salt = some hash →
    compareHashAndPassword hash password = true

namespace PasswordLibrary

variable (library : PasswordLibrary)

/-- `strings.ToLower` -/
def toLower (text : String) : String := String.ofList (text.toList.map library.lower)

/-- The email as both calls look it up. -/
def normalized (email : String) : String := library.toLower (trimSpace email)

def registrar : Registrar := ⟨trimSpace, library.toLower, library.generateFromPassword⟩

def service (tokens : JWTTokenService) (sum256 : String → Digest) (refreshTTL : Time) :
    AuthService :=
  ⟨tokens, sum256, library.compareHashAndPassword, trimSpace, library.toLower, refreshTTL⟩

/-- One is the other with another letter case. -/
def CaseVariant (char other : Char) : Prop :=
  other = char ∨ other = library.upper char ∨ other = library.lower char ∨
    char = library.upper other ∨ char = library.lower other

/-- The email with other letter case or other white space around it. -/
def IsVariant (email variant : String) : Prop :=
  ∃ left core right, variant.toList = left ++ core ++ right ∧
    (∀ char ∈ left, isSpace char) ∧ (∀ char ∈ right, isSpace char) ∧
    List.Forall₂ library.CaseVariant (trimBoth isSpace email.toList) core

variable {library}

/-- The address is trimmed and lower-cased character by character. -/
theorem normalized_eq (email : String) :
    library.normalized email =
      String.ofList (trimBoth isSpace (email.toList.map library.lower)) := by
  rw [normalized, toLower, trimSpace, String.toList_ofList, trimBoth_map library.isSpace_lower]

/-- A variant is normalized like the email if each of the email's letters has one lower
case. -/
theorem normalized_variant {email variant : String} (same : library.IsVariant email variant)
    (folds : ∀ char ∈ trimBoth isSpace email.toList, ∀ other,
      library.CaseVariant char other → library.lower other = library.lower char) :
    library.normalized variant = library.normalized email := by
  obtain ⟨left, core, right, parts, before, after, variants⟩ := same
  have core_eq : core.map library.lower =
      (trimBoth isSpace email.toList).map library.lower := by
    generalize trimBoth isSpace email.toList = letters at variants folds
    clear parts
    induction variants with
    | nil => rfl
    | cons variant _ ih =>
        obtain ⟨first, rest⟩ := List.forall_mem_cons.mp folds
        rw [List.map_cons, List.map_cons, first _ variant, ih rest]
  have spaces {blank : List Char} (spaced : ∀ char ∈ blank, isSpace char) :
      ∀ char ∈ blank.map library.lower, isSpace char := by
    intro char member
    obtain ⟨original, listed, rfl⟩ := List.mem_map.mp member
    rw [library.isSpace_lower]
    exact spaced original listed
  rw [normalized_eq, normalized_eq, parts, List.map_append, List.map_append,
    trimBoth_padded (spaces before) (spaces after), core_eq, ← trimBoth_map library.isSpace_lower,
    trimBoth_trimBoth]

end PasswordLibrary

/-- A registration that has nothing to be refused for but its password. -/
structure Registrable (library : PasswordLibrary) (users : Users) (request : RegisterRequest)
    (id : Uuid) : Prop where
  addressed : '@' ∈ (library.normalized request.email).toList
  short : (library.normalized request.email).utf8ByteSize ≤ 255
  untaken : ∀ user ∈ users, user.email ≠ library.normalized request.email
  fresh : ∀ user ∈ users, user.id ≠ id
  named : ∃ fullName, fitVarchar 255 request.fullName = .ok fullName

/-- A short text without NUL is stored as it is. -/
theorem fitVarchar_of_plain {limit : Nat} {text : String} (plain : Char.ofNat 0 ∉ text.toList)
    (short : text.length ≤ limit) : fitVarchar limit text = .ok text := by
  simp only [fitVarchar, fitText, if_neg plain, bind, Except.bind, if_pos short]

/-- A text with NUL is refused. -/
theorem fitVarchar_of_null (limit : Nat) {text : String} (null : Char.ofNat 0 ∈ text.toList) :
    fitVarchar limit text = .error .untranslatableCharacter := by
  simp only [fitVarchar, fitText, if_pos null, bind, Except.bind]

section

variable {Store : Type} {library : PasswordLibrary} {request : RegisterRequest}
  {input : RegisterInput} {world : World Store}

/-- The row of a user who has just been registered. -/
def registeredRow (email hash fullName : String) (role : Role) (id : Uuid) (now : Time) : User where
  id := id
  email := email
  passwordHash := hash
  fullName := fullName
  role := role
  isActive := true
  emailVerified := false
  createdAt := now
  updatedAt := now
  lastLoginAt := none
  failedLoginCount := 0
  lockedUntil := none

/-- A row that fits its columns and is new is inserted. -/
theorem create_of_fits {users : Users} (now : Time) (user : User) {fullName : String}
    (email : fitVarchar 255 user.email = .ok user.email)
    (hash : fitVarchar 255 user.passwordHash = .ok user.passwordHash)
    (named : fitVarchar 255 user.fullName = .ok fullName)
    (fresh : ∀ other ∈ users, other.id ≠ user.id)
    (untaken : ∀ other ∈ users, other.email ≠ user.email) :
    users.create now user =
      .ok (users ++ [registeredRow user.email user.passwordHash fullName user.role user.id now]) := by
  have noID : ¬ users.any (fun other => decide (other.id = user.id)) := by
    simpa using fresh
  have noEmail : ¬ users.any (fun other => decide (other.email = user.email)) := by
    simpa using untaken
  simp only [Users.create, email, hash, named, bind, Except.bind, if_neg noID, if_neg noEmail]
  rfl

/-- What the first check makes of a registrable email. -/
theorem Registrable.accepted (registrable : Registrable library world.users request input.id) :
    ¬ (!(library.normalized request.email).toList.contains '@' ||
      decide (255 < (library.normalized request.email).utf8ByteSize)) := by
  have short := registrable.short
  simp [registrable.addressed]
  omega

/-- A request that meets every check creates its user. -/
theorem registerUser_ok (registrable : Registrable library world.users request input.id)
    (valid : validatePassword request.password = .ok ())
    (hashable : request.password.utf8ByteSize ≤ 72)
    (plain : Char.ofNat 0 ∉ (library.normalized request.email).toList) :
    ∃ user hash fullName role events,
      library.registrar.registerUser request input world =
        (.ok user, ⟨world.users ++ [registeredRow (library.normalized request.email) hash fullName
          role input.id input.now], world.sessions, events⟩) ∧
        library.compareHashAndPassword hash request.password = true := by
  obtain ⟨hash, hashed⟩ := Option.isSome_iff_exists.mp
    ((library.generate_isSome request.password input.salt).mpr hashable)
  obtain ⟨fullName, named⟩ := registrable.named
  have email : fitVarchar 255 (library.normalized request.email) =
      .ok (library.normalized request.email) :=
    fitVarchar_of_plain plain ((length_le_utf8ByteSize _).trans registrable.short)
  have stored : fitVarchar 255 hash = .ok hash := by
    refine fitVarchar_of_plain (library.hash_plain hashed) ?_
    rw [library.length_hash hashed]
    decide
  have created := create_of_fits input.now
    (newUser (library.normalized request.email) hash request.fullName world.users.count input.id)
    email stored named registrable.fresh registrable.untaken
  refine ⟨newUser (library.normalized request.email) hash request.fullName world.users.count
    input.id, hash, fullName, if world.users.count = 0 then .admin else .user,
    world.events ++ [⟨input.eventID, .userRegistered, input.publishedAt, input.id,
      library.normalized request.email, request.ipAddress⟩], ?_, library.compare_hash hashed⟩
  exact Registrar.registerUser_of_created rfl registrable.accepted valid hashed created

/-- A password over 72 bytes is refused, and so is an email with a null. -/
theorem hashable_of_registerUser {user : User} {after : World Store}
    (registered : library.registrar.registerUser request input world = (.ok user, after)) :
    request.password.utf8ByteSize ≤ 72 ∧
      Char.ofNat 0 ∉ (library.normalized request.email).toList := by
  simp only [Registrar.registerUser] at registered
  split at registered
  · cases registered
  split at registered
  · cases registered
  split at registered
  · cases registered
  rename_i hash hashed
  split at registered
  · cases registered
  rename_i users created
  constructor
  · exact (library.generate_isSome request.password input.salt).mp
      (Option.isSome_iff_exists.mpr ⟨hash, hashed⟩)
  · intro null
    have refused := fitVarchar_of_null 255 null
    rw [PasswordLibrary.normalized] at refused
    simp only [Users.create, newUser, bind, Except.bind, PasswordLibrary.registrar,
      refused] at created
    cases created

/-- An open account and its password give a token pair, if the session can be stored. -/
theorem login_of_matched {service : AuthService} {repository : SessionRepository Store}
    {request : LoginRequest} {input : LoginInput} {user : User} {sessions : Store}
    (found : world.users.getByEmail (service.toLower (service.trimSpace request.email)) = some user)
    (unlocked : user.isLocked input.now = false) (active : user.isActive)
    (matched : service.compareHashAndPassword user.passwordHash request.password = true)
    (created : repository.create input.storedAt (service.newSession user
      (service.tokens.generateTokenPair user input.sessionID input.now input.secret) request input)
      world.sessions = .ok sessions) :
    ∃ pair next, service.login repository request input world = (.ok pair, next) := by
  simp only [AuthService.login, found, unlocked, active, matched, created]
  exact ⟨_, _, rfl⟩

/-- Redis stores a session that has not expired yet. -/
theorem sessionRedis_create {now : Time} (session : Session) (store : RedisStore)
    (live : now < session.expiresAt) : ∃ next, sessionRedis.create now session store = .ok next := by
  have positive : ¬ session.expiresAt - now ≤ 0 := Int.not_le.mpr (Int.sub_pos.mpr live)
  exact ⟨_, if_neg positive⟩

/-- A login to the account that was just registered. -/
theorem login_registered {users : Users} {email hash fullName : String} {role : Role} {id : Uuid}
    {now : Time} {sessions : RedisStore} {events : List AuthEvent} {service : AuthService}
    {request : LoginRequest} {input : LoginInput}
    (untaken : ∀ user ∈ users, user.email ≠ email)
    (named : service.toLower (service.trimSpace request.email) = email)
    (matched : service.compareHashAndPassword hash request.password = true)
    (prompt : input.storedAt < input.now + service.refreshTTL) :
    ∃ pair next, service.login sessionRedis request input
      ⟨users ++ [registeredRow email hash fullName role id now], sessions, events⟩ =
        (.ok pair, next) := by
  have nobody : users.find? (fun user => decide (user.email = email)) = none :=
    List.find?_eq_none.mpr fun user member => by simpa using untaken user member
  have found : Users.getByEmail (users ++ [registeredRow email hash fullName role id now])
      (service.toLower (service.trimSpace request.email)) =
        some (registeredRow email hash fullName role id now) := by
    rw [Users.getByEmail, named, List.find?_append, nobody]
    simp [registeredRow]
  obtain ⟨next, created⟩ := sessionRedis_create
    (service.newSession (registeredRow email hash fullName role id now)
      (service.tokens.generateTokenPair (registeredRow email hash fullName role id now)
        input.sessionID input.now input.secret) request input) sessions prompt
  exact login_of_matched found rfl rfl matched created

end

end Sentinel.Auth
