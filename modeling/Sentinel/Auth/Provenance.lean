import Mathlib.Data.List.Nodup
import Sentinel.Auth.Lockout
import Sentinel.Auth.Registration

/-!
# Where access tokens come from

Registrations, logins, refreshes and logouts of any number of clients, interleaved at
their statements and store calls, any of which may fail. Besides the user table and the
session store, the state keeps which sessions logins have opened and which access tokens
were signed. `provenance_of_run` follows every token back to a password.
-/

namespace Sentinel.Auth

open Sentinel.Wire Sentinel.Postgres Sentinel.Semantics

/-! ## The columns that no statement updates -/

structure Account where
  id : Uuid
  email : String
  passwordHash : String
  role : Role

def User.account (user : User) : Account := ⟨user.id, user.email, user.passwordHash, user.role⟩

namespace Users

def accounts (users : Users) : List Account := users.map User.account

variable {users after : Users}

/-- A statement that changes no account leaves the accounts as they are. -/
theorem accounts_map {change : User → User} (keeps : ∀ user, (change user).account = user.account) :
    Users.accounts (users.map change) = users.accounts := by
  rw [accounts, accounts, List.map_map]
  exact List.map_congr_left fun user _ => keeps user

/-- Counting a failure is such a statement. -/
theorem accounts_incrementFailedLogin (now : Time) (email : String) (maxAttempts minutes : Int) :
    (users.incrementFailedLogin now email maxAttempts minutes).accounts = users.accounts :=
  accounts_map fun user => by split <;> rfl

theorem accounts_resetFailedLogin (id : Uuid) :
    (users.resetFailedLogin id).accounts = users.accounts :=
  accounts_map fun user => by split <;> rfl

theorem accounts_updateLastLogin (now : Time) (id : Uuid) :
    (users.updateLastLogin now id).accounts = users.accounts :=
  accounts_map fun user => by split <;> rfl

/-- A user that is found by address has an account. -/
theorem account_of_getByEmail {email : String} {user : User}
    (found : users.getByEmail email = some user) : user.account ∈ users.accounts :=
  List.mem_map_of_mem (List.mem_of_find?_eq_some found)

/-- So has one that is found by id. -/
theorem account_of_getByID {id : Uuid} {user : User} (found : users.getByID id = some user) :
    user.account ∈ users.accounts ∧ user.id = id :=
  ⟨List.mem_map_of_mem (List.mem_of_find?_eq_some found), by simpa using List.find?_some found⟩

/-- An INSERT adds one account, under an id that no row had. -/
theorem accounts_create {now : Time} {user : User} (created : users.create now user = .ok after) :
    ∃ account, after.accounts = users.accounts ++ [account] ∧
      ∀ other ∈ users.accounts, other.id ≠ account.id := by
  simp only [create, bind, Except.bind] at created
  split at created
  · cases created
  split at created
  · cases created
  split at created
  · cases created
  split at created
  · cases created
  rename_i fresh
  split at created
  · cases created
  · cases created
    refine ⟨_, by rw [accounts, List.map_append, List.map_singleton]; rfl, ?_⟩
    rintro _ member same
    obtain ⟨other, listed, rfl⟩ := List.mem_map.mp member
    exact fresh (List.any_eq_true.mpr ⟨other, listed, decide_eq_true same⟩)

/-- The administrators are counted on the accounts. -/
theorem admins_eq_accounts (users : Users) :
    users.admins = users.accounts.countP (·.role = .admin) := by
  rw [admins, accounts, List.countP_map]
  rfl

end Users

/-! ## Session stores that keep owners apart -/

/-- A repository that hands out no session but for the user it was stored for. `Holds` says
that every session in a store belongs to its user under the given relation. -/
structure OwnedRepository (Store : Type) extends SessionRepository Store where
  empty : Store
  Holds : (Uuid → Uuid → Prop) → Store → Prop
  holds_empty : ∀ owns, Holds owns empty
  holds_mono : ∀ {owns wider : Uuid → Uuid → Prop} {store},
    (∀ id userID, owns id userID → wider id userID) → Holds owns store → Holds wider store
  getByID_owned : ∀ {owns now id store session}, Holds owns store →
    getByID now id store = .ok session → owns session.id session.userID
  create_holds : ∀ {owns now session store next}, Holds owns store →
    owns session.id session.userID → create now session store = .ok next → Holds owns next
  revokeByID_holds : ∀ {owns now id store next}, Holds owns store →
    revokeByID now id store = .ok next → Holds owns next
  revokeFamily_holds : ∀ {owns now family store next}, Holds owns store →
    revokeFamily now family store = .ok next → Holds owns next

namespace RedisStore

/-- Every document that is a session belongs to its user. -/
def Holds (owns : Uuid → Uuid → Prop) (store : RedisStore) : Prop :=
  ∀ key data expiry session, store.strings key = some (data, expiry) →
    Session.unmarshal data = some session → owns session.id session.userID

variable {owns : Uuid → Uuid → Prop} {store : RedisStore}

/-- A store with owned sessions may get one more. -/
theorem Holds.set (holds : store.Holds owns) (now : Time) (key : String) (session : Session)
    (ttl : Time) (owned : owns session.id session.userID) :
    (store.set now key session.marshal ttl).Holds owns := by
  intro other data expiry read stored unmarshalled
  by_cases itself : other = key
  · subst itself
    simp only [RedisStore.set, Function.update_self, Option.some.injEq, Prod.mk.injEq] at stored
    obtain ⟨rfl, _⟩ := stored
    rw [Session.unmarshal_marshal] at unmarshalled
    cases unmarshalled
    exact owned
  · simp only [RedisStore.set, Function.update_of_ne itself] at stored
    exact holds other data expiry read stored unmarshalled

/-- Listing a session in a family stores none. -/
theorem Holds.sAdd (holds : store.Holds owns) (now : Time) (key member : String) (ttl : Time) :
    (store.sAdd now key member ttl).Holds owns := holds

theorem Holds.del (holds : store.Holds owns) (key : String) : (store.del key).Holds owns := by
  intro other data expiry read stored unmarshalled
  by_cases itself : other = key
  · subst itself
    simp [RedisStore.del] at stored
  · simp only [RedisStore.del, Function.update_of_ne itself] at stored
    exact holds other data expiry read stored unmarshalled

theorem Holds.foldl_del (holds : store.Holds owns) (members : List String) :
    (members.foldl (fun store id => store.del (SessionRedis.sessionKey id)) store).Holds owns := by
  induction members generalizing store with
  | nil => exact holds
  | cons member members ih => exact ih (holds.del _)

/-- A session that is read belongs to its user. -/
theorem Holds.getByID (holds : store.Holds owns) {now : Time} {id : Uuid} {session : Session}
    (read : SessionRedis.getByID now id store = .ok session) : owns session.id session.userID := by
  unfold SessionRedis.getByID at read
  split at read
  · cases read
  · rename_i data found
    split at read
    · cases read
    · rename_i unmarshalled
      cases read
      unfold RedisStore.get at found
      split at found
      · rename_i other expiry stored
        split at found
        · cases found
          exact holds _ _ _ _ stored unmarshalled
        · cases found
      · cases found

end RedisStore

/-- The repository that `main` installs keeps owners apart. -/
def ownedRedis : OwnedRepository RedisStore where
  toSessionRepository := sessionRedis
  empty := .empty
  Holds := RedisStore.Holds
  holds_empty owns key data expiry session stored := by cases stored
  holds_mono wider holds key data expiry session stored unmarshalled :=
    wider _ _ (holds key data expiry session stored unmarshalled)
  getByID_owned holds read := holds.getByID read
  create_holds := by
    intro owns now session store next holds owned created
    change SessionRedis.create now session store = .ok next at created
    unfold SessionRedis.create at created
    split at created
    · cases created
    · cases created
      exact (holds.set now _ session _ owned).sAdd now _ _ _
  revokeByID_holds := by
    intro owns now id store next holds revoked
    change SessionRedis.revokeByID now id store = .ok next at revoked
    unfold SessionRedis.revokeByID at revoked
    split at revoked
    · cases revoked
    · rename_i session read
      split at revoked
      · cases revoked
        exact holds.del _
      · cases revoked
        have owned : owns session.id session.userID := holds.getByID read
        exact holds.set now _ { session with isRevoked := true } _ owned
  revokeFamily_holds := by
    intro owns now family store next holds revoked
    change SessionRedis.revokeFamily now family store = .ok next at revoked
    unfold SessionRedis.revokeFamily at revoked
    split at revoked
    · cases revoked
      exact holds
    · cases revoked
      exact (holds.foldl_del _).del _

/-! ## The service with all its callers -/

/-- A session that a login opens, for a row as it was read and with the given password. -/
structure OpenedSession where
  sessionID : Uuid
  user : User
  password : String

/-- An access token that is signed, for a row as it was read. -/
structure Grant where
  user : User
  sessionID : Uuid
  instant : Time

def Grant.claims (tokens : JWTTokenService) (grant : Grant) : CustomClaims :=
  tokens.claims grant.user grant.sessionID grant.instant

structure PendingRefresh where
  token : String
  phase : RefreshPhase

structure Provenance (Store : Type) where
  world : World Store
  registrations : Nat → Option RegisterCall
  logins : Nat → Option LoginCall
  refreshes : Nat → Option PendingRefresh
  opened : List OpenedSession
  grants : List Grant

inductive ProvenanceLabel where
  | register (label : RegisterLabel)
  | login (index : Nat) (request : LoginRequest)
  | loginStep (index : Nat) (input : LoginInput)
  /-- The statement that a call of `Login` waits for fails, and the call goes on. -/
  | loginFault (index : Nat)
  | loginEnds (index : Nat)
  | refresh (index : Nat) (token : String)
  | refreshStep (index : Nat) (now : Time) (secret : Secret)
  | refreshEnds (index : Nat)
  | logout (now : Time) (sessionID : Uuid)

/-- How `Login` goes on after a failed statement. -/
def LoginPhase.afterFault : LoginPhase → LoginPhase
  | .reading => .returned (.error .invalidPassword)
  | .incrementing user => .publishing user .loginFailed (.error .invalidPassword)
  | .resetting user => .updating user
  | .updating user => .issuing user
  | .publishing _ _ result => .returned result
  | .checking user => .checking user
  | .comparing user => .comparing user
  | .issuing user => .issuing user
  | .returned result => .returned result

namespace Provenance

variable {Store : Type}

def start (sessions : Store) : Provenance Store :=
  ⟨⟨[], sessions, []⟩, fun _ => none, fun _ => none, fun _ => none, [], []⟩

/-- The part that registrations read and write. -/
def registering (state : Provenance Store) : RegisterState :=
  ⟨state.world.users, state.registrations, state.world.events⟩

def registered (state : Provenance Store) (next : RegisterState) : Provenance Store :=
  { state with
    world := { state.world with users := next.users, events := next.events }
    registrations := next.calls }

/-- A session belongs to the user whose login has opened it. -/
def Owns (state : Provenance Store) (sessionID userID : Uuid) : Prop :=
  ∃ session ∈ state.opened, session.sessionID = sessionID ∧ session.user.id = userID

variable (service : AuthService) (repository : SessionRepository Store)

def loginStepped (state : Provenance Store) (index : Nat) (call : LoginCall) (input : LoginInput) :
    Provenance Store :=
  let (phase, world) := service.loginStep repository call.request input (call.phase, state.world)
  let moved : Provenance Store :=
    { state with world, logins := Function.update state.logins index (some { call with phase }) }
  match call.phase with
  | .issuing user =>
      { moved with
        opened := ⟨input.sessionID, user, call.request.password⟩ :: state.opened
        grants := ⟨user, input.sessionID, input.now⟩ :: state.grants }
  | _ => moved

def refreshStepped (state : Provenance Store) (index : Nat) (call : PendingRefresh) (now : Time)
    (secret : Secret) : Provenance Store :=
  let (phase, sessions) := service.refreshStep repository call.token
    ⟨now, state.world.users, secret⟩ (call.phase, state.world.sessions)
  let moved : Provenance Store :=
    { state with
      world := { state.world with sessions }
      refreshes := Function.update state.refreshes index (some { call with phase }) }
  match call.phase with
  | .generating session user => { moved with grants := ⟨user, session.id, now⟩ :: state.grants }
  | _ => moved

end Provenance

/-- The auth service with its two stores. -/
def provenanceMachine {Store : Type} (service : AuthService) (registrar : Registrar)
    (repository : SessionRepository Store) : Machine (Provenance Store) ProvenanceLabel where
  step state
    | .register label =>
        ((registerMachine registrar).step state.registering label).map state.registered
    | .login index request =>
        match state.logins index with
        | some _ => none
        | none =>
            some
              { state with logins := Function.update state.logins index (some ⟨request, .reading⟩) }
    | .loginStep index input =>
        (state.logins index).map fun call =>
          state.loginStepped service repository index call input
    | .loginFault index =>
        (state.logins index).map fun call =>
          { state with
            logins := Function.update state.logins index
              (some { call with phase := call.phase.afterFault }) }
    | .loginEnds index => some { state with logins := Function.update state.logins index none }
    | .refresh index token =>
        match state.refreshes index with
        | some _ => none
        | none =>
            some
              { state with
                refreshes := Function.update state.refreshes index (some ⟨token, .validating⟩) }
    | .refreshStep index now secret =>
        (state.refreshes index).map fun call =>
          state.refreshStepped service repository index call now secret
    | .refreshEnds index =>
        some { state with refreshes := Function.update state.refreshes index none }
    | .logout now sessionID =>
        let sessions := (AuthService.logout repository now sessionID state.world.sessions).2
        some { state with world := { state.world with sessions } }

/-! ## What every step keeps -/

/-- What a login knows of the row it has read, and when the password was right. -/
def LoginCall.Sound (service : AuthService) (accounts : List Account) (call : LoginCall) : Prop :=
  match call.phase with
  | .checking user | .comparing user | .incrementing user => user.account ∈ accounts
  | .resetting user | .updating user | .issuing user => user.account ∈ accounts ∧
      service.compareHashAndPassword user.passwordHash call.request.password = true
  | .reading | .publishing _ _ _ | .returned _ => True

/-- What a refresh knows of its session and of the row it has read. -/
def PendingRefresh.Sound (owns : Uuid → Uuid → Prop) (accounts : List Account)
    (call : PendingRefresh) : Prop :=
  match call.phase with
  | .comparing session | .readingUser session | .storing session _ =>
      owns session.id session.userID
  | .generating session user =>
      owns session.id session.userID ∧ user.account ∈ accounts ∧ user.id = session.userID
  | .validating | .reading _ | .revoking _ | .returned _ => True

/-- More accounts do no harm to a login. -/
theorem LoginCall.Sound.mono {service : AuthService} {accounts more : List Account}
    {call : LoginCall} (sound : call.Sound service accounts) (grown : accounts ⊆ more) :
    call.Sound service more := by
  obtain ⟨request, phase⟩ := call
  cases phase with
  | checking user | comparing user | incrementing user => exact grown sound
  | resetting user | updating user | issuing user => exact ⟨grown sound.1, sound.2⟩
  | reading | publishing _ _ _ | returned _ => trivial

theorem PendingRefresh.Sound.mono {owns wider : Uuid → Uuid → Prop} {accounts more : List Account}
    {call : PendingRefresh} (sound : call.Sound owns accounts)
    (widened : ∀ id userID, owns id userID → wider id userID) (grown : accounts ⊆ more) :
    call.Sound wider more := by
  obtain ⟨token, phase⟩ := call
  cases phase with
  | comparing session | readingUser session | storing session _ => exact widened _ _ sound
  | generating session user => exact ⟨widened _ _ sound.1, grown sound.2.1, sound.2.2⟩
  | validating | reading _ | revoking _ | returned _ => trivial

section Calls

variable {Store : Type} {service : AuthService} {repository : SessionRepository Store}

/-- A step of `Login` changes no account, and writes a session only when it issues. -/
theorem loginStep_sound {call : LoginCall} {input : LoginInput} {world after : World Store}
    {phase : LoginPhase} (sound : call.Sound service world.users.accounts)
    (step : service.loginStep repository call.request input (call.phase, world) = (phase, after)) :
    after.users.accounts = world.users.accounts ∧
      LoginCall.Sound service world.users.accounts { call with phase } ∧
      (after.sessions = world.sessions ∨ ∃ user pair, call.phase = .issuing user ∧
        repository.create input.storedAt (service.newSession user pair call.request input)
          world.sessions = .ok after.sessions) := by
  obtain ⟨request, current⟩ := call
  cases current with
  | reading =>
      simp only [AuthService.loginStep] at step
      split at step
      · cases step
        exact ⟨rfl, trivial, .inl rfl⟩
      · rename_i user found
        cases step
        exact ⟨rfl, Users.account_of_getByEmail found, .inl rfl⟩
  | checking user =>
      simp only [AuthService.loginStep] at step
      split at step
      · cases step
        exact ⟨rfl, trivial, .inl rfl⟩
      · split at step
        · cases step
          exact ⟨rfl, trivial, .inl rfl⟩
        · cases step
          exact ⟨rfl, sound, .inl rfl⟩
  | comparing user =>
      simp only [AuthService.loginStep] at step
      split at step
      · cases step
        exact ⟨rfl, sound, .inl rfl⟩
      · rename_i matched
        have right : service.compareHashAndPassword user.passwordHash request.password = true := by
          simpa using matched
        split at step
        · cases step
          exact ⟨rfl, ⟨sound, right⟩, .inl rfl⟩
        · cases step
          exact ⟨rfl, ⟨sound, right⟩, .inl rfl⟩
  | incrementing user =>
      cases step
      exact ⟨Users.accounts_incrementFailedLogin .., trivial, .inl rfl⟩
  | resetting user =>
      cases step
      exact ⟨Users.accounts_resetFailedLogin _, sound, .inl rfl⟩
  | updating user =>
      cases step
      exact ⟨Users.accounts_updateLastLogin .., sound, .inl rfl⟩
  | issuing user =>
      simp only [AuthService.loginStep] at step
      split at step
      · cases step
        exact ⟨rfl, trivial, .inl rfl⟩
      · rename_i sessions created
        cases step
        exact ⟨rfl, trivial, .inr ⟨user, _, rfl, created⟩⟩
  | publishing user eventType result =>
      cases step
      exact ⟨rfl, trivial, .inl rfl⟩
  | returned result =>
      cases step
      exact ⟨rfl, trivial, .inl rfl⟩

/-- A step of `Refresh` keeps to the session that it has read. -/
theorem refreshStep_sound {repository : OwnedRepository Store} {owns : Uuid → Uuid → Prop}
    {call : PendingRefresh} {input : StepInput} {sessions after : Store} {phase : RefreshPhase}
    (sound : call.Sound owns input.users.accounts) (holds : repository.Holds owns sessions)
    (step : service.refreshStep repository.toSessionRepository call.token input
      (call.phase, sessions) = (phase, after)) :
    PendingRefresh.Sound owns input.users.accounts { call with phase } ∧
      repository.Holds owns after := by
  obtain ⟨token, current⟩ := call
  cases current with
  | validating =>
      simp only [AuthService.refreshStep] at step
      split at step <;> cases step <;> exact ⟨trivial, holds⟩
  | reading sessionID =>
      simp only [AuthService.refreshStep] at step
      split at step
      · cases step
        exact ⟨trivial, holds⟩
      · rename_i session read
        split at step
        · cases step
          exact ⟨trivial, holds⟩
        · cases step
          exact ⟨repository.getByID_owned holds read, holds⟩
  | comparing session =>
      simp only [AuthService.refreshStep] at step
      split at step
      · cases step
        exact ⟨trivial, holds⟩
      · cases step
        exact ⟨sound, holds⟩
  | revoking tokenFamily =>
      simp only [AuthService.refreshStep] at step
      split at step
      · rename_i revoked
        cases step
        exact ⟨trivial, repository.revokeFamily_holds holds revoked⟩
      · cases step
        exact ⟨trivial, holds⟩
  | readingUser session =>
      simp only [AuthService.refreshStep] at step
      split at step
      · cases step
        exact ⟨trivial, holds⟩
      · rename_i user found
        split at step
        · cases step
          exact ⟨trivial, holds⟩
        · cases step
          exact ⟨⟨sound, Users.account_of_getByID found⟩, holds⟩
  | generating session user =>
      cases step
      exact ⟨sound.1, holds⟩
  | storing session pair =>
      simp only [AuthService.refreshStep] at step
      split at step
      · cases step
        exact ⟨trivial, holds⟩
      · rename_i created
        cases step
        exact ⟨trivial, repository.create_holds holds sound created⟩
  | returned result =>
      cases step
      exact ⟨trivial, holds⟩

end Calls

namespace Provenance

variable {Store : Type}

/-- Every session and every token goes back to the right password of an account. -/
structure Inv (service : AuthService) (repository : OwnedRepository Store)
    (state : Provenance Store) : Prop where
  distinct : (state.world.users.accounts.map Account.id).Nodup
  logins : ∀ index call, state.logins index = some call →
    call.Sound service state.world.users.accounts
  refreshes : ∀ index call, state.refreshes index = some call →
    call.Sound state.Owns state.world.users.accounts
  sessions : repository.Holds state.Owns state.world.sessions
  opened : ∀ session ∈ state.opened, session.user.account ∈ state.world.users.accounts ∧
    service.compareHashAndPassword session.user.passwordHash session.password = true
  grants : ∀ grant ∈ state.grants, grant.user.account ∈ state.world.users.accounts ∧
    state.Owns grant.sessionID grant.user.id

variable {service : AuthService} {registrar : Registrar} {repository : OwnedRepository Store}
  {state next : Provenance Store}

/-- At the start nothing was granted. -/
theorem inv_start : (start repository.empty).Inv service repository where
  distinct := List.nodup_nil
  logins := by simp [start]
  refreshes := by simp [start]
  sessions := repository.holds_empty _
  opened := by simp [start]
  grants := by simp [start]

/-- A call is the one that was set, or it was there before. -/
theorem calls_of_update {Call : Type} {calls : Nat → Option Call} {index other : Nat}
    {entry : Option Call} {found : Call}
    (present : Function.update calls index entry other = some found) :
    entry = some found ∨ calls other = some found := by
  by_cases itself : other = index
  · subst itself
    rw [Function.update_self] at present
    exact .inl present
  · rw [Function.update_of_ne itself] at present
    exact .inr present

/-- The login of one index moves on, and the accounts stay as they are. -/
theorem Inv.moveLogin (inv : state.Inv service repository) (index : Nat) (world : World Store)
    {entry : Option LoginCall}
    (sound : ∀ call, entry = some call → call.Sound service state.world.users.accounts)
    (accounts : world.users.accounts = state.world.users.accounts)
    (sessions : repository.Holds state.Owns world.sessions) :
    Inv service repository
      { state with world, logins := Function.update state.logins index entry } where
  distinct := accounts ▸ inv.distinct
  logins other call present := by
    rw [show ({ state with world } : Provenance Store).world.users.accounts = _ from accounts]
    rcases calls_of_update present with same | old
    · exact sound call same
    · exact inv.logins other call old
  refreshes other call present := by
    rw [show ({ state with world } : Provenance Store).world.users.accounts = _ from accounts]
    exact inv.refreshes other call present
  sessions := sessions
  opened := accounts ▸ inv.opened
  grants := accounts ▸ inv.grants

/-- A refresh moves on with what it may hold. -/
theorem Inv.moveRefresh (inv : state.Inv service repository) (index : Nat) {sessions : Store}
    {entry : Option PendingRefresh}
    (sound : ∀ call, entry = some call → call.Sound state.Owns state.world.users.accounts)
    (holds : repository.Holds state.Owns sessions) :
    Inv service repository
      { state with
        world := { state.world with sessions }
        refreshes := Function.update state.refreshes index entry } where
  distinct := inv.distinct
  logins := inv.logins
  refreshes other call present := by
    rcases calls_of_update present with same | old
    · exact sound call same
    · exact inv.refreshes other call old
  sessions := holds
  opened := inv.opened
  grants := inv.grants

/-- One more session is opened, for a row whose password was given. -/
theorem Inv.open (inv : state.Inv service repository) (session : OpenedSession)
    (account : session.user.account ∈ state.world.users.accounts)
    (matched : service.compareHashAndPassword session.user.passwordHash session.password = true) :
    Inv service repository { state with opened := session :: state.opened } := by
  have widened : ∀ id userID, state.Owns id userID →
      ({ state with opened := session :: state.opened } : Provenance Store).Owns id userID := by
    rintro id userID ⟨old, listed, same⟩
    exact ⟨old, List.mem_cons_of_mem _ listed, same⟩
  refine ⟨inv.distinct, inv.logins, fun index call present => ?_,
    repository.holds_mono widened inv.sessions, ?_, fun grant member => ?_⟩
  · exact (inv.refreshes index call present).mono widened fun _ member => member
  · exact List.forall_mem_cons.mpr ⟨⟨account, matched⟩, inv.opened⟩
  · obtain ⟨known, owned⟩ := inv.grants grant member
    exact ⟨known, widened _ _ owned⟩

/-- A grant for an account's own session keeps the invariant. -/
theorem Inv.grant (inv : state.Inv service repository) (grant : Grant)
    (account : grant.user.account ∈ state.world.users.accounts)
    (owned : state.Owns grant.sessionID grant.user.id) :
    Inv service repository { state with grants := grant :: state.grants } :=
  ⟨inv.distinct, inv.logins, inv.refreshes, inv.sessions, inv.opened,
    List.forall_mem_cons.mpr ⟨⟨account, owned⟩, inv.grants⟩⟩

/-- The table keeps its accounts, and those that are added have ids of their own. -/
theorem Inv.register (inv : state.Inv service repository) {after : RegisterState}
    (grown : after.users = state.world.users ∨ ∃ user now,
      state.world.users.create now user = .ok after.users) :
    (state.registered after).Inv service repository := by
  rcases grown with same | ⟨user, now, created⟩
  · have accounts : after.users.accounts = state.world.users.accounts := congrArg _ same
    refine ⟨?_, ?_, ?_, inv.sessions, ?_, ?_⟩
    · exact accounts ▸ inv.distinct
    · exact accounts ▸ inv.logins
    · exact accounts ▸ inv.refreshes
    · exact accounts ▸ inv.opened
    · exact accounts ▸ inv.grants
  · obtain ⟨account, accounts, fresh⟩ := Users.accounts_create created
    have more : state.world.users.accounts ⊆ after.users.accounts := by
      rw [accounts]
      exact List.subset_append_left ..
    refine ⟨?_, fun index call present => ?_, fun index call present => ?_, inv.sessions,
      fun session member => ?_, fun grant member => ?_⟩
    · change (after.users.accounts.map Account.id).Nodup
      rw [accounts, List.map_append, List.map_singleton, List.nodup_append]
      refine ⟨inv.distinct, List.nodup_singleton _, fun id listed new member => ?_⟩
      obtain ⟨other, old, rfl⟩ := List.mem_map.mp listed
      rw [List.mem_singleton.mp member]
      exact fresh other old
    · exact (inv.logins index call present).mono more
    · exact (inv.refreshes index call present).mono (fun _ _ owned => owned) more
    · exact ⟨more (inv.opened session member).1, (inv.opened session member).2⟩
    · exact ⟨more (inv.grants grant member).1, (inv.grants grant member).2⟩

/-- What a step of a registration does to the table. -/
theorem users_of_register {before after : RegisterState} {label : RegisterLabel}
    (step : (registerMachine registrar).step before label = some after) :
    after.users = before.users ∨ ∃ user now, before.users.create now user = .ok after.users := by
  cases label with
  | begin index request salt =>
      simp only [registerMachine] at step
      split at step
      · cases step
      · cases step
        exact .inl rfl
  | count index id =>
      simp only [registerMachine] at step
      split at step
      · cases step
        exact .inl rfl
      · cases step
  | insert index now =>
      simp only [registerMachine] at step
      split at step
      · split at step
        · rename_i created
          cases step
          exact .inr ⟨_, _, created⟩
        · cases step
          exact .inl rfl
      · cases step
  | statementFails index =>
      simp only [registerMachine] at step
      split at step
      · cases step
        exact .inl rfl
      · cases step
        exact .inl rfl
      · cases step
  | answerLost index now =>
      simp only [registerMachine] at step
      split at step
      · split at step
        · rename_i created
          cases step
          exact .inr ⟨_, _, created⟩
        · cases step
      · cases step
  | publish index eventID now =>
      simp only [registerMachine] at step
      split at step
      · cases step
        exact .inl rfl
      · cases step

/-- Every step of a login keeps the invariant. -/
theorem Inv.loginStepped (inv : state.Inv service repository) {index : Nat} {call : LoginCall}
    (present : state.logins index = some call) (input : LoginInput) :
    (state.loginStepped service repository.toSessionRepository index call input).Inv service
      repository := by
  have sound := inv.logins index call present
  cases stepped : service.loginStep repository.toSessionRepository call.request input
      (call.phase, state.world) with
  | mk phase world =>
      obtain ⟨accounts, moved, sessions⟩ := loginStep_sound sound stepped
      have carried : ∀ other, some { call with phase } = some other →
          other.Sound service state.world.users.accounts := by
        rintro other ⟨rfl⟩
        exact moved
      simp only [Provenance.loginStepped, stepped]
      split
      · rename_i user issuing
        rw [LoginCall.Sound, issuing] at sound
        have opened := inv.open ⟨input.sessionID, user, call.request.password⟩ sound.1 sound.2
        have owned : Owns { state with
            opened := ⟨input.sessionID, user, call.request.password⟩ :: state.opened }
            input.sessionID user.id := ⟨_, List.mem_cons_self, rfl, rfl⟩
        have holds := opened.sessions
        rcases sessions with same | ⟨issuer, pair, issues, created⟩
        · have next := opened.moveLogin index world carried accounts (same ▸ holds)
          exact next.grant ⟨user, input.sessionID, input.now⟩ (accounts ▸ sound.1) owned
        · obtain rfl : user = issuer := by simpa using issuing.symm.trans issues
          have next := opened.moveLogin index world carried accounts
            (repository.create_holds holds owned created)
          exact next.grant ⟨user, input.sessionID, input.now⟩ (accounts ▸ sound.1) owned
      · rename_i quiet
        rcases sessions with same | ⟨issuer, pair, issues, created⟩
        · exact inv.moveLogin index world carried accounts (same ▸ inv.sessions)
        · exact absurd issues (quiet issuer)

/-- Every step of a refresh keeps it. -/
theorem Inv.refreshStepped (inv : state.Inv service repository) {index : Nat}
    {call : PendingRefresh} (present : state.refreshes index = some call) (now : Time)
    (secret : Secret) :
    (state.refreshStepped service repository.toSessionRepository index call now secret).Inv
      service repository := by
  have sound := inv.refreshes index call present
  cases stepped : service.refreshStep repository.toSessionRepository call.token
      ⟨now, state.world.users, secret⟩ (call.phase, state.world.sessions) with
  | mk phase sessions =>
      obtain ⟨moved, holds⟩ := refreshStep_sound sound inv.sessions stepped
      have carried : ∀ other, some { call with phase } = some other →
          other.Sound state.Owns state.world.users.accounts := by
        rintro other ⟨rfl⟩
        exact moved
      have next := inv.moveRefresh index carried holds
      simp only [Provenance.refreshStepped, stepped]
      split
      · rename_i session user generating
        rw [PendingRefresh.Sound, generating] at sound
        obtain ⟨owned, account, same⟩ := sound
        exact next.grant ⟨user, session.id, now⟩ account (same ▸ owned)
      · exact next

/-- A login that fails in between keeps it. -/
theorem Inv.loginFault (inv : state.Inv service repository) {index : Nat} {call : LoginCall}
    (present : state.logins index = some call) :
    Inv service repository
      { state with
        logins := Function.update state.logins index
          (some { call with phase := call.phase.afterFault }) } := by
  refine inv.moveLogin index state.world ?_ rfl inv.sessions
  rintro other ⟨rfl⟩
  have sound := inv.logins index call present
  obtain ⟨request, phase⟩ := call
  cases phase <;> first | exact sound | trivial

theorem Inv.logout (inv : state.Inv service repository) (now : Time) (sessionID : Uuid) :
    Inv service repository
      { state with
        world :=
          { state.world with
            sessions := (AuthService.logout repository.toSessionRepository now sessionID
              state.world.sessions).2 } } := by
  refine ⟨inv.distinct, inv.logins, inv.refreshes, ?_, inv.opened, inv.grants⟩
  unfold AuthService.logout
  split
  · rename_i revoked
    exact repository.revokeByID_holds inv.sessions revoked
  · exact inv.sessions

theorem Inv.step (inv : state.Inv service repository) {label : ProvenanceLabel}
    (step : (provenanceMachine service registrar repository.toSessionRepository).step state label =
      some next) : next.Inv service repository := by
  cases label with
  | register label =>
      obtain ⟨after, moves, rfl⟩ := Option.map_eq_some_iff.mp step
      exact inv.register (users_of_register moves)
  | login index request =>
      simp only [provenanceMachine] at step
      split at step
      · cases step
      · cases step
        refine inv.moveLogin index state.world ?_ rfl inv.sessions
        rintro call ⟨rfl⟩
        trivial
  | loginStep index input =>
      obtain ⟨call, present, rfl⟩ := Option.map_eq_some_iff.mp step
      exact inv.loginStepped present input
  | loginFault index =>
      obtain ⟨call, present, rfl⟩ := Option.map_eq_some_iff.mp step
      exact inv.loginFault present
  | loginEnds index =>
      cases step
      exact inv.moveLogin index state.world (by simp) rfl inv.sessions
  | refresh index token =>
      simp only [provenanceMachine] at step
      split at step
      · cases step
      · cases step
        refine inv.moveRefresh index ?_ inv.sessions
        rintro call ⟨rfl⟩
        trivial
  | refreshStep index now secret =>
      obtain ⟨call, present, rfl⟩ := Option.map_eq_some_iff.mp step
      exact inv.refreshStepped present now secret
  | refreshEnds index =>
      cases step
      exact inv.moveRefresh index (by simp) inv.sessions
  | logout now sessionID =>
      cases step
      exact inv.logout now sessionID

/-- The invariant holds at the end of every run. -/
theorem inv_run {labels : List ProvenanceLabel} {final : Provenance Store}
    (run : (provenanceMachine service registrar repository.toSessionRepository).exec
      (start repository.empty) labels = some final) : final.Inv service repository :=
  Machine.final_of_preserved (fun inv step => Inv.step inv step) inv_start run

/-- No two rows have one id. -/
theorem Inv.row_unique (inv : state.Inv service repository) {row other : User}
    (listed : row ∈ state.world.users) (member : other ∈ state.world.users)
    (same : other.id = row.id) : other = row := by
  have distinct := inv.distinct
  rw [Users.accounts, List.map_map] at distinct
  exact List.inj_on_of_nodup_map distinct member listed same

/-- The claims show a row of the table, of which there is one, and a login has opened their
session with the row's password. -/
structure Traced (service : AuthService) (state : Provenance Store) (claims : CustomClaims)
    (row : User) : Prop where
  listed : row ∈ state.world.users
  alone : ∀ other ∈ state.world.users, other.id = row.id → other = row
  subject : claims.subject = row.id.string
  email : claims.email = row.email
  role : claims.role = row.role.text
  proven : ∃ session ∈ state.opened, session.sessionID.string = claims.sessionID ∧
    session.user.id = row.id ∧
    service.compareHashAndPassword row.passwordHash session.password = true

/-- Every grant goes back to the row of an account. -/
theorem Inv.traced (inv : state.Inv service repository) {grant : Grant}
    (granted : grant ∈ state.grants) :
    ∃ row, state.Traced service (grant.claims service.tokens) row := by
  obtain ⟨account, session, opened, sameSession, sameUser⟩ := inv.grants grant granted
  obtain ⟨row, listed, same⟩ := List.mem_map.mp account
  obtain ⟨known, matched⟩ := inv.opened session opened
  obtain ⟨other, member, opener⟩ := List.mem_map.mp known
  have id : row.id = grant.user.id := congrArg Account.id same
  have openerID : other.id = session.user.id := congrArg Account.id opener
  obtain rfl : other = row := inv.row_unique listed member
    (openerID.trans (sameUser.trans id.symm))
  refine ⟨other, listed, fun another present equal => inv.row_unique listed present equal,
    congrArg (fun account => account.id.string) same.symm, congrArg Account.email same.symm,
    congrArg (fun account => account.role.text) same.symm, session, opened,
    congrArg Uuid.string sameSession, openerID.symm, ?_⟩
  rw [show other.passwordHash = session.user.passwordHash from
    congrArg Account.passwordHash opener]
  exact matched

/-- However registrations, logins, refreshes and logouts interleave and fail, an access
token shows one row of the table, and somebody has given that row's password to open the
token's session. -/
theorem provenance_of_run (service : AuthService) (registrar : Registrar)
    (repository : OwnedRepository Store) (labels : List ProvenanceLabel) (final : Provenance Store)
    (run : (provenanceMachine service registrar repository.toSessionRepository).exec
      (start repository.empty) labels = some final) :
    ∀ grant ∈ final.grants, ∃ row, final.Traced service (grant.claims service.tokens) row :=
  fun _ granted => (inv_run run).traced granted

/-! ### The bootstrap administrator among all callers -/

/-- No administrator is inserted into a table that has rows. -/
def AdminFirst (state : Provenance Store) : ProvenanceLabel → Prop
  | .register label => state.registering.AdminFirst label
  | _ => True

/-- Only a registration adds accounts or changes what registrations are about to do. -/
theorem registering_step (inv : state.Inv service repository) {label : ProvenanceLabel}
    (step : (provenanceMachine service registrar repository.toSessionRepository).step state label =
      some next) :
    (∃ inner, label = .register inner ∧
        (registerMachine registrar).step state.registering inner = some next.registering) ∨
      next.world.users.accounts = state.world.users.accounts ∧
        next.registrations = state.registrations := by
  cases label with
  | register inner =>
      obtain ⟨after, moves, rfl⟩ := Option.map_eq_some_iff.mp step
      exact .inl ⟨inner, rfl, moves⟩
  | login index request =>
      simp only [provenanceMachine] at step
      split at step
      · cases step
      · cases step
        exact .inr ⟨rfl, rfl⟩
  | loginStep index input =>
      obtain ⟨call, present, rfl⟩ := Option.map_eq_some_iff.mp step
      cases stepped : service.loginStep repository.toSessionRepository call.request input
          (call.phase, state.world) with
      | mk phase world =>
          obtain ⟨accounts, _⟩ := loginStep_sound (inv.logins index call present) stepped
          simp only [Provenance.loginStepped, stepped]
          split
          · exact .inr ⟨accounts, rfl⟩
          · exact .inr ⟨accounts, rfl⟩
  | refresh index token =>
      simp only [provenanceMachine] at step
      split at step
      · cases step
      · cases step
        exact .inr ⟨rfl, rfl⟩
  | refreshStep index now secret =>
      obtain ⟨call, _, rfl⟩ := Option.map_eq_some_iff.mp step
      simp only [Provenance.refreshStepped]
      split
      · exact .inr ⟨rfl, rfl⟩
      · exact .inr ⟨rfl, rfl⟩
  | loginFault index =>
      obtain ⟨call, _, rfl⟩ := Option.map_eq_some_iff.mp step
      exact .inr ⟨rfl, rfl⟩
  | loginEnds index | refreshEnds index | logout now sessionID =>
      cases step
      exact .inr ⟨rfl, rfl⟩

/-- Updates of rows keep what registrations know of the table. -/
theorem registerInv_congr (inv : state.registering.Inv)
    (accounts : next.world.users.accounts = state.world.users.accounts)
    (registrations : next.registrations = state.registrations) : next.registering.Inv := by
  have lengths := congrArg List.length accounts
  rw [Users.accounts, Users.accounts, List.length_map, List.length_map] at lengths
  have empty : next.world.users = [] ↔ state.world.users = [] := by
    rw [← List.length_eq_zero_iff, lengths, List.length_eq_zero_iff]
  constructor
  · refine inv.admins.imp empty.mpr fun one => ?_
    rw [registering, Users.admins_eq_accounts, accounts, ← Users.admins_eq_accounts]
    exact one
  · intro index user waiting standard none
    rw [registering, RegisterState.phase, registrations] at waiting
    exact inv.standard index user waiting standard (empty.mp none)

/-- Guarded runs insert no second administrator. -/
theorem admins_of_guarded {labels : List ProvenanceLabel} {final : Provenance Store}
    (guarded : (provenanceMachine service registrar repository.toSessionRepository).Guarded
      AdminFirst (start repository.empty) labels)
    (run : (provenanceMachine service registrar repository.toSessionRepository).exec
      (start repository.empty) labels = some final) : final.world.users.admins ≤ 1 := by
  have preserved : ∀ {state next : Provenance Store} {label : ProvenanceLabel},
      state.Inv service repository ∧ state.registering.Inv → AdminFirst state label →
        (provenanceMachine service registrar repository.toSessionRepository).step state label =
          some next → next.Inv service repository ∧ next.registering.Inv := by
    rintro state next label ⟨inv, table⟩ allowed step
    refine ⟨inv.step step, ?_⟩
    rcases registering_step inv step with ⟨inner, rfl, moves⟩ | ⟨accounts, registrations⟩
    · exact table.step allowed moves
    · exact registerInv_congr table accounts registrations
  have along := Machine.along_of_guarded (fun both allowed step => preserved both allowed step)
    ⟨inv_start, RegisterState.inv_start⟩ guarded
  exact (along.final run).2.atMostOneAdmin

/-- One row at most is an administrator's. -/
theorem admin_unique {users : Users} (few : users.admins ≤ 1) {row other : User}
    (listed : row ∈ users) (member : other ∈ users) (admin : row.role = .admin)
    (also : other.role = .admin) : other = row := by
  rw [Users.admins, List.countP_eq_length_filter] at few
  have first : row ∈ users.filter (·.role = .admin) := by simp [listed, admin]
  have second : other ∈ users.filter (·.role = .admin) := by simp [member, also]
  cases found : users.filter (·.role = .admin) with
  | nil =>
      rw [found] at first
      cases first
  | cons only rest =>
      rw [found, List.length_cons] at few
      obtain rfl : rest = [] := List.eq_nil_of_length_eq_zero (by omega)
      rw [found] at first second
      exact (List.mem_singleton.mp second).trans (List.mem_singleton.mp first).symm

/-- The first user registers and logs in, and another client is logged out meanwhile. -/
def firstLogin : List ProvenanceLabel :=
  [.register (.begin 0 ⟨"ada@example.com", "Correct-Horse-9", "Ada", "203.0.113.7"⟩ []),
    .register (.count 0 (Installed.uuid 1)), .register (.insert 0 0),
    .login 0 Installed.loginRequest, .loginStep 0 Installed.loginInput,
    .loginStep 0 Installed.loginInput, .loginStep 0 Installed.loginInput,
    .logout 0 (Installed.uuid 9), .loginFault 0, .loginStep 0 Installed.loginInput]

def afterLogin : Provenance RedisStore :=
  ((provenanceMachine Installed.service plainRegistrar sessionRedis).exec (start .empty)
    firstLogin).getD (start .empty)

/-- The grant of the first login goes back to its row. -/
theorem provenance_firstLogin : afterLogin.grants.length = 1 ∧ ∀ grant ∈ afterLogin.grants,
    ∃ row, afterLogin.Traced Installed.service (grant.claims Installed.service.tokens) row :=
  ⟨by decide +kernel,
    provenance_of_run Installed.service plainRegistrar ownedRedis firstLogin afterLogin (by rfl)⟩

end Provenance

end Sentinel.Auth
