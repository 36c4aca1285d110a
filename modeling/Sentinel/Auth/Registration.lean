import Sentinel.Auth.Service
import Sentinel.Postgres.Table
import Sentinel.Semantics.Machine

/-!
# Registration and the bootstrap administrator

`AuthService.RegisterUser`, run by any number of concurrent requests over one
user table. The role comes from a count of the rows, and the row is inserted by
a later statement, so two requests may both find the table empty.
`atMostOneAdmin_iff` says in which runs this does no harm.
-/

namespace Sentinel.Auth

open Sentinel.Wire Sentinel.Postgres Sentinel.Semantics

structure RegisterRequest where
  email : String
  password : String
  fullName : String
  ipAddress : String

inductive RegisterError where
  | domain (error : AuthError)
  /-- `bcrypt.GenerateFromPassword` refuses a password over 72 bytes. -/
  | hashing
  | statement (error : SqlError)
  | connection

/-- The password policy. Its regular expressions look for ASCII classes. -/
def validatePassword (password : String) : Except AuthError Unit :=
  let hasUpper := password.toList.any fun rune => 'A' ≤ rune ∧ rune ≤ 'Z'
  let hasLower := password.toList.any fun rune => 'a' ≤ rune ∧ rune ≤ 'z'
  let hasDigit := password.toList.any fun rune => '0' ≤ rune ∧ rune ≤ '9'
  let hasSpecial := password.toList.any fun rune =>
    !('a' ≤ rune ∧ rune ≤ 'z' ∨ 'A' ≤ rune ∧ rune ≤ 'Z' ∨ '0' ≤ rune ∧ rune ≤ '9')
  if password.utf8ByteSize < 12 then .error .weakPassword
  else if !hasUpper || !hasLower || !hasDigit || !hasSpecial then .error .weakPassword
  else .ok ()

namespace Users

/-- `SELECT count(*) FROM users` -/
def count (users : Users) : Nat := users.length

/-- The INSERT of `Create`. The columns that it does not name take their
defaults, and id and email are unique. -/
def create (users : Users) (now : Time) (user : User) : Except SqlError Users := do
  let email ← fitVarchar 255 user.email
  let passwordHash ← fitVarchar 255 user.passwordHash
  let fullName ← fitVarchar 255 user.fullName
  if users.any (·.id = user.id) then .error (.uniqueViolation "id")
  else if users.any (·.email = email) then .error (.uniqueViolation "email")
  else
    .ok (users ++
      [{ id := user.id
         email := email
         passwordHash := passwordHash
         fullName := fullName
         role := user.role
         isActive := true
         emailVerified := false
         createdAt := now
         updatedAt := now
         lastLoginAt := none
         failedLoginCount := 0
         lockedUntil := none }])

/-- An INSERT that goes through adds one row, of the role it was given. -/
theorem create_ok {users after : Users} {now : Time} {user : User}
    (created : users.create now user = .ok after) :
    ∃ row : User, after = users ++ [row] ∧ row.role = user.role := by
  simp only [create, bind, Except.bind] at created
  split at created
  · cases created
  split at created
  · cases created
  split at created
  · cases created
  split at created
  · cases created
  split at created
  · cases created
  · cases created
    exact ⟨_, rfl, rfl⟩

def admins (users : Users) : Nat := users.countP (·.role = .admin)

/-- A new row is counted when its role is that of the administrators. -/
theorem admins_append (users : Users) (row : User) :
    Users.admins (users ++ [row]) = users.admins + if row.role = .admin then 1 else 0 := by
  simp [admins, List.countP_append, List.countP_cons]

end Users

/-- The library functions that `RegisterUser` calls. -/
structure Registrar where
  trimSpace : String → String
  toLower : String → String
  /-- `bcrypt.GenerateFromPassword` at a cost, with the salt it draws. -/
  generateFromPassword : String → Nat → List UInt8 → Option String

/-- Where a call of `RegisterUser` stands, with its local variables. -/
inductive RegisterPhase where
  | counting (email passwordHash fullName : String)
  | inserting (user : User)
  | publishing (user : User)
  | returned (result : Except RegisterError User)

structure RegisterCall where
  ipAddress : String
  phase : RegisterPhase

structure RegisterState where
  users : Users
  calls : Nat → Option RegisterCall
  events : List AuthEvent

inductive RegisterLabel where
  /-- A request arrives, is checked, and its password is hashed with `salt`. -/
  | begin (index : Nat) (request : RegisterRequest) (salt : List UInt8)
  /-- `Count` answers, and `uuid.New` draws the id. -/
  | count (index : Nat) (id : Uuid)
  | insert (index : Nat) (now : Time)
  /-- The database fails before the pending statement takes effect. -/
  | statementFails (index : Nat)
  /-- The INSERT takes effect, but its answer is lost. -/
  | answerLost (index : Nat) (now : Time)
  | publish (index : Nat) (eventID : Uuid) (now : Time)

namespace Registrar

variable (registrar : Registrar)

/-- `RegisterUser` up to its first statement. -/
def prepare (request : RegisterRequest) (salt : List UInt8) : RegisterPhase :=
  let email := registrar.toLower (registrar.trimSpace request.email)
  if !email.toList.contains '@' || 255 < email.utf8ByteSize then
    .returned (.error (.domain .invalidEmail))
  else match validatePassword request.password with
    | .error error => .returned (.error (.domain error))
    | .ok () =>
        match registrar.generateFromPassword request.password 12 salt with
        | none => .returned (.error .hashing)
        | some hash => .counting email hash request.fullName

end Registrar

/-- The user to insert: the first one becomes the administrator. -/
def newUser (email passwordHash fullName : String) (count : Nat) (id : Uuid) : User where
  id := id
  email := email
  passwordHash := passwordHash
  fullName := fullName
  role := if count = 0 then .admin else .user
  isActive := true
  emailVerified := false
  createdAt := zeroTime
  updatedAt := zeroTime
  lastLoginAt := none
  failedLoginCount := 0
  lockedUntil := none

namespace RegisterState

/-- The service in front of an empty table. -/
def start : RegisterState := ⟨[], fun _ => none, []⟩

def phase (state : RegisterState) (index : Nat) : Option RegisterPhase :=
  (state.calls index).map RegisterCall.phase

/-- The call goes on in the given phase. -/
def advance (state : RegisterState) (index : Nat) (phase : RegisterPhase) : RegisterState :=
  { state with
    calls := Function.update state.calls index
      ((state.calls index).map fun call => { call with phase := phase }) }

/-- A call is in the phase that was set, or where it was. -/
theorem phase_advance {state : RegisterState} {index other : Nat} {phase found : RegisterPhase}
    (present : (state.advance index phase).phase other = some found) :
    found = phase ∨ state.phase other = some found := by
  by_cases itself : other = index
  · subst itself
    simp only [RegisterState.phase, advance, Function.update_self, Option.map_map] at present
    obtain ⟨call, _, same⟩ := Option.map_eq_some_iff.mp present
    exact .inl same.symm
  · simp only [RegisterState.phase, advance, Function.update_of_ne itself] at present
    exact .inr present

end RegisterState

/-- The registrations of the auth service as a machine. -/
def registerMachine (registrar : Registrar) : Machine RegisterState RegisterLabel where
  step state
    | .begin index request salt =>
        match state.calls index with
        | some _ => none
        | none =>
            some
              { state with
                calls := Function.update state.calls index
                  (some ⟨request.ipAddress, registrar.prepare request salt⟩) }
    | .count index id =>
        match state.phase index with
        | some (.counting email hash fullName) =>
            some (state.advance index
              (.inserting (newUser email hash fullName state.users.count id)))
        | _ => none
    | .insert index now =>
        match state.phase index with
        | some (.inserting user) =>
            match state.users.create now user with
            | .ok users => some { state.advance index (.publishing user) with users := users }
            | .error error => some (state.advance index (.returned (.error (.statement error))))
        | _ => none
    | .statementFails index =>
        match state.phase index with
        | some (.counting _ _ _) | some (.inserting _) =>
            some (state.advance index (.returned (.error .connection)))
        | _ => none
    | .answerLost index now =>
        match state.phase index with
        | some (.inserting user) =>
            match state.users.create now user with
            | .ok users =>
                some { state.advance index (.returned (.error .connection)) with users := users }
            | .error _ => none
        | _ => none
    | .publish index eventID now =>
        match state.calls index with
        | some ⟨ipAddress, .publishing user⟩ =>
            some
              { state.advance index (.returned (.ok user)) with
                events := state.events ++
                  [⟨eventID, .userRegistered, now, user.id, user.email, ipAddress⟩] }
        | _ => none

namespace RegisterState

def AtMostOneAdmin (state : RegisterState) : Prop := state.users.admins ≤ 1

/-- The row that the INSERT at `now` of a call would add is no administrator's,
unless the table is empty. -/
def FindsEmptyTable (state : RegisterState) (index : Nat) (now : Time) : Prop :=
  ∀ user users, state.phase index = some (.inserting user) →
    state.users.create now user = .ok users → user.role = .admin → state.users = []

/-- No administrator is inserted into a table that has rows. -/
def AdminFirst (state : RegisterState) : RegisterLabel → Prop
  | .insert index now | .answerLost index now => state.FindsEmptyTable index now
  | _ => True

/-- The first row is an administrator, guarded runs add no other, and a call
that is about to insert a standard user has seen a row. -/
structure Inv (state : RegisterState) : Prop where
  admins : state.users = [] ∨ state.users.admins = 1
  standard : ∀ index user, state.phase index = some (.inserting user) → user.role ≠ .admin →
    state.users ≠ []

variable {state next : RegisterState}

/-- At the start there is nobody. -/
theorem inv_start : start.Inv where
  admins := .inl rfl
  standard := by
    intro index user waiting
    cases waiting

/-- A call moves on, and what it does next is no INSERT. -/
theorem Inv.advance (inv : state.Inv) (index : Nat) {phase : RegisterPhase}
    (otherwise : ∀ user, phase ≠ .inserting user) : (state.advance index phase).Inv where
  admins := inv.admins
  standard := by
    intro other user waiting
    rcases phase_advance waiting with same | waiting
    · exact absurd same.symm (otherwise user)
    · exact inv.standard other user waiting

/-- An INSERT of a call keeps the invariant when it keeps to the guard. -/
theorem Inv.insert (inv : state.Inv) {index : Nat} {now : Time} {user : User} {users : Users}
    (waiting : state.phase index = some (.inserting user))
    (created : state.users.create now user = .ok users)
    (guard : state.FindsEmptyTable index now) (phase : RegisterPhase) :
    { state.advance index phase with users := users }.Inv := by
  have empty := guard user users waiting created
  obtain ⟨row, rfl, role⟩ := Users.create_ok created
  constructor
  · right
    change Users.admins (state.users ++ [row]) = 1
    rw [Users.admins_append, role]
    by_cases admin : user.role = .admin
    · rw [if_pos admin, empty admin]
      rfl
    · rw [if_neg admin]
      exact inv.admins.resolve_left (inv.standard index user waiting admin)
  · intro other another inserting _
    exact List.append_ne_nil_of_right_ne_nil _ (List.cons_ne_nil _ _)

/-- An INSERT that leaves at most one administrator keeps to the guard. -/
theorem Inv.findsEmptyTable (inv : state.Inv) {index : Nat} {now : Time}
    (property : ∀ user users, state.phase index = some (.inserting user) →
      state.users.create now user = .ok users → users.admins ≤ 1) :
    state.FindsEmptyTable index now := by
  intro user users waiting created admin
  have bound := property user users waiting created
  obtain ⟨row, rfl, role⟩ := Users.create_ok created
  rw [Users.admins_append, role, if_pos admin] at bound
  rcases inv.admins with empty | one
  · exact empty
  · omega

variable {registrar : Registrar} {label : RegisterLabel}

/-- A step in which the first administrator comes first keeps the invariant. -/
theorem Inv.step (inv : state.Inv) (guard : state.AdminFirst label)
    (step : (registerMachine registrar).step state label = some next) : next.Inv := by
  cases label with
  | begin index request salt =>
      simp only [registerMachine] at step
      split at step
      · cases step
      · cases step
        constructor
        · exact inv.admins
        · intro other user waiting
          by_cases itself : other = index
          · subst itself
            simp only [RegisterState.phase, Function.update_self, Option.map_some,
              Option.some.injEq, Registrar.prepare] at waiting
            split at waiting
            · cases waiting
            · split at waiting
              · cases waiting
              · split at waiting <;> cases waiting
          · simp only [RegisterState.phase, Function.update_of_ne itself] at waiting
            exact inv.standard other user waiting
  | count index id =>
      simp only [registerMachine] at step
      split at step
      · cases step
        constructor
        · exact inv.admins
        · intro other user waiting standard
          rcases phase_advance waiting with same | waiting
          · cases same
            -- The role was decided by this very count.
            rintro empty
            change state.users = [] at empty
            simp [newUser, Users.count, empty] at standard
          · exact inv.standard other user waiting standard
      · cases step
  | insert index now =>
      simp only [registerMachine] at step
      split at step
      · rename_i user waiting
        split at step
        · rename_i users created
          cases step
          exact inv.insert waiting created guard _
        · cases step
          exact inv.advance index (by simp)
      · cases step
  | statementFails index =>
      simp only [registerMachine] at step
      split at step
      · cases step
        exact inv.advance index (by simp)
      · cases step
        exact inv.advance index (by simp)
      · cases step
  | answerLost index now =>
      simp only [registerMachine] at step
      split at step
      · rename_i user waiting
        split at step
        · rename_i users created
          cases step
          exact inv.insert waiting created guard _
        · cases step
      · cases step
  | publish index eventID now =>
      simp only [registerMachine] at step
      split at step
      · rename_i ipAddress user publishing
        cases step
        have moved : (state.advance index (.returned (.ok user))).Inv := inv.advance index (by simp)
        exact ⟨moved.admins, moved.standard⟩
      · cases step

/-- A step that leaves at most one administrator keeps to the guard. -/
theorem Inv.needed (inv : state.Inv)
    (step : (registerMachine registrar).step state label = some next)
    (property : next.AtMostOneAdmin) : state.AdminFirst label := by
  cases label with
  | insert index now =>
      refine inv.findsEmptyTable fun user users waiting created => ?_
      simp only [registerMachine, waiting, created] at step
      cases step
      exact property
  | answerLost index now =>
      refine inv.findsEmptyTable fun user users waiting created => ?_
      simp only [registerMachine, waiting, created] at step
      cases step
      exact property
  | _ => trivial

/-- There is no second administrator under the invariant. -/
theorem Inv.atMostOneAdmin (inv : state.Inv) : state.AtMostOneAdmin := by
  rcases inv.admins with empty | one
  · rw [AtMostOneAdmin, empty]
    exact Nat.zero_le 1
  · exact one.le

end RegisterState

/-- From an empty table and under any interleaving of any registrations, there
is at most one administrator at every moment exactly when no INSERT of an
administrator goes through in a table that already has a row. -/
theorem atMostOneAdmin_iff (registrar : Registrar) (labels : List RegisterLabel) :
    (registerMachine registrar).Along RegisterState.AtMostOneAdmin .start labels ↔
      (registerMachine registrar).Guarded RegisterState.AdminFirst .start labels :=
  Machine.along_iff_guarded (fun _ inv => RegisterState.Inv.atMostOneAdmin inv)
    (fun inv guard step => RegisterState.Inv.step inv guard step)
    (fun inv step property => RegisterState.Inv.needed inv step property)
    labels RegisterState.inv_start

/-- Functions that stand for the libraries on ASCII input. -/
def plainRegistrar : Registrar := ⟨id, id, fun password _ _ => some password⟩

/-- Two requests count before either inserts. -/
def countedTogether : List RegisterLabel :=
  [.begin 0 ⟨"ada@example.com", "Correct-Horse-9", "Ada", "203.0.113.7"⟩ [],
    .begin 1 ⟨"eve@example.com", "Correct-Horse-9", "Eve", "198.51.100.9"⟩ [],
    .count 0 (Installed.uuid 1), .count 1 (Installed.uuid 2), .insert 0 0, .insert 1 0]

/-- Two first registrations that count together both become administrators. -/
theorem atMostOneAdmin_fails :
    ¬ ∀ labels, (registerMachine plainRegistrar).Along RegisterState.AtMostOneAdmin .start
      labels := by
  intro always
  have run : ((registerMachine plainRegistrar).exec .start countedTogether).map
      (fun state => state.users.admins) = some 2 := by decide +kernel
  obtain ⟨state, reached, admins⟩ := Option.map_eq_some_iff.mp run
  have bound : state.users.admins ≤ 1 := (always countedTogether).final reached
  omega

end Sentinel.Auth
