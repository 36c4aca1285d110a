import Sentinel.Auth.Service
import Sentinel.Semantics.Machine
import Sentinel.Semantics.TimeWindow

/-!
# Account lockout under concurrent logins

Any number of `Login` calls on one account, cut at their database calls and at
the password comparison. The lock is checked on the row as it was read, and a
failed comparison is counted by a later statement. `locksOut_of_guarded` is the
condition under which five failures in fifteen minutes are the most that happen.
-/

namespace Sentinel.Auth

open Sentinel.Wire Sentinel.Semantics

/-- `time.Now()` is before the time the account is locked until, also later. -/
theorem User.not_isLocked_mono {user : User} {now later : Time} (order : now ≤ later)
    (open_ : user.isLocked now = false) : user.isLocked later = false := by
  unfold User.isLocked at open_ ⊢
  split
  · rfl
  · rename_i lockedUntil locked
    rw [locked] at open_
    simp only [decide_eq_false_iff_not] at open_ ⊢
    exact fun early => open_ (Int.lt_of_le_of_lt order early)

/-- Where a call of `Login` stands, with its local variables. -/
inductive LoginPhase where
  | reading
  | checking (user : User)
  | comparing (user : User)
  | incrementing (user : User)
  | resetting (user : User)
  | updating (user : User)
  | issuing (user : User)
  | publishing (user : User) (eventType : EventType) (result : Except AuthError TokenPair)
  | returned (result : Except AuthError TokenPair)

/-! ## The row under the statements of `Login` -/

namespace Users

variable {users : Users} {email : String}

/-- A statement that updates rows in place updates the one that is looked up. -/
theorem getByEmail_map {change : User → User} (keeps : ∀ user, (change user).email = user.email) :
    Users.getByEmail (users.map change) email = (users.getByEmail email).map change := by
  rw [getByEmail, getByEmail, List.find?_map]
  have same : ((fun user : User => decide (user.email = email)) ∘ change) =
      fun user => decide (user.email = email) := by
    funext user
    simp [keeps]
  rw [same]

/-- The row that is found has the address that was looked up. -/
theorem getByEmail_email {user : User} (found : users.getByEmail email = some user) :
    user.email = email := by
  have holds := List.find?_some found
  exact of_decide_eq_true holds

/-- The failed login is counted, and the fifth locks. -/
theorem getByEmail_increment (now : Time) {row : User}
    (found : users.getByEmail email = some row) :
    ∃ after, (users.incrementFailedLogin now email 5 15).getByEmail email = some after ∧
      after.failedLoginCount = row.failedLoginCount + 1 ∧
      (5 ≤ after.failedLoginCount → after.lockedUntil = some (now + 15 * 60 * second)) := by
  rw [incrementFailedLogin, getByEmail_map fun user => by split <;> rfl, found]
  refine ⟨_, rfl, ?_⟩
  simp only [if_pos (getByEmail_email found)]
  constructor
  · trivial
  · intro full
    exact if_pos full

/-- A reset clears the count of the row, or leaves the row alone. -/
theorem getByEmail_reset (id : Uuid) {row : User} (found : users.getByEmail email = some row) :
    ∃ after, (users.resetFailedLogin id).getByEmail email = some after ∧
      (after.failedLoginCount = 0 ∨ after.failedLoginCount = row.failedLoginCount) := by
  rw [resetFailedLogin, getByEmail_map fun user => by split <;> rfl, found]
  refine ⟨_, rfl, ?_⟩
  beta_reduce
  split
  · exact .inl rfl
  · exact .inr rfl

/-- The row that is looked up keeps its count and its lock. -/
def SameLock (email : String) (users after : Users) : Prop :=
  ∀ row, users.getByEmail email = some row → ∃ same, after.getByEmail email = some same ∧
    same.failedLoginCount = row.failedLoginCount ∧ same.lockedUntil = row.lockedUntil

/-- A statement that does nothing keeps the lock. -/
theorem SameLock.refl (email : String) (users : Users) : SameLock email users users :=
  fun row found => ⟨row, found, rfl, rfl⟩

/-- The time of the last login is no part of the lock. -/
theorem sameLock_updateLastLogin (email : String) (users : Users) (now : Time) (id : Uuid) :
    SameLock email users (users.updateLastLogin now id) := by
  intro row found
  rw [updateLastLogin, getByEmail_map fun user => by split <;> rfl, found]
  refine ⟨_, rfl, ?_⟩
  beta_reduce
  split <;> exact ⟨rfl, rfl⟩

end Users

/-! ## `Login` in steps -/

namespace AuthService

variable {Store : Type} (service : AuthService) (repository : SessionRepository Store)

def normalized (request : LoginRequest) : String :=
  service.toLower (service.trimSpace request.email)

/-- One step of `Login`: at most one statement, comparison or store call. -/
def loginStep (request : LoginRequest) (input : LoginInput) :
    LoginPhase × World Store → LoginPhase × World Store
  | (.reading, world) =>
      match world.users.getByEmail (service.normalized request) with
      | none => (.returned (.error .invalidPassword), world)
      | some user => (.checking user, world)
  | (.checking user, world) =>
      if user.isLocked input.now then (.returned (.error .accountLocked), world)
      else if !user.isActive then (.returned (.error .accountInactive), world)
      else (.comparing user, world)
  | (.comparing user, world) =>
      if !service.compareHashAndPassword user.passwordHash request.password then
        (.incrementing user, world)
      else if 0 < user.failedLoginCount then (.resetting user, world)
      else (.updating user, world)
  | (.incrementing user, world) =>
      (.publishing user .loginFailed (.error .invalidPassword),
        { world with
          users := world.users.incrementFailedLogin input.now (service.normalized request) 5 15 })
  | (.resetting user, world) =>
      (.updating user, { world with users := world.users.resetFailedLogin user.id })
  | (.updating user, world) =>
      (.issuing user, { world with users := world.users.updateLastLogin input.now user.id })
  | (.issuing user, world) =>
      let pair := service.tokens.generateTokenPair user input.sessionID input.now input.secret
      match repository.create input.storedAt (service.newSession user pair request input)
          world.sessions with
      | .error error => (.returned (.error (.repository error)), world)
      | .ok sessions => (.publishing user .userLoggedIn (.ok pair), { world with sessions := sessions })
  | (.publishing user eventType result, world) =>
      (.returned result,
        { world with events := world.events ++ [event user eventType request input] })
  | (.returned result, world) => (.returned result, world)

/-- Undisturbed, the steps of `Login` compute `login`. -/
theorem login_eq_loginSteps (request : LoginRequest) (input : LoginInput) (world : World Store) :
    (List.replicate 7 input).foldl (fun state step => service.loginStep repository request step state)
        (.reading, world) =
      (.returned (service.login repository request input world).1,
        (service.login repository request input world).2) := by
  simp only [List.replicate, List.foldl_cons, List.foldl_nil, login]
  cases found : world.users.getByEmail (service.normalized request) with
  | none =>
      simp only [normalized] at found
      simp only [loginStep, normalized, found]
  | some user =>
      simp only [normalized] at found
      by_cases locked : user.isLocked input.now
      · simp only [loginStep, normalized, found, if_pos locked]
      by_cases inactive : !user.isActive
      · simp only [loginStep, normalized, found, if_neg locked, if_pos inactive]
      by_cases wrong : !service.compareHashAndPassword user.passwordHash request.password
      · simp only [loginStep, normalized, found, if_neg locked, if_neg inactive, if_pos wrong]
      let pair := service.tokens.generateTokenPair user input.sessionID input.now input.secret
      by_cases failures : 0 < user.failedLoginCount
      · cases created : repository.create input.storedAt
            (service.newSession user pair request input) world.sessions <;>
          simp only [loginStep, normalized, found, if_neg locked, if_neg inactive, if_neg wrong,
            if_pos failures, created, pair]
      · cases created : repository.create input.storedAt
            (service.newSession user pair request input) world.sessions <;>
          simp only [loginStep, normalized, found, if_neg locked, if_neg inactive, if_neg wrong,
            if_neg failures, created, pair]

end AuthService

/-! ## Concurrent calls on one account -/

/-- Fifteen minutes. -/
def lockPeriod : Time := 15 * 60 * second

/-- The call has compared the password and has yet to count or to reset. -/
def LoginPhase.writes : LoginPhase → Bool
  | .incrementing _ | .resetting _ => true
  | _ => false

def LoginPhase.compares : LoginPhase → Bool
  | .comparing _ => true
  | _ => false

/-- A step that neither compares nor writes leaves count and lock alone, and
lets the call compare only if it found no lock. -/
theorem AuthService.loginStep_quiet {Store : Type} {service : AuthService}
    {repository : SessionRepository Store} {request : LoginRequest} {input : LoginInput}
    {phase next : LoginPhase} {world after : World Store} (email : String)
    (still : phase.compares = false) (idle : phase.writes = false)
    (step : service.loginStep repository request input (phase, world) = (next, after)) :
    next.writes = false ∧ Users.SameLock email world.users after.users ∧
      ∀ user, next = .comparing user → user.isLocked input.now = false := by
  cases phase with
  | reading =>
      simp only [loginStep] at step
      split at step <;> cases step <;> exact ⟨rfl, .refl _ _, by simp⟩
  | checking user =>
      simp only [loginStep] at step
      split at step
      · cases step
        exact ⟨rfl, .refl _ _, by simp⟩
      · rename_i unlocked
        split at step
        · cases step
          exact ⟨rfl, .refl _ _, by simp⟩
        · cases step
          refine ⟨rfl, .refl _ _, ?_⟩
          rintro _ ⟨⟩
          exact Bool.eq_false_iff.mpr unlocked
  | comparing user => cases still
  | incrementing user => cases idle
  | resetting user => cases idle
  | updating user =>
      cases step
      exact ⟨rfl, Users.sameLock_updateLastLogin _ _ _ _, by simp⟩
  | issuing user =>
      simp only [loginStep] at step
      split at step <;> cases step <;> exact ⟨rfl, .refl _ _, by simp⟩
  | publishing user eventType result =>
      cases step
      exact ⟨rfl, .refl _ _, by simp⟩
  | returned result =>
      cases step
      exact ⟨rfl, .refl _ _, by simp⟩

def LoginPhase.isReturned : LoginPhase → Bool
  | .returned _ => true
  | _ => false

structure LoginCall where
  request : LoginRequest
  phase : LoginPhase

/-- A password comparison that was made on the account. -/
structure Comparison where
  instant : Time
  matched : Bool
  /-- The row's `locked_until` was in the future. -/
  locked : Bool

structure LoginState (Store : Type) where
  world : World Store
  clock : Time
  calls : Nat → Option LoginCall
  /-- The newest first. -/
  comparisons : List Comparison

inductive LoginLabel where
  | begin (index : Nat) (request : LoginRequest)
  /-- The next step of a call, at a time that is not before the last one's. -/
  | advance (index : Nat) (input : LoginInput)

namespace LoginState

variable {Store : Type}

def start (world : World Store) (clock : Time) : LoginState Store := ⟨world, clock, fun _ => none, []⟩

def row (state : LoginState Store) (email : String) : Option User :=
  state.world.users.getByEmail email

/-- The failed comparisons since the last successful one. -/
def failures (state : LoginState Store) : List Comparison :=
  state.comparisons.takeWhile (!Comparison.matched ·)

/-- At most five comparisons are made in any fifteen minutes without a
successful one, and none while the account is locked. -/
structure LocksOut (state : LoginState Store) : Prop where
  bounded : WindowBounded Comparison.instant Comparison.matched lockPeriod 5 state.comparisons
  unlocked : ∀ comparison ∈ state.comparisons, comparison.locked = false

end LoginState

namespace AuthService

variable {Store : Type} (service : AuthService) (repository : SessionRepository Store)
  (email : String)

/-- The history after a step of the call. -/
def recorded (state : LoginState Store) (call : LoginCall) (now : Time) : List Comparison :=
  match call.phase with
  | .comparing user =>
      ⟨now, service.compareHashAndPassword user.passwordHash call.request.password,
        ((state.row email).map (·.isLocked now)).getD false⟩ :: state.comparisons
  | _ => state.comparisons

/-- The call takes its next step. -/
def advanced (state : LoginState Store) (index : Nat) (call : LoginCall) (input : LoginInput) :
    LoginState Store :=
  let (phase, world) := service.loginStep repository call.request input (call.phase, state.world)
  { world := world
    clock := input.now
    calls := Function.update state.calls index (some { call with phase := phase })
    comparisons := service.recorded email state call input.now }

/-- The logins on one account as a machine. -/
def loginMachine : Machine (LoginState Store) LoginLabel where
  step state
    | .begin index request =>
        match state.calls index with
        | some _ => none
        | none =>
            if service.normalized request = email then
              some
                { state with
                  calls := Function.update state.calls index (some ⟨request, .reading⟩) }
            else none
    | .advance index input =>
        match state.calls index with
        | none => none
        | some call =>
            if call.phase.isReturned ∨ input.now < state.clock then none
            else some (service.advanced repository email state index call input)

end AuthService

namespace LoginState

variable {Store : Type}

/-- A call that compares holds the lock that the row has, and no other call is
between its comparison and its statement. -/
def Undisturbed (email : String) (state : LoginState Store) : LoginLabel → Prop
  | .begin _ _ => True
  | .advance index _ => ∀ request user, state.calls index = some ⟨request, .comparing user⟩ →
      (∀ row, state.row email = some row → row.lockedUntil = user.lockedUntil) ∧
        ∀ other call, state.calls other = some call → call.phase.writes = false

/-- What the row says when every failure has been counted. -/
def Settled (state : LoginState Store) (row : User) : Prop :=
  state.failures.length ≤ row.failedLoginCount ∧
    (5 ≤ state.failures.length → ∃ lockedUntil, row.lockedUntil = some lockedUntil ∧
      ∀ newest ∈ state.comparisons.head?, newest.instant + lockPeriod ≤ lockedUntil)

/-- The invariant that guarded runs keep, about the account's row. -/
structure Inv (service : AuthService) (email : String) (row : User) (state : LoginState Store) :
    Prop extends state.LocksOut where
  found : state.row email = some row
  nonneg : 0 ≤ row.failedLoginCount
  account : ∀ index call, state.calls index = some call → service.normalized call.request = email
  sorted : NewestFirst Comparison.instant state.comparisons
  past : ∀ comparison ∈ state.comparisons, comparison.instant ≤ state.clock
  checked : ∀ index request user, state.calls index = some ⟨request, .comparing user⟩ →
    user.isLocked state.clock = false
  /-- One call at a time is between its comparison and its statement. -/
  exclusive : ∀ index call other another, state.calls index = some call → call.phase.writes →
    state.calls other = some another → another.phase.writes → index = other
  settled : (∀ index call, state.calls index = some call → call.phase.writes = false) →
    state.Settled row
  counting : ∀ index request user, state.calls index = some ⟨request, .incrementing user⟩ →
    state.failures.length ≤ row.failedLoginCount + 1
  clearing : ∀ index request user, state.calls index = some ⟨request, .resetting user⟩ →
    state.failures = []

variable {service : AuthService} {repository : SessionRepository Store} {email : String}
  {state : LoginState Store} {row : User}

/-- A call is the one that was set, or it was there before. -/
theorem calls_update {calls : Nat → Option LoginCall} {index other : Nat} {call found : LoginCall}
    (present : Function.update calls index (some call) other = some found) :
    other = index ∧ found = call ∨ other ≠ index ∧ calls other = some found := by
  by_cases itself : other = index
  · subst itself
    rw [Function.update_self] at present
    exact .inl ⟨rfl, (Option.some.inj present).symm⟩
  · rw [Function.update_of_ne itself] at present
    exact .inr ⟨itself, present⟩

/-- Without a comparison the lockout holds. -/
theorem inv_start {world : World Store} {clock : Time}
    (found : world.users.getByEmail email = some row) (nonneg : 0 ≤ row.failedLoginCount) :
    (start world clock).Inv service email row where
  bounded := windowBounded_nil
  unlocked := by simp [start]
  found := found
  nonneg := nonneg
  account := by simp [start]
  sorted := List.Pairwise.nil
  past := by simp [start]
  checked := by simp [start]
  exclusive := by simp [start]
  settled := by
    intro _
    constructor
    · simpa [failures, start] using nonneg
    · simp [failures, start]
  counting := by simp [start]
  clearing := by simp [start]

/-- A call moves on to a phase from which it does not write, and leaves behind a
row that agrees with what is pending. -/
theorem Inv.move (inv : state.Inv service email row) {index : Nat} {call : LoginCall}
    (present : state.calls index = some call) {phase : LoginPhase} {world : World Store}
    {now : Time} {after : User} (later : state.clock ≤ now) (idle : phase.writes = false)
    (unlocked : ∀ user, phase = .comparing user → user.isLocked now = false)
    (found : world.users.getByEmail email = some after) (nonneg : 0 ≤ after.failedLoginCount)
    (settled : (∀ other another, other ≠ index → state.calls other = some another →
      another.phase.writes = false) → state.Settled after)
    (others : ∀ other another, other ≠ index → state.calls other = some another →
      another.phase.writes → after.failedLoginCount = row.failedLoginCount) :
    Inv service email after
      { state with
        world := world
        clock := now
        calls := Function.update state.calls index (some { call with phase := phase }) } where
  bounded := inv.bounded
  unlocked := inv.unlocked
  found := found
  nonneg := nonneg
  account := by
    intro other another current
    rcases calls_update current with ⟨_, rfl⟩ | ⟨_, current⟩
    · exact inv.account index call present
    · exact inv.account other another current
  sorted := inv.sorted
  past := fun comparison member => Int.le_trans (inv.past comparison member) later
  checked := by
    intro other request user current
    rcases calls_update current with ⟨_, same⟩ | ⟨_, current⟩
    · exact unlocked user (congrArg LoginCall.phase same).symm
    · exact User.not_isLocked_mono later (inv.checked other request user current)
  exclusive := by
    intro first one second two currentFirst writesFirst currentSecond writesSecond
    rcases calls_update currentFirst with ⟨_, rfl⟩ | ⟨_, currentFirst⟩
    · exact absurd (idle.symm.trans writesFirst) Bool.false_ne_true
    rcases calls_update currentSecond with ⟨_, rfl⟩ | ⟨_, currentSecond⟩
    · exact absurd (idle.symm.trans writesSecond) Bool.false_ne_true
    exact inv.exclusive first one second two currentFirst writesFirst currentSecond writesSecond
  settled := by
    intro quiet
    refine settled fun other another apart current => quiet other another ?_
    change Function.update state.calls index _ other = some another
    rw [Function.update_of_ne apart]
    exact current
  counting := by
    intro other request user current
    rcases calls_update current with ⟨_, same⟩ | ⟨apart, current⟩
    · cases same
      cases idle
    · rw [others other _ apart current rfl]
      exact inv.counting other request user current
  clearing := by
    intro other request user current
    rcases calls_update current with ⟨_, same⟩ | ⟨_, current⟩
    · cases same
      cases idle
    · exact inv.clearing other request user current

/-- A step that neither compares nor writes. -/
theorem Inv.quiet (inv : state.Inv service email row) {index : Nat} {call : LoginCall}
    {input : LoginInput} (present : state.calls index = some call)
    (later : state.clock ≤ input.now) (still : call.phase.compares = false)
    (idle : call.phase.writes = false) :
    ∃ after, (service.advanced repository email state index call input).Inv service email after := by
  obtain ⟨phase, world, step⟩ : ∃ phase world,
      service.loginStep repository call.request input (call.phase, state.world) = (phase, world) :=
    ⟨_, _, rfl⟩
  obtain ⟨ended, same, unlocked⟩ := AuthService.loginStep_quiet email still idle step
  obtain ⟨after, found, count, lock⟩ := same row inv.found
  have unrecorded : service.recorded email state call input.now = state.comparisons := by
    unfold AuthService.recorded
    split
    · rename_i user comparing
      rw [comparing] at still
      cases still
    · rfl
  refine ⟨after, ?_⟩
  simp only [AuthService.advanced, step, unrecorded]
  refine inv.move present later ended unlocked found (count ▸ inv.nonneg) ?_ ?_
  · intro quiet
    rw [Settled, count, lock]
    refine inv.settled fun other another current => ?_
    by_cases itself : other = index
    · subst itself
      rw [present] at current
      cases current
      exact idle
    · exact quiet other another itself current
  · intro _ _ _ _ _
    exact count

/-- No other call writes while one does. -/
theorem Inv.alone (inv : state.Inv service email row) {index other : Nat} {call another : LoginCall}
    (present : state.calls index = some call) (writes : call.phase.writes) (apart : other ≠ index)
    (current : state.calls other = some another) (also : another.phase.writes) : False :=
  apart (inv.exclusive other another index call current also present writes)

/-- The failure that was pending is counted, and the fifth locks. -/
theorem Inv.increment (inv : state.Inv service email row) {index : Nat} {request : LoginRequest}
    {user : User} {input : LoginInput}
    (present : state.calls index = some ⟨request, .incrementing user⟩)
    (later : state.clock ≤ input.now) :
    ∃ after, (service.advanced repository email state index ⟨request, .incrementing user⟩ input).Inv
      service email after := by
  have own : service.normalized request = email := inv.account index _ present
  obtain ⟨after, found, count, lock⟩ := Users.getByEmail_increment input.now inv.found
  refine ⟨after, ?_⟩
  simp only [AuthService.advanced, AuthService.recorded, AuthService.loginStep, own]
  refine inv.move present later rfl (by simp) found ?_ ?_ ?_
  · have nonneg := inv.nonneg
    omega
  · intro _
    have counted := inv.counting index request user present
    constructor
    · omega
    · intro full
      have fifth : 5 ≤ after.failedLoginCount := by omega
      refine ⟨_, lock fifth, fun newest head => ?_⟩
      have past := inv.past newest (List.mem_of_mem_head? head)
      exact Int.add_le_add_right (Int.le_trans past later) lockPeriod
  · intro other another apart current also
    exact (inv.alone present rfl apart current also).elim

/-- The reset after a successful login finds no failure since. -/
theorem Inv.reset (inv : state.Inv service email row) {index : Nat} {request : LoginRequest}
    {user : User} {input : LoginInput}
    (present : state.calls index = some ⟨request, .resetting user⟩)
    (later : state.clock ≤ input.now) :
    ∃ after, (service.advanced repository email state index ⟨request, .resetting user⟩ input).Inv
      service email after := by
  obtain ⟨after, found, count⟩ := Users.getByEmail_reset user.id inv.found
  have nonneg : 0 ≤ after.failedLoginCount := by
    have before := inv.nonneg
    omega
  refine ⟨after, ?_⟩
  simp only [AuthService.advanced, AuthService.recorded, AuthService.loginStep]
  refine inv.move present later rfl (by simp) found nonneg ?_ ?_
  · intro _
    rw [Settled, inv.clearing index request user present]
    constructor
    · exact nonneg
    · intro full
      cases full
  · intro other another apart current also
    exact (inv.alone present rfl apart current also).elim

/-- There is room for a failed comparison: with five failures behind it, it
comes after the lock that the last of them set. -/
theorem Inv.room (inv : state.Inv service email row) {index : Nat} {request : LoginRequest}
    {user : User} {now : Time}
    (present : state.calls index = some ⟨request, .comparing user⟩) (later : state.clock ≤ now)
    (lock : row.lockedUntil = user.lockedUntil) (settled : state.Settled row) {start : Int}
    (inside : inWindow lockPeriod start now)
    (clear : Clear Comparison.instant Comparison.matched lockPeriod start state.comparisons) :
    windowCount Comparison.instant lockPeriod start state.comparisons < 5 := by
  have past : ∀ comparison ∈ state.comparisons, comparison.instant ≤ now :=
    fun comparison member => Int.le_trans (inv.past comparison member) later
  have recent : windowCount Comparison.instant lockPeriod start state.comparisons ≤
      state.failures.length := windowCount_le_takeWhile inv.sorted past inside clear
  by_cases full : 5 ≤ state.failures.length
  · obtain ⟨lockedUntil, set, after⟩ := settled.2 full
    have unlocked := inv.checked index request user present
    rw [User.isLocked, ← lock, set] at unlocked
    have open_ : lockedUntil ≤ state.clock := Int.not_lt.mp (of_decide_eq_false unlocked)
    have sorted := inv.sorted
    have failures : state.failures = state.comparisons.takeWhile (!Comparison.matched ·) := rfl
    cases history : state.comparisons with
    | nil =>
        rw [failures, history] at full
        cases full
    | cons newest rest =>
        rw [history] at sorted after
        have old : newest.instant + lockPeriod ≤ now :=
          Int.le_trans (after newest rfl) (Int.le_trans open_ later)
        rw [windowCount_eq_zero_of_old sorted old inside]
        exact Nat.zero_lt_succ 4
  · omega

/-- A comparison is recorded, while no call waits to write, and its call moves on. -/
theorem Inv.record (inv : state.Inv service email row) {index : Nat} {call : LoginCall}
    (present : state.calls index = some call)
    (quiet : ∀ other another, state.calls other = some another → another.phase.writes = false)
    (phase : LoginPhase) (comparison : Comparison) (later : state.clock ≤ comparison.instant)
    (open_ : comparison.locked = false) (still : phase.compares = false)
    (bounded : WindowBounded Comparison.instant Comparison.matched lockPeriod 5
      (comparison :: state.comparisons))
    (settled : phase.writes = false → comparison.matched)
    (counting : ∀ user, phase = .incrementing user → state.failures.length ≤ row.failedLoginCount)
    (clearing : ∀ user, phase = .resetting user → comparison.matched) :
    Inv service email row
      { state with
        clock := comparison.instant
        calls := Function.update state.calls index (some { call with phase := phase })
        comparisons := comparison :: state.comparisons } where
  bounded := bounded
  unlocked := by
    intro other member
    rcases List.mem_cons.mp member with rfl | member
    · exact open_
    · exact inv.unlocked other member
  found := inv.found
  nonneg := inv.nonneg
  account := by
    intro other another current
    rcases calls_update current with ⟨_, rfl⟩ | ⟨_, current⟩
    · exact inv.account index call present
    · exact inv.account other another current
  sorted := by
    refine List.pairwise_cons.mpr ⟨fun older member => ?_, inv.sorted⟩
    exact Int.le_trans (inv.past older member) later
  past := by
    intro other member
    rcases List.mem_cons.mp member with rfl | member
    · exact Int.le_refl _
    · exact Int.le_trans (inv.past other member) later
  checked := by
    intro other request user current
    rcases calls_update current with ⟨_, same⟩ | ⟨_, current⟩
    · cases same
      cases still
    · exact User.not_isLocked_mono later (inv.checked other request user current)
  exclusive := by
    intro first one second two currentFirst writesFirst currentSecond writesSecond
    rcases calls_update currentFirst with ⟨rfl, _⟩ | ⟨_, currentFirst⟩
    · rcases calls_update currentSecond with ⟨rfl, _⟩ | ⟨_, currentSecond⟩
      · rfl
      · exact absurd writesSecond (Bool.eq_false_iff.mp (quiet second two currentSecond))
    · exact absurd writesFirst (Bool.eq_false_iff.mp (quiet first one currentFirst))
  settled := by
    intro none
    have matched := settled (none index _ (Function.update_self ..))
    rw [Settled, failures, List.takeWhile_cons_of_neg (by simp [matched])]
    constructor
    · exact inv.nonneg
    · intro full
      cases full
  counting := by
    intro other request user current
    rcases calls_update current with ⟨_, same⟩ | ⟨_, current⟩
    · cases same
      have counted := counting user rfl
      simp only [failures] at counted ⊢
      rw [List.takeWhile_cons]
      split
      · simp only [List.length_cons]
        omega
      · have nonneg := inv.nonneg
        simp only [List.length_nil]
        omega
    · cases quiet other _ current
  clearing := by
    intro other request user current
    rcases calls_update current with ⟨_, same⟩ | ⟨_, current⟩
    · cases same
      exact List.takeWhile_cons_of_neg (by simp [clearing user rfl])
    · cases quiet other _ current

/-- A comparison that nothing disturbs keeps the invariant. -/
theorem Inv.compare (inv : state.Inv service email row) {index : Nat} {request : LoginRequest}
    {user : User} {input : LoginInput}
    (present : state.calls index = some ⟨request, .comparing user⟩)
    (later : state.clock ≤ input.now)
    (guard : state.Undisturbed email (.advance index input)) :
    (service.advanced repository email state index ⟨request, .comparing user⟩ input).Inv
      service email row := by
  obtain ⟨sameLock, quiet⟩ := guard request user present
  have lock := sameLock row inv.found
  have settled := inv.settled quiet
  have unlocked : row.isLocked input.now = false := by
    have checked := User.not_isLocked_mono later (inv.checked index request user present)
    rw [User.isLocked] at checked ⊢
    rwa [lock]
  have observed : ((state.row email).map (·.isLocked input.now)).getD false = false := by
    rw [inv.found]
    exact unlocked
  simp only [AuthService.advanced, AuthService.recorded, AuthService.loginStep, observed]
  cases matched : service.compareHashAndPassword user.passwordHash request.password with
  | false =>
      simp only [Bool.not_false, if_true]
      have bounded : WindowBounded Comparison.instant Comparison.matched lockPeriod 5
          (⟨input.now, false, false⟩ :: state.comparisons) :=
        inv.bounded.cons fun start inside clear =>
          inv.room present later lock settled inside clear.tail
      exact inv.record present quiet (.incrementing user) ⟨input.now, false, false⟩ later rfl rfl
        bounded (by simp [LoginPhase.writes]) (fun _ _ => settled.1) (by simp)
  | true =>
      have bounded : WindowBounded Comparison.instant Comparison.matched lockPeriod 5
          (⟨input.now, true, false⟩ :: state.comparisons) := inv.bounded.cons_excused rfl
      by_cases failed : 0 < user.failedLoginCount
      · simp only [failed, Bool.not_true, Bool.false_eq_true, if_false, if_true]
        exact inv.record present quiet (.resetting user) ⟨input.now, true, false⟩ later rfl rfl
          bounded (fun _ => rfl) (by simp) fun _ _ => rfl
      · simp only [failed, Bool.not_true, Bool.false_eq_true, if_false]
        exact inv.record present quiet (.updating user) ⟨input.now, true, false⟩ later rfl rfl
          bounded (fun _ => rfl) (by simp) (by simp)

/-- Another call begins. -/
theorem Inv.begin (inv : state.Inv service email row) {index : Nat} {request : LoginRequest}
    (own : service.normalized request = email) (unused : state.calls index = none) :
    Inv service email row
      { state with calls := Function.update state.calls index (some ⟨request, .reading⟩) } where
  bounded := inv.bounded
  unlocked := inv.unlocked
  found := inv.found
  nonneg := inv.nonneg
  account := by
    intro other another current
    rcases calls_update current with ⟨_, rfl⟩ | ⟨_, current⟩
    · exact own
    · exact inv.account other another current
  sorted := inv.sorted
  past := inv.past
  checked := by
    intro other request user current
    rcases calls_update current with ⟨_, same⟩ | ⟨_, current⟩
    · cases same
    · exact inv.checked other request user current
  exclusive := by
    intro first one second two currentFirst writesFirst currentSecond writesSecond
    rcases calls_update currentFirst with ⟨_, rfl⟩ | ⟨_, currentFirst⟩
    · cases writesFirst
    rcases calls_update currentSecond with ⟨_, rfl⟩ | ⟨_, currentSecond⟩
    · cases writesSecond
    exact inv.exclusive first one second two currentFirst writesFirst currentSecond writesSecond
  settled := by
    intro quiet
    refine inv.settled fun other another current => quiet other another ?_
    have apart : other ≠ index := by
      rintro rfl
      rw [unused] at current
      cases current
    change Function.update state.calls index _ other = some another
    rw [Function.update_of_ne apart]
    exact current
  counting := by
    intro other request user current
    rcases calls_update current with ⟨_, same⟩ | ⟨_, current⟩
    · cases same
    · exact inv.counting other request user current
  clearing := by
    intro other request user current
    rcases calls_update current with ⟨_, same⟩ | ⟨_, current⟩
    · cases same
    · exact inv.clearing other request user current

/-- An undisturbed step keeps the invariant. -/
theorem Inv.step (inv : state.Inv service email row) {label : LoginLabel}
    (guard : state.Undisturbed email label) {next : LoginState Store}
    (step : (service.loginMachine repository email).step state label = some next) :
    ∃ after, next.Inv service email after := by
  cases label with
  | begin index request =>
      simp only [AuthService.loginMachine] at step
      split at step
      · cases step
      · rename_i unused
        split at step
        · rename_i own
          cases step
          exact ⟨row, inv.begin own unused⟩
        · cases step
  | advance index input =>
      simp only [AuthService.loginMachine] at step
      split at step
      · cases step
      · rename_i call present
        split at step
        · cases step
        · rename_i enabled
          cases step
          have later : state.clock ≤ input.now := Int.not_lt.mp fun early => enabled (.inr early)
          obtain ⟨request, phase⟩ := call
          cases phase with
          | comparing user => exact ⟨row, inv.compare present later guard⟩
          | incrementing user => exact inv.increment present later
          | resetting user => exact inv.reset present later
          | reading => exact inv.quiet present later rfl rfl
          | checking user => exact inv.quiet present later rfl rfl
          | updating user => exact inv.quiet present later rfl rfl
          | issuing user => exact inv.quiet present later rfl rfl
          | publishing user eventType result => exact inv.quiet present later rfl rfl
          | returned result => exact inv.quiet present later rfl rfl

end LoginState

/-- In a run whose comparisons are all undisturbed, of any number of concurrent
logins on one account, the lockout holds at every moment. -/
theorem locksOut_of_guarded {Store : Type} (service : AuthService)
    (repository : SessionRepository Store) (email : String) (world : World Store) (clock : Time)
    (row : User) (found : world.users.getByEmail email = some row)
    (nonneg : 0 ≤ row.failedLoginCount) (labels : List LoginLabel)
    (guarded : (service.loginMachine repository email).Guarded (LoginState.Undisturbed email)
      (.start world clock) labels) :
    (service.loginMachine repository email).Along LoginState.LocksOut (.start world clock)
      labels := by
  have kept : (service.loginMachine repository email).Along
      (fun state => ∃ row, state.Inv service email row) (.start world clock) labels :=
    Machine.along_of_guarded (fun ⟨_, inv⟩ guard step => inv.step guard step)
      ⟨row, LoginState.inv_start found nonneg⟩ guarded
  exact kept.mono fun state ⟨_, inv⟩ => inv.toLocksOut

namespace Installed

def wrongRequest : LoginRequest := { loginRequest with password := "Wrong-Horse-9" }

def unopened : LoginState (Uuid → Option Session) := .start (world fun _ => none) 0

def lockoutMachine : Machine (LoginState (Uuid → Option Session)) LoginLabel :=
  service.loginMachine sessionMap.toSessionRepository user.email

end Installed

namespace LoginState

variable {Store : Type}

/-- Whether a comparison by one of `count` calls is undisturbed. -/
def undisturbed (email : String) (count : Nat) (state : LoginState Store) : LoginLabel → Bool
  | .begin index _ => index < count
  | .advance index _ => (state.calls index).all fun call =>
      match call.phase with
      | .comparing user =>
          ((state.row email).all fun row => row.lockedUntil = user.lockedUntil) &&
            (List.range count).all fun other =>
              (state.calls other).all fun call => !call.phase.writes
      | _ => true

/-- There are calls below this number only. -/
def Fewer (count : Nat) (state : LoginState Store) : Prop :=
  ∀ index call, state.calls index = some call → index < count

/-- What the check passes is undisturbed. -/
theorem undisturbed_sound {email : String} {count : Nat} {state : LoginState Store}
    {label : LoginLabel} (fewer : state.Fewer count)
    (passed : state.undisturbed email count label = true) : state.Undisturbed email label := by
  cases label with
  | begin _ _ => trivial
  | advance index input =>
      intro request user current
      rw [undisturbed, current, Option.all_some, Bool.and_eq_true] at passed
      obtain ⟨sameLock, quiet⟩ := passed
      constructor
      · intro row found
        rw [found] at sameLock
        exact of_decide_eq_true sameLock
      · intro other call present
        have inside := List.mem_range.mpr (fewer other call present)
        have still := List.all_eq_true.mp quiet other inside
        rw [present] at still
        exact Bool.not_eq_eq_eq_not.mp still

/-- A step that passes begins no call beyond the number. -/
theorem fewer_of_step {service : AuthService} {repository : SessionRepository Store}
    {email : String} {count : Nat} {state next : LoginState Store} {label : LoginLabel}
    (fewer : state.Fewer count) (passed : state.undisturbed email count label = true)
    (step : (service.loginMachine repository email).step state label = some next) :
    next.Fewer count := by
  cases label with
  | begin index request =>
      simp only [AuthService.loginMachine] at step
      split at step
      · cases step
      · split at step
        · cases step
          intro other call current
          rcases calls_update current with ⟨rfl, _⟩ | ⟨_, current⟩
          · exact of_decide_eq_true passed
          · exact fewer other call current
        · cases step
  | advance index input =>
      simp only [AuthService.loginMachine] at step
      split at step
      · cases step
      · rename_i call present
        split at step
        · cases step
        · cases step
          intro other another current
          rcases calls_update current with ⟨rfl, _⟩ | ⟨_, current⟩
          · exact fewer other call present
          · exact fewer other another current

end LoginState

/-- Five calls that read the row together compare and count one after the other; the
next one is refused, and with the right password one logs in after the lock. -/
def lockedThenOpened : List LoginLabel :=
  (List.range 5).map (fun index => .begin index Installed.wrongRequest) ++
    (List.range 5 ++ List.range 5).map (fun index => .advance index Installed.loginInput) ++
    (List.range 5).flatMap (fun index => List.replicate 2 (.advance index Installed.loginInput)) ++
    .begin 5 Installed.loginRequest :: List.replicate 2 (.advance 5 Installed.loginInput) ++
    .begin 6 Installed.loginRequest :: List.replicate 7 (.advance 6
      { Installed.loginInput with now := lockPeriod, storedAt := lockPeriod })

/-- Five failures lock the account, and the lock ends after fifteen minutes. -/
theorem locksOut_lockedThenOpened :
    Installed.lockoutMachine.Along LoginState.LocksOut Installed.unopened lockedThenOpened ∧
      (Installed.lockoutMachine.exec Installed.unopened lockedThenOpened).map (fun state =>
        (state.comparisons.map fun comparison => (comparison.instant, comparison.matched),
          [5, 6].map fun index => (state.calls index).map fun call => call.phase.isReturned)) =
        some ((lockPeriod, true) :: List.replicate 5 (0, false), [some true, some true]) := by
  constructor
  · refine locksOut_of_guarded _ _ _ _ _ Installed.user rfl (Int.le_refl 0) _ ?_
    have none : Installed.unopened.Fewer 7 := by
      intro index call current
      cases current
    exact Machine.guarded_of_passes_along LoginState.undisturbed_sound LoginState.fewer_of_step
      none (by decide +kernel)
  · decide +kernel

/-- Six calls read the row before any of them has counted its failure. -/
def sixAtOnce : List LoginLabel :=
  (List.range 6).map (fun index => .begin index Installed.wrongRequest) ++
    (List.range 6 ++ List.range 6 ++ List.range 6).map fun index =>
      .advance index Installed.loginInput

/-- Six passwords are compared where five may be. -/
theorem locksOut_fails :
    ¬ ∀ labels, Installed.lockoutMachine.Along LoginState.LocksOut Installed.unopened labels := by
  intro always
  have run : (Installed.lockoutMachine.exec Installed.unopened sixAtOnce).map
      (fun state => (windowCount Comparison.instant lockPeriod 0 state.comparisons,
        state.comparisons.any Comparison.matched)) = some (6, false) := by decide +kernel
  obtain ⟨state, reached, observed⟩ := Option.map_eq_some_iff.mp run
  obtain ⟨count, unmatched⟩ := Prod.mk.inj observed
  have locksOut := (always sixAtOnce).final reached
  have bound := locksOut.bounded 0 fun comparison member matched =>
    absurd matched (List.any_eq_false.mp unmatched comparison member)
  omega

end Sentinel.Auth
