import Sentinel.Auth.Service
import Sentinel.Semantics.Machine

/-!
# Concurrent logins, refreshes and logouts

Any number of `Refresh` calls run over one faithful repository and interleave
between their repository calls. Besides the store and the calls, the state keeps
a history: what was created, generated, stored, exchanged and revoked.
-/

namespace Sentinel.Auth

open Sentinel.Wire Sentinel.Semantics

/-- The session that a call holds in a local variable. -/
def RefreshPhase.session? : RefreshPhase → Option Session
  | .comparing session | .readingUser session | .generating session _ | .storing session _ =>
      some session
  | _ => none

/-- A call of `Refresh`, in progress or returned. -/
structure Call where
  token : String
  phase : RefreshPhase
  /-- How many exchanges had been made when the call read its session. -/
  readAt : Nat
  /-- The sessions that were revoked when the call began. -/
  revokedAtBegin : List Uuid

structure AuthState (Store : Type) where
  store : Store
  calls : Nat → Option Call
  /-- Id and family of the sessions that logins created. -/
  created : List (Uuid × Uuid)
  /-- Session and stored form of every refresh token that was generated. -/
  drawn : List (Uuid × String)
  /-- The entries of `drawn` that were stored. -/
  issued : List (Uuid × String)
  /-- The calls that exchanged their token, with it. -/
  exchanges : List (Nat × String)
  revoked : List Uuid

namespace AuthState

variable {Store : Type}

def start (store : Store) : AuthState Store := ⟨store, fun _ => none, [], [], [], [], []⟩

def put (state : AuthState Store) (index : Nat) (call : Call) : AuthState Store :=
  { state with calls := Function.update state.calls index (some call) }

/-- `uuid.New` returns an id that nobody has named. -/
def FreshSession (state : AuthState Store) (id : Uuid) : Prop :=
  (∀ entry ∈ state.created, entry.1 ≠ id) ∧ id ∉ state.revoked

/-- 32 new random bytes give a token with a new digest. -/
def FreshToken (state : AuthState Store) (hash : String) : Prop :=
  ∀ entry ∈ state.drawn, entry.2 ≠ hash

instance (state : AuthState Store) (id : Uuid) : Decidable (state.FreshSession id) :=
  inferInstanceAs (Decidable (_ ∧ _))

instance (state : AuthState Store) (hash : String) : Decidable (state.FreshToken hash) :=
  inferInstanceAs (Decidable (∀ entry ∈ state.drawn, entry.2 ≠ hash))

/-- A call is the one that was put, or it was there before. -/
theorem calls_put {state : AuthState Store} {index other : Nat} {call found : Call}
    (present : (state.put index call).calls other = some found) :
    other = index ∧ found = call ∨ other ≠ index ∧ state.calls other = some found := by
  by_cases itself : other = index
  · subst itself
    simp only [put, Function.update_self, Option.some.injEq] at present
    exact .inl ⟨rfl, present.symm⟩
  · simp only [put, Function.update_of_ne itself] at present
    exact .inr ⟨itself, present⟩

def members (state : AuthState Store) (family : Uuid) : List Uuid :=
  (state.created.filter (·.2 = family)).map Prod.fst

end AuthState

inductive AuthLabel where
  /-- A whole call of `Login`; it uses the session store once. -/
  | login (request : LoginRequest) (input : LoginInput) (users : Users)
  | begin (index : Nat) (token : String)
  /-- The next step of a call of `Refresh`. -/
  | advance (index : Nat) (input : StepInput)
  | logout (now : Time) (sessionID : Uuid)

namespace AuthService

variable {Store : Type} (service : AuthService) (repository : FaithfulRepository Store)

def loginAtOnce (state : AuthState Store) (request : LoginRequest) (input : LoginInput)
    (users : Users) : Option (AuthState Store) :=
  match service.login repository.toSessionRepository request input ⟨users, state.store, []⟩ with
  | (.error _, _) => some state
  | (.ok pair, world) =>
      if state.FreshSession input.sessionID ∧ state.FreshToken (service.hash pair.refreshToken) then
        some
          { state with
            store := world.sessions
            created := (input.sessionID, input.tokenFamily) :: state.created
            drawn := (input.sessionID, service.hash pair.refreshToken) :: state.drawn
            issued := (input.sessionID, service.hash pair.refreshToken) :: state.issued }
      else none

def advance (state : AuthState Store) (index : Nat) (input : StepInput) :
    Option (AuthState Store) :=
  match state.calls index with
  | none => none
  | some call =>
      let (phase, store) := service.refreshStep repository.toSessionRepository call.token input
        (call.phase, state.store)
      let moved := { state.put index { call with phase := phase } with store := store }
      match call.phase, phase with
      | .returned _, _ => none
      | .reading _, .comparing _ =>
          some (state.put index { call with phase := phase, readAt := state.exchanges.length })
      | .revoking family, _ =>
          match repository.revokeFamily input.now family state.store with
          | .ok _ => some { moved with revoked := state.revoked ++ state.members family }
          | .error _ => some moved
      | .generating _ _, .storing session _ =>
          if state.FreshToken session.refreshTokenHash then
            some { moved with drawn := (session.id, session.refreshTokenHash) :: state.drawn }
          else none
      | .storing session _, .returned (.ok _) =>
          some
            { moved with
              issued := (session.id, session.refreshTokenHash) :: state.issued
              exchanges := state.exchanges ++ [(index, call.token)] }
      | _, _ => some moved

/-- The service under concurrent requests. -/
def machine : Machine (AuthState Store) AuthLabel where
  step state
    | .login request input users => service.loginAtOnce repository state request input users
    | .begin index token =>
        match state.calls index with
        | some _ => none
        | none => some (state.put index ⟨token, .validating, 0, state.revoked⟩)
    | .advance index input => service.advance repository state index input
    | .logout now sessionID =>
        match AuthService.logout repository.toSessionRepository now sessionID state.store with
        | (.ok _, store) =>
            some { state with store := store, revoked := sessionID :: state.revoked }
        | (.error _, _) => some state

/-- The steps of a call that neither read nor write a session. -/
inductive Quiet (token : String) : RefreshPhase → RefreshPhase → Prop where
  | failed {phase : RefreshPhase} (running : ∀ result, phase ≠ .returned result)
      (error : AuthError) : Quiet token phase (.returned (.error error))
  | validated {sessionID : Uuid} (validated : validateRefreshToken token = .ok sessionID) :
      Quiet token .validating (.reading sessionID)
  | replaced {session : Session} : Quiet token (.comparing session) (.revoking session.tokenFamily)
  | matched {session : Session} (matched : service.hash token = session.refreshTokenHash) :
      Quiet token (.comparing session) (.readingUser session)
  | found {session : Session} {user : User} :
      Quiet token (.readingUser session) (.generating session user)

/-- What a step of a call can do. -/
inductive Advanced (state : AuthState Store) (index : Nat) (input : StepInput) (call : Call) :
    AuthState Store → Prop where
  | quiet {phase : RefreshPhase} (quiet : service.Quiet call.token call.phase phase) :
      Advanced state index input call (state.put index { call with phase := phase })
  | read {sessionID : Uuid} {session : Session} (phase : call.phase = .reading sessionID)
      (live : repository.Live state.store sessionID session) :
      Advanced state index input call (state.put index
        { call with phase := .comparing session, readAt := state.exchanges.length })
  | revoked {family : Uuid} {store : Store} (phase : call.phase = .revoking family)
      (revoked : repository.revokeFamily input.now family state.store = .ok store) :
      Advanced state index input call
        { state.put index { call with phase := .returned (.error .refreshReuse) } with
          store := store
          revoked := state.revoked ++ state.members family }
  | generated {session : Session} {user : User} (pair : TokenPair)
      (phase : call.phase = .generating session user)
      (fresh : state.FreshToken (service.hash pair.refreshToken)) :
      Advanced state index input call
        { state.put index
            { call with phase := .storing (service.rotated session pair input.now) pair } with
          drawn := (session.id, service.hash pair.refreshToken) :: state.drawn }
  | stored {session : Session} {pair : TokenPair} {store : Store}
      (phase : call.phase = .storing session pair)
      (created : repository.create input.now session state.store = .ok store) :
      Advanced state index input call
        { state.put index { call with phase := .returned (.ok pair) } with
          store := store
          issued := (session.id, session.refreshTokenHash) :: state.issued
          exchanges := state.exchanges ++ [(index, call.token)] }

/-- What a step of the machine can do. -/
inductive Transition (state : AuthState Store) : AuthLabel → AuthState Store → Prop where
  | unchanged (label : AuthLabel) : Transition state label state
  | loggedIn {request : LoginRequest} {input : LoginInput} {users : Users} {session : Session}
      {store : Store} (unrevoked : session.isRevoked = false)
      (freshSession : state.FreshSession session.id)
      (freshToken : state.FreshToken session.refreshTokenHash)
      (created : repository.create input.storedAt session state.store = .ok store) :
      Transition state (.login request input users)
        { state with
          store := store
          created := (session.id, session.tokenFamily) :: state.created
          drawn := (session.id, session.refreshTokenHash) :: state.drawn
          issued := (session.id, session.refreshTokenHash) :: state.issued }
  | began {index : Nat} (token : String) (absent : state.calls index = none) :
      Transition state (.begin index token)
        (state.put index ⟨token, .validating, 0, state.revoked⟩)
  | advanced {index : Nat} {input : StepInput} {call : Call} {next : AuthState Store}
      (present : state.calls index = some call)
      (advanced : service.Advanced repository state index input call next) :
      Transition state (.advance index input) next
  | loggedOut {now : Time} {sessionID : Uuid} {store : Store}
      (revoked : repository.revokeByID now sessionID state.store = .ok store) :
      Transition state (.logout now sessionID)
        { state with store := store, revoked := sessionID :: state.revoked }

variable {service repository}

/-- Every step of a call is one of those that a call can take. -/
theorem advance_advanced {state next : AuthState Store} {index : Nat} {input : StepInput}
    (step : service.advance repository state index input = some next) :
    ∃ call, state.calls index = some call ∧
      service.Advanced repository state index input call next := by
  unfold advance at step
  cases present : state.calls index with
  | none => simp only [present] at step; cases step
  | some call =>
      refine ⟨call, rfl, ?_⟩
      simp only [present] at step
      cases phase : call.phase with
      | validating =>
          cases validated : validateRefreshToken call.token with
          | error _ =>
              simp only [phase, refreshStep, validated, Option.some.injEq] at step
              subst step
              exact .quiet (.failed (by simp [phase]) _)
          | ok sessionID =>
              simp only [phase, refreshStep, validated, Option.some.injEq] at step
              subst step
              exact .quiet (phase ▸ .validated validated)
      | reading sessionID =>
          cases read : repository.getByID input.now sessionID state.store with
          | error _ =>
              simp only [phase, refreshStep, read, Option.some.injEq] at step
              subst step
              exact .quiet (.failed (by simp [phase]) _)
          | ok session =>
              by_cases dead : session.isRevoked ∨ session.expiresAt < input.now
              · simp only [phase, refreshStep, read, if_pos dead, Option.some.injEq] at step
                subst step
                exact .quiet (.failed (by simp [phase]) _)
              · simp only [phase, refreshStep, read, if_neg dead, Option.some.injEq] at step
                subst step
                exact .read phase ⟨repository.getByID_ok read,
                  Bool.eq_false_iff.mpr fun revoked => dead (.inl revoked)⟩
      | comparing session =>
          by_cases replaced : service.hash call.token ≠ session.refreshTokenHash
          · simp only [phase, refreshStep, if_pos replaced, Option.some.injEq] at step
            subst step
            exact .quiet (phase ▸ .replaced)
          · simp only [phase, refreshStep, if_neg replaced, Option.some.injEq] at step
            subst step
            exact .quiet (phase ▸ .matched (not_not.mp replaced))
      | revoking family =>
          cases revoked : repository.revokeFamily input.now family state.store with
          | error _ =>
              simp only [phase, refreshStep, revoked, Option.some.injEq] at step
              subst step
              exact .quiet (.failed (by simp [phase]) _)
          | ok store =>
              simp only [phase, refreshStep, revoked, Option.some.injEq] at step
              subst step
              exact .revoked phase revoked
      | readingUser session =>
          cases found : input.users.getByID session.userID with
          | none =>
              simp only [phase, refreshStep, found, Option.some.injEq] at step
              subst step
              exact .quiet (.failed (by simp [phase]) _)
          | some user =>
              cases active : user.isActive with
              | false =>
                  simp only [phase, refreshStep, found, active, Bool.not_false, if_true,
                    Option.some.injEq] at step
                  subst step
                  exact .quiet (.failed (by simp [phase]) _)
              | true =>
                  simp only [phase, refreshStep, found, active, Bool.not_true, Bool.false_eq_true,
                    if_false, Option.some.injEq] at step
                  subst step
                  exact .quiet (phase ▸ .found)
      | generating session user =>
          simp only [phase, refreshStep] at step
          split at step
          · rename_i fresh
            simp only [Option.some.injEq] at step
            subst step
            exact .generated _ phase fresh
          · cases step
      | storing session pair =>
          cases created : repository.create input.now session state.store with
          | error _ =>
              simp only [phase, refreshStep, created, Option.some.injEq] at step
              subst step
              exact .quiet (.failed (by simp [phase]) _)
          | ok store =>
              simp only [phase, refreshStep, created, Option.some.injEq] at step
              subst step
              exact .stored phase created
      | returned result =>
          simp only [phase, refreshStep] at step
          cases step

/-- Every step of the machine is one of its transitions. -/
theorem step_transition {state next : AuthState Store} {label : AuthLabel}
    (step : (service.machine repository).step state label = some next) :
    service.Transition repository state label next := by
  cases label with
  | login request input users =>
      change service.loginAtOnce repository state request input users = some next at step
      unfold loginAtOnce at step
      split at step
      · cases step
        exact .unchanged _
      · rename_i pair world loggedIn
        obtain ⟨user, -, -, created⟩ := login_ok loggedIn
        split at step
        · rename_i fresh
          cases step
          refine .loggedIn ?_ fresh.1 fresh.2 created
          rfl
        · cases step
  | begin index token =>
      simp only [machine] at step
      split at step
      · cases step
      · rename_i absent
        cases step
        exact .began token absent
  | advance index input =>
      obtain ⟨call, present, advanced⟩ := advance_advanced step
      exact .advanced present advanced
  | logout now sessionID =>
      simp only [machine, logout] at step
      split at step
      · rename_i revoked
        split at revoked <;> cases revoked
        rename_i revoked
        cases step
        exact .loggedOut revoked
      · cases step
        exact .unchanged _

/-- What a call knows about the session it works on. -/
structure CallSound (call : Call) : Prop where
  reading : ∀ {sessionID}, call.phase = .reading sessionID →
    validateRefreshToken call.token = .ok sessionID
  held : ∀ {session}, call.phase.session? = some session →
    validateRefreshToken call.token = .ok session.id ∧ session.isRevoked = false

/-- Live records are filed under their ids and calls hold live sessions. -/
structure Sound (repository : FaithfulRepository Store) (state : AuthState Store) : Prop where
  stored : ∀ {id session}, repository.Live state.store id session → session.id = id
  calls : ∀ {index call}, state.calls index = some call → CallSound call

/-- Over an empty store there is nothing to know. -/
theorem sound_start {store : Store} (empty : ∀ id, repository.view store id = none) :
    Sound repository (AuthState.start store) where
  stored live := by
    have stored := live.1
    rw [AuthState.start, empty] at stored
    cases stored
  calls present := by cases present

/-- A call's own steps keep what it knows. -/
theorem Quiet.sound {call : Call} {phase : RefreshPhase} (sound : CallSound call)
    (quiet : service.Quiet call.token call.phase phase) :
    CallSound { call with phase := phase } := by
  generalize before : call.phase = old at quiet
  cases quiet with
  | failed _ _ => exact ⟨nofun, nofun⟩
  | validated validated =>
      exact ⟨fun | rfl => validated, nofun⟩
  | replaced => exact ⟨nofun, nofun⟩
  | matched _ =>
      refine ⟨nofun, fun held => ?_⟩
      cases held
      exact sound.held (by rw [before]; rfl)
  | found =>
      refine ⟨nofun, fun held => ?_⟩
      cases held
      exact sound.held (by rw [before]; rfl)

/-- A step of one call keeps every call sound. -/
theorem Advanced.callSound {state next : AuthState Store} {index : Nat} {input : StepInput}
    {call : Call} (sound : Sound repository state) (present : state.calls index = some call)
    (advanced : service.Advanced repository state index input call next) {other : Nat}
    {found : Call} (after : next.calls other = some found) : CallSound found := by
  have before := sound.calls present
  cases advanced with
  | quiet quiet =>
      rcases AuthState.calls_put after with ⟨-, rfl⟩ | ⟨-, same⟩
      · exact quiet.sound before
      · exact sound.calls same
  | read phase live =>
      rcases AuthState.calls_put after with ⟨-, rfl⟩ | ⟨-, same⟩
      · refine ⟨nofun, fun held => ?_⟩
        cases held
        exact ⟨(before.reading phase).trans (by rw [sound.stored live]), live.2⟩
      · exact sound.calls same
  | revoked phase _ =>
      rcases AuthState.calls_put after with ⟨-, rfl⟩ | ⟨-, same⟩
      · exact ⟨nofun, nofun⟩
      · exact sound.calls same
  | @generated session _ pair phase _ =>
      rcases AuthState.calls_put after with ⟨-, rfl⟩ | ⟨-, same⟩
      · refine ⟨nofun, fun held => ?_⟩
        cases held
        have held : call.phase.session? = some session := by rw [phase]; rfl
        have known := before.held held
        exact known
      · exact sound.calls same
  | stored phase _ =>
      rcases AuthState.calls_put after with ⟨-, rfl⟩ | ⟨-, same⟩
      · exact ⟨nofun, nofun⟩
      · exact sound.calls same

/-- Every transition keeps what is known. -/
theorem Sound.transition {state next : AuthState Store} {label : AuthLabel}
    (sound : Sound repository state) (transition : service.Transition repository state label next) :
    Sound repository next := by
  cases transition with
  | unchanged _ => exact sound
  | loggedIn _ _ _ created =>
      refine ⟨fun live => ?_, sound.calls⟩
      rcases FaithfulRepository.live_create created live with ⟨rfl, rfl⟩ | ⟨-, live⟩
      · rfl
      · exact sound.stored live
  | began token _ =>
      refine ⟨sound.stored, fun after => ?_⟩
      rcases AuthState.calls_put after with ⟨-, rfl⟩ | ⟨-, same⟩
      · exact ⟨nofun, nofun⟩
      · exact sound.calls same
  | advanced present advanced =>
      refine ⟨fun live => ?_, advanced.callSound sound present⟩
      cases advanced with
      | quiet _ => exact sound.stored live
      | read _ _ => exact sound.stored live
      | revoked _ revoked =>
          exact sound.stored ((FaithfulRepository.live_revokeFamily revoked).mp live).2
      | generated _ _ _ => exact sound.stored live
      | stored _ created =>
          rcases FaithfulRepository.live_create created live with ⟨rfl, rfl⟩ | ⟨-, live⟩
          · rfl
          · exact sound.stored live
  | loggedOut revoked =>
      exact ⟨fun live => sound.stored ((FaithfulRepository.live_revokeByID revoked).mp live).2,
        sound.calls⟩

end AuthService

/-- The installed service over the map of sessions, from an empty map. -/
abbrev Installed.machine : Machine (AuthState (Uuid → Option Session)) AuthLabel :=
  Installed.service.machine sessionMap.toFaithfulRepository

/-- A login and the begin of one call with its token. -/
def Installed.loggedInAndBegun : List AuthLabel :=
  [.login Installed.loginRequest Installed.loginInput [Installed.user], .begin 0 Installed.token]

/-- Two calls bring the login's token, and the one reads when the other has stored. The
session is logged out between that read and the comparison, when a third call already
brings the new token. -/
def Installed.turnByTurn : List AuthLabel :=
  Installed.loggedInAndBegun ++
  [.begin 1 Installed.token, .advance 1 (Installed.stepInput 7)] ++
  List.replicate 6 (.advance 0 (Installed.stepInput 6)) ++
  [.begin 2 (refreshTokenText (Installed.uuid 2) (Installed.secret 6)),
    .advance 2 (Installed.stepInput 8), .advance 1 (Installed.stepInput 7),
    .logout 0 (Installed.uuid 2), .advance 1 (Installed.stepInput 7),
    .advance 1 (Installed.stepInput 7), .advance 2 (Installed.stepInput 8)]

/-- Whether a call that is about to store finds its session unrevoked, and its token
unexchanged since it read. -/
def AuthState.storesUndisturbed {Store : Type} (state : AuthState Store) : AuthLabel → Bool
  | .advance index _ => (state.calls index).all fun call =>
      match call.phase with
      | .storing session _ => session.id ∉ state.revoked ∧
          ∀ exchange ∈ state.exchanges.drop call.readAt, exchange.2 ≠ call.token
      | _ => true
  | _ => true

/-- What the check says of a call that is about to store. -/
theorem AuthState.undisturbed {Store : Type} {state : AuthState Store} {index : Nat}
    {input : StepInput} {call : Call} {session : Session} {pair : TokenPair}
    (stores : state.storesUndisturbed (.advance index input) = true)
    (present : state.calls index = some call) (phase : call.phase = .storing session pair) :
    session.id ∉ state.revoked ∧
      ∀ exchange ∈ state.exchanges.drop call.readAt, exchange.2 ≠ call.token := by
  rw [storesUndisturbed, present, Option.all_some, phase] at stores
  exact of_decide_eq_true stores

/-- Of the calls one has exchanged its token, and the logout and the reuse have each
revoked the session. -/
theorem Installed.turnByTurn_undisturbed :
    Installed.machine.passes AuthState.storesUndisturbed (AuthState.start fun _ => none)
        Installed.turnByTurn = true ∧
      (Installed.machine.exec (AuthState.start fun _ => none) Installed.turnByTurn).map
        (fun state => (state.exchanges.map Prod.fst, state.revoked)) =
        some ([0], [Installed.uuid 2, Installed.uuid 2]) := by
  decide +kernel

end Sentinel.Auth
