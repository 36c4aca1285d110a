import Sentinel.Auth.Repository
import Sentinel.Auth.Service
import Sentinel.Semantics.Machine

/-!
# The dashboard's token refresh

`fetchWithRefresh` and `apiFetch` are the same statements, run by any number of
calls on one `localStorage`. A call is cut at its accesses to the storage and
wherever it awaits the network. The server rotates tokens with
`AuthService.Refresh` over a faithful repository.
-/

namespace Sentinel.Dashboard

open Sentinel.Wire Sentinel.Semantics Sentinel.Auth

/-- Where a call stands, with its local variables. -/
inductive Phase where
  | calling
  | requested (access : Option String)
  | unauthorized
  | posting (token : String)
  | posted (token : String)
  /-- The call has failed, its refresh request is still on its way. -/
  | abandoned (token : String)
  /-- A response is on its way, with a pair if it is ok. -/
  | answered (token : String) (response : Option TokenPair)
  | storingAccess (pair : TokenPair)
  | storingRefresh (pair : TokenPair)
  | retrying
  | retried (access : Option String)
  /-- The status of the response, none if the promise is rejected. -/
  | returned (status : Option Nat)

namespace Phase

/-- The refresh request with this token, or its response, is on its way. -/
def inFlight (token : String) : Phase → Bool
  | posted carried | abandoned carried | answered carried _ => carried = token
  | _ => false

/-- The token of a request that has not yet been exchanged for a pair. -/
def carried : Phase → Option String
  | posted token | abandoned token | answered token none => some token
  | _ => none

/-- A pair that is to be stored. -/
def pending : Phase → Option TokenPair
  | answered _ response => response
  | storingAccess pair | storingRefresh pair => some pair
  | _ => none

/-- The call is between its refresh request and the storing of the pair. -/
def outstanding (phase : Phase) : Bool := phase.carried.isSome || phase.pending.isSome

end Phase

inductive Action where
  /-- Read the access token and send the request. -/
  | request
  | respond (status : Nat)
  /-- Read the refresh token. -/
  | readToken
  | post
  /-- The auth service handles the refresh request. -/
  | serve (input : RefreshInput)
  /-- The request is turned down before it reaches the auth service. -/
  | refuse
  | deliver
  /-- The call fails: the network does, or the body of a response is no JSON. -/
  | lose
  /-- An abandoned request never arrives. -/
  | drop
  | storeAccess
  | storeRefresh
  /-- Read the access token and send the request again. -/
  | retry
  | finish (status : Nat)

structure Browser (Store : Type) where
  /-- `sentinel_access_token` in `localStorage` -/
  access : Option String
  /-- `sentinel_refresh_token` in `localStorage` -/
  refresh : Option String
  calls : List Phase
  /-- The sessions of the auth service. -/
  store : Store
  /-- The tokens that a response has replaced. -/
  spent : List String
  /-- The response to a successful refresh never reached its call. -/
  lost : Bool
  /-- A token was sent that was in flight or replaced. -/
  resent : Bool

variable {Store : Type}

namespace Browser

def put (state : Browser Store) (call : Nat) (phase : Phase) : Browser Store :=
  { state with calls := state.calls.set call phase }

/-- The auth service handles a refresh request. It draws no token again. -/
def served (service : AuthService) (repository : SessionRepository Store)
    (state : Browser Store) (token : String) (input : RefreshInput) :
    Option (Option TokenPair × Browser Store) :=
  match service.refresh repository token input state.store with
  | (.ok pair, store) =>
      if pair.refreshToken ∈ token :: state.spent then none
      else some (some pair, { state with store, spent := token :: state.spent })
  | (.error _, store) => some (none, { state with store })

/-- The call fails to receive the response. -/
def losing (state : Browser Store) (response : Option TokenPair) : Browser Store :=
  { state with lost := state.lost || response.isSome }

def act (service : AuthService) (repository : SessionRepository Store) (state : Browser Store)
    (call : Nat) : Phase → Action → Option (Browser Store)
  | .calling, .request => some (state.put call (.requested state.access))
  | .requested _, .respond status =>
      some (state.put call (if status ≠ 401 then .returned (some status) else .unauthorized))
  | .unauthorized, .readToken =>
      let refreshToken := state.refresh.getD ""
      some (state.put call
        (if refreshToken = "" then .returned (some 401) else .posting refreshToken))
  | .posting token, .post =>
      some ({ state with
        resent := state.resent ∨ token ∈ state.spent ∨ state.calls.any (·.inFlight token) }.put call
          (.posted token))
  | .posted token, .serve input =>
      (state.served service repository token input).map fun (response, state) =>
        state.put call (.answered token response)
  | .abandoned token, .serve input =>
      (state.served service repository token input).map fun (response, state) =>
        (state.losing response).put call (.returned none)
  | .posted token, .refuse => some (state.put call (.answered token none))
  | .answered _ none, .deliver => some (state.put call (.returned (some 401)))
  | .answered _ (some pair), .deliver => some (state.put call (.storingAccess pair))
  | .storingAccess pair, .storeAccess =>
      some ({ state with access := some pair.accessToken }.put call (.storingRefresh pair))
  | .storingRefresh pair, .storeRefresh =>
      some ({ state with refresh := some pair.refreshToken }.put call .retrying)
  | .retrying, .retry => some (state.put call (.retried state.access))
  | .retried _, .finish status => some (state.put call (.returned (some status)))
  | .requested _, .lose | .retried _, .lose => some (state.put call (.returned none))
  | .posted token, .lose => some (state.put call (.abandoned token))
  | .answered _ response, .lose => some ((state.losing response).put call (.returned none))
  | .abandoned _, .drop => some (state.put call (.returned none))
  | _, _ => none

def step (service : AuthService) (repository : SessionRepository Store) (state : Browser Store)
    (label : Nat × Action) : Option (Browser Store) :=
  state.calls[label.1]?.bind fun phase => state.act service repository label.1 phase label.2

end Browser

/-- The calls of one browser and the auth service. -/
def browser (service : AuthService) (repository : SessionRepository Store) :
    Machine (Browser Store) (Nat × Action) :=
  ⟨Browser.step service repository⟩

/-- The session is live, and the token is the one whose hash it stores. -/
def Newest (service : AuthService) (repository : FaithfulRepository Store) (id : Uuid)
    (store : Store) (token : String) : Prop :=
  validateRefreshToken token = .ok id ∧ ∃ session, repository.Live store id session ∧
    session.id = id ∧ service.hash token = session.refreshTokenHash

section Server

variable {service : AuthService} {repository : FaithfulRepository Store} {id : Uuid}
  {store : Store} {token : String}

/-- The newest token is never taken for a replaced one: it is exchanged for a
newer one, or nothing changes. -/
theorem refresh_newest (newest : Newest service repository id store token) (input : RefreshInput) :
    match service.refresh repository.toSessionRepository token input store with
    | (.ok pair, next) => Newest service repository id next pair.refreshToken
    | (.error _, next) => next = store := by
  obtain ⟨validated, session, live, rfl, matched⟩ := newest
  unfold AuthService.refresh
  simp only [validated]
  cases read : repository.getByID input.checkedAt session.id store with
  | error _ => rfl
  | ok found =>
      obtain rfl : found = session :=
        Option.some.inj ((repository.getByID_ok read).symm.trans live.1)
      simp only [matched, ne_eq, not_true_eq_false, if_false]
      by_cases dead : found.isRevoked ∨ found.expiresAt < input.checkedAt
      · simp only [dead, if_true]
      · simp only [dead, if_false]
        cases input.users.getByID found.userID with
        | none => rfl
        | some user =>
            by_cases active : user.isActive
            · simp only [active, Bool.not_true, Bool.false_eq_true, if_false]
              generalize renewed : service.rotated found (service.tokens.generateTokenPair user
                found.id input.issuedAt input.secret) input.issuedAt = session
              cases created : repository.create input.storedAt session store with
              | error _ => rfl
              | ok next =>
                  have unrevoked : session.isRevoked = false := by
                    rw [← renewed]
                    exact live.2
                  have live := FaithfulRepository.live_created created unrevoked
                  subst renewed
                  exact ⟨validateRefreshToken_refreshTokenText _ _, _, live, rfl, rfl⟩
            · simp only [active, Bool.not_false, if_true]

end Server

namespace Browser

/-- No call but this one is refreshing. -/
def QuietBut (state : Browser Store) (call : Nat) : Prop :=
  ∀ (other : Nat) (phase : Phase), other ≠ call → state.calls[other]? = some phase →
    phase.outstanding = false

/-- No call is refreshing. -/
def Quiet (state : Browser Store) : Prop :=
  ∀ (call : Nat) (phase : Phase), state.calls[call]? = some phase → phase.outstanding = false

/-- How the browser stands to the newest token: it stores it, with a request
that carries it or without, or stores a spent one while a call has the newest,
or after that was lost. -/
inductive Situation (state : Browser Store) (newest : String) : Prop where
  | idle (stored : state.refresh = some newest) (current : state.lost = false)
      (quiet : state.Quiet)
  | sending (call : Nat) (phase : Phase) (found : state.calls[call]? = some phase)
      (carried : phase.carried = some newest) (stored : state.refresh = some newest)
      (current : state.lost = false) (quiet : state.QuietBut call)
  | renewing (call : Nat) (phase : Phase) (pair : TokenPair)
      (found : state.calls[call]? = some phase) (pending : phase.pending = some pair)
      (renewed : pair.refreshToken = newest) (old : String) (stored : state.refresh = some old)
      (spent : old ∈ state.spent) (current : state.lost = false) (quiet : state.QuietBut call)
  | stale (old : String) (stored : state.refresh = some old) (spent : old ∈ state.spent)
      (lost : state.lost = true) (quiet : state.Quiet)

/-- No token has been sent again, and the session is live. -/
def Undisturbed (repository : FaithfulRepository Store) (id : Uuid) (state : Browser Store) :
    Prop :=
  state.resent = false ∧ ∃ session, repository.Live state.store id session

/-- The call that sends its refresh token has the one that is stored, no other
call is refreshing, and no pair was lost. -/
def SendsAlone (state : Browser Store) (label : Nat × Action) : Prop :=
  ∀ token, state.calls[label.1]? = some (.posting token) → label.2 = .post →
    state.refresh = some token ∧ state.QuietBut label.1 ∧ state.lost = false

/-- The token has been stored at some time. -/
def Known (state : Browser Store) (token : String) : Prop :=
  state.refresh = some token ∨ token ∈ state.spent

structure Orderly (service : AuthService) (repository : FaithfulRepository Store) (id : Uuid)
    (state : Browser Store) : Prop where
  unsent : state.resent = false
  newest : ∃ newest, Newest service repository id state.store newest ∧ newest ∉ state.spent ∧
    state.Situation newest
  read : ∀ (call : Nat) (token : String), state.calls[call]? = some (.posting token) →
    state.Known token

/-- Calls that have not begun, on a storage with the newest token. -/
structure Started (service : AuthService) (repository : FaithfulRepository Store) (id : Uuid)
    (state : Browser Store) : Prop where
  stored : ∃ token, state.refresh = some token ∧ Newest service repository id state.store token
  calling : ∀ phase ∈ state.calls, phase = .calling
  spent : state.spent = []
  current : state.lost = false
  unsent : state.resent = false

section Invariant

variable {state : Browser Store} {call other : Nat} {phase after : Phase} {newest token : String}

/-- A call's own step does not disturb the others. -/
theorem quietBut_put (quiet : state.QuietBut call) : (state.put call after).QuietBut call := by
  intro other phase different found
  rw [put, List.getElem?_set_ne (Ne.symm different)] at found
  exact quiet other phase different found

/-- When it is done nobody refreshes. -/
theorem quiet_put (quiet : state.QuietBut call) (still : after.outstanding = false) :
    (state.put call after).Quiet := by
  intro other phase found
  by_cases same : other = call
  · subst same
    rw [put, List.getElem?_set_self'] at found
    obtain ⟨_, _, rfl⟩ := Option.map_eq_some_iff.mp found
    exact still
  · exact quietBut_put quiet other phase same found

/-- The call is in its new phase. -/
theorem found_put (found : state.calls[call]? = some phase) :
    (state.put call after).calls[call]? = some after := by
  rw [put, List.getElem?_set_self', found]
  rfl

/-- The others are where they were. -/
theorem found_put_of_ne (different : other ≠ call) :
    (state.put call after).calls[other]? = state.calls[other]? := by
  rw [put, List.getElem?_set_ne (Ne.symm different)]

/-- When nobody refreshes, nobody but the call does. -/
theorem Quiet.but (quiet : state.Quiet) (call : Nat) : state.QuietBut call :=
  fun other phase _ found => quiet other phase found

/-- A call that carries a token is refreshing. -/
theorem outstanding_of_carried (carried : phase.carried = some token) :
    phase.outstanding = true := by
  simp [Phase.outstanding, carried]

theorem outstanding_of_pending {pair : TokenPair} (pending : phase.pending = some pair) :
    phase.outstanding = true := by
  simp [Phase.outstanding, pending]

/-- The call that is refreshing is the one. -/
theorem QuietBut.eq (quiet : state.QuietBut other) (found : state.calls[call]? = some phase)
    (outstanding : phase.outstanding = true) : call = other := by
  by_contra different
  rw [quiet call phase different found] at outstanding
  cases outstanding

/-- A token that is carried is not exchanged yet. -/
theorem pending_of_carried (carried : phase.carried = some token) : phase.pending = none := by
  unfold Phase.carried at carried
  split at carried <;> first | rfl | cases carried

/-- A call whose request is not yet exchanged has the newest token. -/
theorem Situation.of_carried (situation : state.Situation newest)
    (found : state.calls[call]? = some phase) (carried : phase.carried = some token) :
    token = newest ∧ state.refresh = some newest ∧ state.lost = false ∧ state.QuietBut call := by
  have outstanding := outstanding_of_carried carried
  cases situation with
  | idle stored current quiet => exact absurd outstanding (by simp [quiet call phase found])
  | sending sender sent present carries stored current quiet =>
      obtain rfl := quiet.eq found outstanding
      obtain rfl : phase = sent := Option.some.inj (found.symm.trans present)
      exact ⟨Option.some.inj (carried.symm.trans carries), stored, current, quiet⟩
  | renewing renewer renewed pair present pending _ old stored spent current quiet =>
      obtain rfl := quiet.eq found outstanding
      obtain rfl : phase = renewed := Option.some.inj (found.symm.trans present)
      rw [pending_of_carried carried] at pending
      cases pending
  | stale old stored spent lost quiet =>
      exact absurd outstanding (by simp [quiet call phase found])

/-- A call with a pair has the newest token, and a spent one is stored. -/
theorem Situation.of_pending {pair : TokenPair} (situation : state.Situation newest)
    (found : state.calls[call]? = some phase) (pending : phase.pending = some pair) :
    pair.refreshToken = newest ∧ (∃ old ∈ state.spent, state.refresh = some old) ∧
      state.lost = false ∧ state.QuietBut call := by
  have outstanding := outstanding_of_pending pending
  cases situation with
  | idle stored current quiet => exact absurd outstanding (by simp [quiet call phase found])
  | sending sender sent present carries stored current quiet =>
      obtain rfl := quiet.eq found outstanding
      obtain rfl : phase = sent := Option.some.inj (found.symm.trans present)
      rw [pending_of_carried carries] at pending
      cases pending
  | renewing renewer renewed other present pends same old stored spent current quiet =>
      obtain rfl := quiet.eq found outstanding
      obtain rfl : phase = renewed := Option.some.inj (found.symm.trans present)
      obtain rfl : pair = other := Option.some.inj (pending.symm.trans pends)
      exact ⟨same, ⟨old, spent, stored⟩, current, quiet⟩
  | stale old stored spent lost quiet =>
      exact absurd outstanding (by simp [quiet call phase found])

/-- A call that is not refreshing moves on. -/
theorem Situation.put (situation : state.Situation newest)
    (found : state.calls[call]? = some phase) (quiet : phase.outstanding = false)
    (still : after.outstanding = false) : (state.put call after).Situation newest := by
  have kept : ∀ {other : Nat} {held : Phase}, state.calls[other]? = some held →
      held.outstanding = true → (state.put call after).calls[other]? = some held := by
    intro other held present outstanding
    rw [found_put_of_ne, present]
    rintro rfl
    obtain rfl : phase = held := Option.some.inj (found.symm.trans present)
    rw [quiet] at outstanding
    cases outstanding
  have calm : ∀ {other : Nat}, state.QuietBut other → (state.put call after).QuietBut other := by
    intro other quiet next held different present
    by_cases same : next = call
    · subst same
      rw [found_put found] at present
      cases present
      exact still
    · rw [found_put_of_ne same] at present
      exact quiet next held different present
  cases situation with
  | idle stored current quiet => exact .idle stored current (quiet_put (quiet.but call) still)
  | sending sender sent present carries stored current quiet =>
      exact .sending sender sent (kept present (outstanding_of_carried carries)) carries stored
        current (calm quiet)
  | renewing renewer renewed pair present pends same old stored spent current quiet =>
      exact .renewing renewer renewed pair (kept present (outstanding_of_pending pends)) pends same
        old stored spent current (calm quiet)
  | stale old stored spent lost quiet =>
      exact .stale old stored spent lost (quiet_put (quiet.but call) still)

variable {service : AuthService} {repository : FaithfulRepository Store} {id : Uuid}
  {next : Browser Store}

/-- Replace a call's phase and what else a step changes. -/
theorem Orderly.move (orderly : Orderly service repository id state)
    (moved : next.calls = state.calls.set call after)
    (known : ∀ token, state.Known token → next.Known token)
    (reads : ∀ token, after = .posting token → next.Known token)
    (unsent : next.resent = false)
    (renewed : ∃ newest, Newest service repository id next.store newest ∧ newest ∉ next.spent ∧
      next.Situation newest) : Orderly service repository id next where
  unsent := unsent
  newest := renewed
  read other token found := by
    by_cases same : other = call
    · subst same
      rw [moved, List.getElem?_set_self'] at found
      obtain ⟨_, _, posting⟩ := Option.map_eq_some_iff.mp found
      exact reads token posting
    · rw [moved, List.getElem?_set_ne (Ne.symm same)] at found
      exact known token (orderly.read other token found)

/-- A call that is not refreshing moves on. -/
theorem Orderly.put (orderly : Orderly service repository id state)
    (found : state.calls[call]? = some phase) (quiet : phase.outstanding = false)
    (still : after.outstanding = false)
    (reads : ∀ token, after = .posting token → state.Known token) :
    Orderly service repository id (state.put call after) := by
  obtain ⟨newest, current, unspent, situation⟩ := orderly.newest
  exact orderly.move rfl (fun _ known => known) reads orderly.unsent
    ⟨newest, current, unspent, situation.put found quiet still⟩

/-- A token in flight is that of a call that is refreshing. -/
theorem outstanding_of_inFlight (inFlight : phase.inFlight token = true) :
    phase.outstanding = true := by
  cases phase with
  | posted carried => rfl
  | abandoned carried => rfl
  | answered carried response => cases response <;> rfl
  | _ => cases inFlight

/-- A token that is carried is in flight. -/
theorem inFlight_of_carried (carried : phase.carried = some token) :
    phase.inFlight token = true := by
  unfold Phase.carried at carried
  split at carried
  · exact decide_eq_true (Option.some.inj carried)
  · exact decide_eq_true (Option.some.inj carried)
  · exact decide_eq_true (Option.some.inj carried)
  · cases carried

/-- When nobody refreshes no token is in flight. -/
theorem Quiet.inFlight (quiet : state.Quiet) (token : String) :
    state.calls.any (·.inFlight token) = false := by
  rw [Bool.eq_false_iff]
  intro inFlight
  obtain ⟨phase, member, carries⟩ := List.any_eq_true.mp inFlight
  obtain ⟨call, found⟩ := List.mem_iff_getElem?.mp member
  have outstanding := outstanding_of_inFlight carries
  rw [quiet call phase found] at outstanding
  cases outstanding

/-- When the one is done nobody refreshes. -/
theorem QuietBut.quiet (quiet : state.QuietBut call) (found : state.calls[call]? = some phase)
    (still : phase.outstanding = false) : state.Quiet := by
  intro other held present
  by_cases same : other = call
  · subst same
    obtain rfl : phase = held := Option.some.inj (found.symm.trans present)
    exact still
  · exact quiet other held same present

/-- Where nothing was lost and no call is refreshing the newest token is stored. -/
theorem Situation.of_quiet (situation : state.Situation newest) (quiet : state.Quiet)
    (current : state.lost = false) : state.refresh = some newest := by
  cases situation with
  | idle stored _ _ => exact stored
  | sending sender sent present carries stored _ _ => exact stored
  | renewing renewer renewed pair present pends same old stored spent _ _ =>
      have outstanding := outstanding_of_pending pends
      rw [quiet renewer renewed present] at outstanding
      cases outstanding
  | stale old stored spent lost _ =>
      rw [current] at lost
      cases lost

/-- A token that is sent alone is in flight once. -/
theorem Orderly.post (orderly : Orderly service repository id state)
    (found : state.calls[call]? = some (.posting token)) (stored : state.refresh = some token)
    (quiet : state.QuietBut call) (current : state.lost = false) :
    Orderly service repository id ({ state with
      resent := state.resent ∨ token ∈ state.spent ∨ state.calls.any (·.inFlight token) }.put call
        (.posted token)) := by
  obtain ⟨newest, valid, unspent, situation⟩ := orderly.newest
  have still : state.Quiet := quiet.quiet found rfl
  obtain rfl : newest = token :=
    Option.some.inj ((situation.of_quiet still current).symm.trans stored)
  refine orderly.move rfl (fun _ known => known) nofun ?_ ⟨newest, valid, unspent, ?_⟩
  · simp [Browser.put, orderly.unsent, unspent, still.inFlight]
  · exact .sending call (.posted newest) (found_put found) rfl stored current (quietBut_put quiet)

/-- The auth service exchanges the newest token for a newer one, or refuses it
and changes nothing. -/
theorem served_newest {input : RefreshInput} {response : Option TokenPair}
    (newest : Newest service repository id state.store token)
    (served : state.served service repository.toSessionRepository token input =
      some (response, next)) :
    response = none ∧ next = state ∨ ∃ pair, response = some pair ∧
      Newest service repository id next.store pair.refreshToken ∧
      pair.refreshToken ∉ next.spent ∧
      next = { state with store := next.store, spent := token :: state.spent } := by
  have outcome := refresh_newest newest input
  unfold Browser.served at served
  split at served
  · rename_i pair store refreshed
    rw [refreshed] at outcome
    obtain ⟨fresh, answered⟩ := Option.ite_none_left_eq_some.mp served
    cases answered
    exact .inr ⟨pair, rfl, outcome, fresh, rfl⟩
  · rename_i error store refreshed
    rw [refreshed] at outcome
    cases served
    exact .inl ⟨rfl, by rw [outcome]⟩

/-- A request that is not yet exchanged stays so. -/
theorem Orderly.carry (orderly : Orderly service repository id state)
    (found : state.calls[call]? = some phase) (carried : phase.carried = some token)
    (carries : after.carried = some token) :
    Orderly service repository id (state.put call after) := by
  obtain ⟨newest, valid, unspent, situation⟩ := orderly.newest
  obtain ⟨rfl, stored, current, quiet⟩ := situation.of_carried found carried
  refine orderly.move rfl (fun _ known => known) ?_ orderly.unsent ⟨token, valid, unspent, ?_⟩
  · rintro other rfl
    cases carries
  · exact .sending call after (found_put found) carries stored current (quietBut_put quiet)

/-- A request comes to nothing. -/
theorem Orderly.release (orderly : Orderly service repository id state)
    (found : state.calls[call]? = some phase) (carried : phase.carried = some token)
    (still : after.outstanding = false) (reads : ∀ token, after ≠ .posting token) :
    Orderly service repository id (state.put call after) := by
  obtain ⟨newest, valid, unspent, situation⟩ := orderly.newest
  obtain ⟨rfl, stored, current, quiet⟩ := situation.of_carried found carried
  refine orderly.move rfl (fun _ known => known) (fun other posting => absurd posting (reads other))
    orderly.unsent ⟨token, valid, unspent, ?_⟩
  exact .idle stored current (quiet_put quiet still)

/-- A pair is handed on, perhaps with a new access token. -/
theorem Orderly.hand {pair : TokenPair} (orderly : Orderly service repository id state)
    (found : state.calls[call]? = some phase) (pending : phase.pending = some pair)
    (pends : after.pending = some pair) (access : Option String) :
    Orderly service repository id ({ state with access }.put call after) := by
  obtain ⟨newest, valid, unspent, situation⟩ := orderly.newest
  obtain ⟨same, ⟨old, spent, stored⟩, current, quiet⟩ := situation.of_pending found pending
  refine orderly.move rfl (fun _ known => known) ?_ orderly.unsent ⟨newest, valid, unspent, ?_⟩
  · rintro other rfl
    cases pends
  · exact .renewing call after pair (found_put found) pends same old stored spent current
      (quietBut_put quiet)

/-- The refresh token of the pair replaces a spent one. -/
theorem Orderly.storeRefresh {pair : TokenPair} (orderly : Orderly service repository id state)
    (found : state.calls[call]? = some (.storingRefresh pair)) :
    Orderly service repository id
      ({ state with refresh := some pair.refreshToken }.put call .retrying) := by
  obtain ⟨newest, valid, unspent, situation⟩ := orderly.newest
  obtain ⟨rfl, ⟨old, spent, stored⟩, current, quiet⟩ := situation.of_pending found rfl
  refine orderly.move rfl ?_ nofun orderly.unsent ⟨_, valid, unspent, ?_⟩
  · rintro token (same | spent)
    · obtain rfl : old = token := Option.some.inj (stored.symm.trans same)
      exact .inr spent
    · exact .inr spent
  · exact .idle rfl current (quiet_put quiet rfl)

/-- A failure loses nothing. -/
theorem losing_none : state.losing none = state := by
  simp [losing]

/-- A pair is lost with the response. -/
theorem Orderly.lose {pair : TokenPair} (orderly : Orderly service repository id state)
    (found : state.calls[call]? = some (.answered token (some pair))) :
    Orderly service repository id ((state.losing (some pair)).put call (.returned none)) := by
  obtain ⟨newest, valid, unspent, situation⟩ := orderly.newest
  obtain ⟨-, ⟨old, spent, stored⟩, -, quiet⟩ := situation.of_pending found rfl
  refine orderly.move rfl (fun _ known => known) nofun orderly.unsent ⟨newest, valid, unspent, ?_⟩
  exact .stale old stored spent (Bool.or_true _) (quiet_put quiet rfl)

/-- The auth service handles the request of a call that waits for it. -/
theorem Orderly.serve {input : RefreshInput} {response : Option TokenPair}
    (orderly : Orderly service repository id state)
    (found : state.calls[call]? = some (.posted token))
    (served : state.served service repository.toSessionRepository token input =
      some (response, next)) :
    Orderly service repository id (next.put call (.answered token response)) := by
  obtain ⟨newest, valid, unspent, situation⟩ := orderly.newest
  obtain ⟨rfl, stored, current, quiet⟩ := situation.of_carried found rfl
  obtain ⟨rfl, rfl⟩ | ⟨pair, rfl, renewed, fresh, same⟩ := served_newest valid served
  · exact orderly.carry found rfl rfl
  · rw [same] at fresh ⊢
    refine orderly.move rfl ?_ nofun orderly.unsent ⟨pair.refreshToken, renewed, fresh, ?_⟩
    · exact fun _ known => known.imp_right (List.mem_cons_of_mem token)
    · exact .renewing call _ pair (found_put found) rfl rfl token stored List.mem_cons_self current
        (quietBut_put quiet)

/-- The auth service handles a request whose call has failed. -/
theorem Orderly.serveAbandoned {input : RefreshInput} {response : Option TokenPair}
    (orderly : Orderly service repository id state)
    (found : state.calls[call]? = some (.abandoned token))
    (served : state.served service repository.toSessionRepository token input =
      some (response, next)) :
    Orderly service repository id ((next.losing response).put call (.returned none)) := by
  obtain ⟨newest, valid, unspent, situation⟩ := orderly.newest
  obtain ⟨rfl, stored, current, quiet⟩ := situation.of_carried found rfl
  obtain ⟨rfl, rfl⟩ | ⟨pair, rfl, renewed, fresh, same⟩ := served_newest valid served
  · rw [losing_none]
    exact orderly.release found rfl rfl nofun
  · rw [same] at fresh ⊢
    refine orderly.move rfl ?_ nofun orderly.unsent ⟨pair.refreshToken, renewed, fresh, ?_⟩
    · exact fun _ known => known.imp_right (List.mem_cons_of_mem token)
    · exact .stale token stored List.mem_cons_self (Bool.or_true _) (quiet_put quiet rfl)

/-- A token that was read was stored. -/
theorem refresh_of_getD (present : ¬ state.refresh.getD "" = "") :
    state.refresh = some (state.refresh.getD "") := by
  cases stored : state.refresh with
  | none => simp [stored] at present
  | some token => rfl

/-- Calls that send their refresh tokens alone keep the browser orderly. -/
theorem Orderly.step {label : Nat × Action} (orderly : Orderly service repository id state)
    (alone : SendsAlone state label)
    (step : state.step service repository.toSessionRepository label = some next) :
    Orderly service repository id next := by
  obtain ⟨call, action⟩ := label
  obtain ⟨phase, found, acted⟩ := Option.bind_eq_some_iff.mp step
  dsimp only at found acted
  unfold act at acted
  split at acted
  · cases acted
    exact orderly.put found rfl rfl nofun
  · cases acted
    split
    · exact orderly.put found rfl rfl nofun
    · exact orderly.put found rfl rfl nofun
  · cases acted
    split
    · exact orderly.put found rfl rfl nofun
    · refine orderly.put found rfl rfl ?_
      rintro token ⟨rfl⟩
      exact .inl (refresh_of_getD ‹_›)
  · cases acted
    obtain ⟨stored, quiet, current⟩ := alone _ found rfl
    exact orderly.post found stored quiet current
  · obtain ⟨⟨response, state⟩, served, rfl⟩ := Option.map_eq_some_iff.mp acted
    exact orderly.serve found served
  · obtain ⟨⟨response, state⟩, served, rfl⟩ := Option.map_eq_some_iff.mp acted
    exact orderly.serveAbandoned found served
  · cases acted
    exact orderly.carry found rfl rfl
  · cases acted
    exact orderly.release found rfl rfl nofun
  · cases acted
    exact orderly.hand found rfl rfl state.access
  · cases acted
    exact orderly.hand found rfl rfl _
  · cases acted
    exact orderly.storeRefresh found
  · cases acted
    exact orderly.put found rfl rfl nofun
  · cases acted
    exact orderly.put found rfl rfl nofun
  · cases acted
    exact orderly.put found rfl rfl nofun
  · cases acted
    exact orderly.put found rfl rfl nofun
  · cases acted
    exact orderly.carry found rfl rfl
  · cases acted
    rename_i response
    cases response with
    | none =>
        rw [losing_none]
        exact orderly.release found rfl rfl nofun
    | some pair => exact orderly.lose found
  · cases acted
    exact orderly.release found rfl rfl nofun
  · cases acted

/-- An orderly browser is undisturbed. -/
theorem Orderly.undisturbed (orderly : Orderly service repository id state) :
    Undisturbed repository id state := by
  obtain ⟨newest, ⟨_, session, live, _, _⟩, _, _⟩ := orderly.newest
  exact ⟨orderly.unsent, session, live⟩

/-- A token that is sent neither in flight nor replaced is sent alone. -/
theorem Orderly.sendsAlone {label : Nat × Action} (orderly : Orderly service repository id state)
    (step : state.step service repository.toSessionRepository label = some next)
    (unsent : next.resent = false) : SendsAlone state label := by
  rintro token found posting
  obtain ⟨call, action⟩ := label
  dsimp only at found posting
  subst posting
  obtain ⟨phase, same, acted⟩ := Option.bind_eq_some_iff.mp step
  obtain rfl : .posting token = phase := Option.some.inj (found.symm.trans same)
  cases acted
  obtain ⟨-, unspent, unmatched⟩ : state.resent = false ∧ token ∉ state.spent ∧
      state.calls.any (·.inFlight token) = false := by
    simpa [Browser.put] using unsent
  have stored : state.refresh = some token := (orderly.read call token found).resolve_right unspent
  obtain ⟨newest, -, -, situation⟩ := orderly.newest
  cases situation with
  | idle _ current quiet => exact ⟨stored, quiet.but call, current⟩
  | sending sender sent present carries same _ _ =>
      obtain rfl : newest = token := Option.some.inj (same.symm.trans stored)
      have inFlight : state.calls.any (·.inFlight newest) = true :=
        List.any_eq_true.mpr ⟨sent, List.mem_of_getElem? present, inFlight_of_carried carries⟩
      rw [unmatched] at inFlight
      cases inFlight
  | renewing renewer renewed pair present pends same old kept spent _ _ =>
      obtain rfl : old = token := Option.some.inj (kept.symm.trans stored)
      exact absurd spent unspent
  | stale old kept spent _ _ =>
      obtain rfl : old = token := Option.some.inj (kept.symm.trans stored)
      exact absurd spent unspent

/-- At the start it is orderly. -/
theorem Started.orderly (started : Started service repository id state) :
    Orderly service repository id state := by
  have calling : ∀ {call : Nat} {phase : Phase}, state.calls[call]? = some phase →
      phase = .calling := fun found => started.calling _ (List.mem_of_getElem? found)
  obtain ⟨token, stored, newest⟩ := started.stored
  refine ⟨started.unsent, ⟨token, newest, ?_, .idle stored started.current ?_⟩, ?_⟩
  · simp [started.spent]
  · intro call phase found
    rw [calling found]
    rfl
  · intro call token found
    cases calling found

end Invariant

end Browser

/-- No token is sent while it is in flight or after it was replaced, and the
session stays live, exactly when every refresh token is sent alone. -/
theorem refresh_undisturbed_iff {Store : Type} (service : AuthService)
    (repository : FaithfulRepository Store) (id : Uuid) (state : Browser Store)
    (started : Browser.Started service repository id state) (labels : List (Nat × Action)) :
    (browser service repository.toSessionRepository).Along (Browser.Undisturbed repository id) state
        labels ↔
      (browser service repository.toSessionRepository).Guarded Browser.SendsAlone state labels :=
  Machine.along_iff_guarded (fun _ orderly => Browser.Orderly.undisturbed orderly)
    (fun orderly alone step => Browser.Orderly.step orderly alone step)
    (fun orderly step undisturbed => Browser.Orderly.sendsAlone orderly step undisturbed.1) labels
    started.orderly

/-! ## Calls after a login -/

/-- The session that the login stored, with the hash of its token. -/
def loggedInSession : Session where
  id := Installed.uuid 2
  userID := Installed.uuid 1
  refreshTokenHash := Installed.service.hash Installed.token
  tokenFamily := Installed.uuid 3
  deviceInfo := .null
  ipAddress := "203.0.113.7"
  userAgent := "curl"
  isRevoked := false
  expiresAt := 604800 * second
  createdAt := 0
  lastUsedAt := 0

/-- A browser with this many calls, an expired access token and the login's
refresh token. -/
def loggedIn (calls : Nat) : Browser (Uuid → Option Session) where
  access := some "expired"
  refresh := some Installed.token
  calls := List.replicate calls .calling
  store := Function.update (fun _ => none) (Installed.uuid 2) (some loggedInSession)
  spent := []
  lost := false
  resent := false

/-- So it is after a login. -/
theorem loggedIn_started (calls : Nat) :
    Browser.Started Installed.service sessionMap.toFaithfulRepository (Installed.uuid 2)
      (loggedIn calls) where
  stored := by
    have stored : (loggedIn calls).store (Installed.uuid 2) = some loggedInSession := by
      simp only [loggedIn, Function.update_self]
    exact ⟨Installed.token, rfl, validateRefreshToken_refreshTokenText _ _, loggedInSession,
      ⟨stored, rfl⟩, rfl, rfl⟩
  calling _ member := List.eq_of_mem_replicate member
  spent := rfl
  current := rfl
  unsent := rfl

/-- What a call does when its access token has expired. -/
def refreshing (call : Nat) (secret : UInt8) : List (Nat × Action) :=
  [(call, .request), (call, .respond 401), (call, .readToken), (call, .post),
    (call, .serve (Installed.refreshInput (60 * second) secret)), (call, .deliver),
    (call, .storeAccess), (call, .storeRefresh), (call, .retry), (call, .finish 200)]

/-- Whether a call that sends its refresh token sends it alone. -/
def Browser.sendsAlone (state : Browser Store) (label : Nat × Action) : Bool :=
  match state.calls[label.1]?, label.2 with
  | some (.posting token), .post =>
      state.refresh = some token && !state.lost &&
        (List.range state.calls.length).all fun other =>
          other = label.1 || (state.calls[other]?).all fun phase => !phase.outstanding
  | _, _ => true

/-- What the check passes is sent alone. -/
theorem Browser.sendsAlone_sound (state : Browser Store) (label : Nat × Action)
    (alone : state.sendsAlone label = true) : state.SendsAlone label := by
  intro token found posting
  simp only [sendsAlone, found, posting, Bool.and_eq_true, decide_eq_true_eq,
    Bool.not_eq_true'] at alone
  obtain ⟨⟨stored, current⟩, quiet⟩ := alone
  refine ⟨stored, ?_, current⟩
  intro other phase different present
  have inside := List.mem_range.mpr (List.getElem?_eq_some_iff.mp present).1
  simpa [different, present] using List.all_eq_true.mp quiet other inside

/-- Both requests go out with the expired token; the one call reads the refresh token
when the other has stored its pair. -/
def inTurn : List (Nat × Action) :=
  [(0, .request), (1, .request), (0, .respond 401), (1, .respond 401)] ++
    (refreshing 0 6).drop 2 ++ (refreshing 1 7).drop 2

/-- Both refreshes succeed. -/
theorem inTurn_alone :
    (browser Installed.service sessionMap.toSessionRepository).passes Browser.sendsAlone
        (loggedIn 2) inTurn = true ∧
      ((browser Installed.service sessionMap.toSessionRepository).exec (loggedIn 2) inTurn).map
        (fun state => (state.spent.length, state.calls.length, state.calls.all fun phase =>
          phase matches .returned (some 200))) = some (2, 2, true) := by
  decide +kernel

/-- Two refreshes in turn do not disturb each other. -/
theorem refresh_undisturbed_inTurn :
    (browser Installed.service sessionMap.toSessionRepository).Along
        (Browser.Undisturbed sessionMap.toFaithfulRepository (Installed.uuid 2)) (loggedIn 2)
        inTurn ∧
      ((browser Installed.service sessionMap.toSessionRepository).exec (loggedIn 2) inTurn).map
        (fun state => (state.spent.length, state.calls.length, state.calls.all fun phase =>
          phase matches .returned (some 200))) = some (2, 2, true) := by
  obtain ⟨passed, final⟩ := inTurn_alone
  exact ⟨(refresh_undisturbed_iff Installed.service sessionMap.toFaithfulRepository
    (Installed.uuid 2) (loggedIn 2) (loggedIn_started 2) _).mpr
    (Machine.guarded_of_passes Browser.sendsAlone_sound passed), final⟩

/-- The two requests that `refresh` of `useAnalytics` issues at once. -/
def inParallel : List (Nat × Action) :=
  [(0, .request), (1, .request), (0, .respond 401), (0, .readToken), (0, .post), (1, .respond 401),
    (1, .readToken), (1, .post), (0, .serve (Installed.refreshInput (60 * second) 6)),
    (1, .serve (Installed.refreshInput (60 * second) 7))]

/-- Two at once revoke the session. -/
theorem refresh_disturbed :
    ¬ ∀ labels : List (Nat × Action),
      (browser Installed.service sessionMap.toSessionRepository).Along
        (Browser.Undisturbed sessionMap.toFaithfulRepository (Installed.uuid 2)) (loggedIn 2)
        labels := by
  intro always
  have run : ((browser Installed.service sessionMap.toSessionRepository).exec (loggedIn 2)
      inParallel).map (fun state => (state.resent, (state.store (Installed.uuid 2)).isSome)) =
        some (true, false) := by decide +kernel
  obtain ⟨state, reached, observed⟩ := Option.map_eq_some_iff.mp run
  obtain ⟨-, session, live, -⟩ := (always inParallel).final reached
  have present : (state.store (Installed.uuid 2)).isSome = true := by
    rw [show state.store (Installed.uuid 2) = some session from live]
    rfl
  rw [(Prod.mk.inj observed).2] at present
  cases present

end Sentinel.Dashboard
