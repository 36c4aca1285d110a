import Sentinel.Auth.Service

/-!
# Reuse detection over sequential histories

The ledger records, from requests and answers alone, which refresh token of
which session is the newest. `refresh_exact` says how `Refresh` answers a token
in terms of the ledger, after any history of logins, refreshes and logouts over
a reliable repository.
-/

namespace Sentinel.Auth

open Sentinel.Wire

/-- What the answers so far say about a session. -/
structure LedgerEntry where
  userID : Uuid
  tokenFamily : Uuid
  /-- Fixed by the login. -/
  expiresAt : Time
  newest : String
  revoked : Bool

abbrev Ledger := Uuid → Option LedgerEntry

namespace Ledger

def enter (ledger : Ledger) (id : Uuid) (entry : LedgerEntry) : Ledger :=
  Function.update ledger id (some entry)

@[simp] theorem enter_self (ledger : Ledger) (id : Uuid) (entry : LedgerEntry) :
    ledger.enter id entry id = some entry := Function.update_self ..

/-- The entries of other sessions stay. -/
theorem enter_of_ne {ledger : Ledger} {id other : Uuid} {entry : LedgerEntry}
    (different : other ≠ id) : ledger.enter id entry other = ledger other :=
  Function.update_of_ne different ..

def renew (ledger : Ledger) (id : Uuid) (token : String) : Ledger :=
  Function.update ledger id ((ledger id).map fun entry => { entry with newest := token })

def revoke (ledger : Ledger) (id : Uuid) : Ledger :=
  Function.update ledger id ((ledger id).map fun entry => { entry with revoked := true })

/-- Revoke every session of the family that session `id` belongs to. -/
def revokeFamilyOf (ledger : Ledger) (id : Uuid) : Ledger := fun other =>
  (ledger other).map fun entry =>
    if (ledger id).map LedgerEntry.tokenFamily = some entry.tokenFamily then
      { entry with revoked := true }
    else entry

end Ledger

inductive AuthRequest where
  | login (request : LoginRequest) (input : LoginInput) (users : Users)
  | refresh (token : String) (input : RefreshInput)
  | logout (now : Time) (sessionID : Uuid)

/-- The store after a history, with its ledger and every token it returned. -/
structure History (Store : Type) where
  store : Store
  ledger : Ledger
  issued : List String

def History.start {Store : Type} (store : Store) : History Store := ⟨store, fun _ => none, []⟩

namespace AuthService

variable {Store : Type} (service : AuthService) (repository : ReliableRepository Store)

/-- Serve one request and note its answer. -/
def serve (history : History Store) : AuthRequest → History Store
  | .login request input users =>
      match users.getByEmail (service.toLower (service.trimSpace request.email)),
        service.login repository.toSessionRepository request input ⟨users, history.store, []⟩ with
      | some user, (.ok pair, world) =>
          { store := world.sessions
            ledger := history.ledger.enter input.sessionID
              ⟨user.id, input.tokenFamily, input.now + service.refreshTTL, pair.refreshToken, false⟩
            issued := pair.refreshToken :: history.issued }
      | _, _ => history
  | .refresh token input =>
      match validateRefreshToken token,
        service.refresh repository.toSessionRepository token input history.store with
      | .ok id, (.ok pair, next) =>
          { store := next
            ledger := history.ledger.renew id pair.refreshToken
            issued := pair.refreshToken :: history.issued }
      | .ok id, (.error .refreshReuse, next) =>
          { history with store := next, ledger := history.ledger.revokeFamilyOf id }
      | _, (_, next) => { history with store := next }
  | .logout now sessionID =>
      match logout repository.toSessionRepository now sessionID history.store with
      | (.ok _, next) => { history with store := next, ledger := history.ledger.revoke sessionID }
      | (.error _, next) => { history with store := next }

/-- Serve a sequence of requests. -/
def serveAll (history : History Store) (requests : List AuthRequest) : History Store :=
  requests.foldl (service.serve repository) history

/-- What a call of `Refresh` can come to. -/
inductive Outcome (token : String) (input : RefreshInput) (store : Store) :
    Except AuthError TokenPair × Store → Prop where
  | malformed {error : RefreshTokenError} (validated : validateRefreshToken token = .error error) :
      Outcome token input store (.error .invalidRefresh, store)
  | dead {id : Uuid} (validated : validateRefreshToken token = .ok id)
      (dead : ∀ session, repository.Live store id session → session.expiresAt < input.checkedAt) :
      Outcome token input store (.error .invalidRefresh, store)
  | mismatch {id : Uuid} {session : Session} {next : Store}
      (validated : validateRefreshToken token = .ok id)
      (live : repository.Live store id session) (unexpired : ¬ session.expiresAt < input.checkedAt)
      (mismatch : service.hash token ≠ session.refreshTokenHash)
      (revoked : repository.revokeFamily input.checkedAt session.tokenFamily store = .ok next) :
      Outcome token input store (.error .refreshReuse, next)
  | inactive {id : Uuid} {session : Session} (validated : validateRefreshToken token = .ok id)
      (live : repository.Live store id session) (unexpired : ¬ session.expiresAt < input.checkedAt)
      (matched : service.hash token = session.refreshTokenHash)
      (inactive : ¬ ∃ user, input.users.getByID session.userID = some user ∧ user.isActive) :
      Outcome token input store (.error .invalidRefresh, store)
  | lapsed {id : Uuid} {session : Session} (validated : validateRefreshToken token = .ok id)
      (live : repository.Live store id session) (unexpired : ¬ session.expiresAt < input.checkedAt)
      (matched : service.hash token = session.refreshTokenHash)
      (active : ∃ user, input.users.getByID session.userID = some user ∧ user.isActive)
      (lapsed : session.expiresAt ≤ input.storedAt) :
      Outcome token input store (.error (.repository .sessionExpired), store)
  | renewed {id : Uuid} {session : Session} {user : User} {next : Store}
      (validated : validateRefreshToken token = .ok id)
      (live : repository.Live store id session) (unexpired : ¬ session.expiresAt < input.checkedAt)
      (matched : service.hash token = session.refreshTokenHash)
      (found : input.users.getByID session.userID = some user) (active : user.isActive)
      (stored : input.storedAt < session.expiresAt) (pair : TokenPair)
      (generated : pair.refreshToken = refreshTokenText session.id input.secret)
      (created : repository.create input.storedAt (service.rotated session pair input.issuedAt)
        store = .ok next) :
      Outcome token input store (.ok pair, next)

variable {service repository}

/-- A refresh has one of the outcomes listed. -/
theorem refresh_outcome (token : String) (input : RefreshInput) (store : Store) :
    service.Outcome repository token input store
      (service.refresh repository.toSessionRepository token input store) := by
  unfold refresh
  split
  · rename_i validated
    exact .malformed validated
  rename_i id validated
  split
  · rename_i unread
    refine .dead validated fun session live => ?_
    by_contra unexpired
    rw [repository.getByID_live live.1 (Int.not_lt.mp unexpired)] at unread
    cases unread
  rename_i session read
  have stored := repository.getByID_ok read
  split
  · rename_i dead
    refine .dead validated fun record live => ?_
    rw [live.1] at stored
    cases stored
    exact dead.resolve_left (by simp [live.2])
  rename_i alive
  have live : repository.Live store id session :=
    ⟨stored, Bool.eq_false_iff.mpr fun revoked => alive (.inl revoked)⟩
  have unexpired : ¬ session.expiresAt < input.checkedAt := fun expired => alive (.inr expired)
  split
  · rename_i mismatch
    obtain ⟨next, revoked⟩ :=
      repository.revokeFamily_total input.checkedAt session.tokenFamily store
    rw [revoked]
    exact .mismatch validated live unexpired mismatch revoked
  rename_i matched
  replace matched := not_not.mp matched
  split
  · rename_i missing
    refine .inactive validated live unexpired matched ?_
    rw [missing]
    simp
  rename_i user found
  split
  · rename_i inactive
    refine .inactive validated live unexpired matched ?_
    rw [found]
    simpa using inactive
  rename_i active
  replace active : user.isActive = true := by simpa using active
  simp only
  generalize generated :
    service.tokens.generateTokenPair user session.id input.issuedAt input.secret = pair
  generalize written : service.rotated session pair input.issuedAt = record
  have expiry : record.expiresAt = session.expiresAt := by rw [← written]; rfl
  rcases Int.lt_or_le input.storedAt record.expiresAt with unlapsed | lapsed
  · obtain ⟨next, created⟩ := repository.create_live store unlapsed
    rw [created]
    exact .renewed validated live unexpired matched found active (expiry ▸ unlapsed) pair
      (by rw [← generated]; rfl) (written ▸ created)
  · rw [repository.create_expired store lapsed]
    exact .lapsed validated live unexpired matched ⟨user, found, active⟩ (expiry ▸ lapsed)

/-- The record that the ledger expects for an entry. -/
structure Matches (service : AuthService) (id : Uuid) (entry : LedgerEntry) (session : Session) :
    Prop where
  id : session.id = id
  userID : session.userID = entry.userID
  tokenFamily : session.tokenFamily = entry.tokenFamily
  expiresAt : session.expiresAt = entry.expiresAt
  hash : session.refreshTokenHash = service.hash entry.newest

/-- The store holds a live record exactly for the unrevoked entries. -/
structure Agrees (service : AuthService) (repository : ReliableRepository Store) (store : Store)
    (ledger : Ledger) (issued : List String) : Prop where
  recorded : ∀ {id session}, repository.Live store id session →
    ∃ entry, ledger id = some entry ∧ entry.revoked = false ∧ service.Matches id entry session
  live : ∀ {id entry}, ledger id = some entry → entry.revoked = false →
    ∃ session, repository.Live store id session
  newest : ∀ {id entry}, ledger id = some entry →
    validateRefreshToken entry.newest = .ok id ∧ entry.newest ∈ issued

section

variable {store next : Store} {ledger : Ledger} {issued : List String}

/-- An empty store agrees with an empty ledger. -/
theorem agrees_start (empty : ∀ id, repository.view store id = none) :
    service.Agrees repository store (fun _ => none) [] where
  recorded live := by
    have stored := live.1
    rw [empty] at stored
    cases stored
  live present := by cases present
  newest present := by cases present

/-- The live record of an unrevoked entry. -/
theorem Agrees.record (agrees : service.Agrees repository store ledger issued) {id : Uuid}
    {entry : LedgerEntry} (present : ledger id = some entry) (unrevoked : entry.revoked = false) :
    ∃ session, repository.Live store id session ∧ service.Matches id entry session := by
  obtain ⟨session, live⟩ := agrees.live present unrevoked
  obtain ⟨other, same, -, expected⟩ := agrees.recorded live
  rw [present] at same
  cases same
  exact ⟨session, live, expected⟩

/-- Write a record and its entry together. -/
theorem Agrees.enter (agrees : service.Agrees repository store ledger issued)
    (session : Session) (entry : LedgerEntry) {now : Time}
    (created : repository.create now session store = .ok next)
    (unrevoked : session.isRevoked = false) (fresh : entry.revoked = false)
    (expected : service.Matches session.id entry session)
    (validated : validateRefreshToken entry.newest = .ok session.id) :
    service.Agrees repository next (ledger.enter session.id entry) (entry.newest :: issued) where
  recorded {id record} live := by
    rcases FaithfulRepository.live_create created live with ⟨rfl, rfl⟩ | ⟨different, live⟩
    · exact ⟨entry, ledger.enter_self .., fresh, expected⟩
    · rw [Ledger.enter_of_ne different]
      exact agrees.recorded live
  live {id other} present valid := by
    by_cases itself : id = session.id
    · subst itself
      exact ⟨session, FaithfulRepository.live_created created unrevoked⟩
    · rw [Ledger.enter_of_ne itself] at present
      obtain ⟨record, live⟩ := agrees.live present valid
      refine ⟨record, ?_, live.2⟩
      rw [repository.create_ok created, Function.update_of_ne itself]
      exact live.1
  newest {id other} present := by
    by_cases itself : id = session.id
    · subst itself
      rw [Ledger.enter_self] at present
      cases present
      exact ⟨validated, List.mem_cons_self⟩
    · rw [Ledger.enter_of_ne itself] at present
      exact ⟨(agrees.newest present).1, List.mem_cons_of_mem _ (agrees.newest present).2⟩

/-- Revoke records and their entries together: those that `struck` selects. -/
theorem Agrees.strike (agrees : service.Agrees repository store ledger issued)
    (struck : Uuid → LedgerEntry → Bool) {after : Ledger}
    (entries : ∀ id, after id = (ledger id).map fun entry =>
      if struck id entry then { entry with revoked := true } else entry)
    (records : ∀ {id session entry}, service.Matches id entry session →
      (repository.Live next id session ↔
        struck id entry = false ∧ repository.Live store id session))
    (subset : ∀ {id session}, repository.Live next id session → repository.Live store id session) :
    service.Agrees repository next after issued where
  recorded {id session} live := by
    obtain ⟨entry, present, unrevoked, expected⟩ := agrees.recorded (subset live)
    have kept := ((records expected).mp live).1
    refine ⟨entry, ?_, unrevoked, expected⟩
    rw [entries, present, Option.map_some, kept]
    rfl
  live {id entry} present unrevoked := by
    rw [entries] at present
    obtain ⟨old, before, rfl⟩ := Option.map_eq_some_iff.mp present
    cases kept : struck id old with
    | true => rw [kept] at unrevoked; cases unrevoked
    | false =>
        rw [kept] at unrevoked
        obtain ⟨session, live, expected⟩ := agrees.record before unrevoked
        exact ⟨session, (records expected).mpr ⟨kept, live⟩⟩
  newest {id entry} present := by
    rw [entries] at present
    obtain ⟨old, before, rfl⟩ := Option.map_eq_some_iff.mp present
    have named := agrees.newest before
    cases struck id old <;> exact named

/-- They agree after a logout. -/
theorem Agrees.revoke (agrees : service.Agrees repository store ledger issued) {now : Time}
    {revoked : Uuid} (ok : repository.revokeByID now revoked store = .ok next) :
    service.Agrees repository next (ledger.revoke revoked) issued := by
  refine agrees.strike (fun id _ => id = revoked) (fun id => ?_) (fun _ => ?_) fun live =>
    ((FaithfulRepository.live_revokeByID ok).mp live).2
  · by_cases itself : id = revoked
    · subst itself
      simp [Ledger.revoke]
    · simp [Ledger.revoke, itself]
  · rw [FaithfulRepository.live_revokeByID ok, decide_eq_false_iff_not]

/-- They agree after a family was revoked. -/
theorem Agrees.revokeFamilyOf (agrees : service.Agrees repository store ledger issued)
    {now : Time} {id : Uuid} {entry : LedgerEntry} (present : ledger id = some entry)
    (ok : repository.revokeFamily now entry.tokenFamily store = .ok next) :
    service.Agrees repository next (ledger.revokeFamilyOf id) issued := by
  refine agrees.strike (fun _ other => entry.tokenFamily = other.tokenFamily) (fun other => ?_)
    (fun expected => ?_) fun live => ((FaithfulRepository.live_revokeFamily ok).mp live).2
  · simp only [Ledger.revokeFamilyOf, present, Option.map_some, Option.some.injEq,
      decide_eq_true_eq]
  · rw [FaithfulRepository.live_revokeFamily ok, decide_eq_false_iff_not, expected.tokenFamily,
      ne_comm]

end

/-- The ledger keeps up with every request. -/
theorem Agrees.serve {history : History Store}
    (agrees : service.Agrees repository history.store history.ledger history.issued)
    (request : AuthRequest) :
    service.Agrees repository (service.serve repository history request).store
      (service.serve repository history request).ledger
      (service.serve repository history request).issued := by
  cases request with
  | login request input users =>
      simp only [AuthService.serve]
      split
      · rename_i user pair world found loggedIn
        obtain ⟨generated, created⟩ := login_ok_of_found found loggedIn
        have validated : validateRefreshToken pair.refreshToken = .ok input.sessionID := by
          rw [generated]
          exact validateRefreshToken_refreshTokenText _ _
        exact agrees.enter (service.newSession user pair request input)
          ⟨user.id, input.tokenFamily, input.now + service.refreshTTL, pair.refreshToken, false⟩
          created rfl rfl ⟨rfl, rfl, rfl, rfl, rfl⟩ validated
      · exact agrees
  | refresh token input =>
      have outcome : service.Outcome repository token input history.store _ :=
        refresh_outcome token input history.store
      simp only [AuthService.serve]
      generalize service.refresh repository.toSessionRepository token input history.store = answer
        at outcome ⊢
      cases outcome with
      | malformed validated => simpa only [validated] using agrees
      | dead validated _ => simpa only [validated] using agrees
      | @mismatch id session next validated live _ _ revoked =>
          obtain ⟨entry, present, -, expected⟩ := agrees.recorded live
          rw [expected.tokenFamily] at revoked
          simpa only [validated] using agrees.revokeFamilyOf present revoked
      | inactive validated _ _ _ _ => simpa only [validated] using agrees
      | lapsed validated _ _ _ _ _ => simpa only [validated] using agrees
      | @renewed id session user next validated live _ _ _ _ _ pair generated created =>
          obtain ⟨entry, present, unrevoked, expected⟩ := agrees.recorded live
          have named : validateRefreshToken pair.refreshToken = .ok session.id := by
            rw [generated]
            exact validateRefreshToken_refreshTokenText _ _
          have entered := agrees.enter (service.rotated session pair input.issuedAt)
            { entry with newest := pair.refreshToken } created live.2 unrevoked
            ⟨rfl, expected.userID, expected.tokenFamily, expected.expiresAt, rfl⟩ named
          simp only [validated, Ledger.renew, present, Option.map_some]
          rw [← expected.id]
          exact entered
  | logout now sessionID =>
      simp only [AuthService.serve, logout]
      split
      · rename_i revoked
        split at revoked <;> cases revoked
        rename_i revoked
        exact agrees.revoke revoked
      · rename_i failed
        split at failed <;> cases failed
        exact agrees

/-- They agree after every history. -/
theorem agrees_serveAll {history : History Store}
    (agrees : service.Agrees repository history.store history.ledger history.issued)
    (requests : List AuthRequest) :
    service.Agrees repository (service.serveAll repository history requests).store
      (service.serveAll repository history requests).ledger
      (service.serveAll repository history requests).issued := by
  induction requests generalizing history with
  | nil => exact agrees
  | cons request requests ih => exact ih (agrees.serve request)

/-- The token names a session that is unrevoked and, at the check, unexpired. -/
structure Names (ledger : Ledger) (token : String) (input : RefreshInput) (id : Uuid)
    (entry : LedgerEntry) : Prop where
  validated : validateRefreshToken token = .ok id
  present : ledger id = some entry
  unrevoked : entry.revoked = false
  unexpired : ¬ entry.expiresAt < input.checkedAt

/-- The answer to a token, in terms of the ledger. -/
structure Exact (repository : ReliableRepository Store) (store : Store) (ledger : Ledger)
    (token : String) (input : RefreshInput) (answer : Except AuthError TokenPair × Store) :
    Prop where
  renewed : (∃ pair, answer.1 = .ok pair) ↔ ∃ id entry, Names ledger token input id entry ∧
    token = entry.newest ∧ input.storedAt < entry.expiresAt ∧
      ∃ user, input.users.getByID entry.userID = some user ∧ user.isActive
  reused : answer.1 = .error .refreshReuse ↔ ∃ id entry, Names ledger token input id entry ∧
    token ≠ entry.newest
  revokes : ∀ id entry, answer.1 = .error .refreshReuse → Names ledger token input id entry →
    ∀ other session, repository.Live answer.2 other session ↔
      session.tokenFamily ≠ entry.tokenFamily ∧ repository.Live store other session
  refused : (∀ pair, answer.1 ≠ .ok pair) → answer.1 ≠ .error .refreshReuse →
    answer.2 = store ∧ (answer.1 = .error .invalidRefresh ∨
      answer.1 = .error (.repository .sessionExpired) ∧ ∃ id entry,
        Names ledger token input id entry ∧ token = entry.newest ∧
          entry.expiresAt ≤ input.storedAt)

section

variable {store : Store} {ledger : Ledger} {issued : List String} {token : String}
  {input : RefreshInput}

/-- A token names one session. -/
theorem Names.unique {id other : Uuid} {entry second : LedgerEntry}
    (names : Names ledger token input id entry) (also : Names ledger token input other second) :
    id = other ∧ entry = second := by
  obtain rfl : id = other := Except.ok.inj (names.validated.symm.trans also.validated)
  exact ⟨rfl, Option.some.inj (names.present.symm.trans also.present)⟩

/-- A live record makes its token name its entry. -/
theorem Agrees.names (agrees : service.Agrees repository store ledger issued) {id : Uuid}
    {session : Session} (validated : validateRefreshToken token = .ok id)
    (live : repository.Live store id session)
    (unexpired : ¬ session.expiresAt < input.checkedAt) :
    ∃ entry, Names ledger token input id entry ∧ service.Matches id entry session := by
  obtain ⟨entry, present, unrevoked, expected⟩ := agrees.recorded live
  rw [expected.expiresAt] at unexpired
  exact ⟨entry, ⟨validated, present, unrevoked, unexpired⟩, expected⟩

/-- Only the newest token has the hash of the record, unless digests collide. -/
theorem Agrees.newest_iff (agrees : service.Agrees repository store ledger issued) {id : Uuid}
    {entry : LedgerEntry} {session : Session} (names : Names ledger token input id entry)
    (expected : service.Matches id entry session)
    (collisionFree : ∀ other ∈ issued, service.sum256 token = service.sum256 other →
      token = other) :
    service.hash token = session.refreshTokenHash ↔ token = entry.newest := by
  rw [expected.hash]
  constructor
  · intro same
    exact collisionFree _ (agrees.newest names.present).2 (refreshTokenHash_inj.mp same)
  · intro same
    rw [same]

/-- Where they agree, a refresh answers as the ledger says. -/
theorem Agrees.exact (agrees : service.Agrees repository store ledger issued)
    (collisionFree : ∀ other ∈ issued, service.sum256 token = service.sum256 other →
      token = other) :
    Exact repository store ledger token input
      (service.refresh repository.toSessionRepository token input store) := by
  have outcome : service.Outcome repository token input store _ :=
    refresh_outcome token input store
  generalize service.refresh repository.toSessionRepository token input store = answer at outcome ⊢
  -- Where the token names no unexpired session, nothing is promised to it.
  have unnamed (none : ∀ id entry, ¬ Names ledger token input id entry) :
      Exact repository store ledger token input (.error .invalidRefresh, store) := by
    refine ⟨iff_of_false nofun ?_, iff_of_false nofun ?_, nofun, fun _ _ => ⟨rfl, .inl rfl⟩⟩
    · rintro ⟨id, entry, names, -⟩
      exact none id entry names
    · rintro ⟨id, entry, names, -⟩
      exact none id entry names
  cases outcome with
  | malformed validated =>
      refine unnamed fun id entry names => ?_
      rw [names.validated] at validated
      cases validated
  | dead validated dead =>
      refine unnamed fun id entry names => ?_
      rw [names.validated] at validated
      cases validated
      obtain ⟨session, live, expected⟩ := agrees.record names.present names.unrevoked
      exact names.unexpired (expected.expiresAt ▸ dead session live)
  | mismatch validated live unexpired mismatch revoked =>
      obtain ⟨entry, names, expected⟩ := agrees.names validated live unexpired
      rw [ne_eq, agrees.newest_iff names expected collisionFree] at mismatch
      refine ⟨iff_of_false nofun ?_, iff_of_true rfl ⟨_, entry, names, mismatch⟩, ?_,
        fun _ other => absurd rfl other⟩
      · rintro ⟨other, second, also, newest, -⟩
        obtain ⟨-, rfl⟩ := names.unique also
        exact mismatch newest
      · intro other second _ also id session
        obtain ⟨-, rfl⟩ := names.unique also
        rw [FaithfulRepository.live_revokeFamily revoked, expected.tokenFamily]
  | inactive validated live unexpired matched inactive =>
      obtain ⟨entry, names, expected⟩ := agrees.names validated live unexpired
      rw [agrees.newest_iff names expected collisionFree] at matched
      refine ⟨iff_of_false nofun ?_, iff_of_false nofun ?_, nofun, fun _ _ => ⟨rfl, .inl rfl⟩⟩
      · rintro ⟨other, second, also, -, -, active⟩
        obtain ⟨-, rfl⟩ := names.unique also
        exact inactive (expected.userID ▸ active)
      · rintro ⟨other, second, also, stale⟩
        obtain ⟨-, rfl⟩ := names.unique also
        exact stale matched
  | lapsed validated live unexpired matched _ lapsed =>
      obtain ⟨entry, names, expected⟩ := agrees.names validated live unexpired
      rw [agrees.newest_iff names expected collisionFree] at matched
      rw [expected.expiresAt] at lapsed
      refine ⟨iff_of_false nofun ?_, iff_of_false nofun ?_, nofun,
        fun _ _ => ⟨rfl, .inr ⟨rfl, _, entry, names, matched, lapsed⟩⟩⟩
      · rintro ⟨other, second, also, -, stored, -⟩
        obtain ⟨-, rfl⟩ := names.unique also
        exact Int.not_lt.mpr lapsed stored
      · rintro ⟨other, second, also, stale⟩
        obtain ⟨-, rfl⟩ := names.unique also
        exact stale matched
  | renewed validated live unexpired matched found active stored pair _ _ =>
      obtain ⟨entry, names, expected⟩ := agrees.names validated live unexpired
      rw [agrees.newest_iff names expected collisionFree] at matched
      rw [expected.expiresAt] at stored
      rw [expected.userID] at found
      refine ⟨iff_of_true ⟨pair, rfl⟩ ⟨_, entry, names, matched, stored, _, found, active⟩,
        iff_of_false nofun ?_, nofun, fun failed => absurd rfl (failed pair)⟩
      rintro ⟨other, second, also, stale⟩
      obtain ⟨-, rfl⟩ := names.unique also
      exact stale matched

end

/-- After every sequential history over every reliable repository, `Refresh`
answers every token by the ledger. -/
theorem refresh_exact {store : Store} (empty : ∀ id, repository.view store id = none)
    (requests : List AuthRequest) (token : String) (input : RefreshInput)
    (collisionFree : ∀ other ∈ (service.serveAll repository (.start store) requests).issued,
      service.sum256 token = service.sum256 other → token = other) :
    Exact repository (service.serveAll repository (.start store) requests).store
      (service.serveAll repository (.start store) requests).ledger token input
      (service.refresh repository.toSessionRepository token input
        (service.serveAll repository (.start store) requests).store) := by
  have start : service.Agrees repository (History.start store).store (History.start store).ledger
      (History.start store).issued := agrees_start empty
  exact (agrees_serveAll start requests).exact collisionFree

/-- The history of one login. -/
def oneLogin : History (Uuid → Option Session) :=
  Installed.service.serveAll sessionMap (.start fun _ => none)
    [.login Installed.loginRequest Installed.loginInput [Installed.user]]

theorem oneLogin_issued : oneLogin.issued = [Installed.token] := rfl

/-- After one login its token is exchanged. -/
theorem refresh_exact_oneLogin :
    Exact sessionMap oneLogin.store oneLogin.ledger Installed.token
      (Installed.refreshInput (60 * second) 6)
      (Installed.service.refresh sessionMap.toSessionRepository Installed.token
        (Installed.refreshInput (60 * second) 6) oneLogin.store) := by
  refine refresh_exact (fun _ => rfl)
    [.login Installed.loginRequest Installed.loginInput [Installed.user]] _ _ ?_
  intro other issued _
  exact (List.mem_singleton.mp (oneLogin_issued ▸ issued)).symm

/-- A token with the session's id and an invented secret was never issued. It is
answered like a replaced one and its session is gone. -/
theorem invented_token_revokes :
    refreshTokenText (Installed.uuid 2) (Installed.secret 9) ∉ oneLogin.issued ∧
      (oneLogin.store (Installed.uuid 2)).map Session.isRevoked = some false ∧
      ((Installed.service.refresh sessionMap.toSessionRepository
        (refreshTokenText (Installed.uuid 2) (Installed.secret 9))
        (Installed.refreshInput (60 * second) 6) oneLogin.store).1 = .error .refreshReuse) ∧
      ((Installed.service.refresh sessionMap.toSessionRepository
        (refreshTokenText (Installed.uuid 2) (Installed.secret 9))
        (Installed.refreshInput (60 * second) 6) oneLogin.store).2 (Installed.uuid 2)).isNone := by
  refine ⟨?_, rfl, rfl, ?_⟩ <;> decide +kernel

end AuthService
end Sentinel.Auth
