import Mathlib.Logic.Function.Basic
import Sentinel.Auth.Domain

/-!
# Session repositories

`SessionRepository` is the interface the service is written against, less
`UpdateLastUsed`, which nothing calls. `sessionRedis` is the implementation that
is installed. `FaithfulRepository` says what it means for an implementation to be
atomic and to return every field it was given, and `sessionMap` is a small one
that is.
-/

namespace Sentinel.Auth

open Sentinel.Wire

structure SessionRepository (Store : Type) where
  create : Time → Session → Store → Except RepositoryError Store
  getByID : Time → Uuid → Store → Except RepositoryError Session
  revokeByID : Time → Uuid → Store → Except RepositoryError Store
  revokeFamily : Time → Uuid → Store → Except RepositoryError Store

/-- What Redis holds for the auth service: documents and sets of session ids,
each with the instant at which its key expires. -/
structure RedisStore where
  strings : String → Option (Json × Time)
  sets : String → Option (List String × Time)

namespace RedisStore

def empty : RedisStore := ⟨fun _ => none, fun _ => none⟩

def get (store : RedisStore) (now : Time) (key : String) : Option Json :=
  match store.strings key with
  | some (data, expiry) => if now < expiry then some data else none
  | none => none

def sMembers (store : RedisStore) (now : Time) (key : String) : List String :=
  match store.sets key with
  | some (members, expiry) => if now < expiry then members else []
  | none => []

/-- `SET` with a positive TTL, which is sent in whole milliseconds. -/
def set (store : RedisStore) (now : Time) (key : String) (data : Json) (ttl : Time) :
    RedisStore :=
  { store with
    strings := Function.update store.strings key
      (some (data, now + max 1 (ttl / 1000000) * 1000000)) }

/-- `SADD` followed by `EXPIRE`, whose TTL is sent in whole seconds. -/
def sAdd (store : RedisStore) (now : Time) (key member : String) (ttl : Time) : RedisStore :=
  { store with
    sets := Function.update store.sets key
      (some ((store.sMembers now key).insert member, now + max 1 (ttl / second) * second)) }

def del (store : RedisStore) (key : String) : RedisStore :=
  { strings := Function.update store.strings key none
    sets := Function.update store.sets key none }

end RedisStore

namespace SessionRedis

def sessionKey (id : String) : String := "session:" ++ id

def familyKey (tokenFamily : Uuid) : String := "family:" ++ tokenFamily.string

def create (now : Time) (session : Session) (store : RedisStore) :
    Except RepositoryError RedisStore :=
  if session.expiresAt - now ≤ 0 then .error .sessionExpired
  else
    .ok ((store.set now (sessionKey session.id.string) session.marshal
      (session.expiresAt - now)).sAdd now (familyKey session.tokenFamily) session.id.string
      (session.expiresAt - now))

def getByID (now : Time) (id : Uuid) (store : RedisStore) : Except RepositoryError Session :=
  match store.get now (sessionKey id.string) with
  | none => .error .sessionNotFound
  | some data =>
      match Session.unmarshal data with
      | none => .error .malformed
      | some session => .ok session

def revokeByID (now : Time) (id : Uuid) (store : RedisStore) : Except RepositoryError RedisStore :=
  match getByID now id store with
  | .error error => .error error
  | .ok session =>
      if session.expiresAt - now ≤ 0 then .ok (store.del (sessionKey id.string))
      else
        .ok (store.set now (sessionKey id.string) { session with isRevoked := true }.marshal
          (session.expiresAt - now))

def revokeFamily (now : Time) (tokenFamily : Uuid) (store : RedisStore) :
    Except RepositoryError RedisStore :=
  match store.sMembers now (familyKey tokenFamily) with
  | [] => .ok store
  | members =>
      .ok ((members.foldl (fun store id => store.del (sessionKey id)) store).del
        (familyKey tokenFamily))

/-- No document in Redis, however it got there, yields a session with a hash. -/
theorem getByID_hash {now : Time} {id : Uuid} {store : RedisStore} {session : Session}
    (read : getByID now id store = .ok session) : session.refreshTokenHash = "" := by
  unfold getByID at read
  split at read
  · cases read
  · split at read
    · cases read
    · rename_i unmarshalled
      cases read
      exact Session.unmarshal_hash unmarshalled

/-- `GetByID` after `Create`: every field comes back but the hash. -/
theorem getByID_create {now later : Time} {session : Session} {store next : RedisStore}
    (created : create now session store = .ok next)
    (live : later < now + max 1 ((session.expiresAt - now) / 1000000) * 1000000) :
    getByID later session.id next = .ok { session with refreshTokenHash := "" } := by
  unfold create at created
  split at created
  · cases created
  · cases created
    simp only [getByID, RedisStore.get, RedisStore.sAdd, RedisStore.set, Function.update_self,
      live, if_true, Session.unmarshal_marshal]

/-- A lifetime sent in whole units ends less than a unit early. -/
theorem lt_add_truncated {now later expiry unit : Int} (positive : 0 < unit)
    (live : later + unit ≤ expiry) : later < now + max 1 ((expiry - now) / unit) * unit := by
  have truncated : (expiry - now) / unit * unit ≤ max 1 ((expiry - now) / unit) * unit :=
    Int.mul_le_mul_of_nonneg_right (Int.le_max_right ..) (Int.le_of_lt positive)
  have remainder : expiry - now < ((expiry - now) / unit + 1) * unit :=
    Int.lt_ediv_add_one_mul_self _ positive
  rw [Int.add_mul, Int.one_mul] at remainder
  omega

/-- A key without a value has none after a deletion. -/
theorem strings_del_none {store : RedisStore} {key : String} (other : String)
    (absent : store.strings key = none) : (store.del other).strings key = none := by
  by_cases itself : key = other
  · subst itself
    exact Function.update_self ..
  · exact (Function.update_of_ne itself ..).trans absent

theorem strings_foldl_del_none (members : List String) {store : RedisStore} {key : String}
    (absent : store.strings key = none) :
    (members.foldl (fun store id => store.del (sessionKey id)) store).strings key = none := by
  induction members generalizing store with
  | nil => exact absent
  | cons member members ih => exact ih (strings_del_none _ absent)

/-- Every listed session is deleted. -/
theorem strings_foldl_del {members : List String} {member : String} (listed : member ∈ members)
    (store : RedisStore) :
    (members.foldl (fun store id => store.del (sessionKey id)) store).strings
      (sessionKey member) = none := by
  induction members generalizing store with
  | nil => cases listed
  | cons first members ih =>
      rcases List.mem_cons.mp listed with rfl | listed
      · exact strings_foldl_del_none members (Function.update_self ..)
      · exact ih listed _

/-- Revoking a family deletes the records of its members. -/
theorem revokeFamily_member {now later : Time} {tokenFamily id : Uuid} {store : RedisStore}
    (listed : id.string ∈ store.sMembers now (familyKey tokenFamily)) :
    ∃ next, revokeFamily now tokenFamily store = .ok next ∧
      getByID later id next = .error .sessionNotFound := by
  cases members : store.sMembers now (familyKey tokenFamily) with
  | nil =>
      rw [members] at listed
      cases listed
  | cons first rest =>
      rw [members] at listed
      refine ⟨_, by rw [revokeFamily, members], ?_⟩
      simp only [getByID, RedisStore.get,
        strings_del_none (familyKey tokenFamily) (strings_foldl_del listed store)]

/-- The stored session is a member of its family until the last second of its life. -/
theorem sMembers_create {now later : Time} {session : Session} {store next : RedisStore}
    (created : create now session store = .ok next) (live : later + second ≤ session.expiresAt) :
    session.id.string ∈ next.sMembers later (familyKey session.tokenFamily) := by
  unfold create at created
  split at created
  · cases created
  · cases created
    have expiry : later < now + max 1 ((session.expiresAt - now) / second) * second :=
      lt_add_truncated (by decide) live
    simp only [RedisStore.sAdd, RedisStore.sMembers, Function.update_self, if_pos expiry]
    exact List.mem_insert_self

end SessionRedis

/-- The repository that `main` installs. -/
def sessionRedis : SessionRepository RedisStore :=
  ⟨SessionRedis.create, SessionRedis.getByID, SessionRedis.revokeByID, SessionRedis.revokeFamily⟩

/-- A repository with atomic operations that returns every field it was given.
`view` is what is stored. An operation may fail and then changes nothing; whether
a revoked record is kept or deleted is left open. -/
structure FaithfulRepository (Store : Type) extends SessionRepository Store where
  view : Store → Uuid → Option Session
  getByID_ok : ∀ {now id store session}, getByID now id store = .ok session →
    view store id = some session
  create_ok : ∀ {now session store next}, create now session store = .ok next →
    view next = Function.update (view store) session.id (some session)
  revokeByID_ok : ∀ {now id store next}, revokeByID now id store = .ok next →
    (∀ session, view next id = some session → session.isRevoked) ∧
      ∀ other, other ≠ id → view next other = view store other
  revokeFamily_ok : ∀ {now family store next}, revokeFamily now family store = .ok next → ∀ id,
    (∀ session, view store id = some session → session.tokenFamily = family →
      ∀ record, view next id = some record → record.isRevoked) ∧
    ((∀ session, view store id = some session → session.tokenFamily ≠ family) →
      view next id = view store id)

namespace FaithfulRepository

variable {Store : Type} {repository : FaithfulRepository Store}

/-- An unrevoked record of the session is stored. -/
def Live (repository : FaithfulRepository Store) (store : Store) (id : Uuid) (session : Session) :
    Prop :=
  repository.view store id = some session ∧ session.isRevoked = false

/-- An id has one live session at most. -/
theorem Live.unique {store : Store} {id : Uuid} {session other : Session}
    (live : repository.Live store id session) (same : repository.Live store id other) :
    session = other :=
  Option.some.inj (live.1.symm.trans same.1)

/-- A live record after `Create` is the created one or was there before. -/
theorem live_create {now : Time} {created : Session} {store next : Store}
    (ok : repository.create now created store = .ok next) {id : Uuid} {session : Session}
    (live : repository.Live next id session) :
    id = created.id ∧ session = created ∨ id ≠ created.id ∧ repository.Live store id session := by
  obtain ⟨stored, unrevoked⟩ := live
  rw [repository.create_ok ok] at stored
  by_cases itself : id = created.id
  · subst itself
    rw [Function.update_self] at stored
    exact .inl ⟨rfl, (Option.some.inj stored).symm⟩
  · rw [Function.update_of_ne itself] at stored
    exact .inr ⟨itself, stored, unrevoked⟩

/-- A session that was just stored is live. -/
theorem live_created {now : Time} {created : Session} {store next : Store}
    (ok : repository.create now created store = .ok next) (unrevoked : created.isRevoked = false) :
    repository.Live next created.id created := by
  refine ⟨?_, unrevoked⟩
  rw [repository.create_ok ok, Function.update_self]

/-- Revoking a session ends it alone. -/
theorem live_revokeByID {now : Time} {revoked : Uuid} {store next : Store}
    (ok : repository.revokeByID now revoked store = .ok next) {id : Uuid} {session : Session} :
    repository.Live next id session ↔ id ≠ revoked ∧ repository.Live store id session := by
  obtain ⟨gone, others⟩ := repository.revokeByID_ok ok
  by_cases itself : id = revoked
  · subst itself
    refine ⟨fun live => ?_, fun live => absurd rfl live.1⟩
    exact absurd (gone session live.1) (by simp [live.2])
  · simp only [Live, others id itself, ne_eq, itself, not_false_eq_true, true_and]

/-- Revoking a family ends its sessions and no others. -/
theorem live_revokeFamily {now : Time} {family : Uuid} {store next : Store}
    (ok : repository.revokeFamily now family store = .ok next) {id : Uuid} {session : Session} :
    repository.Live next id session ↔
      session.tokenFamily ≠ family ∧ repository.Live store id session := by
  obtain ⟨gone, others⟩ := repository.revokeFamily_ok ok id
  by_cases member : ∃ record, repository.view store id = some record ∧ record.tokenFamily = family
  · obtain ⟨record, stored, same⟩ := member
    constructor
    · intro live
      exact absurd (gone record stored same session live.1) (by simp [live.2])
    · rintro ⟨different, present, -⟩
      rw [stored] at present
      cases present
      exact absurd same different
  · have unchanged := others fun record stored same => member ⟨record, stored, same⟩
    constructor
    · intro live
      rw [Live, unchanged] at live
      exact ⟨fun same => member ⟨session, live.1, same⟩, live⟩
    · rintro ⟨-, live⟩
      rwa [Live, unchanged]

end FaithfulRepository

/-- A faithful repository none of whose operations fails without a reason, and
that still returns a record at its `ExpiresAt`. -/
structure ReliableRepository (Store : Type) extends FaithfulRepository Store where
  getByID_live : ∀ {now id store session}, view store id = some session →
    now ≤ session.expiresAt → getByID now id store = .ok session
  create_live : ∀ {now session} store, now < session.expiresAt →
    ∃ next, create now session store = .ok next
  create_expired : ∀ {now session} store, session.expiresAt ≤ now →
    create now session store = .error .sessionExpired
  revokeFamily_total : ∀ now family store, ∃ next, revokeFamily now family store = .ok next

/-- Records in a map; revoking a family deletes its records. -/
def sessionMap : ReliableRepository (Uuid → Option Session) where
  create now session store :=
    if session.expiresAt ≤ now then .error .sessionExpired
    else .ok (Function.update store session.id (some session))
  getByID _ id store :=
    match store id with
    | none => .error .sessionNotFound
    | some session => .ok session
  revokeByID _ id store :=
    match store id with
    | none => .error .sessionNotFound
    | some session => .ok (Function.update store id (some { session with isRevoked := true }))
  revokeFamily _ tokenFamily store :=
    .ok fun id => (store id).filter fun session => session.tokenFamily ≠ tokenFamily
  view := id
  getByID_ok := by
    intro now id store session read
    split at read
    · cases read
    · cases read
      assumption
  create_ok := by
    intro now session store next created
    split at created
    · cases created
    · cases created
      rfl
  revokeByID_ok := by
    intro now id store next revoked
    split at revoked
    · cases revoked
    · cases revoked
      refine ⟨?_, fun other different => by simp [different]⟩
      intro session same
      simp only [id_eq, Function.update_self, Option.some.injEq] at same
      rw [← same]
  revokeFamily_ok := by
    rintro now family store next ⟨rfl⟩ id
    refine ⟨?_, ?_⟩
    · intro session present same record kept
      simp only [id_eq] at present kept
      simp only [present, Option.filter_some, same] at kept
      simp at kept
    · intro others
      simp only [id_eq] at others ⊢
      cases present : store id with
      | none => rfl
      | some session => simp [others session present]
  getByID_live := by
    intro now id store session present _
    simp only [id_eq] at present
    simp only [present]
  create_live := by
    intro now session store live
    exact ⟨_, if_neg (Int.not_le.mpr live)⟩
  create_expired := by
    intro now session store expired
    exact if_pos expired
  revokeFamily_total _ _ _ := ⟨_, rfl⟩

end Sentinel.Auth
