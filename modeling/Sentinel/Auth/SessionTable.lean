import Sentinel.Auth.Repository
import Sentinel.Semantics.Expiring
import Sentinel.Semantics.TimedObject

/-!
# What the session records are for

`SessionTable` is the purpose of `SessionRedis`: a session is stored under its id
until it expires, and a family is revoked by forgetting its sessions.
`SessionRedis` holds JSON documents and, for each family, a set of ids whose own
lifetime is cut to whole seconds. `answers_redis` says that the two answer every
history alike in which each session has one family, no session of a family expires
before an older one, and a family is revoked before the last second of a session
of it.
-/

namespace Sentinel.Auth

open Sentinel.Wire Sentinel.Semantics

inductive SessionOp where
  | create (session : Session)
  | getByID (id : Uuid)
  | revokeByID (id : Uuid)
  | revokeFamily (tokenFamily : Uuid)
  | updateLastUsed (id : Uuid)

/-- An error, or the session that was asked for. -/
abbrev SessionAnswer := Except RepositoryError (Option Session)

namespace SessionRedis

/-- Read a session, change it and write it back for the rest of its life. -/
def rewrite (change : Session → Session) (now : Time) (id : Uuid) (store : RedisStore) :
    Except RepositoryError RedisStore :=
  match getByID now id store with
  | .error error => .error error
  | .ok session =>
      if session.expiresAt - now ≤ 0 then .ok (store.del (sessionKey id.string))
      else
        .ok (store.set now (sessionKey id.string) (change session).marshal
          (session.expiresAt - now))

def updateLastUsed (now : Time) (id : Uuid) (store : RedisStore) :
    Except RepositoryError RedisStore :=
  rewrite (fun session => { session with lastUsedAt := now }) now id store

/-- An operation that fails leaves the store as it was. -/
def settle (store : RedisStore) : Except RepositoryError RedisStore → SessionAnswer × RedisStore
  | .error error => (.error error, store)
  | .ok next => (.ok none, next)

def perform (now : Time) (op : SessionOp) (store : RedisStore) : SessionAnswer × RedisStore :=
  match op with
  | .create session => settle store (create now session store)
  | .getByID id => ((getByID now id store).map some, store)
  | .revokeByID id => settle store (revokeByID now id store)
  | .revokeFamily tokenFamily => settle store (revokeFamily now tokenFamily store)
  | .updateLastUsed id => settle store (updateLastUsed now id store)

end SessionRedis

/-- Sessions under their ids, each until it expires. -/
abbrev SessionTable := Expiring Uuid Session

namespace SessionTable

def empty : SessionTable := fun _ => none

/-- A lifetime is kept in whole milliseconds. -/
def deadline (now expiresAt : Time) : Time := now + max 1 ((expiresAt - now) / 1000000) * 1000000

/-- A session without its refresh token's hash, which is never stored. -/
def hashless (session : Session) : Session := { session with refreshTokenHash := "" }

def rewrite (change : Session → Session) (now : Time) (id : Uuid) (table : SessionTable) :
    SessionAnswer × SessionTable :=
  match table.get now id with
  | none => (.error .sessionNotFound, table)
  | some session =>
      if session.expiresAt ≤ now then (.ok none, table.erase id)
      else (.ok none, table.set id (change session) (deadline now session.expiresAt))

def perform (now : Time) (op : SessionOp) (table : SessionTable) : SessionAnswer × SessionTable :=
  match op with
  | .create session =>
      if session.expiresAt ≤ now then (.error .sessionExpired, table)
      else (.ok none, table.set session.id (hashless session) (deadline now session.expiresAt))
  | .getByID id =>
      match table.get now id with
      | none => (.error .sessionNotFound, table)
      | some session => (.ok (some session), table)
  | .revokeByID id => rewrite (fun session => { session with isRevoked := true }) now id table
  | .revokeFamily tokenFamily =>
      (.ok none, table.forget fun session => session.tokenFamily = tokenFamily)
  | .updateLastUsed id => rewrite (fun session => { session with lastUsedAt := now }) now id table

/-- What the service sees to: the family of a session is drawn with its id, a new
session of a family outlives those before it, and a family is revoked while its
sessions have a second left. -/
def Sensible (familyOf : Uuid → Uuid) (now : Time) (op : SessionOp) (table : SessionTable) :
    Prop :=
  match op with
  | .create session =>
      session.tokenFamily = familyOf session.id ∧ ∀ id older, table.get now id = some older →
        older.tokenFamily = session.tokenFamily → older.expiresAt ≤ session.expiresAt
  | .revokeFamily tokenFamily =>
      ∀ id session, table.get now id = some session → session.tokenFamily = tokenFamily →
        now + second ≤ session.expiresAt
  | _ => True

end SessionTable

section Keys

/-- Different ids are written differently. -/
theorem string_injective {first second : Uuid} (same : first.string = second.string) :
    first = second := by
  have parsed : some first = some second := by
    rw [← Uuid.parse_string first, same, Uuid.parse_string]
  exact Option.some.inj parsed

/-- Every session has its own key. -/
theorem sessionKey_injective {first second : String}
    (same : SessionRedis.sessionKey first = SessionRedis.sessionKey second) : first = second :=
  (String.append_right_inj _).mp same

/-- So has every family. -/
theorem familyKey_injective {first second : Uuid}
    (same : SessionRedis.familyKey first = SessionRedis.familyKey second) : first = second :=
  string_injective ((String.append_right_inj _).mp same)

/-- No session has the key of a family. -/
theorem sessionKey_ne_familyKey (id : String) (tokenFamily : Uuid) :
    SessionRedis.sessionKey id ≠ SessionRedis.familyKey tokenFamily := by
  intro same
  have lists := congrArg String.toList same
  rw [SessionRedis.sessionKey, SessionRedis.familyKey, String.toList_append,
    String.toList_append] at lists
  cases congrArg List.head? lists

end Keys

namespace RedisStore

variable (store : RedisStore) (now later : Time) (ttl : Time)

/-- A value is read until it expires. -/
theorem get_set_self (key : String) (data : Json) :
    (store.set now key data ttl).get later key =
      if later < now + max 1 (ttl / 1000000) * 1000000 then some data else none := by
  simp only [get, set, Function.update_self]

/-- The values of other keys are read as before. -/
theorem get_set_of_ne {key other : String} (data : Json) (different : other ≠ key) :
    (store.set now key data ttl).get later other = store.get later other := by
  simp only [get, set, Function.update_of_ne different]

/-- A deleted value is not read. -/
theorem get_del_self (key : String) : (store.del key).get later key = none := by
  simp only [get, del, Function.update_self]

/-- The others are. -/
theorem get_del_of_ne {key other : String} (different : other ≠ key) :
    (store.del key).get later other = store.get later other := by
  simp only [get, del, Function.update_of_ne different]

/-- A member is listed until its set expires. -/
theorem sMembers_sAdd_self (key member : String) :
    (store.sAdd now key member ttl).sMembers later key =
      if later < now + max 1 (ttl / second) * second then
        (store.sMembers now key).insert member else [] := by
  simp only [sMembers, sAdd, Function.update_self]

/-- Other sets keep their members. -/
theorem sMembers_sAdd_of_ne {key other : String} (member : String) (different : other ≠ key) :
    (store.sAdd now key member ttl).sMembers later other = store.sMembers later other := by
  simp only [sMembers, sAdd, Function.update_of_ne different]

/-- A deleted set has no members. -/
theorem sMembers_del_self (key : String) : (store.del key).sMembers later key = [] := by
  simp only [sMembers, del, Function.update_self]

/-- The others keep theirs. -/
theorem sMembers_del_of_ne {key other : String} (different : other ≠ key) :
    (store.del key).sMembers later other = store.sMembers later other := by
  simp only [sMembers, del, Function.update_of_ne different]

/-- The documents of the members are deleted. -/
theorem get_foldl_del (members : List String) (id : String) :
    (members.foldl (fun store member => store.del (SessionRedis.sessionKey member)) store).get later
        (SessionRedis.sessionKey id) =
      if id ∈ members then none else store.get later (SessionRedis.sessionKey id) := by
  induction members generalizing store with
  | nil => rfl
  | cons member rest ih =>
      rw [List.foldl_cons, ih]
      by_cases listed : id ∈ rest
      · rw [if_pos listed, if_pos (List.mem_cons_of_mem _ listed)]
      · rw [if_neg listed]
        by_cases itself : id = member
        · subst itself
          rw [if_pos List.mem_cons_self, get_del_self]
        · have absent : id ∉ member :: rest := by simp [itself, listed]
          rw [if_neg absent, get_del_of_ne]
          exact fun same => itself (sessionKey_injective same)

/-- Deleting documents leaves the families as they are. -/
theorem sMembers_foldl_del (members : List String) (tokenFamily : Uuid) :
    (members.foldl (fun store member => store.del (SessionRedis.sessionKey member))
      store).sMembers later (SessionRedis.familyKey tokenFamily) =
      store.sMembers later (SessionRedis.familyKey tokenFamily) := by
  induction members generalizing store with
  | nil => rfl
  | cons member rest ih =>
      rw [List.foldl_cons, ih, sMembers_del_of_ne]
      exact (sessionKey_ne_familyKey member tokenFamily).symm

end RedisStore

/-- After a family is revoked its members have no documents, and other families
are as they were. -/
theorem SessionRedis.revokeFamily_spec (now : Time) (tokenFamily : Uuid) (store : RedisStore) :
    ∃ next, revokeFamily now tokenFamily store = .ok next ∧
      (∀ later (id : Uuid), next.get later (sessionKey id.string) =
        if id.string ∈ store.sMembers now (familyKey tokenFamily) then none
        else store.get later (sessionKey id.string)) ∧
      (∀ later {other : Uuid}, other ≠ tokenFamily →
        next.sMembers later (familyKey other) = store.sMembers later (familyKey other)) ∧
      ∀ later {member : String}, member ∈ next.sMembers later (familyKey tokenFamily) →
        member ∈ store.sMembers later (familyKey tokenFamily) := by
  rw [revokeFamily]
  cases store.sMembers now (familyKey tokenFamily) with
  | nil => exact ⟨store, rfl, fun _ _ => rfl, fun _ _ _ => rfl, fun _ _ listed => listed⟩
  | cons first rest =>
      refine ⟨_, rfl, fun later id => ?_, fun later other different => ?_, fun later member => ?_⟩
      · rw [RedisStore.get_del_of_ne _ _ (sessionKey_ne_familyKey _ _), RedisStore.get_foldl_del]
      · rw [RedisStore.sMembers_del_of_ne, RedisStore.sMembers_foldl_del]
        exact fun keys => different (familyKey_injective keys)
      · rw [RedisStore.sMembers_del_self]
        exact (List.not_mem_nil · |>.elim)

/-! ## Redis holds the table -/

/-- From now on the documents are those of the table's sessions, and the sets list
the sessions of each family up to their last second. -/
structure Mirrors (familyOf : Uuid → Uuid) (now : Time) (table : SessionTable)
    (store : RedisStore) : Prop where
  documents : ∀ {later}, now ≤ later → ∀ id, store.get later (SessionRedis.sessionKey id.string) =
    (table.get later id).map Session.marshal
  sound : ∀ {id session}, table.get now id = some session →
    session.tokenFamily = familyOf id ∧ session.refreshTokenHash = ""
  listed : ∀ {later id session}, now ≤ later → table.get now id = some session →
    later + second ≤ session.expiresAt →
      id.string ∈ store.sMembers later (SessionRedis.familyKey session.tokenFamily)
  members : ∀ {later member tokenFamily}, now ≤ later →
    member ∈ store.sMembers later (SessionRedis.familyKey tokenFamily) →
      ∃ id, member = Uuid.string id ∧ familyOf id = tokenFamily

namespace Mirrors

variable {familyOf : Uuid → Uuid} {earlier now later : Time} {table : SessionTable}
  {store : RedisStore} {id : Uuid} {session : Session}

/-- The empty table is mirrored by the empty store. -/
theorem empty (familyOf : Uuid → Uuid) (now : Time) :
    Mirrors familyOf now SessionTable.empty RedisStore.empty where
  documents _ _ := rfl
  sound held := by cases held
  listed _ held := by cases held
  members _ listed := by cases listed

/-- Time passes on both sides alike. -/
theorem wait (mirrors : Mirrors familyOf earlier table store) (order : earlier ≤ now) :
    Mirrors familyOf now table store where
  documents after := mirrors.documents (Int.le_trans order after)
  sound held := mirrors.sound (Expiring.get_of_later order held)
  listed after held :=
    mirrors.listed (Int.le_trans order after) (Expiring.get_of_later order held)
  members after := mirrors.members (Int.le_trans order after)

/-- A session is read as the table has it. -/
theorem getByID (mirrors : Mirrors familyOf now table store) (id : Uuid) :
    SessionRedis.getByID now id store =
      match table.get now id with
      | none => .error .sessionNotFound
      | some session => .ok session := by
  rw [SessionRedis.getByID, mirrors.documents (Int.le_refl now)]
  cases held : table.get now id with
  | none => rfl
  | some session =>
      have plain : SessionTable.hashless session = session := by
        rw [SessionTable.hashless, ← (mirrors.sound held).2]
      simp only [Option.map_some, Session.unmarshal_marshal]
      exact congrArg Except.ok plain

/-- A session is read alike on both sides. -/
theorem read (mirrors : Mirrors familyOf now table store) (id : Uuid) :
    (SessionRedis.perform now (.getByID id) store).1 =
        (SessionTable.perform now (.getByID id) table).1 ∧
      Mirrors familyOf now (SessionTable.perform now (.getByID id) table).2
        (SessionRedis.perform now (.getByID id) store).2 := by
  rw [SessionRedis.perform, mirrors.getByID id, SessionTable.perform]
  cases table.get now id with
  | none => exact ⟨rfl, mirrors⟩
  | some session => exact ⟨rfl, mirrors⟩

/-- What a document that is written under an id of the right family does. -/
theorem write (mirrors : Mirrors familyOf now table store)
    (family : session.tokenFamily = familyOf id) (plain : session.refreshTokenHash = "")
    (listed : ∀ {later}, now ≤ later → later + second ≤ session.expiresAt →
      id.string ∈ store.sMembers later (SessionRedis.familyKey session.tokenFamily)) :
    Mirrors familyOf now (table.set id session (SessionTable.deadline now session.expiresAt))
      (store.set now (SessionRedis.sessionKey id.string) session.marshal
        (session.expiresAt - now)) where
  documents := by
    intro later after other
    by_cases itself : other = id
    · subst itself
      rw [RedisStore.get_set_self, Expiring.get_set_self, SessionTable.deadline]
      split <;> rfl
    · rw [RedisStore.get_set_of_ne, Expiring.get_set_of_ne _ _ _ _ itself,
        mirrors.documents after]
      exact fun same => itself (string_injective (sessionKey_injective same))
  sound := by
    intro other found held
    rcases Expiring.get_of_set held with ⟨rfl, rfl⟩ | ⟨_, held⟩
    · exact ⟨family, plain⟩
    · exact mirrors.sound held
  listed := by
    intro later other found after held lives
    rcases Expiring.get_of_set held with ⟨rfl, rfl⟩ | ⟨_, held⟩
    · exact listed after lives
    · exact mirrors.listed after held lives
  members := mirrors.members

/-- Erasing a session is deleting its key. -/
theorem erase (mirrors : Mirrors familyOf now table store) (id : Uuid) :
    Mirrors familyOf now (table.erase id) (store.del (SessionRedis.sessionKey id.string)) where
  documents := by
    intro later after other
    by_cases itself : other = id
    · subst itself
      rw [RedisStore.get_del_self, Expiring.get_erase_self]
      rfl
    · rw [RedisStore.get_del_of_ne, Expiring.get_erase_of_ne _ _ itself, mirrors.documents after]
      exact fun same => itself (string_injective (sessionKey_injective same))
  sound held := mirrors.sound (Expiring.get_of_erase held)
  listed := by
    intro later other found after held lives
    rw [RedisStore.sMembers_del_of_ne _ _ (sessionKey_ne_familyKey _ _).symm]
    exact mirrors.listed after (Expiring.get_of_erase held) lives
  members := by
    intro later member tokenFamily after
    rw [RedisStore.sMembers_del_of_ne _ _ (sessionKey_ne_familyKey _ _).symm]
    exact mirrors.members after

/-- Reading a session, changing it and writing it back is the table's rewriting. -/
theorem rewrite (mirrors : Mirrors familyOf now table store) (change : Session → Session)
    (keeps : ∀ session, (change session).tokenFamily = session.tokenFamily ∧
      (change session).refreshTokenHash = session.refreshTokenHash ∧
      (change session).expiresAt = session.expiresAt) (id : Uuid) :
    (SessionRedis.settle store (SessionRedis.rewrite change now id store)).1 =
        (SessionTable.rewrite change now id table).1 ∧
      Mirrors familyOf now (SessionTable.rewrite change now id table).2
        (SessionRedis.settle store (SessionRedis.rewrite change now id store)).2 := by
  rw [SessionRedis.rewrite, mirrors.getByID id, SessionTable.rewrite]
  cases held : table.get now id with
  | none => exact ⟨rfl, mirrors⟩
  | some session =>
      obtain ⟨family, plain⟩ := mirrors.sound held
      obtain ⟨sameFamily, sameHash, sameExpiry⟩ := keeps session
      by_cases ended : session.expiresAt ≤ now
      · have spent : session.expiresAt - now ≤ 0 := Int.sub_nonpos_of_le ended
        simp only [if_pos ended, if_pos spent]
        exact ⟨rfl, mirrors.erase id⟩
      · have left : ¬ session.expiresAt - now ≤ 0 := fun none => ended (Int.le_of_sub_nonpos none)
        simp only [if_neg ended, if_neg left]
        refine ⟨rfl, ?_⟩
        rw [← sameExpiry]
        refine mirrors.write (sameFamily.trans family) (sameHash.trans plain) ?_
        intro later after lives
        rw [sameFamily]
        rw [sameExpiry] at lives
        exact mirrors.listed after held lives

/-- Listing a session in its family, for as long as the session will live. -/
theorem sAdd (mirrors : Mirrors familyOf now table store)
    (family : session.tokenFamily = familyOf id)
    (outlives : ∀ other older, table.get now other = some older →
      older.tokenFamily = session.tokenFamily → older.expiresAt ≤ session.expiresAt) :
    Mirrors familyOf now table (store.sAdd now (SessionRedis.familyKey session.tokenFamily)
      id.string (session.expiresAt - now)) where
  documents := mirrors.documents
  sound := mirrors.sound
  listed := by
    intro later other older after held lives
    have before : other.string ∈ store.sMembers now (SessionRedis.familyKey older.tokenFamily) :=
      mirrors.listed (Int.le_refl now) held
        (Int.le_trans (Int.add_le_add_right after second) lives)
    by_cases same : older.tokenFamily = session.tokenFamily
    · have outlived := outlives other older held same
      rw [same] at before ⊢
      rw [RedisStore.sMembers_sAdd_self,
        if_pos (SessionRedis.lt_add_truncated (by decide) (Int.le_trans lives outlived))]
      exact List.mem_insert_of_mem before
    · rw [RedisStore.sMembers_sAdd_of_ne]
      · exact mirrors.listed after held lives
      · exact fun keys => same (familyKey_injective keys)
  members := by
    intro later member tokenFamily after listed
    by_cases same : tokenFamily = session.tokenFamily
    · subst same
      rw [RedisStore.sMembers_sAdd_self] at listed
      split at listed
      · rcases List.mem_insert_iff.mp listed with rfl | listed
        · exact ⟨id, rfl, family.symm⟩
        · exact mirrors.members (Int.le_refl now) listed
      · cases listed
    · rw [RedisStore.sMembers_sAdd_of_ne] at listed
      · exact mirrors.members after listed
      · exact fun keys => same (familyKey_injective keys)

/-- Storing a session is mirrored. -/
theorem create (mirrors : Mirrors familyOf now table store)
    (sensible : SessionTable.Sensible familyOf now (.create session) table) :
    (SessionRedis.perform now (.create session) store).1 =
        (SessionTable.perform now (.create session) table).1 ∧
      Mirrors familyOf now (SessionTable.perform now (.create session) table).2
        (SessionRedis.perform now (.create session) store).2 := by
  obtain ⟨family, outlives⟩ := sensible
  rw [SessionRedis.perform, SessionRedis.create, SessionTable.perform]
  by_cases ended : session.expiresAt ≤ now
  · have spent : session.expiresAt - now ≤ 0 := Int.sub_nonpos_of_le ended
    simp only [if_pos ended, if_pos spent]
    exact ⟨rfl, mirrors⟩
  · have left : ¬ session.expiresAt - now ≤ 0 := fun none => ended (Int.le_of_sub_nonpos none)
    simp only [if_neg ended, if_neg left]
    refine ⟨rfl, ?_⟩
    have added := mirrors.sAdd family outlives
    have sameFamily : (SessionTable.hashless session).tokenFamily = familyOf session.id := family
    refine added.write sameFamily rfl fun {later} _ lives => ?_
    have lives : later + second ≤ session.expiresAt := lives
    change session.id.string ∈ (store.sAdd now (SessionRedis.familyKey session.tokenFamily)
      session.id.string (session.expiresAt - now)).sMembers later
        (SessionRedis.familyKey session.tokenFamily)
    rw [RedisStore.sMembers_sAdd_self, if_pos (SessionRedis.lt_add_truncated (by decide) lives)]
    exact List.mem_insert_self

/-- Revoking a family is mirrored. -/
theorem revokeFamily (mirrors : Mirrors familyOf now table store) {tokenFamily : Uuid}
    (sensible : SessionTable.Sensible familyOf now (.revokeFamily tokenFamily) table) :
    (SessionRedis.perform now (.revokeFamily tokenFamily) store).1 =
        (SessionTable.perform now (.revokeFamily tokenFamily) table).1 ∧
      Mirrors familyOf now (SessionTable.perform now (.revokeFamily tokenFamily) table).2
        (SessionRedis.perform now (.revokeFamily tokenFamily) store).2 := by
  obtain ⟨next, revoked, documents, others, own⟩ :=
    SessionRedis.revokeFamily_spec now tokenFamily store
  rw [SessionRedis.perform, revoked]
  refine ⟨rfl, ?_⟩
  change Mirrors familyOf now
    (table.forget fun session => session.tokenFamily = tokenFamily) next
  constructor
  case documents =>
    intro later after id
    rw [documents, mirrors.documents after, Expiring.get_forget]
    cases held : table.get later id with
    | none => exact ite_self none
    | some session =>
        have heldNow := Expiring.get_of_later after held
        by_cases same : session.tokenFamily = tokenFamily
        · have listed := mirrors.listed (Int.le_refl now) heldNow (sensible id session heldNow same)
          rw [same] at listed
          simp [listed, same, Option.filter_some]
        · have unlisted : id.string ∉
              store.sMembers now (SessionRedis.familyKey tokenFamily) := by
            intro listed
            obtain ⟨owner, spelled, family⟩ := mirrors.members (Int.le_refl now) listed
            obtain rfl := string_injective spelled
            exact same ((mirrors.sound heldNow).1.trans family)
          simp [unlisted, same, Option.filter_some]
  case sound =>
    intro id session held
    exact mirrors.sound (Expiring.get_of_forget held).1
  case listed =>
    intro later id session after held lives
    obtain ⟨held, kept⟩ := Expiring.get_of_forget held
    rw [others later (of_decide_eq_false kept)]
    exact mirrors.listed after held lives
  case members =>
    intro later member family after listed
    by_cases same : family = tokenFamily
    · subst same
      exact mirrors.members after (own later listed)
    · rw [others later same] at listed
      exact mirrors.members after listed

end Mirrors

def SessionTable.object : TimedObject Time SessionOp SessionAnswer SessionTable :=
  ⟨SessionTable.perform⟩

def SessionRedis.object : TimedObject Time SessionOp SessionAnswer RedisStore :=
  ⟨SessionRedis.perform⟩

/-- What Redis holds mirrors the table, whatever sensible operation comes next. -/
def mirroring (familyOf : Uuid → Uuid) : TimedObject.Simulation SessionTable.object
    SessionRedis.object (SessionTable.Sensible familyOf) where
  Related now table store := Mirrors familyOf now table store
  wait order mirrors := mirrors.wait order
  perform := by
    intro now op table store mirrors sensible
    cases op with
    | create session => exact mirrors.create sensible
    | getByID id => exact mirrors.read id
    | revokeByID id =>
        exact mirrors.rewrite (fun session => { session with isRevoked := true })
          (fun _ => ⟨rfl, rfl, rfl⟩) id
    | revokeFamily tokenFamily => exact mirrors.revokeFamily sensible
    | updateLastUsed id =>
        exact mirrors.rewrite (fun session => { session with lastUsedAt := now })
          (fun _ => ⟨rfl, rfl, rfl⟩) id

/-- Redis answers every sensible history as the table does. -/
theorem answers_redis (familyOf : Uuid → Uuid) (start : Time) (history : List (Time × SessionOp))
    (sensible : SessionTable.object.Admits (SessionTable.Sensible familyOf) start history
      SessionTable.empty) :
    SessionRedis.object.answers history RedisStore.empty =
      SessionTable.object.answers history SessionTable.empty :=
  (mirroring familyOf).answers_eq (Mirrors.empty familyOf start) sensible

namespace SessionTable

def weekLong : Session := { Session.zero with expiresAt := 604800 * second }

/-- A session that is read, and read again after its family was revoked. -/
def shortHistory : List (Time × SessionOp) :=
  [(0, .create weekLong), (second, .getByID weekLong.id),
    (2 * second, .revokeFamily weekLong.tokenFamily), (3 * second, .getByID weekLong.id)]

/-- The history asks for nothing that the store could not keep. -/
theorem sensible_shortHistory :
    object.Admits (Sensible fun _ => weekLong.tokenFamily) 0 shortHistory empty := by
  refine ⟨by decide, ⟨rfl, fun _ _ held => by cases held⟩, by decide, trivial, by decide, ?_,
    by decide, trivial, trivial⟩
  intro id session held _
  have stored : (empty.set weekLong.id (hashless weekLong)
      (deadline 0 weekLong.expiresAt)).get (2 * second) id = some session := held
  rcases Expiring.get_of_set stored with ⟨-, rfl⟩ | ⟨-, held⟩
  · decide
  · cases held

theorem answers_shortHistory : SessionRedis.object.answers shortHistory RedisStore.empty =
    [.ok none, .ok (some weekLong), .ok none, .error .sessionNotFound] :=
  (answers_redis (fun _ => weekLong.tokenFamily) 0 shortHistory sensible_shortHistory).trans rfl

end SessionTable

end Sentinel.Auth
