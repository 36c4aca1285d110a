import Sentinel.Alert.Redis
import Sentinel.Gateway.RateLimit
import Sentinel.Gateway.SlidingWindow

/-!
# The keys of the gateway and of the alert service in one Redis database

The gateway's limiter keeps sorted sets and the alert script strings, both in
database 0. A command on a key of the other type fails. The keys stay apart
unless the gateway takes the limiter's key from a forwarded address that the
client has made look like a user.
-/

namespace Sentinel.Deployment

open Sentinel.Wire Sentinel.Redis Sentinel.Semantics Sentinel.Gateway Sentinel.Alert

/-- The other end of a TCP connection: an address, perhaps with a zone. -/
structure TcpPeer extends Peer where
  address : List Char
  zone : List Char
  host_eq : host = address ++ zone
  parses : (parseIP address).isSome

/-- The key of the sorted set in which the gateway counts a request. -/
def gatewayKey (realIP : RealIP) (trustProxy : Bool) (peer : Peer) (request : Request) : String :=
  redisKey (limiterKey realIP trustProxy peer request)

/-- The key is used by the alert script, for some decision or user. -/
def AlertKey (key : String) : Prop :=
  (∃ alertID, key = dedupKey alertID) ∨ ∃ userID, key = Alert.rateLimitKey userID

/-- How the alert service's name for a user begins, after `ratelimit:`. -/
def userMark : List Char := "user:".toList

/-- The first forwarded address that the gateway trusts begins like the alert
service's name for a user. -/
def ForgesUser (trustProxy : Bool) (request : Request) : Prop :=
  trustProxy ∧
    userMark <+: (trimSpace (firstEntry (request.header.get "X-Forwarded-For"))).toList

/-- The gateway's keys are not the marks of alerts. -/
theorem redisKey_ne_dedupKey (key alertID : String) : redisKey key ≠ dedupKey alertID := by
  have limit : (redisKey key).toList.head? = some 'r' := head?_append_of_some rfl key
  intro same
  rw [same, head?_dedupKey] at limit
  exact absurd limit (by decide)

/-- It is a user's counter when the key spells the user. -/
theorem redisKey_eq_rateLimitKey_iff {key userID : String} :
    redisKey key = Alert.rateLimitKey userID ↔ key = "user:" ++ userID := by
  have longer : Alert.rateLimitKey userID = "ratelimit:" ++ ("user:" ++ userID) := by
    rw [← String.append_assoc]
    rfl
  rw [redisKey, longer]
  exact String.append_right_inj _

/-- The alert service owns the keys that begin with its mark. -/
theorem alertKey_redisKey_iff {key : String} :
    AlertKey (redisKey key) ↔ userMark <+: key.toList := by
  constructor
  · rintro (⟨alertID, same⟩ | ⟨userID, same⟩)
    · exact absurd same (redisKey_ne_dedupKey key alertID)
    · rw [redisKey_eq_rateLimitKey_iff.mp same, String.toList_append]
      exact List.prefix_append _ _
  · rintro ⟨rest, same⟩
    refine .inr ⟨String.ofList rest, redisKey_eq_rateLimitKey_iff.mpr ?_⟩
    apply String.toList_injective
    simpa [userMark] using same.symm

/-- No address begins like the alert service's name for a user. -/
theorem address_ne_user {text rest : List Char} (parses : (parseIP text).isSome) :
    ¬ userMark <+: text ++ rest := by
  obtain ⟨address, parsed⟩ := Option.isSome_iff_exists.mp parses
  obtain ⟨first, others, rfl, starts⟩ := head_of_parseIP parsed
  rintro ⟨tail, same⟩
  obtain rfl : 'u' = first := (List.cons.inj same).1
  exact absurd starts (by decide)

/-- Without a trusted proxy the limiter's key is an address. -/
theorem limiterKey_address (realIP : RealIP) (peer : TcpPeer) (request : Request) :
    ¬ userMark <+: (limiterKey realIP false peer.toPeer request).toList := by
  rw [limiterKey_eq]
  cases found : realIP.address request.header with
  | none =>
      rw [Option.getD_none, peer.host_eq, String.toList_ofList]
      exact address_ne_user peer.parses
  | some ip =>
      have plain : ¬ userMark <+: ip.toList ++ [] :=
        address_ne_user (realIP.parses request.header ip found)
      rwa [List.append_nil] at plain

/-- Behind a trusted proxy the header gives the key. -/
theorem limiterKey_forwarded {realIP : RealIP} {peer : Peer} {request : Request}
    (forwarded : request.header.get "X-Forwarded-For" ≠ "") :
    limiterKey realIP true peer request =
      trimSpace (firstEntry (request.header.get "X-Forwarded-For")) := by
  simp [limiterKey, Gateway.rateLimitKey, realIP.serve_arriving_header, forwarded]

/-- Without the header it is that of the peer. -/
theorem limiterKey_unforwarded {realIP : RealIP} {peer : Peer} {request : Request}
    (absent : request.header.get "X-Forwarded-For" = "") :
    limiterKey realIP true peer request = limiterKey realIP false peer request := by
  simp [limiterKey, Gateway.rateLimitKey, realIP.serve_arriving_header, absent]

/-- A request is counted under a key of the alert script exactly when it forges
a user. -/
theorem alertKey_gatewayKey_iff (realIP : RealIP) (trustProxy : Bool) (peer : TcpPeer)
    (request : Request) :
    AlertKey (gatewayKey realIP trustProxy peer.toPeer request) ↔
      ForgesUser trustProxy request := by
  rw [gatewayKey, alertKey_redisKey_iff, ForgesUser]
  cases trustProxy with
  | false => simp [limiterKey_address realIP peer request]
  | true =>
      by_cases forwarded : request.header.get "X-Forwarded-For" = ""
      · rw [limiterKey_unforwarded forwarded, forwarded]
        simp only [limiterKey_address realIP peer request, true_and, false_iff]
        decide
      · rw [limiterKey_forwarded forwarded]
        simp

/-! ## Both services on one database -/

/-- What a key holds: a string of the alert service, or a sorted set of the gateway. -/
inductive StoredValue (Call : Type) where
  | text (entry : RedisEntry)
  | requests (set : SortedSet (LimiterEntry Call))

/-- A key holds one value, of one type. -/
abbrev Keyspace (Call : Type) := String → Option (StoredValue Call)

/-- Redis expires keys by the millisecond; the gateway's instants are nanoseconds. -/
def millis (now : Int) : Millis := now / 1000000

namespace Keyspace

variable {Call : Type}

/-- The strings of the keyspace. -/
def texts (keys : Keyspace Call) : AlertRedis := fun key =>
  match keys key with
  | some (.text entry) => some entry
  | _ => none

/-- What a command at `now` finds under the key. -/
def live (keys : Keyspace Call) (now : Int) (key : String) : Option (StoredValue Call) :=
  match keys key with
  | some (.text _) => (keys.texts.entry (millis now) key).map .text
  | some (.requests set) => if set.expired now then none else some (.requests set)
  | none => none

/-- Write what the script left under its two keys. -/
def store (keys : Keyspace Call) (first second : String) (texts : AlertRedis) : Keyspace Call :=
  fun key => if key = first ∨ key = second then (texts key).map .text else keys key

/-- `AllowAlert`; `none` is the error of `GET` on a key that holds no string.
`EXISTS` and `SET` do not mind the type of a key. -/
def allowAlert (keys : Keyspace Call) (alertID userID : String) (now : Int) :
    Option Verdict × Keyspace Call :=
  if (keys.live now (dedupKey alertID)).isSome then (some .duplicate, keys)
  else match keys.live now (Alert.rateLimitKey userID) with
    | some (.requests _) => (none, keys)
    | _ =>
        let (verdict, texts) := Alert.allowAlert alertID userID (millis now) keys.texts
        (some verdict, keys.store (dedupKey alertID) (Alert.rateLimitKey userID) texts)

/-- The value that a sorted set is under its key: an empty one is no key. -/
def ofSet (set : SortedSet (LimiterEntry Call)) : Option (StoredValue Call) :=
  if set.entries = [] then none else some (.requests set)

/-- `EXPIRE` on a string. -/
def expireText (entry : RedisEntry) (now ttl : Int) : Option (StoredValue Call) :=
  if ttl ≤ 0 then none else some (.text { entry with expiresAt := some (millis (now + ttl)) })

variable [DecidableEq Call]

/-- The block of `Allow`; `none` is the error of its commands on a string. The
last of them, `EXPIRE`, is executed all the same. -/
def allow (limiter : SlidingWindowLimiter) (keys : Keyspace Call) (key : String)
    (entry : LimiterEntry Call) (serverNow : Int) : Option Bool × Keyspace Call :=
  match keys.live serverNow key with
  | some (.text text) =>
      (none, Function.update keys key (expireText text serverNow limiter.expiry))
  | some (.requests set) =>
      let set := limiter.counted entry set
      (some (limiter.allowed set.zcard),
        Function.update keys key (ofSet (set.expire serverNow limiter.expiry)))
  | none =>
      let set := limiter.counted entry .empty
      (some (limiter.allowed set.zcard),
        Function.update keys key (ofSet (set.expire serverNow limiter.expiry)))

end Keyspace

/-- The gateway's middlewares as `main` configures them. -/
structure GatewayLimiter where
  realIP : RealIP
  trustProxy : Bool
  limiter : SlidingWindowLimiter

structure SharedRedis (Call : Type) where
  keys : Keyspace Call
  /-- The calls that failed with `WRONGTYPE`. -/
  wrongTypes : Nat

inductive SharedLabel (Call : Type) where
  | request (peer : TcpPeer) (request : Request) (call : Call) (timestamp serverNow : Int)
  | alert (alertID userID : String) (serverNow : Int)

variable {Call : Type}

namespace SharedRedis

/-- Count the failure of a call. -/
def after {Answer : Type} (redis : SharedRedis Call) (result : Option Answer × Keyspace Call) :
    SharedRedis Call where
  keys := result.2
  wrongTypes := if result.1.isNone then redis.wrongTypes + 1 else redis.wrongTypes

def step [DecidableEq Call] (gateway : GatewayLimiter) (redis : SharedRedis Call) :
    SharedLabel Call → Option (SharedRedis Call)
  | .request peer request call timestamp serverNow =>
      let key := gatewayKey gateway.realIP gateway.trustProxy peer.toPeer request
      some (redis.after (redis.keys.allow gateway.limiter key ⟨timestamp, call⟩ serverNow))
  | .alert alertID userID serverNow =>
      some (redis.after (redis.keys.allowAlert alertID userID serverNow))

end SharedRedis

/-- The gateway and the alert service on one database. -/
def sharedRedis [DecidableEq Call] (gateway : GatewayLimiter) :
    Machine (SharedRedis Call) (SharedLabel Call) :=
  ⟨SharedRedis.step gateway⟩

/-- The alert script's keys hold strings, and all others sorted sets. -/
structure Keyspace.Typed (keys : Keyspace Call) : Prop where
  text : ∀ key entry, keys key = some (.text entry) → AlertKey key
  requests : ∀ key set, keys key = some (.requests set) → ¬ AlertKey key

/-- The request does not forge a user. -/
def SharedLabel.Honest (trustProxy : Bool) : SharedLabel Call → Prop
  | .request _ sent _ _ _ => ¬ ForgesUser trustProxy sent
  | .alert _ _ _ => True

namespace Keyspace

variable {keys : Keyspace Call} {key alertID userID : String} {now : Int}

/-- What is seen of a text is stored. -/
theorem live_eq_text {entry : RedisEntry} (found : keys.live now key = some (.text entry)) :
    ∃ stored, keys key = some (.text stored) := by
  unfold live at found
  split at found
  · exact ⟨_, ‹_›⟩
  · split at found <;> cases found
  · cases found

theorem live_eq_requests {set : SortedSet (LimiterEntry Call)}
    (found : keys.live now key = some (.requests set)) :
    ∃ stored, keys key = some (.requests stored) := by
  unfold live at found
  split at found
  · obtain ⟨entry, _, same⟩ := Option.map_eq_some_iff.mp found
    cases same
  · exact ⟨_, ‹_›⟩
  · cases found

/-- A value of the right kind keeps every key so. -/
theorem Typed.update (typed : keys.Typed) {value : Option (StoredValue Call)}
    (text : ∀ entry, value = some (.text entry) → AlertKey key)
    (requests : ∀ set, value = some (.requests set) → ¬ AlertKey key) :
    Typed (Function.update keys key value) where
  text other entry found := by
    by_cases same : other = key
    · subst same
      rw [Function.update_self] at found
      exact text entry found
    · rw [Function.update_of_ne same] at found
      exact typed.text other entry found
  requests other set found := by
    by_cases same : other = key
    · subst same
      rw [Function.update_self] at found
      exact requests set found
    · rw [Function.update_of_ne same] at found
      exact typed.requests other set found

/-- The alert script stores texts under its own keys. -/
theorem Typed.store (typed : keys.Typed) (texts : AlertRedis) :
    (keys.store (dedupKey alertID) (Alert.rateLimitKey userID) texts).Typed where
  text key entry found := by
    unfold Keyspace.store at found
    split at found
    · rename_i own
      exact own.imp (⟨alertID, ·⟩) (⟨userID, ·⟩)
    · exact typed.text key entry found
  requests key set found := by
    unfold Keyspace.store at found
    split at found
    · obtain ⟨entry, _, same⟩ := Option.map_eq_some_iff.mp found
      cases same
    · exact typed.requests key set found

/-- The script finds no sorted set. -/
theorem Typed.allowAlert (typed : keys.Typed) :
    (keys.allowAlert alertID userID now).1.isSome ∧
      (keys.allowAlert alertID userID now).2.Typed := by
  unfold Keyspace.allowAlert
  split
  · exact ⟨rfl, typed⟩
  · split
    · rename_i set found
      obtain ⟨stored, found⟩ := live_eq_requests found
      exact absurd (.inr ⟨userID, rfl⟩) (typed.requests _ stored found)
    · exact ⟨rfl, typed.store _⟩

/-- A set is not stored as a text. -/
theorem ofSet_requests {set : SortedSet (LimiterEntry Call)} {entry : RedisEntry} :
    ofSet set ≠ some (.text entry) := by
  unfold ofSet
  split <;> nofun

/-- The limiter finds no string under a key of its own. -/
theorem Typed.allow [DecidableEq Call] (typed : keys.Typed) (own : ¬ AlertKey key)
    (limiter : SlidingWindowLimiter) (entry : LimiterEntry Call) :
    (keys.allow limiter key entry now).1.isSome ∧ (keys.allow limiter key entry now).2.Typed := by
  have stays : ∀ set : SortedSet (LimiterEntry Call),
      Typed (Function.update keys key (ofSet set)) := fun set =>
    typed.update (fun _ found => absurd found ofSet_requests) fun _ _ => own
  unfold Keyspace.allow
  split
  · rename_i text found
    obtain ⟨stored, found⟩ := live_eq_text found
    exact absurd (typed.text key stored found) own
  · exact ⟨rfl, stays _⟩
  · exact ⟨rfl, stays _⟩

end Keyspace

/-- No honest step meets a value of the other kind. -/
theorem SharedRedis.step_typed [DecidableEq Call] {gateway : GatewayLimiter}
    {redis next : SharedRedis Call} {label : SharedLabel Call}
    (typed : redis.keys.Typed ∧ redis.wrongTypes = 0) (honest : label.Honest gateway.trustProxy)
    (step : redis.step gateway label = some next) :
    next.keys.Typed ∧ next.wrongTypes = 0 := by
  obtain ⟨typed, unfailed⟩ := typed
  cases label with
  | request peer request call timestamp serverNow =>
      cases step
      have own := mt
        (alertKey_gatewayKey_iff gateway.realIP gateway.trustProxy peer request).mp honest
      obtain ⟨answered, typed⟩ := typed.allow own gateway.limiter ⟨timestamp, call⟩
      exact ⟨typed, by simp [after, Option.isSome_iff_ne_none.mp answered, unfailed]⟩
  | alert alertID userID serverNow =>
      cases step
      obtain ⟨answered, typed⟩ := typed.allowAlert
      exact ⟨typed, by simp [after, Option.isSome_iff_ne_none.mp answered, unfailed]⟩

/-- The gateway's key differs from all keys of the alert script exactly when the
request does not forge a user, and while none does, no call fails. -/
theorem sharedRedis_apart [DecidableEq Call] (gateway : GatewayLimiter) (keys : Keyspace Call)
    (labels : List (SharedLabel Call)) :
    (∀ (peer : TcpPeer) (request : Request),
      (∀ alertID userID,
        gatewayKey gateway.realIP gateway.trustProxy peer.toPeer request ≠ dedupKey alertID ∧
          gatewayKey gateway.realIP gateway.trustProxy peer.toPeer request ≠
            Alert.rateLimitKey userID) ↔
        ¬ ForgesUser gateway.trustProxy request) ∧
      (keys.Typed →
        (sharedRedis gateway).Guarded (fun _ label => label.Honest gateway.trustProxy) ⟨keys, 0⟩
          labels →
        (sharedRedis gateway).Along (·.wrongTypes = 0) ⟨keys, 0⟩ labels) := by
  constructor
  · intro peer request
    rw [← alertKey_gatewayKey_iff gateway.realIP gateway.trustProxy peer request]
    constructor
    · rintro apart (⟨alertID, same⟩ | ⟨userID, same⟩)
      · exact (apart alertID "").1 same
      · exact (apart "" userID).2 same
    · intro apart alertID userID
      exact ⟨fun same => apart (.inl ⟨alertID, same⟩), fun same => apart (.inr ⟨userID, same⟩)⟩
  · intro typed honest
    have kept : (sharedRedis gateway).Along
        (fun redis => redis.keys.Typed ∧ redis.wrongTypes = 0) ⟨keys, 0⟩ labels :=
      Machine.along_of_guarded (fun typed honest step => SharedRedis.step_typed typed honest step)
        ⟨typed, rfl⟩ honest
    exact kept.mono fun redis => And.right

def someTcpPeer : TcpPeer where
  toPeer := somePeer
  address := "198.51.100.1".toList
  zone := []
  host_eq := rfl
  parses := by decide +kernel

/-- The shipped limit of a hundred requests a minute, behind a trusted proxy. -/
def proxiedGateway : GatewayLimiter := ⟨chiRealIP, true, ⟨100, 60000000000⟩⟩

/-- A client names a user in place of an address. -/
def forgedUser : Request where
  header := Header.set (fun _ => []) "X-Forwarded-For" "user:u1"

/-- A client behind a proxy that names an address. -/
def forwardedAddress : Request where
  header := Header.set (fun _ => []) "X-Forwarded-For" "203.0.113.9"

/-- An address that is forwarded keeps apart from the counters. -/
theorem sharedRedis_apart_forwarded :
    (sharedRedis proxiedGateway).Along (·.wrongTypes = 0) ⟨fun _ => none, 0⟩
      [.request someTcpPeer forwardedAddress (0 : Nat) 5 5, .alert "d1" "u1" 5] := by
  refine (sharedRedis_apart proxiedGateway _ _).2 ⟨nofun, nofun⟩ ?_
  refine fun next step => ⟨?_, fun next step => ⟨trivial, trivial⟩⟩
  rintro ⟨-, forged⟩
  exact absurd forged (by decide +kernel)

/-- A header that spells a user's counter does not. -/
theorem sharedRedis_collides :
    (¬ ∀ (realIP : RealIP) (trustProxy : Bool) (peer : TcpPeer) (request : Request)
      (alertID userID : String),
        gatewayKey realIP trustProxy peer.toPeer request ≠ dedupKey alertID ∧
          gatewayKey realIP trustProxy peer.toPeer request ≠ Alert.rateLimitKey userID) ∧
      ¬ ∀ (gateway : GatewayLimiter) (labels : List (SharedLabel Nat)),
        (sharedRedis gateway).Along (·.wrongTypes = 0) ⟨fun _ => none, 0⟩ labels := by
  constructor
  · intro apart
    have same : gatewayKey chiRealIP true somePeer forgedUser = Alert.rateLimitKey "u1" := by
      decide +kernel
    exact (apart chiRealIP true someTcpPeer forgedUser "d1" "u1").2 same
  · intro always
    have run : ((sharedRedis proxiedGateway).exec ⟨fun _ => none, 0⟩
        [.request someTcpPeer forgedUser (0 : Nat) 5 5, .alert "d1" "u1" 5]).map (·.wrongTypes) =
          some 1 := by
      decide +kernel
    obtain ⟨redis, reached, failed⟩ := Option.map_eq_some_iff.mp run
    have unfailed := (always proxiedGateway _).final reached
    omega

end Sentinel.Deployment
