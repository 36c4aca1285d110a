import Mathlib.Logic.Function.Basic

/-!
# Alert admission in Redis

`AllowAlert` runs one Lua script, which Redis executes atomically: it refuses an
alert that was admitted in the last ten minutes and a user with five alerts in
the current minute.
-/

namespace Sentinel.Alert

/-- Milliseconds on Redis's clock. -/
abbrev Millis := Int

/-- A counter or mark, with the instant at which its key expires. -/
structure RedisEntry where
  value : Int
  expiresAt : Option Millis
deriving DecidableEq, Repr

abbrev AlertRedis := String → Option RedisEntry

namespace AlertRedis

def empty : AlertRedis := fun _ => none

/-- The entry under a key that has not expired. -/
def entry (redis : AlertRedis) (now : Millis) (key : String) : Option RedisEntry :=
  (redis key).filter fun entry => match entry.expiresAt with
    | none => true
    | some expiry => now < expiry

def get (redis : AlertRedis) (now : Millis) (key : String) : Option Int :=
  (redis.entry now key).map RedisEntry.value

/-- `EXISTS` -/
def contains (redis : AlertRedis) (now : Millis) (key : String) : Bool :=
  (redis.entry now key).isSome

/-- `SET key value EX seconds` -/
def setEx (redis : AlertRedis) (now : Millis) (key : String) (value seconds : Int) : AlertRedis :=
  Function.update redis key (some ⟨value, some (now + seconds * 1000)⟩)

/-- `INCR`, which keeps the expiry of a key that exists. -/
def incr (redis : AlertRedis) (now : Millis) (key : String) : AlertRedis :=
  Function.update redis key <|
    match redis.entry now key with
    | some entry => some { entry with value := entry.value + 1 }
    | none => some ⟨1, none⟩

/-- `EXPIRE` -/
def expire (redis : AlertRedis) (now : Millis) (key : String) (seconds : Int) : AlertRedis :=
  Function.update redis key
    ((redis.entry now key).map fun entry =>
      { entry with expiresAt := some (now + seconds * 1000) })

end AlertRedis

/-- What the script decides. It returns 1 for `allowed` and 0 for the other two. -/
inductive Verdict where
  | allowed
  | duplicate
  | limited
deriving DecidableEq, Repr

/-- `alertLuaScript` -/
def alertLuaScript (dedupKey rateLimitKey : String) (dedupTTL rateLimitAmount rateLimitTTL : Int)
    (now : Millis) (redis : AlertRedis) : Verdict × AlertRedis :=
  if redis.contains now dedupKey then (.duplicate, redis)
  else if (redis.get now rateLimitKey).any (rateLimitAmount ≤ ·) then (.limited, redis)
  else
    let marked := redis.setEx now dedupKey 1 dedupTTL
    let counted := marked.incr now rateLimitKey
    if counted.get now rateLimitKey = some 1 then
      (.allowed, counted.expire now rateLimitKey rateLimitTTL)
    else (.allowed, counted)

def dedupKey (alertID : String) : String := "dedup:alert:" ++ alertID

def rateLimitKey (userID : String) : String := "ratelimit:user:" ++ userID

/-- The mark of an alert is its own. -/
theorem dedupKey_inj {alertID other : String} :
    dedupKey alertID = dedupKey other ↔ alertID = other :=
  String.append_right_inj _

/-- The counter of a user is its own. -/
theorem rateLimitKey_inj {userID other : String} :
    rateLimitKey userID = rateLimitKey other ↔ userID = other :=
  String.append_right_inj _

/-- A key begins as its prefix does. -/
theorem head?_append_of_some {mark : String} {first : Char}
    (starts : mark.toList.head? = some first) (name : String) :
    (mark ++ name).toList.head? = some first := by
  rw [String.toList_append, List.head?_append, starts]
  rfl

theorem head?_dedupKey (alertID : String) : (dedupKey alertID).toList.head? = some 'd' :=
  head?_append_of_some rfl alertID

/-- A mark is never a counter. -/
theorem dedupKey_ne_rateLimitKey (alertID userID : String) :
    dedupKey alertID ≠ rateLimitKey userID := by
  have limit : (rateLimitKey userID).toList.head? = some 'r' := head?_append_of_some rfl userID
  intro same
  rw [← same, head?_dedupKey] at limit
  exact absurd limit (by decide)

/-- `AllowAlert`: the script with the shipped limits. -/
def allowAlert (alertID userID : String) (now : Millis) (redis : AlertRedis) :
    Verdict × AlertRedis :=
  alertLuaScript (dedupKey alertID) (rateLimitKey userID) 600 5 60 now redis

/-- A refused alert leaves Redis as it was. -/
theorem allowAlert_refused {alertID userID : String} {now : Millis} {redis : AlertRedis}
    (refused : (allowAlert alertID userID now redis).1 ≠ .allowed) :
    (allowAlert alertID userID now redis).2 = redis := by
  unfold allowAlert alertLuaScript at refused ⊢
  split
  · rfl
  split
  · rfl
  rename_i unmarked unlimited
  simp only [unmarked, unlimited, Bool.false_eq_true, if_false] at refused
  split at refused <;> exact absurd rfl refused

end Sentinel.Alert
