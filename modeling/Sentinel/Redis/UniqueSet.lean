import Mathlib.Data.List.Nodup

/-!
# Sets that expire

The commands of Redis on one set of texts. Adding a member again changes
nothing but the expiry that the caller sets afterwards.
-/

namespace Sentinel.Redis

structure UniqueSet where
  members : List String
  nodup : members.Nodup
  /-- When the key expires, on the server's clock. -/
  expiresAt : Option Int

namespace UniqueSet

/-- A key that does not exist. -/
def empty : UniqueSet := ⟨[], List.nodup_nil, none⟩

/-- What a command at `now` finds under the key. -/
def live (now : Int) (set : UniqueSet) : UniqueSet :=
  if set.expiresAt.any (· ≤ now) then empty else set

/-- `SADD` -/
def sadd (member : String) (set : UniqueSet) : UniqueSet where
  members := set.members.insert member
  nodup := set.nodup.insert
  expiresAt := set.expiresAt

/-- `SCARD` -/
def scard (set : UniqueSet) : Nat := set.members.length

/-- `EXPIRE` at `now`; a time to live that is not positive deletes the key. -/
def expire (now ttl : Int) (set : UniqueSet) : UniqueSet :=
  if set.members = [] ∨ ttl ≤ 0 then empty else { set with expiresAt := some (now + ttl) }

end UniqueSet
end Sentinel.Redis
