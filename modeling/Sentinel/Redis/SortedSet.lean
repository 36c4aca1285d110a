import Mathlib.Data.List.Nodup
import Mathlib.Data.List.Perm.Subperm

/-!
# Sorted sets that expire

The commands of Redis on one sorted set. An entry carries its score, and every
addition is of a new member, so that no entry replaces another. A set without
entries is no key at all and has no expiry.
-/

namespace Sentinel.Redis

structure SortedSet (Entry : Type) where
  entries : List Entry
  /-- When the key expires, on the server's clock. -/
  expiresAt : Option Int
deriving DecidableEq

namespace SortedSet

variable {Entry : Type}

/-- A key that does not exist. -/
def empty : SortedSet Entry := ⟨[], none⟩

def expired (now : Int) (set : SortedSet Entry) : Bool :=
  match set.expiresAt with
  | none => false
  | some expiresAt => expiresAt ≤ now

/-- What a command at `now` finds under the key. -/
def live (now : Int) (set : SortedSet Entry) : SortedSet Entry :=
  if set.expired now then empty else set

/-- `ZADD` of a new member -/
def zadd (entry : Entry) (set : SortedSet Entry) : SortedSet Entry :=
  { set with entries := set.entries ++ [entry] }

/-- `ZREMRANGEBYSCORE`, with both bounds inclusive -/
def zremrangebyscore (score : Entry → Int) (low high : Int) (set : SortedSet Entry) :
    SortedSet Entry :=
  let entries := set.entries.filter fun entry => !(low ≤ score entry ∧ score entry ≤ high)
  if entries = [] then empty else { set with entries := entries }

/-- `ZCARD` -/
def zcard (set : SortedSet Entry) : Nat := set.entries.length

/-- `EXPIRE` at `now`; a time to live that is not positive deletes the key. -/
def expire (now ttl : Int) (set : SortedSet Entry) : SortedSet Entry :=
  if set.entries = [] ∨ ttl ≤ 0 then empty else { set with expiresAt := some (now + ttl) }

variable {set : SortedSet Entry} {entry : Entry} {score : Entry → Int} {low high now : Int}

@[simp] theorem entries_zadd : (set.zadd entry).entries = set.entries ++ [entry] := rfl

@[simp] theorem expiresAt_zadd : (set.zadd entry).expiresAt = set.expiresAt := rfl

@[simp] theorem zcard_zadd : (set.zadd entry).zcard = set.zcard + 1 := by
  simp [zcard]

/-- What is left has its scores outside the range. -/
theorem entries_zremrangebyscore :
    (set.zremrangebyscore score low high).entries =
      set.entries.filter fun entry => !(low ≤ score entry ∧ score entry ≤ high) := by
  unfold zremrangebyscore
  simp only
  split
  · rename_i none
    exact none.symm
  · rfl

/-- An entry is left when it was there and lies outside. -/
theorem mem_zremrangebyscore :
    entry ∈ (set.zremrangebyscore score low high).entries ↔
      entry ∈ set.entries ∧ ¬ (low ≤ score entry ∧ score entry ≤ high) := by
  simp only [entries_zremrangebyscore, List.mem_filter, Bool.not_eq_true', decide_eq_false_iff_not]

/-- A set that keeps an entry keeps its expiry. -/
theorem expiresAt_zremrangebyscore
    (kept : entry ∈ (set.zremrangebyscore score low high).entries) :
    (set.zremrangebyscore score low high).expiresAt = set.expiresAt := by
  rw [entries_zremrangebyscore] at kept
  simp only [zremrangebyscore, if_neg (List.ne_nil_of_mem kept)]

/-- Distinct entries of a set are no more than it counts. -/
theorem length_le_zcard {entries : List Entry} (distinct : entries.Nodup)
    (present : ∀ entry ∈ entries, entry ∈ set.entries) : entries.length ≤ set.zcard :=
  (List.subperm_of_subset distinct present).length_le

end SortedSet
end Sentinel.Redis
