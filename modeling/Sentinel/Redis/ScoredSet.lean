import Sentinel.Redis.SortedSet

/-!
# Members and scores

`ZADD` of a member that may be in the set already, whose score it then changes.
As long as only new members are added, the commands act on the scores alone:
forgetting the members takes each of them to its counterpart.
-/

namespace Sentinel.Redis

/-- The members of a sorted set with their scores. -/
abbrev ScoredSet (Member : Type) := SortedSet (Member × Int)

namespace SortedSet

section Map

variable {Entry Part : Type} (view : Entry → Part)

/-- The set as it looks when only a part of each entry is seen. -/
def map (set : SortedSet Entry) : SortedSet Part := ⟨set.entries.map view, set.expiresAt⟩

variable {set : SortedSet Entry} {now : Int}

@[simp] theorem map_empty : (empty : SortedSet Entry).map view = empty := rfl

@[simp] theorem zcard_map : (set.map view).zcard = set.zcard := by
  simp [zcard, map]

/-- It expires alike. -/
theorem live_map : (set.map view).live now = (set.live now).map view := by
  unfold live
  change (if set.expired now then empty else set.map view) = _
  split <;> rfl

/-- It is given the same expiry. -/
theorem expire_map {ttl : Int} : (set.map view).expire now ttl = (set.expire now ttl).map view := by
  unfold expire
  simp only [map, List.map_eq_nil_iff]
  split <;> rfl

/-- It is trimmed alike. -/
theorem zremrangebyscore_map {score : Part → Int} {low high : Int} :
    (set.map view).zremrangebyscore score low high =
      (set.zremrangebyscore (fun entry => score (view entry)) low high).map view := by
  have kept : (set.map view).entries.filter
        (fun entry => !(low ≤ score entry ∧ score entry ≤ high)) =
      (set.entries.filter
        fun entry => !(low ≤ score (view entry) ∧ score (view entry) ≤ high)).map view := by
    simp only [map, List.filter_map]
    rfl
  simp only [zremrangebyscore, kept, List.map_eq_nil_iff]
  split <;> rfl

end Map

variable {Member : Type} [DecidableEq Member]

/-- `ZADD` -/
def zaddMember (member : Member) (score : Int) (set : ScoredSet Member) : ScoredSet Member :=
  { set with entries := set.entries.filter (·.1 ≠ member) ++ [(member, score)] }

/-- A new member replaces none. -/
theorem map_zaddMember {member : Member} {score : Int} {set : ScoredSet Member}
    (fresh : ∀ entry ∈ set.entries, entry.1 ≠ member) :
    (set.zaddMember member score).map Prod.snd = (set.map Prod.snd).zadd score := by
  have kept : set.entries.filter (·.1 ≠ member) = set.entries := by
    rw [List.filter_eq_self]
    exact fun entry present => decide_eq_true (fresh entry present)
  simp only [zaddMember, kept, map, zadd, List.map_append, List.map_cons, List.map_nil]

end SortedSet
end Sentinel.Redis
