import Mathlib.Tactic.Linarith
import Sentinel.Redis.SortedSet

/-!
# Counting what happened in a sliding window

A sorted set whose entries are the instants at which something was recorded.
Each recording sets the key to expire after two windows, and each count first
removes what has left the window. `Counts` relates the set to the full record,
and the two operations keep it.
-/

namespace Sentinel.Redis

/-- What a window that ends at `now` still holds of a record. -/
def recent (window now : Int) (record : List Int) : List Int :=
  record.filter fun instant => now - window < instant

/-- The recent instants of two logs. -/
theorem recent_append (window now : Int) (first second : List Int) :
    recent window now (first ++ second) = recent window now first ++ recent window now second :=
  List.filter_append ..

/-- What has left a window does not come back into a later one. -/
theorem recent_recent {window now later : Int} (order : now ≤ later) (record : List Int) :
    recent window later (recent window now record) = recent window later record := by
  simp only [recent, List.filter_filter]
  refine List.filter_congr fun instant _ => ?_
  rw [← Bool.decide_and, decide_eq_decide]
  constructor
  · exact And.left
  · intro held
    exact ⟨held, by omega⟩

namespace SortedSet

/-- `ZADD` of the instant itself, then `EXPIRE`. -/
def record (window now : Int) (set : SortedSet Int) : SortedSet Int :=
  ((set.live now).zadd now).expire now (window * 2)

/-- Remove what is at least a window old; its `ZCARD` is the count. -/
def trim (window now : Int) (set : SortedSet Int) : SortedSet Int :=
  (set.live now).zremrangebyscore id 0 (now - window)

/-- What has just been recorded is counted. -/
theorem zcard_trim_record {window now : Int} {set : SortedSet Int} (positive : 0 < window) :
    ((set.record window now).trim window now).zcard = (set.trim window now).zcard + 1 := by
  have recorded : set.record window now = ⟨(set.live now).entries ++ [now],
      some (now + window * 2)⟩ := by
    simp [record, expire, zadd, show ¬ window * 2 ≤ 0 by omega]
  have alive : (set.record window now).live now = set.record window now := by
    rw [recorded, live, expired, if_neg]
    simp only [decide_eq_true_eq]
    omega
  rw [trim, zcard, entries_zremrangebyscore, alive, recorded, List.filter_append,
    List.length_append, trim, zcard, entries_zremrangebyscore]
  simp [show ¬ now ≤ now - window by omega]

/-- The set agrees with the record about the window, and does not expire before
the window has passed. -/
structure Counts (window now : Int) (set : SortedSet Int) (log : List Int) : Prop where
  agrees : recent window now set.entries = recent window now log
  expires : ∀ instant ∈ set.entries, ∃ expiresAt, set.expiresAt = some expiresAt ∧
    instant + window * 2 ≤ expiresAt
  past : ∀ instant ∈ set.entries, 0 ≤ instant ∧ instant ≤ now

variable {window now later : Int} {set : SortedSet Int} {log : List Int}

/-- An empty set counts nothing. -/
theorem counts_empty (window now : Int) : Counts window now empty [] where
  agrees := rfl
  expires := nofun
  past := nofun

/-- Time takes instants away on both sides. -/
theorem Counts.mono (counts : Counts window now set log) (order : now ≤ later) :
    Counts window later set log where
  agrees := by
    rw [← recent_recent order, counts.agrees, recent_recent order]
  expires := counts.expires
  past instant member := by
    obtain ⟨nonneg, before⟩ := counts.past instant member
    exact ⟨nonneg, Int.le_trans before order⟩

/-- A key that has expired held nothing of the window any more. -/
theorem Counts.live (counts : Counts window now set log) (positive : 0 < window) :
    Counts window now (set.live now) log := by
  unfold SortedSet.live
  split
  · rename_i expired
    refine ⟨?_, nofun, nofun⟩
    rw [← counts.agrees]
    refine (List.filter_eq_nil_iff.mpr fun instant member held => ?_).symm
    obtain ⟨expiresAt, key, bound⟩ := counts.expires instant member
    simp only [SortedSet.expired, key, decide_eq_true_eq] at expired held
    omega
  · exact counts

/-- A recorded instant is counted. -/
theorem Counts.record (counts : Counts window now set log) (positive : 0 < window)
    (nonneg : 0 ≤ now) : Counts window now (set.record window now) (log ++ [now]) := by
  have live := counts.live positive
  have entries : (set.record window now).entries = (set.live now).entries ++ [now] := by
    simp [SortedSet.record, expire, show ¬ window * 2 ≤ 0 by omega]
  have expiresAt : (set.record window now).expiresAt = some (now + window * 2) := by
    simp [SortedSet.record, expire, show ¬ window * 2 ≤ 0 by omega]
  constructor
  · rw [entries, recent_append, recent_append, live.agrees]
  · intro instant member
    refine ⟨_, expiresAt, ?_⟩
    rw [entries] at member
    rcases List.mem_append.mp member with old | new
    · have before := (live.past instant old).2
      omega
    · obtain rfl := List.mem_singleton.mp new
      omega
  · intro instant member
    rw [entries] at member
    rcases List.mem_append.mp member with old | new
    · exact live.past instant old
    · obtain rfl := List.mem_singleton.mp new
      exact ⟨nonneg, Int.le_refl _⟩

/-- What a trimmed set holds is what the window holds. -/
theorem Counts.entries_trim (counts : Counts window now set log) (positive : 0 < window) :
    (set.trim window now).entries = recent window now log := by
  have live := counts.live positive
  rw [trim, entries_zremrangebyscore, ← live.agrees, recent]
  refine List.filter_congr fun instant member => ?_
  have nonneg := (live.past instant member).1
  rw [← decide_not, decide_eq_decide, id]
  omega

/-- Trimming takes away what is not recent. -/
theorem Counts.trim (counts : Counts window now set log) (positive : 0 < window) :
    Counts window now (set.trim window now) log := by
  have live := counts.live positive
  have entries := counts.entries_trim positive
  have kept : ∀ instant ∈ (set.trim window now).entries, instant ∈ (set.live now).entries := by
    intro instant member
    exact (mem_zremrangebyscore.mp member).1
  constructor
  · rw [entries, recent_recent (Int.le_refl _)]
  · intro instant member
    obtain ⟨expiresAt, key, bound⟩ := live.expires instant (kept instant member)
    exact ⟨expiresAt, (expiresAt_zremrangebyscore member).trans key, bound⟩
  · exact fun instant member => live.past instant (kept instant member)

/-- The count is exact. -/
theorem Counts.zcard_trim (counts : Counts window now set log) (positive : 0 < window) :
    (set.trim window now).zcard = (recent window now log).length := by
  rw [zcard, counts.entries_trim positive]

end SortedSet
end Sentinel.Redis
