import Mathlib.Data.List.Chain
import Mathlib.Data.List.Dedup
import Mathlib.Data.List.Perm.Subperm
import Sentinel.Redis.UniqueSet

/-!
# What a set holds whose expiry every addition renews

Members leave such a set only all together, when nothing has been added for the
time to live. So it holds what was added since the last pause of that length,
which may be much more than what was added in the last window.
-/

namespace Sentinel.Redis

/-- No pause of the given length between consecutive instants. -/
def Unbroken (pause : Int) (instants : List Int) : Prop :=
  instants.IsChain fun earlier later => later < earlier + pause

/-- The member was added, and since then there was no pause up to `now`. -/
def Lasting (pause now : Int) (record : List (Int × String)) (member : String) : Prop :=
  ∃ earlier instant later, record = earlier ++ (instant, member) :: later ∧
    Unbroken pause (instant :: later.map Prod.fst ++ [now])

/-- The distinct members that were added in the window which ends at `now`. -/
def recentMembers (window now : Int) (record : List (Int × String)) : List String :=
  ((record.filter fun entry => now - window < entry.1 ∧ entry.1 ≤ now).map Prod.snd).dedup

/-- A member is recent when one of its instants is. -/
theorem mem_recentMembers {window now : Int} {record : List (Int × String)} {member : String} :
    member ∈ recentMembers window now record ↔
      ∃ instant, (instant, member) ∈ record ∧ now - window < instant ∧ instant ≤ now := by
  simp [recentMembers]

/-- A list without repetition in another is as long as it only if it has all of
the other's members. -/
theorem length_eq_iff_subset {first second : List String} (nodup : first.Nodup)
    (other : second.Nodup) (subset : second ⊆ first) :
    first.length = second.length ↔ first ⊆ second := by
  constructor
  · intro same
    exact ((List.subperm_of_subset other subset).perm_of_length_le (Nat.le_of_eq same)).symm.subset
  · intro superset
    exact ((List.perm_ext_iff_of_nodup nodup other).mpr fun member =>
      ⟨fun inside => superset inside, fun inside => subset inside⟩).length_eq

namespace UniqueSet

/-- `SADD`, then `EXPIRE`. -/
def renew (ttl now : Int) (member : String) (set : UniqueSet) : UniqueSet :=
  ((set.live now).sadd member).expire now ttl

/-- The set holds what was added since the last pause and expires with the next. -/
structure Holds (ttl : Int) (set : UniqueSet) (record : List (Int × String)) : Prop where
  members : ∀ member, member ∈ set.members ↔ ∃ earlier instant later,
    record = earlier ++ (instant, member) :: later ∧ Unbroken ttl (instant :: later.map Prod.fst)
  expires : set.expiresAt = record.getLast?.map (·.1 + ttl)

variable {ttl now : Int} {set : UniqueSet} {record : List (Int × String)} {member : String}

/-- An empty set holds nothing. -/
theorem holds_empty (ttl : Int) : Holds ttl empty [] where
  members member := by simp [empty]
  expires := rfl

/-- A record continues unbroken up to `now` when it is itself unbroken and its
last entry is not a pause ago. -/
theorem unbroken_append_singleton (member : String) {instant : Int}
    {later : List (Int × String)} :
    Unbroken ttl (instant :: later.map Prod.fst ++ [now]) ↔
      Unbroken ttl (instant :: later.map Prod.fst) ∧
        ∀ last, ((instant, member) :: later).getLast? = some last → now < last.1 + ttl := by
  have lasts : (instant :: later.map Prod.fst).getLast? =
      ((instant, member) :: later).getLast?.map Prod.fst := by
    rw [← List.getLast?_map]
    rfl
  rw [Unbroken, List.isChain_append, lasts]
  simp [Unbroken]

/-- The members that are seen are those that last. -/
theorem Holds.mem_live (holds : Holds ttl set record) :
    member ∈ (set.live now).members ↔ Lasting ttl now record member := by
  have running : (∃ earlier instant later, record = earlier ++ (instant, member) :: later ∧
      Unbroken ttl (instant :: later.map Prod.fst ++ [now])) ↔
        member ∈ set.members ∧ ∀ last, record.getLast? = some last → now < last.1 + ttl := by
    rw [holds.members]
    constructor
    · rintro ⟨earlier, instant, later, rfl, unbroken⟩
      obtain ⟨unbroken, alive⟩ := (unbroken_append_singleton member).mp unbroken
      refine ⟨⟨earlier, instant, later, rfl, unbroken⟩, fun last found => alive last ?_⟩
      simpa using found
    · rintro ⟨⟨earlier, instant, later, rfl, unbroken⟩, alive⟩
      refine ⟨earlier, instant, later, rfl,
        (unbroken_append_singleton member).mpr ⟨unbroken, fun last found => ?_⟩⟩
      exact alive last (by simpa using found)
  rw [Lasting, running, live, holds.expires]
  cases last : record.getLast? with
  | none => simp
  | some entry =>
      by_cases expired : entry.1 + ttl ≤ now
      · simp [expired, empty]
      · simp [expired]
        omega

/-- A renewal makes every member last. -/
theorem Holds.renew (holds : Holds ttl set record) (positive : 0 < ttl) :
    Holds ttl (set.renew ttl now member) (record ++ [(now, member)]) := by
  have shape : set.renew ttl now member =
      { (set.live now).sadd member with expiresAt := some (now + ttl) } := by
    have nonempty : ((set.live now).sadd member).members ≠ [] :=
      List.ne_nil_of_mem (List.mem_insert_self (a := member) (l := (set.live now).members))
    rw [UniqueSet.renew, expire, if_neg]
    rintro (none | bad)
    · exact nonempty none
    · omega
  refine ⟨fun other => ?_, by simp [shape]⟩
  rw [shape]
  change other ∈ (set.live now).members.insert member ↔ _
  rw [List.mem_insert_iff, holds.mem_live]
  constructor
  · rintro (rfl | ⟨earlier, instant, later, rfl, unbroken⟩)
    · exact ⟨record, now, [], rfl, List.isChain_singleton _⟩
    · refine ⟨earlier, instant, later ++ [(now, member)], by simp, ?_⟩
      simpa using unbroken
  · rintro ⟨earlier, instant, later, same, unbroken⟩
    rcases List.eq_nil_or_concat later with rfl | ⟨init, last, rfl⟩
    · left
      have entry := (List.append_inj' same rfl).2
      exact (congrArg Prod.snd (List.singleton_inj.mp entry)).symm
    · right
      have parts : record ++ [(now, member)] =
          (earlier ++ (instant, other) :: init) ++ [last] := by
        rw [same]
        simp
      obtain ⟨rfl, entry⟩ := List.append_inj' parts rfl
      obtain rfl := List.singleton_inj.mp entry
      exact ⟨earlier, instant, init, rfl, by simpa using unbroken⟩

/-- What was added within the window is in the set. -/
theorem lasting_of_recent {window : Int} (ordered : record.Pairwise (·.1 ≤ ·.1))
    (past : ∀ entry ∈ record, entry.1 ≤ now) (wider : window ≤ ttl)
    (recent : member ∈ recentMembers window now record) : Lasting ttl now record member := by
  obtain ⟨instant, present, inside, before⟩ := mem_recentMembers.mp recent
  obtain ⟨earlier, later, rfl⟩ := List.append_of_mem present
  refine ⟨earlier, instant, later, rfl, List.Pairwise.isChain ?_⟩
  have order := (List.pairwise_cons.mp (List.pairwise_append.mp ordered).2.1).1
  have bounds : ∀ moment ∈ instant :: later.map Prod.fst ++ [now],
      instant ≤ moment ∧ moment ≤ now := by
    intro moment member
    simp only [List.cons_append, List.mem_cons, List.mem_append, List.mem_map, List.not_mem_nil,
      or_false] at member
    rcases member with rfl | ⟨entry, listed, rfl⟩ | rfl
    · omega
    · refine ⟨order entry listed, past entry ?_⟩
      exact List.mem_append_right _ (List.mem_cons_of_mem _ listed)
    · omega
  refine List.pairwise_of_forall_mem_list fun first one second other => ?_
  have := bounds first one
  have := bounds second other
  omega

/-- The set counts the members of the window exactly when it has no others. -/
theorem Holds.scard_eq_iff {window : Int} (holds : Holds ttl set record)
    (ordered : record.Pairwise (·.1 ≤ ·.1)) (past : ∀ entry ∈ record, entry.1 ≤ now)
    (wider : window ≤ ttl) :
    (set.live now).scard = (recentMembers window now record).length ↔
      ∀ member, Lasting ttl now record member →
        ∃ instant, (instant, member) ∈ record ∧ now - window < instant ∧ instant ≤ now := by
  have subset : recentMembers window now record ⊆ (set.live now).members := fun member recent =>
    holds.mem_live.mpr (lasting_of_recent ordered past wider recent)
  have nodup : (recentMembers window now record).Nodup := List.nodup_dedup _
  rw [scard, length_eq_iff_subset (set.live now).nodup nodup subset]
  constructor
  · intro superset member lasting
    exact mem_recentMembers.mp (superset (holds.mem_live.mpr lasting))
  · intro added member inside
    exact mem_recentMembers.mpr (added member (holds.mem_live.mp inside))

end UniqueSet
end Sentinel.Redis
