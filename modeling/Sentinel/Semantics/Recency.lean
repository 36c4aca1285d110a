import Mathlib.Data.Finset.Card
import Mathlib.Data.List.Nodup

/-!
# Lists of the most recent items

A list holds at most `limit` items with different keys, the newest first. `Within`
says that an item is in it and bounds what stands before it; `within_push` and
`within_take` are the rules for a new item and for a list that is cut out of a
longer one.
-/

namespace Sentinel.Semantics

universe u v w

variable {Item : Type u} {Key : Type v} [DecidableEq Key] {key : Item → Key}

/-- Put an item in front and take out the one that had its key. -/
def push (key : Item → Key) (limit : Nat) (item : Item) (items : List Item) : List Item :=
  (item :: items.filter (key · ≠ key item)).take limit

/-- An item with the key is in the list, and those before it have keys in `newer`. -/
def Within (key : Item → Key) (items : List Item) (wanted : Key) (newer : Finset Key) : Prop :=
  ∃ before item after, items = before ++ item :: after ∧ key item = wanted ∧
    ∀ earlier ∈ before, key earlier ∈ newer

/-- The items of a list before the first with the key, if there is one. -/
def aheadOf (key : Item → Key) (items : List Item) (wanted : Key) : List Item :=
  if wanted ∈ items.map key then items.takeWhile (key · ≠ wanted) else []

variable {limit : Nat} {item : Item} {items whole : List Item} {wanted : Key} {newer : Finset Key}

omit [DecidableEq Key] in
/-- What is within the first items is one of them. -/
theorem Within.mem (within : Within key items wanted newer) : wanted ∈ items.map key := by
  obtain ⟨before, item, after, rfl, rfl, _⟩ := within
  exact List.mem_map_of_mem (List.mem_append_right _ List.mem_cons_self)

omit [DecidableEq Key] in
/-- A view of the items that keeps their keys keeps their places. -/
theorem Within.map {Other : Type w} {keyOf : Other → Key} {view : Item → Other}
    (same : ∀ item, keyOf (view item) = key item) (within : Within key items wanted newer) :
    Within keyOf (items.map view) wanted newer := by
  obtain ⟨before, item, after, rfl, rfl, earlier⟩ := within
  refine ⟨before.map view, view item, after.map view, List.map_append, same item, ?_⟩
  intro one member
  obtain ⟨original, listed, rfl⟩ := List.mem_map.mp member
  rw [same]
  exact earlier original listed

/-- Items with different keys of a set are no more than the set has elements. -/
theorem length_le_card (distinct : (items.map key).Nodup)
    (within : ∀ item ∈ items, key item ∈ newer) : items.length ≤ newer.card := by
  have contained : (items.map key).toFinset ⊆ newer := by
    intro one member
    obtain ⟨item, listed, rfl⟩ := List.mem_map.mp (List.mem_toFinset.mp member)
    exact within item listed
  calc items.length = (items.map key).toFinset.card := by
        rw [List.toFinset_card_of_nodup distinct, List.length_map]
    _ ≤ newer.card := Finset.card_le_card contained

/-- Moving an item to the front keeps the keys distinct. -/
theorem nodup_cons_filter (distinct : (items.map key).Nodup) :
    ((item :: items.filter (key · ≠ key item)).map key).Nodup := by
  rw [List.map_cons, List.nodup_cons]
  refine ⟨fun member => ?_, distinct.sublist (List.filter_sublist.map key)⟩
  obtain ⟨other, listed, same⟩ := List.mem_map.mp member
  exact of_decide_eq_true (List.mem_filter.mp listed).2 same

theorem nodup_push (distinct : (items.map key).Nodup) :
    ((push key limit item items).map key).Nodup :=
  (nodup_cons_filter distinct).sublist ((List.take_sublist _ _).map key)

/-- There is one entry with the key of the new item. -/
theorem length_filter_push_le :
    ((push key limit item items).filter (key · = key item)).length ≤ 1 := by
  have others : (items.filter (key · ≠ key item)).filter (key · = key item) = [] := by
    refine List.filter_eq_nil_iff.mpr fun other member => ?_
    simpa using (List.mem_filter.mp member).2
  calc ((push key limit item items).filter (key · = key item)).length
      ≤ ((item :: items.filter (key · ≠ key item)).filter (key · = key item)).length :=
        ((List.take_sublist _ _).filter _).length_le
    _ = 1 := by
        rw [List.filter_cons, if_pos (decide_eq_true rfl), others, List.length_singleton]

/-- The item that was pushed is within. -/
theorem within_push_self (positive : 0 < limit) :
    Within key (push key limit item items) (key item) newer := by
  obtain ⟨limit, rfl⟩ := Nat.exists_eq_succ_of_ne_zero (Nat.ne_of_gt positive)
  exact ⟨[], item, _, rfl, rfl, nofun⟩

/-- Where an item lies within the limit, the rest shares what is left of it. -/
theorem take_append_cons (before : List Item) (item : Item) (after : List Item)
    (short : before.length < limit) :
    (before ++ item :: after).take limit =
      before ++ item :: after.take (limit - before.length - 1) := by
  obtain ⟨rest, rfl⟩ := Nat.exists_eq_add_of_lt short
  rw [List.take_append, List.take_of_length_le (by omega)]
  have left : before.length + rest + 1 - before.length = rest + 1 := by omega
  rw [left, List.take_succ_cons, Nat.add_sub_cancel]

/-- A new item moves another one back by a place, and out of the list only when
there are `limit` newer ones. -/
theorem within_push (distinct : (items.map key).Nodup) (within : Within key items wanted newer)
    (few : (insert (key item) newer).card < limit) (different : key item ≠ wanted) :
    Within key (push key limit item items) wanted (insert (key item) newer) := by
  obtain ⟨before, held, after, rfl, rfl, earlier⟩ := within
  have kept : (held :: after).filter (key · ≠ key item) =
      held :: after.filter (key · ≠ key item) :=
    List.filter_cons_of_pos (decide_eq_true (Ne.symm different))
  have inFront : ∀ one ∈ item :: before.filter (key · ≠ key item),
      key one ∈ insert (key item) newer := by
    intro one member
    rcases List.mem_cons.mp member with rfl | old
    · exact Finset.mem_insert_self _ _
    · exact Finset.mem_insert_of_mem (earlier one (List.mem_filter.mp old).1)
  have frontDistinct : ((item :: before.filter (key · ≠ key item)).map key).Nodup :=
    nodup_cons_filter (distinct.sublist ((List.sublist_append_left _ _).map key))
  have short := Nat.lt_of_le_of_lt (length_le_card frontDistinct inFront) few
  have split := take_append_cons _ held (after.filter (key · ≠ key item)) short
  refine ⟨_, held, _, Eq.trans ?_ split, rfl, inFront⟩
  rw [push, List.filter_append, kept, List.cons_append]

/-- In a list that is part of another, what stands before an item does so in the other. -/
theorem mem_aheadOf {before after : List Item} {held : Item} (distinct : (whole.map key).Nodup)
    (sublist : (before ++ held :: after).Sublist whole) {earlier : Item}
    (member : earlier ∈ before) : earlier ∈ aheadOf key whole (key held) := by
  obtain ⟨front, back, rfl, frontPart, backPart⟩ := List.append_sublist_iff.mp sublist
  have present : held ∈ back := backPart.subset List.mem_cons_self
  have absent : ∀ one ∈ front, decide (key one ≠ key held) = true := by
    intro one listed
    rw [List.map_append, List.nodup_append] at distinct
    exact decide_eq_true (distinct.2.2 _ (List.mem_map_of_mem listed) _
      (List.mem_map_of_mem present))
  unfold aheadOf
  rw [if_pos (List.mem_map_of_mem (List.mem_append_right front present)),
    List.takeWhile_append_of_pos absent]
  exact List.mem_append_left _ (frontPart.subset member)

/-- The first items of a list that is part of another include the one with a key that
is in it, unless `limit` others are ahead. -/
theorem within_take (distinct : (whole.map key).Nodup) (sublist : items.Sublist whole)
    (known : wanted ∈ items.map key)
    (ahead : ∀ item ∈ items.take limit, item ∈ aheadOf key whole wanted → key item ∈ newer)
    (few : newer.card < limit) : Within key (items.take limit) wanted newer := by
  obtain ⟨held, member, rfl⟩ := List.mem_map.mp known
  obtain ⟨before, after, rfl⟩ := List.append_of_mem member
  have short : before.length < limit := by
    by_contra long
    have shown : (before ++ held :: after).take limit = before.take limit :=
      List.take_append_of_le_length (Nat.le_of_not_lt long)
    have inFront : ∀ earlier ∈ before.take limit, key earlier ∈ newer := by
      intro earlier listed
      exact ahead earlier (shown ▸ listed)
        (mem_aheadOf distinct sublist (List.mem_of_mem_take listed))
    have part : (before.take limit).Sublist whole :=
      ((List.take_sublist _ _).trans (List.sublist_append_left _ _)).trans sublist
    have bounded := length_le_card (distinct.sublist (part.map key)) inFront
    rw [List.length_take] at bounded
    omega
  have split := take_append_cons before held after short
  refine ⟨before, held, _, split, rfl, fun earlier listed => ?_⟩
  exact ahead earlier (split ▸ List.mem_append_left _ listed) (mem_aheadOf distinct sublist listed)

end Sentinel.Semantics
