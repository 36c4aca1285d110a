import Sentinel.Redis.UniqueRecord
import Sentinel.Risk.FeatureStore

/-!
# The window of a distinct count

`get_unique_count` reads the whole set, and `add_unique` pushes the expiry of the
whole set back. So a value counts for as long as no pause of two windows follows
it, whereas the features `v_unique_ips_1h` and the like speak of the last window.
-/

namespace Sentinel.Risk

open Sentinel.Redis

/-- How the key of a set is put together. -/
theorem toList_uniqueKey (key dimension : String) (window : Nat) :
    (uniqueKey key dimension window).toList =
      ("uniq:".toList ++ key.toList ++ ':' :: dimension.toList) ++
        ':' :: (toString window).toList := by
  simp [uniqueKey]

/-- A set has a key of its own. -/
theorem uniqueKey_inj {key other dimension another : String} {window span : Nat}
    (plain : ':' ∉ dimension.toList) (alsoPlain : ':' ∉ another.toList)
    (same : uniqueKey key dimension window = uniqueKey other another span) :
    key = other ∧ dimension = another ∧ window = span := by
  have chars := congrArg String.toList same
  rw [toList_uniqueKey, toList_uniqueKey] at chars
  exact colonParts_inj plain alsoPlain chars

namespace StoreCommand

/-- The dimension of a set is a name without a colon. -/
def PlainDimension : StoreCommand → Prop
  | .addUnique _ dimension _ _ | .getUniqueCount _ dimension _ => ':' ∉ dimension.toList
  | _ => True

/-- What the command adds to one set. -/
def addition (key dimension : String) (window : Nat) : StoreCommand → Option String
  | .addUnique other another value span =>
      if other = key ∧ another = dimension ∧ span = window then some value else none
  | _ => none

end StoreCommand

/-- What a history adds to one set, and when. -/
def additions (key dimension : String) (window : Nat) (history : List (Int × StoreCommand)) :
    List (Int × String) :=
  history.filterMap fun entry => (entry.2.addition key dimension window).map (Prod.mk entry.1)

section

variable {key dimension : String} {window : Nat} {history : List (Int × StoreCommand)} {now : Int}

/-- The additions of two histories in a row. -/
theorem additions_append (first second : List (Int × StoreCommand)) :
    additions key dimension window (first ++ second) =
      additions key dimension window first ++ additions key dimension window second :=
  List.filterMap_append

/-- An addition is a command of the history. -/
theorem mem_additions {entry : Int × String} :
    entry ∈ additions key dimension window history ↔
      (entry.1, .addUnique key dimension entry.2 window) ∈ history := by
  obtain ⟨instant, value⟩ := entry
  simp only [additions, List.mem_filterMap, Prod.exists, Option.map_eq_some_iff, Prod.mk.injEq]
  constructor
  · rintro ⟨_, command, member, _, added, rfl, rfl⟩
    cases command with
    | addUnique other another _ span =>
        obtain ⟨⟨rfl, rfl, rfl⟩, same⟩ := Option.ite_none_right_eq_some.mp added
        cases same
        exact member
    | incrementVelocity => cases added
    | getVelocity => cases added
    | getUniqueCount => cases added
  · intro member
    exact ⟨instant, _, member, value, by simp [StoreCommand.addition], rfl, rfl⟩

/-- The instants of one set's additions do not decrease either. -/
theorem additions_ordered (chronological : Chronological now history) :
    (additions key dimension window history).Pairwise (·.1 ≤ ·.1) := by
  apply List.Pairwise.filterMap _ _ chronological.ordered
  intro first second order one oneOf other otherOf
  obtain ⟨_, _, rfl⟩ := Option.map_eq_some_iff.mp oneOf
  obtain ⟨_, _, rfl⟩ := Option.map_eq_some_iff.mp otherOf
  exact order

/-- One command keeps the set in step with the record of its additions. -/
theorem holds_execute {store : FeatureStore} {command : StoreCommand}
    {record : List (Int × String)}
    (holds : UniqueSet.Holds (seconds window * 2) (store.sets (uniqueKey key dimension window))
      record)
    (positive : 0 < window) (plain : ':' ∉ dimension.toList)
    (alsoPlain : command.PlainDimension) :
    UniqueSet.Holds (seconds window * 2)
      ((store.execute now command).sets (uniqueKey key dimension window))
      (record ++ additions key dimension window [(now, command)]) := by
  have length := seconds_pos positive
  cases command with
  | addUnique other another value span =>
      by_cases same : other = key ∧ another = dimension ∧ span = window
      · obtain ⟨rfl, rfl, rfl⟩ := same
        have renewed := @UniqueSet.Holds.renew _ now _ _ value holds (by omega)
        simpa [additions, StoreCommand.addition, FeatureStore.execute, UniqueSet.renew] using renewed
      · have unchanged : (store.execute now (.addUnique other another value span)).sets
            (uniqueKey key dimension window) = store.sets (uniqueKey key dimension window) := by
          refine Function.update_of_ne (fun equal => same ?_) ..
          obtain ⟨rfl, rfl, rfl⟩ := uniqueKey_inj plain alsoPlain equal
          exact ⟨rfl, rfl, rfl⟩
        simpa [additions, StoreCommand.addition, same, unchanged] using holds
  | incrementVelocity => simpa [additions, StoreCommand.addition, FeatureStore.execute] using holds
  | getVelocity => simpa [additions, StoreCommand.addition, FeatureStore.execute] using holds
  | getUniqueCount => simpa [additions, StoreCommand.addition, FeatureStore.execute] using holds

/-- After any history the set holds what was added since the last pause. -/
theorem holds_run (plain : ':' ∉ dimension.toList)
    (allPlain : ∀ entry ∈ history, entry.2.PlainDimension) (positive : 0 < window) :
    UniqueSet.Holds (seconds window * 2)
      ((FeatureStore.run history).sets (uniqueKey key dimension window))
      (additions key dimension window history) := by
  induction history using List.reverseRecOn with
  | nil => exact UniqueSet.holds_empty _
  | append_singleton earlier entry ih =>
      have before := ih fun entry member => allPlain entry (List.mem_append_left _ member)
      have last : entry ∈ earlier ++ [entry] := by simp
      rw [additions_append, FeatureStore.run, List.foldl_append]
      exact holds_execute before positive plain (allPlain entry last)

end

/-- The distinct values that were added to a set in the window ending at `now`. -/
def distinctAdded (key dimension : String) (window : Nat) (history : List (Int × StoreCommand))
    (now : Int) : List String :=
  recentMembers (seconds window) now (additions key dimension window history)

/-- `get_unique_count` is the number of values of the last window exactly when
every value that no pause of two windows has followed was added in that window
again. -/
theorem getUniqueCount_eq_iff (history : List (Int × StoreCommand)) (now : Int)
    (chronological : Chronological now history)
    (allPlain : ∀ entry ∈ history, entry.2.PlainDimension) (key dimension : String) (window : Nat)
    (plain : ':' ∉ dimension.toList) (positive : 0 < window) :
    (FeatureStore.run history).getUniqueCount now key dimension window =
        (distinctAdded key dimension window history now).length ↔
      ∀ value, Lasting (seconds window * 2) now (additions key dimension window history) value →
        ∃ instant, (instant, .addUnique key dimension value window) ∈ history ∧
          now - seconds window < instant ∧ instant ≤ now := by
  have length := seconds_pos positive
  have past : ∀ entry ∈ additions key dimension window history, entry.1 ≤ now :=
    fun entry member => chronological.past _ (mem_additions.mp member)
  have counted := (holds_run plain allPlain positive).scard_eq_iff
    (additions_ordered chronological) past (show seconds window ≤ seconds window * 2 by omega)
  simp only [mem_additions] at counted
  exact counted

/-- Two addresses of one user within the hour. -/
def busyHour : List (Int × StoreCommand) :=
  [(0, .addUnique "u1" "ips" "203.0.113.1" 3600),
    (seconds 600, .addUnique "u1" "ips" "203.0.113.2" 3600)]

/-- They are counted exactly. -/
theorem getUniqueCount_busyHour :
    (FeatureStore.run busyHour).getUniqueCount (seconds 1200) "u1" "ips" 3600 =
      (distinctAdded "u1" "ips" 3600 busyHour (seconds 1200)).length := by
  refine (getUniqueCount_eq_iff busyHour (seconds 1200) ?_ ?_ "u1" "ips" 3600 ?_ ?_).mpr ?_
  · constructor <;> simp [busyHour, seconds]
  · simp [busyHour, StoreCommand.PlainDimension]
  · decide
  · decide
  · rintro value ⟨earlier, instant, later, split, -⟩
    have added : (instant, value) ∈ additions "u1" "ips" 3600 busyHour := by
      rw [split]
      exact List.mem_append_right _ List.mem_cons_self
    have member := mem_additions.mp added
    refine ⟨instant, member, ?_⟩
    simp only [busyHour, List.mem_cons, Prod.mk.injEq, List.not_mem_nil, or_false] at member
    rcases member with ⟨rfl, -⟩ | ⟨rfl, -⟩ <;> decide

/-- A user who is seen from a new address every hour. -/
def steadyUse : List (Int × StoreCommand) :=
  [(0, .addUnique "u1" "ips" "203.0.113.1" 3600),
    (seconds 3600, .addUnique "u1" "ips" "203.0.113.2" 3600),
    (seconds 7200, .addUnique "u1" "ips" "203.0.113.3" 3600)]

/-- After renewed expiries the count shows members from before the window. -/
theorem getUniqueCount_exceeds :
    ¬ ∀ (history : List (Int × StoreCommand)) (now : Int), Chronological now history →
      ∀ (key dimension : String) (window : Nat), ':' ∉ dimension.toList → 0 < window →
        (FeatureStore.run history).getUniqueCount now key dimension window =
          (distinctAdded key dimension window history now).length := by
  intro always
  have chronological : Chronological (seconds 7201) steadyUse := by
    constructor <;> simp [steadyUse, seconds]
  have same := always steadyUse (seconds 7201) chronological "u1" "ips" 3600 (by decide)
    (by decide)
  exact absurd same (by decide)

end Sentinel.Risk
