import Mathlib.Data.List.Induction
import Sentinel.Redis.SlidingCounter
import Sentinel.Redis.UniqueSet
import Sentinel.Risk.AuthEventConsumer
import Sentinel.Risk.Features

/-!
# The feature store

The sorted sets and sets that `FeatureStore` keeps in Redis, its calls as
commands, and the commands that the consumer, `update_velocity` and the
extractor issue. A velocity key determines the three parts it is built from, so
`getVelocity` counts exactly the increments with the same parts.
-/

namespace Sentinel.Risk

open Sentinel.Wire Sentinel.Redis

/-- A number of seconds, in nanoseconds. -/
def seconds (count : Nat) : Int := count * 1000000000

/-- A positive number of seconds is a positive time. -/
theorem seconds_pos {count : Nat} (positive : 0 < count) : 0 < seconds count := by
  unfold seconds
  omega

def velocityKey (key metric : String) (window : Nat) : String :=
  "vel:" ++ key ++ ":" ++ metric ++ ":" ++ toString window

def uniqueKey (key dimension : String) (window : Nat) : String :=
  "uniq:" ++ key ++ ":" ++ dimension ++ ":" ++ toString window

/-- The last colon divides a text in one way only. -/
theorem append_colon_inj {first other second another : List Char} (plain : ':' ∉ second)
    (alsoPlain : ':' ∉ another) (same : first ++ ':' :: second = other ++ ':' :: another) :
    first = other ∧ second = another := by
  rcases List.append_eq_append_iff.mp same with ⟨rest, longer, tail⟩ | ⟨rest, longer, tail⟩ <;>
    cases rest with
    | nil =>
        simp_all
    | cons char rest =>
        obtain ⟨rfl, tail⟩ := List.cons.inj tail
        simp_all

/-- A number is written without colons. -/
theorem toString_plain (number : Nat) : ':' ∉ (toString number).toList := by
  intro member
  change ':' ∈ number.repr.toList at member
  rw [Nat.toList_repr] at member
  exact absurd (Nat.isDigit_of_mem_toDigits (by decide) (by decide) member) (by decide)

/-- Two numbers written alike are one. -/
theorem toString_injective {number other : Nat} (same : toString number = toString other) :
    number = other := by
  have digits : number.repr.toList = other.repr.toList := congrArg String.toList same
  rw [Nat.toList_repr, Nat.toList_repr] at digits
  have value := congrArg (Nat.ofDigitChars 10 · 0) digits
  simpa only [Nat.ofDigitChars_toDigits (by decide : 1 < 10) (by decide : 10 ≤ 10)] using value

/-- How the key of a counter is put together. -/
theorem toList_velocityKey (key metric : String) (window : Nat) :
    (velocityKey key metric window).toList =
      ("vel:".toList ++ key.toList ++ ':' :: metric.toList) ++ ':' :: (toString window).toList := by
  simp [velocityKey]

/-- Of three parts only the first may have colons: it is the text before the last but one of
the whole. -/
theorem colonParts_inj {start : List Char} {key other name another : String} {window span : Nat}
    (plain : ':' ∉ name.toList) (alsoPlain : ':' ∉ another.toList)
    (same : (start ++ key.toList ++ ':' :: name.toList) ++ ':' :: (toString window).toList =
      (start ++ other.toList ++ ':' :: another.toList) ++ ':' :: (toString span).toList) :
    key = other ∧ name = another ∧ window = span := by
  obtain ⟨front, number⟩ := append_colon_inj (toString_plain window) (toString_plain span) same
  obtain ⟨before, middle⟩ := append_colon_inj plain alsoPlain front
  refine ⟨?_, String.toList_inj.mp middle, toString_injective (String.toList_inj.mp number)⟩
  exact String.toList_inj.mp (List.append_cancel_left before)

/-- A counter has a key of its own. -/
theorem velocityKey_inj {key other metric another : String} {window span : Nat}
    (plain : ':' ∉ metric.toList) (alsoPlain : ':' ∉ another.toList)
    (same : velocityKey key metric window = velocityKey other another span) :
    key = other ∧ metric = another ∧ window = span := by
  have chars := congrArg String.toList same
  rw [toList_velocityKey, toList_velocityKey] at chars
  exact colonParts_inj plain alsoPlain chars

structure FeatureStore where
  sortedSets : String → SortedSet Int
  sets : String → UniqueSet

inductive StoreCommand where
  | incrementVelocity (key metric : String) (window : Nat)
  | getVelocity (key metric : String) (window : Nat)
  | addUnique (key dimension value : String) (window : Nat)
  | getUniqueCount (key dimension : String) (window : Nat)
deriving DecidableEq

namespace FeatureStore

def empty : FeatureStore := ⟨fun _ => .empty, fun _ => .empty⟩

/-- The effect of a command whose pipeline runs at `now`. -/
def execute (store : FeatureStore) (now : Int) : StoreCommand → FeatureStore
  | .incrementVelocity key metric window =>
      let redisKey := velocityKey key metric window
      { store with
        sortedSets := Function.update store.sortedSets redisKey
          ((store.sortedSets redisKey).record (seconds window) now) }
  | .getVelocity key metric window =>
      let redisKey := velocityKey key metric window
      { store with
        sortedSets := Function.update store.sortedSets redisKey
          ((store.sortedSets redisKey).trim (seconds window) now) }
  | .addUnique key dimension value window =>
      let redisKey := uniqueKey key dimension window
      { store with
        sets := Function.update store.sets redisKey
          ((((store.sets redisKey).live now).sadd value).expire now (seconds window * 2)) }
  | .getUniqueCount _ _ _ => store

/-- What `get_velocity` returns at `now`. -/
def getVelocity (store : FeatureStore) (now : Int) (key metric : String) (window : Nat) : Nat :=
  ((store.sortedSets (velocityKey key metric window)).trim (seconds window) now).zcard

/-- What `get_unique_count` returns at `now`. -/
def getUniqueCount (store : FeatureStore) (now : Int) (key dimension : String) (window : Nat) :
    Nat :=
  ((store.sets (uniqueKey key dimension window)).live now).scard

end FeatureStore

namespace StoreCommand

/-- The metric is the name of a counter, without a colon. -/
def Plain : StoreCommand → Prop
  | .incrementVelocity _ metric _ | .getVelocity _ metric _ => ':' ∉ metric.toList
  | _ => True

end StoreCommand

/-- The instants at which one counter was incremented, in a history of commands. -/
def increments (key metric : String) (window : Nat) (history : List (Int × StoreCommand)) :
    List Int :=
  (history.filter fun entry => entry.2 = .incrementVelocity key metric window).map Prod.fst

/-- The commands of a history, the oldest first. -/
def FeatureStore.run (history : List (Int × StoreCommand)) : FeatureStore :=
  history.foldl (fun store entry => store.execute entry.1 entry.2) .empty

/-- The instants of a history do not decrease, up to `now`. -/
structure Chronological {Entry : Type} (now : Int) (history : List (Int × Entry)) : Prop where
  ordered : history.Pairwise (·.1 ≤ ·.1)
  nonneg : ∀ entry ∈ history, 0 ≤ entry.1
  past : ∀ entry ∈ history, entry.1 ≤ now

/-- A history stays one when each entry becomes several at its instant. -/
theorem Chronological.flatMap {Entry Part : Type} {now : Int} {history : List (Int × Entry)}
    (chronological : Chronological now history) (parts : Entry → List Part) :
    Chronological now (history.flatMap fun entry => (parts entry.2).map (Prod.mk entry.1)) where
  ordered := by
    refine List.pairwise_flatMap.mpr ⟨fun entry _ => ?_, ?_⟩
    · exact List.pairwise_map.mpr (List.pairwise_of_forall fun _ _ => Int.le_refl _)
    · refine chronological.ordered.imp fun {first second} order one oneOf other otherOf => ?_
      obtain ⟨_, _, rfl⟩ := List.mem_map.mp oneOf
      obtain ⟨_, _, rfl⟩ := List.mem_map.mp otherOf
      exact order
  nonneg part member := by
    obtain ⟨entry, present, partOf⟩ := List.mem_flatMap.mp member
    obtain ⟨_, _, rfl⟩ := List.mem_map.mp partOf
    exact chronological.nonneg entry present
  past part member := by
    obtain ⟨entry, present, partOf⟩ := List.mem_flatMap.mp member
    obtain ⟨_, _, rfl⟩ := List.mem_map.mp partOf
    exact chronological.past entry present

section

variable {key metric : String} {window : Nat} {history : List (Int × StoreCommand)} {now : Int}

/-- The increments of two histories in a row. -/
theorem increments_append (first second : List (Int × StoreCommand)) :
    increments key metric window (first ++ second) =
      increments key metric window first ++ increments key metric window second := by
  simp [increments]

/-- A command on another counter. -/
theorem execute_sortedSets_of_ne {store : FeatureStore} {command : StoreCommand}
    (plain : ':' ∉ metric.toList) (alsoPlain : command.Plain)
    (notIncrement : command ≠ .incrementVelocity key metric window)
    (notRead : command ≠ .getVelocity key metric window) :
    (store.execute now command).sortedSets (velocityKey key metric window) =
      store.sortedSets (velocityKey key metric window) := by
  cases command with
  | incrementVelocity other another span =>
      refine Function.update_of_ne (fun same => ?_) ..
      obtain ⟨rfl, rfl, rfl⟩ := velocityKey_inj plain alsoPlain same
      exact notIncrement rfl
  | getVelocity other another span =>
      refine Function.update_of_ne (fun same => ?_) ..
      obtain ⟨rfl, rfl, rfl⟩ := velocityKey_inj plain alsoPlain same
      exact notRead rfl
  | addUnique => rfl
  | getUniqueCount => rfl

/-- One command keeps the counter in step with the record of its increments. -/
theorem counts_execute {store : FeatureStore} {command : StoreCommand} {log : List Int}
    (counts : SortedSet.Counts (seconds window) now
      (store.sortedSets (velocityKey key metric window)) log)
    (positive : 0 < window) (nonneg : 0 ≤ now) (plain : ':' ∉ metric.toList)
    (alsoPlain : command.Plain) :
    SortedSet.Counts (seconds window) now
      ((store.execute now command).sortedSets (velocityKey key metric window))
      (log ++ increments key metric window [(now, command)]) := by
  by_cases increment : command = .incrementVelocity key metric window
  · subst increment
    simpa [increments, FeatureStore.execute] using counts.record (seconds_pos positive) nonneg
  · have unrecorded : increments key metric window [(now, command)] = [] := by
      simp [increments, increment]
    rw [unrecorded, List.append_nil]
    by_cases read : command = .getVelocity key metric window
    · subst read
      simpa [FeatureStore.execute] using counts.trim (seconds_pos positive)
    · rwa [execute_sortedSets_of_ne plain alsoPlain increment read]

/-- What a command that is no read adds to a counter, seen at the same instant. -/
theorem getVelocity_execute {store : FeatureStore} {command : StoreCommand}
    (positive : 0 < window) (plain : ':' ∉ metric.toList) (alsoPlain : command.Plain)
    (notRead : command ≠ .getVelocity key metric window) :
    (store.execute now command).getVelocity now key metric window =
      store.getVelocity now key metric window +
        if command = .incrementVelocity key metric window then 1 else 0 := by
  unfold FeatureStore.getVelocity
  by_cases increment : command = .incrementVelocity key metric window
  · subst increment
    simp [FeatureStore.execute, SortedSet.zcard_trim_record (seconds_pos positive)]
  · rw [execute_sortedSets_of_ne plain alsoPlain increment notRead, if_neg increment,
      Nat.add_zero]

/-- After any history the counter holds what its record holds. -/
theorem counts_run (chronological : Chronological now history)
    (plain : ':' ∉ metric.toList) (allPlain : ∀ entry ∈ history, entry.2.Plain)
    (positive : 0 < window) :
    SortedSet.Counts (seconds window) now
      ((FeatureStore.run history).sortedSets (velocityKey key metric window))
      (increments key metric window history) := by
  induction history using List.reverseRecOn generalizing now with
  | nil => exact SortedSet.counts_empty _ _
  | append_singleton earlier entry ih =>
      obtain ⟨instant, command⟩ := entry
      have before : Chronological instant earlier := by
        refine ⟨(List.pairwise_append.mp chronological.ordered).1, ?_, ?_⟩
        · exact fun entry member => chronological.nonneg entry (List.mem_append_left _ member)
        · intro entry member
          exact (List.pairwise_append.mp chronological.ordered).2.2 entry member _
            (List.mem_singleton_self _)
      have last : (instant, command) ∈ earlier ++ [(instant, command)] := by simp
      have counts := ih before fun entry member => allPlain entry (List.mem_append_left _ member)
      have after := counts_execute counts positive (chronological.nonneg _ last) plain
        (allPlain _ last)
      rw [increments_append, FeatureStore.run, List.foldl_append]
      exact after.mono (chronological.past _ last)

/-- `get_velocity` counts the increments in its window, whatever reads and
expiries there were. -/
theorem getVelocity_run (chronological : Chronological now history)
    (plain : ':' ∉ metric.toList) (allPlain : ∀ entry ∈ history, entry.2.Plain)
    (positive : 0 < window) :
    (FeatureStore.run history).getVelocity now key metric window =
      (recent (seconds window) now (increments key metric window history)).length :=
  (counts_run chronological plain allPlain positive).zcard_trim (seconds_pos positive)

end

end Sentinel.Risk
