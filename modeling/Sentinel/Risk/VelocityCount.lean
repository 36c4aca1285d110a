import Sentinel.Redis.ScoredSet
import Sentinel.Risk.FeatureStore
import Sentinel.Wire.Uuid

/-!
# The velocity sets with their members

`increment_velocity` adds the member `f"{now}_{uuid4()}"`. As long as no identifier
is drawn twice, no addition replaces another, and the sets hold what the feature
store's counters hold. So `get_velocity` is exact at every instant.
-/

namespace Sentinel.Risk

open Sentinel.Wire Sentinel.Redis

/-- A call about velocity, with the identifier that an increment draws. -/
inductive VelocityCall where
  | incrementVelocity (key metric : String) (window : Nat) (id : Uuid)
  | getVelocity (key metric : String) (window : Nat)
deriving DecidableEq

namespace VelocityCall

def metric : VelocityCall → String
  | .incrementVelocity _ metric _ _ | .getVelocity _ metric _ => metric

def window : VelocityCall → Nat
  | .incrementVelocity _ _ window _ | .getVelocity _ _ window => window

def id? : VelocityCall → Option Uuid
  | .incrementVelocity _ _ _ id => some id
  | .getVelocity _ _ _ => none

/-- The call as a command of the feature store. -/
def command : VelocityCall → StoreCommand
  | .incrementVelocity key metric window _ => .incrementVelocity key metric window
  | .getVelocity key metric window => .getVelocity key metric window

/-- The call adds to this counter. -/
def Increments (key metric : String) (window : Nat) : VelocityCall → Prop
  | .incrementVelocity other another span _ => other = key ∧ another = metric ∧ span = window
  | .getVelocity _ _ _ => False

instance (key metric : String) (window : Nat) (call : VelocityCall) :
    Decidable (call.Increments key metric window) := by
  cases call <;> unfold Increments <;> infer_instance

/-- Which call increments a counter. -/
theorem command_eq_iff {call : VelocityCall} {key metric : String} {window : Nat} :
    call.command = .incrementVelocity key metric window ↔ call.Increments key metric window := by
  cases call <;> simp [command, Increments]

end VelocityCall

/-- `f"{now}_{uuid4()}"`, where `timeText` stands for the text of a float. -/
def velocityMember (timeText : Int → String) (now : Int) (id : Uuid) : String :=
  timeText now ++ "_" ++ id.string

/-- A member names the identifier that it was made with. -/
theorem velocityMember_inj {timeText : Int → String} {now later : Int} {id other : Uuid}
    (same : velocityMember timeText now id = velocityMember timeText later other) : id = other := by
  have length : ∀ id : Uuid, id.string.toList.length = 36 := fun id => by
    rw [Uuid.string, String.toList_ofList, Uuid.length_hyphenate id.length_digits]
  have chars := congrArg String.toList same
  simp only [velocityMember, String.toList_append] at chars
  have texts := (List.append_inj' chars ((length id).trans (length other).symm)).2
  have parsed := Uuid.parse_string id
  rw [String.toList_inj.mp texts, Uuid.parse_string] at parsed
  exact (Option.some.inj parsed).symm

/-- The velocity sets by their keys. -/
abbrev VelocitySets := String → ScoredSet String

namespace VelocitySets

variable (timeText : Int → String)

/-- The effect of a call whose pipeline runs at `now`. -/
def execute (sets : VelocitySets) (now : Int) : VelocityCall → VelocitySets
  | .incrementVelocity key metric window id =>
      let redisKey := velocityKey key metric window
      Function.update sets redisKey
        ((((sets redisKey).live now).zaddMember (velocityMember timeText now id) now).expire now
          (seconds window * 2))
  | .getVelocity key metric window =>
      let redisKey := velocityKey key metric window
      Function.update sets redisKey
        (((sets redisKey).live now).zremrangebyscore Prod.snd 0 (now - seconds window))

/-- What `get_velocity` returns at `now`. -/
def getVelocity (sets : VelocitySets) (now : Int) (key metric : String) (window : Nat) : Nat :=
  (((sets (velocityKey key metric window)).live now).zremrangebyscore Prod.snd 0
    (now - seconds window)).zcard

/-- The calls of a history, the oldest first. -/
def run (history : List (Int × VelocityCall)) : VelocitySets :=
  history.foldl (fun sets entry => sets.execute timeText entry.1 entry.2) fun _ => .empty

/-- The identifiers that a history draws. -/
def identifiers (history : List (Int × VelocityCall)) : List Uuid :=
  history.flatMap fun entry => entry.2.id?.toList

/-- The sets hold the store's counters, under members made with identifiers that
were drawn. -/
structure Refines (sets : VelocitySets) (store : FeatureStore) (drawn : List Uuid) : Prop where
  scores : ∀ redisKey, (sets redisKey).map Prod.snd = store.sortedSets redisKey
  members : ∀ redisKey, ∀ entry ∈ (sets redisKey).entries,
    ∃ instant, ∃ id ∈ drawn, entry.1 = velocityMember timeText instant id

variable {timeText} {sets : VelocitySets} {store : FeatureStore} {drawn : List Uuid} {now : Int}

/-- What is left of a set was in it. -/
theorem entries_live {redisKey : String} {entry : String × Int}
    (member : entry ∈ ((sets redisKey).live now).entries) : entry ∈ (sets redisKey).entries := by
  unfold SortedSet.live at member
  split at member
  · cases member
  · exact member

/-- Sets that refine a store show the same counts. -/
theorem Refines.getVelocity (refines : Refines timeText sets store drawn) (key metric : String)
    (window : Nat) :
    sets.getVelocity now key metric window = store.getVelocity now key metric window := by
  rw [FeatureStore.getVelocity, ← refines.scores, SortedSet.trim, SortedSet.live_map,
    SortedSet.zremrangebyscore_map, SortedSet.zcard_map]
  rfl

/-- What a call leaves under its own key, when it keeps the relation there. -/
theorem Refines.update (refines : Refines timeText sets store drawn) {redisKey : String}
    {set : ScoredSet String} {counter : SortedSet Int} {more : List Uuid}
    (scores : set.map Prod.snd = counter)
    (members : ∀ entry ∈ set.entries,
      ∃ instant, ∃ id ∈ drawn ++ more, entry.1 = velocityMember timeText instant id) :
    Refines timeText (Function.update sets redisKey set)
      { store with sortedSets := Function.update store.sortedSets redisKey counter }
      (drawn ++ more) where
  scores other := by
    by_cases same : other = redisKey
    · subst same
      simpa only [Function.update_self] using scores
    · simpa only [Function.update_of_ne same] using refines.scores other
  members other entry member := by
    by_cases same : other = redisKey
    · subst same
      rw [Function.update_self] at member
      exact members entry member
    · rw [Function.update_of_ne same] at member
      obtain ⟨instant, id, known, made⟩ := refines.members other entry member
      exact ⟨instant, id, List.mem_append_left _ known, made⟩

/-- A call whose identifier was never drawn before does what its command does. -/
theorem Refines.execute (refines : Refines timeText sets store drawn) {call : VelocityCall}
    (fresh : ∀ id, call.id? = some id → id ∉ drawn) :
    Refines timeText (sets.execute timeText now call) (store.execute now call.command)
      (drawn ++ call.id?.toList) := by
  cases call with
  | incrementVelocity key metric window id =>
      have new : ∀ entry ∈ ((sets (velocityKey key metric window)).live now).entries,
          entry.1 ≠ velocityMember timeText now id := by
        intro entry member same
        obtain ⟨instant, other, known, made⟩ := refines.members _ entry (entries_live member)
        rw [made] at same
        exact fresh id rfl (velocityMember_inj same ▸ known)
      apply refines.update
      · rw [← SortedSet.expire_map, SortedSet.map_zaddMember new, ← SortedSet.live_map,
          refines.scores]
        rfl
      · intro entry member
        unfold SortedSet.expire at member
        split at member
        · cases member
        · rcases List.mem_append.mp member with old | last
          · obtain ⟨instant, other, known, made⟩ :=
              refines.members _ entry (entries_live (List.mem_of_mem_filter old))
            exact ⟨instant, other, List.mem_append_left _ known, made⟩
          · obtain rfl := List.mem_singleton.mp last
            exact ⟨now, id, List.mem_append_right _ (List.mem_singleton_self _), rfl⟩
  | getVelocity key metric window =>
      apply refines.update
      · rw [← refines.scores, SortedSet.trim, SortedSet.live_map, SortedSet.zremrangebyscore_map]
        rfl
      · intro entry member
        have before := entries_live (SortedSet.mem_zremrangebyscore.mp member).1
        obtain ⟨instant, id, known, made⟩ := refines.members _ entry before
        exact ⟨instant, id, List.mem_append_left _ known, made⟩

/-- With distinct members they refine it after every history. -/
theorem refines_run {history : List (Int × VelocityCall)} (distinct : (identifiers history).Nodup) :
    Refines timeText (run timeText history)
      (FeatureStore.run (history.map fun entry => (entry.1, entry.2.command)))
      (identifiers history) := by
  induction history using List.reverseRecOn with
  | nil => exact ⟨fun _ => rfl, fun _ _ member => nomatch member⟩
  | append_singleton earlier entry ih =>
      have split : identifiers (earlier ++ [entry]) = identifiers earlier ++ entry.2.id?.toList := by
        simp [identifiers]
      rw [split] at distinct ⊢
      obtain ⟨before, -, apart⟩ := List.nodup_append.mp distinct
      have fresh : ∀ id, entry.2.id? = some id → id ∉ identifiers earlier :=
        fun id own known => apart id known id (by simp [own]) rfl
      have after := @Refines.execute _ _ _ _ entry.1 (ih before) entry.2 fresh
      simpa only [run, FeatureStore.run, List.map_append, List.map_cons, List.map_nil,
        List.foldl_append, List.foldl_cons, List.foldl_nil] using after

end VelocitySets

/-- `get_velocity` at `now` returns how many increments of its counter fell in the
window that ends there. -/
theorem getVelocity_exact (timeText : Int → String) (history : List (Int × VelocityCall))
    (now : Int) (chronological : Chronological now history)
    (plain : ∀ entry ∈ history, ':' ∉ entry.2.metric.toList ∧ 0 < entry.2.window)
    (distinct : (VelocitySets.identifiers history).Nodup) (key metric : String) (window : Nat)
    (named : ':' ∉ metric.toList) (positive : 0 < window) :
    (VelocitySets.run timeText history).getVelocity now key metric window =
      history.countP fun entry => entry.2.Increments key metric window ∧
        now - seconds window < entry.1 ∧ entry.1 ≤ now := by
  have commands : Chronological now (history.map fun entry => (entry.1, entry.2.command)) := by
    have mapped := chronological.flatMap fun call => [call.command]
    simpa only [List.map_cons, List.map_nil, ← List.map_eq_flatMap] using mapped
  have allPlain : ∀ entry ∈ history.map fun entry => (entry.1, entry.2.command),
      entry.2.Plain := by
    intro entry member
    obtain ⟨⟨instant, call⟩, present, rfl⟩ := List.mem_map.mp member
    have plainCall := (plain _ present).1
    cases call <;> exact plainCall
  rw [(VelocitySets.refines_run distinct).getVelocity,
    getVelocity_run commands named allPlain positive, increments, recent, List.filter_map,
    List.length_map, List.filter_map, List.filter_map, List.length_map, List.filter_filter,
    List.countP_eq_length_filter]
  congr 1
  refine List.filter_congr fun entry member => ?_
  have past := chronological.past entry member
  simp [VelocityCall.command_eq_iff, past, and_comm]

/-- Two increments at one instant, and one that is a window older. -/
def threeIncrements : List (Int × VelocityCall) :=
  [(0, .incrementVelocity "u1" "login_attempts" 60 ⟨List.replicate 16 1, rfl⟩),
    (seconds 60, .incrementVelocity "u1" "login_attempts" 60 ⟨List.replicate 16 2, rfl⟩),
    (seconds 60, .incrementVelocity "u1" "login_attempts" 60 ⟨List.replicate 16 3, rfl⟩),
    (seconds 60, .getVelocity "u1" "login_attempts" 60)]

/-- An increment that is just sixty seconds old is not counted. -/
theorem getVelocity_exact_atBoundary :
    (VelocitySets.run (fun now => toString now) threeIncrements).getVelocity (seconds 60) "u1"
      "login_attempts" 60 = 2 := by
  have chronological : Chronological (seconds 60) threeIncrements := by
    constructor <;> simp [threeIncrements, seconds]
  rw [getVelocity_exact _ _ _ chronological (by decide) (by decide) _ _ _ (by decide) (by decide)]
  decide

end Sentinel.Risk
