import Mathlib.Logic.Function.Basic
import Sentinel.Redis.SortedSet
import Sentinel.Semantics.Machine
import Sentinel.Semantics.TimeWindow

/-!
# The sliding-window limiter

`SlidingWindowLimiter.Allow`, called by any number of requests at once. A call
reads the clock and later runs its block of commands, which Redis executes
atomically. `admissionBounded_of_guarded` is the condition under which no window
admits more calls than the limit. Instants and durations are nanoseconds.
-/

namespace Sentinel.Gateway

open Sentinel.Redis Sentinel.Semantics

/-- A member of the sorted set: the timestamp that is its score, and the call
whose random UUID sets it apart. -/
structure LimiterEntry (Call : Type) where
  timestamp : Int
  call : Call
deriving DecidableEq

structure SlidingWindowLimiter where
  limit : Int
  window : Int

/-- Where a call of `Allow` stands. -/
inductive AllowPhase where
  /-- It has read the clock. -/
  | timed (key : String) (now : Int)
  /-- It has returned; `none` is an error. -/
  | returned (allowed : Option Bool)

structure LimiterState (Call : Type) where
  sets : String → SortedSet (LimiterEntry Call)
  calls : Call → Option AllowPhase
  /-- The calls that were allowed, under their keys, the last one first. -/
  admitted : String → List (LimiterEntry Call)

inductive LimiterLabel (Call : Type) where
  | begin (call : Call) (key : String) (now : Int)
  /-- Redis executes the block; the client may fail to get the answer. -/
  | execute (call : Call) (serverNow : Int) (answered : Bool)
  /-- The block does not reach Redis. -/
  | unreachable (call : Call)

def redisKey (key : String) : String := "ratelimit:" ++ key

namespace SlidingWindowLimiter

variable (limiter : SlidingWindowLimiter)

/-- The argument of `EXPIRE`: whole seconds, and at least one for a positive window. -/
def expiry : Int :=
  if 0 < limiter.window ∧ limiter.window < 1000000000 then 1000000000
  else limiter.window.tdiv 1000000000 * 1000000000

/-- The block up to its `ZCARD`. -/
def counted {Call : Type} (entry : LimiterEntry Call) (set : SortedSet (LimiterEntry Call)) :
    SortedSet (LimiterEntry Call) :=
  (set.zremrangebyscore LimiterEntry.timestamp 0 (entry.timestamp - limiter.window)).zadd entry

/-- What `Allow` makes of the count. -/
def allowed (count : Nat) : Bool := !(limiter.limit < count)

variable {Call : Type} [DecidableEq Call]

def step (state : LimiterState Call) : LimiterLabel Call → Option (LimiterState Call)
  | .begin call key now =>
      match state.calls call with
      | some _ => none
      | none => some { state with calls := Function.update state.calls call (some (.timed key now)) }
  | .execute call serverNow answered =>
      match state.calls call with
      | some (.timed key now) =>
          let set := limiter.counted ⟨now, call⟩ ((state.sets (redisKey key)).live serverNow)
          let answer := limiter.allowed set.zcard
          some
            { sets := Function.update state.sets (redisKey key) (set.expire serverNow limiter.expiry)
              calls := Function.update state.calls call
                (some (.returned (if answered then some answer else none)))
              admitted :=
                if answered && answer then
                  Function.update state.admitted key (⟨now, call⟩ :: state.admitted key)
                else state.admitted }
      | _ => none
  | .unreachable call =>
      match state.calls call with
      | some (.timed _ _) =>
          some { state with calls := Function.update state.calls call (some (.returned none)) }
      | _ => none

/-- `Allow` on one Redis server as a machine. -/
def machine : Machine (LimiterState Call) (LimiterLabel Call) where
  step := limiter.step

end SlidingWindowLimiter

namespace LimiterState

variable {Call : Type}

def start : LimiterState Call := ⟨fun _ => .empty, fun _ => none, fun _ => []⟩

/-- At most `limit` admitted calls of each key have timestamps in any window. -/
def AdmissionBounded (limiter : SlidingWindowLimiter) (state : LimiterState Call) : Prop :=
  ∀ key, WindowBounded LimiterEntry.timestamp (fun _ => false) limiter.window limiter.limit.toNat
    (state.admitted key)

/-- The set still holds every admitted call that shares a window with the one
whose block runs: none of them was removed by a later timestamp or expired. -/
def Remembers (limiter : SlidingWindowLimiter) (state : LimiterState Call) :
    LimiterLabel Call → Prop
  | .execute call serverNow _ => ∀ key now, state.calls call = some (.timed key now) →
      ∀ entry ∈ state.admitted key, within limiter.window now entry.timestamp →
        entry ∈ ((state.sets (redisKey key)).live serverNow).entries
  | _ => True

/-- A call is admitted at most once, and after it has returned. -/
structure Inv (limiter : SlidingWindowLimiter) (state : LimiterState Call) : Prop where
  bounded : state.AdmissionBounded limiter
  distinct : ∀ key, (state.admitted key).Nodup
  returned : ∀ key, ∀ entry ∈ state.admitted key, ∃ result,
    state.calls entry.call = some (.returned result)

variable {limiter : SlidingWindowLimiter} {state next : LimiterState Call}

/-- At the start nothing was admitted. -/
theorem inv_start : (start : LimiterState Call).Inv limiter where
  bounded _ := windowBounded_nil
  distinct _ := List.nodup_nil
  returned := by simp [start]

/-- The set that is counted holds the new entry and every remembered one. -/
theorem admitted_le_count {set : SortedSet (LimiterEntry Call)} {entry : LimiterEntry Call}
    {admitted : List (LimiterEntry Call)} (distinct : admitted.Nodup) (fresh : entry ∉ admitted)
    (remembered : ∀ other ∈ admitted,
      within limiter.window entry.timestamp other.timestamp → other ∈ set.entries) :
    admitted.countP (fun other => within limiter.window entry.timestamp other.timestamp) + 1 ≤
      (limiter.counted entry set).zcard := by
  rw [List.countP_eq_length_filter, ← List.length_cons (a := entry)]
  refine SortedSet.length_le_zcard ?_ ?_
  · refine List.nodup_cons.mpr ⟨fun member => fresh (List.mem_filter.mp member).1, ?_⟩
    exact distinct.filter _
  · intro other member
    rcases List.mem_cons.mp member with rfl | kept
    · simp [SlidingWindowLimiter.counted]
    · obtain ⟨admittedOther, close⟩ := List.mem_filter.mp kept
      refine List.mem_append_left _ (SortedSet.mem_zremrangebyscore.mpr ?_)
      refine ⟨remembered other admittedOther close, fun removed => ?_⟩
      -- What the block removes is too old to share a window with it.
      simp only [within, decide_eq_true_eq] at close
      omega

/-- A call that is allowed leaves room for itself in every window it falls in. -/
theorem windowBounded_admit {set : SortedSet (LimiterEntry Call)} {entry : LimiterEntry Call}
    {admitted : List (LimiterEntry Call)}
    (bounded : WindowBounded LimiterEntry.timestamp (fun _ => false) limiter.window
      limiter.limit.toNat admitted)
    (distinct : admitted.Nodup) (fresh : entry ∉ admitted)
    (remembered : ∀ other ∈ admitted,
      within limiter.window entry.timestamp other.timestamp → other ∈ set.entries)
    (allowed : limiter.allowed (limiter.counted entry set).zcard) :
    WindowBounded LimiterEntry.timestamp (fun _ => false) limiter.window limiter.limit.toNat
      (entry :: admitted) := by
  refine bounded.cons fun start inside _ => ?_
  have close : windowCount LimiterEntry.timestamp limiter.window start admitted ≤ _ :=
    windowCount_le_within inside
  have counted := admitted_le_count distinct fresh remembered
  simp only [SlidingWindowLimiter.allowed, Bool.not_eq_true', decide_eq_false_iff_not] at allowed
  omega

/-- An admission within the limit keeps the invariant. -/
theorem Inv.admission (inv : state.Inv limiter) {key : String} {entry : LimiterEntry Call}
    {result : Option Bool} (returned : state.calls entry.call = some (.returned result))
    (fresh : entry ∉ state.admitted key)
    (bounded : WindowBounded LimiterEntry.timestamp (fun _ => false) limiter.window
      limiter.limit.toNat (entry :: state.admitted key)) :
    Inv limiter
      { state with
        admitted := Function.update state.admitted key (entry :: state.admitted key) } where
  bounded := by
    intro other
    by_cases itself : other = key
    · subst itself
      simp only [Function.update_self]
      exact bounded
    · simp only [Function.update_of_ne itself]
      exact inv.bounded other
  distinct := by
    intro other
    by_cases itself : other = key
    · subst itself
      simp only [Function.update_self]
      exact List.nodup_cons.mpr ⟨fresh, inv.distinct other⟩
    · simp only [Function.update_of_ne itself]
      exact inv.distinct other
  returned := by
    intro other another member
    by_cases itself : other = key
    · subst itself
      simp only [Function.update_self] at member
      rcases List.mem_cons.mp member with rfl | member
      · exact ⟨result, returned⟩
      · exact inv.returned other another member
    · simp only [Function.update_of_ne itself] at member
      exact inv.returned other another member

variable [DecidableEq Call]

/-- A call returns with an answer other than yes, or without one. -/
theorem Inv.finish (inv : state.Inv limiter) (call : Call) {key : String} {now : Int}
    (timed : state.calls call = some (.timed key now)) (result : Option Bool)
    (sets : String → SortedSet (LimiterEntry Call)) :
    Inv limiter
      { state with
        sets := sets
        calls := Function.update state.calls call (some (.returned result)) } where
  bounded := inv.bounded
  distinct := inv.distinct
  returned := by
    intro key entry member
    obtain ⟨before, present⟩ := inv.returned key entry member
    have apart : entry.call ≠ call := by
      rintro rfl
      rw [timed] at present
      cases present
    refine ⟨before, ?_⟩
    change Function.update state.calls call _ entry.call = _
    rw [Function.update_of_ne apart]
    exact present

theorem Inv.step (inv : state.Inv limiter) {label : LimiterLabel Call}
    (guard : state.Remembers limiter label) (step : limiter.step state label = some next) :
    next.Inv limiter := by
  cases label with
  | begin call key now =>
      simp only [SlidingWindowLimiter.step] at step
      split at step
      · cases step
      · rename_i unused
        cases step
        constructor
        · exact inv.bounded
        · exact inv.distinct
        · intro other entry member
          obtain ⟨result, present⟩ := inv.returned other entry member
          have apart : entry.call ≠ call := by
            rintro rfl
            rw [unused] at present
            cases present
          exact ⟨result, (Function.update_of_ne apart ..).trans present⟩
  | execute call serverNow answered =>
      simp only [SlidingWindowLimiter.step] at step
      split at step
      · rename_i key now timed
        have fresh : ⟨now, call⟩ ∉ state.admitted key := by
          intro member
          obtain ⟨result, returned⟩ := inv.returned key _ member
          rw [timed] at returned
          cases returned
        cases step
        cases answered with
        | false => exact inv.finish call timed none _
        | true =>
            simp only [Bool.true_and, if_true]
            split
            · rename_i allowed
              refine (inv.finish call timed _ _).admission (Function.update_self ..) fresh ?_
              exact windowBounded_admit (inv.bounded key) (inv.distinct key) fresh
                (guard key now timed) allowed
            · exact inv.finish call timed _ _
      · cases step
  | unreachable call =>
      simp only [SlidingWindowLimiter.step] at step
      split at step
      · rename_i key now timed
        cases step
        exact inv.finish call timed none state.sets
      · cases step

end LimiterState

/-- In a run in which no block finds a call forgotten, each key admits at most
`limit` calls in any window, whatever the order of the blocks and the clocks. -/
theorem admissionBounded_of_guarded {Call : Type} [DecidableEq Call]
    (limiter : SlidingWindowLimiter) (labels : List (LimiterLabel Call))
    (guarded : limiter.machine.Guarded (LimiterState.Remembers limiter) .start labels) :
    limiter.machine.Along (LimiterState.AdmissionBounded limiter) .start labels := by
  have kept : limiter.machine.Along (LimiterState.Inv limiter) .start labels :=
    Machine.along_of_guarded (fun inv guard step => inv.step guard step) LimiterState.inv_start
      guarded
  exact kept.mono fun state inv => inv.bounded

/-- Two calls a window, and windows of ten nanoseconds. -/
def smallLimiter : SlidingWindowLimiter := ⟨2, 10⟩

/-- Two calls of one address within the limit. -/
theorem admissionBounded_ofTwo :
    smallLimiter.machine.Along (LimiterState.AdmissionBounded smallLimiter) .start
      [.begin 0 "203.0.113.7" 100, .execute 0 100 true, .begin 1 "203.0.113.7" 105,
        .execute (1 : Nat) 105 true] := by
  refine admissionBounded_of_guarded smallLimiter _ ?_
  refine fun next step => ⟨trivial, ?_⟩
  obtain rfl := Option.some.inj step
  refine fun next step => ⟨fun key now timed entry member => (nomatch member), ?_⟩
  obtain rfl := Option.some.inj step
  refine fun next step => ⟨trivial, ?_⟩
  obtain rfl := Option.some.inj step
  refine fun next step => ⟨fun key now timed entry member _ => ?_, trivial⟩
  cases timed
  obtain rfl := List.mem_singleton.mp member
  decide

/-- The block of a call that read the clock before another one's runs after it. -/
def overtaken : List (LimiterLabel Nat) :=
  [.begin 0 "203.0.113.7" 100, .execute 0 100 true, .begin 1 "203.0.113.7" 100,
    .execute 1 100 true, .begin 2 "203.0.113.7" 105, .begin 3 "203.0.113.7" 110,
    .execute 3 110 true, .execute 2 110 true]

/-- A call that is executed late is admitted beyond the limit. -/
theorem admissionBounded_fails :
    ¬ ∀ labels : List (LimiterLabel Nat),
      smallLimiter.machine.Along (LimiterState.AdmissionBounded smallLimiter) .start labels := by
  intro always
  have run : (smallLimiter.machine.exec .start overtaken).map (fun state =>
      windowCount LimiterEntry.timestamp 10 100 (state.admitted "203.0.113.7")) = some 3 := by
    decide +kernel
  obtain ⟨state, reached, count⟩ := Option.map_eq_some_iff.mp run
  have bound := (always overtaken).final reached "203.0.113.7" 100 (by simp [Clear])
  change windowCount LimiterEntry.timestamp 10 100 (state.admitted "203.0.113.7") ≤ 2 at bound
  omega

end Sentinel.Gateway
