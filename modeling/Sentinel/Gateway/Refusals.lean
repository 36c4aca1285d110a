import Sentinel.Gateway.SlidingWindow
import Sentinel.Semantics.Recording

/-!
# Whom the limiter refuses

Redis executes the blocks of `Allow` one after another, and the record notes each
with its verdict. No order of the blocks and no clock makes the limiter refuse a
key that has not used up its limit (`refusals_earned`), and where the clocks
agree it refuses exactly the keys that have (`verdicts_exact`). A refused call
counts like any other.
-/

namespace Sentinel.Gateway

open Sentinel.Redis Sentinel.Semantics

/-- A block that Redis has executed, and what `Allow` makes of its count. -/
structure Verdict (Call : Type) where
  key : String
  entry : LimiterEntry Call
  allowed : Bool

namespace SlidingWindowLimiter

variable (limiter : SlidingWindowLimiter) {Call : Type}

def verdict [DecidableEq Call] (state : LimiterState Call) :
    LimiterLabel Call → Option (Verdict Call)
  | .execute call serverNow _ =>
      match state.calls call with
      | some (.timed key now) =>
          some ⟨key, ⟨now, call⟩, limiter.allowed
            (limiter.counted ⟨now, call⟩ ((state.sets (redisKey key)).live serverNow)).zcard⟩
      | _ => none
  | _ => none

/-- The blocks of a key on record, their entries in the order in which Redis executed them. -/
def entriesOf (key : String) (verdicts : List (Verdict Call)) : List (LimiterEntry Call) :=
  ((verdicts.filter (·.key = key)).map (·.entry)).reverse

/-- How many blocks of the key are less than a window older than `now`, or newer. -/
def spent (key : String) (now : Int) (verdicts : List (Verdict Call)) : Nat :=
  (entriesOf key verdicts).countP fun entry => now - limiter.window < entry.timestamp

/-- A refused call came when `limit` others had used up its window. -/
def Earned (verdict : Verdict Call) (older : List (Verdict Call)) : Prop :=
  verdict.allowed = false →
    limiter.limit ≤ limiter.spent verdict.key verdict.entry.timestamp older

/-- The limiter decides by what its window holds. -/
def Exact (verdict : Verdict Call) (older : List (Verdict Call)) : Prop :=
  verdict.allowed = true ↔ limiter.spent verdict.key verdict.entry.timestamp older < limiter.limit

/-- A verdict adds its entry to those of its key. -/
theorem entriesOf_cons (key : String) (verdict : Verdict Call) (older : List (Verdict Call)) :
    entriesOf key (verdict :: older) =
      entriesOf key older ++ if verdict.key = key then [verdict.entry] else [] := by
  rw [entriesOf, entriesOf, List.filter_cons]
  by_cases own : verdict.key = key <;> simp [own]

/-- An entry of a key came with one of its verdicts. -/
theorem mem_entriesOf {key : String} {entry : LimiterEntry Call} {verdicts : List (Verdict Call)}
    (member : entry ∈ entriesOf key verdicts) :
    ∃ verdict ∈ verdicts, verdict.key = key ∧ verdict.entry = entry := by
  obtain ⟨verdict, kept, rfl⟩ := List.mem_map.mp (List.mem_reverse.mp member)
  obtain ⟨member, own⟩ := List.mem_filter.mp kept
  exact ⟨verdict, member, of_decide_eq_true own, rfl⟩

/-- The block counts what it keeps and itself. -/
theorem zcard_counted (entry : LimiterEntry Call) (set : SortedSet (LimiterEntry Call)) :
    (limiter.counted entry set).zcard = (set.entries.filter fun other =>
      !(0 ≤ other.timestamp ∧ other.timestamp ≤ entry.timestamp - limiter.window)).length + 1 := by
  rw [counted, SortedSet.zcard_zadd, SortedSet.zcard, SortedSet.entries_zremrangebyscore]

/-- A call is allowed when fewer than the limit stand before it. -/
theorem allowed_iff (count : Nat) : limiter.allowed (count + 1) = true ↔ count < limiter.limit := by
  rw [allowed, Bool.not_eq_true', decide_eq_false_iff_not]
  omega

/-- After 1970, what the block keeps is what its window holds. -/
theorem length_kept {entries : List (LimiterEntry Call)}
    (epoch : ∀ entry ∈ entries, 0 ≤ entry.timestamp) (now : Int) :
    (entries.filter fun other =>
      !(0 ≤ other.timestamp ∧ other.timestamp ≤ now - limiter.window)).length =
      entries.countP fun other => now - limiter.window < other.timestamp := by
  rw [List.countP_eq_length_filter]
  congr 1
  refine List.filter_congr fun entry member => ?_
  have nonneg := epoch entry member
  rw [← decide_not, decide_eq_decide]
  omega

/-- Different keys are kept apart in Redis. -/
theorem redisKey_injective {first second : String} (same : redisKey first = redisKey second) :
    first = second :=
  (String.append_right_inj "ratelimit:").mp same

/-- The entries are kept for some time. -/
theorem expiry_pos (positive : 0 < limiter.window) : 0 < limiter.expiry := by
  unfold expiry
  split
  · decide
  · rename_i long
    rw [Int.tdiv_eq_ediv_of_nonneg (Int.le_of_lt positive)]
    omega

end SlidingWindowLimiter

/-- A set that has expired has no entries. -/
theorem entries_live_sublist {Entry : Type} (now : Int) (set : SortedSet Entry) :
    (set.live now).entries.Sublist set.entries := by
  unfold SortedSet.live
  split
  · exact List.nil_sublist _
  · exact List.Sublist.refl _

/-- A new expiry adds none. -/
theorem entries_expire_sublist {Entry : Type} (now ttl : Int) (set : SortedSet Entry) :
    (set.expire now ttl).entries.Sublist set.entries := by
  unfold SortedSet.expire
  split
  · exact List.nil_sublist _
  · exact List.Sublist.refl _

section Block

open SlidingWindowLimiter

variable {limiter : SlidingWindowLimiter} {Call : Type} {set : SortedSet (LimiterEntry Call)}
  {entry : LimiterEntry Call} {entries : List (LimiterEntry Call)} {now : Int}

/-- A set that holds blocks on record holds them still after one more. -/
theorem sublist_counted (held : set.entries.Sublist entries) :
    (limiter.counted entry (set.live now)).entries.Sublist (entries ++ [entry]) := by
  rw [counted, SortedSet.entries_zadd, SortedSet.entries_zremrangebyscore]
  refine List.Sublist.append ?_ (List.Sublist.refl _)
  exact List.filter_sublist.trans ((entries_live_sublist now set).trans held)

/-- A block that is refused found its window used up. -/
theorem le_of_refused (held : set.entries.Sublist entries)
    (epoch : ∀ other ∈ entries, 0 ≤ other.timestamp)
    (refused : limiter.allowed (limiter.counted entry (set.live now)).zcard = false) :
    limiter.limit ≤
      entries.countP fun other => entry.timestamp - limiter.window < other.timestamp := by
  have live := (entries_live_sublist now set).trans held
  have liveEpoch : ∀ other ∈ (set.live now).entries, 0 ≤ other.timestamp :=
    fun other member => epoch other (live.subset member)
  have counted := live.countP_le (p := fun other => entry.timestamp - limiter.window < other.timestamp)
  rw [zcard_counted, length_kept limiter liveEpoch, ← Bool.not_eq_true, allowed_iff] at refused
  omega

end Block

/-! ## Every order of the blocks -/

/-- Timestamps are taken after 1970. -/
def LimiterLabel.AfterEpoch {Call : Type} : LimiterLabel Call → Prop
  | .begin _ _ now => 0 ≤ now
  | _ => True

variable {Call : Type}

/-- What Redis holds of a key is on record, and what was answered too. -/
structure LimiterRecord (limiter : SlidingWindowLimiter)
    (recorded : Recorded (LimiterState Call) (Verdict Call)) : Prop where
  held : ∀ key, (recorded.state.sets (redisKey key)).entries.Sublist
    (SlidingWindowLimiter.entriesOf key recorded.notes)
  epoch : ∀ verdict ∈ recorded.notes, 0 ≤ verdict.entry.timestamp
  clocks : ∀ call key now, recorded.state.calls call = some (.timed key now) → 0 ≤ now
  earned : Each limiter.Earned recorded.notes
  answers : ∀ call answer, recorded.state.calls call = some (.returned (some answer)) →
    ∃ verdict ∈ recorded.notes, verdict.entry.call = call ∧ verdict.allowed = answer

namespace LimiterRecord

variable {limiter : SlidingWindowLimiter}
  {recorded next : Recorded (LimiterState Call) (Verdict Call)}
  {state : LimiterState Call} {verdicts : List (Verdict Call)}

/-- At the start there is no verdict. -/
theorem start (limiter : SlidingWindowLimiter) :
    LimiterRecord limiter (⟨.start, []⟩ : Recorded (LimiterState Call) (Verdict Call)) where
  held _ := List.nil_sublist _
  epoch _ member := by cases member
  clocks _ _ _ timed := by cases timed
  earned := trivial
  answers _ _ returned := by cases returned

/-- No entry is from before the epoch. -/
theorem epoch_entriesOf (record : LimiterRecord limiter recorded) (key : String) :
    ∀ entry ∈ SlidingWindowLimiter.entriesOf key recorded.notes, 0 ≤ entry.timestamp := by
  intro entry member
  obtain ⟨verdict, noted, -, rfl⟩ := SlidingWindowLimiter.mem_entriesOf member
  exact record.epoch verdict noted

variable [DecidableEq Call]

/-- A call goes on; an answer that it returns is on record. -/
theorem move (record : LimiterRecord limiter ⟨state, verdicts⟩) (call : Call) (phase : AllowPhase)
    (clock : ∀ key now, phase = .timed key now → 0 ≤ now)
    (noted : ∀ answer, phase = .returned (some answer) →
      ∃ verdict ∈ verdicts, verdict.entry.call = call ∧ verdict.allowed = answer)
    (admitted : String → List (LimiterEntry Call)) :
    LimiterRecord limiter
      ⟨⟨state.sets, Function.update state.calls call (some phase), admitted⟩, verdicts⟩ where
  held := record.held
  epoch := record.epoch
  clocks := by
    intro other key now timed
    by_cases itself : other = call
    · subst itself
      simp only [Function.update_self, Option.some.injEq] at timed
      exact clock key now timed
    · simp only [Function.update_of_ne itself] at timed
      exact record.clocks other key now timed
  earned := record.earned
  answers := by
    intro other answer returned
    by_cases itself : other = call
    · subst itself
      simp only [Function.update_self, Option.some.injEq] at returned
      exact noted answer returned
    · simp only [Function.update_of_ne itself] at returned
      exact record.answers other answer returned

omit [DecidableEq Call] in
/-- Redis executes a block. -/
theorem execute (record : LimiterRecord limiter ⟨state, verdicts⟩) {call : Call} {key : String}
    {now : Int} (timed : state.calls call = some (.timed key now)) (serverNow : Int) :
    LimiterRecord limiter
      ⟨{ state with
          sets := Function.update state.sets (redisKey key)
            ((limiter.counted ⟨now, call⟩ ((state.sets (redisKey key)).live serverNow)).expire
              serverNow limiter.expiry) },
        ⟨key, ⟨now, call⟩, limiter.allowed
          (limiter.counted ⟨now, call⟩ ((state.sets (redisKey key)).live serverNow)).zcard⟩ ::
            verdicts⟩ where
  held := by
    intro other
    rw [SlidingWindowLimiter.entriesOf_cons]
    by_cases itself : other = key
    · subst itself
      simp only [Function.update_self, if_pos]
      exact (entries_expire_sublist ..).trans (sublist_counted (record.held other))
    · have apart : redisKey other ≠ redisKey key :=
        fun same => itself (SlidingWindowLimiter.redisKey_injective same)
      simp only [Function.update_of_ne apart, if_neg (Ne.symm itself), List.append_nil]
      exact record.held other
  epoch := by
    intro verdict member
    rcases List.mem_cons.mp member with rfl | member
    · exact record.clocks call key now timed
    · exact record.epoch verdict member
  clocks := record.clocks
  earned := ⟨fun refused => le_of_refused (record.held key) (record.epoch_entriesOf key) refused,
    record.earned⟩
  answers := by
    intro other answer returned
    obtain ⟨verdict, member, noted⟩ := record.answers other answer returned
    exact ⟨verdict, List.mem_cons_of_mem _ member, noted⟩

/-- Every step keeps the record. -/
theorem step (record : LimiterRecord limiter recorded) {label : LimiterLabel Call}
    (afterEpoch : label.AfterEpoch)
    (step : (limiter.machine.recording limiter.verdict).step recorded label = some next) :
    LimiterRecord limiter next := by
  obtain ⟨step, notes⟩ := Machine.recording_step step
  obtain ⟨state, verdicts⟩ := recorded
  obtain ⟨after, later⟩ := next
  simp only at notes
  subst notes
  change limiter.step state label = some after at step
  cases label with
  | begin call key now =>
      simp only [SlidingWindowLimiter.step] at step
      split at step
      · cases step
      · cases step
        refine record.move call (.timed key now) ?_ (by simp) _
        rintro _ _ ⟨rfl, rfl⟩
        exact afterEpoch
  | execute call serverNow answered =>
      simp only [SlidingWindowLimiter.step] at step
      split at step
      · rename_i key now timed
        cases step
        simp only [SlidingWindowLimiter.verdict, timed, Option.toList_some, List.singleton_append]
        refine (record.execute timed serverNow).move call _ (by simp) ?_ _
        intro answer returned
        refine ⟨_, List.mem_cons_self, rfl, ?_⟩
        cases answered with
        | false => simp at returned
        | true => simpa using returned
      · cases step
  | unreachable call =>
      simp only [SlidingWindowLimiter.step] at step
      split at step
      · cases step
        exact record.move call (.returned none) (by simp) (by simp) _
      · cases step

end LimiterRecord

/-- Whoever is refused has used up the window: at least `limit` blocks of the same key
were executed before with timestamps less than a window older. -/
theorem refusals_earned [DecidableEq Call] (limiter : SlidingWindowLimiter)
    (labels : List (LimiterLabel Call)) (afterEpoch : ∀ label ∈ labels, label.AfterEpoch)
    {final : Recorded (LimiterState Call) (Verdict Call)}
    (run : (limiter.machine.recording limiter.verdict).exec ⟨.start, []⟩ labels = some final)
    {call : Call} (refused : final.state.calls call = some (.returned (some false))) :
    ∃ newer verdict older, final.notes = newer ++ verdict :: older ∧ verdict.entry.call = call ∧
      limiter.limit ≤ limiter.spent verdict.key verdict.entry.timestamp older := by
  have guarded : (limiter.machine.recording limiter.verdict).Guarded
      (fun _ label => label.AfterEpoch) ⟨.start, []⟩ labels :=
    Machine.guarded_of_forall (fun label member _ => afterEpoch label member) _
  have preserved : ∀ {recorded next : Recorded (LimiterState Call) (Verdict Call)}
      {label : LimiterLabel Call}, LimiterRecord limiter recorded → label.AfterEpoch →
      (limiter.machine.recording limiter.verdict).step recorded label = some next →
      LimiterRecord limiter next := fun record afterEpoch step => record.step afterEpoch step
  have record : LimiterRecord limiter final :=
    (Machine.along_of_guarded (fun record afterEpoch step => preserved record afterEpoch step)
      (.start limiter) guarded).final run
  obtain ⟨verdict, member, same, answer⟩ := record.answers call false refused
  obtain ⟨newer, older, split⟩ := List.append_of_mem member
  refine ⟨newer, verdict, older, split, same, ?_⟩
  have earned := record.earned
  rw [split] at earned
  exact earned.of_append answer

/-- Three calls of one key within ten nanoseconds. -/
def threeCalls : List (LimiterLabel Nat) :=
  [.begin 0 "203.0.113.7" 100, .execute 0 100 true, .begin 1 "203.0.113.7" 104,
    .execute 1 104 true, .begin 2 "203.0.113.7" 108, .execute 2 108 true]

def afterThree : Recorded (LimiterState Nat) (Verdict Nat) :=
  ((smallLimiter.machine.recording smallLimiter.verdict).exec ⟨.start, []⟩ threeCalls).getD
    ⟨.start, []⟩

/-- The third call is refused, and two stand before it. -/
theorem refusals_earned_third : ∃ newer verdict older,
    afterThree.notes = newer ++ verdict :: older ∧ verdict.entry.call = 2 ∧
      smallLimiter.limit ≤ smallLimiter.spent verdict.key verdict.entry.timestamp older :=
  refusals_earned smallLimiter threeCalls
    (by
      simp only [threeCalls, List.forall_mem_cons, LimiterLabel.AfterEpoch]
      simp)
    (by rfl) (by rfl)

/-! ## Clocks that agree -/

/-- The entries newer than `cut`. -/
def newerThan (cut : Int) (entries : List (LimiterEntry Call)) : List (LimiterEntry Call) :=
  entries.filter fun entry => cut < entry.timestamp

/-- Above a cut that no entry on record is more than a window newer than, the set is what is
on record. -/
def AgreesAbove (window : Int) (set : SortedSet (LimiterEntry Call))
    (entries : List (LimiterEntry Call)) : Prop :=
  ∀ cut, (∀ entry ∈ entries, entry.timestamp - window ≤ cut) →
    newerThan cut set.entries = newerThan cut entries

section Agreement

open SlidingWindowLimiter

variable {limiter : SlidingWindowLimiter} {set : SortedSet (LimiterEntry Call)}
  {entry : LimiterEntry Call} {entries : List (LimiterEntry Call)} {serverNow cut : Int}

/-- What is found under the key is what the window holds, expired or not. -/
theorem newerThan_live (agrees : AgreesAbove limiter.window set entries)
    (ordered : ∀ other ∈ entries, other.timestamp ≤ entry.timestamp)
    (lapsed : set.expired serverNow → ∀ other ∈ entries,
      other.timestamp ≤ entry.timestamp - limiter.window)
    (wide : entry.timestamp - limiter.window ≤ cut) :
    newerThan cut (set.live serverNow).entries = newerThan cut entries := by
  unfold SortedSet.live
  split
  · rename_i expired
    symm
    refine List.filter_eq_nil_iff.mpr fun other member => ?_
    have old := lapsed expired other member
    rw [decide_eq_true_eq]
    omega
  · refine agrees cut fun other member => ?_
    have before := ordered other member
    omega

/-- The block counts what its window holds. -/
theorem allowed_counted_iff (held : set.entries.Sublist entries)
    (epoch : ∀ other ∈ entries, 0 ≤ other.timestamp)
    (agrees : AgreesAbove limiter.window set entries)
    (ordered : ∀ other ∈ entries, other.timestamp ≤ entry.timestamp)
    (lapsed : set.expired serverNow → ∀ other ∈ entries,
      other.timestamp ≤ entry.timestamp - limiter.window) :
    limiter.allowed (limiter.counted entry (set.live serverNow)).zcard = true ↔
      entries.countP (fun other => entry.timestamp - limiter.window < other.timestamp) <
        limiter.limit := by
  have live := (entries_live_sublist serverNow set).trans held
  have liveEpoch : ∀ other ∈ (set.live serverNow).entries, 0 ≤ other.timestamp :=
    fun other member => epoch other (live.subset member)
  have same := congrArg List.length
    (newerThan_live agrees ordered lapsed (Int.le_refl (entry.timestamp - limiter.window)))
  rw [newerThan, newerThan, ← List.countP_eq_length_filter, ← List.countP_eq_length_filter] at same
  rw [zcard_counted, length_kept limiter liveEpoch, same, allowed_iff]

/-- The set after the block agrees with the longer record. -/
theorem agreesAbove_counted (positive : 0 < limiter.window)
    (agrees : AgreesAbove limiter.window set entries)
    (ordered : ∀ other ∈ entries, other.timestamp ≤ entry.timestamp)
    (lapsed : set.expired serverNow → ∀ other ∈ entries,
      other.timestamp ≤ entry.timestamp - limiter.window) :
    AgreesAbove limiter.window
      ((limiter.counted entry (set.live serverNow)).expire serverNow limiter.expiry)
      (entries ++ [entry]) := by
  intro cut wide
  have wideEntry : entry.timestamp - limiter.window ≤ cut :=
    wide entry (List.mem_append_right _ List.mem_cons_self)
  have alive : ¬ limiter.expiry ≤ 0 := Int.not_le.mpr (limiter.expiry_pos positive)
  have kept : ((limiter.counted entry (set.live serverNow)).expire serverNow
      limiter.expiry).entries = (limiter.counted entry (set.live serverNow)).entries := by
    rw [SortedSet.expire, if_neg]
    rw [counted, SortedSet.entries_zadd]
    simp [alive]
  have trimmed : ∀ others : List (LimiterEntry Call),
      newerThan cut (others.filter fun other =>
        !(0 ≤ other.timestamp ∧ other.timestamp ≤ entry.timestamp - limiter.window)) =
        newerThan cut others := by
    intro others
    rw [newerThan, List.filter_filter]
    refine List.filter_congr fun other _ => ?_
    rw [← decide_not, ← Bool.decide_and, decide_eq_decide]
    constructor
    · exact And.left
    · intro newer
      exact ⟨newer, by omega⟩
  rw [kept, counted, SortedSet.entries_zadd, SortedSet.entries_zremrangebyscore, newerThan,
    newerThan, List.filter_append, List.filter_append]
  congr 1
  exact (trimmed _).trans (newerThan_live agrees ordered lapsed wideEntry)

end Agreement

/-- A block carries no older timestamp than those executed before it, and where it finds
that its key has expired, those are a window older. -/
def Timely (limiter : SlidingWindowLimiter)
    (recorded : Recorded (LimiterState Call) (Verdict Call)) : LimiterLabel Call → Prop
  | .begin _ _ now => 0 ≤ now
  | .execute call serverNow _ => ∀ key now, recorded.state.calls call = some (.timed key now) →
      ∀ entry ∈ SlidingWindowLimiter.entriesOf key recorded.notes, entry.timestamp ≤ now ∧
        ((recorded.state.sets (redisKey key)).expired serverNow →
          entry.timestamp ≤ now - limiter.window)
  | .unreachable _ => True

structure ExactRecord (limiter : SlidingWindowLimiter)
    (recorded : Recorded (LimiterState Call) (Verdict Call)) : Prop where
  record : LimiterRecord limiter recorded
  agrees : ∀ key, AgreesAbove limiter.window (recorded.state.sets (redisKey key))
    (SlidingWindowLimiter.entriesOf key recorded.notes)
  exact : Each limiter.Exact recorded.notes

/-- A timely call comes after the epoch. -/
theorem Timely.afterEpoch {limiter : SlidingWindowLimiter}
    {recorded : Recorded (LimiterState Call) (Verdict Call)} {label : LimiterLabel Call}
    (timely : Timely limiter recorded label) : label.AfterEpoch := by
  cases label with
  | begin call key now => exact timely
  | execute call serverNow answered => trivial
  | unreachable call => trivial

namespace ExactRecord

variable [DecidableEq Call] {limiter : SlidingWindowLimiter}
  {recorded next : Recorded (LimiterState Call) (Verdict Call)}

theorem step (positive : 0 < limiter.window) (inv : ExactRecord limiter recorded)
    {label : LimiterLabel Call} (timely : Timely limiter recorded label)
    (step : (limiter.machine.recording limiter.verdict).step recorded label = some next) :
    ExactRecord limiter next := by
  have record := inv.record.step timely.afterEpoch step
  obtain ⟨step, notes⟩ := Machine.recording_step step
  obtain ⟨state, verdicts⟩ := recorded
  obtain ⟨after, later⟩ := next
  simp only at notes
  subst notes
  change limiter.step state label = some after at step
  cases label with
  | begin call key now =>
      simp only [SlidingWindowLimiter.step] at step
      split at step
      · cases step
      · cases step
        exact ⟨record, inv.agrees, inv.exact⟩
  | execute call serverNow answered =>
      simp only [SlidingWindowLimiter.step] at step
      split at step
      · rename_i key now timed
        have verdict : limiter.verdict state (.execute call serverNow answered) =
            some ⟨key, ⟨now, call⟩, limiter.allowed (limiter.counted ⟨now, call⟩
              ((state.sets (redisKey key)).live serverNow)).zcard⟩ := by
          simp only [SlidingWindowLimiter.verdict, timed]
        have ordered := fun other member => (timely key now timed other member).1
        have lapsed := fun expired other member => (timely key now timed other member).2 expired
        cases step
        refine ⟨record, ?_, ?_⟩
        · intro other
          rw [verdict, Option.toList_some, List.singleton_append,
            SlidingWindowLimiter.entriesOf_cons]
          by_cases itself : other = key
          · subst itself
            simp only [Function.update_self, if_pos]
            exact agreesAbove_counted positive (inv.agrees other) ordered lapsed
          · have apart : redisKey other ≠ redisKey key :=
              fun same => itself (SlidingWindowLimiter.redisKey_injective same)
            simp only [Function.update_of_ne apart, if_neg (Ne.symm itself), List.append_nil]
            exact inv.agrees other
        · rw [verdict, Option.toList_some, List.singleton_append]
          refine ⟨?_, inv.exact⟩
          exact allowed_counted_iff (inv.record.held key) (inv.record.epoch_entriesOf key)
            (inv.agrees key) ordered lapsed
      · cases step
  | unreachable call =>
      simp only [SlidingWindowLimiter.step] at step
      split at step
      · cases step
        exact ⟨record, inv.agrees, inv.exact⟩
      · cases step

end ExactRecord

/-- Where the blocks are timely, a call is allowed exactly when fewer than `limit` blocks of
its key were executed within the last window, refused ones included. -/
theorem verdicts_exact [DecidableEq Call] (limiter : SlidingWindowLimiter)
    (positive : 0 < limiter.window) (labels : List (LimiterLabel Call))
    (timely : (limiter.machine.recording limiter.verdict).Guarded (Timely limiter) ⟨.start, []⟩
      labels) :
    (limiter.machine.recording limiter.verdict).Along
      (fun recorded => ∀ newer verdict older, recorded.notes = newer ++ verdict :: older →
        (verdict.allowed = true ↔
          limiter.spent verdict.key verdict.entry.timestamp older < limiter.limit))
      ⟨.start, []⟩ labels := by
  have preserved : ∀ {recorded next : Recorded (LimiterState Call) (Verdict Call)}
      {label : LimiterLabel Call}, ExactRecord limiter recorded → Timely limiter recorded label →
      (limiter.machine.recording limiter.verdict).step recorded label = some next →
      ExactRecord limiter next := fun inv timely step => inv.step positive timely step
  have initial : ExactRecord limiter (⟨.start, []⟩ : Recorded (LimiterState Call) (Verdict Call)) :=
    ⟨.start limiter, fun _ _ _ => rfl, trivial⟩
  refine (Machine.along_of_guarded (fun inv timely step => preserved inv timely step) initial
    timely).mono fun recorded inv newer verdict older split => ?_
  have exact := inv.exact
  rw [split] at exact
  exact exact.of_append

/-- Every verdict of the run is as the calls in the window say. -/
theorem verdicts_exact_first :
    (smallLimiter.machine.recording smallLimiter.verdict).Along
      (fun recorded => ∀ newer verdict older, recorded.notes = newer ++ verdict :: older →
        (verdict.allowed = true ↔
          smallLimiter.spent verdict.key verdict.entry.timestamp older < smallLimiter.limit))
      ⟨.start, []⟩ [.begin 0 "203.0.113.7" 100, .execute 0 100 true,
        .begin 1 "203.0.113.7" 104, .execute (1 : Nat) 104 true] := by
  refine verdicts_exact smallLimiter (by decide) _ ?_
  refine fun next step => ⟨(by decide : (0 : Int) ≤ 100), ?_⟩
  obtain rfl := Option.some.inj step
  refine fun next step => ⟨fun key now timed entry member => (by cases member), ?_⟩
  obtain rfl := Option.some.inj step
  refine fun next step => ⟨(by decide : (0 : Int) ≤ 104), ?_⟩
  obtain rfl := Option.some.inj step
  refine fun next step => ⟨fun key now timed entry member => ?_, trivial⟩
  cases timed
  obtain rfl := List.mem_singleton.mp member
  decide

end Sentinel.Gateway
