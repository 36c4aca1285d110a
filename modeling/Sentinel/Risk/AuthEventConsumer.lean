import Mathlib.Logic.Function.Basic
import Sentinel.Semantics.CommitLog
import Sentinel.Semantics.Machine
import Sentinel.Wire.Python

/-!
# The auth event consumer of the risk engine

`AuthEventConsumer` over any number of partitions. `_process_event` starts its
feature-store updates together and waits for them; when one raises, the event is
passed over while the others run on. `commit()` acknowledges the position of
every partition. `committedProcessed_iff` says when that leaves no gap.
-/

namespace Sentinel.Risk

open Sentinel.Wire Sentinel.Semantics

/-- A call of the feature store. Keys and values are whatever the event holds. -/
inductive FeatureUpdate where
  | incrementVelocity (key : Json) (metric : String) (window : Nat)
  | addUnique (key : Json) (dimension : String) (value : Json) (window : Nat)

/-- The counters of one window. -/
def velocityUpdates (ip userID : Json) (isFailure : Bool) (window : Nat) : List FeatureUpdate :=
  (if ip.truthy then [.incrementVelocity ip "login_attempts" window] else []) ++
    (if isFailure && ip.truthy then [.incrementVelocity ip "login_failures" window] else []) ++
    if userID.truthy then
      .incrementVelocity userID "login_attempts" window ::
        if isFailure then [.incrementVelocity userID "login_failures" window] else []
    else []

/-- `_process_event` up to its `gather`: the updates it starts, or an exception. -/
def processEvent (event : Json) : Option (List FeatureUpdate) := do
  let ip ← (← event.get "ip_address" (.str "")).orElse
    ((event.get "source" (.obj [])).bind (·.get "ip_address" (.str "")))
  let subject ← event.get "subject" (.obj [])
  let userID ← (← event.get "user_id" .null).orElse (subject.get "user_id" .null)
  let source ← event.get "source" (.obj [])
  let deviceFp ← (← source.get "device_id" .null).orElse
    ((event.get "device" (.obj [])).bind (·.get "fingerprint" (.str "")))
  let geo ← (← (← event.get "data" (.obj [])).get "geo" (.obj [])).orElse (some (.obj []))
  let country ← (← geo.get "country_code" .null).orElse
    (((source.get "country_code" .null)).bind (·.orElse (some (.str "XX"))))
  let isFailure ← (← event.get "event_type" .null).isText "auth.user.login_failed"
  if !ip.truthy && !userID.truthy then
    return []
  return [60, 300, 900, 3600].flatMap (velocityUpdates ip userID isFailure) ++
    if userID.truthy then
      (if ip.truthy then
        [.addUnique userID "ips" ip 3600, .addUnique userID "ips" ip 86400] else []) ++
      (if deviceFp.truthy then [.addUnique userID "devices" deviceFp 86400] else []) ++
      if country.truthy && country.isNotText "XX" then
        [.addUnique userID "countries" country 604800]
      else []
    else []

/-- The update at `index` of the event at `offset`. -/
structure UpdateTask (Partition : Type) where
  partition : Partition
  offset : Nat
  index : Nat
deriving DecidableEq

/-- Where `_consume_loop` stands. -/
inductive LoopPhase (Partition : Type) where
  | fetching
  /-- In the `gather` of the event in hand. -/
  | gathering (partition : Partition)
  | committing (partition : Partition)

structure LoopState (Partition : Type) where
  cursors : Partition → Cursor
  phase : LoopPhase Partition
  /-- Tasks that were started and have not ended, whoever waits for them. -/
  running : List (UpdateTask Partition)
  applied : List (UpdateTask Partition)

inductive LoopLabel (Partition : Type) where
  | fetch (partition : Partition)
  /-- A task ends: its update is applied, or it raises. -/
  | finish (task : UpdateTask Partition) (succeeded : Bool)
  | commit (succeeded : Bool)
  /-- The process ends and starts again from the committed offsets. -/
  | restart

section

variable {Partition : Type} [DecidableEq Partition] (log : Partition → Nat → Json)

namespace LoopState

def start : LoopState Partition := ⟨fun _ => Cursor.start, .fetching, [], []⟩

def position (state : LoopState Partition) (partition : Partition) : Nat :=
  (state.cursors partition).position

def setCursor (state : LoopState Partition) (partition : Partition) (cursor : Cursor) :
    LoopState Partition :=
  { state with cursors := Function.update state.cursors partition cursor }

/-- An exception on the message in hand: log it, without a commit. -/
def failed (state : LoopState Partition) (partition : Partition) : LoopState Partition :=
  { state.setCursor partition (state.cursors partition).skip with phase := .fetching }

/-- `consumer.commit()` after a message of `partition`. -/
def committed (state : LoopState Partition) (partition : Partition) : LoopState Partition :=
  { state with
    cursors := Function.update (fun other => (state.cursors other).commitPosition) partition
      (state.cursors partition).commit
    phase := .fetching }

/-- The task ends and its update, when it succeeds, is applied. -/
def ended (state : LoopState Partition) (task : UpdateTask Partition) (succeeded : Bool) :
    LoopState Partition :=
  { state with
    running := state.running.erase task
    applied := if succeeded then task :: state.applied else state.applied }

/-- A task of the message in hand is still running. -/
def waiting (state : LoopState Partition) (partition : Partition) : Bool :=
  state.running.any fun task =>
    task.partition = partition ∧ task.offset = state.position partition

def step (state : LoopState Partition) : LoopLabel Partition → Option (LoopState Partition)
  | .fetch partition =>
      match state.phase with
      | .fetching =>
          match processEvent (log partition (state.position partition)) with
          | none => some (state.failed partition)
          | some [] => some { state with phase := .committing partition }
          | some updates =>
              some
                { state with
                  phase := .gathering partition
                  running := state.running ++ (List.range updates.length).map
                    (⟨partition, state.position partition, ·⟩) }
      | _ => none
  | .finish task succeeded =>
      if task ∈ state.running then
        match state.phase with
        | .gathering partition =>
            if task.partition = partition ∧ task.offset = state.position partition then
              if !succeeded then some ((state.ended task succeeded).failed partition)
              else if (state.ended task succeeded).waiting partition then
                some (state.ended task succeeded)
              else some { state.ended task succeeded with phase := .committing partition }
            else some (state.ended task succeeded)
        | _ => some (state.ended task succeeded)
      else none
  | .commit succeeded =>
      match state.phase with
      | .committing partition =>
          if succeeded then some (state.committed partition)
          else
            some
              { state.setCursor partition (state.cursors partition).advance with
                phase := .fetching }
      | _ => none
  | .restart =>
      some
        { state with
          cursors := fun partition => (state.cursors partition).restart
          phase := .fetching
          running := [] }

/-- Every update that `_process_event` performs for the event has been applied. -/
def Processed (applied : List (UpdateTask Partition)) (partition : Partition) (offset : Nat) :
    Prop :=
  ∀ updates, processEvent (log partition offset) = some updates →
    ∀ index < updates.length, ⟨partition, offset, index⟩ ∈ applied

/-- Every event below a committed position has been processed. -/
def CommittedProcessed (state : LoopState Partition) : Prop :=
  ∀ partition, (state.cursors partition).Covered (Processed log state.applied partition)

/-- A successful commit finds every event that was passed over, in any
partition, processed all the same. -/
def CommitsNoFailure (state : LoopState Partition) : LoopLabel Partition → Prop
  | .commit true => ∀ partition, ∀ offset ∈ (state.cursors partition).skipped,
      Processed log state.applied partition offset
  | _ => True

/-- What is known about the message in hand. -/
def InHand (state : LoopState Partition) : LoopPhase Partition → Prop
  | .fetching => True
  | .gathering partition => ∀ updates,
      processEvent (log partition (state.position partition)) = some updates →
        ∀ index < updates.length, ⟨partition, state.position partition, index⟩ ∈ state.running ∨
          ⟨partition, state.position partition, index⟩ ∈ state.applied
  | .committing partition => Processed log state.applied partition (state.position partition)

structure Inv (state : LoopState Partition) : Prop where
  tracks : ∀ partition, (state.cursors partition).Tracks (Processed log state.applied partition)
  covered : state.CommittedProcessed log
  inHand : state.InHand log state.phase

variable {log} {state next : LoopState Partition}

omit [DecidableEq Partition] in
/-- What was processed stays processed. -/
theorem Processed.mono {applied later : List (UpdateTask Partition)}
    (grows : ∀ task ∈ applied, task ∈ later) {partition : Partition} (offset : Nat)
    (processed : Processed log applied partition offset) :
    Processed log later partition offset :=
  fun updates decoded index below => grows _ (processed updates decoded index below)

omit [DecidableEq Partition] in
/-- Before the first fetch nothing is committed. -/
theorem inv_start : (start : LoopState Partition).Inv log where
  tracks _ := Cursor.tracks_start
  covered _ := Cursor.covered_start
  inHand := trivial

/-- A step that moves one cursor at most, and that forward. -/
theorem Inv.move (inv : state.Inv log) (partition : Partition) {cursor : Cursor}
    (tracks : cursor.Tracks (Processed log state.applied partition))
    (same : cursor.committed = (state.cursors partition).committed) :
    { state.setCursor partition cursor with phase := .fetching }.Inv log where
  tracks other := by
    by_cases itself : other = partition
    · subst itself
      simp only [setCursor, Function.update_self]
      exact tracks
    · simp only [setCursor, Function.update_of_ne itself]
      exact inv.tracks other
  covered other := by
    by_cases itself : other = partition
    · subst itself
      intro offset below
      simp only [setCursor, Function.update_self, same] at below
      exact inv.covered other offset below
    · simp only [setCursor, Function.update_of_ne itself]
      exact inv.covered other
  inHand := trivial

/-- A processing that fails keeps it. -/
theorem Inv.failed (inv : state.Inv log) (partition : Partition) :
    (state.failed partition).Inv log :=
  inv.move partition (inv.tracks partition).skip rfl

omit [DecidableEq Partition] in
/-- A step that leaves the cursors alone needs to look after its message only. -/
theorem Inv.grow (inv : state.Inv log) (cursors : next.cursors = state.cursors)
    (grows : ∀ task ∈ state.applied, task ∈ next.applied)
    (inHand : next.InHand log next.phase) : next.Inv log where
  tracks partition := by
    rw [cursors]
    exact (inv.tracks partition).mono (Processed.mono grows)
  covered partition := by
    rw [cursors]
    exact (inv.covered partition).mono (Processed.mono grows)
  inHand := inHand

/-- `commit()` after a processed message is safe exactly under `CommitsNoFailure`. -/
theorem Inv.commit_iff (inv : state.Inv log) {partition : Partition}
    (processed : Processed log state.applied partition (state.position partition)) :
    (state.committed partition).CommittedProcessed log ↔
      state.CommitsNoFailure log (.commit true) := by
  refine forall_congr' fun other => ?_
  by_cases itself : other = partition
  · subst itself
    simp only [committed, Function.update_self]
    exact (Cursor.covered_commit_iff (inv.tracks other) (inv.covered other)).trans
      (and_iff_left processed)
  · simp only [committed, Function.update_of_ne itself]
    exact Cursor.covered_commitPosition_iff (inv.tracks other) (inv.covered other)

/-- The end of a task undoes no update. -/
theorem ended_applied (task : UpdateTask Partition) (succeeded : Bool) :
    ∀ other ∈ state.applied, other ∈ (state.ended task succeeded).applied := by
  intro other member
  cases succeeded with
  | true => exact List.mem_cons_of_mem _ member
  | false => exact member

/-- No task is lost when one ends, unless it is the one that raised. -/
theorem ended_kept {task other : UpdateTask Partition} {succeeded : Bool}
    (present : other ∈ state.running ∨ other ∈ state.applied)
    (raised : other = task → succeeded = true) :
    other ∈ (state.ended task succeeded).running ∨
      other ∈ (state.ended task succeeded).applied := by
  rcases present with running | applied
  · by_cases itself : other = task
    · subst itself
      right
      rw [raised rfl]
      exact List.mem_cons_self
    · exact .inl ((List.mem_erase_of_ne itself).mpr running)
  · exact .inr (ended_applied task succeeded other applied)

/-- When no task of the message in hand runs any more, it is processed. -/
theorem processed_of_not_waiting {partition : Partition}
    (inHand : state.InHand log (.gathering partition)) (done : state.waiting partition = false) :
    Processed log state.applied partition (state.position partition) := by
  intro updates decoded index below
  rcases inHand updates decoded index below with running | applied
  · have idle := List.any_eq_false.mp done _ running
    simp at idle
  · exact applied

/-- A task that ends keeps the invariant. -/
theorem Inv.finish (inv : state.Inv log) {task : UpdateTask Partition} {succeeded : Bool}
    (step : state.step log (.finish task succeeded) = some next) : next.Inv log := by
  have inHand := inv.inHand
  have grows := state.ended_applied task succeeded
  simp only [LoopState.step] at step
  split at step
  · split at step
    · rename_i partition phase
      rw [phase] at inHand
      split at step
      · rename_i current
        split at step
        · cases step
          have dropped : { state.ended task succeeded with phase := .fetching }.Inv log :=
            inv.grow rfl grows trivial
          exact dropped.failed partition
        · rename_i unraised
          have kept : (state.ended task succeeded).InHand log (.gathering partition) :=
            fun updates decoded index below =>
              ended_kept (inHand updates decoded index below) fun _ => by simpa using unraised
          split at step
          · cases step
            refine inv.grow rfl grows ?_
            rw [show (state.ended task succeeded).phase = .gathering partition from phase]
            exact kept
          · rename_i done
            cases step
            exact inv.grow rfl grows (processed_of_not_waiting kept (Bool.eq_false_iff.mpr done))
      · -- A task of an earlier message, whose failure nobody waits for any more.
        rename_i foreign
        cases step
        refine inv.grow rfl grows ?_
        rw [show (state.ended task succeeded).phase = .gathering partition from phase]
        intro updates decoded index below
        refine ended_kept (inHand updates decoded index below) fun same => ?_
        rw [← same] at foreign
        exact absurd ⟨rfl, rfl⟩ foreign
    · rename_i notGathering
      cases step
      refine inv.grow rfl grows ?_
      change (state.ended task succeeded).InHand log state.phase
      cases phase : state.phase with
      | fetching => trivial
      | gathering partition => exact (notGathering partition phase).elim
      | committing partition =>
          rw [phase] at inHand
          exact Processed.mono grows _ inHand
  · cases step

/-- Every step that commits no failure keeps it. -/
theorem Inv.step (inv : state.Inv log) {label : LoopLabel Partition}
    (guard : state.CommitsNoFailure log label) (step : state.step log label = some next) :
    next.Inv log := by
  have inHand := inv.inHand
  cases label with
  | fetch partition =>
      simp only [LoopState.step] at step
      split at step
      · split at step
        · cases step
          exact inv.failed partition
        · rename_i decoded
          cases step
          refine inv.grow rfl (fun _ member => member) fun updates also index below => ?_
          have same := decoded.symm.trans also
          cases same
          cases below
        · rename_i updates _ decoded
          cases step
          refine inv.grow rfl (fun _ member => member) fun others also index below => .inl ?_
          have same := decoded.symm.trans also
          cases same
          exact List.mem_append_right _ (List.mem_map.mpr ⟨index, List.mem_range.mpr below, rfl⟩)
      · cases step
  | finish task succeeded => exact inv.finish step
  | commit succeeded =>
      simp only [LoopState.step] at step
      split at step
      · rename_i partition phase
        rw [phase] at inHand
        split at step
        · rename_i committed
          cases step
          rw [committed] at guard
          refine ⟨fun other => ?_, (inv.commit_iff inHand).mpr guard, trivial⟩
          by_cases itself : other = partition
          · subst itself
            simp only [LoopState.committed, Function.update_self]
            exact (inv.tracks other).commit
          · simp only [LoopState.committed, Function.update_of_ne itself]
            exact (inv.tracks other).commitPosition
        · cases step
          exact inv.move partition ((inv.tracks partition).advance inHand) rfl
      · cases step
  | restart =>
      cases step
      exact ⟨fun _ => Cursor.tracks_restart _, inv.covered, trivial⟩

/-- A commit that keeps the property is one that the condition allows. -/
theorem Inv.needed (inv : state.Inv log) {label : LoopLabel Partition}
    (step : state.step log label = some next) (property : next.CommittedProcessed log) :
    state.CommitsNoFailure log label := by
  have inHand := inv.inHand
  cases label with
  | commit succeeded =>
      cases succeeded with
      | false => trivial
      | true =>
          simp only [LoopState.step] at step
          split at step
          · rename_i partition phase
            rw [phase] at inHand
            cases step
            exact (inv.commit_iff inHand).mp property
          · cases step
  | _ => trivial

end LoopState

/-- `AuthEventConsumer`, with its restarts, as a machine. -/
def authEventMachine : Machine (LoopState Partition) (LoopLabel Partition) where
  step := LoopState.step log

variable {log}

/-- In every run over any number of partitions, every committed event is
processed exactly when every commit finds processed what was passed over. -/
theorem committedProcessed_iff (labels : List (LoopLabel Partition)) :
    (authEventMachine log).Along (·.CommittedProcessed log) .start labels ↔
      (authEventMachine log).Guarded (·.CommitsNoFailure log) .start labels :=
  Machine.along_iff_guarded (fun _ inv => LoopState.Inv.covered inv)
    (fun inv guard step => LoopState.Inv.step inv guard step)
    (fun inv step property => LoopState.Inv.needed inv step property)
    labels LoopState.inv_start

end

/-- A failed login from one address. -/
def failedLogin : Json :=
  .obj [("event_type", .str "auth.user.login_failed"), ("ip_address", .str "203.0.113.7")]

/-- The first update of event 0 raises; event 1 is processed and committed. -/
def raisedThenCommitted : List (LoopLabel Unit) :=
  [.fetch (), .finish ⟨(), 0, 0⟩ false, .fetch ()] ++
    (List.range 8).map (fun index => .finish ⟨(), 1, index⟩ true) ++ [.commit true]

/-- The loop as it is commits a message that it did not process. -/
theorem committedProcessed_fails :
    ¬ ∀ labels, (authEventMachine fun (_ : Unit) _ => failedLogin).Along
      (·.CommittedProcessed fun _ _ => failedLogin) .start labels := by
  intro always
  have run : ((authEventMachine fun (_ : Unit) _ => failedLogin).exec .start
      raisedThenCommitted).map (fun state => ((state.cursors ()).committed,
        decide (⟨(), 0, 0⟩ ∈ state.applied))) = some (2, false) := by decide +kernel
  obtain ⟨state, reached, observed⟩ := Option.map_eq_some_iff.mp run
  obtain ⟨committed, unapplied⟩ := Prod.mk.inj observed
  have covered := (always raisedThenCommitted).final reached () 0 (by omega)
  obtain ⟨updates, decoded, count⟩ : ∃ updates, processEvent failedLogin = some updates ∧
      updates.length = 8 := ⟨_, rfl, rfl⟩
  exact of_decide_eq_false unapplied (covered updates decoded 0 (by omega))

end Sentinel.Risk
