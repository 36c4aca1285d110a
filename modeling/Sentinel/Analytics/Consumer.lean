import Sentinel.Analytics.BatchEngine
import Sentinel.Semantics.CommitLog
import Sentinel.Semantics.Machine

/-!
# The analytics Kafka consumer

`Consumer.Start` over one partition: fetch, decode, hand the event to the batch
engine, and commit the message's offset once `AddEvent` has returned nil. A
failed `AddEvent` is logged and the loop goes on with the next message, whose
commit then covers the failed one as well. A group that has committed nothing
starts at the end of the partition (`kafka.LastOffset`), and its first commit
covers all that was there before. `committedDurable_iff` says exactly in which
runs this does no harm.
-/

namespace Sentinel.Analytics

open Sentinel.Semantics

/-- Who waits on a `done` channel: this consumer for one of its messages, or
any other caller of `AddEvent` (the other consumers, `POST /ingest`). -/
inductive Caller where
  | consumer (offset : Nat)
  | other (call : Nat)
deriving DecidableEq, Repr

/-- Where the loop of `Consumer.Start` stands. -/
inductive ConsumerPhase (Event : Type) where
  | fetching
  /-- In the first `select` of `AddEvent`. -/
  | adding (event : Event)
  /-- In the second `select` of `AddEvent`. -/
  | awaiting
  | committing

structure ConsumerState (Event : Type) where
  engine : Engine Caller Event
  cursor : Cursor
  phase : ConsumerPhase Event

inductive ConsumerLabel (Event : Type) where
  | fetch
  | send
  | handoff (worker : Nat)
  /-- `persistCtx` ends (30 s, or shutdown) or the engine's own context does. -/
  | contextDone
  | doneReceived
  | commit (succeeded : Bool)
  /-- The process ends and another starts, with the partition's end at `last`. -/
  | restart (workers last : Nat)
  | engine (label : EngineLabel Caller Event)

section Consumer

variable {Payload Event : Type} (decode : Payload → Option Event) (partition : Nat → Payload)

namespace ConsumerState

/-- `AddEvent` returned an error: log it and `continue`, without a commit. -/
def persistFailed (state : ConsumerState Event) : ConsumerState Event :=
  { state with cursor := state.cursor.skip, phase := .fetching }

/-- The caller puts its event on the channel and waits. -/
def enqueued (state : ConsumerState Event) (engine : Engine Caller Event) :
    ConsumerState Event :=
  { state with engine := engine, phase := .awaiting }

/-- One step of the loop or of the engine it shares. `decode` is
`json.Unmarshal` into a `models.Event` followed by the fill-in of its fields. -/
def step (state : ConsumerState Event) : ConsumerLabel Event → Option (ConsumerState Event)
  | .fetch =>
      match state.phase with
      | .fetching =>
          match decode (partition state.cursor.position) with
          | none => some { state with phase := .committing }
          | some event => some { state with phase := .adding event }
      | _ => none
  | .send =>
      match state.phase with
      | .adding event =>
          (state.engine.step (.send (.consumer state.cursor.position) event)).map state.enqueued
      | _ => none
  | .handoff worker =>
      match state.phase with
      | .adding event =>
          (state.engine.step
            (.handoff (.consumer state.cursor.position) event worker)).map state.enqueued
      | _ => none
  | .contextDone =>
      match state.phase with
      | .adding _ | .awaiting => some state.persistFailed
      | _ => none
  | .doneReceived =>
      match state.phase, state.engine.done (.consumer state.cursor.position) with
      | .awaiting, none :: _ => some { state with phase := .committing }
      | .awaiting, some _ :: _ => some state.persistFailed
      | _, _ => none
  | .commit succeeded =>
      match state.phase with
      | .committing =>
          some { state with
            cursor := if succeeded then state.cursor.commit else state.cursor.advance
            phase := .fetching }
      | _ => none
  | .restart workers last =>
      some
        ⟨state.engine.restart workers, state.cursor.resumeAt last, .fetching⟩
  | .engine label =>
      match label.item? with
      | some ⟨_, .consumer _⟩ => none
      | _ => (state.engine.step label).map fun engine => { state with engine := engine }

/-- A group that has committed nothing, before its first fetch: `StartOffset` is
`kafka.LastOffset`, and the partition ends at `last`. -/
def start (batchSize workers last : Nat) : ConsumerState Event :=
  ⟨Engine.start batchSize workers, Cursor.startAt last, .fetching⟩

/-- The message did not decode, or its event is in a batch whose `InsertBatch`
returned nil. -/
def Durable (engine : Engine Caller Event) (offset : Nat) : Prop :=
  ∀ event, decode (partition offset) = some event → engine.Stored ⟨event, .consumer offset⟩

/-- Every message below the committed offset is durable. -/
def CommittedDurable (state : ConsumerState Event) : Prop :=
  state.cursor.Covered (Durable decode partition state.engine)

/-- A successful commit is only made when every message that was passed over, be it
that its `AddEvent` failed or that it stood before the start, is stored by then. -/
def CommitsNoFailure (state : ConsumerState Event) : ConsumerLabel Event → Prop
  | .commit true => ∀ offset ∈ state.cursor.skipped, Durable decode partition state.engine offset
  | _ => True

end ConsumerState

/-- `Consumer.Start` and its engine as a machine. -/
def consumerMachine : Machine (ConsumerState Event) (ConsumerLabel Event) where
  step := ConsumerState.step decode partition

namespace ConsumerState

/-- A queued item of this consumer carries the event of its message. -/
def Own (item : QueuedEvent Caller Event) : Prop :=
  ∀ offset, item.done = .consumer offset → decode (partition offset) = some item.event

/-- What is known about the message in hand. -/
def InHand (state : ConsumerState Event) : ConsumerPhase Event → Prop
  | .fetching => True
  | .adding event => decode (partition state.cursor.position) = some event
  | .awaiting => True
  | .committing => Durable decode partition state.engine state.cursor.position

/-- The invariant that guarded runs keep. -/
structure Inv (state : ConsumerState Event) : Prop where
  engine : state.engine.Sound (Own decode partition)
  tracks : state.cursor.Tracks (Durable decode partition state.engine)
  covered : state.CommittedDurable decode partition
  inHand : state.InHand decode partition state.phase

variable {decode partition} {state : ConsumerState Event}

/-- What is durable stays so. -/
theorem Durable.step {engine next : Engine Caller Event} {label : EngineLabel Caller Event}
    (step : engine.step label = some next) {offset : Nat}
    (durable : Durable decode partition engine offset) : Durable decode partition next offset :=
  fun event decoded => (durable event decoded).step step

/-- Nothing is in hand at the start, and everything before it is committed. -/
theorem inv_start (batchSize workers last : Nat) :
    (start batchSize workers last : ConsumerState Event).Inv decode partition where
  engine := .start batchSize workers
  tracks := Cursor.tracks_startAt last
  covered := Cursor.covered_startAt last
  inHand := trivial

/-- Giving up on the message in hand moves it to the skipped ones. -/
theorem Inv.persistFailed (inv : state.Inv decode partition) :
    state.persistFailed.Inv decode partition where
  engine := inv.engine
  tracks := inv.tracks.skip
  covered := inv.covered
  inHand := trivial

/-- A step of the engine that the loop is not itself waiting to make. -/
theorem Inv.engineStep (inv : state.Inv decode partition) {label : EngineLabel Caller Event}
    {engine : Engine Caller Event} (step : state.engine.step label = some engine)
    (admitted : ∀ item, label.item? = some item → Own decode partition item)
    {phase : ConsumerPhase Event}
    (inHand : { state with engine := engine }.InHand decode partition phase) :
    { state with engine := engine, phase := phase }.Inv decode partition where
  engine := inv.engine.step admitted step
  tracks := inv.tracks.mono fun _ => Durable.step step
  covered := inv.covered.mono fun _ => Durable.step step
  inHand := inHand

/-- What the loop knows about its message survives the engine's steps. -/
theorem InHand.step {label : EngineLabel Caller Event} {engine : Engine Caller Event}
    (step : state.engine.step label = some engine) {phase : ConsumerPhase Event}
    (inHand : state.InHand decode partition phase) :
    { state with engine := engine }.InHand decode partition phase := by
  cases phase with
  | fetching => trivial
  | adding event => exact inHand
  | awaiting => trivial
  | committing => exact Durable.step step inHand

/-- A nil answer means that the message in hand is stored. -/
theorem Inv.answered (inv : state.Inv decode partition) {offset : Nat}
    (answered : none ∈ state.engine.done (.consumer offset)) :
    Durable decode partition state.engine offset := by
  intro event decoded
  obtain ⟨item, same, stored⟩ := inv.engine.answered _ answered
  have own : decode (partition offset) = some item.event :=
    inv.engine.stored item stored offset same
  rw [own] at decoded
  obtain ⟨itemEvent, itemDone⟩ := item
  cases same
  cases decoded
  exact stored

/-- Committing a durable message in hand is safe exactly under `CommitsNoFailure`. -/
theorem Inv.commit_iff (inv : state.Inv decode partition)
    (durable : Durable decode partition state.engine state.cursor.position) :
    { state with cursor := state.cursor.commit, phase := .fetching }.CommittedDurable
        decode partition ↔
      state.CommitsNoFailure decode partition (.commit true) :=
  (Cursor.covered_commit_iff inv.tracks inv.covered).trans (and_iff_left durable)

/-- A step that commits past no failure keeps what is committed durable. -/
theorem Inv.step (inv : state.Inv decode partition) {label : ConsumerLabel Event}
    (guard : state.CommitsNoFailure decode partition label) {next : ConsumerState Event}
    (step : state.step decode partition label = some next) : next.Inv decode partition := by
  obtain ⟨engine, cursor, phase⟩ := state
  have inHand := inv.inHand
  cases label with
  | fetch =>
      simp only [ConsumerState.step] at step
      split at step
      · split at step
        · rename_i undecoded
          cases step
          refine ⟨inv.engine, inv.tracks, inv.covered, fun event decoded => ?_⟩
          rw [undecoded] at decoded
          cases decoded
        · rename_i event decoded
          cases step
          exact ⟨inv.engine, inv.tracks, inv.covered, decoded⟩
      · cases step
  | send =>
      simp only [ConsumerState.step] at step
      split at step
      · rename_i event
        obtain ⟨after, sent, rfl⟩ := Option.map_eq_some_iff.mp step
        refine inv.engineStep sent ?_ trivial
        rintro _ ⟨⟩ offset ⟨⟩
        exact inHand
      · cases step
  | handoff worker =>
      simp only [ConsumerState.step] at step
      split at step
      · rename_i event
        obtain ⟨after, sent, rfl⟩ := Option.map_eq_some_iff.mp step
        refine inv.engineStep sent ?_ trivial
        rintro _ ⟨⟩ offset ⟨⟩
        exact inHand
      · cases step
  | contextDone =>
      simp only [ConsumerState.step] at step
      split at step
      · cases step
        exact inv.persistFailed
      · cases step
        exact inv.persistFailed
      · cases step
  | doneReceived =>
      simp only [ConsumerState.step] at step
      split at step
      · rename_i answers
        cases step
        exact ⟨inv.engine, inv.tracks, inv.covered,
          inv.answered (answers ▸ List.mem_cons_self)⟩
      · cases step
        exact inv.persistFailed
      · cases step
  | commit succeeded =>
      simp only [ConsumerState.step] at step
      split at step
      · cases step
        cases succeeded with
        | true => exact ⟨inv.engine, inv.tracks.commit, (inv.commit_iff inHand).mpr guard, trivial⟩
        | false => exact ⟨inv.engine, inv.tracks.advance inHand, inv.covered, trivial⟩
      · cases step
  | restart workers last =>
      cases step
      exact ⟨inv.engine.restart workers, Cursor.tracks_resumeAt cursor last,
        inv.covered.resumeAt last, trivial⟩
  | engine label =>
      simp only [ConsumerState.step] at step
      split at step
      · cases step
      · rename_i foreign
        obtain ⟨after, stepped, rfl⟩ := Option.map_eq_some_iff.mp step
        refine inv.engineStep stepped ?_ (.step stepped inHand)
        -- An item of another caller makes no promise about this partition.
        rintro ⟨event, done⟩ item offset ⟨⟩
        exact absurd item (foreign event offset)

/-- A commit that keeps the property is one that the condition allows. -/
theorem Inv.needed (inv : state.Inv decode partition) {label : ConsumerLabel Event}
    {next : ConsumerState Event} (step : state.step decode partition label = some next)
    (property : next.CommittedDurable decode partition) :
    state.CommitsNoFailure decode partition label := by
  obtain ⟨engine, cursor, phase⟩ := state
  have inHand := inv.inHand
  cases label with
  | commit succeeded =>
      cases succeeded with
      | false => trivial
      | true =>
          simp only [ConsumerState.step] at step
          split at step
          · cases step
            exact (inv.commit_iff inHand).mp property
          · cases step
  | _ => trivial

end ConsumerState

/-- In every run of the consumer, restarts included, the committed offset stays behind
durable messages at every point exactly when no commit is made over a message that was
passed over and is still not stored. -/
theorem committedDurable_iff (batchSize workers last : Nat) (labels : List (ConsumerLabel Event)) :
    (consumerMachine decode partition).Along (·.CommittedDurable decode partition)
        (.start batchSize workers last) labels ↔
      (consumerMachine decode partition).Guarded (·.CommitsNoFailure decode partition)
        (.start batchSize workers last) labels :=
  Machine.along_iff_guarded (fun _ inv => ConsumerState.Inv.covered inv)
    (fun inv guard step => ConsumerState.Inv.step inv guard step)
    (fun inv step property => ConsumerState.Inv.needed inv step property)
    labels (ConsumerState.inv_start batchSize workers last)

end Consumer

/-- Message 0 exhausts its three insert attempts, message 1 is stored, and the
commit of message 1 acknowledges both. -/
def failedThenStored : List (ConsumerLabel Nat) :=
  [.fetch, .send, .engine (.receive 0), .engine (.tick 0),
    .engine (.insertBatch 0 (some .insertFailed)), .engine (.insertBatch 0 (some .insertFailed)),
    .engine (.insertBatch 0 (some .insertFailed)), .engine (.answer 0), .doneReceived,
    .fetch, .send, .engine (.receive 0), .engine (.tick 0),
    .engine (.insertBatch 0 none), .engine (.answer 0), .doneReceived, .commit true]

/-- With the shipped engine (batches of 1000, one worker) an acknowledged
message can be missing from every stored batch. -/
theorem committedDurable_fails :
    ¬ ∀ labels, (consumerMachine some (id : Nat → Nat)).Along
      (·.CommittedDurable some id) (.start 1000 1 0) labels := by
  intro always
  obtain ⟨state, run, committed, inserted⟩ : ∃ state,
      (consumerMachine some id).exec (.start 1000 1 0) failedThenStored = some state ∧
        state.cursor.committed = 2 ∧ state.engine.inserted = [[⟨1, .consumer 1⟩]] :=
    ⟨_, rfl, rfl, rfl⟩
  have covered : state.CommittedDurable some id := (always failedThenStored).final run
  obtain ⟨batch, member, inside⟩ := covered 0 (by omega) 0 rfl
  simp [inserted] at member
  simp [member] at inside

end Sentinel.Analytics
