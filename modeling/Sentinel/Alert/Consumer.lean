import Sentinel.Alert.Dispatcher
import Sentinel.Alert.Redis
import Sentinel.Semantics.CommitLog
import Sentinel.Semantics.Machine

/-!
# The alert consumer

`KafkaConsumer.Start` over one partition of `risk.decisions`: fetch, decode, ask
Redis, dispatch, commit. A Redis error passes a message over, and several other
ways out of the loop commit a decision that nobody was told about.
`committedSettled_iff` says in which runs none of them loses one.
-/

namespace Sentinel.Alert

open Sentinel.Wire Sentinel.Semantics

/-- Why the message in hand is to be committed. -/
inductive Exit where
  | undecodable
  | missingID
  | noWebhook
  | duplicate
  | limited
  | dispatched (ending : DispatchEnd)
deriving DecidableEq, Repr

/-- Nothing in this way out of the loop sees to it that the decision was told. -/
def Exit.careless : Exit → Bool
  | .missingID | .duplicate | .dispatched .unpublished | .dispatched .cancelled => true
  | _ => false

/-- Where the loop of `Start` stands. -/
inductive ConsumerPhase where
  | fetching
  | deciding (alert : AlertEvent)
  | dispatching (alert : AlertEvent) (phase : DispatchPhase)
  | committing (exit : Exit)

structure AlertState where
  redis : AlertRedis
  cursor : Cursor
  phase : ConsumerPhase
  /-- The alerts that the webhook answered with a 2xx status. -/
  delivered : List AlertEvent
  /-- Keys and messages on the dead-letter topic. -/
  deadLetters : List (String × Json)
  /-- Offsets of messages that were refused because of the rate limit. -/
  limited : List Nat

/-- How a run of the Lua script comes back. -/
inductive RedisReply where
  | answered
  /-- An error, before or after Redis executed the script. -/
  | failed (executed : Bool)
deriving DecidableEq, Repr

inductive AlertLabel where
  | fetch
  | allowAlert (now : Millis) (reply : RedisReply)
  | dispatch (label : DispatchLabel) (now : Int)
  | commit (succeeded : Bool)
  /-- A crash, a cancelled fetch or a rebalance, and the next start. -/
  | restart
deriving DecidableEq, Repr

section

-- `webhook` is the configured URL; `none` in the partition is a message that is
-- not JSON.
variable (webhook : String) (partition : Nat → Option Json)

/-- `json.Unmarshal(m.Value, &alert)` -/
def decode (offset : Nat) : Option AlertEvent := (partition offset).bind AlertEvent.unmarshal

namespace AlertState

def start (redis : AlertRedis) : AlertState := ⟨redis, Cursor.start, .fetching, [], [], []⟩

/-- What the dispatcher's steps leave in the world. -/
def sent (state : AlertState) (alert : AlertEvent) (phase : DispatchPhase) (label : DispatchLabel)
    (now : Int) : AlertState :=
  match phase, label with
  | _, .request outcome =>
      if outcome.succeeded then { state with delivered := alert :: state.delivered } else state
  | .deadLettering reason _, .publish true =>
      { state with
        deadLetters := (alert.alertID, deadLetter alert reason now) :: state.deadLetters }
  | _, _ => state

/-- One step of the loop. -/
def step (state : AlertState) : AlertLabel → Option AlertState
  | .fetch =>
      match state.phase with
      | .fetching =>
          match decode partition state.cursor.position with
          | none => some { state with phase := .committing .undecodable }
          | some alert =>
              if alert.alertID = "" then some { state with phase := .committing .missingID }
              else some { state with phase := .deciding alert.withAction }
      | _ => none
  | .allowAlert now reply =>
      match state.phase with
      | .deciding alert =>
          let (verdict, redis) := Alert.allowAlert alert.alertID alert.userID now state.redis
          match reply with
          | .failed executed =>
              some
                { state with
                  redis := if executed then redis else state.redis
                  cursor := state.cursor.skip
                  phase := .fetching }
          | .answered =>
              match verdict with
              | .allowed =>
                  if webhook = "" then
                    some { state with redis := redis, phase := .committing .noWebhook }
                  else
                    some
                      { state with
                        redis := redis
                        phase := .dispatching { alert with webhook := webhook } .preparing }
              | .duplicate => some { state with redis := redis, phase := .committing .duplicate }
              | .limited =>
                  some
                    { state with
                      redis := redis
                      phase := .committing .limited
                      limited := state.cursor.position :: state.limited }
      | _ => none
  | .dispatch label now =>
      match state.phase with
      | .dispatching alert phase =>
          match phase.step label with
          | none => none
          | some (.returned _) =>
              some
                { state.sent alert phase label now with
                  phase := .committing (.dispatched label.ending) }
          | some next =>
              some { state.sent alert phase label now with phase := .dispatching alert next }
      | _ => none
  | .commit succeeded =>
      match state.phase with
      | .committing exit =>
          some
            { state with
              cursor :=
                if succeeded then state.cursor.commit
                else if exit.careless then state.cursor.skip else state.cursor.advance
              phase := .fetching }
      | _ => none
  | .restart => some { state with cursor := state.cursor.restart, phase := .fetching }

/-- Somebody was told of the decision: the webhook, or the readers of the
dead-letter topic. -/
def Told (state : AlertState) (alertID : String) : Prop :=
  (∃ alert ∈ state.delivered, alert.alertID = alertID) ∨
    ∃ letter ∈ state.deadLetters, letter.1 = alertID

/-- What is owed to a message: it is not JSON of a decision, its
decision was told, it was refused for the rate limit, or there is no webhook. -/
def Settled (state : AlertState) (offset : Nat) : Prop :=
  webhook = "" ∨ ∀ alert, decode partition offset = some alert →
    state.Told alert.alertID ∨ offset ∈ state.limited

/-- Every message below the committed offset is settled. -/
def CommittedSettled (state : AlertState) : Prop :=
  state.cursor.Covered (state.Settled webhook partition)

/-- A commit is only made when every message that was passed over, and the one
in hand if it left the loop carelessly, is settled all the same. -/
def CommitsNothingUntold (state : AlertState) : AlertLabel → Prop
  | .commit true =>
      (∀ offset ∈ state.cursor.skipped, state.Settled webhook partition offset) ∧
        ∀ exit, state.phase = .committing exit → exit.careless →
          state.Settled webhook partition state.cursor.position
  | _ => True

/-- What is known about the message in hand. -/
def InHand (state : AlertState) : ConsumerPhase → Prop
  | .fetching => True
  | .deciding alert | .dispatching alert _ =>
      ∃ read, decode partition state.cursor.position = some read ∧ read.alertID = alert.alertID
  | .committing exit =>
      exit.careless = false → state.Settled webhook partition state.cursor.position

structure Inv (state : AlertState) : Prop where
  tracks : state.cursor.Tracks (state.Settled webhook partition)
  covered : state.CommittedSettled webhook partition
  inHand : state.InHand webhook partition state.phase

end AlertState

/-- `KafkaConsumer.Start`, with its restarts, as a machine. -/
def alertMachine : Machine AlertState AlertLabel where
  step := AlertState.step webhook partition

end

namespace AlertState

variable {webhook : String} {partition : Nat → Option Json} {state next : AlertState}

/-- The world's record of what was told and refused only grows. -/
structure Grows (state next : AlertState) : Prop where
  delivered : ∀ alert ∈ state.delivered, alert ∈ next.delivered
  deadLetters : ∀ letter ∈ state.deadLetters, letter ∈ next.deadLetters
  limited : ∀ offset ∈ state.limited, offset ∈ next.limited

/-- What is settled stays so while the records grow. -/
theorem Grows.settled (grows : Grows state next) (offset : Nat)
    (settled : state.Settled webhook partition offset) :
    next.Settled webhook partition offset := by
  refine settled.imp id fun told alert decoded => ?_
  rcases told alert decoded with (⟨same, member, equal⟩ | ⟨letter, member, equal⟩) | member
  · exact .inl (.inl ⟨same, grows.delivered same member, equal⟩)
  · exact .inl (.inr ⟨letter, grows.deadLetters letter member, equal⟩)
  · exact .inr (grows.limited offset member)

/-- A step of a dispatch only adds to the records. -/
theorem sent_grows (state : AlertState) (alert : AlertEvent) (phase : DispatchPhase)
    (label : DispatchLabel) (now : Int) : Grows state (state.sent alert phase label now) := by
  unfold sent
  split
  · split
    · exact ⟨fun _ member => List.mem_cons_of_mem _ member, fun _ member => member,
        fun _ member => member⟩
    · exact ⟨fun _ member => member, fun _ member => member, fun _ member => member⟩
  · exact ⟨fun _ member => member, fun _ member => List.mem_cons_of_mem _ member,
      fun _ member => member⟩
  · exact ⟨fun _ member => member, fun _ member => member, fun _ member => member⟩

@[simp] theorem sent_cursor (state : AlertState) (alert : AlertEvent) (phase : DispatchPhase)
    (label : DispatchLabel) (now : Int) :
    (state.sent alert phase label now).cursor = state.cursor := by
  unfold sent
  split
  · split <;> rfl
  · rfl
  · rfl

/-- A dispatch that ends in a delivery or on the dead-letter topic has told. -/
theorem told_of_returned {alert : AlertEvent} {phase : DispatchPhase} {label : DispatchLabel}
    {error : Option DispatchError} (returned : phase.step label = some (.returned error))
    (careful : (Exit.dispatched label.ending).careless = false) (now : Int) :
    (state.sent alert phase label now).Told alert.alertID := by
  rcases DispatchPhase.step_returned returned with
    ⟨outcome, rfl, succeeded, -⟩ | ⟨succeeded, reason, cause, rfl, rfl, -⟩ | ⟨rfl, -⟩
  · refine .inl ⟨alert, ?_, rfl⟩
    simp only [sent, succeeded, if_true]
    exact List.mem_cons_self
  · cases succeeded with
    | true => exact .inr ⟨_, List.mem_cons_self, rfl⟩
    | false => cases careful
  · cases careful

/-- At the start everything committed is settled, for there is nothing. -/
theorem inv_start (redis : AlertRedis) : (start redis).Inv webhook partition where
  tracks := Cursor.tracks_start
  covered := Cursor.covered_start
  inHand := trivial

/-- A step that leaves the cursor alone needs to look after its message only. -/
theorem Inv.grow (inv : state.Inv webhook partition) (grows : Grows state next)
    (same : next.cursor = state.cursor) (inHand : next.InHand webhook partition next.phase) :
    next.Inv webhook partition where
  tracks := by
    rw [same]
    exact inv.tracks.mono grows.settled
  covered := by
    rw [CommittedSettled, same]
    exact inv.covered.mono grows.settled
  inHand := inHand

/-- Committing the message in hand is safe exactly under `CommitsNothingUntold`. -/
theorem Inv.commit_iff (inv : state.Inv webhook partition) {exit : Exit}
    (phase : state.phase = .committing exit) :
    { state with cursor := state.cursor.commit, phase := .fetching }.CommittedSettled
        webhook partition ↔
      state.CommitsNothingUntold webhook partition (.commit true) := by
  have inHand := inv.inHand
  rw [phase] at inHand
  refine (Cursor.covered_commit_iff inv.tracks inv.covered).trans (and_congr_right fun _ => ?_)
  constructor
  · intro settled _ _ _
    exact settled
  · intro guard
    cases careless : exit.careless with
    | true => exact guard exit phase careless
    | false => exact inHand careless

/-- A step that commits past nothing untold keeps what is committed settled. -/
theorem Inv.step (inv : state.Inv webhook partition) {label : AlertLabel}
    (guard : state.CommitsNothingUntold webhook partition label)
    (step : state.step webhook partition label = some next) : next.Inv webhook partition := by
  have inHand := inv.inHand
  have unchanged : ∀ {after : AlertState}, after.delivered = state.delivered →
      after.deadLetters = state.deadLetters → after.limited = state.limited →
      Grows state after := by
    intro after delivered deadLetters limited
    exact ⟨by simp [delivered], by simp [deadLetters], by simp [limited]⟩
  cases label with
  | fetch =>
      simp only [AlertState.step] at step
      split at step
      · split at step
        · rename_i undecoded
          cases step
          refine inv.grow (unchanged rfl rfl rfl) rfl fun _ => .inr fun alert decoded => ?_
          rw [undecoded] at decoded
          cases decoded
        · rename_i alert decoded
          split at step
          · cases step
            exact inv.grow (unchanged rfl rfl rfl) rfl nofun
          · cases step
            exact inv.grow (unchanged rfl rfl rfl) rfl
              ⟨alert, decoded, alert.withAction_alertID.symm⟩
      · cases step
  | allowAlert now reply =>
      simp only [AlertState.step] at step
      split at step
      · rename_i alert phase
        rw [phase] at inHand
        split at step
        · cases step
          exact ⟨inv.tracks.skip, inv.covered, trivial⟩
        · split at step
          · split at step
            · rename_i unconfigured
              cases step
              exact inv.grow (unchanged rfl rfl rfl) rfl fun _ => .inl unconfigured
            · cases step
              exact inv.grow (unchanged rfl rfl rfl) rfl inHand
          · cases step
            exact inv.grow (unchanged rfl rfl rfl) rfl nofun
          · cases step
            refine inv.grow ⟨fun _ member => member, fun _ member => member,
              fun _ member => List.mem_cons_of_mem _ member⟩ rfl fun _ => .inr fun _ _ => ?_
            exact .inr List.mem_cons_self
      · cases step
  | dispatch label now =>
      simp only [AlertState.step] at step
      split at step
      · rename_i alert phase before
        rw [before] at inHand
        obtain ⟨read, decoded, same⟩ := inHand
        have grows := state.sent_grows alert phase label now
        split at step
        · cases step
        · rename_i error returned
          cases step
          refine inv.grow ⟨grows.delivered, grows.deadLetters, grows.limited⟩
            (state.sent_cursor ..) fun careful => .inr fun other also => .inl ?_
          rw [sent_cursor, decoded] at also
          cases also
          rw [same]
          exact told_of_returned returned careful now
        · cases step
          refine inv.grow ⟨grows.delivered, grows.deadLetters, grows.limited⟩
            (state.sent_cursor ..) ⟨read, ?_, same⟩
          rw [sent_cursor]
          exact decoded
      · cases step
  | commit succeeded =>
      simp only [AlertState.step] at step
      split at step
      · rename_i exit phase
        rw [phase] at inHand
        cases step
        cases succeeded with
        | true => exact ⟨inv.tracks.commit, (inv.commit_iff phase).mpr guard, trivial⟩
        | false =>
            cases careless : exit.careless with
            | true => exact ⟨inv.tracks.skip, inv.covered, trivial⟩
            | false => exact ⟨inv.tracks.advance (inHand careless), inv.covered, trivial⟩
      · cases step
  | restart =>
      cases step
      exact ⟨Cursor.tracks_restart _, inv.covered, trivial⟩

/-- A commit that keeps the property is one that the condition allows. -/
theorem Inv.needed (inv : state.Inv webhook partition) {label : AlertLabel}
    (step : state.step webhook partition label = some next)
    (property : next.CommittedSettled webhook partition) :
    state.CommitsNothingUntold webhook partition label := by
  cases label with
  | commit succeeded =>
      cases succeeded with
      | false => trivial
      | true =>
          simp only [AlertState.step] at step
          split at step
          · rename_i exit phase
            cases step
            exact (inv.commit_iff phase).mp property
          · cases step
  | _ => trivial

end AlertState

/-- In every run of the alert service, crashes and restarts included, no
decision is lost exactly when every commit finds settled what was passed over
and what left the loop carelessly. -/
theorem committedSettled_iff (webhook : String) (partition : Nat → Option Json)
    (redis : AlertRedis) (labels : List AlertLabel) :
    (alertMachine webhook partition).Along (·.CommittedSettled webhook partition) (.start redis)
        labels ↔
      (alertMachine webhook partition).Guarded (·.CommitsNothingUntold webhook partition)
        (.start redis) labels :=
  Machine.along_iff_guarded (fun _ inv => AlertState.Inv.covered inv)
    (fun inv guard step => AlertState.Inv.step inv guard step)
    (fun inv step property => AlertState.Inv.needed inv step property)
    labels (AlertState.inv_start redis)

/-- Decisions "0", "1", and so on, of one user. -/
def decisions (offset : Nat) : Option Json :=
  some (.obj [("decision_id", .str (toString offset)), ("user_id", .str "u")])

/-- Redis fails on decision "0"; decision "1" is delivered and committed. -/
def redisFailure : List AlertLabel :=
  [.fetch, .allowAlert 0 (.failed false), .fetch, .allowAlert 0 .answered,
    .dispatch (.prepare .ready) 0, .dispatch (.request (.status 200)) 0, .commit true]

/-- The skipped message is committed with the next one. -/
theorem committedSettled_fails :
    ¬ ∀ labels, (alertMachine "https://hooks.example.com/a" decisions).Along
      (·.CommittedSettled "https://hooks.example.com/a" decisions) (.start AlertRedis.empty)
        labels := by
  intro always
  have run : ((alertMachine "https://hooks.example.com/a" decisions).exec (.start AlertRedis.empty)
      redisFailure).map (fun state => (state.cursor.committed,
        state.delivered.map AlertEvent.alertID, state.deadLetters.length, state.limited)) =
      some (2, ["1"], 0, []) := by decide +kernel
  obtain ⟨state, reached, observed⟩ := Option.map_eq_some_iff.mp run
  simp only [Prod.mk.injEq, List.length_eq_zero_iff] at observed
  obtain ⟨committed, delivered, deadLetters, limited⟩ := observed
  have covered := (always redisFailure).final reached
  rcases covered 0 (by omega) with unconfigured | told
  · exact absurd unconfigured (by decide)
  · obtain ⟨alert, decoded, named⟩ : ∃ alert, decode decisions 0 = some alert ∧
        alert.alertID = "0" := ⟨_, rfl, rfl⟩
    rcases told alert decoded with (⟨other, member, same⟩ | ⟨letter, member, -⟩) | member
    · have listed := List.mem_map_of_mem (f := AlertEvent.alertID) member
      rw [delivered, same, named] at listed
      exact absurd listed (by decide)
    · rw [deadLetters] at member
      cases member
    · rw [limited] at member
      cases member

end Sentinel.Alert
