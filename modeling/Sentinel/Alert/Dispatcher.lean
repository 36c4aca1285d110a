import Sentinel.Wire.Json

/-!
# Webhook dispatch

`WebhookDispatcher.Dispatch` as a machine: check the URL, post up to five times
with a back-off that doubles, and hand the alert to the dead-letter topic when
nothing helped. A cancelled back-off returns at once.
-/

namespace Sentinel.Alert

open Sentinel.Wire

/-- `AlertEvent`, the risk decision as the alert service reads it. -/
structure AlertEvent where
  alertID : String
  userID : String
  payload : Json
  webhook : String
  requestID : String
  action : String
  score : ℚ
  data : List (String × Json)

namespace AlertEvent

def zero : AlertEvent := ⟨"", "", .null, "", "", "", 0, []⟩

def fields : List (JsonField AlertEvent) :=
  [.text "decision_id" (·.alertID) (fun value alert => { alert with alertID := value }) false,
    .text "user_id" (·.userID) (fun value alert => { alert with userID := value }) false,
    .any "scores" (·.payload) fun value alert => { alert with payload := value },
    .text "webhook" (·.webhook) (fun value alert => { alert with webhook := value }) true,
    .text "request_id" (·.requestID) (fun value alert => { alert with requestID := value }) true,
    .text "action" (·.action) (fun value alert => { alert with action := value }) true,
    .number "final_score" (·.score) fun value alert => { alert with score := value },
    .table "data" (·.data) fun value alert => { alert with data := value }]

def marshal (alert : AlertEvent) : Json := JsonField.marshal fields alert

def unmarshal (json : Json) : Option AlertEvent := JsonField.unmarshal fields zero json

/-- `alert.Data["action"].(string)` -/
def dataAction (alert : AlertEvent) : Option String :=
  match alert.data.reverse.find? (·.1 = "action") with
  | some (_, .str text) => some text
  | some (_, .time instant) => some (rfc3339 instant)
  | _ => none

/-- Fill in the action from the data of a legacy decision. -/
def withAction (alert : AlertEvent) : AlertEvent :=
  if alert.action = "" then { alert with action := alert.dataAction.getD alert.action } else alert

@[simp] theorem withAction_alertID (alert : AlertEvent) :
    alert.withAction.alertID = alert.alertID := by
  unfold withAction
  split <;> rfl

end AlertEvent

inductive DispatchError where
  | invalidWebhook
  | marshalError
  | requestCreationFailed
  | cancelled
  | deliveryFailed
deriving DecidableEq, Repr

/-- Where a call of `Dispatch` stands. -/
inductive DispatchPhase where
  | preparing
  | requesting (attempt : Nat)
  | backingOff (attempt : Nat)
  | deadLettering (reason : String) (error : DispatchError)
  | returned (error : Option DispatchError)
deriving DecidableEq, Repr

/-- What `validateWebhook` and `json.Marshal` say. -/
inductive Preparation where
  | invalidWebhook
  | marshalError
  | ready
deriving DecidableEq, Repr

inductive RequestOutcome where
  | creationFailed
  | transportError
  | status (code : Nat)
deriving DecidableEq, Repr

def RequestOutcome.succeeded : RequestOutcome → Bool
  | .status code => 200 ≤ code ∧ code < 300
  | _ => false

inductive DispatchLabel where
  | prepare (outcome : Preparation)
  | request (outcome : RequestOutcome)
  | backoffElapsed
  /-- `ctx.Done()` is chosen over the back-off's timer. -/
  | cancelled
  /-- `sendToDLQ`; a failure is only logged. -/
  | publish (succeeded : Bool)
deriving DecidableEq, Repr

def maxRetries : Nat := 5

/-- One step of `Dispatch`. -/
def DispatchPhase.step : DispatchPhase → DispatchLabel → Option DispatchPhase
  | .preparing, .prepare outcome =>
      match outcome with
      | .invalidWebhook => some (.deadLettering "invalid_webhook" .invalidWebhook)
      | .marshalError => some (.deadLettering "marshal_error" .marshalError)
      | .ready => some (.requesting 0)
  | .requesting attempt, .request outcome =>
      if outcome = .creationFailed then
        some (.deadLettering "request_creation_failed" .requestCreationFailed)
      else if outcome.succeeded then some (.returned none)
      else if attempt < maxRetries - 1 then some (.backingOff attempt)
      else some (.deadLettering "max_retries_exceeded" .deliveryFailed)
  | .backingOff attempt, .backoffElapsed => some (.requesting (attempt + 1))
  | .backingOff _, .cancelled => some (.returned (some .cancelled))
  | .deadLettering _ error, .publish _ => some (.returned (some error))
  | _, _ => none

/-- The message that `sendToDLQ` publishes under the alert's id. -/
def deadLetter (alert : AlertEvent) (reason : String) (now : Int) : Json :=
  .obj [("alert", alert.marshal), ("reason", .str reason), ("time", .time now)]

/-- How a call of `Dispatch` ended. -/
inductive DispatchEnd where
  | delivered
  | deadLettered
  | unpublished
  | cancelled
deriving DecidableEq, Repr

/-- The end that a last step leads to. -/
def DispatchLabel.ending : DispatchLabel → DispatchEnd
  | .publish true => .deadLettered
  | .publish false => .unpublished
  | .cancelled => .cancelled
  | _ => .delivered

/-- A call returns through a 2xx answer, through `sendToDLQ`, or because its
context was cancelled. -/
theorem DispatchPhase.step_returned {phase : DispatchPhase} {label : DispatchLabel}
    {error : Option DispatchError} (step : phase.step label = some (.returned error)) :
    (∃ outcome, label = .request outcome ∧ outcome.succeeded ∧ error = none) ∨
      (∃ succeeded reason cause, phase = .deadLettering reason cause ∧
        label = .publish succeeded ∧ error = some cause) ∨
      label = .cancelled ∧ error = some .cancelled := by
  unfold DispatchPhase.step at step
  split at step
  · split at step <;> cases step
  · rename_i attempt outcome
    split at step
    · cases step
    · split at step
      · rename_i succeeded
        cases step
        exact .inl ⟨outcome, rfl, succeeded, rfl⟩
      · split at step <;> cases step
  · cases step
  · cases step
    exact .inr (.inr ⟨rfl, rfl⟩)
  · rename_i reason cause succeeded
    cases step
    exact .inr (.inl ⟨succeeded, reason, cause, rfl, rfl, rfl⟩)
  · cases step

end Sentinel.Alert
