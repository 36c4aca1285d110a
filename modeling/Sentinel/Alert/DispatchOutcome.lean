import Sentinel.Alert.Dispatcher
import Sentinel.Semantics.Machine

/-!
# How a dispatch ends

The steps of one call of `Dispatch` under a context that may be cancelled at any
moment, with the requests it has made and the publications it has attempted.
`endsRight_iff` says in which runs success and dead letter exclude each other and
one of them happens.
-/

namespace Sentinel.Alert

open Sentinel.Semantics

structure DispatchRun where
  phase : DispatchPhase
  /-- What became of its requests, the newest first. -/
  requests : List RequestOutcome
  /-- How many publications to the dead-letter topic were attempted. -/
  publications : Nat
  /-- The context has been cancelled. -/
  done : Bool
deriving DecidableEq

inductive RunLabel where
  /-- The caller's context is cancelled. -/
  | cancel
  /-- The next step of the call. -/
  | call (label : DispatchLabel)
deriving DecidableEq

def RunLabel.isCall : RunLabel → Bool
  | .cancel => false
  | .call _ => true

namespace DispatchRun

def start : DispatchRun := ⟨.preparing, [], 0, false⟩

/-- What the environment can answer. The dead letter contains the alert, so
`json.Marshal` takes either both or none. -/
def possible (marshals : Bool) (run : DispatchRun) : DispatchLabel → Bool
  | .prepare .ready => marshals
  | .prepare .marshalError => !marshals
  | .publish succeeded => marshals || !succeeded
  | .cancelled => run.done
  | _ => true

/-- The run after a step of the call. `sendToDLQ` gives up when it cannot marshal. -/
def record (marshals : Bool) (run : DispatchRun) (label : DispatchLabel) (phase : DispatchPhase) :
    DispatchRun :=
  match label with
  | .request .creationFailed => { run with phase }
  | .request outcome => { run with phase, requests := outcome :: run.requests }
  | .publish _ =>
      { run with phase, publications := run.publications + if marshals then 1 else 0 }
  | _ => { run with phase }

end DispatchRun

/-- One call of `Dispatch` for an alert that `json.Marshal` takes or refuses. -/
def dispatchMachine (marshals : Bool) : Machine DispatchRun RunLabel where
  step run
    | .cancel => some { run with done := true }
    | .call label =>
        if run.possible marshals label then (run.phase.step label).map (run.record marshals label)
        else none

namespace DispatchRun

/-- At most five requests, and a call that has returned either succeeded with its
last request and dead-lettered nothing, or failed with all of them and attempted
one publication. -/
def EndsRight (run : DispatchRun) : Prop :=
  run.requests.length ≤ maxRetries ∧
    match run.phase with
    | .returned none =>
        (run.requests.head?.any RequestOutcome.succeeded) ∧ run.publications = 0
    | .returned (some _) =>
        (∀ outcome ∈ run.requests, outcome.succeeded = false) ∧ run.publications = 1
    | _ => True

/-- No back-off ends with the context's cancellation, and a dead letter can be
marshalled. -/
def Handled (marshals : Bool) (_ : DispatchRun) : RunLabel → Prop
  | .call .cancelled => False
  | .call (.publish _) => marshals
  | _ => True

/-- The requests so far have all failed, and nothing was published. -/
structure Unsettled (run : DispatchRun) (made : Nat) : Prop where
  length : run.requests.length = made
  failed : ∀ outcome ∈ run.requests, outcome.succeeded = false
  unpublished : run.publications = 0

/-- What a call has done by the time it is in its phase. -/
def Inv (run : DispatchRun) : Prop :=
  match run.phase with
  | .preparing => run.Unsettled 0
  | .requesting attempt => run.Unsettled attempt ∧ attempt < maxRetries
  | .backingOff attempt => run.Unsettled (attempt + 1) ∧ attempt + 1 < maxRetries
  | .deadLettering _ _ => ∃ made ≤ maxRetries, run.Unsettled made
  | .returned _ => run.EndsRight

/-- A dispatch begins without an attempt. -/
theorem inv_start : start.Inv where
  length := rfl
  failed := by simp [start]
  unpublished := rfl

/-- A dispatch that keeps the invariant ends in the right way. -/
theorem Inv.endsRight {run : DispatchRun} (inv : run.Inv) : run.EndsRight := by
  unfold Inv at inv
  unfold EndsRight
  split at inv
  · rename_i phase
    exact ⟨by rw [inv.length]; exact Nat.zero_le _, by rw [phase]; trivial⟩
  · rename_i phase
    exact ⟨by rw [inv.1.length]; exact Nat.le_of_lt inv.2, by rw [phase]; trivial⟩
  · rename_i phase
    exact ⟨by rw [inv.1.length]; exact Nat.le_of_lt inv.2, by rw [phase]; trivial⟩
  · rename_i phase
    obtain ⟨made, few, unsettled⟩ := inv
    exact ⟨by rw [unsettled.length]; exact few, by rw [phase]; trivial⟩
  · exact inv

variable {marshals : Bool} {run : DispatchRun} {made : Nat}

@[simp] theorem record_phase (label : DispatchLabel) (phase : DispatchPhase) :
    (run.record marshals label phase).phase = phase := by
  unfold record
  split <;> rfl

/-- A run that ended right keeps the invariant. -/
theorem inv_returned {error : Option DispatchError} (here : run.phase = .returned error)
    (ends : run.EndsRight) : run.Inv := by
  unfold Inv
  rw [here]
  exact ends

theorem inv_backingOff {attempt : Nat} (here : run.phase = .backingOff attempt)
    (unsettled : run.Unsettled (attempt + 1)) (few : attempt + 1 < maxRetries) : run.Inv := by
  unfold Inv
  rw [here]
  exact ⟨unsettled, few⟩

theorem inv_deadLettering {reason : String} {error : DispatchError}
    (here : run.phase = .deadLettering reason error) (few : made ≤ maxRetries)
    (unsettled : run.Unsettled made) : run.Inv := by
  unfold Inv
  rw [here]
  exact ⟨made, few, unsettled⟩

/-- One more request that failed. -/
theorem Unsettled.record (unsettled : run.Unsettled made) (marshals : Bool) {outcome : RequestOutcome}
    (created : outcome ≠ .creationFailed) (failed : outcome.succeeded = false)
    (phase : DispatchPhase) :
    (run.record marshals (.request outcome) phase).Unsettled (made + 1) := by
  have recorded : run.record marshals (.request outcome) phase =
      { run with phase, requests := outcome :: run.requests } := by
    cases outcome with
    | creationFailed => exact absurd rfl created
    | transportError => rfl
    | status code => rfl
  rw [recorded]
  refine ⟨congrArg (· + 1) unsettled.length, ?_, unsettled.unpublished⟩
  exact List.forall_mem_cons.mpr ⟨failed, unsettled.failed⟩

/-- A request that succeeded settles the call. -/
theorem Unsettled.succeed (unsettled : run.Unsettled made) (few : made < maxRetries)
    {outcome : RequestOutcome} (succeeded : outcome.succeeded) :
    (run.record marshals (.request outcome) (.returned none)).EndsRight := by
  cases outcome with
  | status code =>
      refine ⟨?_, succeeded, unsettled.unpublished⟩
      change run.requests.length + 1 ≤ maxRetries
      rw [unsettled.length]
      exact few
  | creationFailed => cases succeeded
  | transportError => cases succeeded

/-- The guarded steps of a call. -/
theorem Inv.call {label : DispatchLabel} {phase : DispatchPhase} (inv : run.Inv)
    (handled : run.Handled marshals (.call label)) (step : run.phase.step label = some phase) :
    (run.record marshals label phase).Inv := by
  unfold Inv at inv
  split at inv
  · rename_i here
    rw [here] at step
    cases label with
    | prepare outcome =>
        cases outcome with
        | invalidWebhook =>
            cases step
            exact ⟨0, Nat.zero_le _, inv.length, inv.failed, inv.unpublished⟩
        | marshalError =>
            cases step
            exact ⟨0, Nat.zero_le _, inv.length, inv.failed, inv.unpublished⟩
        | ready =>
            cases step
            exact ⟨⟨inv.length, inv.failed, inv.unpublished⟩, by decide⟩
    | _ => cases step
  · rename_i attempt here
    rw [here] at step
    obtain ⟨unsettled, few⟩ := inv
    cases label with
    | request outcome =>
        simp only [DispatchPhase.step] at step
        split at step
        · rename_i failed
          cases failed
          cases step
          exact ⟨attempt, Nat.le_of_lt few, unsettled.length, unsettled.failed,
            unsettled.unpublished⟩
        rename_i created
        split at step
        · rename_i succeeded
          cases step
          exact inv_returned (record_phase _ _) (unsettled.succeed few succeeded)
        rename_i failed
        have refused : outcome.succeeded = false := Bool.eq_false_iff.mpr failed
        split at step
        · rename_i more
          cases step
          exact inv_backingOff (record_phase _ _) (unsettled.record marshals created refused _)
            (Nat.succ_lt_of_lt_pred more)
        · cases step
          exact inv_deadLettering (record_phase _ _) few
            (unsettled.record marshals created refused _)
    | _ => cases step
  · rename_i attempt here
    rw [here] at step
    obtain ⟨unsettled, few⟩ := inv
    cases label with
    | backoffElapsed =>
        cases step
        exact ⟨⟨unsettled.length, unsettled.failed, unsettled.unpublished⟩, few⟩
    | cancelled => cases handled
    | _ => cases step
  · rename_i reason error here
    rw [here] at step
    obtain ⟨made, few, unsettled⟩ := inv
    cases label with
    | publish succeeded =>
        cases step
        have attempted : marshals = true := handled
        refine inv_returned (record_phase _ _) ⟨?_, unsettled.failed, ?_⟩
        · exact unsettled.length.trans_le few
        · change run.publications + (if marshals = true then 1 else 0) = 1
          rw [unsettled.unpublished, if_pos attempted]
    | _ => cases step
  · rename_i error here
    rw [here] at step
    cases label <;> cases step

/-- The context's cancellation by itself changes nothing. -/
theorem Inv.cancel (inv : run.Inv) : { run with done := true }.Inv := by
  obtain ⟨phase, requests, publications, done⟩ := run
  cases phase with
  | preparing => exact ⟨inv.length, inv.failed, inv.unpublished⟩
  | requesting attempt => exact ⟨⟨inv.1.length, inv.1.failed, inv.1.unpublished⟩, inv.2⟩
  | backingOff attempt => exact ⟨⟨inv.1.length, inv.1.failed, inv.1.unpublished⟩, inv.2⟩
  | deadLettering reason error =>
      obtain ⟨made, few, unsettled⟩ := inv
      exact ⟨made, few, unsettled.length, unsettled.failed, unsettled.unpublished⟩
  | returned error => exact inv

/-- A call takes the dispatch to its next phase. -/
theorem call_of_step {next : DispatchRun} {label : DispatchLabel}
    (step : (dispatchMachine marshals).step run (.call label) = some next) :
    ∃ phase, run.phase.step label = some phase ∧ next = run.record marshals label phase := by
  obtain ⟨-, moved⟩ := Option.ite_none_right_eq_some.mp step
  obtain ⟨phase, stepped, rfl⟩ := Option.map_eq_some_iff.mp moved
  exact ⟨phase, stepped, rfl⟩

/-- A handled step keeps the invariant. -/
theorem Inv.step {next : DispatchRun} {label : RunLabel} (inv : run.Inv)
    (handled : run.Handled marshals label)
    (step : (dispatchMachine marshals).step run label = some next) : next.Inv := by
  cases label with
  | cancel =>
      cases step
      exact inv.cancel
  | call label =>
      obtain ⟨phase, stepped, rfl⟩ := call_of_step step
      exact inv.call handled stepped

/-- A step after which the call has ended rightly was a guarded one. -/
theorem Inv.needed {next : DispatchRun} {label : RunLabel} (inv : run.Inv)
    (step : (dispatchMachine marshals).step run label = some next) (ends : next.EndsRight) :
    run.Handled marshals label := by
  cases label with
  | cancel => trivial
  | call label =>
      obtain ⟨phase, stepped, rfl⟩ := call_of_step step
      obtain ⟨here, requests, publications, done⟩ := run
      cases label with
      | cancelled =>
          cases here with
          | backingOff attempt =>
              cases stepped
              obtain ⟨-, -, once⟩ := ends
              exact absurd (inv.1.unpublished.symm.trans once) (by decide)
          | _ => cases stepped
      | publish succeeded =>
          cases here with
          | deadLettering reason error =>
              cases stepped
              obtain ⟨made, -, unsettled⟩ := inv
              obtain ⟨-, -, once⟩ := ends
              cases marshals with
              | true => rfl
              | false => exact absurd (unsettled.unpublished.symm.trans once) (by decide)
          | _ => cases stepped
      | _ => trivial

end DispatchRun

/-! ## A dispatch takes eleven steps at most -/

namespace DispatchPhase

/-- The attempts are counted within the limit. -/
def Counted : DispatchPhase → Prop
  | .requesting attempt => attempt < maxRetries
  | .backingOff attempt => attempt + 1 < maxRetries
  | _ => True

/-- How many steps may follow. -/
def remaining : DispatchPhase → Nat
  | .preparing => 2 * maxRetries + 1
  | .requesting attempt => 2 * (maxRetries - attempt)
  | .backingOff attempt => 2 * (maxRetries - attempt) - 1
  | .deadLettering _ _ => 1
  | .returned _ => 0

/-- Every step leaves fewer steps. -/
theorem remaining_step {phase after : DispatchPhase} {label : DispatchLabel}
    (counted : phase.Counted) (step : phase.step label = some after) :
    after.Counted ∧ after.remaining < phase.remaining := by
  unfold DispatchPhase.step at step
  split at step
  · split at step <;> cases step <;> simp [Counted, remaining, maxRetries]
  · simp only [Counted, maxRetries] at counted
    split at step
    · cases step
      simp only [Counted, remaining, maxRetries, true_and]
      omega
    · split at step
      · cases step
        simp only [Counted, remaining, maxRetries, true_and]
        omega
      · split at step
        · rename_i more
          cases step
          simp only [Counted, remaining, maxRetries] at more ⊢
          omega
        · cases step
          simp only [Counted, remaining, maxRetries, true_and]
          omega
  · cases step
    simp only [Counted, remaining, maxRetries] at counted ⊢
    omega
  · cases step
    simp only [Counted, remaining, maxRetries, true_and] at counted ⊢
    omega
  · cases step
    exact ⟨trivial, Nat.zero_lt_one⟩
  · cases step

end DispatchPhase

namespace DispatchRun

/-- A dispatch makes no more calls than it has steps. -/
theorem calls_le {marshals : Bool} {run final : DispatchRun} {labels : List RunLabel}
    (counted : run.phase.Counted)
    (executed : (dispatchMachine marshals).exec run labels = some final) :
    labels.countP RunLabel.isCall + final.phase.remaining ≤ run.phase.remaining := by
  induction labels generalizing run with
  | nil =>
      cases executed
      simp
  | cons label rest ih =>
      obtain ⟨next, step, executed⟩ := Machine.exec_cons_eq_some.mp executed
      cases label with
      | cancel =>
          cases step
          have later := ih (show { run with done := true }.phase.Counted from counted) executed
          simpa [RunLabel.isCall] using later
      | call label =>
          obtain ⟨phase, stepped, rfl⟩ := call_of_step step
          obtain ⟨still, fewer⟩ := DispatchPhase.remaining_step counted stepped
          have later := ih (by rwa [record_phase]) executed
          rw [record_phase] at later
          simp only [List.countP_cons, RunLabel.isCall, if_true]
          omega

/-- A call that has not returned can go on, whatever the state of its context. -/
theorem step_of_not_returned (marshals : Bool) (run : DispatchRun) :
    (∃ error, run.phase = .returned error) ∨
      ∃ label next, (dispatchMachine marshals).step run (.call label) = some next := by
  obtain ⟨phase, requests, publications, done⟩ := run
  cases phase with
  | preparing => exact .inr ⟨.prepare .invalidWebhook, _, rfl⟩
  | requesting attempt => exact .inr ⟨.request (.status 200), _, rfl⟩
  | backingOff attempt => exact .inr ⟨.backoffElapsed, _, rfl⟩
  | deadLettering reason error =>
      cases marshals with
      | true => exact .inr ⟨.publish false, _, rfl⟩
      | false => exact .inr ⟨.publish false, _, rfl⟩
  | returned error => exact .inl ⟨error, rfl⟩

end DispatchRun

/-- In a run of a dispatch every return is either a success without a dead letter
or a failure with one exactly when no back-off ends with the context's
cancellation and the alert can be marshalled when it is dead-lettered. And the
call returns within eleven steps. -/
theorem endsRight_iff (marshals : Bool) (labels : List RunLabel) :
    ((dispatchMachine marshals).Along DispatchRun.EndsRight .start labels ↔
      (dispatchMachine marshals).Guarded (DispatchRun.Handled marshals) .start labels) ∧
    ∀ final, (dispatchMachine marshals).exec .start labels = some final →
      labels.countP RunLabel.isCall ≤ 11 ∧ ((∃ error, final.phase = .returned error) ∨
        ∃ label next, (dispatchMachine marshals).step final (.call label) = some next) := by
  constructor
  · exact Machine.along_iff_guarded (fun _ inv => DispatchRun.Inv.endsRight inv)
      (fun inv handled step => DispatchRun.Inv.step inv handled step)
      (fun inv step ends => DispatchRun.Inv.needed inv step ends) labels DispatchRun.inv_start
  · intro final executed
    refine ⟨?_, DispatchRun.step_of_not_returned marshals final⟩
    have calls := DispatchRun.calls_le (show DispatchRun.start.phase.Counted from trivial) executed
    exact (Nat.le_add_right _ _).trans calls

/-- The context is cancelled while the call waits to try again. -/
def cancelledBackoff : List RunLabel :=
  [.call (.prepare .ready), .call (.request (.status 503)), .cancel, .call .cancelled]

/-- A back-off that is cancelled leaves the alert without a trace. -/
theorem endsRight_fails :
    ¬ ∀ marshals labels, (dispatchMachine marshals).Along DispatchRun.EndsRight .start labels := by
  intro always
  have run : (dispatchMachine true).exec .start cancelledBackoff =
      some ⟨.returned (some .cancelled), [.status 503], 0, true⟩ := by decide
  obtain ⟨-, -, published⟩ := (always true cancelledBackoff).final run
  exact absurd published (by decide)

end Sentinel.Alert
