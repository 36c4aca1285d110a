import Sentinel.Alert.Consumer
import Sentinel.Alert.DispatchOutcome
import Sentinel.Semantics.Recording

/-!
# No message holds the loop up

Whatever a message contains and whatever Redis, the webhook and the broker answer,
the loop of `Start` spends at most fourteen steps on it, and there is always a step
that it can take. A restart only makes it read again what was not committed
(`passes_of_run`).
-/

namespace Sentinel.Alert

open Sentinel.Wire Sentinel.Semantics

/-- The steps that the loop has spent on the message in hand, or a few more. -/
def ConsumerPhase.spent : ConsumerPhase → Nat
  | .fetching => 0
  | .deciding _ => 1
  | .dispatching _ phase => 13 - phase.remaining
  | .committing _ => 13

/-- What becomes of the message in hand while the loop stays with it. -/
inductive ConsumerPhase.Moves : ConsumerPhase → ConsumerPhase → Prop where
  | decoded (alert : AlertEvent) : Moves .fetching (.deciding alert)
  | discarded (exit : Exit) : Moves .fetching (.committing exit)
  | dropped (alert : AlertEvent) (exit : Exit) : Moves (.deciding alert) (.committing exit)
  | admitted (alert sent : AlertEvent) : Moves (.deciding alert) (.dispatching sent .preparing)
  | attempted (alert : AlertEvent) {phase after : DispatchPhase} {label : DispatchLabel}
      (moved : phase.step label = some after) (goes : ∀ error, after ≠ .returned error) :
      Moves (.dispatching alert phase) (.dispatching alert after)
  | returned (alert : AlertEvent) (phase : DispatchPhase) (exit : Exit) :
      Moves (.dispatching alert phase) (.committing exit)

namespace AlertState

/-- The messages that the loop has fetched and not passed, one at most. -/
def inHand (state : AlertState) : Nat :=
  match state.phase with
  | .fetching => 0
  | .deciding _ | .dispatching _ _ | .committing _ => 1

/-- The messages that a restart leaves to be fetched again, the one in hand included. -/
def abandoned (state : AlertState) : AlertLabel → Option Nat
  | .restart => some (state.cursor.position - state.cursor.committed + state.inHand)
  | _ => none

/-- The messages that are fetched again because of restarts. -/
def refetched : List Nat → Nat
  | [] => 0
  | messages :: rest => messages + refetched rest

/-- A dispatch that has not returned is under way. -/
def UnderWay (state : AlertState) : Prop :=
  ∀ alert phase, state.phase = .dispatching alert phase → phase.Counted ∧ 0 < phase.remaining

/-- All steps that were spent, at most: on messages, on restarts and on the message in hand. -/
def work (recorded : Recorded AlertState Nat) : Nat :=
  14 * (recorded.state.cursor.position + refetched recorded.notes) + recorded.notes.length +
    recorded.state.phase.spent

variable {webhook : String} {partition : Nat → Option Json} {state next : AlertState}

/-- A dispatch that has not returned has a step to go. -/
theorem remaining_pos {phase : DispatchPhase} (counted : phase.Counted)
    (goes : ∀ error, phase ≠ .returned error) : 0 < phase.remaining := by
  cases phase with
  | preparing => decide
  | requesting attempt =>
      simp only [DispatchPhase.Counted, DispatchPhase.remaining] at counted ⊢
      omega
  | backingOff attempt =>
      simp only [DispatchPhase.Counted, DispatchPhase.remaining] at counted ⊢
      omega
  | deadLettering reason error => exact Nat.zero_lt_one
  | returned error => exact absurd rfl (goes error)

/-- A step of the loop moves on in the message in hand, or leaves it behind. -/
theorem moves_of_step {label : AlertLabel} (goes : label ≠ .restart)
    (step : state.step webhook partition label = some next) :
    next.cursor = state.cursor ∧ state.phase.Moves next.phase ∨
      next.phase = .fetching ∧ next.cursor.position = state.cursor.position + 1 := by
  cases label with
  | fetch =>
      simp only [AlertState.step] at step
      split at step
      · rename_i fetching
        refine .inl ?_
        rw [fetching]
        split at step
        · cases step
          exact ⟨rfl, .discarded _⟩
        · split at step
          · cases step
            exact ⟨rfl, .discarded _⟩
          · cases step
            exact ⟨rfl, .decoded _⟩
      · cases step
  | allowAlert now reply =>
      simp only [AlertState.step] at step
      split at step
      · rename_i alert deciding
        rw [deciding]
        split at step
        · cases step
          exact .inr ⟨rfl, rfl⟩
        · refine .inl ?_
          split at step
          · split at step
            · cases step
              exact ⟨rfl, .dropped _ _⟩
            · cases step
              exact ⟨rfl, .admitted _ _⟩
          · cases step
            exact ⟨rfl, .dropped _ _⟩
          · cases step
            exact ⟨rfl, .dropped _ _⟩
      · cases step
  | dispatch label now =>
      simp only [AlertState.step] at step
      split at step
      · rename_i alert phase dispatching
        refine .inl ?_
        rw [dispatching]
        split at step
        · cases step
        · cases step
          exact ⟨sent_cursor .., .returned _ _ _⟩
        · rename_i after goes moved
          cases step
          exact ⟨sent_cursor .., .attempted _ moved goes⟩
      · cases step
  | commit succeeded =>
      simp only [AlertState.step] at step
      split at step
      · cases step
        refine .inr ⟨rfl, ?_⟩
        dsimp only
        split
        · rfl
        · split <;> rfl
      · cases step
  | restart => exact absurd rfl goes

/-- A consumer stays in the phases of its loop. -/
theorem UnderWay.step (underWay : state.UnderWay) {label : AlertLabel}
    (step : state.step webhook partition label = some next) : next.UnderWay := by
  intro alert phase dispatching
  by_cases restarts : label = .restart
  · subst restarts
    cases step
    cases dispatching
  · rcases moves_of_step restarts step with ⟨-, moves⟩ | ⟨fetching, -⟩
    · rw [dispatching] at moves
      generalize was : state.phase = before at moves
      cases moves with
      | admitted => exact ⟨trivial, by decide⟩
      | attempted _ moved goes =>
          obtain ⟨counted, -⟩ := DispatchPhase.remaining_step (underWay _ _ was).1 moved
          exact ⟨counted, remaining_pos counted goes⟩
    · rw [fetching] at dispatching
      cases dispatching

/-- A dispatch takes eleven steps at most. -/
theorem remaining_le (phase : DispatchPhase) : phase.remaining ≤ 11 := by
  cases phase with
  | preparing => exact Nat.le_refl _
  | requesting attempt | backingOff attempt =>
      simp only [DispatchPhase.remaining, maxRetries]
      omega
  | deadLettering reason error => exact Nat.le_add_left 1 10
  | returned error => exact Nat.zero_le _

/-- So a message takes no more than thirteen before it is done with. -/
theorem spent_le (phase : ConsumerPhase) : phase.spent ≤ 13 := by
  cases phase with
  | fetching => exact Nat.zero_le _
  | deciding alert => exact Nat.le_add_left 1 12
  | dispatching alert phase => exact Nat.sub_le ..
  | committing exit => exact Nat.le_refl _

/-- Nothing was spent when there is no message in hand. -/
theorem spent_le_inHand (state : AlertState) : state.phase.spent ≤ 14 * state.inHand := by
  have most := spent_le state.phase
  unfold inHand
  split
  · rename_i fetching
    rw [fetching]
    exact Nat.le_refl 0
  · omega
  · omega
  · omega

/-- Within a message every step is spent. -/
theorem spent_lt (underWay : state.UnderWay) {after : ConsumerPhase}
    (moves : state.phase.Moves after) : state.phase.spent < after.spent := by
  generalize was : state.phase = before at moves
  cases moves with
  | decoded alert => exact Nat.zero_lt_one
  | discarded exit => exact Nat.zero_lt_succ 12
  | dropped alert exit => simp [ConsumerPhase.spent]
  | admitted alert sent => simp [ConsumerPhase.spent, DispatchPhase.remaining, maxRetries]
  | @attempted alert phase after label moved goes =>
      obtain ⟨counted, -⟩ := underWay alert phase was
      have fewer := (DispatchPhase.remaining_step counted moved).2
      have most := remaining_le phase
      simp only [ConsumerPhase.spent]
      omega
  | returned alert phase exit =>
      obtain ⟨-, more⟩ := underWay alert phase was
      simp only [ConsumerPhase.spent]
      omega

/-- Every step is counted. -/
theorem work_step {recorded after : Recorded AlertState Nat} {label : AlertLabel}
    (underWay : recorded.state.UnderWay)
    (step : ((alertMachine webhook partition).recording abandoned).step recorded label =
      some after) : work recorded + 1 ≤ work after := by
  obtain ⟨taken, notes⟩ := Machine.recording_step step
  have taken : recorded.state.step webhook partition label = some after.state := taken
  have most := spent_le_inHand recorded.state
  have bounded := spent_le recorded.state.phase
  rw [work, work, notes]
  cases label with
  | restart =>
      have same : after.state = { recorded.state with
          cursor := recorded.state.cursor.restart, phase := .fetching } :=
        (Option.some.inj taken).symm
      rw [same]
      have fresh : ConsumerPhase.fetching.spent = 0 := rfl
      simp only [abandoned, Option.toList_some, List.singleton_append, refetched, Cursor.restart,
        fresh, List.length_cons]
      omega
  | fetch | allowAlert _ _ | dispatch _ _ | commit _ =>
      simp only [abandoned, Option.toList_none, List.nil_append]
      rcases moves_of_step (by simp) taken with ⟨same, moves⟩ | ⟨-, position⟩
      · have more := spent_lt underWay moves
        rw [same]
        omega
      · rw [position]
        omega

/-- Some step of the loop itself is always possible. -/
theorem exists_step (webhook : String) (partition : Nat → Option Json)
    (underWay : state.UnderWay) :
    ∃ label, label ≠ .restart ∧ (state.step webhook partition label).isSome := by
  cases here : state.phase with
  | fetching =>
      refine ⟨.fetch, by simp, ?_⟩
      simp only [AlertState.step, here]
      split
      · rfl
      · split <;> rfl
  | deciding alert =>
      refine ⟨.allowAlert 0 (.failed false), by simp, ?_⟩
      simp only [AlertState.step, here]
      rfl
  | dispatching alert phase =>
      obtain ⟨-, goes⟩ := underWay alert phase here
      cases phase with
      | preparing =>
          refine ⟨.dispatch (.prepare .ready) 0, by simp, ?_⟩
          simp only [AlertState.step, here]
          rfl
      | requesting attempt =>
          refine ⟨.dispatch (.request .creationFailed) 0, by simp, ?_⟩
          simp only [AlertState.step, here]
          rfl
      | backingOff attempt =>
          refine ⟨.dispatch .backoffElapsed 0, by simp, ?_⟩
          simp only [AlertState.step, here]
          rfl
      | deadLettering reason error =>
          refine ⟨.dispatch (.publish true) 0, by simp, ?_⟩
          simp only [AlertState.step, here]
          rfl
      | returned error => exact absurd goes (Nat.lt_irrefl 0)
  | committing exit =>
      refine ⟨.commit true, by simp, ?_⟩
      simp only [AlertState.step, here]
      rfl

/-- The loop begins with a fetch. -/
theorem underWay_start (redis : AlertRedis) : (start redis).UnderWay := by
  intro alert phase dispatching
  cases dispatching

/-- Every step of a run is work. -/
theorem work_of_run {recorded final : Recorded AlertState Nat} {labels : List AlertLabel}
    (underWay : recorded.state.UnderWay)
    (run : ((alertMachine webhook partition).recording abandoned).exec recorded labels =
      some final) : work recorded + labels.length ≤ work final ∧ final.state.UnderWay := by
  induction labels generalizing recorded with
  | nil =>
      cases run
      exact ⟨Nat.le_refl _, underWay⟩
  | cons label rest ih =>
      obtain ⟨next, step, run⟩ := Machine.exec_cons_eq_some.mp run
      have counted := work_step underWay step
      obtain ⟨later, still⟩ := ih (underWay.step (Machine.recording_step step).1) run
      rw [List.length_cons]
      exact ⟨by omega, still⟩

end AlertState

/-- In every run, at most fourteen steps are spent on each message that is fetched, counting
those again that a restart makes the loop fetch again, and the loop can always go on. -/
theorem passes_of_run (webhook : String) (partition : Nat → Option Json) (redis : AlertRedis)
    (labels : List AlertLabel) (final : Recorded AlertState Nat)
    (run : ((alertMachine webhook partition).recording AlertState.abandoned).exec
      ⟨.start redis, []⟩ labels = some final) :
    labels.length ≤ 14 * (final.state.cursor.position + AlertState.refetched final.notes) +
        final.notes.length + final.state.phase.spent ∧
      ∃ label, label ≠ .restart ∧ (final.state.step webhook partition label).isSome := by
  obtain ⟨counted, underWay⟩ := AlertState.work_of_run (AlertState.underWay_start redis) run
  refine ⟨?_, AlertState.exists_step webhook partition underWay⟩
  have fresh : ConsumerPhase.fetching.spent = 0 := rfl
  simp only [AlertState.work, AlertState.start, AlertState.refetched, Cursor.start,
    fresh, List.length_nil] at counted
  omega

/-- The consumer crashes while it tries to deliver a decision, which is a duplicate when it
is read again, and delivers the next one. -/
def readTwice : List AlertLabel :=
  [.fetch, .allowAlert 0 .answered, .dispatch (.prepare .ready) 0,
    .dispatch (.request (.status 500)) 0, .dispatch .backoffElapsed 0, .restart,
    .fetch, .allowAlert 1000 .answered, .commit true,
    .fetch, .allowAlert 2000 .answered, .dispatch (.prepare .ready) 0,
    .dispatch (.request (.status 200)) 0]

def afterReadTwice : Recorded AlertState Nat :=
  (((alertMachine "https://hooks.example.com" decisions).recording AlertState.abandoned).exec
    ⟨.start .empty, []⟩ readTwice).getD ⟨.start .empty, []⟩

/-- A run with a message that is read twice, admitted and dispatched. -/
theorem passes_readTwice :
    readTwice.length ≤
        14 * (afterReadTwice.state.cursor.position + AlertState.refetched afterReadTwice.notes) +
          afterReadTwice.notes.length + afterReadTwice.state.phase.spent ∧
      ∃ label, label ≠ .restart ∧
        (afterReadTwice.state.step "https://hooks.example.com" decisions label).isSome :=
  passes_of_run "https://hooks.example.com" decisions .empty readTwice afterReadTwice rfl

end Sentinel.Alert
