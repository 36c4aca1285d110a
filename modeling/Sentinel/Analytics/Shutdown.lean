import Sentinel.Analytics.Callers

/-!
# Stopping the batch engine

`Stop` closes the channel that calls of `AddEvent` send on, waits for the
workers and only then cancels the context that such a call could leave by. The
workers always come to their end with everything flushed; `shutsDown_iff` says
in which runs the calls do as well.
-/

namespace Sentinel.Analytics

open Sentinel.Semantics

variable {Call Event : Type}

/-- A worker on its last round does not come back to its `select`. -/
def Worker.Retires (worker : Worker Call Event) : Prop :=
  worker.draining = true → worker.phase ≠ .selecting

namespace Worker

variable {worker next : Worker Call Event} {batchSize : Nat}

/-- A worker that resumes on its last round has stopped. -/
theorem retires_resume : worker.resume.Retires := by
  intro draining
  have retiring : worker.draining = true := draining
  rw [resume, retiring]
  intro resumed
  cases resumed

/-- A flush does not lead back to the `select` of a last round. -/
theorem retires_flush : worker.flush.Retires := by
  unfold flush
  split
  · exact retires_resume
  · exact fun _ => nofun

theorem retires_answer {result : Option EngineError} {rest : List (QueuedEvent Call Event)} :
    (worker.answer result rest).Retires := by
  unfold answer
  split
  · exact retires_resume
  · exact fun _ => nofun

theorem Turn.retires (turn : worker.Turn batchSize next) (before : worker.Retires) :
    next.Retires := by
  cases turn with
  | rest => exact before
  | collected item selecting =>
      intro draining
      rw [draining_collect] at draining
      exact absurd selecting (before draining)
  | flushed selecting | drained selecting => exact retires_flush
  | retried inserting => exact fun _ => nofun
  | concluded result inserting => exact retires_answer
  | answered answering => exact retires_answer

/-- Its last round it does not take back. -/
theorem Turn.draining (turn : worker.Turn batchSize next) (before : worker.draining = true) :
    next.draining = true := by
  cases turn with
  | rest => exact before
  | collected item selecting => exact draining_collect.trans before
  | flushed selecting => exact draining_flush.trans before
  | drained selecting => exact draining_flush
  | retried inserting => exact before
  | concluded result inserting => exact draining_answer.trans before
  | answered answering => exact draining_answer.trans before

end Worker

namespace Operation

section Frames

variable (operation : Operation Call Event) (index : Nat)

@[simp] theorem enterFlush_started :
    (operation.enterFlush index).started = operation.started := by
  unfold enterFlush
  split <;> rfl

@[simp] theorem enterFlush_canceled :
    (operation.enterFlush index).canceled = operation.canceled := by
  unfold enterFlush
  split <;> rfl

@[simp] theorem leave_started : (operation.leave index).started = operation.started := by
  unfold leave
  split <;> rfl

@[simp] theorem leave_canceled : (operation.leave index).canceled = operation.canceled := by
  unfold leave
  split <;> rfl

end Frames

/-- What holds of the workers that `Start` started on top of `Inv`. -/
structure Ending (count : Nat) (operation : Operation Call Event) : Prop where
  started : operation.started = count
  retires : ∀ index, (operation.engine.workers index).Retires
  ended : operation.canceled = true →
    ∀ index < count, (operation.engine.workers index).isStopped = true

/-- The workers have yet to begin. -/
theorem Ending.start (batchSize count : Nat) :
    (Operation.start batchSize count : Operation Call Event).Ending count where
  started := rfl
  retires := by
    intro index
    simp only [Operation.start, Engine.start]
    split <;> intro draining <;> cases draining
  ended ending := by cases ending

def Returned (index : Nat) (operation : Operation Call Event) : Prop :=
  (operation.engine.workers index).isStopped = true

/-- When every worker has returned, nothing is left that is not in a flush. -/
theorem Inv.flushed_of_returned {operation : Operation Call Event} {batchSize count : Nat}
    (inv : operation.Inv batchSize count) (workers : 0 < count)
    (returned : ∀ index, operation.Returned index) {item : QueuedEvent Call Event}
    (accepted : item ∈ operation.accepted) : ∃ index, operation.Flushed index item := by
  rcases inv.accounts.covered item accepted with waiting | ⟨index, received⟩
  · rw [(inv.closing.settled 0 workers (.inl (returned 0))).2] at waiting
    cases waiting
  · exact ⟨index, (inv.replied_of_isStopped (returned index) received).1⟩

variable [DecidableEq Call] {operation next : Operation Call Event}
  {label : OperationLabel Call Event} {batchSize count index : Nat} {call : Call}

/-- `e.wg.Wait()` returns when every worker has. -/
theorem stopped_of_cancel (step : operation.step .cancel = some next) :
    ∀ index < operation.started, (operation.engine.workers index).isStopped = true := by
  have live := stepLive_of_step step
  simp only [stepLive] at live
  split at live
  · rename_i waited
    intro index started
    exact List.all_eq_true.mp waited.2 index (List.mem_range.mpr started)
  · cases live

/-- No step starts a further worker. -/
theorem Happens.started_eq (replies : operation.Replies) (happens : operation.Happens label next) :
    next.started = operation.started := by
  cases happens with
  | called | panicked | sent | left | done | reused | allocated | retried | concluded | closed
  | canceled => rfl
  | handed | received | ticked => exact enterFlush_started ..
  | answered => exact leave_started ..
  | sendPanics answering panics => exact absurd panics (replies.unpanicking answering)
  | drained => rw [leave_started, enterFlush_started]

/-- The context is canceled by `Stop` alone. -/
theorem Happens.canceled_or (replies : operation.Replies)
    (happens : operation.Happens label next) :
    next.canceled = operation.canceled ∨ label = .cancel := by
  cases happens with
  | called | panicked | sent | left | done | reused | allocated | retried | concluded | closed =>
      exact .inl rfl
  | handed | received | ticked => exact .inl (enterFlush_canceled ..)
  | answered => exact .inl (leave_canceled ..)
  | sendPanics answering panics => exact absurd panics (replies.unpanicking answering)
  | drained =>
      rw [leave_canceled, enterFlush_canceled]
      exact .inl rfl
  | canceled => exact .inr rfl

/-- The context is canceled only when every worker has stopped. -/
theorem Ending.step (ending : operation.Ending count) (replies : operation.Replies)
    (step : operation.step label = some next) : next.Ending count where
  started := ((happens_of_step step).started_eq replies).trans ending.started
  retires := fun index =>
    ((happens_of_step step).advances replies index).turn.retires (ending.retires index)
  ended := by
    intro canceled index started
    have happens := happens_of_step step
    have stopped : (operation.engine.workers index).isStopped = true := by
      rcases happens.canceled_or replies with same | rfl
      · exact ending.ended (same ▸ canceled) index started
      · exact stopped_of_cancel step index (ending.started.symm ▸ started)
    rw [(happens.advances replies index).turn.of_isStopped stopped]
    exact stopped

/-- The channel is closed and holds so many items. -/
def ClosedWith (left : Nat) (operation : Operation Call Event) : Prop :=
  operation.engine.closed = true ∧ operation.engine.eventChan.length = left

/-- The worker is on its last round, or has returned. -/
def Leaving (index : Nat) (operation : Operation Call Event) : Prop :=
  (operation.engine.workers index).draining = true ∨ operation.Returned index

/-- After the close the channel only becomes shorter. -/
theorem ClosedWith.step {left : Nat} (closed : operation.ClosedWith left)
    (inv : operation.Inv batchSize count) (step : operation.step label = some next) :
    next.ClosedWith left ∨ next.ClosedWith 0 ∨ ∃ less < left, next.ClosedWith less := by
  obtain ⟨shut, rfl⟩ := closed
  obtain ⟨still, same | ⟨item, front⟩⟩ := (happens_of_step step).shrinks inv.replies shut
  · exact .inl ⟨still, by rw [same]⟩
  · refine .inr (.inr ⟨next.engine.eventChan.length, ?_, still, rfl⟩)
    rw [front]
    exact Nat.lt_succ_self _

/-- A worker that has returned has done so for good. -/
theorem Returned.step (returned : operation.Returned index) (inv : operation.Inv batchSize count)
    (step : operation.step label = some next) : next.Returned index := by
  rw [Returned, ((happens_of_step step).advances inv.replies index).turn.of_isStopped returned]
  exact returned

/-- The last round is not left but by returning. -/
theorem Leaving.step (leaving : operation.Leaving index) (inv : operation.Inv batchSize count)
    (step : operation.step label = some next) : next.Leaving index := by
  rcases leaving with draining | returned
  · exact .inl (((happens_of_step step).advances inv.replies index).turn.draining draining)
  · exact .inr (returned.step inv step)

/-- At its `select` a worker can begin its last round once the channel is closed and
empty. -/
theorem Inv.canDrain (inv : operation.Inv batchSize count)
    (running : operation.running index = true)
    (selecting : (operation.engine.workers index).phase = .selecting)
    (closed : operation.engine.closed = true) (empty : operation.engine.eventChan = []) :
    ∃ next, operation.step (.drain index) = some next := by
  simp only [Operation.step, inv.closing.alive, Bool.false_eq_true, if_false, stepLive, running,
    if_true, Engine.stepLive, selecting, closed, empty, Option.map_some]
  exact ⟨_, rfl⟩

/-- Draining begins the last round. -/
theorem Happens.of_drain (happens : operation.Happens (.drain index) next) :
    (next.engine.workers index).draining = true := by
  cases happens with
  | drained =>
      rw [leave_engine, enterFlush_engine, Engine.workers_setWorker]
      exact Worker.draining_flush
  | left inside outside => rcases outside with wrong | wrong <;> cases wrong

variable {behavior : (operationMachine Call Event).Behavior}

/-- What holds of the workers that were started holds at every moment. -/
theorem ending_always (begins : behavior.stateAt 0 = .start batchSize count)
    (moment : Nat) : (behavior.stateAt moment).Ending count := by
  refine Machine.Behavior.always_given (inv_always begins) ?_
    (fun inv kept step => kept.step inv.replies step) moment
  rw [begins]
  exact .start batchSize count

section LeadsTo

variable (invs : ∀ moment, (behavior.stateAt moment).Inv batchSize count)
  (fair : FairWorkers count behavior)

include invs fair

/-- A worker that finds the channel closed and empty goes on its last round. -/
theorem closed_leadsTo_leaving (started : index < count) :
    behavior.LeadsTo (ClosedWith 0) (Leaving index) := by
  refine Machine.Behavior.leadsTo_of_recurrent (fair index started .drain) invs
    ?_ (ready_again invs fair started) ?_ ?_
  · intro operation label next inv closed step
    rcases closed.step inv step with still | empty | ⟨less, below, _⟩
    · exact .inl still
    · exact .inl empty
    · exact absurd below (Nat.not_lt_zero less)
  · rintro operation inv ⟨closed, empty⟩ (⟨selecting, running⟩ | stopped)
    · obtain ⟨next, step⟩ :=
        inv.canDrain running selecting closed (List.eq_nil_of_length_eq_zero empty)
      exact .inr ⟨_, next, rfl, step⟩
    · exact .inl (.inr stopped)
  · rintro operation label next inv _ rfl step
    exact .inl (happens_of_step step).of_drain

/-- And returns after it. -/
theorem leaving_leadsTo (endings : ∀ moment, (behavior.stateAt moment).Ending count)
    (started : index < count) : behavior.LeadsTo (Leaving index) (Returned index) := by
  intro start leaving
  obtain ⟨moment, later, selecting | stopped⟩ := loops_again invs fair started start
  · have still : (behavior.stateAt moment).Leaving index := Machine.Behavior.stable
      (fun inv leaving step => leaving.step inv step) invs leaving later
    rcases still with draining | stopped
    · exact absurd selecting ((endings moment).retires index draining)
    · exact ⟨moment, later, stopped⟩
  · exact ⟨moment, later, stopped⟩

/-- The closed channel loses what it still holds. -/
theorem closed_leadsTo (workers : 0 < count) (left : Nat) :
    behavior.LeadsTo (ClosedWith left) (ClosedWith 0) := by
  refine .of_rank (fun bound => ?_) left
  refine Machine.Behavior.leadsTo_of_recurrent (fair 0 workers .receive) invs
    (fun inv closed step => closed.step inv step) (ready_again invs fair workers) ?_ ?_
  · intro operation inv closed ready
    by_cases empty : operation.engine.eventChan = []
    · exact .inl (.inl ⟨closed.1, by rw [empty]; rfl⟩)
    · rcases ready with ⟨selecting, running⟩ | stopped
      · obtain ⟨next, step⟩ := inv.canReceive running selecting empty
        exact .inr ⟨_, next, rfl, step⟩
      · exact absurd (inv.closing.settled 0 workers (.inl stopped)).2 empty
  · rintro operation label next inv ⟨closed, rfl⟩ rfl step
    have happens := happens_of_step step
    obtain ⟨item, front, _⟩ := happens.of_receive
    refine .inr ⟨next.engine.eventChan.length, ?_, (happens.shrinks inv.replies closed).1, rfl⟩
    rw [front]
    exact Nat.lt_succ_self _

/-- Once the channel is closed every worker returns. -/
theorem returned_eventually (workers : 0 < count)
    (endings : ∀ moment, (behavior.stateAt moment).Ending count) {start : Nat}
    (closed : (behavior.stateAt start).engine.closed = true) :
    ∃ moment, start ≤ moment ∧ ∀ index, (behavior.stateAt moment).Returned index := by
  obtain ⟨first, since, empty⟩ := closed_leadsTo invs fair workers _ start ⟨closed, rfl⟩
  have upTo : ∀ bound ≤ count, ∃ moment, first ≤ moment ∧
      ∀ index < bound, (behavior.stateAt moment).Returned index := by
    intro bound within
    induction bound with
    | zero => exact ⟨first, Nat.le_refl first, fun index none => absurd none (Nat.not_lt_zero index)⟩
    | succ bound inductionHypothesis =>
        obtain ⟨one, afterFirst, earlier⟩ := inductionHypothesis (Nat.le_of_succ_le within)
        obtain ⟨other, also, leaving⟩ := closed_leadsTo_leaving invs fair within first empty
        obtain ⟨last, further, returned⟩ := leaving_leadsTo invs fair endings within other leaving
        refine ⟨max one last, Nat.le_trans afterFirst (Nat.le_max_left ..), fun index below => ?_⟩
        rcases Nat.lt_succ_iff_lt_or_eq.mp below with before | rfl
        · exact Machine.Behavior.stable (fun inv returned step => returned.step inv step) invs
            (earlier index before) (Nat.le_max_left ..)
        · exact Machine.Behavior.stable (fun inv returned step => returned.step inv step) invs
            returned (Nat.le_max_right ..)
  obtain ⟨moment, later, returned⟩ := upTo count (Nat.le_refl count)
  refine ⟨moment, Nat.le_trans since later, fun index => ?_⟩
  rcases Nat.lt_or_ge index count with started | beyond
  · exact returned index started
  · exact (invs moment).closing.unstarted index beyond

end LeadsTo

/-!
## The shutdown
-/

/-- After its send a call waits for its answer. -/
theorem waiting_of_send (opened : operation.engine.closed = false)
    (step : operation.step (.send call) = some next) : next.calls call = .waiting := by
  have live := stepLive_of_step step
  simp only [stepLive, opened, Bool.false_eq_true, if_false] at live
  split at live
  · obtain ⟨engine, _, rfl⟩ := Option.map_eq_some_iff.mp live
    exact Function.update_self ..
  · cases live

/-- On the closed channel a send panics. -/
theorem panicked_of_send (closed : operation.engine.closed = true)
    (step : operation.step (.send call) = some next) : next.calls call = .panicked := by
  have live := stepLive_of_step step
  simp only [stepLive, closed, if_true] at live
  split at live
  · cases live
    exact setCall_self _
  · cases live

/-- Only a send on the closed channel ends in a panic. -/
theorem send_of_panicked (replies : operation.Replies) (step : operation.step label = some next)
    (before : operation.calls call ≠ .panicked) (panicked : next.calls call = .panicked) :
    label = .send call ∧ operation.engine.closed = true := by
  have happens := happens_of_step step
  cases happens with
  | called | left | done | sent => exact absurd panicked (ne_of_update before nofun)
  | @panicked sender event offered =>
      have own : call = sender := by
        by_contra different
        exact before ((Function.update_of_ne different ..).symm.trans panicked)
      subst own
      cases closed : operation.engine.closed with
      | true => exact ⟨rfl, rfl⟩
      | false => cases (waiting_of_send closed step).symm.trans panicked
  | handed =>
      rw [enterFlush_calls] at panicked
      exact absurd panicked (ne_of_update before nofun)
  | reused | allocated | retried | concluded | closed | canceled => exact absurd panicked before
  | received | ticked =>
      rw [enterFlush_calls] at panicked
      exact absurd panicked before
  | answered =>
      rw [leave_calls] at panicked
      exact absurd panicked before
  | sendPanics answering panics => exact absurd panics (replies.unpanicking answering)
  | drained =>
      rw [leave_calls, enterFlush_calls] at panicked
      exact absurd panicked before

/-- A clean shutdown: nobody panics, everybody returns, and nothing that was
sent on the channel is lost. -/
structure ShutsDown (behavior : (operationMachine Call Event).Behavior) : Prop where
  unpanicked : ∀ moment, (behavior.stateAt moment).engine.panicked = false ∧
    ∀ call, (behavior.stateAt moment).calls call ≠ .panicked
  returns : ∀ moment call, (behavior.stateAt moment).calls call ≠ .idle →
    ∃ later, moment ≤ later ∧ ((behavior.stateAt later).calls call).returned.isSome = true
  /-- After the close every worker returns, so that `e.wg.Wait()` does. -/
  waits : ∀ moment, (behavior.stateAt moment).engine.closed = true →
    ∃ later, moment ≤ later ∧ ∀ index, (behavior.stateAt later).Returned index
  /-- When `Stop` has returned, every event that came in was part of a flush. -/
  flushed : ∀ moment, (behavior.stateAt moment).canceled = true →
    ∀ item ∈ (behavior.stateAt moment).accepted,
      ∃ index, (behavior.stateAt moment).Flushed index item

/-- Along the behavior no call takes the send case of its `select` once the
channel is closed. -/
def SendsOpen (behavior : (operationMachine Call Event).Behavior) : Prop :=
  ∀ moment call, behavior.labelAt moment = some (.send call) →
    (behavior.stateAt moment).engine.closed = false

/-- Where every send finds the channel open, no call panics. -/
theorem SendsOpen.unpanicked (opened : SendsOpen behavior)
    (begins : behavior.stateAt 0 = .start batchSize count) (moment : Nat) (call : Call) :
    (behavior.stateAt moment).calls call ≠ .panicked := by
  have invs := inv_always begins
  induction moment with
  | zero =>
      rw [begins]
      nofun
  | succ moment inductionHypothesis =>
      intro panicked
      have taken := opened moment call
      have now := behavior.moment moment
      generalize behavior.labelAt moment = label at taken now
      cases now with
      | rest same => exact inductionHypothesis (same ▸ panicked)
      | step step =>
          obtain ⟨rfl, closed⟩ :=
            send_of_panicked (invs moment).replies step inductionHypothesis panicked
          rw [taken rfl] at closed
          cases closed

/-- There the engine shuts down. -/
theorem SendsOpen.shutsDown (opened : SendsOpen behavior)
    (begins : behavior.stateAt 0 = .start batchSize count) (workers : 0 < count)
    (fair : FairWorkers count behavior) (calls : FairCalls behavior) : ShutsDown behavior := by
  have invs := inv_always begins
  have serves := serves_always begins
  have endings := ending_always begins
  constructor
  · exact fun moment => ⟨(invs moment).closing.alive, opened.unpanicked begins moment⟩
  · intro moment call begun
    obtain ⟨later, after, returned | panicked⟩ :=
      over_eventually invs serves workers fair calls begun
    · exact ⟨later, after, returned⟩
    · exact absurd panicked (opened.unpanicked begins later call)
  · exact fun moment closed => returned_eventually invs fair workers endings closed
  · intro moment canceled item accepted
    refine (invs moment).flushed_of_returned workers (fun index => ?_) accepted
    rcases Nat.lt_or_ge index count with started | beyond
    · exact (endings moment).ended canceled index started
    · exact (invs moment).closing.unstarted index beyond

/-- The callers are stopped before the engine is: none is at its first `select`
when the channel is closed, and none comes after. -/
structure CallersStopped (behavior : (operationMachine Call Event).Behavior) : Prop where
  before : ∀ moment, behavior.labelAt moment = some .close →
    ∀ call, ¬((behavior.stateAt moment).calls call).IsSending
  after : ∀ moment call event, behavior.labelAt moment = some (.addEvent call event) →
    (behavior.stateAt moment).engine.closed = false

/-- A call that sends after another one's step did so before. -/
theorem isSending_of_update {calls : Call → CallPhase Event} {other : Call}
    {phase : CallPhase Event} (sending : (Function.update calls other phase call).IsSending)
    (elsewhere : ∀ event, phase ≠ .sending event) : (calls call).IsSending := by
  by_cases own : call = other
  · rw [own, Function.update_self] at sending
    obtain ⟨event, same⟩ := sending
    exact absurd same (elsewhere event)
  · rwa [Function.update_of_ne own] at sending

/-- A call comes to its first `select` when it is made. -/
theorem sending_of_step (replies : operation.Replies) (step : operation.step label = some next)
    (sending : (next.calls call).IsSending) :
    (operation.calls call).IsSending ∨ ∃ event, label = .addEvent call event := by
  have happens := happens_of_step step
  cases happens with
  | @called other event idle =>
      by_cases own : call = other
      · exact .inr ⟨event, own ▸ rfl⟩
      · have still : (Function.update operation.calls other _ call).IsSending := sending
        rw [Function.update_of_ne own] at still
        exact .inl still
  | panicked | sent | left | done => exact .inl (isSending_of_update sending fun _ => nofun)
  | handed =>
      rw [enterFlush_calls] at sending
      exact .inl (isSending_of_update sending fun _ => nofun)
  | reused | allocated | retried | concluded | closed | canceled => exact .inl sending
  | received | ticked =>
      rw [enterFlush_calls] at sending
      exact .inl sending
  | answered =>
      rw [leave_calls] at sending
      exact .inl sending
  | sendPanics answering panics => exact absurd panics (replies.unpanicking answering)
  | drained =>
      rw [leave_calls, enterFlush_calls] at sending
      exact .inl sending

/-- Only `Stop` closes the channel. -/
theorem closed_of_step (replies : operation.Replies) (step : operation.step label = some next)
    (closed : next.engine.closed = true) : operation.engine.closed = true ∨ label = .close := by
  have happens := happens_of_step step
  cases happens with
  | called | panicked | sent | left | done | reused | allocated | retried | concluded | canceled =>
      exact .inl closed
  | handed | received | ticked =>
      rw [enterFlush_engine] at closed
      exact .inl closed
  | answered =>
      rw [leave_engine] at closed
      exact .inl closed
  | sendPanics answering panics => exact absurd panics (replies.unpanicking answering)
  | drained =>
      rw [leave_engine, enterFlush_engine] at closed
      exact .inl closed
  | closed => exact .inr rfl

/-- When the callers have stopped before the close, none sends after it. -/
theorem CallersStopped.unsending (stopped : CallersStopped behavior)
    (begins : behavior.stateAt 0 = .start batchSize count) (moment : Nat)
    (closed : (behavior.stateAt moment).engine.closed = true) (call : Call) :
    ¬((behavior.stateAt moment).calls call).IsSending := by
  have invs := inv_always begins
  induction moment with
  | zero =>
      rw [begins] at closed
      cases closed
  | succ moment inductionHypothesis =>
      intro sending
      have before := stopped.before moment
      have after := stopped.after moment
      have now := behavior.moment moment
      generalize behavior.labelAt moment = label at before after now
      cases now with
      | rest same => exact inductionHypothesis (same ▸ closed) (same ▸ sending)
      | step step =>
          have replies := (invs moment).replies
          have shut := closed_of_step replies step closed
          rcases sending_of_step replies step sending with already | ⟨event, rfl⟩
          · rcases shut with shut | rfl
            · exact inductionHypothesis shut already
            · exact before rfl call already
          · rcases shut with shut | wrong
            · rw [after call event rfl] at shut
              cases shut
            · cases wrong

/-- So every send finds the channel open. -/
theorem CallersStopped.sendsOpen (stopped : CallersStopped behavior)
    (begins : behavior.stateAt 0 = .start batchSize count) : SendsOpen behavior := by
  intro moment call taken
  cases closed : (behavior.stateAt moment).engine.closed with
  | false => rfl
  | true =>
      have now := behavior.moment moment
      rw [taken] at now
      cases now with
      | step step =>
          have live := stepLive_of_step step
          simp only [stepLive] at live
          split at live
          · rename_i event offered
            exact absurd ⟨event, offered⟩ (stopped.unsending begins moment closed call)
          · cases live

/-- The order in which `main` stops things is enough. -/
theorem CallersStopped.shutsDown (stopped : CallersStopped behavior)
    (begins : behavior.stateAt 0 = .start batchSize count) (workers : 0 < count)
    (fair : FairWorkers count behavior) (calls : FairCalls behavior) : ShutsDown behavior :=
  (stopped.sendsOpen begins).shutsDown begins workers fair calls

/-- The engine shuts down cleanly in exactly the runs in which no call takes its
send case on the closed channel. -/
theorem shutsDown_iff (batchSize count : Nat) (behavior : (operationMachine Call Event).Behavior)
    (begins : behavior.stateAt 0 = .start batchSize count) (workers : 0 < count)
    (fair : FairWorkers count behavior) (calls : FairCalls behavior) :
    ShutsDown behavior ↔ SendsOpen behavior := by
  constructor
  · intro down moment call taken
    have now := behavior.moment moment
    rw [taken] at now
    cases now with
    | step step =>
        cases closed : (behavior.stateAt moment).engine.closed with
        | false => rfl
        | true =>
            have panicked := panicked_of_send closed step
            exact absurd panicked ((down.unpanicked (moment + 1)).2 call)
  · exact fun opened => opened.shutsDown begins workers fair calls

/-!
## Runs to the end
-/

/-- Nobody has anything left to do. -/
structure AtRest (count : Nat) (operation : Operation Call Event) : Prop where
  workers : ∀ index < count, operation.Returned index
  calls : ∀ call, (operation.calls call).IsOver

/-- A call that is over takes no step. -/
theorem AtRest.call_disabled (rests : operation.AtRest count) {action : CallAction}
    (acts : action.labels call label) : operation.step label = none := by
  have past := rests.calls call
  unfold Operation.step
  split
  · rfl
  · cases phase : operation.calls call with
    | idle | sending event | waiting =>
        rw [phase] at past
        rcases past with wrong | wrong <;> cases wrong
    | answered _ | left _ | panicked =>
        cases action with
        | enter =>
            rcases acts with rfl | ⟨index, rfl⟩ | rfl <;> simp [stepLive, phase]
        | wait =>
            obtain rfl := acts
            simp [stepLive, phase]

variable {start final : Operation Call Event} {labels : List (OperationLabel Call Event)}

/-- A run that leaves nothing to do is a fair one. -/
theorem AtRest.fairWorkers (run : (operationMachine Call Event).exec start labels = some final)
    (rests : final.AtRest count) : FairWorkers count (Machine.Behavior.ofRun run) :=
  fun _ started _ =>
    Machine.Behavior.ofRun_fair run fun _ acts => step_of_isStopped (rests.workers _ started) acts

theorem AtRest.fairCalls (run : (operationMachine Call Event).exec start labels = some final)
    (rests : final.AtRest count) : FairCalls (Machine.Behavior.ofRun run) :=
  fun _ _ => Machine.Behavior.ofRun_fair run fun _ acts => rests.call_disabled acts

/-- The delivery leaves nothing to do. -/
theorem delivered_atRest : delivered.AtRest 2 where
  workers := delivered_stopped
  calls := by
    have returned : ∀ call, (delivered.calls call).returned.isSome = true := by decide +kernel
    exact fun call => .inl (returned call)

/-- Whether a send finds the channel open. -/
def sendsOpen (operation : Operation Call Event) : OperationLabel Call Event → Bool
  | .send _ => !operation.engine.closed
  | _ => true

/-- Four calls send before the close, the last of them an event that is received after
it; a fifth begins after the close and never sends. -/
theorem shutsDown_delivery : ShutsDown (Machine.Behavior.ofRun delivery) := by
  refine (shutsDown_iff 2 2 _ rfl Nat.two_pos (delivered_atRest.fairWorkers delivery)
    (delivered_atRest.fairCalls delivery)).mpr ?_
  have guarded : (operationMachine (Fin 5) Nat).Guarded
      (fun operation label => operation.sendsOpen label = true) (.start 2 2) deliveryLabels :=
    Machine.guarded_of_passes (fun _ _ => id) (by decide +kernel)
  intro moment call taken
  have opened := Machine.Behavior.ofRun_guarded delivery guarded taken
  simpa only [sendsOpen, Bool.not_eq_true'] using opened

/-- `Stop` finds a call at its first `select`. -/
def strandedLabels : List (OperationLabel Unit Unit) :=
  [.start 0 none, .addEvent () (), .close, .send (), .drain 0, .cancel]

def stranded : Operation Unit Unit :=
  ((operationMachine Unit Unit).exec (.start 1000 1) strandedLabels).getD (.start 1000 1)

theorem stranding : (operationMachine Unit Unit).exec (.start 1000 1) strandedLabels =
    some stranded := rfl

/-- When the call has panicked there is nothing left to do. -/
theorem stranded_atRest : stranded.AtRest 1 where
  workers := by
    intro index started
    obtain rfl := Nat.lt_one_iff.mp started
    rfl
  calls := fun _ => .inr rfl

/-- The call that was stranded panics on the closed channel. -/
theorem shutsDown_fails :
    ¬∀ (batchSize count : Nat) (behavior : (operationMachine Unit Unit).Behavior),
      behavior.stateAt 0 = .start batchSize count → 0 < count → FairWorkers count behavior →
        FairCalls behavior → ShutsDown behavior := by
  intro always
  have down := always 1000 1 (Machine.Behavior.ofRun stranding) rfl Nat.one_pos
    (stranded_atRest.fairWorkers stranding) (stranded_atRest.fairCalls stranding)
  exact (down.unpanicked 4).2 () rfl

end Operation
end Sentinel.Analytics
