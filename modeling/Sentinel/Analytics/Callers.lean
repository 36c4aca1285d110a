import Sentinel.Analytics.Acknowledgement

/-!
# The calls of AddEvent go on

What a step can make of a call, and that under fairness a call which has begun
comes to its end: past its first `select` because the channel gets room again
and again, past its second because its item comes to be answered.
-/

namespace Sentinel.Analytics

open Sentinel.Semantics

variable {Call Event : Type}

/-- What one step of the system can make of a call. -/
inductive CallPhase.Turn (phase : CallPhase Event) : CallPhase Event → Prop where
  | rest : phase.Turn phase
  | called (event : Event) (idle : phase = .idle) : phase.Turn (.sending event)
  | entered {event : Event} (offered : phase = .sending event) : phase.Turn .waiting
  | panicked {event : Event} (offered : phase = .sending event) : phase.Turn .panicked
  | left (error : EngineError) (inside : (∃ event, phase = .sending event) ∨ phase = .waiting) :
      phase.Turn (.left error)
  | answered (result : Option EngineError) (waiting : phase = .waiting) :
      phase.Turn (.answered result)

namespace CallPhase

/-- At the first `select`. -/
def IsSending (phase : CallPhase Event) : Prop := ∃ event, phase = .sending event

/-- The call is over, one way or the other. -/
def IsOver (phase : CallPhase Event) : Prop := phase.returned.isSome = true ∨ phase = .panicked

/-- From its first `select` a call goes on to wait, or is over. -/
theorem Turn.of_sending {phase next : CallPhase Event} (turn : phase.Turn next)
    (sending : phase.IsSending) : next.IsSending ∨ next = .waiting ∨ next.IsOver := by
  obtain ⟨event, rfl⟩ := sending
  cases turn with
  | rest => exact .inl ⟨event, rfl⟩
  | called other idle => cases idle
  | entered offered => exact .inr (.inl rfl)
  | panicked offered => exact .inr (.inr (.inr rfl))
  | left error inside => exact .inr (.inr (.inl rfl))
  | answered result waiting => cases waiting

/-- From its second `select` a call can only return. -/
theorem Turn.of_waiting {phase next : CallPhase Event} (turn : phase.Turn next)
    (waiting : phase = .waiting) : next = .waiting ∨ next.IsOver := by
  subst waiting
  cases turn with
  | rest => exact .inl rfl
  | called other idle => cases idle
  | entered offered | panicked offered => cases offered
  | left error inside => exact .inr (.inl rfl)
  | answered result waiting => exact .inr (.inl rfl)

end CallPhase

namespace Operation

/-- What holds of the channel and of the calls on top of `Inv`. -/
structure Serves (operation : Operation Call Event) : Prop where
  bounded : operation.engine.eventChan.length ≤ operation.engine.capacity
  waits : ∀ call, operation.calls call = .waiting → ∃ item ∈ operation.accepted, item.done = call

/-- At the start no call has begun. -/
theorem Serves.start (batchSize count : Nat) :
    (Operation.start batchSize count : Operation Call Event).Serves where
  bounded := Nat.zero_le _
  waits := nofun

variable [DecidableEq Call] {operation next : Operation Call Event}
  {label : OperationLabel Call Event} {batchSize count index : Nat}

/-- A step moves one call at most. -/
theorem turn_of_update {calls : Call → CallPhase Event} {call : Call} {phase : CallPhase Event}
    (turn : (calls call).Turn phase) (other : Call) :
    (calls other).Turn (Function.update calls call phase other) := by
  by_cases own : other = call
  · rw [own, Function.update_self]
    exact turn
  · rw [Function.update_of_ne own]
    exact .rest

/-- A step takes every call one turn further, or leaves it where it is. -/
theorem Happens.turn (replies : operation.Replies) (happens : operation.Happens label next)
    (call : Call) : (operation.calls call).Turn (next.calls call) := by
  cases happens with
  | called idle => exact turn_of_update (.called _ idle) call
  | panicked offered => exact turn_of_update (.panicked offered) call
  | sent offered opened => exact turn_of_update (.entered offered) call
  | handed offered =>
      rw [enterFlush_calls]
      exact turn_of_update (.entered offered) call
  | left inside outside => exact turn_of_update (.left _ inside) call
  | done waiting received => exact turn_of_update (.answered _ waiting) call
  | reused | allocated | retried | concluded | closed | canceled => exact .rest
  | received | ticked =>
      rw [enterFlush_calls]
      exact .rest
  | answered =>
      rw [leave_calls]
      exact .rest
  | sendPanics answering panics => exact absurd panics (replies.unpanicking answering)
  | drained =>
      rw [leave_calls, enterFlush_calls]
      exact .rest

/-- A step is one of a process that is alive. -/
theorem stepLive_of_step (step : operation.step label = some next) :
    operation.stepLive label = some next := by
  unfold Operation.step at step
  split at step
  · cases step
  · exact step

/-- A send goes through on an open channel only if there is room. -/
theorem room_of_send {call : Call} (opened : operation.engine.closed = false)
    (step : operation.step (.send call) = some next) :
    operation.engine.eventChan.length < operation.engine.capacity := by
  have live := stepLive_of_step step
  simp only [stepLive, Engine.stepLive, opened, Bool.false_eq_true, if_false] at live
  split at live
  · split at live
    · assumption
    · cases live
  · cases live

/-- What was sent on the channel stays on record. -/
theorem Happens.accepted_grows (replies : operation.Replies)
    (happens : operation.Happens label next) : operation.accepted <+: next.accepted := by
  cases happens with
  | called | panicked | left | done | reused | allocated | retried | concluded | closed
  | canceled => exact List.prefix_refl _
  | sent => exact List.prefix_append _ _
  | handed =>
      rw [enterFlush_accepted]
      exact List.prefix_append _ _
  | received | ticked =>
      refine ⟨[], (List.append_nil _).trans (Eq.symm ?_)⟩
      exact enterFlush_accepted ..
  | answered =>
      refine ⟨[], (List.append_nil _).trans (Eq.symm ?_)⟩
      exact leave_accepted ..
  | sendPanics answering panics => exact absurd panics (replies.unpanicking answering)
  | drained =>
      refine ⟨[], (List.append_nil _).trans (Eq.symm ?_)⟩
      exact (leave_accepted ..).trans (enterFlush_accepted ..)

/-- A phase that no step leads to is not reached. -/
theorem ne_of_update {calls : Call → CallPhase Event} {call other : Call}
    {phase avoided : CallPhase Event} (before : calls call ≠ avoided)
    (elsewhere : phase ≠ avoided) : Function.update calls other phase call ≠ avoided := by
  by_cases own : call = other
  · rw [own, Function.update_self]
    exact elsewhere
  · rw [Function.update_of_ne own]
    exact before

/-- The call whose item was sent is the one that waits now. -/
theorem mem_of_accept {item : QueuedEvent Call Event} {call : Call} {event : Event}
    (sender : operation.calls item.done = .sending item.event)
    (offered : operation.calls call = .sending event)
    (waiting : (operation.accept item).calls call = .waiting) :
    ⟨event, call⟩ ∈ (operation.accept item).accepted := by
  by_cases own : call = item.done
  · subst own
    rw [sender] at offered
    cases offered
    exact List.mem_append_right _ List.mem_cons_self
  · have still : (operation.accept item).calls call = operation.calls call :=
      Function.update_of_ne own ..
    rw [still, offered] at waiting
    cases waiting

/-- A call gets to its second `select` only with its item sent. -/
theorem Happens.sent_of_entered (replies : operation.Replies)
    (happens : operation.Happens label next) {call : Call} {event : Event}
    (offered : operation.calls call = .sending event) (waiting : next.calls call = .waiting) :
    ⟨event, call⟩ ∈ next.accepted := by
  cases happens with
  | called | panicked | left | done =>
      exact absurd waiting (ne_of_update (by rw [offered]; nofun) nofun)
  | sent sender opened => exact mem_of_accept sender offered waiting
  | handed sender =>
      rw [enterFlush_calls] at waiting
      rw [enterFlush_accepted]
      exact mem_of_accept sender offered waiting
  | reused | allocated | retried | concluded | closed | canceled =>
      cases offered.symm.trans waiting
  | received | ticked =>
      rw [enterFlush_calls] at waiting
      cases offered.symm.trans waiting
  | answered =>
      rw [leave_calls] at waiting
      cases offered.symm.trans waiting
  | sendPanics answering panics => exact absurd panics (replies.unpanicking answering)
  | drained =>
      rw [leave_calls, enterFlush_calls] at waiting
      cases offered.symm.trans waiting

/-- The channel never holds more than fits. -/
theorem Serves.bounded_step (serves : operation.Serves) (replies : operation.Replies)
    (step : operation.step label = some next) :
    next.engine.eventChan.length ≤ next.engine.capacity := by
  have happens := happens_of_step step
  have bounded := serves.bounded
  cases happens with
  | called | panicked | left | done | reused | allocated | retried | concluded | closed
  | canceled => exact bounded
  | @sent call event offered opened =>
      have room := room_of_send opened step
      change (operation.engine.eventChan ++ [_]).length ≤ operation.engine.capacity
      rw [List.length_append, List.length_singleton]
      exact room
  | handed | ticked =>
      rw [enterFlush_engine]
      exact bounded
  | @received index item rest front =>
      rw [enterFlush_engine]
      rw [front, List.length_cons] at bounded
      exact Nat.le_of_succ_le bounded
  | answered =>
      rw [leave_engine]
      exact bounded
  | sendPanics answering panics => exact absurd panics (replies.unpanicking answering)
  | drained =>
      rw [leave_engine, enterFlush_engine]
      exact bounded

/-- The channel stays within its capacity and every entered call keeps its item. -/
theorem Serves.step (serves : operation.Serves) (replies : operation.Replies)
    (step : operation.step label = some next) : next.Serves where
  bounded := serves.bounded_step replies step
  waits := by
    intro call waiting
    have happens := happens_of_step step
    have turn := happens.turn replies call
    rw [waiting] at turn
    generalize before : operation.calls call = phase at turn
    cases turn with
    | rest =>
        obtain ⟨item, accepted, same⟩ := serves.waits call before
        exact ⟨item, (happens.accepted_grows replies).subset accepted, same⟩
    | entered offered =>
        exact ⟨_, happens.sent_of_entered replies (before.trans offered) waiting, rfl⟩

end Operation

/-!
## What a call can do
-/

/-- The things that a call of `AddEvent` does by itself. That its context ends
is not one of them: the context of a request never does. -/
inductive CallAction where
  | enter
  | wait

/-- The labels by which the call does it. -/
def CallAction.labels (action : CallAction) (call : Call) (label : OperationLabel Call Event) :
    Prop :=
  match action with
  | .enter => label = .send call ∨ (∃ index, label = .handoff call index) ∨ label = .canceled call
  | .wait => label = .done call

namespace Operation

/-- A worker has answered the call. -/
def HasReply (call : Call) (operation : Operation Call Event) : Prop :=
  ∃ result, operation.engine.done call = [result]

/-- A call at its first `select` can go on, if only to its panic. -/
def Admits (operation : Operation Call Event) : Prop :=
  operation.engine.closed = true ∨
    operation.engine.eventChan.length < operation.engine.capacity ∨
      operation.engine.eventChan = [] ∧ ∃ index, operation.running index = true ∧
        (operation.engine.workers index).phase = .selecting

variable [DecidableEq Call] {operation next : Operation Call Event}
  {label : OperationLabel Call Event} {batchSize count index : Nat} {call : Call}

@[simp] theorem setCall_self (phase : CallPhase Event) :
    (operation.setCall call phase).calls call = phase := Function.update_self ..

/-- A call at its first `select` can enter as long as the engine admits one. -/
theorem Inv.canEnter (inv : operation.Inv batchSize count) (admits : operation.Admits)
    (sending : (operation.calls call).IsSending) :
    (operationMachine Call Event).Enabled (CallAction.enter.labels call) operation := by
  obtain ⟨event, offered⟩ := sending
  have alive := inv.closing.alive
  cases closed : operation.engine.closed with
  | true =>
      have able : ∃ next, operation.step (.send call) = some next := by
        simp only [Operation.step, alive, Bool.false_eq_true, if_false, stepLive, offered, closed,
          if_true]
        exact ⟨_, rfl⟩
      obtain ⟨next, step⟩ := able
      exact ⟨_, next, .inl rfl, step⟩
  | false =>
      rcases admits with shut | room | ⟨empty, index, running, selecting⟩
      · rw [closed] at shut
        cases shut
      · have able : ∃ next, operation.step (.send call) = some next := by
          simp only [Operation.step, alive, Bool.false_eq_true, if_false, stepLive, offered, closed,
            Engine.stepLive, room, if_true, Option.map_some]
          exact ⟨_, rfl⟩
        obtain ⟨next, step⟩ := able
        exact ⟨_, next, .inl rfl, step⟩
      · have able : ∃ next, operation.step (.handoff call index) = some next := by
          simp only [Operation.step, alive, Bool.false_eq_true, if_false, stepLive, offered,
            running, Engine.stepLive, closed, empty, selecting, Option.map_some]
          exact ⟨_, rfl⟩
        obtain ⟨next, step⟩ := able
        exact ⟨_, next, .inr (.inl ⟨index, rfl⟩), step⟩

/-- What a worker answered is there for the call to take. -/
theorem Inv.canWait (inv : operation.Inv batchSize count)
    (waiting : operation.calls call = .waiting) (replied : operation.HasReply call) :
    (operationMachine Call Event).Enabled (CallAction.wait.labels call) operation := by
  obtain ⟨result, sent⟩ := replied
  have fits := inv.replies.channels call
  rw [sent, waiting] at fits
  rcases fits with ⟨answered, _⟩ | ⟨_, channel⟩
  · cases answered
  · have able : ∃ next, operation.step (.done call) = some next := by
      simp only [Operation.step, inv.closing.alive, Bool.false_eq_true, if_false, stepLive,
        waiting, channel, Channel.receive]
      exact ⟨_, rfl⟩
    obtain ⟨next, step⟩ := able
    exact ⟨_, next, rfl, step⟩

/-- Past its first `select`. -/
def Entered (call : Call) (operation : Operation Call Event) : Prop :=
  operation.calls call = .waiting ∨ (operation.calls call).IsOver

/-- Every way to enter ends the first `select`. -/
theorem Happens.of_enter (happens : operation.Happens label next)
    (enters : CallAction.enter.labels call label) : next.Entered call := by
  rcases enters with rfl | ⟨index, rfl⟩ | rfl
  · cases happens with
    | panicked offered =>
        exact .inr (.inr (Function.update_self ..))
    | sent offered opened => exact .inl (Function.update_self ..)
    | left inside outside => rcases outside with wrong | wrong <;> cases wrong
  · cases happens with
    | handed offered =>
        refine .inl ?_
        rw [enterFlush_calls]
        exact Function.update_self ..
    | left inside outside => rcases outside with wrong | wrong <;> cases wrong
  · cases happens with
    | @left _ other error inside outside =>
        rcases outside with same | wrong
        · cases same
          refine .inr (.inl ?_)
          rw [setCall_self]
          rfl
        · cases wrong

/-- An answered call is over. -/
theorem Happens.of_done (happens : operation.Happens (.done call) next) :
    (next.calls call).IsOver := by
  cases happens with
  | done waiting received =>
      refine .inl ?_
      rw [setCall_self]
      rfl
  | left inside outside => rcases outside with wrong | wrong <;> cases wrong

/-- A call is at its first `select` until it enters. -/
theorem Inv.sending_step (inv : operation.Inv batchSize count)
    (sending : (operation.calls call).IsSending) (step : operation.step label = some next) :
    (next.calls call).IsSending ∨ next.Entered call :=
  ((happens_of_step step).turn inv.replies call).of_sending sending

/-- A call waits until it is over. -/
theorem Inv.waiting_step (inv : operation.Inv batchSize count)
    (waiting : operation.calls call = .waiting) (step : operation.step label = some next) :
    next.calls call = .waiting ∨ (next.calls call).IsOver :=
  ((happens_of_step step).turn inv.replies call).of_waiting waiting

/-- What a worker receives makes room on the channel. -/
theorem Happens.room_of_receive (happens : operation.Happens (.receive index) next)
    (bounded : operation.engine.eventChan.length ≤ operation.engine.capacity) :
    next.engine.eventChan.length < next.engine.capacity := by
  cases happens with
  | received front =>
      rw [enterFlush_engine]
      rw [front, List.length_cons] at bounded
      exact bounded
  | left inside outside => rcases outside with wrong | wrong <;> cases wrong

/-!
## Progress
-/

variable {behavior : (operationMachine Call Event).Behavior}

/-- The behavior is fair to everything that its callers do by themselves. -/
def FairCalls (behavior : (operationMachine Call Event).Behavior) : Prop :=
  ∀ call, ∀ action : CallAction, behavior.Fair (action.labels call)

/-- What holds of the calls holds at every moment. -/
theorem serves_always (begins : behavior.stateAt 0 = .start batchSize count)
    (moment : Nat) : (behavior.stateAt moment).Serves := by
  refine Machine.Behavior.always_given (inv_always begins) ?_
    (fun inv kept step => kept.step inv.replies step) moment
  rw [begins]
  exact .start batchSize count

section LeadsTo

variable (invs : ∀ moment, (behavior.stateAt moment).Inv batchSize count)
  (serves : ∀ moment, (behavior.stateAt moment).Serves) (workers : 0 < count)
  (fair : FairWorkers count behavior)

include invs serves workers fair

/-- Again and again there is room on the channel, or a worker at the other end of it. -/
theorem admits_again (start : Nat) :
    ∃ moment, start ≤ moment ∧ (behavior.stateAt moment).Admits := by
  have admitted : behavior.LeadsTo (fun _ => True) Admits := by
    refine Machine.Behavior.leadsTo_of_fair (fair 0 workers .receive) serves
      (fun _ _ _ => .inl trivial) ?_ ?_
    · intro origin _
      obtain ⟨moment, later, ⟨selecting, running⟩ | stopped⟩ :=
        ready_again invs fair workers origin
      · refine ⟨moment, later, ?_⟩
        by_cases empty : (behavior.stateAt moment).engine.eventChan = []
        · exact .inl (.inr (.inr ⟨empty, 0, running, selecting⟩))
        · obtain ⟨next, step⟩ := (invs moment).canReceive running selecting empty
          exact .inr ⟨_, next, rfl, step⟩
      · have closed := ((invs moment).closing.settled 0 workers (.inl stopped)).1
        exact ⟨moment, later, .inl (.inl closed)⟩
    · rintro operation label next serves _ rfl step
      exact .inr (.inl ((happens_of_step step).room_of_receive serves.bounded))
  exact admitted start trivial

/-- A call comes past its first `select`. -/
theorem sending_leadsTo (calls : FairCalls behavior) (call : Call) :
    behavior.LeadsTo (fun operation => (operation.calls call).IsSending) (Entered call) := by
  refine Machine.Behavior.leadsTo_of_recurrent (calls call .enter) invs
    (fun inv sending step => inv.sending_step sending step)
    (admits_again invs serves workers fair) ?_ ?_
  · exact fun inv sending admits => .inr (inv.canEnter admits sending)
  · rintro operation label next inv _ enters step
    exact (happens_of_step step).of_enter enters

/-- A call that waits comes to its answer, or gives up before. -/
theorem waiting_leadsTo (calls : FairCalls behavior) (call : Call) :
    behavior.LeadsTo (fun operation => operation.calls call = .waiting)
      (fun operation => (operation.calls call).IsOver) := by
  intro start waiting
  obtain ⟨item, accepted, own⟩ := (serves start).waits call waiting
  obtain ⟨since, _, settled⟩ := settled_eventually invs workers fair accepted
  have answered : ∀ origin, ∃ moment, origin ≤ moment ∧
      (behavior.stateAt moment).HasReply call := by
    intro origin
    refine ⟨max origin since, Nat.le_max_left .., ?_⟩
    exact own ▸ (settled _ (Nat.le_max_right ..)).answer
  refine Machine.Behavior.leadsTo_of_recurrent (calls call .wait) invs
    (fun inv waiting step => inv.waiting_step waiting step) answered ?_ ?_ start waiting
  · exact fun inv waiting replied => .inr (inv.canWait waiting replied)
  · rintro operation label next inv _ rfl step
    exact (happens_of_step step).of_done

/-- A call that has begun comes to its end. -/
theorem over_eventually (calls : FairCalls behavior) {call : Call} {moment : Nat}
    (begun : (behavior.stateAt moment).calls call ≠ .idle) :
    ∃ later, moment ≤ later ∧ ((behavior.stateAt later).calls call).IsOver := by
  cases phase : (behavior.stateAt moment).calls call with
  | idle => exact absurd phase begun
  | sending event =>
      obtain ⟨middle, later, waiting | past⟩ :=
        sending_leadsTo invs serves workers fair calls call moment ⟨event, phase⟩
      · obtain ⟨last, further, past⟩ :=
          waiting_leadsTo invs serves workers fair calls call middle waiting
        exact ⟨last, Nat.le_trans later further, past⟩
      · exact ⟨middle, later, past⟩
  | waiting => exact waiting_leadsTo invs serves workers fair calls call moment phase
  | answered result => exact ⟨moment, Nat.le_refl moment, .inl (by rw [phase]; rfl)⟩
  | left error => exact ⟨moment, Nat.le_refl moment, .inl (by rw [phase]; rfl)⟩
  | panicked => exact ⟨moment, Nat.le_refl moment, .inr phase⟩

end LeadsTo
end Operation
end Sentinel.Analytics
