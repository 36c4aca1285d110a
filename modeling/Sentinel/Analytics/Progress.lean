import Sentinel.Analytics.BatchSlices
import Sentinel.Analytics.DoneChannels

/-!
# The workers go on

What a step can make of a worker, when each of a worker's steps is possible,
and that under fairness everything that was sent is received, flushed and
answered.
-/

namespace Sentinel.Analytics

open Sentinel.Semantics

variable {Call Event : Type}

/-- What one step of the system can make of a worker. -/
inductive Worker.Turn (batchSize : Nat) (worker : Worker Call Event) : Worker Call Event → Prop where
  | rest : worker.Turn batchSize worker
  | collected (item : QueuedEvent Call Event) (selecting : worker.phase = .selecting) :
      worker.Turn batchSize (worker.collect batchSize item)
  | flushed (selecting : worker.phase = .selecting) : worker.Turn batchSize worker.flush
  | drained (selecting : worker.phase = .selecting) :
      worker.Turn batchSize ({ worker with draining := true } : Worker Call Event).flush
  | retried {attempt : Nat} (inserting : worker.phase = .inserting attempt) :
      worker.Turn batchSize { worker with phase := .inserting (attempt + 1) }
  | concluded {attempt : Nat} (result : Option EngineError)
      (inserting : worker.phase = .inserting attempt) :
      worker.Turn batchSize (worker.answer result worker.batch)
  | answered {result : Option EngineError} {item : QueuedEvent Call Event}
      {rest : List (QueuedEvent Call Event)}
      (answering : worker.phase = .answering result (item :: rest)) :
      worker.Turn batchSize (worker.answer result rest)

namespace Worker

variable {worker next : Worker Call Event} {batchSize : Nat}

/-- A flush begins no last round. -/
theorem draining_flush : worker.flush.draining = worker.draining := by
  unfold flush
  split <;> rfl

theorem draining_collect {item : QueuedEvent Call Event} :
    (worker.collect batchSize item).draining = worker.draining := by
  unfold collect
  split
  · exact draining_flush
  · rfl

theorem draining_answer {result : Option EngineError} {rest : List (QueuedEvent Call Event)} :
    (worker.answer result rest).draining = worker.draining := by
  unfold answer
  split <;> rfl

/-- A worker stops on its last round only. -/
theorem draining_of_isStopped_resume (stopped : worker.resume.isStopped = true) :
    worker.draining = true := by
  unfold resume at stopped
  cases draining : worker.draining with
  | true => rfl
  | false =>
      rw [draining] at stopped
      cases stopped

/-- So it does when there was nothing to flush. -/
theorem draining_of_isStopped_flush (stopped : worker.flush.isStopped = true) :
    worker.draining = true := by
  unfold flush at stopped
  split at stopped
  · exact draining_of_isStopped_resume stopped
  · cases stopped

/-- So it does after its last answer. -/
theorem draining_of_isStopped_answer {result : Option EngineError}
    {rest : List (QueuedEvent Call Event)}
    (stopped : (worker.answer result rest).isStopped = true) : worker.draining = true := by
  unfold answer at stopped
  split at stopped
  · exact draining_of_isStopped_resume stopped
  · cases stopped

/-- Only a worker that found the channel closed stops. -/
theorem Turn.draining_of_isStopped (turn : worker.Turn batchSize next)
    (stopped : next.isStopped = true) : worker.isStopped = true ∨ next.draining = true := by
  cases turn with
  | rest => exact .inl stopped
  | collected item selecting =>
      unfold collect at stopped ⊢
      split at stopped
      · rename_i full
        rw [if_pos full, draining_flush]
        exact .inr (draining_of_isStopped_flush stopped)
      · simp only [isStopped, selecting] at stopped
        cases stopped
  | flushed selecting => exact .inr (draining_flush.trans (draining_of_isStopped_flush stopped))
  | drained selecting => exact .inr draining_flush
  | retried inserting => cases stopped
  | concluded result inserting =>
      exact .inr (draining_answer.trans (draining_of_isStopped_answer stopped))
  | answered answering =>
      exact .inr (draining_answer.trans (draining_of_isStopped_answer stopped))

/-- The check of the phase, read back. -/
theorem phase_of_isStopped (stopped : worker.isStopped = true) : worker.phase = .stopped := by
  unfold isStopped at stopped
  split at stopped
  · assumption
  all_goals cases stopped

/-- A worker that has stopped has no more turns. -/
theorem Turn.of_isStopped (turn : worker.Turn batchSize next) (stopped : worker.isStopped = true) :
    next = worker := by
  have phase := phase_of_isStopped stopped
  cases turn with
  | rest => rfl
  | collected item selecting | flushed selecting | drained selecting =>
      rw [phase] at selecting
      cases selecting
  | retried inserting | concluded result inserting =>
      rw [phase] at inserting
      cases inserting
  | answered answering =>
      rw [phase] at answering
      cases answering

end Worker

namespace Operation

/-- What one step can make of the channel, a worker and its desk: things are
only taken from the front of the channel, and histories only grow. -/
structure Advances (operation next : Operation Call Event) (index : Nat) : Prop where
  turn : (operation.engine.workers index).Turn operation.engine.batchSize
    (next.engine.workers index)
  received : (operation.desks index).received <+: (next.desks index).received
  flushes : (operation.desks index).flushes <+: (next.desks index).flushes
  /-- Without its slice a worker is not at its loop yet. -/
  resting : operation.running index = false →
    (operation.engine.workers index).phase = .selecting →
      next.engine.workers index = operation.engine.workers index
  drains : (next.engine.workers index).draining = true →
    (operation.engine.workers index).draining = true ∨
      operation.engine.closed = true ∧ operation.engine.eventChan = []

/-- A worker that did not move has advanced. -/
theorem Advances.rest {operation next : Operation Call Event} {index : Nat}
    (workers : next.engine.workers index = operation.engine.workers index)
    (desks : next.desks index = operation.desks index) : operation.Advances next index where
  turn := workers ▸ .rest
  received := desks ▸ List.prefix_refl _
  flushes := desks ▸ List.prefix_refl _
  resting := fun _ _ => workers
  drains := fun draining => .inl (workers ▸ draining)

/-- A move of one worker, by a turn of its loop, advances it. -/
theorem Moves.advances {operation next : Operation Call Event} {index : Nat}
    {worker : Worker Call Event} {desk : Desk Call Event}
    (moves : operation.Moves next index worker desk)
    (turn : (operation.engine.workers index).Turn operation.engine.batchSize worker)
    (received : (operation.desks index).received <+: desk.received)
    (flushes : (operation.desks index).flushes <+: desk.flushes)
    (resting : operation.running index = false →
      (operation.engine.workers index).phase = .selecting → worker = operation.engine.workers index)
    (drains : worker.draining = true → (operation.engine.workers index).draining = true ∨
      operation.engine.closed = true ∧ operation.engine.eventChan = [])
    (other : Nat) : operation.Advances next other := by
  by_cases own : other = index
  · rw [own]
    constructor
    · rw [moves.worker_self]
      exact turn
    · rw [moves.desk.received]
      exact received
    · rw [moves.desk.flushes]
      exact flushes
    · rw [moves.worker_self]
      exact resting
    · rw [moves.worker_self]
      exact drains
  · exact .rest (moves.worker_of_ne own) (moves.desks other own)

/-- A flush that begins starts and stops no worker. -/
theorem running_enterFlush (operation : Operation Call Event) (index other : Nat) :
    (operation.enterFlush index).running other = operation.running other := by
  unfold enterFlush
  split
  · rename_i pointer borrowed inserts
    by_cases own : other = index
    · rw [own, Operation.running, setDesk_self]
      rfl
    · rw [Operation.running, setDesk_of_ne _ _ own]
      rfl
  · rfl

/-- A worker gives its slice back only when it stops. -/
theorem running_leave (operation : Operation Call Event) {index other : Nat}
    (running : operation.running other = true) :
    (operation.leave index).running other = true ∨
      (operation.engine.workers other).isStopped = true := by
  unfold leave
  split
  · rename_i pointer stopped borrowed
    by_cases own : other = index
    · rw [own]
      exact .inr borrowed
    · rw [Operation.running, setDesk_of_ne _ _ own]
      exact .inl running
  · exact .inl running

/-- A desk that keeps its slice keeps its worker running. -/
theorem running_setDesk {operation : Operation Call Event} {index other : Nat}
    {desk : Desk Call Event} (running : operation.running other = true)
    (borrowed : operation.running index = true → desk.batchPtr.isSome = true) :
    (operation.setDesk index desk).running other = true := by
  by_cases own : other = index
  · rw [own] at running ⊢
    rw [Operation.running, setDesk_self]
    exact borrowed running
  · rw [Operation.running, setDesk_of_ne _ _ own]
    exact running

/-- When workers stop, and which of them are at their loop. -/
structure Closing (count : Nat) (operation : Operation Call Event) : Prop where
  alive : operation.engine.panicked = false
  settled : ∀ index < count, ((operation.engine.workers index).isStopped = true ∨
    (operation.engine.workers index).draining = true) →
      operation.engine.closed = true ∧ operation.engine.eventChan = []
  idle : ∀ index, operation.running index = false →
    (operation.engine.workers index).phase = .selecting ∧
      (operation.engine.workers index).batch = [] ∨
        (operation.engine.workers index).isStopped = true
  unstarted : ∀ index, count ≤ index → (operation.engine.workers index).isStopped = true

/-- At the start no worker has its slice. -/
theorem Closing.start (batchSize count : Nat) :
    (Operation.start batchSize count : Operation Call Event).Closing count where
  alive := rfl
  settled := by
    intro index started ended
    simp only [Operation.start, Engine.start, if_pos started] at ended
    rcases ended with stopped | draining
    · cases stopped
    · cases draining
  idle := by
    intro index resting
    simp only [Operation.start, Engine.start]
    split
    · exact .inl ⟨rfl, rfl⟩
    · exact .inr rfl
  unstarted := by
    intro index beyond
    simp only [Operation.start, Engine.start, if_neg (Nat.not_lt.mpr beyond)]
    rfl

variable [DecidableEq Call] {operation next : Operation Call Event}
  {label : OperationLabel Call Event} {batchSize count : Nat}

/-- Every step advances every worker, if by nothing. -/
theorem Happens.advances (replies : operation.Replies) (happens : operation.Happens label next)
    (index : Nat) : operation.Advances next index := by
  cases happens with
  | called | panicked | sent | left | done | closed | canceled =>
      exact .rest rfl rfl
  | @handed call event worker offered running opened empty selecting =>
      apply @Moves.advances _ _ operation _ worker
      · exact .enterFlush (.of_hand rfl rfl rfl)
      · exact (.collected _ selecting)
      · exact List.prefix_append _ _
      · exact List.prefix_refl _
      · rw [running]
        nofun
      · exact fun draining => .inl (Worker.draining_collect.symm.trans draining)
  | @reused worker pointer idle selecting pooled =>
      apply @Moves.advances _ _ operation _ worker
      · exact .of_borrow operation worker _ _
      · exact .rest
      · exact List.prefix_refl _
      · exact List.prefix_refl _
      · exact fun _ _ => rfl
      · exact fun draining => .inl draining
  | @allocated worker idle selecting =>
      apply @Moves.advances _ _ operation _ worker
      · exact .of_borrow operation worker _ _
      · exact .rest
      · exact List.prefix_refl _
      · exact List.prefix_refl _
      · exact fun _ _ => rfl
      · exact fun draining => .inl draining
  | @received worker item rest front running selecting =>
      apply @Moves.advances _ _ operation _ worker
      · exact .enterFlush (.of_hand rfl rfl rfl)
      · exact (.collected _ selecting)
      · exact List.prefix_append _ _
      · exact List.prefix_refl _
      · rw [running]
        nofun
      · exact fun draining => .inl (Worker.draining_collect.symm.trans draining)
  | @ticked worker running selecting =>
      apply @Moves.advances _ _ operation _ worker
      · exact .enterFlush (.of_worker rfl rfl rfl)
      · exact (.flushed selecting)
      · exact List.prefix_refl _
      · exact List.prefix_refl _
      · rw [running]
        nofun
      · exact fun draining => .inl (Worker.draining_flush.symm.trans draining)
  | @retried worker attempt result inserting failed again =>
      apply @Moves.advances _ _ operation _ worker
      · exact .of_setDesk rfl rfl rfl
      · exact (.retried inserting)
      · exact List.prefix_refl _
      · exact List.prefix_refl _
      · rw [inserting]
        nofun
      · exact fun draining => .inl draining
  | @concluded worker attempt result inserted inserting last =>
      apply @Moves.advances _ _ operation _ worker
      · exact .of_setDesk rfl rfl rfl
      · exact (.concluded result inserting)
      · exact List.prefix_refl _
      · exact List.prefix_append _ _
      · rw [inserting]
        nofun
      · exact fun draining => .inl (Worker.draining_answer.symm.trans draining)
  | @answered worker result item rest channel answering sent =>
      apply @Moves.advances _ _ operation _ worker
      · exact .leave (.of_worker rfl rfl rfl)
      · exact (.answered answering)
      · exact List.prefix_refl _
      · exact List.prefix_refl _
      · rw [answering]
        nofun
      · exact fun draining => .inl (Worker.draining_answer.symm.trans draining)
  | sendPanics answering panics => exact absurd panics (replies.unpanicking answering)
  | @drained worker running closed empty selecting =>
      apply @Moves.advances _ _ operation _ worker
      · exact .leave (.enterFlush (.of_worker rfl rfl rfl))
      · exact (.drained selecting)
      · exact List.prefix_refl _
      · exact List.prefix_refl _
      · rw [running]
        nofun
      · exact fun _ => .inr ⟨closed, empty⟩

/-- A worker runs on until it has stopped. -/
theorem Happens.running_or (replies : operation.Replies) (happens : operation.Happens label next)
    {index : Nat} (running : operation.running index = true) :
    next.running index = true ∨ (next.engine.workers index).isStopped = true := by
  cases happens with
  | called | panicked | sent | left | done | closed | canceled => exact .inl running
  | handed | received =>
      refine .inl ?_
      rw [running_enterFlush]
      exact running_setDesk running id
  | reused | allocated => exact .inl (running_setDesk running fun _ => rfl)
  | ticked =>
      refine .inl ?_
      rw [running_enterFlush]
      exact running
  | retried | concluded => exact .inl (running_setDesk running id)
  | answered =>
      rw [leave_engine]
      exact running_leave _ running
  | sendPanics answering panics => exact absurd panics (replies.unpanicking answering)
  | drained =>
      rw [leave_engine]
      refine running_leave _ ?_
      rw [running_enterFlush]
      exact running

/-- Once the channel is closed nothing is sent on it any more. -/
theorem Happens.shrinks (replies : operation.Replies) (happens : operation.Happens label next)
    (closed : operation.engine.closed = true) :
    next.engine.closed = true ∧ (next.engine.eventChan = operation.engine.eventChan ∨
      ∃ item, operation.engine.eventChan = item :: next.engine.eventChan) := by
  cases happens with
  | called | panicked | left | done | reused | allocated | retried | concluded | canceled =>
      exact ⟨closed, .inl rfl⟩
  | sent offered opened =>
      rw [closed] at opened
      cases opened
  | handed offered running opened =>
      rw [closed] at opened
      cases opened
  | received front =>
      rw [enterFlush_engine]
      exact ⟨closed, .inr ⟨_, front⟩⟩
  | ticked =>
      rw [enterFlush_engine]
      exact ⟨closed, .inl rfl⟩
  | answered =>
      rw [leave_engine]
      exact ⟨closed, .inl rfl⟩
  | sendPanics answering panics => exact absurd panics (replies.unpanicking answering)
  | drained =>
      rw [leave_engine, enterFlush_engine]
      exact ⟨closed, .inl rfl⟩
  | closed => exact ⟨rfl, .inl rfl⟩

/-- Once the channel is closed and empty it stays so. -/
theorem Happens.exhausted (replies : operation.Replies) (happens : operation.Happens label next)
    (closed : operation.engine.closed = true) (empty : operation.engine.eventChan = []) :
    next.engine.closed = true ∧ next.engine.eventChan = [] := by
  obtain ⟨still, same | ⟨item, front⟩⟩ := happens.shrinks replies closed
  · exact ⟨still, same.trans empty⟩
  · rw [empty] at front
    cases front

/-- No step panics. -/
theorem Happens.alive (replies : operation.Replies) (happens : operation.Happens label next) :
    next.engine.panicked = operation.engine.panicked := by
  cases happens with
  | called | panicked | sent | left | done | reused | allocated | retried | concluded | closed
  | canceled => rfl
  | handed | received | ticked =>
      rw [enterFlush_engine]
      rfl
  | answered =>
      rw [leave_engine]
      rfl
  | sendPanics answering panics => exact absurd panics (replies.unpanicking answering)
  | drained =>
      rw [leave_engine, enterFlush_engine]
      rfl

/-- Workers without a slice have collected nothing, or have stopped, after every step. -/
theorem Closing.step (closing : operation.Closing count) (replies : operation.Replies)
    (happens : operation.Happens label next) : next.Closing count where
  alive := (happens.alive replies).trans closing.alive
  settled := by
    intro index started ended
    have advances := happens.advances replies index
    have before : operation.engine.closed = true ∧ operation.engine.eventChan = [] := by
      have either : (operation.engine.workers index).isStopped = true ∨
          (next.engine.workers index).draining = true := by
        rcases ended with stopped | draining
        · exact advances.turn.draining_of_isStopped stopped
        · exact .inr draining
      rcases either with stopped | draining
      · exact closing.settled index started (.inl stopped)
      · rcases advances.drains draining with already | now
        · exact closing.settled index started (.inr already)
        · exact now
    exact happens.exhausted replies before.1 before.2
  idle := by
    intro index resting
    have advances := happens.advances replies index
    cases before : operation.running index with
    | true =>
        rcases happens.running_or replies before with still | stopped
        · rw [resting] at still
          cases still
        · exact .inr stopped
    | false =>
        rcases closing.idle index before with ⟨selecting, empty⟩ | stopped
        · rw [advances.resting before selecting]
          exact .inl ⟨selecting, empty⟩
        · rw [advances.turn.of_isStopped stopped]
          exact .inr stopped
  unstarted := by
    intro index beyond
    have stopped := closing.unstarted index beyond
    rw [((happens.advances replies index).turn.of_isStopped stopped)]
    exact stopped

/-- Everything that holds at any moment of an operation. -/
structure Inv (batchSize count : Nat) (operation : Operation Call Event) : Prop where
  accounts : operation.Accounts batchSize
  slices : operation.Slices
  replies : operation.Replies
  closing : operation.Closing count

/-- The invariant holds at the start. -/
theorem Inv.start (batchSize count : Nat) :
    (Operation.start batchSize count : Operation Call Event).Inv batchSize count :=
  ⟨.start count, .start batchSize count, .start count, .start batchSize count⟩

theorem Inv.step (inv : operation.Inv batchSize count) (step : operation.step label = some next) :
    next.Inv batchSize count := by
  have happens := happens_of_step step
  have sends : ∀ index result item rest,
      (operation.engine.workers index).phase = .answering result (item :: rest) →
        (operation.doneChannels item.done).send result ≠ .panics :=
    fun _ _ _ _ answering => inv.replies.unpanicking answering
  exact {
    accounts := inv.accounts.step (fun index attempt inserting =>
      inv.slices.copied index (Worker.inserts_of_inserting inserting)) sends happens
    slices := inv.slices.step sends happens
    replies := inv.replies.step inv.accounts happens
    closing := inv.closing.step inv.replies happens }

section Enabled

variable {index : Nat}

/-- A worker that was not started can start. -/
theorem Inv.canStart (inv : operation.Inv batchSize count) (resting : operation.running index = false)
    (selecting : (operation.engine.workers index).phase = .selecting) :
    ∃ next, operation.step (.start index none) = some next := by
  have unborrowed : (operation.desks index).batchPtr = none := Option.not_isSome_iff_eq_none.mp
    (Bool.eq_false_iff.mp resting)
  simp only [Operation.step, inv.closing.alive, Bool.false_eq_true, if_false, stepLive,
    startWorker, unborrowed, selecting]
  exact ⟨_, rfl⟩

/-- A worker at its `select` can take a tick. -/
theorem Inv.canTick (inv : operation.Inv batchSize count) (running : operation.running index = true)
    (selecting : (operation.engine.workers index).phase = .selecting) :
    ∃ next, operation.step (.tick index) = some next := by
  simp only [Operation.step, inv.closing.alive, Bool.false_eq_true, if_false, stepLive, running,
    if_true, Engine.stepLive, selecting, Option.map_some]
  exact ⟨_, rfl⟩

/-- It can receive when something waits on the channel. -/
theorem Inv.canReceive (inv : operation.Inv batchSize count)
    (running : operation.running index = true)
    (selecting : (operation.engine.workers index).phase = .selecting)
    (waiting : operation.engine.eventChan ≠ []) :
    ∃ next, operation.step (.receive index) = some next := by
  obtain ⟨item, rest, front⟩ := List.exists_cons_of_ne_nil waiting
  simp only [Operation.step, inv.closing.alive, Bool.false_eq_true, if_false, stepLive, front,
    running, Engine.stepLive, selecting, Option.map_some]
  exact ⟨_, rfl⟩

/-- A worker that inserts can have its insert succeed. -/
theorem Inv.canInsert (inv : operation.Inv batchSize count) {attempt : Nat}
    (inserting : (operation.engine.workers index).phase = .inserting attempt) :
    ∃ next, operation.step (.insertBatch index none) = some next := by
  simp only [Operation.step, inv.closing.alive, Bool.false_eq_true, if_false, stepLive,
    Engine.stepLive, inserting, Option.map_some]
  exact ⟨_, rfl⟩

/-- A worker that answers is never blocked, whatever its callers do. -/
theorem Inv.canAnswer (inv : operation.Inv batchSize count) {result : Option EngineError}
    {item : QueuedEvent Call Event} {rest : List (QueuedEvent Call Event)}
    (answering : (operation.engine.workers index).phase = .answering result (item :: rest)) :
    ∃ next, operation.step (.answer index) = some next := by
  have room := (inv.replies.sends answering).2.2
  simp only [Operation.step, inv.closing.alive, Bool.false_eq_true, if_false, stepLive, answerNext,
    answering, room, Engine.stepLive, Option.map_some]
  exact ⟨_, rfl⟩

end Enabled
end Operation
end Sentinel.Analytics
