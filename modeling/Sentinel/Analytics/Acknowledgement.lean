import Sentinel.Analytics.Progress

/-!
# Acknowledgement by the batch engine

What `AddEvent` returns is what became of its event. `Operation.Acknowledges`
collects what holds at every moment, and `settled_eventually` says that under
fairness every accepted event comes to be in one flush with one answer.
-/

namespace Sentinel.Analytics

open Sentinel.Semantics

variable {Call Event : Type}

/-- With items left, the worker goes on answering. -/
theorem Worker.phase_answer {worker : Worker Call Event} {result : Option EngineError}
    {rest : List (QueuedEvent Call Event)} (remaining : rest ≠ []) :
    (worker.answer result rest).phase = .answering result rest := by
  unfold Worker.answer
  split
  · exact absurd rfl remaining
  · rfl

/-- A worker that inserts is in one of its attempts. -/
theorem Worker.inserting_of_inserts {worker : Worker Call Event} (inserts : worker.inserts = true) :
    ∃ attempt, worker.phase = .inserting attempt := by
  unfold Worker.inserts at inserts
  split at inserts
  · exact ⟨_, ‹_›⟩
  all_goals cases inserts

/-- A flush of a batch with an item goes to its first attempt. -/
theorem Worker.flush_of_mem {worker : Worker Call Event} {item : QueuedEvent Call Event}
    (member : item ∈ worker.batch) : worker.flush = { worker with phase := .inserting 0 } := by
  unfold Worker.flush
  split
  · rename_i empty
    rw [empty] at member
    cases member
  · rfl

/-- A worker that has collected an item has it until it inserts it. -/
theorem Worker.Turn.collects {worker next : Worker Call Event} {batchSize : Nat}
    {item : QueuedEvent Call Event} (turn : worker.Turn batchSize next)
    (selecting : worker.phase = .selecting) (member : item ∈ worker.batch) :
    item ∈ next.batch ∧ (next.phase = .selecting ∨ next.inserts = true) := by
  cases turn with
  | rest => exact ⟨member, .inl selecting⟩
  | collected another also =>
      have grown : item ∈ worker.batch ++ [another] := List.mem_append_left _ member
      unfold Worker.collect
      split
      · have flushed := Worker.flush_of_mem (show item ∈
          ({ worker with batch := worker.batch ++ [another] } : Worker Call Event).batch from grown)
        rw [flushed]
        exact ⟨grown, .inr rfl⟩
      · exact ⟨grown, .inl selecting⟩
  | flushed also =>
      rw [Worker.flush_of_mem member]
      exact ⟨member, .inr rfl⟩
  | drained also =>
      have flushed := Worker.flush_of_mem (show item ∈
        ({ worker with draining := true } : Worker Call Event).batch from member)
      rw [flushed]
      exact ⟨member, .inr rfl⟩
  | retried inserting | concluded result inserting =>
      rw [selecting] at inserting
      cases inserting
  | answered answering =>
      rw [selecting] at answering
      cases answering

namespace Operation

/-- The worker inserts these items, with so many attempts left. -/
def InsertsWithin (index : Nat) (items : List (QueuedEvent Call Event)) (left : Nat)
    (operation : Operation Call Event) : Prop :=
  ∃ attempt, (operation.engine.workers index).phase = .inserting attempt ∧
    (operation.engine.workers index).batch = items ∧ 3 - attempt = left

/-- The worker has these items to answer. -/
def Answers (index : Nat) (items : List (QueuedEvent Call Event))
    (operation : Operation Call Event) : Prop :=
  ∃ result, (operation.engine.workers index).phase = .answering result items

/-- The worker has so many items left to answer. -/
def AnswersWithin (index left : Nat) (operation : Operation Call Event) : Prop :=
  ∃ items, operation.Answers index items ∧ items.length = left

/-- The worker is at its `select`, or has returned. -/
def Loops (index : Nat) (operation : Operation Call Event) : Prop :=
  (operation.engine.workers index).phase = .selecting ∨
    (operation.engine.workers index).isStopped = true

/-- The worker can receive, or has returned. -/
def Ready (index : Nat) (operation : Operation Call Event) : Prop :=
  (operation.engine.workers index).phase = .selecting ∧ operation.running index = true ∨
    (operation.engine.workers index).isStopped = true

/-- The item is on the channel behind so many others. -/
def QueuedBehind (item : QueuedEvent Call Event) (left : Nat) (operation : Operation Call Event) :
    Prop :=
  ∃ before after, operation.engine.eventChan = before ++ item :: after ∧ before.length = left

variable {operation next : Operation Call Event} {batchSize count index : Nat}
  {items : List (QueuedEvent Call Event)}

/-- Another attempt, or the third, which is the last one. -/
theorem InsertsWithin.attempt {attempt : Nat} (result : Option EngineError)
    (inv : operation.Inv batchSize count)
    (inserting : (operation.engine.workers index).phase = .inserting attempt)
    (same : (operation.engine.workers index).batch = items)
    (turn : next.engine.workers index = { operation.engine.workers index with
        phase := .inserting (attempt + 1) } ∨
      next.engine.workers index = (operation.engine.workers index).answer result
        (operation.engine.workers index).batch) :
    next.Answers index items ∨ ∃ less < 3 - attempt, next.InsertsWithin index items less := by
  have phase := (inv.accounts.keeps index).phase
  rw [inserting] at phase
  obtain ⟨nonempty, _, limit, _⟩ := phase
  rcases turn with again | past
  · refine .inr ⟨3 - (attempt + 1), by omega, attempt + 1, ?_⟩
    rw [again]
    exact ⟨rfl, same, rfl⟩
  · refine .inl ⟨result, ?_⟩
    rw [past, ← same]
    exact Worker.phase_answer nonempty

/-- The item is in a flush of the worker that is over. -/
def Flushed (index : Nat) (item : QueuedEvent Call Event) (operation : Operation Call Event) :
    Prop :=
  ∃ flush ∈ (operation.desks index).flushes, item ∈ flush.items

/-- And its caller has been answered. -/
def Replied (index : Nat) (item : QueuedEvent Call Event) (operation : Operation Call Event) :
    Prop :=
  operation.Flushed index item ∧ operation.engine.done item.done ≠ []

/-- What a worker that has returned received is flushed and answered. -/
theorem Inv.replied_of_isStopped {item : QueuedEvent Call Event}
    (inv : operation.Inv batchSize count)
    (stopped : (operation.engine.workers index).isStopped = true)
    (received : item ∈ (operation.desks index).received) : operation.Replied index item := by
  have phase := Worker.phase_of_isStopped stopped
  rw [(inv.accounts.keeps index).handled, Worker.pending, phase, List.append_nil] at received
  obtain ⟨flush, flushed, member⟩ := List.mem_flatMap.mp received
  refine ⟨⟨flush, flushed, member⟩, ?_⟩
  rcases inv.replies.replied index flush flushed item member with waiting | answered
  · rw [Worker.unanswered, phase] at waiting
    cases waiting
  · rw [answered]
    exact List.cons_ne_nil _ _

/-- The next item is answered, and perhaps it was the last one. -/
theorem AnswersWithin.answer {item : QueuedEvent Call Event} {rest : List (QueuedEvent Call Event)}
    (result : Option EngineError)
    (turn : next.engine.workers index = (operation.engine.workers index).answer result rest) :
    next.Loops index ∨ ∃ less < (item :: rest).length, next.AnswersWithin index less := by
  cases rest with
  | nil =>
      refine .inl ?_
      rw [Loops, turn, Worker.answer, Worker.resume]
      cases (operation.engine.workers index).draining with
      | true => exact .inr rfl
      | false => exact .inl rfl
  | cons another others =>
      refine .inr ⟨(another :: others).length, Nat.lt_succ_self _, another :: others, ?_, rfl⟩
      exact ⟨result, by rw [turn]; exact Worker.phase_answer (List.cons_ne_nil _ _)⟩

/-- The front of the channel is taken: the item itself, or one before it. -/
theorem QueuedBehind.take {item first : QueuedEvent Call Event}
    {before after : List (QueuedEvent Call Event)}
    (place : operation.engine.eventChan = before ++ item :: after)
    (front : operation.engine.eventChan = first :: next.engine.eventChan)
    (taken : first ∈ (next.desks index).received) :
    (∃ index, item ∈ (next.desks index).received) ∨
      ∃ less < before.length, next.QueuedBehind item less := by
  rw [front] at place
  cases before with
  | nil =>
      cases place
      exact .inl ⟨index, taken⟩
  | cons head others =>
      rw [List.cons_append, List.cons.injEq] at place
      exact .inr ⟨others.length, Nat.lt_succ_self _, others, after, place.2, rfl⟩

/-- The item is in the batch of a worker that collects. -/
def Collects (index : Nat) (item : QueuedEvent Call Event) (operation : Operation Call Event) :
    Prop :=
  (operation.engine.workers index).phase = .selecting ∧ operation.running index = true ∧
    item ∈ (operation.engine.workers index).batch

/-- The item is in a batch that is being inserted. -/
def Inserts (index : Nat) (item : QueuedEvent Call Event) (operation : Operation Call Event) :
    Prop :=
  (operation.engine.workers index).inserts = true ∧
    item ∈ (operation.engine.workers index).batch

/-- Which flush of which worker the item is in. -/
def InFlush (item : QueuedEvent Call Event) (place : Nat × Nat)
    (operation : Operation Call Event) : Prop :=
  ∃ flush, (operation.desks place.1).flushes[place.2]? = some flush ∧ item ∈ flush.items

/-- An item is settled when one worker received it, one flush has it and its
`done` channel got one value. -/
structure Settled (item : QueuedEvent Call Event) (operation : Operation Call Event) : Prop where
  worker : ∃! index, item ∈ (operation.desks index).received
  flush : ∃! place, operation.InFlush item place
  answer : ∃ result, operation.engine.done item.done = [result]

/-- No item is in two flushes, of one worker or of two. -/
theorem Accounts.inFlush_unique {item : QueuedEvent Call Event} {first second : Nat × Nat}
    (accounts : operation.Accounts batchSize) (member : operation.InFlush item first)
    (also : operation.InFlush item second) : first = second := by
  obtain ⟨flush, place, inside⟩ := member
  obtain ⟨other, there, within⟩ := also
  have one := accounts.flushed_received (List.mem_of_getElem? place) inside
  have another := accounts.flushed_received (List.mem_of_getElem? there) within
  have worker := accounts.same_worker one another
  rw [← worker] at there
  exact Prod.ext worker (accounts.same_position place inside there within)

/-- Values were sent on the channel of a call only when its flush was over. -/
theorem Inv.flushed_of_sent (inv : operation.Inv batchSize count) {call : Call}
    {result : Option EngineError} {rest : List (Option EngineError)}
    (sent : operation.engine.done call = result :: rest) :
    rest = [] ∧ ∃ index, ∃ flush ∈ (operation.desks index).flushes,
      (∃ item ∈ flush.items, item.done = call) ∧ flush.result = result := by
  have some_flush : ∃ index, ∃ flush ∈ (operation.desks index).flushes, ∃ item ∈ flush.items,
      item.done = call := by
    by_contra absent
    push Not at absent
    rw [inv.replies.silent call absent] at sent
    cases sent
  obtain ⟨index, flush, flushed, item, member, rfl⟩ := some_flush
  rcases inv.replies.replied index flush flushed item member with waiting | answered
  · rw [inv.replies.unanswered index item waiting] at sent
    cases sent
  · rw [answered, List.cons.injEq] at sent
    exact ⟨sent.2.symm, index, flush, flushed, ⟨item, member, rfl⟩, sent.1⟩

/-- Once its flush is over and an answer is given, an item is settled. -/
theorem Inv.settled {item : QueuedEvent Call Event} (inv : operation.Inv batchSize count)
    (flushed : operation.Flushed index item) (sent : operation.engine.done item.done ≠ []) :
    operation.Settled item := by
  obtain ⟨flush, past, member⟩ := flushed
  obtain ⟨position, place⟩ := List.mem_iff_getElem?.mp past
  have received := inv.accounts.flushed_received past member
  constructor
  · exact ⟨index, received, fun other also => inv.accounts.same_worker also received⟩
  · exact ⟨(index, position), ⟨flush, place, member⟩,
      fun other also => inv.accounts.inFlush_unique also ⟨flush, place, member⟩⟩
  · obtain ⟨result, rest, sent⟩ := List.exists_cons_of_ne_nil sent
    refine ⟨result, ?_⟩
    rw [sent, (inv.flushed_of_sent sent).1]

end Operation

variable [DecidableEq Call]

/-- The things that a worker does. -/
inductive WorkerAction where
  | start
  | receive
  | tick
  | insertBatch
  | answer
  | drain

/-- The labels by which the worker does it. -/
def WorkerAction.labels (action : WorkerAction) (index : Nat) (label : OperationLabel Call Event) :
    Prop :=
  match action with
  | .start => ∃ reused, label = .start index reused
  | .receive => label = .receive index
  | .tick => label = .tick index
  | .insertBatch => ∃ result, label = .insertBatch index result
  | .answer => label = .answer index
  | .drain => label = .drain index

namespace Operation

variable {operation next : Operation Call Event} {label : OperationLabel Call Event}
  {batchSize count index : Nat}

/-- A tick flushes the worker's batch. -/
theorem Happens.of_tick (happens : operation.Happens (.tick index) next) :
    next.engine.workers index = (operation.engine.workers index).flush := by
  cases happens with
  | ticked running selecting =>
      rw [enterFlush_engine]
      exact Engine.workers_setWorker ..
  | left inside outside => rcases outside with wrong | wrong <;> cases wrong

/-- An attempt leads to the next one or to the answers. -/
theorem Happens.of_insertBatch {result : Option EngineError}
    (happens : operation.Happens (.insertBatch index result) next) :
    ∃ attempt, (operation.engine.workers index).phase = .inserting attempt ∧
      (next.engine.workers index =
          { operation.engine.workers index with phase := .inserting (attempt + 1) } ∨
        next.engine.workers index =
          (operation.engine.workers index).answer result (operation.engine.workers index).batch) := by
  cases happens with
  | retried inserting => exact ⟨_, inserting, .inl (Engine.workers_setWorker ..)⟩
  | concluded inserting => exact ⟨_, inserting, .inr (Engine.workers_setWorker ..)⟩
  | left inside outside => rcases outside with wrong | wrong <;> cases wrong

/-- An answer takes the first item of those to be answered. -/
theorem Happens.of_answer (replies : operation.Replies)
    (happens : operation.Happens (.answer index) next) :
    ∃ result item rest, (operation.engine.workers index).phase = .answering result (item :: rest) ∧
      next.engine.workers index = (operation.engine.workers index).answer result rest := by
  cases happens with
  | answered answering =>
      rw [leave_engine]
      exact ⟨_, _, _, answering, Engine.workers_setWorker ..⟩
  | sendPanics answering panics => exact absurd panics (replies.unpanicking answering)
  | left inside outside => rcases outside with wrong | wrong <;> cases wrong

/-- A worker that starts is at its loop from then on. -/
theorem Happens.of_start {reused : Option Nat}
    (happens : operation.Happens (.start index reused) next) :
    next.running index = true ∧ next.engine.workers index = operation.engine.workers index := by
  cases happens with
  | reused | allocated =>
      refine ⟨?_, rfl⟩
      rw [Operation.running, setDesk_self]
      rfl
  | left inside outside => rcases outside with wrong | wrong <;> cases wrong

/-- The channel grows at its end, or loses its oldest item to a worker. -/
theorem Happens.channel (replies : operation.Replies) (happens : operation.Happens label next) :
    (∃ more, next.engine.eventChan = operation.engine.eventChan ++ more) ∨
      ∃ item index, operation.engine.eventChan = item :: next.engine.eventChan ∧
        item ∈ (next.desks index).received := by
  cases happens with
  | called | panicked | left | done | reused | allocated | retried | concluded | closed
  | canceled => exact .inl ⟨[], (List.append_nil _).symm⟩
  | sent => exact .inl ⟨_, rfl⟩
  | handed | ticked =>
      rw [enterFlush_engine]
      exact .inl ⟨[], (List.append_nil _).symm⟩
  | @received index item rest front running selecting =>
      refine .inr ⟨item, index, ?_, ?_⟩
      · rw [enterFlush_engine]
        exact front
      · rw [(enterFlush_history _ index).received, hand, setDesk_self]
        exact List.mem_append_right _ List.mem_cons_self
  | answered =>
      rw [leave_engine]
      exact .inl ⟨[], (List.append_nil _).symm⟩
  | sendPanics answering panics => exact absurd panics (replies.unpanicking answering)
  | drained =>
      rw [leave_engine, enterFlush_engine]
      exact .inl ⟨[], (List.append_nil _).symm⟩

/-- The first item of the channel goes to the worker. -/
theorem Happens.of_receive (happens : operation.Happens (.receive index) next) :
    ∃ item, operation.engine.eventChan = item :: next.engine.eventChan ∧
      item ∈ (next.desks index).received := by
  cases happens with
  | @received index item rest front running selecting =>
      refine ⟨item, ?_, ?_⟩
      · rw [enterFlush_engine]
        exact front
      · rw [(enterFlush_history _ index).received, hand, setDesk_self]
        exact List.mem_append_right _ List.mem_cons_self
  | left inside outside => rcases outside with wrong | wrong <;> cases wrong

/-- What was sent on a `done` channel is not taken back. -/
theorem Happens.done_grows (replies : operation.Replies) (happens : operation.Happens label next)
    {call : Call} (sent : operation.engine.done call ≠ []) : next.engine.done call ≠ [] := by
  cases happens with
  | called | panicked | sent | left | done | reused | allocated | retried | concluded | closed
  | canceled => exact sent
  | handed | received | ticked =>
      rw [enterFlush_engine]
      exact sent
  | @answered index result item rest channel answering room =>
      rw [leave_engine]
      change Function.update operation.engine.done item.done
        (operation.engine.done item.done ++ [result]) call ≠ []
      by_cases own : call = item.done
      · rw [own, Function.update_self]
        simp
      · rw [Function.update_of_ne own]
        exact sent
  | sendPanics answering panics => exact absurd panics (replies.unpanicking answering)
  | drained =>
      rw [leave_engine, enterFlush_engine]
      exact sent

end Operation

/-!
## Progress
-/

namespace Operation

variable {operation next : Operation Call Event} {label : OperationLabel Call Event}
  {batchSize count index left : Nat} {items : List (QueuedEvent Call Event)}

/-- The attempts that are left become fewer until the answers begin. -/
theorem InsertsWithin.step (inserts : operation.InsertsWithin index items left)
    (inv : operation.Inv batchSize count) (step : operation.step label = some next) :
    next.InsertsWithin index items left ∨
      (next.Answers index items ∨ ∃ less < left, next.InsertsWithin index items less) := by
  obtain ⟨attempt, inserting, same, rfl⟩ := inserts
  have turn := ((happens_of_step step).advances inv.replies index).turn
  generalize reached : next.engine.workers index = worker at turn
  cases turn with
  | rest => exact .inl ⟨attempt, reached ▸ inserting, reached ▸ same, rfl⟩
  | collected item selecting | flushed selecting | drained selecting =>
      rw [inserting] at selecting
      cases selecting
  | retried again =>
      rw [inserting] at again
      cases again
      exact .inr (InsertsWithin.attempt none inv inserting same (.inl reached))
  | concluded result past =>
      exact .inr (InsertsWithin.attempt result inv inserting same (.inr reached))
  | answered answering =>
      rw [inserting] at answering
      cases answering

/-- The answers that are left become fewer until the loop goes on. -/
theorem AnswersWithin.step (answers : operation.AnswersWithin index left)
    (inv : operation.Inv batchSize count) (step : operation.step label = some next) :
    next.AnswersWithin index left ∨
      (next.Loops index ∨ ∃ less < left, next.AnswersWithin index less) := by
  obtain ⟨items, ⟨result, answering⟩, rfl⟩ := answers
  have turn := ((happens_of_step step).advances inv.replies index).turn
  generalize reached : next.engine.workers index = worker at turn
  cases turn with
  | rest => exact .inl ⟨items, ⟨result, reached ▸ answering⟩, rfl⟩
  | collected item selecting | flushed selecting | drained selecting =>
      rw [answering] at selecting
      cases selecting
  | retried inserting | concluded result inserting =>
      rw [answering] at inserting
      cases inserting
  | answered also =>
      rw [answering] at also
      cases also
      exact .inr (AnswersWithin.answer result reached)

/-- The items before one on the channel become fewer until it is received. -/
theorem QueuedBehind.step {item : QueuedEvent Call Event} (queued : operation.QueuedBehind item left)
    (inv : operation.Inv batchSize count) (step : operation.step label = some next) :
    next.QueuedBehind item left ∨
      ((∃ index, item ∈ (next.desks index).received) ∨
        ∃ less < left, next.QueuedBehind item less) := by
  obtain ⟨before, after, place, rfl⟩ := queued
  rcases (happens_of_step step).channel inv.replies with ⟨more, grown⟩ | ⟨first, index, front, taken⟩
  · refine .inl ⟨before, after ++ more, ?_, rfl⟩
    rw [grown, place, List.append_assoc, List.cons_append]
  · exact .inr (QueuedBehind.take place front taken)

/-- What was flushed stays so. -/
theorem Flushed.step {item : QueuedEvent Call Event} (flushed : operation.Flushed index item)
    (inv : operation.Inv batchSize count) (step : operation.step label = some next) :
    next.Flushed index item := by
  obtain ⟨flush, past, member⟩ := flushed
  have grows := ((happens_of_step step).advances inv.replies index).flushes
  exact ⟨flush, grows.subset past, member⟩

/-- What was replied to stays so. -/
theorem Replied.step {item : QueuedEvent Call Event} (replied : operation.Replied index item)
    (inv : operation.Inv batchSize count) (step : operation.step label = some next) :
    next.Replied index item :=
  ⟨replied.1.step inv step, (happens_of_step step).done_grows inv.replies replied.2⟩

/-- An item that is collected stays in the batch until it is inserted. -/
theorem Collects.step {item : QueuedEvent Call Event} (collects : operation.Collects index item)
    (inv : operation.Inv batchSize count) (step : operation.step label = some next) :
    next.Collects index item ∨ next.Inserts index item := by
  obtain ⟨selecting, running, member⟩ := collects
  have happens := happens_of_step step
  have turn := (happens.advances inv.replies index).turn
  obtain ⟨kept, phase⟩ := turn.collects selecting member
  rcases phase with still | inserts
  · refine .inl ⟨still, ?_, kept⟩
    refine (happens.running_or inv.replies running).resolve_right fun stopped => ?_
    rw [Worker.phase_of_isStopped stopped] at still
    cases still
  · exact .inr ⟨inserts, kept⟩

/-- A worker that has returned does nothing any more. -/
theorem step_of_isStopped (stopped : (operation.engine.workers index).isStopped = true)
    {action : WorkerAction} (acts : action.labels index label) : operation.step label = none := by
  have phase := Worker.phase_of_isStopped stopped
  unfold Operation.step
  split
  · rfl
  · cases action with
    | start =>
        obtain ⟨reused, rfl⟩ := acts
        simp [stepLive, startWorker, phase]
    | receive =>
        obtain rfl := acts
        cases front : operation.engine.eventChan with
        | nil => simp [stepLive, front]
        | cons item rest =>
            cases running : operation.running index <;>
              simp [stepLive, Engine.stepLive, front, running, phase]
    | tick =>
        obtain rfl := acts
        simp [stepLive, Engine.stepLive, phase]
    | insertBatch =>
        obtain ⟨result, rfl⟩ := acts
        simp [stepLive, Engine.stepLive, phase]
    | answer =>
        obtain rfl := acts
        simp [stepLive, answerNext, phase]
    | drain =>
        obtain rfl := acts
        simp [stepLive, Engine.stepLive, phase]

variable {behavior : (operationMachine Call Event).Behavior}

/-- The behavior is fair to everything that its workers do. -/
def FairWorkers (count : Nat) (behavior : (operationMachine Call Event).Behavior) : Prop :=
  ∀ index < count, ∀ action : WorkerAction, behavior.Fair (action.labels index)

/-- The invariant holds at every moment of a behavior from the start. -/
theorem inv_always (begins : behavior.stateAt 0 = .start batchSize count) (moment : Nat) :
    (behavior.stateAt moment).Inv batchSize count := by
  refine Machine.Behavior.always ?_ (fun inv step => inv.step step) moment
  rw [begins]
  exact .start batchSize count

section LeadsTo

variable (invs : ∀ moment, (behavior.stateAt moment).Inv batchSize count)
  (fair : FairWorkers count behavior) (started : index < count)

include invs fair started

/-- A batch that is being inserted comes to be answered, after at most three attempts. -/
theorem inserting_leadsTo (items : List (QueuedEvent Call Event)) (left : Nat) :
    behavior.LeadsTo (InsertsWithin index items left) (Answers index items) := by
  refine .of_rank (fun bound => ?_) left
  refine Machine.Behavior.leadsTo_of_fair (fair index started .insertBatch) invs
    (fun inv inserts step => inserts.step inv step) ?_ ?_
  · refine .of_implies invs fun operation inv ⟨attempt, inserting, same, left⟩ => .inr ?_
    obtain ⟨next, step⟩ := inv.canInsert inserting
    exact ⟨_, next, ⟨none, rfl⟩, step⟩
  · rintro operation label next inv ⟨attempt, inserting, same, rfl⟩ ⟨result, rfl⟩ step
    obtain ⟨other, also, turn⟩ := (happens_of_step step).of_insertBatch
    rw [inserting] at also
    cases also
    exact InsertsWithin.attempt result inv inserting same turn

/-- A flush that is being answered comes to its end. -/
theorem answering_leadsTo (left : Nat) :
    behavior.LeadsTo (AnswersWithin index left) (Loops index) := by
  refine .of_rank (fun bound => ?_) left
  refine Machine.Behavior.leadsTo_of_fair (fair index started .answer) invs
    (fun inv answers step => answers.step inv step) ?_ ?_
  · refine .of_implies invs fun operation inv ⟨items, ⟨result, answering⟩, _⟩ => .inr ?_
    have phase := (inv.accounts.keeps index).phase
    rw [answering] at phase
    obtain ⟨item, rest, rfl⟩ := List.exists_cons_of_ne_nil phase.2.1
    obtain ⟨next, step⟩ := inv.canAnswer answering
    exact ⟨_, next, rfl, step⟩
  · rintro operation label next inv ⟨items, ⟨result, answering⟩, rfl⟩ rfl step
    obtain ⟨other, item, rest, also, turn⟩ := (happens_of_step step).of_answer inv.replies
    rw [answering] at also
    cases also
    exact AnswersWithin.answer result turn

/-- Every worker gets back to its `select` again and again, unless it has returned. -/
theorem loops_again (start : Nat) :
    ∃ moment, start ≤ moment ∧ Loops index (behavior.stateAt moment) := by
  have answered : ∀ items, behavior.LeadsTo (Answers index items) (Loops index) :=
    fun items origin answers =>
      answering_leadsTo invs fair started items.length origin ⟨items, answers, rfl⟩
  cases phase : ((behavior.stateAt start).engine.workers index).phase with
  | selecting => exact ⟨start, Nat.le_refl start, .inl phase⟩
  | inserting attempt =>
      have inserting := inserting_leadsTo invs fair started
        ((behavior.stateAt start).engine.workers index).batch (3 - attempt)
      exact inserting.trans (answered _) start ⟨attempt, phase, rfl, rfl⟩
  | answering result items => exact answered items start ⟨result, phase⟩
  | stopped =>
      refine ⟨start, Nat.le_refl start, .inr ?_⟩
      rw [Worker.isStopped, phase]

/-- And it is at its loop then. -/
theorem ready_again (start : Nat) :
    ∃ moment, start ≤ moment ∧ Ready index (behavior.stateAt moment) := by
  have starting : behavior.LeadsTo
      (fun operation => (operation.engine.workers index).phase = .selecting ∧
        operation.running index = false)
      (fun operation => (operation.engine.workers index).phase = .selecting ∧
        operation.running index = true) := by
    refine Machine.Behavior.leadsTo_of_fair (fair index started .start) invs ?_ ?_ ?_
    · rintro operation label next inv ⟨selecting, resting⟩ step
      have advances := (happens_of_step step).advances inv.replies index
      rw [advances.resting resting selecting]
      cases next.running index with
      | true => exact .inr ⟨selecting, rfl⟩
      | false => exact .inl ⟨selecting, rfl⟩
    · refine .of_implies invs fun operation inv ⟨selecting, resting⟩ => .inr ?_
      obtain ⟨next, step⟩ := inv.canStart resting selecting
      exact ⟨_, next, ⟨none, rfl⟩, step⟩
    · rintro operation label next inv ⟨selecting, resting⟩ ⟨reused, rfl⟩ step
      obtain ⟨running, same⟩ := (happens_of_step step).of_start
      exact ⟨same ▸ selecting, running⟩
  obtain ⟨middle, later, selecting | stopped⟩ := loops_again invs fair started start
  · cases running : (behavior.stateAt middle).running index with
    | true => exact ⟨middle, later, .inl ⟨selecting, running⟩⟩
    | false =>
        obtain ⟨moment, further, ready⟩ := starting middle ⟨selecting, running⟩
        exact ⟨moment, Nat.le_trans later further, .inl ready⟩
  · exact ⟨middle, later, .inr stopped⟩

/-- What is on the channel comes to be received. -/
theorem queued_leadsTo (item : QueuedEvent Call Event) (left : Nat) :
    behavior.LeadsTo (QueuedBehind item left)
      (fun operation => ∃ index, item ∈ (operation.desks index).received) := by
  refine .of_rank (fun bound => ?_) left
  refine Machine.Behavior.leadsTo_of_recurrent (fair index started .receive) invs
    (fun inv queued step => queued.step inv step) (ready_again invs fair started) ?_ ?_
  · rintro operation inv ⟨before, after, place, same⟩ (ready | stopped)
    · obtain ⟨next, step⟩ := inv.canReceive ready.2 ready.1 (by simp [place])
      exact .inr ⟨_, next, rfl, step⟩
    · have empty := (inv.closing.settled index started (.inl stopped)).2
      rw [empty] at place
      cases before <;> cases place
  · rintro operation label next inv ⟨before, after, place, rfl⟩ rfl step
    obtain ⟨first, front, taken⟩ := (happens_of_step step).of_receive
    exact QueuedBehind.take place front taken

/-- What is in a batch comes to be inserted. -/
theorem collects_leadsTo (item : QueuedEvent Call Event) :
    behavior.LeadsTo (Collects index item) (Inserts index item) := by
  refine Machine.Behavior.leadsTo_of_fair (fair index started .tick) invs
    (fun inv collects step => collects.step inv step) ?_ ?_
  · refine .of_implies invs fun operation inv ⟨selecting, running, _⟩ => .inr ?_
    obtain ⟨next, step⟩ := inv.canTick running selecting
    exact ⟨_, next, rfl, step⟩
  · rintro operation label next inv ⟨selecting, running, member⟩ rfl step
    have turn := (happens_of_step step).of_tick
    rw [Worker.flush_of_mem member] at turn
    rw [Inserts, turn]
    exact ⟨rfl, member⟩

/-- What a worker received comes to be in a flush. -/
theorem received_leadsTo (item : QueuedEvent Call Event) :
    behavior.LeadsTo (fun operation => item ∈ (operation.desks index).received)
      (Flushed index item) := by
  have answered : ∀ items, item ∈ items → behavior.LeadsTo (Answers index items)
      (Flushed index item) := by
    refine fun items member => .of_implies invs fun operation inv ⟨result, answering⟩ => ?_
    refine inv.accounts.unanswered_flushed ?_
    rw [Worker.unanswered, answering]
    exact member
  have inserted : behavior.LeadsTo (Inserts index item)
      (Flushed index item) := by
    rintro start ⟨inserts, member⟩
    obtain ⟨attempt, inserting⟩ := Worker.inserting_of_inserts inserts
    exact ((inserting_leadsTo invs fair started _ (3 - attempt)).trans (answered _ member)) start
      ⟨attempt, inserting, rfl, rfl⟩
  intro start received
  have inv := invs start
  rw [(inv.accounts.keeps index).handled] at received
  rcases List.mem_append.mp received with flushed | pending
  · exact ⟨start, Nat.le_refl start, List.mem_flatMap.mp flushed⟩
  · unfold Worker.pending at pending
    split at pending
    · rename_i selecting
      cases running : (behavior.stateAt start).running index with
      | true =>
          exact ((collects_leadsTo invs fair started item).trans inserted) start
            ⟨selecting, running, pending⟩
      | false =>
          -- A worker without its slice has collected nothing.
          rcases inv.closing.idle index running with ⟨_, empty⟩ | stopped
          · rw [empty] at pending
            cases pending
          · rw [Worker.phase_of_isStopped stopped] at selecting
            cases selecting
    · rename_i attempt inserting
      exact inserted start ⟨Worker.inserts_of_inserting inserting, pending⟩
    all_goals cases pending

/-- What is in a flush comes to have its answer. -/
theorem flushed_leadsTo (item : QueuedEvent Call Event) (start : Nat)
    (flushed : Flushed index item (behavior.stateAt start)) :
    ∃ moment, start ≤ moment ∧ (behavior.stateAt moment).engine.done item.done ≠ [] := by
  obtain ⟨moment, later, loops⟩ := loops_again invs fair started start
  refine ⟨moment, later, ?_⟩
  have still := Machine.Behavior.stable (fun inv flushed step => flushed.step inv step) invs
    flushed later
  obtain ⟨flush, flushed, member⟩ := still
  have inv := invs moment
  rcases inv.replies.replied index flush flushed item member with waiting | answered
  · rcases loops with selecting | stopped
    · rw [Worker.unanswered, selecting] at waiting
      cases waiting
    · rw [Worker.unanswered, Worker.phase_of_isStopped stopped] at waiting
      cases waiting
  · rw [answered]
    exact List.cons_ne_nil _ _

end LeadsTo

/-!
## The acknowledgement
-/

/-- What holds at every moment, whatever the callers, ClickHouse and the clock do. -/
structure Acknowledges (batchSize : Nat) (operation : Operation Call Event) : Prop where
  /-- An accepted event is on the channel or was handed to one worker. -/
  handed : ∀ item ∈ operation.accepted,
    (item ∈ operation.engine.eventChan ∧ ∀ index, item ∉ (operation.desks index).received) ∨
      item ∉ operation.engine.eventChan ∧ ∃! index, item ∈ (operation.desks index).received
  /-- What a worker received, in this order, is in its flushes and then in its batch. -/
  batched : ∀ index, (operation.desks index).received =
    (operation.desks index).flushes.flatMap (·.items) ++ (operation.engine.workers index).pending
  /-- No event is in two flushes. -/
  flushedOnce : ∀ item first second, operation.InFlush item first →
    operation.InFlush item second → first = second
  /-- A flush inserts its events in the order of their arrival, and not too many. -/
  flushes : ∀ index, ∀ flush ∈ (operation.desks index).flushes,
    flush.items.Sublist operation.accepted ∧ flush.items.length ≤ max 1 batchSize ∧
      ∀ attempt ∈ flush.attempts, attempt.events = flush.items.map (·.event)
  /-- So does a flush that is under way. -/
  inserts : ∀ index, (operation.engine.workers index).inserts = true →
    (operation.engine.workers index).batch.Sublist operation.accepted ∧
      (operation.engine.workers index).batch.length ≤ max 1 batchSize ∧
        ∀ attempt ∈ (operation.desks index).attempts,
          attempt.events = (operation.engine.workers index).batch.map (·.event)
  /-- `AddEvent` returns nil only for an event that was stored. -/
  succeeded : ∀ call, (operation.calls call).returned = some none →
    ∃ index, ∃ flush ∈ (operation.desks index).flushes, (∃ item ∈ flush.items, item.done = call) ∧
      ∃ attempt ∈ flush.attempts, attempt.result = none
  /-- It returns what `InsertBatch` failed with only after three failures. -/
  failed : ∀ call error, operation.calls call = .answered (some error) →
    ∃ index, ∃ flush ∈ (operation.desks index).flushes, (∃ item ∈ flush.items, item.done = call) ∧
      flush.result = some error ∧ flush.attempts.length = 3 ∧
        ∀ attempt ∈ flush.attempts, attempt.result ≠ none
  /-- No `done` channel gets two values. -/
  once : ∀ call, (operation.engine.done call).length ≤ 1
  /-- A worker with an answer to give can give it. -/
  unblocked : ∀ index result item rest,
    (operation.engine.workers index).phase = .answering result (item :: rest) →
      ∃ next, operation.step (.answer index) = some next

/-- What holds of an operation comes from its invariant. -/
theorem Inv.acknowledges (inv : operation.Inv batchSize count) :
    operation.Acknowledges batchSize where
  handed := by
    intro item accepted
    rcases inv.accounts.covered item accepted with waiting | ⟨index, received⟩
    · exact .inl ⟨waiting, inv.accounts.unreceived waiting⟩
    · refine .inr ⟨fun waiting => inv.accounts.unreceived waiting index received, index, received, ?_⟩
      exact fun other also => inv.accounts.same_worker also received
  batched := fun index => (inv.accounts.keeps index).handled
  flushedOnce := fun item first second => inv.accounts.inFlush_unique
  flushes := by
    intro index flush flushed
    have sound := (inv.accounts.keeps index).flushes flush flushed
    exact ⟨inv.accounts.flush_arrival flushed, sound.bounded, sound.passed⟩
  inserts := by
    intro index inserts
    obtain ⟨attempt, inserting⟩ := Worker.inserting_of_inserts inserts
    have phase := (inv.accounts.keeps index).phase
    rw [inserting] at phase
    refine ⟨?_, phase.2.1, fun made member => (phase.2.2.2.2 made member).2⟩
    have pending : (operation.engine.workers index).pending =
        (operation.engine.workers index).batch := by rw [Worker.pending, inserting]
    exact pending ▸ inv.accounts.pending_arrival index
  succeeded := by
    intro call returned
    have phase := CallPhase.answered_of_returned returned
    obtain ⟨rest, sent⟩ := inv.replies.sent_of_answered phase
    obtain ⟨_, index, flush, flushed, member, result⟩ := inv.flushed_of_sent sent
    exact ⟨index, flush, flushed, member,
      ((inv.accounts.keeps index).flushes flush flushed).succeeded result⟩
  failed := by
    intro call error phase
    obtain ⟨rest, sent⟩ := inv.replies.sent_of_answered phase
    obtain ⟨_, index, flush, flushed, member, result⟩ := inv.flushed_of_sent sent
    have failed := ((inv.accounts.keeps index).flushes flush flushed).failed
      (by rw [result]; exact Option.some_ne_none _)
    exact ⟨index, flush, flushed, member, result, failed⟩
  once := by
    intro call
    cases sent : operation.engine.done call with
    | nil => exact Nat.zero_le 1
    | cons result rest =>
        rw [(inv.flushed_of_sent sent).1]
        exact Nat.le_refl 1
  unblocked := fun index result item rest answering => inv.canAnswer answering

/-- Under fairness every accepted event comes to be settled, and stays so. -/
theorem settled_eventually {behavior : (operationMachine Call Event).Behavior}
    (invs : ∀ moment, (behavior.stateAt moment).Inv batchSize count) (workers : 0 < count)
    (fair : FairWorkers count behavior) {moment : Nat} {item : QueuedEvent Call Event}
    (accepted : item ∈ (behavior.stateAt moment).accepted) :
    ∃ later, moment ≤ later ∧ ∀ after, later ≤ after → (behavior.stateAt after).Settled item := by
  have received : ∃ first, moment ≤ first ∧
      ∃ index, item ∈ ((behavior.stateAt first).desks index).received := by
    rcases (invs moment).accounts.covered item accepted with waiting | handed
    · obtain ⟨before, after, place⟩ := List.append_of_mem waiting
      exact queued_leadsTo invs fair workers item before.length moment ⟨before, after, place, rfl⟩
    · exact ⟨moment, Nat.le_refl moment, handed⟩
  obtain ⟨first, afterMoment, index, received⟩ := received
  have replied : ∃ second, first ≤ second ∧ Replied index item (behavior.stateAt second) := by
    rcases Nat.lt_or_ge index count with started | beyond
    · obtain ⟨middle, later, flushed⟩ := received_leadsTo invs fair started item first received
      obtain ⟨second, further, sent⟩ := flushed_leadsTo invs fair started item middle flushed
      exact ⟨second, Nat.le_trans later further, Machine.Behavior.stable
        (fun inv flushed step => flushed.step inv step) invs flushed further, sent⟩
    · exact ⟨first, Nat.le_refl first, (invs first).replied_of_isStopped
        ((invs first).closing.unstarted index beyond) received⟩
  obtain ⟨second, afterFirst, replied⟩ := replied
  refine ⟨second, Nat.le_trans afterMoment afterFirst, fun after later => ?_⟩
  have still := Machine.Behavior.stable (fun inv replied step => replied.step inv step) invs
    replied later
  exact (invs after).settled still.1 still.2

/-- The acknowledgement contract of the batch engine. -/
theorem acknowledgement (batchSize count : Nat) (behavior : (operationMachine Call Event).Behavior)
    (begins : behavior.stateAt 0 = .start batchSize count) :
    (∀ moment, (behavior.stateAt moment).Acknowledges batchSize) ∧
      (0 < count → FairWorkers count behavior →
        ∀ moment item, item ∈ (behavior.stateAt moment).accepted →
          ∃ later, moment ≤ later ∧ ∀ after, later ≤ after →
            (behavior.stateAt after).Settled item) := by
  have invs := inv_always begins
  exact ⟨fun moment => (invs moment).acknowledges,
    fun workers fair moment item accepted => settled_eventually invs workers fair accepted⟩

/-- Two workers serve four calls, and the batch of two fails to be inserted at first; one
call gives up before its answer comes. The last event is received after the close, when a
fifth call begins, which leaves once the workers have returned. -/
def deliveryLabels : List (OperationLabel (Fin 5) Nat) :=
  [.start 0 none, .start 1 none, .addEvent 0 10, .addEvent 1 11, .addEvent 2 12, .addEvent 3 13,
    .send 0, .receive 0, .handoff 2 1, .tick 1, .send 1, .receive 0,
    .insertBatch 0 (some .insertFailed), .insertBatch 1 none, .answer 1, .insertBatch 0 none,
    .answer 0, .expired 1 .deadlineExceeded, .answer 0, .done 0, .done 2, .send 3, .close,
    .addEvent 4 14, .receive 1, .drain 0, .drain 1, .insertBatch 1 none, .answer 1, .done 3,
    .cancel, .canceled 4]

/-- Where the delivery ends. -/
def delivered : Operation (Fin 5) Nat :=
  ((operationMachine (Fin 5) Nat).exec (.start 2 2) deliveryLabels).get (by decide +kernel)

theorem delivery : (operationMachine (Fin 5) Nat).exec (.start 2 2) deliveryLabels =
    some delivered := (Option.some_get _).symm

/-- Both workers have returned. -/
theorem delivered_stopped :
    ∀ index < 2, (delivered.engine.workers index).isStopped = true := by decide +kernel

theorem delivery_fair : FairWorkers 2 (Machine.Behavior.ofRun delivery) :=
  fun index started _ => Machine.Behavior.ofRun_fair delivery fun _ acts =>
    step_of_isStopped (delivered_stopped index started) acts

theorem delivered_accepted : delivered.accepted = [⟨10, 0⟩, ⟨12, 2⟩, ⟨11, 1⟩, ⟨13, 3⟩] := by
  decide +kernel

/-- The four events of the delivery are settled in the end. -/
theorem acknowledgement_delivery :
    List.Forall
      (fun item : QueuedEvent (Fin 5) Nat => ∃ later, ∀ after, later ≤ after →
        ((Machine.Behavior.ofRun delivery).stateAt after).Settled item)
      [⟨10, 0⟩, ⟨12, 2⟩, ⟨11, 1⟩, ⟨13, 3⟩] := by
  refine List.forall_iff_forall_mem.mpr fun item member => ?_
  have contract := acknowledgement 2 2 (Machine.Behavior.ofRun delivery) rfl
  have accepted : item ∈ ((Machine.Behavior.ofRun delivery).stateAt 32).accepted := by
    rw [Machine.Behavior.ofRun_rests delivery (by decide), delivered_accepted]
    exact member
  obtain ⟨later, _, settled⟩ := contract.2 Nat.two_pos delivery_fair 32 item accepted
  exact ⟨later, settled⟩

end Operation
end Sentinel.Analytics
