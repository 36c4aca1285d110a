import Sentinel.Analytics.BatchEngine
import Sentinel.Semantics.Behavior
import Sentinel.Semantics.Channel

/-!
# The batch engine in operation

The engine together with the calls of `AddEvent`, their one-shot `done`
channels and the slices that the workers borrow from the pool. Beside the state
of the program there is its history: what entered the channel, what was handed
to which worker, and every flush with its attempts.
-/

namespace Sentinel.Analytics

open Sentinel.Semantics

/-- Where a call of `AddEvent` stands. -/
inductive CallPhase (Event : Type) where
  | idle
  /-- At the first `select`. -/
  | sending (event : Event)
  /-- At the second `select`. -/
  | waiting
  /-- Returned what came on `done`. -/
  | answered (result : Option EngineError)
  /-- Returned the error of a context, its own or the engine's. -/
  | left (error : EngineError)
  /-- The send found the channel closed. The panic ends this call alone: the
  HTTP server recovers it, and the consumers are stopped before the engine. -/
  | panicked

/-- What `AddEvent` returned, if it has. -/
def CallPhase.returned {Event : Type} : CallPhase Event → Option (Option EngineError)
  | .answered result => some result
  | .left error => some (some error)
  | .idle | .sending _ | .waiting | .panicked => none

/-- A slice of one of the backing arrays, from its start. -/
structure Slice where
  array : Nat
  length : Nat

/-- The backing arrays by address, and those that `sync.Pool` holds. -/
structure SlicePool (Event : Type) where
  arrays : Nat → List Event
  allocated : Nat
  free : List Nat

namespace SlicePool

variable {Event : Type} (pool : SlicePool Event)

def read (slice : Slice) : List Event := (pool.arrays slice.array).take slice.length

/-- An array that was not in use before. -/
def allocate (events : List Event) : SlicePool Event :=
  { pool with
    arrays := Function.update pool.arrays pool.allocated events
    allocated := pool.allocated + 1 }

/-- Append the events to the empty slice at `pointer`; more than fit in its
array go to a new one. -/
def fill (capacity pointer : Nat) (events : List Event) : SlicePool Event × Slice :=
  if events.length ≤ capacity then
    ({ pool with
        arrays := Function.update pool.arrays pointer
          (events ++ (pool.arrays pointer).drop events.length) },
      ⟨pointer, events.length⟩)
  else
    (pool.allocate events, ⟨pool.allocated, events.length⟩)

end SlicePool

/-- A call of `InsertBatch` and what it returned. -/
structure Attempt (Event : Type) where
  events : List Event
  result : Option EngineError

/-- A flush whose attempts are over. -/
structure Flush (Call Event : Type) where
  items : List (QueuedEvent Call Event)
  attempts : List (Attempt Event)

/-- The `err` that a flush is left with. -/
def Flush.result {Call Event : Type} (flush : Flush Call Event) : Option EngineError :=
  (flush.attempts.getLast?.map Attempt.result).join

/-- What belongs to one worker besides its loop. -/
structure Desk (Call Event : Type) where
  /-- What it got from the pool and has not put back. -/
  batchPtr : Option Nat := none
  /-- `events` of the flush under way. -/
  events : Slice := ⟨0, 0⟩
  /-- The attempts of the flush under way. -/
  attempts : List (Attempt Event) := []
  /-- The items that it received, oldest first. -/
  received : List (QueuedEvent Call Event) := []
  flushes : List (Flush Call Event) := []

structure Operation (Call Event : Type) where
  engine : Engine Call Event
  /-- How many workers `Start` started. -/
  started : Nat
  /-- `Stop` has canceled the engine's context. -/
  canceled : Bool
  calls : Call → CallPhase Event
  doneChannels : Call → Channel (Option EngineError)
  pool : SlicePool Event
  desks : Nat → Desk Call Event
  /-- The items that were sent on the channel, oldest first. -/
  accepted : List (QueuedEvent Call Event)

inductive OperationLabel (Call Event : Type) where
  | addEvent (call : Call) (event : Event)
  | send (call : Call)
  | handoff (call : Call) (worker : Nat)
  /-- `e.ctx.Done()` -/
  | canceled (call : Call)
  /-- `ctx.Done()`, in either `select`. -/
  | expired (call : Call) (error : EngineError)
  | done (call : Call)
  /-- `e.pool.Get()`: one from the pool, or a new one. -/
  | start (worker : Nat) (reused : Option Nat)
  | receive (worker : Nat)
  | tick (worker : Nat)
  | insertBatch (worker : Nat) (result : Option EngineError)
  | answer (worker : Nat)
  | drain (worker : Nat)
  | close
  /-- `e.wg.Wait()` returns and `e.cancel()` runs. -/
  | cancel

namespace Worker

variable {Call Event : Type}

def inserts (worker : Worker Call Event) : Bool :=
  match worker.phase with
  | .inserting _ => true
  | .selecting | .answering _ _ | .stopped => false

def isStopped (worker : Worker Call Event) : Bool :=
  match worker.phase with
  | .stopped => true
  | .selecting | .inserting _ | .answering _ _ => false

end Worker

namespace Operation

variable {Call Event : Type} [DecidableEq Call]

/-- `NewEngine` and `Start(count)`, before any goroutine has run. -/
def start (batchSize count : Nat) : Operation Call Event where
  engine := .start batchSize count
  started := count
  canceled := false
  calls := fun _ => .idle
  doneChannels := fun _ => .make 1
  pool := ⟨fun _ => [], 0, []⟩
  desks := fun _ => {}
  accepted := []

def setCall (operation : Operation Call Event) (call : Call) (phase : CallPhase Event) :
    Operation Call Event :=
  { operation with calls := Function.update operation.calls call phase }

def setDesk (operation : Operation Call Event) (index : Nat) (desk : Desk Call Event) :
    Operation Call Event :=
  { operation with desks := Function.update operation.desks index desk }

/-- The send of the first `select` went through. -/
def accept (operation : Operation Call Event) (item : QueuedEvent Call Event) :
    Operation Call Event :=
  { operation with
    accepted := operation.accepted ++ [item]
    calls := Function.update operation.calls item.done .waiting }

/-- The item was received by the worker. -/
def hand (operation : Operation Call Event) (index : Nat) (item : QueuedEvent Call Event) :
    Operation Call Event :=
  operation.setDesk index
    { operation.desks index with received := (operation.desks index).received ++ [item] }

/-- The beginning of `flush`, when the worker goes to insert. -/
def enterFlush (operation : Operation Call Event) (index : Nat) : Operation Call Event :=
  match (operation.desks index).batchPtr, (operation.engine.workers index).inserts with
  | some pointer, true =>
      let (pool, events) := operation.pool.fill operation.engine.batchSize pointer
        ((operation.engine.workers index).batch.map (·.event))
      { operation with pool := pool }.setDesk index { operation.desks index with events := events }
  | _, _ => operation

/-- `e.pool.Put(batchPtr)`, when the worker has returned. -/
def leave (operation : Operation Call Event) (index : Nat) : Operation Call Event :=
  match (operation.desks index).batchPtr, (operation.engine.workers index).isStopped with
  | some pointer, true =>
      { operation with pool := { operation.pool with free := pointer :: operation.pool.free } }.setDesk
        index { operation.desks index with batchPtr := none }
  | _, _ => operation

/-- The start of `worker`. -/
def startWorker (operation : Operation Call Event) (index : Nat) (reused : Option Nat) :
    Option (Operation Call Event) :=
  match (operation.desks index).batchPtr, (operation.engine.workers index).phase with
  | none, .selecting =>
      match reused with
      | some pointer =>
          if pointer ∈ operation.pool.free then
            some ({ operation with
              pool := { operation.pool with free := operation.pool.free.erase pointer } }.setDesk index
                { operation.desks index with batchPtr := some pointer })
          else none
      | none =>
          some ({ operation with pool := operation.pool.allocate [] }.setDesk index
            { operation.desks index with batchPtr := some operation.pool.allocated })
  | _, _ => none

/-- Whether the worker has got its slice, and so is at its loop. -/
def running (operation : Operation Call Event) (index : Nat) : Bool :=
  (operation.desks index).batchPtr.isSome

/-- Record the outcome of an attempt, and the flush when it was the last one. -/
def recordAttempt (operation : Operation Call Event) (index : Nat)
    (items : List (QueuedEvent Call Event)) (result : Option EngineError) :
    Operation Call Event :=
  let desk := operation.desks index
  let attempts := desk.attempts ++ [⟨operation.pool.read desk.events, result⟩]
  if (operation.engine.workers index).inserts then
    operation.setDesk index { desk with attempts := attempts }
  else
    operation.setDesk index
      { desk with attempts := [], flushes := desk.flushes ++ [⟨items, attempts⟩] }

/-- `item.done <- result; close(item.done)` for the next item of the batch. -/
def answerNext (operation : Operation Call Event) (index : Nat) : Option (Operation Call Event) :=
  match (operation.engine.workers index).phase with
  | .answering result (item :: _) =>
      match (operation.doneChannels item.done).send result with
      | .sent channel =>
          (operation.engine.stepLive (.answer index)).map fun engine =>
            { operation with
              engine := engine
              doneChannels := Function.update operation.doneChannels item.done channel.close }
      | .blocked => none
      | .panics => some { operation with engine := { operation.engine with panicked := true } }
  | _ => none

/-- The steps of a process that is alive. -/
def stepLive (operation : Operation Call Event) :
    OperationLabel Call Event → Option (Operation Call Event)
  | .addEvent call event =>
      match operation.calls call with
      | .idle => some (operation.setCall call (.sending event))
      | _ => none
  | .send call =>
      match operation.calls call with
      | .sending event =>
          if operation.engine.closed then some (operation.setCall call .panicked)
          else (operation.engine.stepLive (.send call event)).map fun engine =>
            { operation with engine := engine }.accept ⟨event, call⟩
      | _ => none
  | .handoff call index =>
      match operation.calls call, operation.running index with
      | .sending event, true =>
          (operation.engine.stepLive (.handoff call event index)).map fun engine =>
            ((({ operation with engine := engine }.accept ⟨event, call⟩).hand index
              ⟨event, call⟩).enterFlush index)
      | _, _ => none
  | .canceled call =>
      match operation.calls call, operation.canceled with
      | .sending _, true => some (operation.setCall call (.left .canceled))
      | _, _ => none
  | .expired call error =>
      match operation.calls call with
      | .sending _ | .waiting => some (operation.setCall call (.left error))
      | _ => none
  | .done call =>
      match operation.calls call, (operation.doneChannels call).receive none with
      | .waiting, some (result, channel) =>
          some ({ operation with
            doneChannels := Function.update operation.doneChannels call channel }.setCall call
              (.answered result))
      | _, _ => none
  | .start index reused => operation.startWorker index reused
  | .receive index =>
      match operation.engine.eventChan, operation.running index with
      | item :: _, true =>
          (operation.engine.stepLive (.receive index)).map fun engine =>
            (({ operation with engine := engine }.hand index item).enterFlush index)
      | _, _ => none
  | .tick index =>
      if operation.running index then
        (operation.engine.stepLive (.tick index)).map fun engine =>
          { operation with engine := engine }.enterFlush index
      else none
  | .insertBatch index result =>
      (operation.engine.stepLive (.insertBatch index result)).map fun engine =>
        { operation with engine := engine }.recordAttempt index
          (operation.engine.workers index).batch result
  | .answer index => (operation.answerNext index).map (·.leave index)
  | .drain index =>
      if operation.running index then
        (operation.engine.stepLive (.drain index)).map fun engine =>
          (({ operation with engine := engine }.enterFlush index).leave index)
      else none
  | .close =>
      (operation.engine.stepLive .close).map fun engine => { operation with engine := engine }
  | .cancel =>
      if operation.engine.closed ∧
          (List.range operation.started).all fun index =>
            (operation.engine.workers index).isStopped then
        some { operation with canceled := true }
      else none

def step (operation : Operation Call Event) (label : OperationLabel Call Event) :
    Option (Operation Call Event) :=
  if operation.engine.panicked then none else operation.stepLive label

/-- What a step does, one case for each way that it can go. -/
inductive Happens (operation : Operation Call Event) :
    OperationLabel Call Event → Operation Call Event → Prop where
  | called {call : Call} {event : Event} (idle : operation.calls call = .idle) :
      Happens operation (.addEvent call event) (operation.setCall call (.sending event))
  | panicked {call : Call} {event : Event} (offered : operation.calls call = .sending event) :
      Happens operation (.send call) (operation.setCall call .panicked)
  | sent {call : Call} {event : Event} (offered : operation.calls call = .sending event)
      (opened : operation.engine.closed = false) :
      Happens operation (.send call)
        ({ operation with
          engine := { operation.engine with
            eventChan := operation.engine.eventChan ++ [QueuedEvent.mk event call] } }.accept
              ⟨event, call⟩)
  | handed {call : Call} {event : Event} {index : Nat}
      (offered : operation.calls call = .sending event)
      (running : operation.running index = true) (opened : operation.engine.closed = false)
      (empty : operation.engine.eventChan = [])
      (selecting : (operation.engine.workers index).phase = .selecting) :
      Happens operation (.handoff call index)
        ((({ operation with
          engine := operation.engine.setWorker index ((operation.engine.workers index).collect
            operation.engine.batchSize ⟨event, call⟩) }.accept ⟨event, call⟩).hand index
              ⟨event, call⟩).enterFlush index)
  | left {label : OperationLabel Call Event} {call : Call} {error : EngineError}
      (inside : (∃ event, operation.calls call = .sending event) ∨ operation.calls call = .waiting)
      (outside : label = .canceled call ∨ label = .expired call error) :
      Happens operation label (operation.setCall call (.left error))
  | done {call : Call} {result : Option EngineError} {channel : Channel (Option EngineError)}
      (waiting : operation.calls call = .waiting)
      (received : (operation.doneChannels call).receive none = some (result, channel)) :
      Happens operation (.done call)
        ({ operation with
          doneChannels := Function.update operation.doneChannels call channel }.setCall call
            (.answered result))
  | reused {index pointer : Nat} (idle : (operation.desks index).batchPtr = none)
      (selecting : (operation.engine.workers index).phase = .selecting)
      (pooled : pointer ∈ operation.pool.free) :
      Happens operation (.start index (some pointer))
        ({ operation with
          pool := { operation.pool with free := operation.pool.free.erase pointer } }.setDesk index
            { operation.desks index with batchPtr := some pointer })
  | allocated {index : Nat} (idle : (operation.desks index).batchPtr = none)
      (selecting : (operation.engine.workers index).phase = .selecting) :
      Happens operation (.start index none)
        ({ operation with pool := operation.pool.allocate [] }.setDesk index
          { operation.desks index with batchPtr := some operation.pool.allocated })
  | received {index : Nat} {item : QueuedEvent Call Event}
      {rest : List (QueuedEvent Call Event)}
      (front : operation.engine.eventChan = item :: rest)
      (running : operation.running index = true)
      (selecting : (operation.engine.workers index).phase = .selecting) :
      Happens operation (.receive index)
        (({ operation with
          engine := { operation.engine with eventChan := rest }.setWorker index
            ((operation.engine.workers index).collect operation.engine.batchSize item) }.hand index
              item).enterFlush index)
  | ticked {index : Nat} (running : operation.running index = true)
      (selecting : (operation.engine.workers index).phase = .selecting) :
      Happens operation (.tick index)
        ({ operation with
          engine := operation.engine.setWorker index
            (operation.engine.workers index).flush }.enterFlush index)
  | retried {index attempt : Nat} {result : Option EngineError}
      (inserting : (operation.engine.workers index).phase = .inserting attempt)
      (failed : result ≠ none) (again : attempt + 1 < 3) :
      Happens operation (.insertBatch index result)
        ({ operation with
          engine := operation.engine.setWorker index
            { operation.engine.workers index with phase := .inserting (attempt + 1) } }.setDesk index
              { operation.desks index with
                attempts := (operation.desks index).attempts ++
                  [Attempt.mk (operation.pool.read (operation.desks index).events) result] })
  | concluded {index attempt : Nat} {result : Option EngineError}
      {inserted : List (List (QueuedEvent Call Event))}
      (inserting : (operation.engine.workers index).phase = .inserting attempt)
      (last : result = none ∨ 3 ≤ attempt + 1) :
      Happens operation (.insertBatch index result)
        ({ operation with
          engine := { operation.engine with inserted := inserted }.setWorker index
            ((operation.engine.workers index).answer result
              (operation.engine.workers index).batch) }.setDesk index
                { operation.desks index with
                  attempts := []
                  flushes := (operation.desks index).flushes ++
                    [Flush.mk (operation.engine.workers index).batch
                      ((operation.desks index).attempts ++
                        [Attempt.mk (operation.pool.read (operation.desks index).events)
                          result])] })
  | answered {index : Nat} {result : Option EngineError} {item : QueuedEvent Call Event}
      {rest : List (QueuedEvent Call Event)} {channel : Channel (Option EngineError)}
      (answering : (operation.engine.workers index).phase = .answering result (item :: rest))
      (sent : (operation.doneChannels item.done).send result = .sent channel) :
      Happens operation (.answer index)
        ({ operation with
          engine := (operation.engine.reply result item).setWorker index
            ((operation.engine.workers index).answer result rest)
          doneChannels := Function.update operation.doneChannels item.done channel.close }.leave
            index)
  | sendPanics {index : Nat} {result : Option EngineError} {item : QueuedEvent Call Event}
      {rest : List (QueuedEvent Call Event)} {next : Operation Call Event}
      (answering : (operation.engine.workers index).phase = .answering result (item :: rest))
      (panics : (operation.doneChannels item.done).send result = .panics) :
      Happens operation (.answer index) next
  | drained {index : Nat} (running : operation.running index = true)
      (closed : operation.engine.closed = true) (empty : operation.engine.eventChan = [])
      (selecting : (operation.engine.workers index).phase = .selecting) :
      Happens operation (.drain index)
        (({ operation with
          engine := operation.engine.setWorker index
            { operation.engine.workers index with draining := true }.flush }.enterFlush
              index).leave index)
  | closed (opened : operation.engine.closed = false) :
      Happens operation .close
        { operation with engine := { operation.engine with closed := true } }
  | canceled : Happens operation .cancel { operation with canceled := true }

end Operation

@[simp] theorem Engine.workers_setWorker {Call Event : Type} (engine : Engine Call Event)
    (index : Nat) (worker : Worker Call Event) :
    (engine.setWorker index worker).workers index = worker := Function.update_self ..

/-- A worker that goes to answer inserts no more. -/
theorem Worker.inserts_answer {Call Event : Type} (worker : Worker Call Event)
    (result : Option EngineError) (rest : List (QueuedEvent Call Event)) :
    (worker.answer result rest).inserts = false := by
  unfold Worker.answer Worker.resume
  split
  · cases worker.draining <;> rfl
  · rfl

/-- An attempt that is to be retried is noted on the desk. -/
theorem Operation.recordAttempt_inserts {Call Event : Type} {operation : Operation Call Event}
    {index : Nat} {items : List (QueuedEvent Call Event)} {result : Option EngineError}
    (inserts : (operation.engine.workers index).inserts = true) :
    operation.recordAttempt index items result =
      operation.setDesk index { operation.desks index with
        attempts := (operation.desks index).attempts ++
          [⟨operation.pool.read (operation.desks index).events, result⟩] } := by
  rw [Operation.recordAttempt, if_pos inserts]

/-- The last attempt makes the attempts of the desk a flush. -/
theorem Operation.recordAttempt_concludes {Call Event : Type} {operation : Operation Call Event}
    {index : Nat} {items : List (QueuedEvent Call Event)} {result : Option EngineError}
    (concludes : (operation.engine.workers index).inserts = false) :
    operation.recordAttempt index items result =
      operation.setDesk index { operation.desks index with
        attempts := []
        flushes := (operation.desks index).flushes ++
          [⟨items, (operation.desks index).attempts ++
            [⟨operation.pool.read (operation.desks index).events, result⟩]⟩] } := by
  rw [Operation.recordAttempt, if_neg (Bool.eq_false_iff.mp concludes)]

namespace Operation

variable {Call Event : Type} [DecidableEq Call] {operation next : Operation Call Event}
  {label : OperationLabel Call Event}

/-- An attempt is retried or the last one. -/
theorem happens_of_insertBatch {index : Nat} {result : Option EngineError}
    (live : operation.stepLive (.insertBatch index result) = some next) :
    operation.Happens (.insertBatch index result) next := by
  obtain ⟨engine, moved, rfl⟩ := Option.map_eq_some_iff.mp live
  obtain ⟨attempt, inserting, ⟨failed, again, rfl⟩ | ⟨last, inserted, rfl⟩⟩ :=
    Engine.insertBatch_of_stepLive moved
  · rw [recordAttempt_inserts (by rw [Engine.workers_setWorker]; rfl)]
    exact .retried inserting failed again
  · rw [recordAttempt_concludes (by rw [Engine.workers_setWorker, Worker.inserts_answer])]
    exact .concluded inserting last

/-- A worker gets a slice from the pool or a new one. -/
theorem happens_of_startWorker {index : Nat} {reused : Option Nat}
    (live : operation.startWorker index reused = some next) :
    operation.Happens (.start index reused) next := by
  unfold startWorker at live
  split at live
  · rename_i idle selecting
    cases reused with
    | none =>
        cases live
        exact .allocated idle selecting
    | some pointer =>
        dsimp only at live
        split at live
        · rename_i pooled
          cases live
          exact .reused idle selecting pooled
        · cases live
  · cases live

/-- The answer goes out, or its channel was closed before. -/
theorem happens_of_answer {index : Nat}
    (live : operation.stepLive (.answer index) = some next) :
    operation.Happens (.answer index) next := by
  obtain ⟨before, replied, rfl⟩ := Option.map_eq_some_iff.mp live
  unfold answerNext at replied
  split at replied
  · rename_i result item rest answering
    split at replied
    · rename_i channel sent
      obtain ⟨engine, moved, rfl⟩ := Option.map_eq_some_iff.mp replied
      obtain ⟨value, first, others, same, rfl⟩ := Engine.answer_of_stepLive moved
      rw [answering] at same
      cases same
      exact .answered answering sent
    · cases replied
    · rename_i panics
      exact .sendPanics answering panics
  · cases replied

/-- Every step is one of the cases. -/
theorem happens_of_step (step : operation.step label = some next) :
    operation.Happens label next := by
  unfold Operation.step at step
  split at step
  · cases step
  · rename_i alive
    clear alive
    cases label with
    | addEvent call event =>
        simp only [stepLive] at step
        split at step
        · rename_i idle
          cases step
          exact .called idle
        · cases step
    | send call =>
        simp only [stepLive] at step
        split at step
        · rename_i event offered
          split at step
          · cases step
            exact .panicked offered
          · rename_i opened
            have opened := Bool.eq_false_iff.mpr opened
            obtain ⟨engine, moved, rfl⟩ := Option.map_eq_some_iff.mp step
            cases Engine.send_of_stepLive opened moved
            exact .sent offered opened
        · cases step
    | handoff call index =>
        simp only [stepLive] at step
        split at step
        · rename_i event offered running
          obtain ⟨engine, moved, rfl⟩ := Option.map_eq_some_iff.mp step
          obtain ⟨opened, empty, selecting, rfl⟩ := Engine.handoff_of_stepLive moved
          exact .handed offered running opened empty selecting
        · cases step
    | canceled call =>
        simp only [stepLive] at step
        split at step
        · rename_i event offered ended
          cases step
          exact .left (.inl ⟨event, offered⟩) (.inl rfl)
        · cases step
    | expired call error =>
        simp only [stepLive] at step
        split at step
        · rename_i event offered
          cases step
          exact .left (.inl ⟨event, offered⟩) (.inr rfl)
        · rename_i waiting
          cases step
          exact .left (.inr waiting) (.inr rfl)
        · cases step
    | done call =>
        simp only [stepLive] at step
        split at step
        · rename_i result channel waiting received
          cases step
          exact .done waiting received
        · cases step
    | start index reused => exact happens_of_startWorker step
    | receive index =>
        simp only [stepLive] at step
        split at step
        · rename_i item rest front running
          obtain ⟨engine, moved, rfl⟩ := Option.map_eq_some_iff.mp step
          obtain ⟨selecting, rfl⟩ := Engine.receive_of_stepLive front moved
          exact .received front running selecting
        · cases step
    | tick index =>
        simp only [stepLive] at step
        split at step
        · rename_i running
          obtain ⟨engine, moved, rfl⟩ := Option.map_eq_some_iff.mp step
          obtain ⟨selecting, rfl⟩ := Engine.tick_of_stepLive moved
          exact .ticked running selecting
        · cases step
    | insertBatch index result => exact happens_of_insertBatch step
    | answer index => exact happens_of_answer step
    | drain index =>
        simp only [stepLive] at step
        split at step
        · rename_i running
          obtain ⟨engine, moved, rfl⟩ := Option.map_eq_some_iff.mp step
          obtain ⟨closed, empty, selecting, rfl⟩ := Engine.drain_of_stepLive moved
          exact .drained running closed empty selecting
        · cases step
    | close =>
        obtain ⟨engine, moved, rfl⟩ := Option.map_eq_some_iff.mp step
        obtain ⟨opened, rfl⟩ := Engine.close_of_stepLive moved
        exact .closed opened
    | cancel =>
        simp only [stepLive] at step
        split at step
        · cases step
          exact .canceled
        · cases step

end Operation

/-!
## What entering and leaving a flush keep
-/

section Frames

variable {Call Event : Type} (operation : Operation Call Event) (index : Nat)

/-- The same apart from what was borrowed from the pool. -/
structure Desk.SameHistory (desk before : Desk Call Event) : Prop where
  received : desk.received = before.received
  flushes : desk.flushes = before.flushes
  attempts : desk.attempts = before.attempts

/-- Two changes that each keep the history keep it together. -/
theorem Desk.SameHistory.trans {desk middle before : Desk Call Event}
    (later : desk.SameHistory middle) (earlier : middle.SameHistory before) :
    desk.SameHistory before :=
  ⟨later.received.trans earlier.received, later.flushes.trans earlier.flushes,
    later.attempts.trans earlier.attempts⟩

namespace Operation

@[simp] theorem setDesk_self (desk : Desk Call Event) :
    (operation.setDesk index desk).desks index = desk := Function.update_self ..

/-- Only the one desk is changed. -/
theorem setDesk_of_ne {other : Nat} (apart : other ≠ index) (desk : Desk Call Event) :
    (operation.setDesk index desk).desks other = operation.desks other :=
  Function.update_of_ne apart ..

@[simp] theorem enterFlush_engine : (operation.enterFlush index).engine = operation.engine := by
  unfold enterFlush
  split <;> rfl

@[simp] theorem enterFlush_calls : (operation.enterFlush index).calls = operation.calls := by
  unfold enterFlush
  split <;> rfl

@[simp] theorem enterFlush_doneChannels :
    (operation.enterFlush index).doneChannels = operation.doneChannels := by
  unfold enterFlush
  split <;> rfl

@[simp] theorem enterFlush_accepted :
    (operation.enterFlush index).accepted = operation.accepted := by
  unfold enterFlush
  split <;> rfl

/-- A flush that begins changes the desk of its worker only. -/
theorem enterFlush_of_ne {other : Nat} (apart : other ≠ index) :
    (operation.enterFlush index).desks other = operation.desks other := by
  unfold enterFlush
  split
  · exact setDesk_of_ne _ _ apart _
  · rfl

/-- Nothing is received, flushed or attempted when a flush begins. -/
theorem enterFlush_history :
    ((operation.enterFlush index).desks index).SameHistory (operation.desks index) := by
  unfold enterFlush
  split
  · simp only [setDesk_self]
    exact ⟨rfl, rfl, rfl⟩
  · exact ⟨rfl, rfl, rfl⟩

@[simp] theorem leave_engine : (operation.leave index).engine = operation.engine := by
  unfold leave
  split <;> rfl

@[simp] theorem leave_calls : (operation.leave index).calls = operation.calls := by
  unfold leave
  split <;> rfl

@[simp] theorem leave_doneChannels :
    (operation.leave index).doneChannels = operation.doneChannels := by
  unfold leave
  split <;> rfl

@[simp] theorem leave_accepted : (operation.leave index).accepted = operation.accepted := by
  unfold leave
  split <;> rfl

/-- A worker that leaves changes its own desk only. -/
theorem leave_of_ne {other : Nat} (apart : other ≠ index) :
    (operation.leave index).desks other = operation.desks other := by
  unfold leave
  split
  · exact setDesk_of_ne _ _ apart _
  · rfl

/-- Leaving, a worker keeps what it has received and flushed. -/
theorem leave_history :
    ((operation.leave index).desks index).SameHistory (operation.desks index) := by
  unfold leave
  split
  · simp only [setDesk_self]
    exact ⟨rfl, rfl, rfl⟩
  · exact ⟨rfl, rfl, rfl⟩

/-- Between the two only one worker moved: it and its desk are now these. -/
structure Moves (operation next : Operation Call Event) (index : Nat)
    (worker : Worker Call Event) (desk : Desk Call Event) : Prop where
  size : next.engine.batchSize = operation.engine.batchSize
  workers : next.engine.workers = Function.update operation.engine.workers index worker
  desks : ∀ other, other ≠ index → next.desks other = operation.desks other
  desk : (next.desks index).SameHistory desk

namespace Moves

variable {operation next : Operation Call Event} {index : Nat} {worker : Worker Call Event}
  {desk : Desk Call Event}

/-- The worker that moved is the new one. -/
theorem worker_self (moves : operation.Moves next index worker desk) :
    next.engine.workers index = worker := by
  rw [moves.workers, Function.update_self]

/-- The other workers stayed where they were. -/
theorem worker_of_ne (moves : operation.Moves next index worker desk) {other : Nat}
    (apart : other ≠ index) : next.engine.workers other = operation.engine.workers other := by
  rw [moves.workers, Function.update_of_ne apart]

/-- The worker and its desk moved together. -/
theorem of_setDesk (size : next.engine.batchSize = operation.engine.batchSize)
    (workers : next.engine.workers = Function.update operation.engine.workers index worker)
    (desks : next.desks = operation.desks) :
    operation.Moves (next.setDesk index desk) index worker desk where
  size := size
  workers := workers
  desks := fun other apart => (setDesk_of_ne _ _ apart _).trans (congrFun desks other)
  desk := by
    rw [setDesk_self]
    exact ⟨rfl, rfl, rfl⟩

/-- The worker moved when it was handed an item. -/
theorem of_hand {item : QueuedEvent Call Event}
    (size : next.engine.batchSize = operation.engine.batchSize)
    (workers : next.engine.workers = Function.update operation.engine.workers index worker)
    (desks : next.desks = operation.desks) :
    operation.Moves (next.hand index item) index worker
      { operation.desks index with received := (operation.desks index).received ++ [item] } := by
  rw [hand, desks]
  exact .of_setDesk size workers desks

/-- The worker moved without its desk. -/
theorem of_worker (size : next.engine.batchSize = operation.engine.batchSize)
    (workers : next.engine.workers = Function.update operation.engine.workers index worker)
    (desks : next.desks = operation.desks) :
    operation.Moves next index worker (operation.desks index) where
  size := size
  workers := workers
  desks := fun other _ => congrFun desks other
  desk := by
    rw [desks]
    exact ⟨rfl, rfl, rfl⟩

/-- Getting a slice from the pool. -/
theorem of_borrow (operation : Operation Call Event) (index : Nat) (pool : SlicePool Event)
    (pointer : Option Nat) :
    operation.Moves ({ operation with pool := pool }.setDesk index
      { operation.desks index with batchPtr := pointer }) index (operation.engine.workers index)
        (operation.desks index) where
  size := rfl
  workers := (Function.update_eq_self _ _).symm
  desks := fun _ apart => setDesk_of_ne _ _ apart _
  desk := by
    rw [setDesk_self]
    exact ⟨rfl, rfl, rfl⟩

/-- Filling the slice afterwards is part of the same move. -/
theorem enterFlush (moves : operation.Moves next index worker desk) :
    operation.Moves (next.enterFlush index) index worker desk where
  size := by rw [enterFlush_engine, moves.size]
  workers := by rw [enterFlush_engine, moves.workers]
  desks := fun other apart => (enterFlush_of_ne _ _ apart).trans (moves.desks other apart)
  desk := (enterFlush_history next index).trans moves.desk

theorem leave (moves : operation.Moves next index worker desk) :
    operation.Moves (next.leave index) index worker desk where
  size := by rw [leave_engine, moves.size]
  workers := by rw [leave_engine, moves.workers]
  desks := fun other apart => (leave_of_ne _ _ apart).trans (moves.desks other apart)
  desk := (leave_history next index).trans moves.desk

end Moves
end Operation
end Frames

def operationMachine (Call Event : Type) [DecidableEq Call] :
    Machine (Operation Call Event) (OperationLabel Call Event) := ⟨Operation.step⟩

end Sentinel.Analytics
