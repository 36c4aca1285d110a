import Mathlib.Logic.Function.Basic

/-!
# The analytics batch engine

`batch.Engine`: calls of `AddEvent` put events on one bounded channel, workers
collect them into batches, insert a batch with up to three attempts and then
answer every item of it on its one-shot `done` channel. A label names what the
scheduler, the ticker or ClickHouse does next.
-/

namespace Sentinel.Analytics

/-- The errors that reach a caller of `AddEvent`. -/
inductive EngineError where
  | insertFailed
  | canceled
  | deadlineExceeded
deriving DecidableEq, Repr

/-- An event with the `done` channel of the call that queued it. -/
structure QueuedEvent (Call Event : Type) where
  event : Event
  done : Call
deriving DecidableEq, Repr

/-- Where a worker stands: at its `select`, in `InsertBatch`, or answering. -/
inductive WorkerPhase (Call Event : Type) where
  | selecting
  | inserting (attempt : Nat)
  | answering (result : Option EngineError) (rest : List (QueuedEvent Call Event))
  | stopped

structure Worker (Call Event : Type) where
  batch : List (QueuedEvent Call Event)
  phase : WorkerPhase Call Event
  /-- The channel was found closed, so the flush under way is the last one. -/
  draining : Bool

namespace Worker

variable {Call Event : Type}

def started : Worker Call Event := ⟨[], .selecting, false⟩

/-- The end of `flush`: the batch is emptied and the loop goes on or returns. -/
def resume (worker : Worker Call Event) : Worker Call Event :=
  { worker with
    batch := []
    phase := if worker.draining then .stopped else .selecting }

/-- `flush`, up to the first call of `InsertBatch`. -/
def flush (worker : Worker Call Event) : Worker Call Event :=
  match worker.batch with
  | [] => worker.resume
  | _ :: _ => { worker with phase := .inserting 0 }

/-- Append a received item and flush a full batch. -/
def collect (batchSize : Nat) (item : QueuedEvent Call Event)
    (worker : Worker Call Event) : Worker Call Event :=
  if batchSize ≤ (worker.batch ++ [item]).length then
    { worker with batch := worker.batch ++ [item] }.flush
  else
    { worker with batch := worker.batch ++ [item] }

/-- Answer the items that remain, or end the flush when none does. -/
def answer (result : Option EngineError) (rest : List (QueuedEvent Call Event))
    (worker : Worker Call Event) : Worker Call Event :=
  match rest with
  | [] => worker.resume
  | _ :: _ => { worker with phase := .answering result rest }

end Worker

structure Engine (Call Event : Type) where
  batchSize : Nat
  eventChan : List (QueuedEvent Call Event)
  closed : Bool
  workers : Nat → Worker Call Event
  /-- The values sent on each call's `done` channel, oldest first. -/
  done : Call → List (Option EngineError)
  /-- The batches for which `InsertBatch` returned nil, oldest first. -/
  inserted : List (List (QueuedEvent Call Event))
  /-- The events handed to `onEvent`, oldest first. -/
  broadcast : List Event
  /-- A send hit the closed channel. -/
  panicked : Bool

/-- What happens next inside the engine. -/
inductive EngineLabel (Call Event : Type) where
  /-- The first `select` of `AddEvent` takes its send case. -/
  | send (call : Call) (event : Event)
  /-- The same, straight into the hands of a waiting worker. -/
  | handoff (call : Call) (event : Event) (worker : Nat)
  | receive (worker : Nat)
  | tick (worker : Nat)
  | insertBatch (worker : Nat) (result : Option EngineError)
  | answer (worker : Nat)
  | close
  | drain (worker : Nat)
deriving DecidableEq

namespace Engine

variable {Call Event : Type} [DecidableEq Call]

/-- `NewEngine` followed by `Start(count)`. -/
def start (batchSize count : Nat) : Engine Call Event where
  batchSize := batchSize
  eventChan := []
  closed := false
  workers := fun worker =>
    if worker < count then .started else { Worker.started with phase := .stopped }
  done := fun _ => []
  inserted := []
  broadcast := []
  panicked := false

/-- A new process with `count` workers: only what ClickHouse has stored is left. -/
def restart (engine : Engine Call Event) (count : Nat) : Engine Call Event :=
  { start engine.batchSize count with inserted := engine.inserted }

/-- The channel is made with capacity `batchSize*10`. -/
def capacity (engine : Engine Call Event) : Nat := engine.batchSize * 10

def setWorker (engine : Engine Call Event) (index : Nat) (worker : Worker Call Event) :
    Engine Call Event :=
  { engine with workers := Function.update engine.workers index worker }

/-- `item.done <- result; close(item.done)` and, after a success, `onEvent`. -/
def reply (engine : Engine Call Event) (result : Option EngineError)
    (item : QueuedEvent Call Event) : Engine Call Event :=
  { engine with
    done := Function.update engine.done item.done (engine.done item.done ++ [result])
    broadcast := if result = none then engine.broadcast ++ [item.event] else engine.broadcast }

/-- The steps of a process that has not panicked. -/
def stepLive (engine : Engine Call Event) : EngineLabel Call Event → Option (Engine Call Event)
  | .send call event =>
      if engine.closed then some { engine with panicked := true }
      else if engine.eventChan.length < engine.capacity then
        some { engine with eventChan := engine.eventChan ++ [⟨event, call⟩] }
      else none
  | .handoff call event index =>
      match engine.closed, engine.eventChan, (engine.workers index).phase with
      | false, [], .selecting =>
          some (engine.setWorker index
            ((engine.workers index).collect engine.batchSize ⟨event, call⟩))
      | _, _, _ => none
  | .receive index =>
      match engine.eventChan, (engine.workers index).phase with
      | item :: rest, .selecting =>
          some ({ engine with eventChan := rest }.setWorker index
            ((engine.workers index).collect engine.batchSize item))
      | _, _ => none
  | .tick index =>
      match (engine.workers index).phase with
      | .selecting => some (engine.setWorker index (engine.workers index).flush)
      | _ => none
  | .insertBatch index result =>
      match (engine.workers index).phase with
      | .inserting attempt =>
          match result with
          | none =>
              some ({ engine with inserted := engine.inserted ++ [(engine.workers index).batch] }.setWorker
                index ((engine.workers index).answer none (engine.workers index).batch))
          | some error =>
              if attempt + 1 < 3 then
                some (engine.setWorker index
                  { engine.workers index with phase := .inserting (attempt + 1) })
              else
                some (engine.setWorker index
                  ((engine.workers index).answer (some error) (engine.workers index).batch))
      | _ => none
  | .answer index =>
      match (engine.workers index).phase with
      | .answering result (item :: rest) =>
          some ((engine.reply result item).setWorker index
            ((engine.workers index).answer result rest))
      | _ => none
  | .close => if engine.closed then none else some { engine with closed := true }
  | .drain index =>
      match engine.closed, engine.eventChan, (engine.workers index).phase with
      | true, [], .selecting =>
          some (engine.setWorker index { engine.workers index with draining := true }.flush)
      | _, _, _ => none

def step (engine : Engine Call Event) (label : EngineLabel Call Event) :
    Option (Engine Call Event) :=
  if engine.panicked then none else engine.stepLive label

section StepLive

variable {engine next : Engine Call Event} {index : Nat}

/-- A send puts the event at the end of the channel. -/
theorem send_of_stepLive {call : Call} {event : Event} (opened : engine.closed = false)
    (live : engine.stepLive (.send call event) = some next) :
    next = { engine with eventChan := engine.eventChan ++ [⟨event, call⟩] } := by
  rw [stepLive, if_neg (Bool.eq_false_iff.mp opened)] at live
  split at live
  · exact (Option.some.inj live).symm
  · cases live

/-- A handoff gives the event to a worker at its `select`, past an empty channel. -/
theorem handoff_of_stepLive {call : Call} {event : Event}
    (live : engine.stepLive (.handoff call event index) = some next) :
    engine.closed = false ∧ engine.eventChan = [] ∧
      (engine.workers index).phase = .selecting ∧
      next = engine.setWorker index
        ((engine.workers index).collect engine.batchSize ⟨event, call⟩) := by
  simp only [stepLive] at live
  split at live
  · rename_i opened empty selecting
    exact ⟨opened, empty, selecting, (Option.some.inj live).symm⟩
  · cases live

/-- A worker receives at its `select`. -/
theorem receive_of_stepLive {item : QueuedEvent Call Event} {rest : List (QueuedEvent Call Event)}
    (front : engine.eventChan = item :: rest)
    (live : engine.stepLive (.receive index) = some next) :
    (engine.workers index).phase = .selecting ∧
      next = { engine with eventChan := rest }.setWorker index
        ((engine.workers index).collect engine.batchSize item) := by
  simp only [stepLive, front] at live
  split at live
  · rename_i same selecting
    cases same
    exact ⟨selecting, (Option.some.inj live).symm⟩
  · cases live

/-- A tick comes at the `select` and flushes. -/
theorem tick_of_stepLive (live : engine.stepLive (.tick index) = some next) :
    (engine.workers index).phase = .selecting ∧
      next = engine.setWorker index (engine.workers index).flush := by
  simp only [stepLive] at live
  split at live
  · rename_i selecting
    exact ⟨selecting, (Option.some.inj live).symm⟩
  · cases live

/-- An attempt is repeated, or it ends the flush. -/
theorem insertBatch_of_stepLive {result : Option EngineError}
    (live : engine.stepLive (.insertBatch index result) = some next) :
    ∃ attempt, (engine.workers index).phase = .inserting attempt ∧
      ((result ≠ none ∧ attempt + 1 < 3 ∧ next = engine.setWorker index
          { engine.workers index with phase := .inserting (attempt + 1) }) ∨
        ((result = none ∨ 3 ≤ attempt + 1) ∧ ∃ inserted,
          next = { engine with inserted := inserted }.setWorker index
            ((engine.workers index).answer result (engine.workers index).batch))) := by
  simp only [stepLive] at live
  split at live
  · rename_i attempt inserting
    refine ⟨attempt, inserting, ?_⟩
    split at live
    · exact .inr ⟨.inl rfl, _, (Option.some.inj live).symm⟩
    · split at live
      · rename_i again
        exact .inl ⟨nofun, again, (Option.some.inj live).symm⟩
      · rename_i last
        exact .inr ⟨.inr (Nat.not_lt.mp last), _, (Option.some.inj live).symm⟩
  · cases live

/-- An answer goes to the first item that is to be answered. -/
theorem answer_of_stepLive (live : engine.stepLive (.answer index) = some next) :
    ∃ result item rest, (engine.workers index).phase = .answering result (item :: rest) ∧
      next = (engine.reply result item).setWorker index
        ((engine.workers index).answer result rest) := by
  simp only [stepLive] at live
  split at live
  · rename_i result item rest answering
    exact ⟨result, item, rest, answering, (Option.some.inj live).symm⟩
  · cases live

/-- The channel is closed once. -/
theorem close_of_stepLive (live : engine.stepLive .close = some next) :
    engine.closed = false ∧ next = { engine with closed := true } := by
  simp only [stepLive] at live
  split at live
  · cases live
  · rename_i opened
    exact ⟨Bool.eq_false_iff.mpr opened, (Option.some.inj live).symm⟩

/-- The last round begins when the closed channel is empty. -/
theorem drain_of_stepLive (live : engine.stepLive (.drain index) = some next) :
    engine.closed = true ∧ engine.eventChan = [] ∧
      (engine.workers index).phase = .selecting ∧
      next = engine.setWorker index { engine.workers index with draining := true }.flush := by
  simp only [stepLive] at live
  split at live
  · rename_i closed empty selecting
    exact ⟨closed, empty, selecting, (Option.some.inj live).symm⟩
  · cases live

end StepLive

/-- The item is in a batch whose `InsertBatch` returned nil. -/
def Stored (engine : Engine Call Event) (item : QueuedEvent Call Event) : Prop :=
  ∃ batch ∈ engine.inserted, item ∈ batch

end Engine

/-- What every worker keeps: its items satisfy `carried`, and while it answers
nil it only answers items of a stored batch. -/
structure Worker.Sound {Call Event : Type} (carried stored : QueuedEvent Call Event → Prop)
    (worker : Worker Call Event) : Prop where
  batch : ∀ item ∈ worker.batch, carried item
  rest : ∀ result rest, worker.phase = .answering result rest → ∀ item ∈ rest, carried item
  confirmed : ∀ rest, worker.phase = .answering none rest → ∀ item ∈ rest, stored item

namespace Worker.Sound

variable {Call Event : Type} {carried stored later : QueuedEvent Call Event → Prop}
  {worker : Worker Call Event}

/-- More that is stored does no harm. -/
theorem mono (implies : ∀ item, stored item → later item)
    (sound : worker.Sound carried stored) : worker.Sound carried later where
  batch := sound.batch
  rest := sound.rest
  confirmed := fun rest phase item member => implies item (sound.confirmed rest phase item member)

/-- A worker that is not answering is sound as soon as its batch is. -/
theorem of_batch (batch : ∀ item ∈ worker.batch, carried item)
    (phase : ∀ result rest, worker.phase ≠ .answering result rest) :
    worker.Sound carried stored where
  batch := batch
  rest := fun result rest same => absurd same (phase result rest)
  confirmed := fun rest same => absurd same (phase none rest)

/-- A worker back at its loop carries nothing. -/
theorem resume : worker.resume.Sound carried stored := by
  refine of_batch (by simp [Worker.resume]) fun result rest => ?_
  unfold Worker.resume
  split <;> simp

/-- A flush inserts what was carried. -/
theorem flush (batch : ∀ item ∈ worker.batch, carried item) :
    worker.flush.Sound carried stored := by
  unfold Worker.flush
  split
  · exact resume
  · exact of_batch batch (by simp)

/-- A received item is one more that is carried. -/
theorem collect {batchSize : Nat} {item : QueuedEvent Call Event}
    (batch : ∀ item ∈ worker.batch, carried item) (received : carried item)
    (selecting : worker.phase = .selecting) :
    (worker.collect batchSize item).Sound carried stored := by
  have extended : ∀ other ∈ worker.batch ++ [item], carried other := by
    intro other member
    rcases List.mem_append.mp member with old | new
    · exact batch other old
    · rw [List.mem_singleton.mp new]
      exact received
  unfold Worker.collect
  split
  · exact flush extended
  · exact of_batch extended (by simp [selecting])

/-- It answers nil for stored items only. -/
theorem answer {result : Option EngineError} {rest : List (QueuedEvent Call Event)}
    (batch : ∀ item ∈ worker.batch, carried item) (remaining : ∀ item ∈ rest, carried item)
    (confirmed : result = none → ∀ item ∈ rest, stored item) :
    (worker.answer result rest).Sound carried stored := by
  unfold Worker.answer
  split
  · exact resume
  · constructor
    · exact batch
    · rintro _ _ ⟨⟩
      exact remaining
    · rintro _ ⟨⟩
      exact confirmed rfl

end Worker.Sound

/-- The acknowledgement invariant of the engine, over any property `carried`
that every queued item has: a nil answer is only ever given for a stored item. -/
structure Engine.Sound {Call Event : Type} [DecidableEq Call]
    (carried : QueuedEvent Call Event → Prop) (engine : Engine Call Event) : Prop where
  queued : ∀ item ∈ engine.eventChan, carried item
  workers : ∀ index, (engine.workers index).Sound carried engine.Stored
  stored : ∀ item, engine.Stored item → carried item
  answered : ∀ call, none ∈ engine.done call → ∃ item, item.done = call ∧ engine.Stored item

namespace Engine.Sound

variable {Call Event : Type} [DecidableEq Call] {carried : QueuedEvent Call Event → Prop}
  {engine next : Engine Call Event}

/-- At the start nothing is on the channel. -/
theorem start (batchSize count : Nat) :
    (Engine.start batchSize count : Engine Call Event).Sound carried where
  queued := by simp [Engine.start]
  workers := by
    intro index
    refine .of_batch ?_ ?_ <;> simp only [Engine.start] <;> split <;> simp [Worker.started]
  stored := by simp [Engine.start, Engine.Stored]
  answered := by simp [Engine.start]

/-- A restart loses what was queued and confirms nothing. -/
theorem restart (sound : engine.Sound carried) (count : Nat) :
    (engine.restart count).Sound carried where
  queued := by simp [Engine.restart, Engine.start]
  workers := by
    intro index
    refine .of_batch ?_ ?_ <;> simp only [Engine.restart, Engine.start] <;> split <;>
      simp [Worker.started]
  stored := sound.stored
  answered := by simp [Engine.restart, Engine.start]

/-- Replacing one worker by a sound one keeps the engine sound. -/
theorem setWorker (sound : engine.Sound carried) {index : Nat} {worker : Worker Call Event}
    (replaced : worker.Sound carried engine.Stored) :
    (engine.setWorker index worker).Sound carried where
  queued := sound.queued
  workers := by
    intro other
    change (Function.update engine.workers index worker other).Sound carried engine.Stored
    by_cases same : other = index
    · subst same
      rw [Function.update_self]
      exact replaced
    · rw [Function.update_of_ne same]
      exact sound.workers other
  stored := sound.stored
  answered := sound.answered

/-- An item that may be carried is put on the channel. -/
theorem enqueue (sound : engine.Sound carried) {item : QueuedEvent Call Event}
    (added : carried item) :
    { engine with eventChan := engine.eventChan ++ [item] }.Sound carried where
  queued := by
    intro other member
    rcases List.mem_append.mp member with old | new
    · exact sound.queued other old
    · rw [List.mem_singleton.mp new]
      exact added
  workers := sound.workers
  stored := sound.stored
  answered := sound.answered

/-- The first item is taken from the channel. -/
theorem dequeue (sound : engine.Sound carried) {item : QueuedEvent Call Event}
    {rest : List (QueuedEvent Call Event)} (front : engine.eventChan = item :: rest) :
    { engine with eventChan := rest }.Sound carried where
  queued := fun other member => sound.queued other (front ▸ List.mem_cons_of_mem _ member)
  workers := sound.workers
  stored := sound.stored
  answered := sound.answered

/-- A nil from `InsertBatch` stores the batch of the worker that called it. -/
theorem insert (sound : engine.Sound carried) {batch : List (QueuedEvent Call Event)}
    (carry : ∀ item ∈ batch, carried item) :
    { engine with inserted := engine.inserted ++ [batch] }.Sound carried := by
  have grows : ∀ item, engine.Stored item →
      { engine with inserted := engine.inserted ++ [batch] }.Stored item := by
    rintro item ⟨stored, member, inside⟩
    exact ⟨stored, List.mem_append_left _ member, inside⟩
  constructor
  · exact sound.queued
  · exact fun index => (sound.workers index).mono grows
  · rintro item ⟨stored, member, inside⟩
    rcases List.mem_append.mp member with old | new
    · exact sound.stored item ⟨stored, old, inside⟩
    · rw [List.mem_singleton.mp new] at inside
      exact carry item inside
  · intro call answered
    obtain ⟨item, same, stored⟩ := sound.answered call answered
    exact ⟨item, same, grows item stored⟩

/-- Answering nil is sound for a stored item, answering an error for any item. -/
theorem reply (sound : engine.Sound carried) {result : Option EngineError}
    {item : QueuedEvent Call Event} (confirmed : result = none → engine.Stored item) :
    (engine.reply result item).Sound carried where
  queued := sound.queued
  workers := sound.workers
  stored := sound.stored
  answered := by
    intro call answered
    change none ∈ Function.update engine.done item.done
      (engine.done item.done ++ [result]) call at answered
    by_cases same : call = item.done
    · subst same
      rw [Function.update_self] at answered
      rcases List.mem_append.mp answered with old | new
      · exact sound.answered item.done old
      · exact ⟨item, rfl, confirmed (List.mem_singleton.mp new).symm⟩
    · rw [Function.update_of_ne same] at answered
      exact sound.answered call answered

end Engine.Sound

/-- The item that a step puts into the engine, if any. -/
def EngineLabel.item? {Call Event : Type} : EngineLabel Call Event → Option (QueuedEvent Call Event)
  | .send call event => some ⟨event, call⟩
  | .handoff call event _ => some ⟨event, call⟩
  | _ => none

section Steps

variable {Call Event : Type} [DecidableEq Call] {carried : QueuedEvent Call Event → Prop}
  {engine next : Engine Call Event} {label : EngineLabel Call Event}

/-- A step is one of a process that is alive. -/
theorem Engine.stepLive_of_step (step : engine.step label = some next) :
    engine.stepLive label = some next := by
  unfold Engine.step at step
  split at step
  · cases step
  · exact step

/-- Every step keeps the acknowledgement invariant, provided the item it lets
in satisfies `carried`. -/
theorem Engine.Sound.step (sound : engine.Sound carried)
    (admitted : ∀ item, label.item? = some item → carried item)
    (step : engine.step label = some next) : next.Sound carried := by
  have live := Engine.stepLive_of_step step
  clear step
  cases label with
  | send call event =>
      simp only [Engine.stepLive] at live
      split at live
      · cases live
        exact ⟨sound.queued, sound.workers, sound.stored, sound.answered⟩
      · split at live
        · cases live
          exact sound.enqueue (admitted _ rfl)
        · cases live
  | handoff call event index =>
      simp only [Engine.stepLive] at live
      split at live
      · rename_i selecting
        cases live
        exact sound.setWorker
          (.collect (sound.workers index).batch (admitted _ rfl) selecting)
      · cases live
  | receive index =>
      simp only [Engine.stepLive] at live
      split at live
      · rename_i item rest front selecting
        cases live
        exact (sound.dequeue front).setWorker (.collect (sound.workers index).batch
          (sound.queued item (front ▸ List.mem_cons_self)) selecting)
      · cases live
  | tick index =>
      simp only [Engine.stepLive] at live
      split at live
      · cases live
        exact sound.setWorker (.flush (sound.workers index).batch)
      · cases live
  | insertBatch index result =>
      simp only [Engine.stepLive] at live
      split at live
      · split at live
        · cases live
          refine (sound.insert (sound.workers index).batch).setWorker
            (.answer (sound.workers index).batch (sound.workers index).batch fun _ item member => ?_)
          exact ⟨_, List.mem_append_right _ List.mem_cons_self, member⟩
        · split at live
          · cases live
            exact sound.setWorker (.of_batch (sound.workers index).batch (by simp))
          · cases live
            exact sound.setWorker
              (.answer (sound.workers index).batch (sound.workers index).batch (by simp))
      · cases live
  | answer index =>
      simp only [Engine.stepLive] at live
      split at live
      · rename_i result item rest answering
        cases live
        have worker := sound.workers index
        refine (sound.reply ?_).setWorker (.answer worker.batch ?_ ?_)
        · rintro rfl
          exact worker.confirmed _ answering item List.mem_cons_self
        · exact fun other member =>
            worker.rest _ _ answering other (List.mem_cons_of_mem _ member)
        · rintro rfl other member
          exact worker.confirmed _ answering other (List.mem_cons_of_mem _ member)
      · cases live
  | close =>
      simp only [Engine.stepLive] at live
      split at live
      · cases live
      · cases live
        exact ⟨sound.queued, sound.workers, sound.stored, sound.answered⟩
  | drain index =>
      simp only [Engine.stepLive] at live
      split at live
      · cases live
        exact sound.setWorker (.flush (sound.workers index).batch)
      · cases live

/-- A step stores at most one more batch. -/
theorem Engine.inserted_of_step (step : engine.step label = some next) :
    next.inserted = engine.inserted ∨ ∃ batch, next.inserted = engine.inserted ++ [batch] := by
  have live := Engine.stepLive_of_step step
  cases label <;> simp only [Engine.stepLive] at live <;> (repeat' split at live) <;>
    cases live <;> first
      | exact .inl rfl
      | exact .inr ⟨_, rfl⟩

/-- A stored item stays stored. -/
theorem Engine.Stored.step {item : QueuedEvent Call Event} (stored : engine.Stored item)
    (step : engine.step label = some next) : next.Stored item := by
  obtain ⟨batch, member, inside⟩ := stored
  rcases Engine.inserted_of_step step with same | ⟨added, same⟩
  · exact ⟨batch, same ▸ member, inside⟩
  · exact ⟨batch, same ▸ List.mem_append_left _ member, inside⟩

end Steps
end Sentinel.Analytics
