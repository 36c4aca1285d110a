import Mathlib.Data.List.Nodup
import Sentinel.Analytics.Operation

/-!
# Where every accepted event is

An item that was sent on the channel is still there or was handed to exactly one
worker, and what a worker received is, in this order, what its flushes hold and
what it has pending. `Operation.Accounts` is the invariant.
-/

namespace Sentinel.Analytics

open Sentinel.Semantics

variable {Call Event : Type}

/-- The items that a worker has collected and not flushed. -/
def Worker.pending (worker : Worker Call Event) : List (QueuedEvent Call Event) :=
  match worker.phase with
  | .selecting | .inserting _ => worker.batch
  | .answering _ _ | .stopped => []

/-- A flush as it should be: not too large, every attempt with all its events in
order, and none after a success or after the third. -/
structure Flush.Sound (batchSize : Nat) (flush : Flush Call Event) : Prop where
  bounded : flush.items.length ≤ max 1 batchSize
  passed : ∀ attempt ∈ flush.attempts, attempt.events = flush.items.map (·.event)
  attempted : ∃ failures last, flush.attempts = failures ++ [last] ∧
    (∀ attempt ∈ failures, attempt.result ≠ none) ∧
      (last.result = none ∧ failures.length < 3 ∨ last.result ≠ none ∧ failures.length = 2)

namespace Flush.Sound

variable {batchSize : Nat} {flush : Flush Call Event}

/-- A flush without an error has an attempt without one. -/
theorem succeeded (sound : flush.Sound batchSize) (result : flush.result = none) :
    ∃ attempt ∈ flush.attempts, attempt.result = none := by
  obtain ⟨failures, last, same, _, _⟩ := sound.attempted
  rw [Flush.result, same] at result
  simp only [List.getLast?_concat, Option.map_some, Option.join_some] at result
  exact ⟨last, by simp [same], result⟩

/-- A flush with an error has failed three times. -/
theorem failed (sound : flush.Sound batchSize) (result : flush.result ≠ none) :
    flush.attempts.length = 3 ∧ ∀ attempt ∈ flush.attempts, attempt.result ≠ none := by
  obtain ⟨failures, last, same, failed, ended⟩ := sound.attempted
  rw [Flush.result, same] at result
  simp only [List.getLast?_concat, Option.map_some, Option.join_some] at result
  have third : failures.length = 2 := by
    rcases ended with ⟨succeeded, _⟩ | ⟨_, third⟩
    · exact absurd succeeded result
    · exact third
  rw [same]
  refine ⟨by simp [third], fun attempt member => ?_⟩
  rcases List.mem_append.mp member with earlier | final
  · exact failed attempt earlier
  · rw [List.mem_singleton.mp final]
    exact result

end Flush.Sound

/-- What holds at a worker's desk in each phase of its loop. -/
def Desk.AtPhase (batchSize : Nat) (desk : Desk Call Event)
    (batch : List (QueuedEvent Call Event)) : WorkerPhase Call Event → Prop
  | .selecting => batch.length < max 1 batchSize ∧ desk.attempts = []
  | .inserting attempt => batch ≠ [] ∧ batch.length ≤ max 1 batchSize ∧ attempt < 3 ∧
      desk.attempts.length = attempt ∧
        ∀ made ∈ desk.attempts, made.result ≠ none ∧ made.events = batch.map (·.event)
  | .answering result rest => desk.attempts = [] ∧ rest ≠ [] ∧
      ∃ flush, desk.flushes.getLast? = some flush ∧ flush.result = result ∧ rest <:+ flush.items
  | .stopped => True

/-- What a worker keeps: its share of the accepted items comes in order, and
before what is still on the channel. -/
structure Desk.Keeps (batchSize : Nat) (accepted channel : List (QueuedEvent Call Event))
    (worker : Worker Call Event) (desk : Desk Call Event) : Prop where
  order : (desk.received ++ channel).Sublist accepted
  handled : desk.received = desk.flushes.flatMap (·.items) ++ worker.pending
  phase : desk.AtPhase batchSize worker.batch worker.phase
  flushes : ∀ flush ∈ desk.flushes, flush.Sound batchSize

section Workers

variable {batchSize : Nat} {desk : Desk Call Event} {worker : Worker Call Event}
  {item : QueuedEvent Call Event}

/-- A worker back at its loop holds nothing. -/
theorem Worker.pending_resume : worker.resume.pending = [] := by
  unfold Worker.resume Worker.pending
  cases worker.draining <;> rfl

/-- Without attempts the desk fits a worker that is back at its loop. -/
theorem Desk.AtPhase.resume (rested : desk.attempts = []) :
    desk.AtPhase batchSize worker.resume.batch worker.resume.phase := by
  unfold Worker.resume
  cases worker.draining with
  | true => trivial
  | false => exact ⟨Nat.lt_of_lt_of_le Nat.one_pos (Nat.le_max_left 1 batchSize), rested⟩

/-- Going to insert, a worker holds what it had collected. -/
theorem Worker.pending_flush (selecting : worker.phase = .selecting) :
    worker.flush.pending = worker.pending := by
  have before : worker.pending = worker.batch := by rw [Worker.pending, selecting]
  unfold Worker.flush
  split
  · rename_i empty
    rw [Worker.pending_resume, before, empty]
  · rw [before]
    rfl

/-- Flushing a batch of at most the bound; nothing was tried for it yet. -/
theorem Desk.AtPhase.flush (bounded : worker.batch.length ≤ max 1 batchSize)
    (rested : desk.attempts = []) :
    desk.AtPhase batchSize worker.flush.batch worker.flush.phase := by
  unfold Worker.flush
  split
  · exact .resume rested
  · rename_i first rest nonempty
    refine ⟨?_, bounded, by decide, ?_, ?_⟩
    · simp [nonempty]
    · rw [rested, List.length_nil]
    · simp [rested]

/-- A received item comes last among those that are held. -/
theorem Worker.pending_collect (selecting : worker.phase = .selecting) :
    (worker.collect batchSize item).pending = worker.pending ++ [item] := by
  have before : worker.pending = worker.batch := by rw [Worker.pending, selecting]
  unfold Worker.collect
  split
  · have grown : ({ worker with batch := worker.batch ++ [item] } : Worker Call Event).phase =
        .selecting := selecting
    rw [Worker.pending_flush grown, Worker.pending, grown, before]
  · rw [Worker.pending, before, selecting]

/-- The desk fits the worker after one more item. -/
theorem Desk.AtPhase.collect (selecting : worker.phase = .selecting)
    (phase : desk.AtPhase batchSize worker.batch worker.phase) :
    desk.AtPhase batchSize (worker.collect batchSize item).batch
      (worker.collect batchSize item).phase := by
  rw [selecting] at phase
  obtain ⟨room, rested⟩ := phase
  have grown : (worker.batch ++ [item]).length = worker.batch.length + 1 := by simp
  unfold Worker.collect
  split
  · exact .flush (by rw [grown]; exact room) rested
  · rename_i small
    simp only [selecting]
    exact ⟨Nat.lt_of_lt_of_le (Nat.not_le.mp small) (Nat.le_max_right 1 batchSize), rested⟩

/-- What is being answered is no longer held back from a flush. -/
theorem Worker.pending_answer {result : Option EngineError}
    {rest : List (QueuedEvent Call Event)} : (worker.answer result rest).pending = [] := by
  unfold Worker.answer
  split
  · exact Worker.pending_resume
  · rfl

/-- The desk fits a worker that answers the rest of the last flush. -/
theorem Desk.AtPhase.answer {result : Option EngineError} {rest : List (QueuedEvent Call Event)}
    {flush : Flush Call Event} (rested : desk.attempts = [])
    (last : desk.flushes.getLast? = some flush) (same : flush.result = result)
    (remaining : rest <:+ flush.items) :
    desk.AtPhase batchSize (worker.answer result rest).batch
      (worker.answer result rest).phase := by
  unfold Worker.answer
  split
  · exact .resume rested
  · exact ⟨rested, nofun, flush, last, same, remaining⟩

end Workers

namespace Desk.Keeps

variable {batchSize : Nat} {accepted channel rest : List (QueuedEvent Call Event)}
  {desk after : Desk Call Event} {worker : Worker Call Event} {item : QueuedEvent Call Event}

/-- What the desk keeps depends on its history only. -/
theorem congr (keeps : desk.Keeps batchSize accepted channel worker)
    (same : after.SameHistory desk) : after.Keeps batchSize accepted channel worker where
  order := same.received ▸ keeps.order
  handled := by rw [same.received, same.flushes, keeps.handled]
  phase := by
    have phase := keeps.phase
    unfold AtPhase at phase ⊢
    rwa [same.attempts, same.flushes]
  flushes := same.flushes ▸ keeps.flushes

/-- A new item on the channel was received by nobody. -/
theorem enqueue (keeps : desk.Keeps batchSize accepted channel worker) :
    desk.Keeps batchSize (accepted ++ [item]) (channel ++ [item]) worker where
  order := by
    rw [← List.append_assoc]
    exact keeps.order.append_right [item]
  handled := keeps.handled
  phase := keeps.phase
  flushes := keeps.flushes

/-- Another worker took the oldest items. -/
theorem dequeue {taken : List (QueuedEvent Call Event)}
    (keeps : desk.Keeps batchSize accepted (taken ++ rest) worker) :
    desk.Keeps batchSize accepted rest worker where
  order := ((List.sublist_append_right taken rest).append_left desk.received).trans keeps.order
  handled := keeps.handled
  phase := keeps.phase
  flushes := keeps.flushes

/-- The worker takes the oldest item itself. -/
theorem collect (keeps : desk.Keeps batchSize accepted (item :: rest) worker)
    (selecting : worker.phase = .selecting) :
    ({ desk with received := desk.received ++ [item] } : Desk Call Event).Keeps batchSize accepted
      rest (worker.collect batchSize item) where
  order := by
    rw [List.append_assoc]
    exact keeps.order
  handled := by
    rw [Worker.pending_collect selecting, ← List.append_assoc, ← keeps.handled]
  phase := (AtPhase.collect selecting keeps.phase : desk.AtPhase batchSize _ _)
  flushes := keeps.flushes

/-- Nothing is lost when a flush begins. -/
theorem flush (keeps : desk.Keeps batchSize accepted channel worker)
    (selecting : worker.phase = .selecting) :
    desk.Keeps batchSize accepted channel worker.flush where
  order := keeps.order
  handled := by rw [Worker.pending_flush selecting, ← keeps.handled]
  phase := by
    have phase := keeps.phase
    rw [selecting] at phase
    exact .flush (Nat.le_of_lt phase.1) phase.2
  flushes := keeps.flushes

/-- The last round changes nothing about what is kept. -/
theorem draining (keeps : desk.Keeps batchSize accepted channel worker) :
    desk.Keeps batchSize accepted channel { worker with draining := true } :=
  ⟨keeps.order, keeps.handled, keeps.phase, keeps.flushes⟩

/-- An attempt with the events of the batch failed and is repeated. -/
theorem retry {attempt : Nat} {made : Attempt Event}
    (keeps : desk.Keeps batchSize accepted channel worker)
    (inserting : worker.phase = .inserting attempt) (again : attempt + 1 < 3)
    (failed : made.result ≠ none) (passed : made.events = worker.batch.map (·.event)) :
    ({ desk with attempts := desk.attempts ++ [made] } : Desk Call Event).Keeps batchSize accepted
      channel { worker with phase := .inserting (attempt + 1) } where
  order := keeps.order
  handled := by
    rw [keeps.handled, Worker.pending, Worker.pending, inserting]
  phase := by
    have phase := keeps.phase
    rw [inserting] at phase
    obtain ⟨nonempty, bounded, _, count, earlier⟩ := phase
    refine ⟨nonempty, bounded, again, by simp [count], fun other member => ?_⟩
    rcases List.mem_append.mp member with before | now
    · exact earlier other before
    · rw [List.mem_singleton.mp now]
      exact ⟨failed, passed⟩
  flushes := keeps.flushes

/-- The last attempt makes a sound flush of everything that was pending. -/
theorem conclude {attempt : Nat} {made : Attempt Event}
    (keeps : desk.Keeps batchSize accepted channel worker)
    (inserting : worker.phase = .inserting attempt)
    (last : made.result = none ∨ 3 ≤ attempt + 1)
    (passed : made.events = worker.batch.map (·.event)) :
    ({ desk with
      attempts := []
      flushes := desk.flushes ++ [⟨worker.batch, desk.attempts ++ [made]⟩] } :
        Desk Call Event).Keeps batchSize accepted channel
          (worker.answer made.result worker.batch) := by
  have phase := keeps.phase
  rw [inserting] at phase
  obtain ⟨nonempty, bounded, limit, count, earlier⟩ := phase
  have sound : Flush.Sound batchSize ⟨worker.batch, desk.attempts ++ [made]⟩ := by
    refine ⟨bounded, fun other member => ?_, desk.attempts, made, rfl,
      fun other member => (earlier other member).1, ?_⟩
    · rcases List.mem_append.mp member with before | now
      · exact (earlier other before).2
      · rw [List.mem_singleton.mp now]
        exact passed
    · by_cases succeeded : made.result = none
      · exact .inl ⟨succeeded, by omega⟩
      · have third := last.resolve_left succeeded
        exact .inr ⟨succeeded, by omega⟩
  constructor
  · exact keeps.order
  · rw [keeps.handled, Worker.pending, inserting, Worker.pending_answer]
    simp
  · refine .answer rfl (List.getLast?_concat ..) ?_ (List.suffix_refl _)
    rw [Flush.result, List.getLast?_concat]
    rfl
  · intro flush member
    rcases List.mem_append.mp member with before | now
    · exact keeps.flushes flush before
    · rw [List.mem_singleton.mp now]
      exact sound

/-- An answer leaves everything that was received where it was. -/
theorem answer {result : Option EngineError} {others : List (QueuedEvent Call Event)}
    (keeps : desk.Keeps batchSize accepted channel worker)
    (answering : worker.phase = .answering result (item :: others)) :
    desk.Keeps batchSize accepted channel (worker.answer result others) where
  order := keeps.order
  handled := by
    rw [keeps.handled, Worker.pending_answer, Worker.pending, answering]
  phase := by
    have phase := keeps.phase
    rw [answering] at phase
    obtain ⟨rested, _, flush, last, same, remaining⟩ := phase
    exact .answer rested last same ((List.suffix_cons item others).trans remaining)
  flushes := keeps.flushes

end Desk.Keeps

/-- The call has got past its first `select`. -/
def CallPhase.entered : CallPhase Event → Bool
  | .waiting | .answered _ | .left _ => true
  | .idle | .sending _ | .panicked => false

namespace Operation

/-- The books of the engine: what came in is on the channel or with one worker. -/
structure Accounts (batchSize : Nat) (operation : Operation Call Event) : Prop where
  size : operation.engine.batchSize = batchSize
  keeps : ∀ index, (operation.desks index).Keeps batchSize operation.accepted
    operation.engine.eventChan (operation.engine.workers index)
  distinct : (operation.accepted.map (·.done)).Nodup
  apart : ∀ index other, index ≠ other → ∀ item ∈ (operation.desks index).received,
    item ∉ (operation.desks other).received
  covered : ∀ item ∈ operation.accepted,
    item ∈ operation.engine.eventChan ∨ ∃ index, item ∈ (operation.desks index).received
  entered : ∀ item ∈ operation.accepted, (operation.calls item.done).entered = true

namespace Accounts

variable {batchSize : Nat} {operation next : Operation Call Event}
  {item : QueuedEvent Call Event}

/-- At the start nothing was accepted and nothing is held. -/
theorem start [DecidableEq Call] (count : Nat) :
    (Operation.start batchSize count : Operation Call Event).Accounts batchSize where
  size := rfl
  keeps := by
    intro index
    refine ⟨List.Sublist.refl [], ?_, ?_, nofun⟩
    all_goals
      simp only [Operation.start, Engine.start]
      split
    · rfl
    · rfl
    · exact ⟨Nat.lt_of_lt_of_le Nat.one_pos (Nat.le_max_left 1 batchSize), rfl⟩
    · trivial
  distinct := List.nodup_nil
  apart := nofun
  covered := nofun
  entered := nofun

/-- What a worker received was accepted. -/
theorem mem_accepted (accounts : operation.Accounts batchSize) {index : Nat}
    (member : item ∈ (operation.desks index).received) : item ∈ operation.accepted :=
  (accounts.keeps index).order.mem (List.mem_append_left _ member)

/-- No item is accepted twice. -/
theorem nodup (accounts : operation.Accounts batchSize) : operation.accepted.Nodup :=
  accounts.distinct.of_map _

/-- What is still on the channel was not handed to anyone. -/
theorem unreceived (accounts : operation.Accounts batchSize)
    (waiting : item ∈ operation.engine.eventChan) (index : Nat) :
    item ∉ (operation.desks index).received := by
  intro member
  have nodup := accounts.nodup.sublist (accounts.keeps index).order
  exact List.disjoint_of_nodup_append nodup member waiting

/-- No worker receives an item twice. -/
theorem received_nodup (accounts : operation.Accounts batchSize) (index : Nat) :
    (operation.desks index).received.Nodup :=
  accounts.nodup.sublist ((List.sublist_append_left _ _).trans (accounts.keeps index).order)

/-- What was flushed was received before. -/
theorem flushed_received (accounts : operation.Accounts batchSize) {index : Nat}
    {flush : Flush Call Event} (flushed : flush ∈ (operation.desks index).flushes)
    (member : item ∈ flush.items) : item ∈ (operation.desks index).received := by
  rw [(accounts.keeps index).handled]
  exact List.mem_append_left _ (List.mem_flatMap.mpr ⟨flush, flushed, member⟩)

/-- What is held was received before. -/
theorem pending_received (accounts : operation.Accounts batchSize) {index : Nat}
    (member : item ∈ (operation.engine.workers index).pending) :
    item ∈ (operation.desks index).received := by
  rw [(accounts.keeps index).handled]
  exact List.mem_append_right _ member

/-- The items of a flush are in the order of their arrival. -/
theorem flush_arrival (accounts : operation.Accounts batchSize) {index : Nat}
    {flush : Flush Call Event} (flushed : flush ∈ (operation.desks index).flushes) :
    flush.items.Sublist operation.accepted := by
  have keeps := accounts.keeps index
  have part : flush.items.Sublist (operation.desks index).received := by
    rw [keeps.handled]
    exact (List.sublist_flatten_of_mem (List.mem_map_of_mem flushed)).trans
      (List.sublist_append_left _ _)
  exact part.trans ((List.sublist_append_left _ _).trans keeps.order)

/-- The items that are held are in the order of their arrival. -/
theorem pending_arrival (accounts : operation.Accounts batchSize) (index : Nat) :
    (operation.engine.workers index).pending.Sublist operation.accepted := by
  have keeps := accounts.keeps index
  have part : (operation.engine.workers index).pending.Sublist (operation.desks index).received := by
    rw [keeps.handled]
    exact List.sublist_append_right _ _
  exact part.trans ((List.sublist_append_left _ _).trans keeps.order)

/-- What is pending is in no flush yet. -/
theorem pending_unflushed (accounts : operation.Accounts batchSize) {index : Nat}
    (member : item ∈ (operation.engine.workers index).pending) {flush : Flush Call Event}
    (flushed : flush ∈ (operation.desks index).flushes) : item ∉ flush.items := by
  intro also
  have nodup := accounts.received_nodup index
  rw [(accounts.keeps index).handled] at nodup
  exact List.disjoint_of_nodup_append nodup
    (List.mem_flatMap.mpr ⟨flush, flushed, also⟩) member

/-- A `done` channel belongs to one item. -/
theorem same_item (accounts : operation.Accounts batchSize) {other : QueuedEvent Call Event}
    (member : item ∈ operation.accepted) (also : other ∈ operation.accepted)
    (same : item.done = other.done) : item = other :=
  List.inj_on_of_nodup_map accounts.distinct member also same

/-- Two workers never have the same item. -/
theorem same_worker (accounts : operation.Accounts batchSize) {index other : Nat}
    (member : item ∈ (operation.desks index).received)
    (also : item ∈ (operation.desks other).received) : index = other := by
  by_contra different
  exact accounts.apart index other different item member also

/-- No flush has an item twice. -/
theorem flush_nodup (accounts : operation.Accounts batchSize) {index : Nat}
    {flush : Flush Call Event} (flushed : flush ∈ (operation.desks index).flushes) :
    flush.items.Nodup := by
  have nodup := accounts.received_nodup index
  rw [(accounts.keeps index).handled] at nodup
  exact (List.nodup_flatMap.mp nodup.of_append_left).1 flush flushed

/-- Nor do two flushes of one worker. -/
theorem same_position (accounts : operation.Accounts batchSize) {index first second : Nat}
    {flush other : Flush Call Event}
    (flushed : (operation.desks index).flushes[first]? = some flush) (member : item ∈ flush.items)
    (also : (operation.desks index).flushes[second]? = some other)
    (there : item ∈ other.items) : first = second := by
  have nodup := accounts.received_nodup index
  rw [(accounts.keeps index).handled] at nodup
  have pairwise := (List.nodup_flatMap.mp nodup.of_append_left).2
  have ordered := List.pairwise_iff_getElem.mp pairwise
  obtain ⟨low, rfl⟩ := List.getElem?_eq_some_iff.mp flushed
  obtain ⟨high, rfl⟩ := List.getElem?_eq_some_iff.mp also
  rcases Nat.lt_trichotomy first second with before | same | after
  · exact absurd there (ordered first second low high before member)
  · exact same
  · exact absurd member (ordered second first high low after there)

/-- An item is in one flush of a worker only. -/
theorem same_flush (accounts : operation.Accounts batchSize) {index : Nat}
    {flush other : Flush Call Event} (flushed : flush ∈ (operation.desks index).flushes)
    (member : item ∈ flush.items) (also : other ∈ (operation.desks index).flushes)
    (there : item ∈ other.items) : flush = other := by
  obtain ⟨first, place⟩ := List.mem_iff_getElem?.mp flushed
  obtain ⟨second, another⟩ := List.mem_iff_getElem?.mp also
  rw [accounts.same_position place member another there, another] at place
  exact (Option.some.inj place).symm

/-- A call that is at its first `select` has nothing on the books. -/
theorem unentered (accounts : operation.Accounts batchSize) {call : Call} {event : Event}
    (offered : operation.calls call = .sending event) :
    call ∉ operation.accepted.map (·.done) := by
  intro member
  obtain ⟨item, accepted, same⟩ := List.mem_map.mp member
  have entered := accounts.entered item accepted
  rw [same, offered] at entered
  cases entered

/-- A step of one worker, which receives `taken` from the front of the channel. -/
theorem move (accounts : operation.Accounts batchSize) {index : Nat}
    (worker : Worker Call Event) {desk : Desk Call Event}
    (moves : operation.Moves next index worker desk) (taken : List (QueuedEvent Call Event))
    (accepted : next.accepted = operation.accepted) (calls : next.calls = operation.calls)
    (channel : operation.engine.eventChan = taken ++ next.engine.eventChan)
    (received : desk.received = (operation.desks index).received ++ taken)
    (keeps : desk.Keeps batchSize operation.accepted next.engine.eventChan worker) :
    next.Accounts batchSize := by
  have front : ∀ item ∈ taken, item ∈ operation.engine.eventChan :=
    fun item member => channel ▸ List.mem_append_left _ member
  have received := moves.desk.received.trans received
  constructor
  · rw [moves.size, accounts.size]
  · intro other
    rw [accepted]
    by_cases own : other = index
    · rw [own, moves.worker_self]
      exact keeps.congr moves.desk
    · rw [moves.worker_of_ne own, moves.desks other own]
      have before := accounts.keeps other
      rw [channel] at before
      exact before.dequeue
  · rw [accepted]
    exact accounts.distinct
  · intro one other different item first second
    by_cases own : one = index
    · rw [own] at first different
      rw [moves.desks other (Ne.symm different)] at second
      rw [received] at first
      rcases List.mem_append.mp first with old | new
      · exact accounts.apart index other different item old second
      · exact accounts.unreceived (front item new) other second
    · rw [moves.desks one own] at first
      by_cases also : other = index
      · rw [also] at second different
        rw [received] at second
        rcases List.mem_append.mp second with old | new
        · exact accounts.apart one index different item first old
        · exact accounts.unreceived (front item new) one first
      · rw [moves.desks other also] at second
        exact accounts.apart one other different item first second
  · intro item member
    rw [accepted] at member
    rcases accounts.covered item member with waiting | ⟨one, handed⟩
    · rw [channel] at waiting
      rcases List.mem_append.mp waiting with new | left
      · exact .inr ⟨index, received ▸ List.mem_append_right _ new⟩
      · exact .inl left
    · refine .inr ⟨one, ?_⟩
      by_cases own : one = index
      · rw [own, received]
        exact List.mem_append_left _ (own ▸ handed)
      · rw [moves.desks one own]
        exact handed
  · rw [accepted, calls]
    exact accounts.entered

/-- A step that only moves calls, none of them back. -/
theorem setCall [DecidableEq Call] (accounts : operation.Accounts batchSize) {call : Call}
    {phase : CallPhase Event}
    (onward : (operation.calls call).entered = true → phase.entered = true) :
    (operation.setCall call phase).Accounts batchSize where
  size := accounts.size
  keeps := accounts.keeps
  distinct := accounts.distinct
  apart := accounts.apart
  covered := accounts.covered
  entered := by
    intro item member
    have entered := accounts.entered item member
    change (Function.update operation.calls call phase item.done).entered = true
    by_cases own : item.done = call
    · rw [own, Function.update_self]
      exact onward (own ▸ entered)
    · rw [Function.update_of_ne own]
      exact entered

/-- The accounts do not depend on the `done` channels. -/
theorem setChannels (accounts : operation.Accounts batchSize)
    (channels : Call → Channel (Option EngineError)) :
    { operation with doneChannels := channels }.Accounts batchSize :=
  ⟨accounts.size, accounts.keeps, accounts.distinct, accounts.apart, accounts.covered,
    accounts.entered⟩

/-- A call sends its item on the channel. -/
theorem enqueue [DecidableEq Call] (accounts : operation.Accounts batchSize) {call : Call}
    {event : Event} (offered : operation.calls call = .sending event) :
    ({ operation with
      engine := { operation.engine with
        eventChan := operation.engine.eventChan ++ [QueuedEvent.mk event call] } }.accept
          ⟨event, call⟩).Accounts batchSize where
  size := accounts.size
  keeps := fun index => (accounts.keeps index).enqueue
  distinct := by
    change ((operation.accepted ++ [_]).map _).Nodup
    rw [List.map_append, List.map_singleton]
    exact List.nodup_append_comm.mp
      (List.nodup_cons.mpr ⟨accounts.unentered offered, accounts.distinct⟩)
  apart := accounts.apart
  covered := by
    intro item member
    rcases List.mem_append.mp member with old | new
    · exact (accounts.covered item old).imp_left (List.mem_append_left _)
    · exact .inl (List.mem_append_right _ new)
  entered := by
    intro item member
    change (Function.update operation.calls call .waiting item.done).entered = true
    by_cases own : item.done = call
    · rw [own, Function.update_self]
      rfl
    · rw [Function.update_of_ne own]
      rcases List.mem_append.mp member with old | new
      · exact accounts.entered item old
      · exact absurd (congrArg QueuedEvent.done (List.mem_singleton.mp new)) own

/-- Every step keeps the books, provided that `InsertBatch` is passed the batch. -/
theorem step [DecidableEq Call] {label : OperationLabel Call Event}
    (accounts : operation.Accounts batchSize)
    (read : ∀ index attempt, (operation.engine.workers index).phase = .inserting attempt →
      operation.pool.read (operation.desks index).events =
        (operation.engine.workers index).batch.map (·.event))
    (sends : ∀ index result item rest,
      (operation.engine.workers index).phase = .answering result (item :: rest) →
        (operation.doneChannels item.done).send result ≠ .panics)
    (happens : operation.Happens label next) : next.Accounts batchSize := by
  cases happens with
  | called idle => exact accounts.setCall (by rw [idle]; nofun)
  | panicked offered => exact accounts.setCall (by rw [offered]; nofun)
  | sent offered opened => exact accounts.enqueue offered
  | @handed call event index offered running opened empty selecting =>
      -- For the books the item is on the channel for a moment.
      have entered := accounts.enqueue offered
      have before : (operation.desks index).Keeps batchSize (operation.accepted ++ [⟨event, call⟩])
          (operation.engine.eventChan ++ [⟨event, call⟩]) (operation.engine.workers index) :=
        (accounts.keeps index).enqueue
      rw [empty, List.nil_append] at before
      refine entered.move ((operation.engine.workers index).collect operation.engine.batchSize
        ⟨event, call⟩) (.enterFlush (.of_hand rfl rfl rfl)) [⟨event, call⟩] ?_ ?_ ?_ rfl ?_
      · rw [enterFlush_accepted]
        rfl
      · rw [enterFlush_calls]
        rfl
      · rw [enterFlush_engine]
        change operation.engine.eventChan ++ [_] = [_] ++ operation.engine.eventChan
        rw [empty, List.nil_append, List.append_nil]
      · rw [enterFlush_engine]
        change Desk.Keeps _ _ operation.engine.eventChan _ _
        rw [empty, accounts.size]
        exact before.collect selecting
  | left inside outside => exact accounts.setCall fun _ => rfl
  | done waiting received =>
      exact (accounts.setChannels _).setCall fun _ => rfl
  | @reused index pointer idle selecting pooled =>
      exact accounts.move _ (.of_borrow operation index _ _) [] rfl rfl rfl
        (List.append_nil _).symm (accounts.keeps index)
  | @allocated index idle selecting =>
      exact accounts.move _ (.of_borrow operation index _ _) [] rfl rfl rfl
        (List.append_nil _).symm (accounts.keeps index)
  | @received index item rest front running selecting =>
      have before := accounts.keeps index
      rw [front] at before
      refine accounts.move ((operation.engine.workers index).collect operation.engine.batchSize
        item) (.enterFlush (.of_hand rfl rfl rfl)) [item] ?_ ?_ ?_ rfl ?_
      · rw [enterFlush_accepted]
        rfl
      · rw [enterFlush_calls]
        rfl
      · rw [enterFlush_engine]
        exact front
      · rw [enterFlush_engine, accounts.size]
        exact before.collect selecting
  | @ticked index running selecting =>
      refine accounts.move (operation.engine.workers index).flush
        (.enterFlush (.of_worker rfl rfl rfl)) [] ?_ ?_ ?_ (List.append_nil _).symm ?_
      · rw [enterFlush_accepted]
      · rw [enterFlush_calls]
      · rw [enterFlush_engine]
        rfl
      · rw [enterFlush_engine]
        exact (accounts.keeps index).flush selecting
  | @retried index attempt result inserting failed again =>
      refine accounts.move { operation.engine.workers index with phase := .inserting (attempt + 1) }
        (.of_setDesk rfl rfl rfl) [] rfl rfl rfl (List.append_nil _).symm ?_
      exact (accounts.keeps index).retry inserting again failed (read index attempt inserting)
  | @concluded index attempt result inserted inserting last =>
      refine accounts.move ((operation.engine.workers index).answer result
        (operation.engine.workers index).batch) (.of_setDesk rfl rfl rfl) [] rfl rfl rfl
          (List.append_nil _).symm ?_
      have ended : (Attempt.mk (operation.pool.read (operation.desks index).events) result).result =
        none ∨ 3 ≤ attempt + 1 := last
      exact (accounts.keeps index).conclude inserting ended (read index attempt inserting)
  | @answered index result item rest channel answering sent =>
      refine accounts.move ((operation.engine.workers index).answer result rest)
        (.leave (.of_worker rfl rfl rfl)) [] ?_ ?_ ?_ (List.append_nil _).symm ?_
      · rw [leave_accepted]
      · rw [leave_calls]
      · rw [leave_engine]
        rfl
      · rw [leave_engine]
        exact (accounts.keeps index).answer answering
  | sendPanics answering panics => exact absurd panics (sends _ _ _ _ answering)
  | @drained index running closed empty selecting =>
      refine accounts.move
        ({ operation.engine.workers index with draining := true } : Worker Call Event).flush
          (.leave (.enterFlush (.of_worker rfl rfl rfl))) [] ?_ ?_ ?_ (List.append_nil _).symm ?_
      · rw [leave_accepted, enterFlush_accepted]
      · rw [leave_calls, enterFlush_calls]
      · rw [leave_engine, enterFlush_engine]
        rfl
      · rw [leave_engine, enterFlush_engine]
        exact (accounts.keeps index).draining.flush selecting
  | closed opened => exact ⟨accounts.size, accounts.keeps, accounts.distinct, accounts.apart,
      accounts.covered, accounts.entered⟩
  | canceled => exact ⟨accounts.size, accounts.keeps, accounts.distinct, accounts.apart,
      accounts.covered, accounts.entered⟩

end Accounts
end Operation
end Sentinel.Analytics
