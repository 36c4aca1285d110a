import Sentinel.Analytics.Accounting

/-!
# The answers on the done channels

A `done` channel gets its one value when its item's flush is over, from the
worker that flushed it, and there is always room for it, whether its caller
still waits or not: `Operation.Replies`.
-/

namespace Sentinel.Analytics

open Sentinel.Semantics

variable {Call Event : Type}

/-- The items of a flush whose callers have no answer yet. -/
def Worker.unanswered (worker : Worker Call Event) : List (QueuedEvent Call Event) :=
  match worker.phase with
  | .answering _ rest => rest
  | .selecting | .inserting _ | .stopped => []

/-- A worker back at its loop owes no answer. -/
theorem Worker.unanswered_resume (worker : Worker Call Event) : worker.resume.unanswered = [] := by
  unfold Worker.resume Worker.unanswered
  cases worker.draining <;> rfl

theorem Worker.unanswered_flush {worker : Worker Call Event} : worker.flush.unanswered = [] := by
  unfold Worker.flush
  split
  · exact Worker.unanswered_resume worker
  · rfl

theorem Worker.unanswered_collect {worker : Worker Call Event} {batchSize : Nat}
    {item : QueuedEvent Call Event} (selecting : worker.phase = .selecting) :
    (worker.collect batchSize item).unanswered = [] := by
  unfold Worker.collect
  split
  · exact Worker.unanswered_flush
  · rw [Worker.unanswered, selecting]

/-- The rest of the items wait for their answers. -/
theorem Worker.unanswered_answer (worker : Worker Call Event) (result : Option EngineError)
    (rest : List (QueuedEvent Call Event)) : (worker.answer result rest).unanswered = rest := by
  unfold Worker.answer
  split
  · exact Worker.unanswered_resume worker
  · rfl

def CallPhase.isAnswered : CallPhase Event → Bool
  | .answered _ => true
  | .idle | .sending _ | .waiting | .left _ | .panicked => false

/-- A `done` channel is what the values sent on it and its caller make of it. -/
def DoneMatches (values : List (Option EngineError)) (phase : CallPhase Event)
    (channel : Channel (Option EngineError)) : Prop :=
  match values with
  | [] => channel = .make 1 ∧ phase.isAnswered = false
  | result :: _ =>
      (phase = .answered result ∧ channel = ⟨1, [], true⟩) ∨
        (phase.isAnswered = false ∧ channel = ⟨1, [result], true⟩)

/-- A call returns nil only as its answer. -/
theorem CallPhase.answered_of_returned {phase : CallPhase Event}
    (returned : phase.returned = some none) : phase = .answered none := by
  cases phase with
  | answered result =>
      cases returned
      rfl
  | idle | sending event | waiting | left error | panicked => cases returned

/-- A call that has read no answer leaves its channel as it is. -/
theorem DoneMatches.onward {values : List (Option EngineError)} {before after : CallPhase Event}
    {channel : Channel (Option EngineError)} (fits : DoneMatches values before channel)
    (pending : before.isAnswered = false) (still : after.isAnswered = false) :
    DoneMatches values after channel := by
  cases values with
  | nil => exact ⟨fits.1, still⟩
  | cons result rest =>
      rcases fits with ⟨rfl, _⟩ | ⟨_, same⟩
      · cases pending
      · exact .inr ⟨still, same⟩

namespace Operation

/-- What waits for an answer is in a flush. -/
theorem Accounts.unanswered_flushed {batchSize index : Nat} {operation : Operation Call Event}
    {item : QueuedEvent Call Event} (accounts : operation.Accounts batchSize)
    (member : item ∈ (operation.engine.workers index).unanswered) :
    ∃ flush ∈ (operation.desks index).flushes, item ∈ flush.items := by
  have phase := (accounts.keeps index).phase
  unfold Worker.unanswered at member
  split at member
  · rename_i result rest answering
    rw [answering] at phase
    obtain ⟨_, _, flush, last, _, remaining⟩ := phase
    exact ⟨flush, List.mem_of_getLast? last, remaining.mem member⟩
  all_goals cases member

theorem Accounts.unanswered_received {batchSize index : Nat} {operation : Operation Call Event}
    {item : QueuedEvent Call Event} (accounts : operation.Accounts batchSize)
    (member : item ∈ (operation.engine.workers index).unanswered) :
    item ∈ (operation.desks index).received := by
  obtain ⟨flush, flushed, inside⟩ := accounts.unanswered_flushed member
  exact accounts.flushed_received flushed inside

structure Replies (operation : Operation Call Event) : Prop where
  silent : ∀ call, (∀ index, ∀ flush ∈ (operation.desks index).flushes, ∀ item ∈ flush.items,
    item.done ≠ call) → operation.engine.done call = []
  unanswered : ∀ index, ∀ item ∈ (operation.engine.workers index).unanswered,
    operation.engine.done item.done = []
  replied : ∀ index, ∀ flush ∈ (operation.desks index).flushes, ∀ item ∈ flush.items,
    item ∈ (operation.engine.workers index).unanswered ∨
      operation.engine.done item.done = [flush.result]
  channels : ∀ call, DoneMatches (operation.engine.done call) (operation.calls call)
    (operation.doneChannels call)

namespace Replies

variable {operation next : Operation Call Event} {index batchSize : Nat}

/-- At the start no channel has a value. -/
theorem start [DecidableEq Call] (count : Nat) :
    (Operation.start batchSize count : Operation Call Event).Replies where
  silent := fun _ _ => rfl
  unanswered := by
    intro index item member
    simp only [Operation.start, Engine.start] at member
    split at member <;> cases member
  replied := nofun
  channels := fun _ => ⟨rfl, rfl⟩

/-- The item that is next to be answered has a channel with room. -/
theorem sends (replies : operation.Replies) {result : Option EngineError}
    {item : QueuedEvent Call Event} {rest : List (QueuedEvent Call Event)}
    (answering : (operation.engine.workers index).phase = .answering result (item :: rest)) :
    operation.engine.done item.done = [] ∧ (operation.calls item.done).isAnswered = false ∧
      (operation.doneChannels item.done).send result = .sent ⟨1, [result], false⟩ := by
  have quiet : operation.engine.done item.done = [] := by
    refine replies.unanswered index item ?_
    rw [Worker.unanswered, answering]
    exact List.mem_cons_self
  have fits := replies.channels item.done
  rw [quiet] at fits
  obtain ⟨fresh, pending⟩ := fits
  refine ⟨quiet, pending, ?_⟩
  rw [fresh]
  rfl

/-- So no answer is sent on a closed channel. -/
theorem unpanicking (replies : operation.Replies) {result : Option EngineError}
    {item : QueuedEvent Call Event} {rest : List (QueuedEvent Call Event)}
    (answering : (operation.engine.workers index).phase = .answering result (item :: rest)) :
    (operation.doneChannels item.done).send result ≠ .panics := by
  rw [(replies.sends answering).2.2]
  nofun

/-- An answer that a call returned was sent on its channel. -/
theorem sent_of_answered (replies : operation.Replies) {call : Call}
    {result : Option EngineError} (answered : operation.calls call = .answered result) :
    ∃ rest, operation.engine.done call = result :: rest := by
  have fits := replies.channels call
  cases sent : operation.engine.done call with
  | nil =>
      rw [sent, answered] at fits
      cases fits.2
  | cons value rest =>
      rw [sent, answered] at fits
      rcases fits with ⟨same, _⟩ | ⟨pending, _⟩
      · cases same
        exact ⟨rest, rfl⟩
      · cases pending

/-- A worker moved without answering, and no flush was over. -/
theorem move (replies : operation.Replies) (worker : Worker Call Event) {desk : Desk Call Event}
    (moves : operation.Moves next index worker desk)
    (flushes : desk.flushes = (operation.desks index).flushes)
    (unanswered : worker.unanswered = (operation.engine.workers index).unanswered)
    (done : next.engine.done = operation.engine.done)
    (channels : ∀ call, DoneMatches (operation.engine.done call) (next.calls call)
      (next.doneChannels call)) : next.Replies := by
  have same : ∀ other, (next.desks other).flushes = (operation.desks other).flushes ∧
      (next.engine.workers other).unanswered = (operation.engine.workers other).unanswered := by
    intro other
    by_cases own : other = index
    · rw [own, moves.desk.flushes, moves.worker_self]
      exact ⟨flushes, unanswered⟩
    · rw [moves.desks other own, moves.worker_of_ne own]
      exact ⟨rfl, rfl⟩
  constructor
  · intro call absent
    rw [done]
    refine replies.silent call fun other flush flushed => absent other flush ?_
    rw [(same other).1]
    exact flushed
  · intro other item member
    rw [done]
    exact replies.unanswered other item ((same other).2 ▸ member)
  · intro other flush flushed item member
    rw [done, (same other).2]
    exact replies.replied other flush ((same other).1 ▸ flushed) item member
  · intro call
    rw [done]
    exact channels call

/-- A call moved on, but not because of an answer. -/
theorem setCall [DecidableEq Call] (replies : operation.Replies) {call : Call}
    {phase : CallPhase Event} (pending : (operation.calls call).isAnswered = false)
    (still : phase.isAnswered = false) : (operation.setCall call phase).Replies where
  silent := replies.silent
  unanswered := replies.unanswered
  replied := replies.replied
  channels := by
    intro other
    change DoneMatches _ (Function.update operation.calls call phase other) _
    by_cases own : other = call
    · rw [own, Function.update_self]
      exact (replies.channels call).onward pending still
    · rw [Function.update_of_ne own]
      exact replies.channels other

/-- A call sent its item. -/
theorem accept [DecidableEq Call] (replies : operation.Replies) {item : QueuedEvent Call Event}
    {event : Event} (offered : operation.calls item.done = .sending event) :
    (operation.accept item).Replies := by
  have before : { operation with accepted := operation.accepted ++ [item] }.Replies :=
    ⟨replies.silent, replies.unanswered, replies.replied, replies.channels⟩
  exact before.setCall (by rw [offered]; rfl) rfl

/-- When a flush is over, nobody whose item is in it has an answer yet. -/
theorem conclude (replies : operation.Replies) (accounts : operation.Accounts batchSize)
    (worker : Worker Call Event) {desk : Desk Call Event}
    (moves : operation.Moves next index worker desk) {flush : Flush Call Event}
    (items : flush.items = (operation.engine.workers index).pending)
    (flushes : desk.flushes = (operation.desks index).flushes ++ [flush])
    (unanswered : worker.unanswered = flush.items)
    (rested : (operation.engine.workers index).unanswered = [])
    (done : next.engine.done = operation.engine.done) (calls : next.calls = operation.calls)
    (channels : next.doneChannels = operation.doneChannels) : next.Replies := by
  have quiet : ∀ item ∈ flush.items, operation.engine.done item.done = [] := by
    intro item member
    rw [items] at member
    have mine := accounts.pending_received member
    refine replies.silent item.done fun other earlier flushed another also same => ?_
    have theirs := accounts.flushed_received flushed also
    have one := accounts.same_item (accounts.mem_accepted theirs) (accounts.mem_accepted mine) same
    rw [one] at theirs also
    have here := accounts.same_worker theirs mine
    rw [here] at flushed
    exact accounts.pending_unflushed member flushed also
  constructor
  · intro call absent
    rw [done]
    refine replies.silent call fun other earlier flushed => absent other earlier ?_
    by_cases own : other = index
    · rw [own, moves.desk.flushes, flushes]
      exact List.mem_append_left _ (own ▸ flushed)
    · rw [moves.desks other own]
      exact flushed
  · intro other item member
    rw [done]
    by_cases own : other = index
    · rw [own, moves.worker_self, unanswered] at member
      exact quiet item member
    · rw [moves.worker_of_ne own] at member
      exact replies.unanswered other item member
  · intro other earlier flushed item member
    rw [done]
    by_cases own : other = index
    · rw [own, moves.desk.flushes, flushes] at flushed
      rw [own, moves.worker_self, unanswered]
      rcases List.mem_append.mp flushed with old | new
      · rcases replies.replied index earlier old item member with waiting | answered
        · rw [rested] at waiting
          cases waiting
        · exact .inr answered
      · exact .inl (List.mem_singleton.mp new ▸ member)
    · rw [moves.worker_of_ne own]
      rw [moves.desks other own] at flushed
      exact replies.replied other earlier flushed item member
  · intro call
    rw [done, calls, channels]
    exact replies.channels call

/-- The next item of a flush is answered with the flush's result. -/
theorem answer [DecidableEq Call] (replies : operation.Replies)
    (accounts : operation.Accounts batchSize) {result : Option EngineError}
    {item : QueuedEvent Call Event} {rest : List (QueuedEvent Call Event)}
    (answering : (operation.engine.workers index).phase = .answering result (item :: rest))
    (worker : Worker Call Event) {desk : Desk Call Event}
    (moves : operation.Moves next index worker desk)
    (flushes : desk.flushes = (operation.desks index).flushes)
    (unanswered : worker.unanswered = rest) (calls : next.calls = operation.calls)
    (done : next.engine.done = Function.update operation.engine.done item.done [result])
    (channels : next.doneChannels =
      Function.update operation.doneChannels item.done ⟨1, [result], true⟩) : next.Replies := by
  obtain ⟨_, pending, _⟩ := replies.sends answering
  have phase := (accounts.keeps index).phase
  rw [answering] at phase
  obtain ⟨_, _, flush, last, outcome, remaining⟩ := phase
  have flushed : flush ∈ (operation.desks index).flushes := List.mem_of_getLast? last
  have inside : ∀ other ∈ item :: rest, other ∈ flush.items :=
    fun other member => remaining.mem member
  have received : ∀ other ∈ item :: rest, other ∈ (operation.desks index).received :=
    fun other member => accounts.flushed_received flushed (inside other member)
  have mine := received item List.mem_cons_self
  have distinct : item ∉ rest :=
    (List.nodup_cons.mp ((accounts.flush_nodup flushed).sublist remaining.sublist)).1
  -- Another item that was handed to some worker has another channel.
  have elsewhere : ∀ other, other ≠ item → ∀ one, other ∈ (operation.desks one).received →
      next.engine.done other.done = operation.engine.done other.done := by
    intro other different one theirs
    rw [done]
    refine Function.update_of_ne (fun same => different ?_) ..
    exact accounts.same_item (accounts.mem_accepted theirs) (accounts.mem_accepted mine) same
  have here : next.engine.done item.done = [result] := by rw [done, Function.update_self]
  have same : ∀ other, (next.desks other).flushes = (operation.desks other).flushes := by
    intro other
    by_cases own : other = index
    · rw [own, moves.desk.flushes, flushes]
    · rw [moves.desks other own]
  constructor
  · intro call absent
    have before := replies.silent call fun other earlier flushed =>
      absent other earlier ((same other).symm ▸ flushed)
    have apart : call ≠ item.done := fun same_call =>
      absent index flush ((same index).symm ▸ flushed) item (inside item List.mem_cons_self)
        same_call.symm
    rw [done, Function.update_of_ne apart, before]
  · intro other another member
    by_cases own : other = index
    · rw [own, moves.worker_self, unanswered] at member
      have different : another ≠ item := fun equal => distinct (equal ▸ member)
      have later := List.mem_cons_of_mem item member
      rw [elsewhere another different index (received another later)]
      refine replies.unanswered index another ?_
      rw [Worker.unanswered, answering]
      exact later
    · rw [moves.worker_of_ne own] at member
      have theirs := accounts.unanswered_received member
      have different : another ≠ item := fun equal =>
        own (accounts.same_worker (equal ▸ theirs) mine)
      rw [elsewhere another different other theirs]
      exact replies.unanswered other another member
  · intro other earlier also another member
    rw [same other] at also
    have theirs := accounts.flushed_received also member
    by_cases equal : another = item
    · rw [equal] at theirs member ⊢
      rw [accounts.same_worker theirs mine] at also
      have one := accounts.same_flush also member flushed (inside item List.mem_cons_self)
      exact .inr (by rw [here, one, outcome])
    · rw [elsewhere another equal other theirs]
      refine (replies.replied other earlier also another member).imp_left fun waiting => ?_
      by_cases own : other = index
      · rw [own, Worker.unanswered, answering] at waiting
        rw [own, moves.worker_self, unanswered]
        exact List.mem_of_ne_of_mem equal waiting
      · rw [moves.worker_of_ne own]
        exact waiting
  · intro call
    rw [done, calls, channels]
    by_cases own : call = item.done
    · rw [own, Function.update_self, Function.update_self]
      exact .inr ⟨pending, rfl⟩
    · rw [Function.update_of_ne own, Function.update_of_ne own]
      exact replies.channels call

/-- A call receives the answer, which is the value that was sent. -/
theorem receive [DecidableEq Call] (replies : operation.Replies) {call : Call}
    {result : Option EngineError} {channel : Channel (Option EngineError)}
    (waiting : operation.calls call = .waiting)
    (received : (operation.doneChannels call).receive none = some (result, channel)) :
    ({ operation with
      doneChannels := Function.update operation.doneChannels call channel }.setCall call
        (.answered result)).Replies where
  silent := replies.silent
  unanswered := replies.unanswered
  replied := replies.replied
  channels := by
    intro other
    change DoneMatches _ (Function.update operation.calls call _ other)
      (Function.update operation.doneChannels call channel other)
    by_cases own : other = call
    · rw [own, Function.update_self, Function.update_self]
      change DoneMatches (operation.engine.done call) _ _
      have fits := replies.channels call
      cases sent : operation.engine.done call with
      | nil =>
          rw [sent] at fits
          rw [fits.1] at received
          cases received
      | cons value rest =>
          rw [sent, waiting] at fits
          rcases fits with ⟨answered, _⟩ | ⟨_, buffered⟩
          · cases answered
          · rw [buffered] at received
            cases received
            exact .inl ⟨rfl, rfl⟩
    · rw [Function.update_of_ne own, Function.update_of_ne own]
      exact replies.channels other

/-- No step sends twice on a channel or loses an answer. -/
theorem step [DecidableEq Call] {label : OperationLabel Call Event} (replies : operation.Replies)
    (accounts : operation.Accounts batchSize) (happens : operation.Happens label next) :
    next.Replies := by
  cases happens with
  | called idle => exact replies.setCall (by rw [idle]; rfl) rfl
  | panicked offered => exact replies.setCall (by rw [offered]; rfl) rfl
  | @sent call event offered opened =>
      have entered := replies.accept (show operation.calls (QueuedEvent.mk event call).done = _
        from offered)
      exact ⟨entered.silent, entered.unanswered, entered.replied, entered.channels⟩
  | @handed call event index offered running opened empty selecting =>
      have entered := replies.accept (show operation.calls (QueuedEvent.mk event call).done = _
        from offered)
      refine entered.move ((operation.engine.workers index).collect operation.engine.batchSize
        ⟨event, call⟩) (.enterFlush (.of_hand rfl rfl rfl)) rfl ?_ ?_ ?_
      · rw [Worker.unanswered_collect selecting]
        change _ = (operation.engine.workers index).unanswered
        rw [Worker.unanswered, selecting]
      · rw [enterFlush_engine]
        rfl
      · rw [enterFlush_calls, enterFlush_doneChannels]
        exact entered.channels
  | left inside outside =>
      refine replies.setCall ?_ rfl
      rcases inside with ⟨event, offered⟩ | waiting
      · rw [offered]
        rfl
      · rw [waiting]
        rfl
  | done waiting received => exact replies.receive waiting received
  | @reused index pointer idle selecting pooled =>
      exact replies.move _ (.of_borrow operation index _ _) rfl rfl rfl replies.channels
  | @allocated index idle selecting =>
      exact replies.move _ (.of_borrow operation index _ _) rfl rfl rfl replies.channels
  | @received index item rest front running selecting =>
      refine replies.move ((operation.engine.workers index).collect operation.engine.batchSize
        item) (.enterFlush (.of_hand rfl rfl rfl)) rfl ?_ ?_ ?_
      · rw [Worker.unanswered_collect selecting, Worker.unanswered, selecting]
      · rw [enterFlush_engine]
        rfl
      · rw [enterFlush_calls, enterFlush_doneChannels]
        exact replies.channels
  | @ticked index running selecting =>
      refine replies.move (operation.engine.workers index).flush
        (.enterFlush (.of_worker rfl rfl rfl)) rfl ?_ ?_ ?_
      · rw [Worker.unanswered_flush, Worker.unanswered, selecting]
      · rw [enterFlush_engine]
        rfl
      · rw [enterFlush_calls, enterFlush_doneChannels]
        exact replies.channels
  | @retried index attempt result inserting failed again =>
      refine replies.move { operation.engine.workers index with phase := .inserting (attempt + 1) }
        (.of_setDesk rfl rfl rfl) rfl ?_ rfl replies.channels
      rw [Worker.unanswered, Worker.unanswered, inserting]
  | @concluded index attempt result inserted inserting last =>
      refine replies.conclude accounts ((operation.engine.workers index).answer result
        (operation.engine.workers index).batch) (.of_setDesk rfl rfl rfl) ?_ rfl ?_ ?_ rfl rfl rfl
      · rw [Worker.pending, inserting]
      · rw [Worker.unanswered_answer]
      · rw [Worker.unanswered, inserting]
  | @answered index result item rest channel answering sent =>
      obtain ⟨quiet, pending, room⟩ := replies.sends answering
      rw [room] at sent
      cases sent
      refine replies.answer accounts answering ((operation.engine.workers index).answer result rest)
        (.leave (.of_worker rfl rfl rfl)) rfl ?_ ?_ ?_ ?_
      · rw [Worker.unanswered_answer]
      · rw [leave_calls]
      · rw [leave_engine]
        change Function.update operation.engine.done item.done
          (operation.engine.done item.done ++ [result]) = _
        rw [quiet, List.nil_append]
      · rw [leave_doneChannels]
        rfl
  | sendPanics answering panics => exact absurd panics (replies.unpanicking answering)
  | @drained index running closed empty selecting =>
      refine replies.move
        ({ operation.engine.workers index with draining := true } : Worker Call Event).flush
          (.leave (.enterFlush (.of_worker rfl rfl rfl))) rfl ?_ ?_ ?_
      · rw [Worker.unanswered_flush, Worker.unanswered, selecting]
      · rw [leave_engine, enterFlush_engine]
        rfl
      · rw [leave_calls, leave_doneChannels, enterFlush_calls, enterFlush_doneChannels]
        exact replies.channels
  | closed | canceled => exact ⟨replies.silent, replies.unanswered, replies.replied,
      replies.channels⟩

end Replies
end Operation
end Sentinel.Analytics
