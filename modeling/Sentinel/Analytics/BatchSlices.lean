import Sentinel.Analytics.Operation
import Sentinel.Semantics.Ownership

/-!
# The slices behind the batches

A worker copies the events of its batch into the slice that it has from the
pool and passes that to `InsertBatch`, up to three times. No two workers share
an array, so what is inserted is the batch: `Operation.Slices`.
-/

namespace Sentinel.Analytics

open Sentinel.Semantics

variable {Call Event : Type}

/-- The arrays that a worker may write to or read from. -/
def Desk.holds (inserts : Bool) (desk : Desk Call Event) : List Nat :=
  desk.batchPtr.toList ++ if inserts then [desk.events.array] else []

/-- A desk that inserts holds no less. -/
theorem Desk.holds_mono {desk : Desk Call Event} {inserts before : Bool}
    (implies : inserts = true → before = true) : desk.holds inserts ⊆ desk.holds before := by
  cases inserts with
  | false => simp [holds]
  | true =>
      rw [implies rfl]
      exact List.Subset.refl _

/-- The slice that was borrowed is held. -/
theorem Desk.pointer_mem_holds {desk : Desk Call Event} {pointer : Nat} (inserts : Bool)
    (borrowed : desk.batchPtr = some pointer) : pointer ∈ desk.holds inserts := by
  simp [holds, borrowed]

/-- What a desk holds outside a flush does not depend on the events of the last one. -/
theorem Desk.holds_events (desk : Desk Call Event) (events : Slice) (inserts before : Bool) :
    { desk with events := events }.holds inserts ⊆ events.array :: desk.holds before := by
  intro address member
  rcases List.mem_append.mp member with borrowed | copied
  · exact List.mem_cons_of_mem _ (List.mem_append_left _ borrowed)
  · cases inserts with
    | false => cases copied
    | true => exact List.mem_singleton.mp copied ▸ List.mem_cons_self

/-- A worker in an attempt inserts. -/
theorem Worker.inserts_of_inserting {worker : Worker Call Event} {attempt : Nat}
    (inserting : worker.phase = .inserting attempt) : worker.inserts = true := by
  rw [Worker.inserts, inserting]

/-- A worker at its `select` does not insert. -/
theorem Worker.not_inserts_of_selecting {worker : Worker Call Event}
    (selecting : worker.phase = .selecting) : worker.inserts = false := by
  rw [Worker.inserts, selecting]

theorem Worker.not_inserts_of_isStopped {worker : Worker Call Event}
    (stopped : worker.isStopped = true) : worker.inserts = false := by
  unfold Worker.isStopped at stopped
  unfold Worker.inserts
  split at stopped <;> simp_all

/-- The slice reads as the events that it was filled with. -/
theorem SlicePool.read_fill (pool : SlicePool Event) (capacity pointer : Nat)
    (events : List Event) :
    (pool.fill capacity pointer events).1.read (pool.fill capacity pointer events).2 = events := by
  unfold fill
  split
  · simp [read]
  · simp [read, allocate]

/-- Filling a slice does not touch other arrays in use. -/
theorem SlicePool.read_fill_of_ne (pool : SlicePool Event) (capacity : Nat) {pointer : Nat}
    (events : List Event) {slice : Slice} (apart : slice.array ≠ pointer)
    (used : slice.array < pool.allocated) :
    (pool.fill capacity pointer events).1.read slice = pool.read slice := by
  unfold fill
  split
  · simp [read, Function.update_of_ne apart]
  · simp [read, allocate, Function.update_of_ne (Nat.ne_of_lt used)]

@[simp] theorem Operation.running_hand (operation : Operation Call Event) (index : Nat)
    (item : QueuedEvent Call Event) :
    (operation.hand index item).running index = operation.running index := by
  rw [running, hand, setDesk_self]
  rfl

/-- A flush that goes to insert fills the worker's slice. -/
theorem Operation.enterFlush_inserts {operation : Operation Call Event} {index pointer : Nat}
    (borrowed : (operation.desks index).batchPtr = some pointer)
    (inserts : (operation.engine.workers index).inserts = true) :
    operation.enterFlush index =
      { operation with
        pool := (operation.pool.fill operation.engine.batchSize pointer
          ((operation.engine.workers index).batch.map QueuedEvent.event)).1 }.setDesk index
        { operation.desks index with
          events := (operation.pool.fill operation.engine.batchSize pointer
            ((operation.engine.workers index).batch.map QueuedEvent.event)).2 } := by
  rw [enterFlush, borrowed, inserts]

/-- Otherwise nothing is filled. -/
theorem Operation.enterFlush_rests {operation : Operation Call Event} {index : Nat}
    (rests : (operation.engine.workers index).inserts = false) :
    operation.enterFlush index = operation := by
  rw [enterFlush, rests]
  cases (operation.desks index).batchPtr <;> rfl

/-- Whoever fills its slice holds the slice's array from then on. -/
theorem SlicePool.separated_fill {Owner : Type} {holds after : Owner → List Nat} {owner : Owner}
    {pool : SlicePool Event} {capacity pointer : Nat} {events : List Event}
    (separated : Separated holds pool.free pool.allocated) (mine : pointer ∈ holds owner)
    (own : after owner ⊆ (pool.fill capacity pointer events).2.array :: holds owner)
    (others : ∀ other, other ≠ owner → after other ⊆ holds other) :
    Separated after (pool.fill capacity pointer events).1.free
      (pool.fill capacity pointer events).1.allocated := by
  unfold fill at own ⊢
  split at own
  · rename_i fits
    rw [if_pos fits]
    refine separated.shrink fun other address member => ?_
    by_cases same : other = owner
    · rw [same] at member ⊢
      rcases List.mem_cons.mp (own member) with new | before
      · exact new ▸ mine
      · exact before
    · exact others other same member
  · rename_i large
    rw [if_neg large]
    exact separated.hold_new own others

namespace Operation

/-- The slice of a worker that inserts has the events of its batch. -/
def Copied (operation : Operation Call Event) (index : Nat) : Prop :=
  (operation.engine.workers index).inserts = true →
    operation.pool.read (operation.desks index).events =
      (operation.engine.workers index).batch.map (·.event)

structure Slices (operation : Operation Call Event) : Prop where
  separated : Separated
    (fun index => (operation.desks index).holds (operation.engine.workers index).inserts)
    operation.pool.free operation.pool.allocated
  copied : ∀ index, operation.Copied index

/-- The same before one worker, which is about to flush, has copied its batch. -/
structure SlicesBut (operation : Operation Call Event) (index : Nat) : Prop where
  separated : Separated
    (fun worker => (operation.desks worker).holds
      ((operation.engine.workers worker).inserts && worker != index))
    operation.pool.free operation.pool.allocated
  copied : ∀ other, other ≠ index → operation.Copied other

namespace Slices

variable {operation next : Operation Call Event} {index : Nat} {worker : Worker Call Event}
  {desk : Desk Call Event}

/-- At the start no array is in use. -/
theorem start [DecidableEq Call] (batchSize count : Nat) :
    (Operation.start batchSize count : Operation Call Event).Slices where
  separated := by
    refine Separated.start.shrink fun index => ?_
    simp only [Operation.start, Engine.start, Desk.holds]
    split <;> simp [Worker.inserts, Worker.started]
  copied := by
    intro index inserts
    simp only [Operation.start, Engine.start] at inserts
    split at inserts <;> cases inserts

/-- A worker moved, and its slice and the pool are as before. -/
theorem move (slices : operation.Slices) (moves : operation.Moves next index worker desk)
    (pool : next.pool = operation.pool)
    (borrowed : (next.desks index).batchPtr = (operation.desks index).batchPtr) :
    next.SlicesBut index where
  separated := by
    rw [pool]
    refine slices.separated.shrink fun other => ?_
    by_cases own : other = index
    · rw [own]
      simp [Desk.holds, borrowed]
    · rw [moves.worker_of_ne own, moves.desks other own]
      exact Desk.holds_mono fun inserts => (Bool.and_eq_true_iff.mp inserts).1
  copied := by
    intro other own
    rw [Copied, moves.worker_of_ne own, moves.desks other own, pool]
    exact slices.copied other

end Slices

namespace SlicesBut

variable {operation : Operation Call Event} {index : Nat}

/-- There is nothing to copy for a worker that does not insert. -/
theorem idle (slices : operation.SlicesBut index)
    (rests : (operation.engine.workers index).inserts = false) : operation.Slices where
  separated := by
    refine slices.separated.shrink fun other => Desk.holds_mono fun inserts => ?_
    refine Bool.and_eq_true_iff.mpr ⟨inserts, bne_iff_ne.mpr fun own => ?_⟩
    rw [own, rests] at inserts
    cases inserts
  copied := by
    intro other
    by_cases own : other = index
    · rw [own, Copied, rests]
      nofun
    · exact slices.copied other own

/-- The copy goes to the worker's own array, or to one that nobody had. -/
theorem enterFlush (slices : operation.SlicesBut index)
    (running : operation.running index = true) : (operation.enterFlush index).Slices := by
  obtain ⟨pointer, borrowed⟩ := Option.isSome_iff_exists.mp running
  cases inserts : (operation.engine.workers index).inserts with
  | false =>
      rw [enterFlush_rests inserts]
      exact slices.idle inserts
  | true =>
      have mine := Desk.pointer_mem_holds
        ((operation.engine.workers index).inserts && index != index) borrowed
      have held : ∀ other, other ≠ index → (operation.engine.workers other).inserts = true →
          (operation.desks other).events.array ∈ (operation.desks other).holds
            ((operation.engine.workers other).inserts && other != index) := by
        intro other apart also
        simp [Desk.holds, also, apart]
      rw [enterFlush_inserts borrowed inserts]
      constructor
      · refine SlicePool.separated_fill slices.separated mine ?_ fun other own => ?_
        · rw [setDesk_self]
          exact Desk.holds_events _ _ _ _
        · rw [setDesk_of_ne _ _ own]
          exact Desk.holds_mono fun also => Bool.and_eq_true_iff.mpr ⟨also, bne_iff_ne.mpr own⟩
      · intro other also
        by_cases own : other = index
        · rw [own, setDesk_self]
          exact SlicePool.read_fill ..
        · rw [setDesk_of_ne _ _ own]
          have other_held := held other own also
          refine (SlicePool.read_fill_of_ne _ _ _ ?_ ?_).trans (slices.copied other own also)
          · exact fun same => slices.separated.apart index other (Ne.symm own) pointer mine
              (same ▸ other_held)
          · exact slices.separated.below other _ other_held

end SlicesBut

namespace Slices

variable {operation next : Operation Call Event} {index : Nat}

/-- A worker that has returned puts its slice back, and has nothing to insert. -/
theorem leave (slices : operation.Slices) : (operation.leave index).Slices := by
  unfold Operation.leave
  split
  · rename_i pointer borrowed stopped
    have rests := Worker.not_inserts_of_isStopped stopped
    constructor
    · refine slices.separated.release (Desk.pointer_mem_holds _ borrowed) ?_ fun other own => ?_
      · intro address member
        rw [setDesk_self] at member
        change address ∈ Desk.holds (operation.engine.workers index).inserts _ at member
        rw [rests] at member
        cases member
      · rw [setDesk_of_ne _ _ own]
        exact List.Subset.refl _
    · intro other
      by_cases own : other = index
      · rw [own, Copied]
        change (operation.engine.workers index).inserts = true → _
        rw [rests]
        nofun
      · rw [Copied, setDesk_of_ne _ _ own]
        exact slices.copied other
  · exact slices

/-- A repeated attempt inserts the same slice. -/
theorem retry (slices : operation.Slices) {worker : Worker Call Event} {desk : Desk Call Event}
    (moves : operation.Moves next index worker desk) (pool : next.pool = operation.pool)
    (borrowed : (next.desks index).batchPtr = (operation.desks index).batchPtr)
    (events : (next.desks index).events = (operation.desks index).events)
    (inserts : (operation.engine.workers index).inserts = true)
    (batch : worker.batch = (operation.engine.workers index).batch) : next.Slices where
  separated := by
    rw [pool]
    refine slices.separated.shrink fun other => ?_
    by_cases own : other = index
    · rw [own]
      simp only [Desk.holds, borrowed, events, inserts]
      cases (next.engine.workers index).inserts with
      | false => simp
      | true => exact List.Subset.refl _
    · rw [moves.worker_of_ne own, moves.desks other own]
      exact List.Subset.refl _
  copied := by
    intro other
    by_cases own : other = index
    · rw [own, Copied, moves.worker_self, events, pool, batch]
      exact fun _ => slices.copied index inserts
    · rw [Copied, moves.worker_of_ne own, moves.desks other own, pool]
      exact slices.copied other

/-- A worker that starts takes a slice that nobody has. -/
theorem borrow (slices : operation.Slices) {pool : SlicePool Event} {pointer : Nat}
    (selecting : (operation.engine.workers index).phase = .selecting)
    (separated : ∀ after : Nat → List Nat,
      after index ⊆ pointer :: (operation.desks index).holds
        (operation.engine.workers index).inserts →
      (∀ other, other ≠ index → after other ⊆ (operation.desks other).holds
        (operation.engine.workers other).inserts) → Separated after pool.free pool.allocated)
    (arrays : ∀ address < operation.pool.allocated,
      pool.arrays address = operation.pool.arrays address) :
    ({ operation with pool := pool }.setDesk index
      { operation.desks index with batchPtr := some pointer }).Slices where
  separated := by
    refine separated _ ?_ fun other own => ?_
    · rw [setDesk_self]
      intro address member
      rcases List.mem_append.mp member with borrowed | copied
      · exact List.mem_singleton.mp borrowed ▸ List.mem_cons_self
      · exact List.mem_cons_of_mem _ (List.mem_append_right _ copied)
    · rw [setDesk_of_ne _ _ own]
      exact List.Subset.refl _
  copied := by
    intro other
    by_cases own : other = index
    · rw [own, Copied]
      change (operation.engine.workers index).inserts = true → _
      rw [Worker.not_inserts_of_selecting selecting]
      nofun
    · intro inserts
      have held : (operation.desks other).events.array ∈ (operation.desks other).holds
          (operation.engine.workers other).inserts := by
        rw [show (operation.engine.workers other).inserts = true from inserts]
        exact List.mem_append_right _ List.mem_cons_self
      rw [setDesk_of_ne _ _ own]
      refine Eq.trans ?_ (slices.copied other inserts)
      exact congrArg _ (arrays _ (slices.separated.below other _ held))

/-- The step touches neither the pool nor what the workers have from it. -/
theorem of_same (slices : operation.Slices) (pool : next.pool = operation.pool)
    (workers : next.engine.workers = operation.engine.workers)
    (desks : next.desks = operation.desks) : next.Slices where
  separated := by
    rw [pool, workers, desks]
    exact slices.separated
  copied := by
    intro index
    rw [Copied, pool, workers, desks]
    exact slices.copied index

/-- No step lets two workers share an array. -/
theorem step [DecidableEq Call] {label : OperationLabel Call Event} (slices : operation.Slices)
    (sends : ∀ index result item rest,
      (operation.engine.workers index).phase = .answering result (item :: rest) →
        (operation.doneChannels item.done).send result ≠ .panics)
    (happens : operation.Happens label next) : next.Slices := by
  cases happens with
  | called | panicked | sent | left | done | closed | canceled =>
      exact slices.of_same rfl rfl rfl
  | @handed call event index offered running opened empty selecting =>
      refine SlicesBut.enterFlush ?_ ?_
      · refine slices.move (.of_hand rfl rfl rfl) rfl ?_
        rw [hand, setDesk_self]
        rfl
      · rw [running_hand]
        exact running
  | @reused index pointer idle selecting pooled =>
      exact slices.borrow selecting
        (fun _ own others => slices.separated.hold_free pooled own others) fun _ _ => rfl
  | @allocated index idle selecting =>
      exact slices.borrow selecting (fun _ own others => slices.separated.hold_new own others)
        fun address used => Function.update_of_ne (Nat.ne_of_lt used) ..
  | @received index item rest front running selecting =>
      refine SlicesBut.enterFlush ?_ ?_
      · refine slices.move (.of_hand rfl rfl rfl) rfl ?_
        rw [hand, setDesk_self]
      · rw [running_hand]
        exact running
  | ticked running selecting =>
      exact SlicesBut.enterFlush (slices.move (.of_worker rfl rfl rfl) rfl rfl) running
  | @retried index attempt result inserting failed again =>
      refine slices.retry (.of_setDesk rfl rfl rfl) rfl ?_ ?_
        (Worker.inserts_of_inserting inserting) rfl
      · rw [setDesk_self]
      · rw [setDesk_self]
  | @concluded index attempt result inserted inserting last =>
      refine @SlicesBut.idle _ _ _ index (slices.move (.of_setDesk rfl rfl rfl) rfl ?_) ?_
      · rw [setDesk_self]
      · change Worker.inserts ((Engine.setWorker _ index _).workers index) = false
        rw [Engine.workers_setWorker, Worker.inserts_answer]
  | @answered index result item rest channel answering sent =>
      refine Slices.leave (@SlicesBut.idle _ _ _ index ?_ ?_)
      · exact slices.move (.of_worker rfl rfl rfl) rfl rfl
      · change Worker.inserts ((Engine.setWorker _ index _).workers index) = false
        rw [Engine.workers_setWorker, Worker.inserts_answer]
  | sendPanics answering panics => exact absurd panics (sends _ _ _ _ answering)
  | drained running closed empty selecting =>
      refine Slices.leave (SlicesBut.enterFlush ?_ running)
      exact slices.move (.of_worker rfl rfl rfl) rfl rfl

end Slices
end Operation
end Sentinel.Analytics
