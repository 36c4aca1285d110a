import Mathlib.Data.List.Basic
import Mathlib.Logic.Function.Basic
import Sentinel.Semantics.Channel
import Sentinel.Semantics.Projection

/-!
# Fan-out to dashboard clients

`Hub.Run` offers every event that it takes from `Broadcast`, and a ping at every
tick, to each registered client in turn without waiting for any. Between two
offers the clients' own goroutines run: a reader that ends with the connection,
and a writer that owns the other end of the client's queue.
-/

namespace Sentinel.Analytics.WebSocket

open Sentinel.Semantics

def clientBuffer : Nat := 64

def broadcastBuffer : Nat := 256

/-- What a client's queue carries: an event, or nil for a ping. -/
abbrev Outbound (Event : Type) := Option Event

/-- Where `WsHandler` stands. -/
inductive HandlerPhase where
  | registering
  | spawning
  | reading
  | awaitingWriter
  | unregistering
  | closing
  | returned
deriving DecidableEq

/-- Where the writer goroutine stands. -/
inductive WriterPhase (Event : Type) where
  | unborn
  | receiving
  | writing (item : Outbound Event)
  /-- The writer has returned, with the frame whose writing failed, if any. -/
  | done (failed : Option (Outbound Event))

/-- An item that the hub offered when the queue held this many. -/
structure Offer (Event : Type) where
  item : Outbound Event
  held : Nat

structure Client (Event : Type) where
  handler : HandlerPhase
  writer : WriterPhase Event
  send : Channel (Outbound Event)
  /-- The events taken from `Broadcast` while the client was registered. -/
  taken : List Event
  offers : List (Offer Event)
  /-- Every item that was put in the queue. -/
  queued : List (Outbound Event)
  /-- The frames written to the connection. -/
  written : List (Outbound Event)
  /-- The hub has sent on the closed queue or closed it twice. -/
  panicked : Bool

inductive ClientAction where
  /-- `go func()` -/
  | spawn
  /-- `ReadMessage` returns, with an error or without. -/
  | read (error : Bool)
  | writerDone
  | closeConn
  /-- The writer takes an item, or finds the queue closed and empty. -/
  | receive
  | write (error : Bool)

variable {Event : Type}

namespace Client

/-- A connection that `WsHandler` is about to register. -/
def connected : Client Event :=
  ⟨.registering, .unborn, .make clientBuffer, [], [], [], [], false⟩

/-- The hub offers an item without waiting. -/
def offer (client : Client Event) (item : Outbound Event) : Client Event :=
  let offered := { client with offers := client.offers ++ [⟨item, client.send.buffer.length⟩] }
  match client.send.send item with
  | .sent send => { offered with send, queued := client.queued ++ [item] }
  | .blocked => offered
  | .panics => { offered with panicked := true }

/-- `close(c.send)` -/
def closeSend (client : Client Event) : Client Event :=
  if client.send.closed then { client with panicked := true }
  else { client with send := client.send.close }

def act (client : Client Event) : ClientAction → Option (Client Event)
  | .spawn =>
      if client.handler = .spawning then
        some { client with handler := .reading, writer := .receiving }
      else none
  | .read error =>
      if client.handler = .reading then
        some { client with handler := if error then .awaitingWriter else .reading }
      else none
  | .writerDone =>
      match client.handler, client.writer with
      | .awaitingWriter, .done _ => some { client with handler := .unregistering }
      | _, _ => none
  | .closeConn =>
      if client.handler = .closing then some { client with handler := .returned } else none
  | .receive =>
      match client.writer, client.send.buffer with
      | .receiving, item :: rest =>
          some { client with writer := .writing item, send := { client.send with buffer := rest } }
      | .receiving, [] =>
          if client.send.closed then some { client with writer := .done none } else none
      | _, _ => none
  | .write error =>
      match client.writer with
      | .writing item =>
          some (if error then { client with writer := .done (some item) }
            else { client with writer := .receiving, written := client.written ++ [item] })
      | _ => none

end Client

/-! ## One client and the hub -/

/-- What the hub is to one client: whether it is registered, and the item that is
still to be offered to it. -/
structure Subscription (Event : Type) where
  registered : Bool
  pending : Option (Outbound Event)
  client : Client Event

inductive SubscriptionLabel (Event : Type) where
  | register
  | unregister
  | take (event : Event)
  | tick
  | offer
  | act (action : ClientAction)

namespace Subscription

def start : Subscription Event := ⟨false, none, .connected⟩

def step (subscription : Subscription Event) :
    SubscriptionLabel Event → Option (Subscription Event)
  | .register =>
      if subscription.pending = none ∧ subscription.client.handler = .registering then
        some { subscription with
          registered := true
          client := { subscription.client with handler := .spawning } }
      else none
  | .unregister =>
      if subscription.pending = none ∧ subscription.client.handler = .unregistering then
        let client := if subscription.registered then subscription.client.closeSend
          else subscription.client
        some { subscription with
          registered := false
          client := { client with handler := .closing } }
      else none
  | .take event =>
      if subscription.pending = none then
        some (if subscription.registered then
          { subscription with
            pending := some (some event)
            client := { subscription.client with taken := subscription.client.taken ++ [event] } }
          else subscription)
      else none
  | .tick =>
      if subscription.pending = none then
        some (if subscription.registered then { subscription with pending := some none }
          else subscription)
      else none
  | .offer => subscription.pending.map fun item =>
      { subscription with pending := none, client := subscription.client.offer item }
  | .act action => (subscription.client.act action).map fun client => { subscription with client }

end Subscription

def subscriptionMachine : Machine (Subscription Event) (SubscriptionLabel Event) :=
  ⟨Subscription.step⟩

/-- The writer goroutine has not been started. -/
def HandlerPhase.early : HandlerPhase → Bool
  | .registering | .spawning => true
  | _ => false

/-- The hub has registered the client and not yet closed its queue. -/
def HandlerPhase.active : HandlerPhase → Bool
  | .spawning | .reading | .awaitingWriter | .unregistering => true
  | _ => false

/-- The hub has closed the client's queue. -/
def HandlerPhase.finished : HandlerPhase → Bool
  | .closing | .returned => true
  | _ => false

/-- The frame that the writer has taken but not written. -/
def WriterPhase.hand : WriterPhase Event → List (Outbound Event)
  | .writing item | .done (some item) => [item]
  | _ => []

namespace Subscription

/-- The event that was taken and is still to be offered. -/
def pendingEvent (subscription : Subscription Event) : List Event :=
  subscription.pending.join.toList

/-- The hub has not panicked over the client. Of the events taken while it was
registered each was offered once, in order, and missed the queue only when that
held 64 items; a prefix of the queue's items was written. -/
structure Served (subscription : Subscription Event) : Prop where
  unpanicked : subscription.client.panicked = false
  offered : subscription.client.offers.filterMap (·.item) ++ subscription.pendingEvent =
    subscription.client.taken
  queued : subscription.client.queued =
    (subscription.client.offers.filter (·.held < clientBuffer)).map (·.item)
  full : ∀ offer ∈ subscription.client.offers, ¬ offer.held < clientBuffer →
    offer.held = clientBuffer
  subsequence : (subscription.client.queued.filterMap id).Sublist subscription.client.taken
  conserved : subscription.client.queued = subscription.client.written ++
    subscription.client.writer.hand ++ subscription.client.send.buffer
  written : subscription.client.written <+: subscription.client.queued

structure Inv (subscription : Subscription Event) : Prop where
  registered : subscription.registered = subscription.client.handler.active
  closed : subscription.client.send.closed = subscription.client.handler.finished
  unborn : subscription.client.handler.early → subscription.client.writer = .unborn
  pending : subscription.pending.isSome → subscription.registered = true
  capacity : subscription.client.send.capacity = clientBuffer
  bounded : subscription.client.send.buffer.length ≤ clientBuffer
  conserved : subscription.client.queued = subscription.client.written ++
    subscription.client.writer.hand ++ subscription.client.send.buffer
  unpanicked : subscription.client.panicked = false
  offered : subscription.client.offers.filterMap (·.item) ++ subscription.pendingEvent =
    subscription.client.taken
  queued : subscription.client.queued =
    (subscription.client.offers.filter (·.held < clientBuffer)).map (·.item)
  full : ∀ offer ∈ subscription.client.offers, offer.held ≤ clientBuffer

variable {subscription next : Subscription Event} {label : SubscriptionLabel Event}

/-- A subscription begins with an empty queue and no handler. -/
theorem inv_start : (start : Subscription Event).Inv where
  registered := rfl
  closed := rfl
  unborn _ := rfl
  pending := nofun
  capacity := rfl
  bounded := Nat.zero_le _
  conserved := rfl
  unpanicked := rfl
  offered := rfl
  queued := rfl
  full := nofun

/-- What a subscriber was served comes from the invariant. -/
theorem Inv.served (inv : subscription.Inv) : subscription.Served where
  unpanicked := inv.unpanicked
  offered := inv.offered
  queued := inv.queued
  full offer member lagging := Nat.le_antisymm (inv.full offer member) (Nat.not_lt.mp lagging)
  subsequence := by
    rw [inv.queued, ← inv.offered, List.filterMap_map]
    exact (List.filter_sublist.filterMap _).trans (List.sublist_append_left _ _)
  conserved := inv.conserved
  written := by
    rw [inv.conserved, List.append_assoc]
    exact List.prefix_append _ _

/-- Steps of the handler and the writer that leave the queue's accounts alone. -/
theorem Inv.moved (inv : subscription.Inv) {client : Client Event}
    (active : client.handler.active = subscription.client.handler.active)
    (finished : client.handler.finished = subscription.client.handler.finished)
    (unborn : client.handler.early → client.writer = .unborn)
    (closed : client.send.closed = subscription.client.send.closed)
    (capacity : client.send.capacity = subscription.client.send.capacity)
    (bounded : client.send.buffer.length ≤ subscription.client.send.buffer.length)
    (conserved : client.written ++ client.writer.hand ++ client.send.buffer =
      subscription.client.written ++ subscription.client.writer.hand ++
        subscription.client.send.buffer)
    (kept : client.taken = subscription.client.taken ∧
      client.offers = subscription.client.offers ∧ client.queued = subscription.client.queued ∧
        client.panicked = subscription.client.panicked) :
    Inv { subscription with client } := by
  obtain ⟨taken, offers, queued, panicked⟩ := kept
  exact
    { registered := inv.registered.trans active.symm
      closed := by rw [closed, finished, inv.closed]
      unborn := unborn
      pending := inv.pending
      capacity := capacity.trans inv.capacity
      bounded := Nat.le_trans bounded inv.bounded
      conserved := by rw [queued, conserved, inv.conserved]
      unpanicked := panicked.trans inv.unpanicked
      offered := by
        rw [offers, taken]
        exact inv.offered
      queued := by rw [queued, offers, inv.queued]
      full := by
        rw [offers]
        exact inv.full }

/-- A step of the client alone keeps the invariant. -/
theorem Inv.act (inv : subscription.Inv) {action : ClientAction} {client : Client Event}
    (acted : subscription.client.act action = some client) :
    Inv { subscription with client } := by
  have started : subscription.client.writer ≠ .unborn →
      ¬ subscription.client.handler.early := fun born early => born (inv.unborn early)
  cases action with
  | spawn =>
      obtain ⟨spawning, spawned⟩ := Option.ite_none_right_eq_some.mp acted
      cases spawned
      have unborn := inv.unborn (by rw [spawning]; rfl)
      refine inv.moved ?_ ?_ nofun rfl rfl (Nat.le_refl _) ?_ ⟨rfl, rfl, rfl, rfl⟩
      · rw [spawning]
        rfl
      · rw [spawning]
        rfl
      · rw [unborn]
        rfl
  | read error =>
      obtain ⟨reading, readMessage⟩ := Option.ite_none_right_eq_some.mp acted
      cases readMessage
      refine inv.moved ?_ ?_ ?_ rfl rfl (Nat.le_refl _) rfl ⟨rfl, rfl, rfl, rfl⟩
      · rw [reading]
        cases error <;> rfl
      · rw [reading]
        cases error <;> rfl
      · cases error <;> nofun
  | writerDone =>
      dsimp only [Client.act] at acted
      split at acted
      · rename_i waiting done
        cases acted
        refine inv.moved ?_ ?_ nofun rfl rfl (Nat.le_refl _) rfl ⟨rfl, rfl, rfl, rfl⟩
        · rw [waiting]
          rfl
        · rw [waiting]
          rfl
      · cases acted
  | closeConn =>
      obtain ⟨closing, returned⟩ := Option.ite_none_right_eq_some.mp acted
      cases returned
      refine inv.moved ?_ ?_ nofun rfl rfl (Nat.le_refl _) rfl ⟨rfl, rfl, rfl, rfl⟩
      · rw [closing]
        rfl
      · rw [closing]
        rfl
  | receive =>
      dsimp only [Client.act] at acted
      split at acted
      · rename_i item rest receiving buffered
        cases acted
        refine inv.moved rfl rfl (fun early => absurd early (started (by simp [receiving]))) rfl rfl
          ?_ ?_ ⟨rfl, rfl, rfl, rfl⟩
        · simp [buffered]
        · simp [receiving, buffered, WriterPhase.hand]
      · rename_i receiving buffered
        obtain ⟨closed, ended⟩ := Option.ite_none_right_eq_some.mp acted
        cases ended
        refine inv.moved rfl rfl (fun early => absurd early (started (by simp [receiving]))) rfl rfl
          (Nat.le_refl _) ?_ ⟨rfl, rfl, rfl, rfl⟩
        simp [receiving, WriterPhase.hand]
      · cases acted
  | write error =>
      dsimp only [Client.act] at acted
      split at acted
      · rename_i item writing
        have late := started (by simp [writing])
        cases error with
        | false =>
            cases acted
            refine inv.moved rfl rfl (fun early => absurd early late) rfl rfl (Nat.le_refl _) ?_
              ⟨rfl, rfl, rfl, rfl⟩
            simp [writing, WriterPhase.hand]
        | true =>
            cases acted
            refine inv.moved rfl rfl (fun early => absurd early late) rfl rfl (Nat.le_refl _) ?_
              ⟨rfl, rfl, rfl, rfl⟩
            simp [writing, WriterPhase.hand]
      · cases acted

/-- The queue of a registered client is open. -/
theorem Inv.open_queue (inv : subscription.Inv) (registered : subscription.registered = true) :
    subscription.client.send.closed = false := by
  have active := inv.registered.symm.trans registered
  rw [inv.closed]
  cases handler : subscription.client.handler <;> rw [handler] at active <;>
    first | rfl | cases active

/-- An offer finds an open queue, and is dropped only when that is full. -/
theorem Inv.offer (inv : subscription.Inv) {item : Outbound Event}
    (pending : subscription.pending = some item) :
    Inv { subscription with pending := none, client := subscription.client.offer item } := by
  have unclosed := inv.open_queue (inv.pending (by rw [pending]; rfl))
  have offered : (subscription.client.offers ++
      [Offer.mk item subscription.client.send.buffer.length]).filterMap Offer.item =
        subscription.client.taken := by
    have before := inv.offered
    rw [pendingEvent, pending] at before
    rw [← before]
    cases item <;> simp
  have full : ∀ offer ∈ subscription.client.offers ++
      [⟨item, subscription.client.send.buffer.length⟩], offer.held ≤ clientBuffer := by
    intro offer member
    rcases List.mem_append.mp member with member | member
    · exact inv.full offer member
    · rw [List.mem_singleton.mp member]
      exact inv.bounded
  by_cases room : subscription.client.send.buffer.length < clientBuffer
  · have fits : subscription.client.send.buffer.length < subscription.client.send.capacity := by
      rw [inv.capacity]
      exact room
    have sends : subscription.client.send.send item = .sent
        { subscription.client.send with buffer := subscription.client.send.buffer ++ [item] } := by
      rw [Channel.send, if_neg (by simp [unclosed]), if_pos fits]
    simp only [Client.offer, sends]
    exact
      { registered := inv.registered
        closed := inv.closed
        unborn := inv.unborn
        pending := nofun
        capacity := inv.capacity
        bounded := by
          rw [List.length_append]
          exact room
        conserved := by simp [inv.conserved]
        unpanicked := inv.unpanicked
        offered := by simpa [pendingEvent] using offered
        queued := by simp [inv.queued, room]
        full }
  · have blocks : subscription.client.send.send item = .blocked := by
      rw [Channel.send, if_neg (by simp [unclosed]), inv.capacity, if_neg room]
    simp only [Client.offer, blocks]
    exact
      { registered := inv.registered
        closed := inv.closed
        unborn := inv.unborn
        pending := nofun
        capacity := inv.capacity
        bounded := inv.bounded
        conserved := inv.conserved
        unpanicked := inv.unpanicked
        offered := by simpa [pendingEvent] using offered
        queued := by simp [inv.queued, room]
        full }

/-- The hub takes the client in when it is free to. -/
theorem Inv.register (inv : subscription.Inv) (free : subscription.pending = none)
    (registering : subscription.client.handler = .registering) :
    Inv { subscription with
      registered := true
      client := { subscription.client with handler := .spawning } } where
  registered := rfl
  closed := by
    have closed := inv.closed
    rwa [registering] at closed
  unborn _ := inv.unborn (by rw [registering]; rfl)
  pending waits := by simp [free] at waits
  capacity := inv.capacity
  bounded := inv.bounded
  conserved := inv.conserved
  unpanicked := inv.unpanicked
  offered := inv.offered
  queued := inv.queued
  full := inv.full

/-- A client that unregisters is registered, so its queue is closed once. -/
theorem Inv.unregister (inv : subscription.Inv) (free : subscription.pending = none)
    (unregistering : subscription.client.handler = .unregistering) :
    Inv { subscription with
      registered := false
      client := { subscription.client.closeSend with handler := .closing } } := by
  have registered : subscription.registered = true := by
    rw [inv.registered, unregistering]
    rfl
  have closes : subscription.client.closeSend =
      { subscription.client with send := subscription.client.send.close } := by
    rw [Client.closeSend, if_neg (by simp [inv.open_queue registered])]
  rw [closes]
  exact
    { registered := rfl
      closed := rfl
      unborn := nofun
      pending := fun waits => by simp [free] at waits
      capacity := inv.capacity
      bounded := inv.bounded
      conserved := inv.conserved
      unpanicked := inv.unpanicked
      offered := inv.offered
      queued := inv.queued
      full := inv.full }

/-- An item is held ready for a registered client. -/
theorem Inv.hold (inv : subscription.Inv) (free : subscription.pending = none)
    (registered : subscription.registered = true) (item : Outbound Event) :
    Inv { subscription with
      pending := some item
      client := { subscription.client with
        taken := subscription.client.taken ++ item.toList } } where
  registered := inv.registered
  closed := inv.closed
  unborn := inv.unborn
  pending _ := registered
  capacity := inv.capacity
  bounded := inv.bounded
  conserved := inv.conserved
  unpanicked := inv.unpanicked
  offered := by
    have before := inv.offered
    simp only [pendingEvent, free, Option.join_none, Option.toList_none, List.append_nil] at before
    rw [before]
    rfl
  queued := inv.queued
  full := inv.full

/-- Every step keeps the invariant. -/
theorem Inv.step (inv : subscription.Inv) (step : subscription.step label = some next) :
    next.Inv := by
  cases label with
  | register =>
      obtain ⟨⟨free, registering⟩, registered⟩ := Option.ite_none_right_eq_some.mp step
      cases registered
      exact inv.register free registering
  | unregister =>
      obtain ⟨⟨free, unregistering⟩, unregistered⟩ := Option.ite_none_right_eq_some.mp step
      have registered : subscription.registered = true := by
        rw [inv.registered, unregistering]
        rfl
      simp only [registered, if_true] at unregistered
      cases unregistered
      exact inv.unregister free unregistering
  | take event =>
      obtain ⟨free, taken⟩ := Option.ite_none_right_eq_some.mp step
      cases taken
      split
      · rename_i registered
        exact inv.hold free registered (some event)
      · exact inv
  | tick =>
      obtain ⟨free, ticked⟩ := Option.ite_none_right_eq_some.mp step
      cases ticked
      split
      · rename_i registered
        have held := inv.hold free registered none
        rwa [Option.toList_none, List.append_nil] at held
      · exact inv
  | offer =>
      obtain ⟨item, pending, offered⟩ := Option.map_eq_some_iff.mp step
      cases offered
      exact inv.offer pending
  | act action =>
      obtain ⟨client, acted, moved⟩ := Option.map_eq_some_iff.mp step
      cases moved
      exact inv.act acted

/-- A subscription is served along every run. -/
theorem along_served (labels : List (SubscriptionLabel Event)) :
    subscriptionMachine.Along Served start labels := by
  have preserved : ∀ {subscription : Subscription Event} {label next}, subscription.Inv →
      subscriptionMachine.step subscription label = some next → next.Inv :=
    fun inv step => inv.step step
  exact (Machine.along_of_preserved preserved inv_start labels).mono fun _ inv => inv.served

end Subscription

/-! ## The hub and all clients -/

structure Hub (Id Event : Type) where
  clients : Id → Client Event
  /-- The keys of the map `clients`. -/
  members : List Id
  broadcast : Channel Event
  /-- The item that `Run` is offering. -/
  item : Outbound Event
  /-- The clients to which it is still to be offered, in any order. -/
  waiting : List Id

inductive HubLabel (Id Event : Type) where
  | register (id : Id)
  | unregister (id : Id)
  /-- `Run` takes an event from `Broadcast`. -/
  | take (event : Event)
  | tick
  | offer (id : Id)
  | broadcastEvent (event : Event)
  | act (id : Id) (action : ClientAction)

variable {Id : Type} [DecidableEq Id]

namespace Hub

/-- `NewHub`, and every connection that is to come. -/
def new : Hub Id Event where
  clients _ := .connected
  members := []
  broadcast := .make broadcastBuffer
  item := none
  waiting := []

def put (hub : Hub Id Event) (id : Id) (client : Client Event) : Hub Id Event :=
  { hub with clients := Function.update hub.clients id client }

def step [DecidableEq Event] (hub : Hub Id Event) : HubLabel Id Event → Option (Hub Id Event)
  | .register id =>
      if hub.waiting = [] ∧ (hub.clients id).handler = .registering then
        some ({ hub with members := hub.members.insert id }.put id
          { hub.clients id with handler := .spawning })
      else none
  | .unregister id =>
      if hub.waiting = [] ∧ (hub.clients id).handler = .unregistering then
        let client := if id ∈ hub.members then (hub.clients id).closeSend else hub.clients id
        some ({ hub with members := hub.members.filter (· ≠ id) }.put id
          { client with handler := .closing })
      else none
  | .take event =>
      if hub.waiting = [] then
        match hub.broadcast.buffer with
        | first :: rest =>
            if first = event then
              some { hub with
                broadcast := { hub.broadcast with buffer := rest }
                item := some event
                waiting := hub.members
                clients := fun id =>
                  if id ∈ hub.members then
                    { hub.clients id with taken := (hub.clients id).taken ++ [event] }
                  else hub.clients id }
            else none
        | [] => none
      else none
  | .tick =>
      if hub.waiting = [] then some { hub with item := none, waiting := hub.members } else none
  | .offer id =>
      if id ∈ hub.waiting then
        some ({ hub with waiting := hub.waiting.filter (· ≠ id) }.put id
          ((hub.clients id).offer hub.item))
      else none
  | .broadcastEvent event =>
      match hub.broadcast.send event with
      | .sent broadcast => some { hub with broadcast }
      | _ => some hub
  | .act id action => ((hub.clients id).act action).map (hub.put id)

end Hub

def hubMachine [DecidableEq Event] : Machine (Hub Id Event) (HubLabel Id Event) :=
  ⟨Hub.step⟩

namespace Hub

/-- The hub as one client sees it. -/
def subscription (hub : Hub Id Event) (id : Id) : Subscription Event where
  registered := id ∈ hub.members
  pending := if id ∈ hub.waiting then some hub.item else none
  client := hub.clients id

/-- What a client sees of a step: the broadcasts, the pings and what concerns it. -/
def seen (id : Id) : HubLabel Id Event → Option (SubscriptionLabel Event)
  | .register other => if other = id then some .register else none
  | .unregister other => if other = id then some .unregister else none
  | .take event => some (.take event)
  | .tick => some .tick
  | .offer other => if other = id then some .offer else none
  | .broadcastEvent _ => none
  | .act other action => if other = id then some (.act action) else none

variable {hub next : Hub Id Event} {id : Id} {label : HubLabel Id Event}

theorem clients_put_self (client : Client Event) : (hub.put id client).clients id = client :=
  Function.update_self ..

/-- Another client is not touched. -/
theorem clients_put_of_ne {other : Id} (different : id ≠ other) (client : Client Event) :
    (hub.put other client).clients id = hub.clients id :=
  Function.update_of_ne different ..

/-- The part of the hub that is the client's own subscription. -/
theorem subscription_put (client : Client Event) :
    (hub.put id client).subscription id = { hub.subscription id with client } := by
  rw [subscription, clients_put_self]
  rfl

/-- The subscription of another client stays as it was. -/
theorem subscription_put_of_ne {other : Id} (different : id ≠ other) (client : Client Event) :
    (hub.put other client).subscription id = hub.subscription id := by
  rw [subscription, clients_put_of_ne different]
  rfl

/-- What a step does to the hub but not to this client. -/
theorem subscription_congr {other : Hub Id Event} (clients : other.clients id = hub.clients id)
    (members : id ∈ other.members ↔ id ∈ hub.members) (item : other.item = hub.item)
    (waiting : id ∈ other.waiting ↔ id ∈ hub.waiting) :
    other.subscription id = hub.subscription id := by
  simp only [subscription, clients, members, item, waiting]

/-- Outside a fan-out nothing is pending for a client. -/
theorem pending_of_waiting_nil (free : hub.waiting = []) :
    (hub.subscription id).pending = none := by
  simp [subscription, free]

/-- A label about one client is seen by this one only if it is about it. -/
theorem eq_of_seen {other : Id} {partLabel concerned : SubscriptionLabel Event}
    (saw : (if other = id then some concerned else none) = some partLabel) :
    other = id ∧ concerned = partLabel := by
  obtain ⟨same, label⟩ := Option.ite_none_right_eq_some.mp saw
  exact ⟨same, Option.some.inj label⟩

variable [DecidableEq Event]

/-- A step that a client does not see leaves its subscription alone. -/
theorem subscription_hidden (unseen : seen id label = none) (step : hub.step label = some next) :
    next.subscription id = hub.subscription id := by
  cases label with
  | register other =>
      have different : other ≠ id := fun same => by simp [seen, same] at unseen
      obtain ⟨-, registered⟩ := Option.ite_none_right_eq_some.mp step
      cases registered
      rw [subscription_put_of_ne different.symm]
      exact subscription_congr rfl (by simp [different.symm]) rfl Iff.rfl
  | unregister other =>
      have different : other ≠ id := fun same => by simp [seen, same] at unseen
      obtain ⟨-, unregistered⟩ := Option.ite_none_right_eq_some.mp step
      cases unregistered
      rw [subscription_put_of_ne different.symm]
      exact subscription_congr rfl (by simp [different.symm]) rfl Iff.rfl
  | take event => cases unseen
  | tick => cases unseen
  | offer other =>
      have different : other ≠ id := fun same => by simp [seen, same] at unseen
      obtain ⟨-, offered⟩ := Option.ite_none_right_eq_some.mp step
      cases offered
      rw [subscription_put_of_ne different.symm]
      exact subscription_congr rfl Iff.rfl rfl (by simp [different.symm])
  | broadcastEvent event =>
      unfold Hub.step at step
      dsimp only at step
      split at step <;> cases step <;> rfl
  | act other action =>
      have different : other ≠ id := fun same => by simp [seen, same] at unseen
      obtain ⟨client, -, acted⟩ := Option.map_eq_some_iff.mp step
      cases acted
      exact subscription_put_of_ne different.symm client

/-- A step that it sees is one of its subscription. -/
theorem subscription_visible {partLabel : SubscriptionLabel Event}
    (saw : seen id label = some partLabel) (step : hub.step label = some next) :
    (hub.subscription id).step partLabel = some (next.subscription id) := by
  cases label with
  | register other =>
      obtain ⟨rfl, rfl⟩ := eq_of_seen saw
      obtain ⟨⟨free, registering⟩, registered⟩ := Option.ite_none_right_eq_some.mp step
      cases registered
      have allowed : (hub.subscription other).pending = none ∧
          (hub.subscription other).client.handler = .registering :=
        ⟨pending_of_waiting_nil free, registering⟩
      rw [subscription_put, Subscription.step, if_pos allowed]
      simp [subscription]
  | unregister other =>
      obtain ⟨rfl, rfl⟩ := eq_of_seen saw
      obtain ⟨⟨free, unregistering⟩, unregistered⟩ := Option.ite_none_right_eq_some.mp step
      cases unregistered
      have allowed : (hub.subscription other).pending = none ∧
          (hub.subscription other).client.handler = .unregistering :=
        ⟨pending_of_waiting_nil free, unregistering⟩
      rw [subscription_put, Subscription.step, if_pos allowed]
      simp [subscription]
  | take event =>
      cases saw
      obtain ⟨free, taken⟩ := Option.ite_none_right_eq_some.mp step
      split at taken
      · obtain ⟨-, taken⟩ := Option.ite_none_right_eq_some.mp taken
        cases taken
        rw [Subscription.step, if_pos (pending_of_waiting_nil free)]
        by_cases member : id ∈ hub.members <;> simp [subscription, member, free]
      · cases taken
  | tick =>
      cases saw
      obtain ⟨free, ticked⟩ := Option.ite_none_right_eq_some.mp step
      cases ticked
      rw [Subscription.step, if_pos (pending_of_waiting_nil free)]
      by_cases member : id ∈ hub.members <;> simp [subscription, member, free]
  | offer other =>
      obtain ⟨rfl, rfl⟩ := eq_of_seen saw
      obtain ⟨waits, offered⟩ := Option.ite_none_right_eq_some.mp step
      cases offered
      rw [subscription_put]
      simp [subscription, Subscription.step, waits]
  | broadcastEvent event => cases saw
  | act other action =>
      obtain ⟨rfl, rfl⟩ := eq_of_seen saw
      obtain ⟨client, acted, moved⟩ := Option.map_eq_some_iff.mp step
      cases moved
      rw [subscription_put]
      exact Option.map_eq_some_iff.mpr ⟨client, acted, rfl⟩

variable (Event) in
/-- What the hub is to a client is a part of it. -/
def projection (id : Id) :
    Projection (hubMachine : Machine (Hub Id Event) (HubLabel Id Event))
      (subscriptionMachine : Machine (Subscription Event) (SubscriptionLabel Event)) where
  view hub := hub.subscription id
  seen := seen id
  visible saw step := subscription_visible saw step
  hidden unseen step := subscription_hidden unseen step

end Hub

/-- In every run the hub serves each client as it should, and what a client is
sent is determined by the broadcasts, the pings and its own behaviour. -/
theorem hub_isolated {Id Event : Type} [DecidableEq Id] [DecidableEq Event] :
    (∀ labels : List (HubLabel Id Event),
      hubMachine.Along (fun hub => ∀ id, (hub.subscription id).Served) Hub.new labels) ∧
      ∀ (id : Id) (labels others : List (HubLabel Id Event)) (hub other : Hub Id Event),
        hubMachine.exec Hub.new labels = some hub → hubMachine.exec Hub.new others = some other →
        labels.filterMap (Hub.seen id) = others.filterMap (Hub.seen id) →
        hub.clients id = other.clients id := by
  constructor
  · intro labels
    exact Machine.along_forall fun id =>
      (Hub.projection Event id).along Subscription.along_served labels
  · intro id labels others hub other run otherRun same
    have equal := (Hub.projection Event id).determined rfl run otherRun same
    exact congrArg Subscription.client equal

/-- A client that is sent one event and one ping. -/
def alone : List (HubLabel Nat String) :=
  [.register 0, .act 0 .spawn, .broadcastEvent "decision", .take "decision", .offer 0,
    .act 0 .receive, .act 0 (.write false), .tick, .offer 0, .act 0 .receive,
    .act 0 (.write false)]

/-- The same client beside one that never reads and one that fails. -/
def inCompany : List (HubLabel Nat String) :=
  [.register 1, .register 0, .act 0 .spawn, .register 2, .act 2 .spawn,
    .broadcastEvent "decision", .take "decision", .offer 2, .act 2 .receive, .act 2 (.write true),
    .offer 0, .act 0 .receive, .act 0 (.write false), .offer 1, .act 2 (.read true),
    .act 2 .writerDone, .unregister 2, .tick, .offer 0, .offer 1, .act 0 .receive,
    .act 0 (.write false)]

/-- Another client in between makes no difference to the first. -/
theorem hub_isolated_inCompany :
    ∃ hub other, hubMachine.exec Hub.new alone = some hub ∧
      hubMachine.exec Hub.new inCompany = some other ∧ hub.clients 0 = other.clients 0 :=
  ⟨_, _, rfl, rfl, hub_isolated.2 0 alone inCompany _ _ rfl rfl rfl⟩

end Sentinel.Analytics.WebSocket
