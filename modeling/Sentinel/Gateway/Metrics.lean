import Sentinel.Semantics.CellMap
import Sentinel.Semantics.Machine
import Sentinel.Semantics.Tally

/-!
# The gateway's metrics

Counters that all goroutines share. Each atomic operation of an `ObserveRequest`
is a step of its own and a label names the call that takes its next one, so a run
is an interleaving. A call that does not find its route's counter goes on with
the one that `LoadOrStore` gives it, which may be another call's.
-/

namespace Sentinel.Gateway

open Sentinel.Semantics

/-- The variables of the package; a counter is an `atomic.Int64`. -/
structure Registry where
  requestsTotal : Int64 := 0
  rateLimitedTotal : Int64 := 0
  unauthorizedTotal : Int64 := 0
  proxiedTotal : Int64 := 0
  latencySumMicros : Int64 := 0
  latencyCount : Int64 := 0
  /-- The `sync.Map` from routes to counters. -/
  routeCounters : CellMap String Int64 := .empty

/-- The arguments of a call of `ObserveRequest`. -/
structure Observation where
  route : String
  status : Int
  /-- A `time.Duration` in nanoseconds. -/
  elapsed : Int64

/-- The operation that a call of `ObserveRequest` comes to next. -/
inductive Operation where
  | proxiedTotal
  | latencySumMicros
  | latencyCount
  | load
  | loadOrStore
  /-- `Add(1)` to the counter that the call has got. -/
  | add (counter : Nat)
  | returned
deriving DecidableEq

/-- `Duration.Microseconds` -/
def microseconds (elapsed : Int64) : Int64 := elapsed / 1000

namespace Registry

def observeRateLimited (registry : Registry) : Registry :=
  { registry with rateLimitedTotal := registry.rateLimitedTotal + 1 }

def observeUnauthorized (registry : Registry) : Registry :=
  { registry with unauthorizedTotal := registry.unauthorizedTotal + 1 }

def observeRequestStarted (registry : Registry) : Registry :=
  { registry with requestsTotal := registry.requestsTotal + 1 }

/-- One operation of `ObserveRequest`, which makes no use of the status. -/
def observeRequest (registry : Registry) (request : Observation) :
    Operation → Option (Registry × Operation)
  | .proxiedTotal =>
      some ({ registry with proxiedTotal := registry.proxiedTotal + 1 }, .latencySumMicros)
  | .latencySumMicros =>
      some ({ registry with
        latencySumMicros := registry.latencySumMicros + microseconds request.elapsed },
        .latencyCount)
  | .latencyCount =>
      some ({ registry with latencyCount := registry.latencyCount + 1 }, .load)
  | .load =>
      match registry.routeCounters.load request.route with
      | some counter => some (registry, .add counter)
      | none => some (registry, .loadOrStore)
  | .loadOrStore =>
      -- `new(atomic.Int64)` is zero, and no other goroutine sees it before the store.
      let (routeCounters, actual) := registry.routeCounters.loadOrStore request.route 0
      some ({ registry with routeCounters }, .add actual)
  | .add counter =>
      some ({ registry with
        routeCounters := registry.routeCounters.update counter (· + 1) }, .returned)
  | .returned => none

/-- What the map shows for a route. -/
def routeCount (registry : Registry) (route : String) : Int64 :=
  (registry.routeCounters.get route).getD 0

end Registry

structure Call where
  request : Observation
  next : Operation := .proxiedTotal

/-- The variables of the package, and all calls of `ObserveRequest` so far. -/
structure Metrics where
  registry : Registry := {}
  calls : List Call := []

inductive MetricsLabel where
  | observeRateLimited
  | observeUnauthorized
  | observeRequestStarted
  /-- A goroutine calls `ObserveRequest`. -/
  | observeRequest (request : Observation)
  /-- A call takes its next operation. -/
  | operation (call : Nat)

namespace Metrics

def update (metrics : Metrics) (become : Registry → Registry) : Metrics :=
  { metrics with registry := become metrics.registry }

def step (metrics : Metrics) : MetricsLabel → Option Metrics
  | .observeRateLimited => some (metrics.update Registry.observeRateLimited)
  | .observeUnauthorized => some (metrics.update Registry.observeUnauthorized)
  | .observeRequestStarted => some (metrics.update Registry.observeRequestStarted)
  | .observeRequest request => some { metrics with calls := metrics.calls ++ [{ request }] }
  | .operation index =>
      metrics.calls[index]?.bind fun call =>
        (metrics.registry.observeRequest call.request call.next).map fun (registry, next) =>
          { registry, calls := metrics.calls.set index { call with next } }

end Metrics

def metricsMachine : Machine Metrics MetricsLabel := ⟨Metrics.step⟩

/-! ### What an operation does -/

/-- How far a call has come. -/
def Operation.place : Operation → Nat
  | .proxiedTotal => 0
  | .latencySumMicros => 1
  | .latencyCount => 2
  | .load => 3
  | .loadOrStore => 4
  | .add _ => 5
  | .returned => 6

namespace Call

/-- What the call has added by the operation at a place. -/
def added (place : Nat) (amount : Int64) (call : Call) : Int64 :=
  if place < call.next.place then amount else 0

/-- What the call has added to the counter of a route. -/
def addedTo (route : String) (call : Call) : Int64 :=
  if call.request.route = route then call.added 5 1 else 0

def addedMicros (call : Call) : Int64 := call.added 1 (microseconds call.request.elapsed)

/-- The counter that a call has got is its route's, and a call that has returned
has left its route in the map. -/
def Settled (routeCounters : CellMap String Int64) (call : Call) : Prop :=
  match call.next with
  | .add counter => routeCounters.load call.request.route = some counter
  | .returned => routeCounters.load call.request.route ≠ none
  | _ => True

end Call

namespace Registry

/-- An operation adds to every counter what it adds to the caller's share of it,
and no route ever gets another counter. -/
structure Advances (before after : Registry) (call next : Call) : Prop where
  proxied : Adds before.proxiedTotal after.proxiedTotal (call.added 0 1) (next.added 0 1)
  latencySum : Adds before.latencySumMicros after.latencySumMicros call.addedMicros
    next.addedMicros
  latency : Adds before.latencyCount after.latencyCount (call.added 2 1) (next.added 2 1)
  route : ∀ route, Adds (before.routeCount route) (after.routeCount route) (call.addedTo route)
    (next.addedTo route)
  bound : ∀ route counter, before.routeCounters.load route = some counter →
    after.routeCounters.load route = some counter
  used : ∀ route, after.routeCounters.load route ≠ none →
    before.routeCounters.load route ≠ none ∨ route = call.request.route
  settled : next.Settled after.routeCounters
  place : call.next.place < next.next.place

variable {registry : Registry} {request : Observation}

/-- The operations before the map is touched. -/
theorem Advances.of_map {after : Registry} {call next : Call}
    (same : after.routeCounters = registry.routeCounters)
    (proxied : Adds registry.proxiedTotal after.proxiedTotal (call.added 0 1) (next.added 0 1))
    (latencySum : Adds registry.latencySumMicros after.latencySumMicros call.addedMicros
      next.addedMicros)
    (latency : Adds registry.latencyCount after.latencyCount (call.added 2 1) (next.added 2 1))
    (settled : next.Settled registry.routeCounters) (place : call.next.place < next.next.place)
    (early : next.next.place ≤ 5) : registry.Advances after call next := by
  have unadded : ∀ route, call.addedTo route = 0 ∧ next.addedTo route = 0 := by
    intro route
    simp only [Call.addedTo, Call.added, ite_eq_right_iff]
    constructor <;> intro _ late <;> omega
  refine ⟨proxied, latencySum, latency, fun route => ?_, ?_, ?_, same ▸ settled, place⟩
  · rw [(unadded route).1, (unadded route).2, routeCount, routeCount, same]
    exact Adds.nothing
  · intro route counter found
    rw [same, found]
  · intro route found
    exact .inl (same ▸ found)

/-- A counter that is new shows what an absent one stands for. -/
theorem routeCount_loadOrStore (route other : String) :
    routeCount { registry with
      routeCounters := (registry.routeCounters.loadOrStore route 0).1 } other =
        registry.routeCount other := by
  rw [routeCount, routeCount, CellMap.get_loadOrStore]
  split
  · rename_i same
    rw [same, Option.getD_some]
  · rfl

/-- Counting for a route counts for it alone. -/
theorem routeCount_update {route : String} {counter : Nat}
    (held : registry.routeCounters.load route = some counter) (other : String) :
    routeCount { registry with
      routeCounters := registry.routeCounters.update counter (· + 1) } other =
        registry.routeCount other + if route = other then 1 else 0 := by
  rw [routeCount, routeCount, CellMap.get_update held]
  by_cases same : route = other
  · subst same
    obtain ⟨value, valued⟩ := CellMap.exists_get_of_load held
    rw [if_pos rfl, if_pos rfl, valued]
    rfl
  · rw [if_neg (Ne.symm same), if_neg same, add_zero]

/-- Finding the counter of a route changes no count. -/
theorem advances_loadOrStore :
    registry.Advances
      { registry with routeCounters := (registry.routeCounters.loadOrStore request.route 0).1 }
      ⟨request, .loadOrStore⟩
      ⟨request, .add (registry.routeCounters.loadOrStore request.route 0).2⟩ := by
  refine ⟨.nothing, .nothing, .nothing, fun route => ?_, ?_, ?_, ?_, Nat.lt_add_one 4⟩
  · rw [routeCount_loadOrStore]
    exact Adds.nothing
  · intro route counter found
    exact CellMap.load_loadOrStore_of_load found
  · intro route found
    by_cases same : route = request.route
    · exact .inr same
    · exact .inl fun absent => found ((CellMap.load_loadOrStore_of_ne same).trans absent)
  · exact CellMap.load_loadOrStore_self

/-- Adding to it counts the request. -/
theorem advances_add {counter : Nat}
    (held : registry.routeCounters.load request.route = some counter) :
    registry.Advances
      { registry with routeCounters := registry.routeCounters.update counter (· + 1) }
      ⟨request, .add counter⟩ ⟨request, .returned⟩ := by
  refine ⟨.nothing, .nothing, .nothing, fun route => ?_, ?_, ?_, ?_, Nat.lt_add_one 5⟩
  · refine ⟨if request.route = route then 1 else 0, routeCount_update held route, ?_⟩
    have unadded : Call.addedTo route ⟨request, .add counter⟩ = 0 := ite_self 0
    rw [unadded, zero_add]
    rfl
  · intro route bound found
    exact found
  · intro route found
    exact .inl found
  · show registry.routeCounters.load request.route ≠ none
    rw [held]
    exact Option.some_ne_none counter

/-- One case for each operation of `ObserveRequest`. -/
theorem advances {after : Registry} {call : Call} {next : Operation}
    (settled : call.Settled registry.routeCounters)
    (taken : registry.observeRequest call.request call.next = some (after, next)) :
    registry.Advances after call { call with next } := by
  obtain ⟨request, operation⟩ := call
  cases operation with
  | proxiedTotal =>
      obtain ⟨rfl, rfl⟩ := Prod.mk.inj (Option.some.inj taken)
      exact .of_map rfl .first .nothing .nothing trivial Nat.zero_lt_one
        (by decide : 1 ≤ 5)
  | latencySumMicros =>
      obtain ⟨rfl, rfl⟩ := Prod.mk.inj (Option.some.inj taken)
      exact .of_map rfl .nothing .first .nothing trivial (Nat.lt_add_one 1)
        (by decide : 2 ≤ 5)
  | latencyCount =>
      obtain ⟨rfl, rfl⟩ := Prod.mk.inj (Option.some.inj taken)
      exact .of_map rfl .nothing .nothing .first trivial (Nat.lt_add_one 2)
        (by decide : 3 ≤ 5)
  | load =>
      cases found : registry.routeCounters.load request.route with
      | some counter =>
          simp only [observeRequest, found, Option.some.injEq, Prod.mk.injEq] at taken
          obtain ⟨rfl, rfl⟩ := taken
          exact .of_map rfl .nothing .nothing .nothing found (by decide : 3 < 5)
            (Nat.le_refl 5)
      | none =>
          simp only [observeRequest, found, Option.some.injEq, Prod.mk.injEq] at taken
          obtain ⟨rfl, rfl⟩ := taken
          exact .of_map rfl .nothing .nothing .nothing trivial (Nat.lt_add_one 3)
            (by decide : 4 ≤ 5)
  | loadOrStore =>
      obtain ⟨rfl, rfl⟩ := Prod.mk.inj (Option.some.inj taken)
      exact advances_loadOrStore
  | add counter =>
      obtain ⟨rfl, rfl⟩ := Prod.mk.inj (Option.some.inj taken)
      exact advances_add settled
  | returned => cases taken

end Registry

/-! ### Runs -/

/-- A counter that is found stays the route's counter. -/
theorem Call.Settled.mono {before after : CellMap String Int64} {call : Call}
    (settled : call.Settled before)
    (bound : ∀ route counter, before.load route = some counter →
      after.load route = some counter) : call.Settled after := by
  obtain ⟨request, operation⟩ := call
  cases operation with
  | add counter => exact bound request.route counter settled
  | returned =>
      obtain ⟨counter, found⟩ := Option.ne_none_iff_exists'.mp settled
      have kept := bound request.route counter found
      intro absent
      cases kept.symm.trans absent
  | proxiedTotal => trivial
  | latencySumMicros => trivial
  | latencyCount => trivial
  | load => trivial
  | loadOrStore => trivial

namespace Metrics

def requests (metrics : Metrics) : List Observation := metrics.calls.map Call.request

/-- Every counter is the total of what the calls have added to it. -/
structure Inv (metrics : Metrics) : Prop where
  proxied : metrics.registry.proxiedTotal = total (Call.added 0 1) metrics.calls
  latencySum : metrics.registry.latencySumMicros = total Call.addedMicros metrics.calls
  latency : metrics.registry.latencyCount = total (Call.added 2 1) metrics.calls
  route : ∀ route, metrics.registry.routeCount route = total (Call.addedTo route) metrics.calls
  settled : ∀ call ∈ metrics.calls, call.Settled metrics.registry.routeCounters
  used : ∀ route, metrics.registry.routeCounters.load route ≠ none →
    ∃ request ∈ metrics.requests, request.route = route

variable {metrics next : Metrics}

/-- At the start nothing was counted. -/
theorem inv_start : Inv {} where
  proxied := rfl
  latencySum := rfl
  latency := rfl
  route _ := by
    rw [Registry.routeCount, CellMap.get_empty]
    rfl
  settled := nofun
  used route found := absurd CellMap.load_empty found

/-- A call that begins has added nothing. -/
theorem Inv.call (inv : metrics.Inv) (request : Observation) :
    Inv { metrics with calls := metrics.calls ++ [{ request }] } where
  proxied := by rw [inv.proxied, total_append_singleton]; exact (add_zero _).symm
  latencySum := by rw [inv.latencySum, total_append_singleton]; exact (add_zero _).symm
  latency := by rw [inv.latency, total_append_singleton]; exact (add_zero _).symm
  route route := by
    have nothing : Call.addedTo route { request } = 0 := ite_self 0
    rw [inv.route, total_append_singleton, nothing, add_zero]
  settled call member := by
    rcases List.mem_append.mp member with old | new
    · exact inv.settled call old
    · obtain rfl := List.mem_singleton.mp new
      trivial
  used route found := by
    obtain ⟨request, member, same⟩ := inv.used route found
    refine ⟨request, ?_, same⟩
    rw [requests, List.map_append]
    exact List.mem_append_left _ member

/-- Who goes on keeps the arguments of the call. -/
theorem requests_set {index : Nat} {call : Call} {operation : Operation}
    (found : metrics.calls[index]? = some call) :
    (metrics.calls.set index { call with next := operation }).map Call.request =
      metrics.requests := by
  have requested : metrics.requests[index]? = some call.request := by
    rw [requests, List.getElem?_map, found, Option.map_some]
  rw [List.map_set]
  exact set_of_getElem? requested

/-- An operation keeps the invariant. -/
theorem Inv.operation (inv : metrics.Inv) {index : Nat} {call : Call} {registry : Registry}
    {operation : Operation} (found : metrics.calls[index]? = some call)
    (advances : metrics.registry.Advances registry call { call with next := operation }) :
    Inv ⟨registry, metrics.calls.set index { call with next := operation }⟩ where
  proxied := advances.proxied.total found inv.proxied
  latencySum := advances.latencySum.total found inv.latencySum
  latency := advances.latency.total found inv.latency
  route route := (advances.route route).total found (inv.route route)
  settled other member := by
    rcases List.mem_or_eq_of_mem_set member with old | rfl
    · exact (inv.settled other old).mono advances.bound
    · exact advances.settled
  used route bound := by
    have same : requests ⟨registry, metrics.calls.set index { call with next := operation }⟩ =
        metrics.requests := requests_set found
    rw [same]
    rcases advances.used route bound with before | rfl
    · exact inv.used route before
    · have member : call ∈ metrics.calls := List.mem_of_getElem? found
      exact ⟨call.request, List.mem_map_of_mem member, rfl⟩

/-- Which operation it is, of which call. -/
theorem step_operation {index : Nat} (step : metrics.step (.operation index) = some next) :
    ∃ call registry operation, metrics.calls[index]? = some call ∧
      metrics.registry.observeRequest call.request call.next = some (registry, operation) ∧
      next = ⟨registry, metrics.calls.set index { call with next := operation }⟩ := by
  obtain ⟨call, found, step⟩ := Option.bind_eq_some_iff.mp step
  obtain ⟨⟨registry, operation⟩, taken, rfl⟩ := Option.map_eq_some_iff.mp step
  exact ⟨call, registry, operation, found, taken, rfl⟩

/-- Every step keeps the invariant. -/
theorem Inv.step (inv : metrics.Inv) {label : MetricsLabel}
    (step : metrics.step label = some next) : next.Inv := by
  cases label with
  | observeRateLimited | observeUnauthorized | observeRequestStarted =>
      obtain rfl := Option.some.inj step
      exact ⟨inv.proxied, inv.latencySum, inv.latency, inv.route, inv.settled, inv.used⟩
  | observeRequest request =>
      obtain rfl := Option.some.inj step
      exact inv.call request
  | operation index =>
      obtain ⟨call, registry, operation, found, taken, rfl⟩ := step_operation step
      have settled := inv.settled call (List.mem_of_getElem? found)
      exact inv.operation found (Registry.advances settled taken)

theorem inv_run {labels : List MetricsLabel} {final : Metrics} (inv : metrics.Inv)
    (run : metricsMachine.exec metrics labels = some final) : final.Inv := by
  refine Machine.final_of_preserved ?_ inv run
  intro state label next inv step
  exact inv.step step

end Metrics

/-- The calls of `ObserveRequest` in a run. -/
def observations (labels : List MetricsLabel) : List Observation :=
  labels.filterMap fun
    | .observeRequest request => some request
    | _ => none

namespace Metrics

/-- A run has exactly the calls that goroutines make in it. -/
theorem requests_run {labels : List MetricsLabel} {metrics final : Metrics}
    (run : metricsMachine.exec metrics labels = some final) :
    final.requests = metrics.requests ++ observations labels := by
  induction labels generalizing metrics with
  | nil =>
      cases run
      exact (List.append_nil _).symm
  | cons label rest ih =>
      obtain ⟨next, step, run⟩ := Machine.exec_cons_eq_some.mp run
      rw [ih run]
      cases label with
      | observeRateLimited | observeUnauthorized | observeRequestStarted =>
          obtain rfl := Option.some.inj step
          rfl
      | observeRequest request =>
          obtain rfl := Option.some.inj step
          rw [requests, List.map_append, List.append_assoc]
          rfl
      | operation index =>
          obtain ⟨call, registry, operation, found, _, rfl⟩ := step_operation step
          exact congrArg (· ++ observations rest) (requests_set found)

end Metrics

/-- The registry shows how many of the requests there were, in all and by route. -/
structure Registry.Counted (registry : Registry) (requests : List Observation) : Prop where
  route : ∀ request ∈ requests, ∃ counter,
    registry.routeCounters.get request.route = some counter ∧
      Shows counter (requests.countP (·.route = request.route))
  /-- No other route has a counter. -/
  others : ∀ route, (∀ request ∈ requests, request.route ≠ route) →
    registry.routeCounters.get route = none
  sum : Shows registry.routeCounters.values.sum requests.length
  proxied : Shows registry.proxiedTotal requests.length
  latency : Shows registry.latencyCount requests.length

namespace Metrics

variable {metrics : Metrics}

/-- By then each call has added one at every place. -/
theorem total_added (returned : ∀ call ∈ metrics.calls, call.next = .returned) {place : Nat}
    (early : place < 6) :
    total (Call.added place 1) metrics.calls = .ofNat metrics.requests.length := by
  have one : ∀ call ∈ metrics.calls, Call.added place 1 call = if true then 1 else 0 := by
    intro call member
    rw [Call.added, returned call member]
    exact if_pos early
  rw [total_eq_ofNat_countP (fun _ => true) one, List.countP_true, requests, List.length_map]

/-- When all calls have returned a route was counted as often as it was requested. -/
theorem total_addedTo (returned : ∀ call ∈ metrics.calls, call.next = .returned)
    (route : String) :
    total (Call.addedTo route) metrics.calls =
      .ofNat (metrics.requests.countP (·.route = route)) := by
  have one : ∀ call ∈ metrics.calls, Call.addedTo route call =
      if decide (call.request.route = route) then 1 else 0 := by
    intro call member
    rw [Call.addedTo, Call.added, returned call member]
    simp [Operation.place]
  rw [total_eq_ofNat_countP _ one, requests, List.countP_map]
  rfl

/-- The sum of which the exposition shows the mean. -/
theorem Inv.latencySum_of_returned (inv : metrics.Inv)
    (returned : ∀ call ∈ metrics.calls, call.next = .returned) :
    metrics.registry.latencySumMicros =
      (metrics.requests.map fun request => microseconds request.elapsed).sum := by
  have whole : ∀ call ∈ metrics.calls, call.addedMicros = microseconds call.request.elapsed := by
    intro call member
    rw [Call.addedMicros, Call.added, returned call member]
    rfl
  rw [inv.latencySum, total_congr whole, requests, List.map_map]
  rfl

theorem Inv.load_ne_none (inv : metrics.Inv)
    (returned : ∀ call ∈ metrics.calls, call.next = .returned) {call : Call}
    (member : call ∈ metrics.calls) :
    metrics.registry.routeCounters.load call.request.route ≠ none := by
  have settled := inv.settled call member
  rw [Call.Settled, returned call member] at settled
  exact settled

/-- So everything was counted. -/
theorem Inv.counted (inv : metrics.Inv)
    (returned : ∀ call ∈ metrics.calls, call.next = .returned) :
    metrics.registry.Counted metrics.requests where
  route request member := by
    obtain ⟨call, called, rfl⟩ := List.mem_map.mp member
    obtain ⟨cell, loaded⟩ := Option.ne_none_iff_exists'.mp (inv.load_ne_none returned called)
    obtain ⟨counter, found⟩ := CellMap.exists_get_of_load loaded
    have counted := (inv.route call.request.route).trans (total_addedTo returned _)
    rw [Registry.routeCount, found, Option.getD_some] at counted
    exact ⟨counter, found, shows_of_eq counted⟩
  others route unused := by
    by_contra bound
    obtain ⟨request, member, same⟩ := inv.used route (mt CellMap.get_eq_none_iff.mpr bound)
    exact unused request member same
  sum := by
    have covered : ∀ call ∈ metrics.calls,
        call.request.route ∈ metrics.registry.routeCounters.keys := fun call member =>
      CellMap.mem_keys.mpr (inv.load_ne_none returned member)
    refine shows_of_eq ?_
    calc metrics.registry.routeCounters.values.sum
        = (metrics.registry.routeCounters.keys.map metrics.registry.routeCount).sum :=
          sum_filterMap _ _
      _ = (metrics.registry.routeCounters.keys.map fun route =>
            total (Call.addedTo route) metrics.calls).sum :=
          congrArg List.sum (List.map_congr_left fun route _ => inv.route route)
      _ = total (Call.added 5 1) metrics.calls :=
          sum_total_by_key (fun call : Call => call.request.route) CellMap.keys_nodup covered
      _ = .ofNat metrics.requests.length := total_added returned (Nat.lt_add_one 5)
  proxied := shows_of_eq (inv.proxied.trans (total_added returned (by decide)))
  latency := shows_of_eq (inv.latency.trans (total_added returned (by decide)))

/-- The operations that a call has still to take, at most. -/
def remaining (call : Call) : Nat := 6 - call.next.place

/-- A call that has not returned can go on. -/
theorem observeRequest_ne_none {registry : Registry} {call : Call}
    (running : call.next ≠ .returned) :
    registry.observeRequest call.request call.next ≠ none := by
  obtain ⟨request, operation⟩ := call
  intro stuck
  cases operation with
  | load =>
      cases found : registry.routeCounters.load request.route <;>
        simp [Registry.observeRequest, found] at stuck
  | returned => exact running rfl
  | proxiedTotal => cases stuck
  | latencySumMicros => cases stuck
  | latencyCount => cases stuck
  | loadOrStore => cases stuck
  | add counter => cases stuck

/-- A call takes six operations. -/
theorem place_le (operation : Operation) : operation.place ≤ 6 := by
  cases operation <;> simp [Operation.place]

/-- No call waits for another: wherever a run stands, the calls can all return. -/
theorem Inv.exists_returned {metrics : Metrics} (inv : metrics.Inv) :
    ∃ labels final, metricsMachine.exec metrics labels = some final ∧ observations labels = [] ∧
      ∀ call ∈ final.calls, call.next = .returned := by
  induction work : total remaining metrics.calls using Nat.strong_induction_on
    generalizing metrics with
  | _ work ih =>
      by_cases returned : ∀ call ∈ metrics.calls, call.next = .returned
      · exact ⟨[], metrics, rfl, rfl, returned⟩
      · push Not at returned
        obtain ⟨call, member, running⟩ := returned
        obtain ⟨index, found⟩ := List.getElem?_of_mem member
        have goesOn : metrics.registry.observeRequest call.request call.next ≠ none :=
          observeRequest_ne_none running
        obtain ⟨⟨registry, operation⟩, taken⟩ := Option.ne_none_iff_exists'.mp goesOn
        have advances := Registry.advances (inv.settled call member) taken
        have step : metrics.step (.operation index) =
            some ⟨registry, metrics.calls.set index { call with next := operation }⟩ := by
          rw [Metrics.step, found, Option.bind_some, taken]
          rfl
        have less : remaining { call with next := operation } < remaining call := by
          have place := advances.place
          have bounded := place_le operation
          simp only [remaining] at place ⊢
          omega
        obtain ⟨labels, final, run, quiet, returned⟩ :=
          ih _ (work ▸ total_set_lt found less) (inv.step step) rfl
        exact ⟨.operation index :: labels, final,
          Machine.exec_cons_eq_some.mpr ⟨_, step, run⟩, quiet, returned⟩

end Metrics

/-- No update is lost: whatever the order of the operations of all calls, once they
have returned every counter shows how many there were. -/
theorem counted_of_returned (labels : List MetricsLabel) (final : Metrics)
    (run : metricsMachine.exec {} labels = some final)
    (returned : ∀ call ∈ final.calls, call.next = .returned) :
    final.registry.Counted (observations labels) := by
  have counted := (Metrics.inv_run Metrics.inv_start run).counted returned
  rw [Metrics.requests_run run] at counted
  exact counted

/-- Two calls for a route both miss it in the map, and the second to store holds
the counter of the first. A third call has another route. -/
def racing : List MetricsLabel :=
  [.observeRequest ⟨"auth", 200, 1500⟩, .observeRequest ⟨"auth", 200, 2500⟩,
    .operation 0, .operation 0, .operation 0, .operation 1, .operation 1, .operation 1,
    .operation 0, .operation 1, .operation 1, .observeRequest ⟨"risk", 200, 500⟩, .operation 2,
    .operation 0, .operation 2, .operation 0, .operation 2, .operation 2, .operation 1,
    .operation 2, .operation 2]

def raced : Metrics := (metricsMachine.exec {} racing).getD {}

/-- Two first requests of one route at once are both counted. -/
theorem counted_raced : raced.registry.Counted
    [⟨"auth", 200, 1500⟩, ⟨"auth", 200, 2500⟩, ⟨"risk", 200, 500⟩] :=
  counted_of_returned racing raced rfl (by decide +kernel)

end Sentinel.Gateway
