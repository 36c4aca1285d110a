import Sentinel.Gateway.Metrics
import Sentinel.Wire.Http

/-!
# The requests behind the metrics

`RequestMetrics` around the handler of a route. Many requests are in it at once,
and one that is no WebSocket makes a call of `ObserveRequest` when its handler
returns. `reported_of_served` says what the metrics tell about the requests.
-/

namespace Sentinel.Gateway

open Sentinel.Wire Sentinel.Semantics

def isUpgrade (request : Request) : Bool :=
  equalFold (request.header.get "Connection") "Upgrade" &&
    equalFold (request.header.get "Upgrade") "websocket"

/-- Where a request is in `RequestMetrics`. -/
inductive Progress where
  | arrived
  /-- In the handler or after it, and not observed. -/
  | upgraded
  | serving
  /-- The handler has returned after a time, and the request is observed. -/
  | served (elapsed : Int64)
  /-- The panic of the handler goes on to the caller. -/
  | panicked
deriving DecidableEq

structure Handling where
  route : String
  request : Request
  progress : Progress := .arrived

inductive HandlingEvent where
  | start
  | serve (elapsed : Int64)
  | panic

namespace Handling

/-- What a request tells the metrics at an event, and where it is then. -/
def next (handling : Handling) : HandlingEvent → Option (Option MetricsLabel × Progress)
  | .start =>
      if handling.progress = .arrived then
        some (some .observeRequestStarted,
          if isUpgrade handling.request then .upgraded else .serving)
      else none
  | .serve elapsed =>
      if handling.progress = .serving then
        some (some (.observeRequest ⟨handling.route, 200, elapsed⟩), .served elapsed)
      else none
  | .panic => if handling.progress = .serving then some (none, .panicked) else none

/-- The arguments with which the request is observed. -/
def observation (handling : Handling) : Option Observation :=
  match handling.progress with
  | .served elapsed => some ⟨handling.route, 200, elapsed⟩
  | .arrived | .upgraded | .serving | .panicked => none

def started (handling : Handling) : Int64 := if handling.progress = .arrived then 0 else 1

/-- Upgrades are never measured, and everything else is. -/
def Sorted (handling : Handling) : Prop :=
  match handling.progress with
  | .arrived => True
  | .upgraded => isUpgrade handling.request = true
  | .serving | .served _ | .panicked => isUpgrade handling.request = false

end Handling

/-- The metrics and all requests so far. -/
structure Serving where
  metrics : Metrics := {}
  handlings : List Handling := []

inductive ServingLabel where
  | arrive (route : String) (request : Request)
  | handling (index : Nat) (event : HandlingEvent)
  /-- A call of `ObserveRequest` takes its next operation. -/
  | operation (call : Nat)
  /-- The limiter rejects a request. -/
  | rateLimited
  /-- `VerifyJWT` rejects a request. -/
  | unauthorized

namespace Serving

def observe (serving : Serving) (label : MetricsLabel) : Option Serving :=
  (serving.metrics.step label).map fun metrics => { serving with metrics }

def step (serving : Serving) : ServingLabel → Option Serving
  | .arrive route request =>
      some { serving with handlings := serving.handlings ++ [{ route, request }] }
  | .handling index event =>
      serving.handlings[index]?.bind fun handling =>
        (handling.next event).bind fun (label, progress) =>
          let handlings := serving.handlings.set index { handling with progress }
          match label with
          | some label => Serving.observe { serving with handlings } label
          | none => some { serving with handlings }
  | .operation call => serving.observe (.operation call)
  | .rateLimited => serving.observe .observeRateLimited
  | .unauthorized => serving.observe .observeUnauthorized

end Serving

def servingMachine : Machine Serving ServingLabel := ⟨Serving.step⟩

namespace Serving

def observations (serving : Serving) : List Observation :=
  serving.handlings.filterMap Handling.observation

/-- The metrics know the requests that have started and those that were observed. -/
structure Inv (serving : Serving) : Prop where
  metrics : serving.metrics.Inv
  started : serving.metrics.registry.requestsTotal = total Handling.started serving.handlings
  observed : serving.metrics.requests.Perm serving.observations
  sorted : ∀ handling ∈ serving.handlings, handling.Sorted

variable {serving next : Serving}

/-- At the start no request is handled. -/
theorem inv_start : Inv {} where
  metrics := Metrics.inv_start
  started := rfl
  observed := .nil
  sorted := nofun

/-- `ObserveRequest` leaves `requestsTotal` alone. -/
theorem requestsTotal_operation {metrics after : Metrics} {index : Nat}
    (step : metrics.step (.operation index) = some after) :
    after.registry.requestsTotal = metrics.registry.requestsTotal := by
  obtain ⟨call, registry, operation, _, taken, rfl⟩ := Metrics.step_operation step
  cases place : call.next with
  | load =>
      cases found : metrics.registry.routeCounters.load call.request.route <;>
        simp only [Registry.observeRequest, place, found, Option.some.injEq, Prod.mk.injEq]
          at taken <;>
        rw [← taken.1]
  | returned => simp [Registry.observeRequest, place] at taken
  | _ =>
      simp only [Registry.observeRequest, place, Option.some.injEq, Prod.mk.injEq] at taken
      rw [← taken.1]

/-- The steps of a request, one case for each. -/
theorem next_cases {handling : Handling} {event : HandlingEvent} {label : Option MetricsLabel}
    {progress : Progress} (moves : handling.next event = some (label, progress)) :
    (handling.progress = .arrived ∧ label = some .observeRequestStarted ∧
        progress = if isUpgrade handling.request then .upgraded else .serving) ∨
      (∃ elapsed, handling.progress = .serving ∧
        label = some (.observeRequest ⟨handling.route, 200, elapsed⟩) ∧
          progress = .served elapsed) ∨
      (handling.progress = .serving ∧ label = none ∧ progress = .panicked) := by
  cases event with
  | start =>
      obtain ⟨arrived, same⟩ := Option.ite_none_right_eq_some.mp moves
      obtain ⟨rfl, rfl⟩ := Prod.mk.inj (Option.some.inj same)
      exact .inl ⟨arrived, rfl, rfl⟩
  | serve elapsed =>
      obtain ⟨serving, same⟩ := Option.ite_none_right_eq_some.mp moves
      obtain ⟨rfl, rfl⟩ := Prod.mk.inj (Option.some.inj same)
      exact .inr (.inl ⟨elapsed, serving, rfl, rfl⟩)
  | panic =>
      obtain ⟨serving, same⟩ := Option.ite_none_right_eq_some.mp moves
      obtain ⟨rfl, rfl⟩ := Prod.mk.inj (Option.some.inj same)
      exact .inr (.inr ⟨serving, rfl, rfl⟩)

/-- A request goes on, and the metrics are told what they have to know of it. -/
theorem Inv.handle (inv : serving.Inv) {index : Nat} {handling moved : Handling}
    {metrics : Metrics} (found : serving.handlings[index]? = some handling)
    (counters : metrics.Inv)
    (started : Adds serving.metrics.registry.requestsTotal metrics.registry.requestsTotal
      handling.started moved.started)
    (unobserved : handling.observation = none)
    (told : metrics.requests = serving.metrics.requests ++ moved.observation.toList)
    (sorted : moved.Sorted) : Inv ⟨metrics, serving.handlings.set index moved⟩ where
  metrics := counters
  started := started.total found inv.started
  observed := by
    rw [told]
    exact (inv.observed.append_right _).trans (filterMap_set_perm found unobserved).symm
  sorted other member := by
    rcases List.mem_or_eq_of_mem_set member with old | rfl
    · exact inv.sorted other old
    · exact sorted

/-- A step of a request keeps the invariant. -/
theorem Inv.handling (inv : serving.Inv) {index : Nat} {event : HandlingEvent}
    (step : serving.step (.handling index event) = some next) : next.Inv := by
  obtain ⟨handling, found, step⟩ := Option.bind_eq_some_iff.mp step
  obtain ⟨⟨label, progress⟩, moves, step⟩ := Option.bind_eq_some_iff.mp step
  have sorted := inv.sorted handling (List.mem_of_getElem? found)
  obtain ⟨route, request, place⟩ := handling
  rcases next_cases moves with ⟨rfl, rfl, rfl⟩ | ⟨elapsed, rfl, rfl, rfl⟩ | ⟨rfl, rfl, rfl⟩
  · obtain ⟨metrics, told, rfl⟩ := Option.map_eq_some_iff.mp step
    have counters := inv.metrics.step told
    obtain rfl := Option.some.inj told
    cases upgrade : isUpgrade request with
    | true =>
        exact inv.handle found counters .first rfl (List.append_nil _).symm upgrade
    | false =>
        exact inv.handle found counters .first rfl (List.append_nil _).symm upgrade
  · obtain ⟨metrics, told, rfl⟩ := Option.map_eq_some_iff.mp step
    have counters := inv.metrics.step told
    obtain rfl := Option.some.inj told
    refine inv.handle found counters .nothing rfl ?_ sorted
    rw [Metrics.requests, List.map_append]
    rfl
  · obtain rfl := Option.some.inj step
    exact inv.handle found inv.metrics .nothing rfl (List.append_nil _).symm sorted

theorem Inv.observe (inv : serving.Inv) {label : MetricsLabel}
    (quiet : ∀ metrics : Metrics, serving.metrics.step label = some metrics →
      metrics.registry.requestsTotal = serving.metrics.registry.requestsTotal ∧
        metrics.requests = serving.metrics.requests)
    (step : serving.observe label = some next) : next.Inv := by
  obtain ⟨metrics, told, rfl⟩ := Option.map_eq_some_iff.mp step
  obtain ⟨total, requests⟩ := quiet metrics told
  exact ⟨inv.metrics.step told, total.trans inv.started, requests ▸ inv.observed, inv.sorted⟩

theorem Inv.step (inv : serving.Inv) {label : ServingLabel}
    (step : serving.step label = some next) : next.Inv := by
  cases label with
  | arrive route request =>
      obtain rfl := Option.some.inj step
      refine ⟨inv.metrics, ?_, ?_, ?_⟩
      · rw [inv.started, total_append_singleton]
        exact (add_zero _).symm
      · rw [observations, List.filterMap_append]
        exact inv.observed.trans (.of_eq (List.append_nil _).symm)
      · intro handling member
        rcases List.mem_append.mp member with old | new
        · exact inv.sorted handling old
        · obtain rfl := List.mem_singleton.mp new
          trivial
  | handling index event => exact inv.handling step
  | operation index =>
      refine inv.observe (fun metrics told => ⟨requestsTotal_operation told, ?_⟩) step
      obtain ⟨call, registry, operation, found, _, rfl⟩ := Metrics.step_operation told
      exact Metrics.requests_set found
  | rateLimited | unauthorized =>
      refine inv.observe (fun metrics told => ?_) step
      obtain rfl := Option.some.inj told
      exact ⟨rfl, rfl⟩

end Serving

/-- The order of the requests does not matter. -/
theorem Registry.Counted.perm {registry : Registry} {requests others : List Observation}
    (counted : registry.Counted requests) (same : requests.Perm others) :
    registry.Counted others where
  route request member := by
    rw [← same.countP_eq]
    exact counted.route request (same.mem_iff.mpr member)
  others route unused := counted.others route fun request member =>
    unused request (same.mem_iff.mp member)
  sum := same.length_eq ▸ counted.sum
  proxied := same.length_eq ▸ counted.proxied
  latency := same.length_eq ▸ counted.latency

/-- No request is in its handler or in `ObserveRequest`. -/
structure Serving.Served (serving : Serving) : Prop where
  handled : ∀ handling ∈ serving.handlings,
    handling.progress ≠ .arrived ∧ handling.progress ≠ .serving
  returned : ∀ call ∈ serving.metrics.calls, call.next = .returned

/-- What the metrics tell about the requests. -/
structure Serving.Reported (serving : Serving) : Prop where
  counted : serving.metrics.registry.Counted serving.observations
  started : Shows serving.metrics.registry.requestsTotal serving.handlings.length
  /-- Where no handler has panicked, all requests but the upgrades are observed. -/
  measured : ∀ handling ∈ serving.handlings, handling.progress ≠ .panicked →
    (handling.observation = none ↔ isUpgrade handling.request = true)

/-- Of the requests that returned all but the upgrades are measured. -/
theorem Handling.Sorted.measured {handling : Handling} (sorted : handling.Sorted)
    (started : handling.progress ≠ .arrived) (left : handling.progress ≠ .serving)
    (unbroken : handling.progress ≠ .panicked) :
    handling.observation = none ↔ isUpgrade handling.request = true := by
  obtain ⟨route, request, progress⟩ := handling
  cases progress with
  | arrived => exact absurd rfl started
  | serving => exact absurd rfl left
  | panicked => exact absurd rfl unbroken
  | upgraded => exact ⟨fun _ => sorted, fun _ => rfl⟩
  | served elapsed =>
      constructor
      · intro unobserved
        cases unobserved
      · intro upgrade
        cases upgrade.symm.trans sorted

/-- When everything was served the metrics report it. -/
theorem Serving.Inv.reported {serving : Serving} (inv : serving.Inv) (served : serving.Served) :
    serving.Reported where
  counted := (inv.metrics.counted served.returned).perm inv.observed
  started := by
    have one : ∀ handling ∈ serving.handlings, handling.started = if true then 1 else 0 :=
      fun handling member => if_neg (served.handled handling member).1
    apply shows_of_eq
    rw [inv.started, total_eq_ofNat_countP (fun _ => true) one, List.countP_true]
  measured handling member unbroken :=
    have handled := served.handled handling member
    (inv.sorted handling member).measured handled.1 handled.2 unbroken

/-- Once no request is under way, the metrics are right about all of them. -/
theorem reported_of_served (labels : List ServingLabel) (final : Serving)
    (run : servingMachine.exec {} labels = some final) (served : final.Served) :
    final.Reported := by
  have inv : final.Inv := by
    refine Machine.final_of_preserved ?_ Serving.inv_start run
    intro state label next inv step
    exact inv.step step
  exact inv.reported served

end Sentinel.Gateway
