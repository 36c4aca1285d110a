import Mathlib.Algebra.Order.BigOperators.Group.List
import Mathlib.Data.String.Basic
import Sentinel.Gateway.RequestMetrics
import Sentinel.Wire.Float64

/-!
# What a scrape of the metrics shows

`Handler` loads one counter after the other while requests go on, so a scrape is
no snapshot. `scrape_reports` says what it is nevertheless: every value lies
between those at the beginning and at the end, and nothing that a scrape has
shown is missing or less in one that begins after it has been written.
-/

namespace Sentinel.Gateway

open Sentinel.Wire Sentinel.Semantics

/-- A counter that the handler loads. -/
inductive Metric where
  | latencyCount
  | latencySumMicros
  | requestsTotal
  | proxiedTotal
  | rateLimitedTotal
  | unauthorizedTotal
  | route (route : String)
deriving DecidableEq

def Registry.load (registry : Registry) : Metric → Int64
  | .latencyCount => registry.latencyCount
  | .latencySumMicros => registry.latencySumMicros
  | .requestsTotal => registry.requestsTotal
  | .proxiedTotal => registry.proxiedTotal
  | .rateLimitedTotal => registry.rateLimitedTotal
  | .unauthorizedTotal => registry.unauthorizedTotal
  | .route route => registry.routeCount route

def Metric.routeName : Metric → Option String
  | .route name => some name
  | _ => none

/-- Only a route's metric has the name of a route. -/
theorem Metric.routeName_eq_some {metric : Metric} {name : String} :
    metric.routeName = some name ↔ metric = .route name := by
  cases metric <;> simp [routeName]

/-- The counters that every scrape loads, in their order. -/
def scraped : List Metric :=
  [.latencyCount, .requestsTotal, .proxiedTotal, .rateLimitedTotal, .unauthorizedTotal]

/-- Where a call of the handler is. -/
inductive ScrapeStage where
  /-- The counters to be loaded before the routes. -/
  | loads (rest : List Metric)
  /-- In `routeCounters.Range`, which still owes visits to some of the routes. -/
  | range (owed : List String)
  | written

structure Scrape where
  stage : ScrapeStage := .loads scraped
  loaded : List (Metric × Int64) := []

namespace Scrape

/-- The handler goes on to the next counter, into `Range` or out of it. -/
def proceed (registry : Registry) (scrape : Scrape) : Option Scrape :=
  match scrape.stage with
  | .loads (metric :: rest) =>
      let value := registry.load metric
      let rest := if metric = .latencyCount ∧ 0 < value then .latencySumMicros :: rest else rest
      some { stage := .loads rest, loaded := scrape.loaded ++ [(metric, value)] }
  | .loads [] => some { scrape with stage := .range registry.routeCounters.keys }
  | .range [] => some { scrape with stage := .written }
  | .range (_ :: _) | .written => none

/-- `Range` visits a route: any that is in the map, and none a second time. -/
def visit (registry : Registry) (route : String) (scrape : Scrape) : Option Scrape :=
  match scrape.stage with
  | .range owed =>
      if route ∈ registry.routeCounters.keys ∧ .route route ∉ scrape.loaded.map Prod.fst then
        some {
          stage := .range (owed.erase route)
          loaded := scrape.loaded ++ [(.route route, registry.load (.route route))] }
      else none
  | .loads _ | .written => none

/-- The value of a counter in the scrape. -/
def value (scrape : Scrape) (metric : Metric) : Int :=
  match scrape.loaded.find? fun entry => entry.1 = metric with
  | some (_, value) => value.toInt
  | none => 0

/-- The mean in milliseconds. -/
def meanMillis (double : Float64) (micros count : Int) : ℚ :=
  double.round (double.round (double.round micros / double.round count) / 1000)

def mean (double : Float64) (scrape : Scrape) : ℚ :=
  if scrape.value .latencyCount > 0 then
    meanMillis double (scrape.value .latencySumMicros) (scrape.value .latencyCount)
  else 0

/-- The routes in the order of `sort.Slice`. -/
def routes (scrape : Scrape) : List (String × Int64) :=
  (scrape.loaded.filterMap fun
    | (.route route, value) => some (route, value)
    | _ => none).mergeSort fun first second => first.1 ≤ second.1

/-- The lines of the response. `fixed` and `quoted` are the verbs `%.*f` and `%q`. -/
def lines (double : Float64) (fixed : Nat → ℚ → String) (quoted : String → String) (uptime : ℚ)
    (scrape : Scrape) : List String :=
  let family := fun name kind help =>
    ["# HELP sentinel_gateway_" ++ name ++ " " ++ help,
      "# TYPE sentinel_gateway_" ++ name ++ " " ++ kind]
  let sample := fun name value => ["sentinel_gateway_" ++ name ++ " " ++ value]
  let counter := fun name help metric =>
    family name "counter" help ++ sample name (toString (scrape.value metric))
  counter "requests_total" "Total accepted requests." .requestsTotal ++
    counter "proxied_total" "Requests forwarded upstream." .proxiedTotal ++
    counter "rate_limited_total" "Requests rejected by the rate limiter." .rateLimitedTotal ++
    counter "unauthorized_total" "Requests rejected by JWT verification." .unauthorizedTotal ++
    family "uplink_latency_ms" "gauge" "Mean upstream latency in milliseconds." ++
    sample "uplink_latency_ms" (fixed 3 (scrape.mean double)) ++
    family "uptime_seconds" "gauge" "Gateway uptime in seconds." ++
    sample "uptime_seconds" (fixed 1 uptime) ++
    if scrape.routes = [] then []
    else family "route_requests_total" "counter" "Requests per downstream route." ++
      scrape.routes.map fun (route, value) =>
        "sentinel_gateway_route_requests_total\x7broute=" ++ quoted route ++ "\x7d " ++
          toString value.toInt

end Scrape

/-- The gateway's metrics and all scrapes so far. -/
structure Monitor where
  metrics : Metrics := {}
  scrapes : List Scrape := []

inductive MonitorLabel where
  | metrics (label : MetricsLabel)
  | scrape
  | proceed (index : Nat)
  | visit (index : Nat) (route : String)

namespace Monitor

def step (monitor : Monitor) : MonitorLabel → Option Monitor
  | .metrics label => (monitor.metrics.step label).map fun metrics => { monitor with metrics }
  | .scrape => some { monitor with scrapes := monitor.scrapes ++ [{}] }
  | .proceed index =>
      monitor.scrapes[index]?.bind fun scrape =>
        (scrape.proceed monitor.metrics.registry).map fun scrape =>
          { monitor with scrapes := monitor.scrapes.set index scrape }
  | .visit index route =>
      monitor.scrapes[index]?.bind fun scrape =>
        (scrape.visit monitor.metrics.registry route).map fun scrape =>
          { monitor with scrapes := monitor.scrapes.set index scrape }

end Monitor

def monitorMachine : Machine Monitor MonitorLabel := ⟨Monitor.step⟩

/-! ### Counters grow -/

/-- No counter has become less, and no route has lost its counter. -/
structure Registry.Grown (before after : Registry) : Prop where
  values : ∀ metric, (before.load metric).toInt ≤ (after.load metric).toInt
  routes : ∀ route, before.routeCounters.load route ≠ none →
    after.routeCounters.load route ≠ none

/-- A registry has grown from itself. -/
theorem Registry.Grown.refl (registry : Registry) : registry.Grown registry :=
  ⟨fun _ => Int.le_refl _, fun _ => id⟩

theorem Registry.Grown.trans {first second third : Registry} (before : first.Grown second)
    (after : second.Grown third) : first.Grown third :=
  ⟨fun metric => (before.values metric).trans (after.values metric),
    fun route found => after.routes route (before.routes route found)⟩

namespace Call

/-- What a call adds to `latencySumMicros`. -/
def micros (call : Call) : Int := (microseconds call.request.elapsed).toInt

/-- What it has still to add. -/
def pending (call : Call) : Int := if call.next.place ≤ 1 then call.micros else 0

/-- What it has added to a counter. -/
def share (metric : Metric) (call : Call) : Int64 :=
  match metric with
  | .latencyCount => call.added 2 1
  | .latencySumMicros => call.addedMicros
  | .proxiedTotal => call.added 0 1
  | .route route => call.addedTo route
  | .requestsTotal | .rateLimitedTotal | .unauthorizedTotal => 0

end Call

/-- A sum of amounts that fits does not overflow. -/
theorem toInt_add_of_nonneg {first second : Int64} (nonneg : 0 ≤ first.toInt)
    (alsoNonneg : 0 ≤ second.toInt) (small : first.toInt + second.toInt < 2 ^ 63) :
    (first + second).toInt = first.toInt + second.toInt := by
  rw [Int64.toInt_add]
  exact Int.bmod_eq_of_le (by omega) (by omega)

/-- A request of the right duration adds no negative latency. -/
theorem micros_nonneg {request : Observation} (timely : 0 ≤ request.elapsed) :
    0 ≤ (microseconds request.elapsed).toInt := by
  rw [microseconds, Int64.toInt_div_of_ne_right _ _ (by decide)]
  exact Int.tdiv_nonneg (Int64.le_iff_toInt_le.mp timely) (by decide)

/-- A call that goes on adds its amount or nothing to a counter. -/
theorem added_step (place : Nat) (amount : Int64) {call next : Call}
    (further : call.next.place < next.next.place) :
    ∃ more, next.added place amount = call.added place amount + more ∧
      (more = 0 ∨ more = amount ∧ call.next.place ≤ place ∧ place < next.next.place) := by
  unfold Call.added
  by_cases before : place < call.next.place
  · exact ⟨0, by rw [if_pos before, if_pos (before.trans further), Int64.add_zero], .inl rfl⟩
  · by_cases after : place < next.next.place
    · refine ⟨amount, by rw [if_neg before, if_pos after, Int64.zero_add], .inr ⟨rfl, ?_, after⟩⟩
      exact Nat.le_of_not_lt before
    · exact ⟨0, by rw [if_neg before, if_neg after, Int64.add_zero], .inl rfl⟩

namespace Metrics

/-- Labels that begin no call add one at most. -/
def weight : MetricsLabel → Nat
  | .observeRequest request => 1 + (microseconds request.elapsed).toInt.toNat
  | .observeRateLimited | .observeUnauthorized | .observeRequestStarted | .operation _ => 1

/-- The monotonic clock gives no negative durations. -/
def Timely : MetricsLabel → Prop
  | .observeRequest request => 0 ≤ request.elapsed
  | .observeRateLimited | .observeUnauthorized | .observeRequestStarted | .operation _ => True

/-- There is room for what all calls have still to add, and for more. -/
structure Fits (left : Int) (metrics : Metrics) : Prop where
  inv : metrics.Inv
  timely : ∀ request ∈ metrics.requests, 0 ≤ (microseconds request.elapsed).toInt
  nonneg : ∀ metric, 0 ≤ (metrics.registry.load metric).toInt
  room : ∀ metric, (metrics.registry.load metric).toInt + total Call.pending metrics.calls + left <
    2 ^ 63
  budget : total Call.micros metrics.calls + left < 2 ^ 63
  few : (metrics.calls.length : Int) + left < 2 ^ 63

/-- A counter has been added to, out of what was pending or what is allowed. -/
def Gains (metrics next : Metrics) (allowed : Nat) (metric : Metric) : Prop :=
  ∃ amount, next.registry.load metric = metrics.registry.load metric + amount ∧
    0 ≤ amount.toInt ∧ amount.toInt + total Call.pending next.calls ≤
      total Call.pending metrics.calls + allowed

variable {metrics next : Metrics}

/-- A call of `ObserveRequest` leaves the other counters alone. -/
theorem untouched {registry after : Registry} {request : Observation} {place next : Operation}
    (taken : registry.observeRequest request place = some (after, next)) :
    after.requestsTotal = registry.requestsTotal ∧
      after.rateLimitedTotal = registry.rateLimitedTotal ∧
        after.unauthorizedTotal = registry.unauthorizedTotal := by
  cases place with
  | load =>
      cases found : registry.routeCounters.load request.route <;>
        simp only [Registry.observeRequest, found, Option.some.injEq, Prod.mk.injEq] at taken <;>
        simp only [← taken.1, and_self]
  | returned => cases taken
  | proxiedTotal | latencySumMicros | latencyCount | loadOrStore | add counter =>
      obtain ⟨rfl, rfl⟩ := Prod.mk.inj (Option.some.inj taken)
      exact ⟨rfl, rfl, rfl⟩

/-- An operation adds to a metric what it takes from the call's share. -/
theorem adds_load {registry after : Registry} {call : Call} {next : Operation}
    (settled : call.Settled registry.routeCounters)
    (taken : registry.observeRequest call.request call.next = some (after, next))
    (metric : Metric) :
    Adds (registry.load metric) (after.load metric) (call.share metric)
      (Call.share metric { call with next }) := by
  have advances := Registry.advances settled taken
  obtain ⟨requests, rateLimited, unauthorized⟩ := untouched taken
  cases metric with
  | latencyCount => exact advances.latency
  | latencySumMicros => exact advances.latencySum
  | proxiedTotal => exact advances.proxied
  | route route => exact advances.route route
  | requestsTotal => exact ⟨0, by simp [Registry.load, requests], by simp [Call.share]⟩
  | rateLimitedTotal => exact ⟨0, by simp [Registry.load, rateLimited], by simp [Call.share]⟩
  | unauthorizedTotal => exact ⟨0, by simp [Registry.load, unauthorized], by simp [Call.share]⟩

/-- What the call that goes on adds is one, or what it had pending. -/
theorem share_step (metric : Metric) {call next : Call}
    (further : call.next.place < next.next.place) (same : next.request = call.request) :
    ∃ more, next.share metric = call.share metric + more ∧
      (more = 0 ∨ more = 1 ∨
        more = microseconds call.request.elapsed ∧ call.next.place ≤ 1 ∧ 1 < next.next.place) := by
  have one : ∀ place, ∃ more, next.added place 1 = call.added place 1 + more ∧
      (more = 0 ∨ more = 1) := by
    intro place
    obtain ⟨more, adds, cases⟩ := added_step place 1 further
    exact ⟨more, adds, cases.imp_right And.left⟩
  cases metric with
  | latencyCount =>
      obtain ⟨more, adds, few⟩ := one 2
      exact ⟨more, adds, few.imp_right .inl⟩
  | proxiedTotal =>
      obtain ⟨more, adds, few⟩ := one 0
      exact ⟨more, adds, few.imp_right .inl⟩
  | route route =>
      simp only [Call.share, Call.addedTo, same]
      split
      · obtain ⟨more, adds, few⟩ := one 5
        exact ⟨more, adds, few.imp_right .inl⟩
      · exact ⟨0, rfl, .inl rfl⟩
  | latencySumMicros =>
      simp only [Call.share, Call.addedMicros, same]
      obtain ⟨more, adds, few⟩ := added_step 1 (microseconds call.request.elapsed) further
      exact ⟨more, adds, few.imp_right .inr⟩
  | requestsTotal | rateLimitedTotal | unauthorizedTotal => exact ⟨0, rfl, .inl rfl⟩

/-- An operation adds out of what was pending, and one at most besides. -/
theorem gains_operation (inv : metrics.Inv)
    (timely : ∀ request ∈ metrics.requests, 0 ≤ (microseconds request.elapsed).toInt)
    {index : Nat} (step : metrics.step (.operation index) = some next) (metric : Metric) :
    metrics.Gains next 1 metric := by
  obtain ⟨call, registry, operation, found, taken, rfl⟩ := step_operation step
  have member := List.mem_of_getElem? found
  have settled := inv.settled call member
  have further := (Registry.advances settled taken).place
  obtain ⟨amount, grown, shared⟩ := adds_load settled taken metric
  obtain ⟨more, sharedToo, cases⟩ := share_step metric further rfl
  obtain rfl : amount = more := (Int64.add_right_inj _).mp (shared.symm.trans sharedToo)
  have nonneg : 0 ≤ call.micros := timely call.request (List.mem_map_of_mem member)
  have change : Call.pending { call with next := operation } =
      call.pending + (Call.pending { call with next := operation } - call.pending) := by omega
  have pending := total_set found change
  refine ⟨amount, grown, ?_⟩
  rw [pending]
  have less : Call.pending { call with next := operation } ≤ call.pending := by
    unfold Call.pending
    by_cases before : call.next.place ≤ 1
    · rw [if_pos before]
      split
      · exact Int.le_refl _
      · exact nonneg
    · rw [if_neg before, if_neg fun after => before (further.le.trans after)]
  rcases cases with rfl | rfl | ⟨rfl, before, after⟩
  · have zero : (0 : Int64).toInt = 0 := rfl
    omega
  · have one : (1 : Int64).toInt = 1 := rfl
    omega
  · have spent : call.pending = call.micros := if_pos before
    have nothing : Call.pending { call with next := operation } = 0 :=
      if_neg (Nat.not_le_of_lt after)
    rw [spent, nothing]
    exact ⟨nonneg, by unfold Call.micros; omega⟩

/-- Besides what was pending a step adds no more than it weighs. -/
theorem Fits.gains {left : Int} (fits : metrics.Fits left) {label : MetricsLabel}
    (timely : Timely label) (step : metrics.step label = some next) (metric : Metric) :
    metrics.Gains next (weight label) metric := by
  cases label with
  | operation index => exact gains_operation fits.inv fits.timely step metric
  | observeRequest request =>
      obtain rfl := Option.some.inj step
      have nonneg := micros_nonneg timely
      have pending : Call.pending { request } = (microseconds request.elapsed).toInt := rfl
      refine ⟨0, (Int64.add_zero _).symm, Int.le_refl 0, ?_⟩
      have zero : (0 : Int64).toInt = 0 := rfl
      rw [total_append_singleton, pending, weight]
      omega
  | observeRateLimited | observeUnauthorized | observeRequestStarted =>
      obtain rfl := Option.some.inj step
      have zero : (0 : Int64).toInt = 0 := rfl
      have one : (1 : Int64).toInt = 1 := rfl
      cases metric with
      | requestsTotal | rateLimitedTotal | unauthorizedTotal =>
          first
            | exact ⟨1, rfl, by decide, by simp [weight, update, one, Int.add_comm]⟩
            | exact ⟨0, (Int64.add_zero _).symm, by decide, by simp [weight, update, zero]⟩
      | latencyCount | latencySumMicros | proxiedTotal | route route =>
          exact ⟨0, (Int64.add_zero _).symm, by decide, by simp [weight, update, zero]⟩

/-- No call has a negative latency to add. -/
theorem pending_nonneg
    (timely : ∀ request ∈ metrics.requests, 0 ≤ (microseconds request.elapsed).toInt) :
    0 ≤ total Call.pending metrics.calls := by
  refine List.sum_nonneg fun amount member => ?_
  obtain ⟨call, listed, rfl⟩ := List.mem_map.mp member
  unfold Call.pending
  split
  · exact timely call.request (List.mem_map_of_mem listed)
  · exact Int.le_refl 0

/-- The requests that are being counted stay of the right duration. -/
theorem Fits.timely_step {left : Int} (fits : metrics.Fits left) {label : MetricsLabel}
    (timely : Timely label) (step : metrics.step label = some next) :
    ∀ request ∈ next.requests, 0 ≤ (microseconds request.elapsed).toInt := by
  cases label with
  | operation index =>
      obtain ⟨call, registry, operation, found, _, rfl⟩ := step_operation step
      intro request member
      rw [requests, requests_set found] at member
      exact fits.timely request member
  | observeRequest request =>
      obtain rfl := Option.some.inj step
      intro other member
      rw [requests, List.map_append] at member
      rcases List.mem_append.mp member with old | new
      · exact fits.timely other old
      · obtain rfl := List.mem_singleton.mp new
        exact micros_nonneg timely
  | observeRateLimited | observeUnauthorized | observeRequestStarted =>
      obtain rfl := Option.some.inj step
      exact fits.timely

/-- The latencies grow by what the step weighs. -/
theorem total_micros_step {label : MetricsLabel} (timely : Timely label)
    (step : metrics.step label = some next) :
    total Call.micros next.calls ≤ total Call.micros metrics.calls + weight label := by
  cases label with
  | operation index =>
      obtain ⟨call, registry, operation, found, _, rfl⟩ := step_operation step
      have kept : Call.micros { call with next := operation } = call.micros + 0 :=
        (Int.add_zero _).symm
      have same := total_set found kept
      rw [same]
      omega
  | observeRequest request =>
      obtain rfl := Option.some.inj step
      have micros : Call.micros { request } = (microseconds request.elapsed).toInt := rfl
      rw [total_append_singleton, micros, weight]
      omega
  | observeRateLimited | observeUnauthorized | observeRequestStarted =>
      obtain rfl := Option.some.inj step
      exact Int.le_add_of_nonneg_right (Int.natCast_nonneg _)

theorem length_step {label : MetricsLabel} (step : metrics.step label = some next) :
    next.calls.length ≤ metrics.calls.length + weight label := by
  cases label with
  | operation index =>
      obtain ⟨call, registry, operation, _, _, rfl⟩ := step_operation step
      rw [List.length_set]
      exact Nat.le_add_right ..
  | observeRequest request =>
      obtain rfl := Option.some.inj step
      rw [List.length_append, List.length_singleton, weight]
      omega
  | observeRateLimited | observeUnauthorized | observeRequestStarted =>
      obtain rfl := Option.some.inj step
      exact Nat.le_add_right ..

/-- A route that is found is found from then on. -/
theorem routes_step (inv : metrics.Inv) {label : MetricsLabel}
    (step : metrics.step label = some next) (route : String)
    (found : metrics.registry.routeCounters.load route ≠ none) :
    next.registry.routeCounters.load route ≠ none := by
  cases label with
  | operation index =>
      obtain ⟨call, registry, operation, called, taken, rfl⟩ := step_operation step
      obtain ⟨counter, bound⟩ := Option.ne_none_iff_exists'.mp found
      have settled := inv.settled call (List.mem_of_getElem? called)
      rw [(Registry.advances settled taken).bound route counter bound]
      exact Option.some_ne_none counter
  | observeRequest | observeRateLimited | observeUnauthorized | observeRequestStarted =>
      obtain rfl := Option.some.inj step
      exact found

/-- A step adds to no counter more than there is room for, so that none gets less. -/
theorem Fits.step {left : Int} {label : MetricsLabel} (fits : metrics.Fits (weight label + left))
    (nonneg : 0 ≤ left) (timely : Timely label) (step : metrics.step label = some next) :
    next.Fits left ∧ metrics.registry.Grown next.registry := by
  have alsoTimely := fits.timely_step timely step
  have values : ∀ metric, ∃ amount : Int64, 0 ≤ amount.toInt ∧
      (next.registry.load metric).toInt = (metrics.registry.load metric).toInt + amount.toInt ∧
        amount.toInt + total Call.pending next.calls ≤
          total Call.pending metrics.calls + weight label := by
    intro metric
    obtain ⟨amount, grown, positive, spent⟩ := fits.gains timely step metric
    refine ⟨amount, positive, ?_, spent⟩
    have room := fits.room metric
    have more := pending_nonneg alsoTimely
    rw [grown, toInt_add_of_nonneg (fits.nonneg metric) positive (by omega)]
  refine ⟨⟨fits.inv.step step, alsoTimely, fun metric => ?_, fun metric => ?_, ?_, ?_⟩,
    fun metric => ?_, routes_step fits.inv step⟩
  · obtain ⟨amount, positive, grown, spent⟩ := values metric
    have before := fits.nonneg metric
    omega
  · obtain ⟨amount, positive, grown, spent⟩ := values metric
    have room := fits.room metric
    omega
  · have before := fits.budget
    have more := total_micros_step timely step
    omega
  · have before := fits.few
    have more := length_step step
    omega
  · obtain ⟨amount, positive, grown, spent⟩ := values metric
    omega

/-- The requests whose calls have added to `latencyCount`. -/
def counted (metrics : Metrics) : List Observation :=
  (metrics.calls.filter (2 < ·.next.place)).map Call.request

/-- Where the sum of what the calls add is in range, it is the sum of the integers. -/
theorem toInt_total_addedMicros {calls : List Call} (timely : ∀ call ∈ calls, 0 ≤ call.micros)
    (small : total Call.micros calls < 2 ^ 63) :
    ((calls.filter (2 < ·.next.place)).map Call.micros).sum ≤
        (total Call.addedMicros calls).toInt ∧
      (total Call.addedMicros calls).toInt ≤ total Call.micros calls := by
  induction calls with
  | nil => exact ⟨Int.le_refl 0, Int.le_refl 0⟩
  | cons call calls ih =>
      have own := timely call List.mem_cons_self
      rw [total_cons] at small ⊢
      obtain ⟨low, high⟩ := ih (fun call member => timely call (List.mem_cons_of_mem _ member))
        (by omega)
      have nonneg : 0 ≤ ((calls.filter (2 < ·.next.place)).map Call.micros).sum := by
        refine List.sum_nonneg fun amount member => ?_
        obtain ⟨other, listed, rfl⟩ := List.mem_map.mp member
        exact timely other (List.mem_cons_of_mem _ (List.mem_filter.mp listed).1)
      rw [total_cons]
      by_cases added : 1 < call.next.place
      · have whole : call.addedMicros.toInt = call.micros := congrArg Int64.toInt (if_pos added)
        rw [toInt_add_of_nonneg (whole ▸ own) (nonneg.trans low) (by omega), whole, List.filter_cons]
        split
        · rw [List.map_cons, List.sum_cons]
          omega
        · omega
      · have nothing : call.addedMicros = 0 := if_neg added
        have uncounted : ¬ decide (2 < call.next.place) = true := by
          rw [decide_eq_true_eq]
          omega
        rw [nothing, Int64.zero_add, List.filter_cons, if_neg uncounted]
        exact ⟨low, by omega⟩

/-- The sum covers the calls that are counted, and no other calls than there are. -/
theorem Fits.latencySum {left : Int} (fits : metrics.Fits left) (nonneg : 0 ≤ left) :
    (metrics.counted.map fun request => (microseconds request.elapsed).toInt).sum ≤
        metrics.registry.latencySumMicros.toInt ∧
      metrics.registry.latencySumMicros.toInt ≤
        (metrics.requests.map fun request => (microseconds request.elapsed).toInt).sum := by
  have timely : ∀ call ∈ metrics.calls, 0 ≤ call.micros := fun call member =>
    fits.timely call.request (List.mem_map_of_mem member)
  have budget := fits.budget
  rw [fits.inv.latencySum, counted, requests, List.map_map, List.map_map]
  exact toInt_total_addedMicros timely (by omega)

end Metrics

/-! ### Scrapes -/

namespace Scrape

def metrics (scrape : Scrape) : List Metric := scrape.loaded.map Prod.fst

/-- The counters to be loaded before the routes. -/
def todo (scrape : Scrape) : List Metric :=
  match scrape.stage with
  | .loads rest => rest
  | .range _ | .written => []

/-- A route that had a counter when the scrape began will be in it. -/
def Owes (scrape : Scrape) (route : String) : Prop :=
  match scrape.stage with
  | .loads _ => True
  | .range owed => route ∈ owed ∨ .route route ∈ scrape.metrics
  | .written => .route route ∈ scrape.metrics

/-- What holds of a scrape that began when the registry was `start`. -/
structure Sound (start : Registry) (metrics : Metrics) (scrape : Scrape) : Prop where
  between : ∀ metric value, (metric, value) ∈ scrape.loaded →
    (start.load metric).toInt ≤ value.toInt ∧
      value.toInt ≤ (metrics.registry.load metric).toInt
  once : (scrape.metrics ++ scrape.todo).Nodup
  fixed : ∀ metric ∈ scraped, metric ∈ scrape.metrics ++ scrape.todo
  sum : .latencySumMicros ∈ scrape.metrics ++ scrape.todo ↔
    ∃ count, (.latencyCount, count) ∈ scrape.loaded ∧ 0 < count
  owes : ∀ route, start.routeCounters.load route ≠ none → scrape.Owes route
  known : ∀ route, .route route ∈ scrape.metrics ++ scrape.todo →
    metrics.registry.routeCounters.load route ≠ none

/-- A scrape that has not begun is sound. -/
theorem sound_start (start : Registry) (metrics : Metrics) : ({} : Scrape).Sound start metrics where
  between := nofun
  once := by decide
  fixed _ member := member
  sum := by
    constructor
    · intro listed
      exact absurd listed (by decide)
    · rintro ⟨count, loaded, _⟩
      cases loaded
  owes _ _ := trivial
  known route listed := by
    simp [Scrape.metrics, todo, scraped] at listed

variable {start : Registry} {metrics next : Metrics} {scrape after : Scrape}

/-- What the requests do while a scrape goes on leaves it sound. -/
theorem Sound.mono (sound : scrape.Sound start metrics)
    (grown : metrics.registry.Grown next.registry) : scrape.Sound start next where
  between metric value loaded :=
    ⟨(sound.between metric value loaded).1,
      (sound.between metric value loaded).2.trans (grown.values metric)⟩
  once := sound.once
  fixed := sound.fixed
  sum := sound.sum
  owes := sound.owes
  known route listed := grown.routes route (sound.known route listed)

/-- A metric was loaded when its value was. -/
theorem mem_metrics {metric : Metric} {value : Int64} (loaded : (metric, value) ∈ scrape.loaded) :
    metric ∈ scrape.metrics := List.mem_map_of_mem loaded

/-- One more value is loaded. -/
theorem mem_loaded_append {loaded : List (Metric × Int64)} {metric other : Metric}
    {value shown : Int64} :
    (metric, value) ∈ loaded ++ [(other, shown)] ↔
      (metric, value) ∈ loaded ∨ metric = other ∧ value = shown := by
  rw [List.mem_append, List.mem_singleton, Prod.mk.injEq]

/-- A value lies between those at the beginning and at the end of the scrape. -/
theorem Sound.between_append (sound : scrape.Sound start metrics)
    (grown : start.Grown metrics.registry) {other metric : Metric} {value : Int64}
    (loaded : (metric, value) ∈ scrape.loaded ++ [(other, metrics.registry.load other)]) :
    (start.load metric).toInt ≤ value.toInt ∧
      value.toInt ≤ (metrics.registry.load metric).toInt := by
  rcases mem_loaded_append.mp loaded with old | ⟨rfl, rfl⟩
  · exact sound.between metric value old
  · exact ⟨grown.values metric, Int.le_refl _⟩

/-- `latencyCount` is loaded, and then the sum if there is anything to divide by. -/
theorem Sound.loadCount (sound : scrape.Sound start metrics)
    (grown : start.Grown metrics.registry) {rest : List Metric}
    (stage : scrape.stage = .loads (.latencyCount :: rest)) :
    Sound start metrics
      { stage := .loads (if 0 < metrics.registry.latencyCount then .latencySumMicros :: rest
          else rest)
        loaded := scrape.loaded ++ [(.latencyCount, metrics.registry.latencyCount)] } := by
  have before : scrape.metrics ++ scrape.todo = scrape.metrics ++ .latencyCount :: rest := by
    simp only [todo, stage]
  have once := before ▸ sound.once
  have uncounted : ∀ count, (.latencyCount, count) ∉ scrape.loaded := by
    intro count loaded
    exact List.disjoint_of_nodup_append once (mem_metrics loaded) List.mem_cons_self
  have unsummed : .latencySumMicros ∉ scrape.metrics ++ .latencyCount :: rest := by
    rw [← before, sound.sum]
    rintro ⟨count, loaded, _⟩
    exact uncounted count loaded
  -- The handler has its list as before, or the sum in it besides.
  obtain ⟨sums, todoEq, ifPositive⟩ : ∃ sums : List Metric,
      (if 0 < metrics.registry.latencyCount then .latencySumMicros :: rest else rest) =
        sums ++ rest ∧ (sums = [] ∧ ¬ 0 < metrics.registry.latencyCount ∨
          sums = [.latencySumMicros] ∧ 0 < metrics.registry.latencyCount) := by
    split
    · exact ⟨[.latencySumMicros], rfl, .inr ⟨rfl, ‹_›⟩⟩
    · exact ⟨[], rfl, .inl ⟨rfl, ‹_›⟩⟩
  rw [todoEq]
  have moved : ((scrape.loaded ++ [(Metric.latencyCount, metrics.registry.latencyCount)]).map
      Prod.fst ++ (sums ++ rest)).Perm (sums ++ (scrape.metrics ++ .latencyCount :: rest)) := by
    rw [List.map_append, List.map_singleton, ← List.append_assoc]
    refine ((List.perm_append_comm).append_right rest).trans (.of_eq ?_)
    simp only [Scrape.metrics, List.append_assoc, List.singleton_append]
  refine ⟨fun metric value => sound.between_append grown, moved.nodup_iff.mpr ?_,
    fun metric listed => moved.mem_iff.mpr ?_, moved.mem_iff.trans ?_, fun _ _ => trivial,
    fun route listed => ?_⟩
  · rcases ifPositive with ⟨rfl, _⟩ | ⟨rfl, _⟩
    · exact once
    · exact List.nodup_cons.mpr ⟨unsummed, once⟩
  · exact List.mem_append_right _ (before ▸ sound.fixed metric listed)
  · simp only [mem_loaded_append, uncounted, false_or, true_and]
    rcases ifPositive with ⟨rfl, empty⟩ | ⟨rfl, positive⟩
    · refine iff_of_false unsummed ?_
      rintro ⟨count, rfl, positive⟩
      exact empty positive
    · exact iff_of_true List.mem_cons_self ⟨_, rfl, positive⟩
  · refine sound.known route (before ▸ ?_)
    rcases List.mem_append.mp (moved.mem_iff.mp listed) with new | old
    · rcases ifPositive with ⟨rfl, _⟩ | ⟨rfl, _⟩
      · cases new
      · cases List.mem_singleton.mp new
    · exact old

/-- The handler loads another counter before the routes. -/
theorem Sound.load (sound : scrape.Sound start metrics)
    (grown : start.Grown metrics.registry) {metric : Metric} {rest : List Metric}
    (stage : scrape.stage = .loads (metric :: rest)) (different : metric ≠ .latencyCount) :
    Sound start metrics
      { stage := .loads rest
        loaded := scrape.loaded ++ [(metric, metrics.registry.load metric)] } := by
  have moved : (scrape.loaded ++ [(metric, metrics.registry.load metric)]).map Prod.fst ++ rest =
      scrape.metrics ++ scrape.todo := by
    simp only [todo, stage, Scrape.metrics, List.map_append, List.map_singleton,
      List.append_assoc, List.singleton_append]
  refine ⟨fun metric value => sound.between_append grown, ?_, ?_, ?_, fun _ _ => trivial, ?_⟩
  · exact moved ▸ sound.once
  · exact moved ▸ sound.fixed
  · refine (iff_of_eq (congrArg _ moved)).trans (sound.sum.trans ?_)
    simp only [mem_loaded_append]
    constructor
    · rintro ⟨count, loaded, positive⟩
      exact ⟨count, .inl loaded, positive⟩
    · rintro ⟨count, loaded | ⟨same, _⟩, positive⟩
      · exact ⟨count, loaded, positive⟩
      · exact absurd same.symm different
  · exact moved ▸ sound.known

/-- Visiting a route keeps the scrape sound. -/
theorem Sound.visit (sound : scrape.Sound start metrics)
    (grown : start.Grown metrics.registry) {route : String}
    (step : scrape.visit metrics.registry route = some after) : after.Sound start metrics := by
  obtain ⟨stage, loaded⟩ := scrape
  cases stage with
  | loads rest => cases step
  | written => cases step
  | range owed =>
      obtain ⟨⟨listed, fresh⟩, same⟩ := Option.ite_none_right_eq_some.mp step
      obtain rfl := Option.some.inj same
      have before : Scrape.metrics ⟨.range owed, loaded⟩ ++ Scrape.todo ⟨.range owed, loaded⟩ =
          loaded.map Prod.fst := List.append_nil _
      have moved : (loaded ++ [(Metric.route route, metrics.registry.load (.route route))]).map
          Prod.fst ++ [] = loaded.map Prod.fst ++ [.route route] := by
        rw [List.append_nil, List.map_append, List.map_singleton]
      refine ⟨fun metric value => sound.between_append grown, ?_, fun metric member => ?_, ?_,
        fun other found => ?_, fun other member => ?_⟩
      · refine moved ▸ List.nodup_append.mpr ⟨before ▸ sound.once, List.nodup_singleton _, ?_⟩
        intro metric old other new same
        exact fresh (List.mem_singleton.mp new ▸ same ▸ old)
      · exact moved ▸ List.mem_append_left _ (before ▸ sound.fixed metric member)
      · have same : .latencySumMicros ∈ loaded.map Prod.fst ++ [.route route] ↔
            .latencySumMicros ∈ loaded.map Prod.fst := by simp
        refine (iff_of_eq (congrArg _ moved)).trans (same.trans ?_)
        refine (iff_of_eq (congrArg _ before)).symm.trans (sound.sum.trans ?_)
        simp
      · have more : Scrape.metrics ⟨.range (owed.erase route),
            loaded ++ [(.route route, metrics.registry.load (.route route))]⟩ =
              loaded.map Prod.fst ++ [.route route] := (List.append_nil _).symm.trans moved
        show other ∈ owed.erase route ∨ Metric.route other ∈ _
        rw [more]
        by_cases own : other = route
        · exact .inr (List.mem_append_right _ (own ▸ List.mem_singleton_self _))
        · rcases sound.owes other found with owes | visited
          · exact .inl ((List.mem_erase_of_ne own).mpr owes)
          · exact .inr (List.mem_append_left _ visited)
      · rcases List.mem_append.mp (moved ▸ member) with old | new
        · exact sound.known other (before ▸ old)
        · rw [Metric.route.inj (List.mem_singleton.mp new)]
          exact CellMap.mem_keys.mp listed

theorem Sound.proceed (sound : scrape.Sound start metrics)
    (grown : start.Grown metrics.registry)
    (step : scrape.proceed metrics.registry = some after) : after.Sound start metrics := by
  obtain ⟨stage, loaded⟩ := scrape
  cases stage with
  | loads rest =>
      cases rest with
      | cons metric rest =>
          obtain rfl := Option.some.inj step
          by_cases first : metric = .latencyCount
          · subst first
            simp only [true_and]
            exact sound.loadCount grown rfl
          · simpa only [first, false_and, if_false] using sound.load grown rfl first
      | nil =>
          obtain rfl := Option.some.inj step
          refine ⟨sound.between, sound.once, sound.fixed, sound.sum, fun route found => ?_,
            sound.known⟩
          exact .inl (CellMap.mem_keys.mpr (grown.routes route found))
  | range owed =>
      cases owed with
      | nil =>
          obtain rfl := Option.some.inj step
          refine ⟨sound.between, sound.once, sound.fixed, sound.sum, fun route found => ?_,
            sound.known⟩
          exact (sound.owes route found).resolve_left (by simp)
      | cons route owed => cases step
  | written => cases step

end Scrape

/-! ### Runs with scrapes -/

namespace Monitor

def weight : MonitorLabel → Nat
  | .metrics label => Metrics.weight label
  | .scrape | .proceed _ | .visit _ _ => 0

def Timely : MonitorLabel → Prop
  | .metrics label => Metrics.Timely label
  | .scrape | .proceed _ | .visit _ _ => True

instance decidableTimely : DecidablePred Timely
  | .metrics (.observeRequest request) => inferInstanceAs (Decidable (0 ≤ request.elapsed))
  | .metrics .observeRateLimited | .metrics .observeUnauthorized
  | .metrics .observeRequestStarted | .metrics (.operation _)
  | .scrape | .proceed _ | .visit _ _ => inferInstanceAs (Decidable True)

/-- The counters of a run are in range: there are less than `2 ^ 63` of calls and
microseconds, and no duration is negative. -/
structure InRange (labels : List MonitorLabel) : Prop where
  small : (labels.map weight).sum < 2 ^ 63
  timely : ∀ label ∈ labels, Timely label

/-- What holds since the registry was `start`, which was before the scrapes among those
that are meant had loaded anything. -/
structure Since (start : Registry) (among : Nat → Prop) (left : Int) (monitor : Monitor) : Prop where
  fits : monitor.metrics.Fits left
  grown : start.Grown monitor.metrics.registry
  sound : ∀ index scrape, among index → monitor.scrapes[index]? = some scrape →
    scrape.Sound start monitor.metrics

variable {start : Registry} {among : Nat → Prop} {left : Int} {monitor next final : Monitor}

/-- Scrapes that have not begun are sound from now on. -/
theorem since_start (fits : monitor.metrics.Fits left)
    (fresh : ∀ index scrape, among index → monitor.scrapes[index]? = some scrape → scrape = {}) :
    monitor.Since monitor.metrics.registry among left where
  fits := fits
  grown := .refl _
  sound index scrape meant found := fresh index scrape meant found ▸ Scrape.sound_start _ _

/-- A scrape that goes on stays sound, and the others are left alone. -/
theorem Since.set (since : monitor.Since start among left) {index : Nat} {scrape after : Scrape}
    (sound : scrape.Sound start monitor.metrics → after.Sound start monitor.metrics)
    (found : monitor.scrapes[index]? = some scrape) :
    Since start among left { monitor with scrapes := monitor.scrapes.set index after } where
  fits := since.fits
  grown := since.grown
  sound other shown meant there := by
    by_cases own : index = other
    · subst own
      rw [List.getElem?_set_self (List.getElem?_eq_some_iff.mp found).1] at there
      exact Option.some.inj there ▸ sound (since.sound index scrape meant found)
    · rw [List.getElem?_set_ne own] at there
      exact since.sound other shown meant there

/-- A step uses up the room that it weighs, and keeps the scrapes sound. -/
theorem Since.step {label : MonitorLabel} (since : monitor.Since start among (weight label + left))
    (nonneg : 0 ≤ left) (timely : Timely label) (step : monitor.step label = some next) :
    next.Since start among left := by
  cases label with
  | metrics label =>
      obtain ⟨metrics, told, rfl⟩ := Option.map_eq_some_iff.mp step
      obtain ⟨fits, grown⟩ := since.fits.step nonneg timely told
      refine ⟨fits, since.grown.trans grown, fun index scrape meant found => ?_⟩
      exact (since.sound index scrape meant found).mono grown
  | scrape =>
      obtain rfl := Option.some.inj step
      have same : (weight .scrape : Int) + left = left := Int.zero_add left
      refine ⟨same ▸ since.fits, since.grown, fun index scrape meant found => ?_⟩
      rcases Nat.lt_or_ge index monitor.scrapes.length with inside | after
      · rw [List.getElem?_append_left inside] at found
        exact since.sound index scrape meant found
      · rw [List.getElem?_append_right after] at found
        obtain ⟨_, rfl⟩ := List.getElem?_eq_some_iff.mp found
        rw [List.getElem_singleton]
        exact Scrape.sound_start start _
  | proceed index =>
      have same : (weight (.proceed index) : Int) + left = left := Int.zero_add left
      rw [same] at since
      obtain ⟨scrape, found, moved⟩ := Option.bind_eq_some_iff.mp step
      obtain ⟨after, proceeds, rfl⟩ := Option.map_eq_some_iff.mp moved
      exact since.set (fun sound => sound.proceed since.grown proceeds) found
  | visit index route =>
      have same : (weight (.visit index route) : Int) + left = left := Int.zero_add left
      rw [same] at since
      obtain ⟨scrape, found, moved⟩ := Option.bind_eq_some_iff.mp step
      obtain ⟨after, visits, rfl⟩ := Option.map_eq_some_iff.mp moved
      exact since.set (fun sound => sound.visit since.grown visits) found

/-- And so does a run, with all its steps. -/
theorem Since.run {labels : List MonitorLabel}
    (since : monitor.Since start among ((labels.map weight).sum + left)) (nonneg : 0 ≤ left)
    (timely : ∀ label ∈ labels, Timely label)
    (run : monitorMachine.exec monitor labels = some final) : final.Since start among left := by
  induction labels generalizing monitor with
  | nil =>
      obtain rfl := Option.some.inj run
      have same : (([] : List MonitorLabel).map weight).sum + left = left := Int.zero_add left
      exact same ▸ since
  | cons label rest ih =>
      obtain ⟨next, step, run⟩ := Machine.exec_cons_eq_some.mp run
      have first : (((label :: rest).map weight).sum : Int) + left =
          weight label + ((rest.map weight).sum + left) := by
        rw [List.map_cons, List.sum_cons]
        omega
      rw [first] at since
      have after := since.step (by omega) (timely label List.mem_cons_self) step
      exact ih after (fun label member => timely label (List.mem_cons_of_mem _ member)) run

end Monitor

/-- At the start there is room for all that is to come. -/
theorem Metrics.fits_start {left : Int} (small : left < 2 ^ 63) : Metrics.Fits left {} := by
  have zero : ∀ metric, (Registry.load {} metric).toInt = 0 := by
    intro metric
    cases metric with
    | route route =>
        rw [Registry.load, Registry.routeCount, CellMap.get_empty]
        rfl
    | _ => rfl
  have nothing : total Call.pending [] = 0 := total_nil
  have noMicros : total Call.micros [] = 0 := total_nil
  refine ⟨Metrics.inv_start, ?_, fun metric => (zero metric).ge, fun metric => ?_, ?_, ?_⟩
  · intro call member
    cases member
  · rw [zero, nothing]
    omega
  · rw [noMicros]
    omega
  · rw [List.length_nil]
    omega

namespace Scrape

variable {start : Registry} {metrics : Metrics} {scrape : Scrape}

/-- Each counter is loaded once, so that its value is the one loaded. -/
theorem Sound.value_eq (sound : scrape.Sound start metrics) {metric : Metric} {value : Int64}
    (loaded : (metric, value) ∈ scrape.loaded) : scrape.value metric = value.toInt := by
  have once : (scrape.loaded.map Prod.fst).Nodup := (List.nodup_append.mp sound.once).1
  have found : scrape.loaded.find? (fun entry => entry.1 = metric) = some (metric, value) := by
    generalize scrape.loaded = entries at loaded once
    induction entries with
    | nil => cases loaded
    | cons entry rest ih =>
        rw [List.map_cons, List.nodup_cons] at once
        rcases List.mem_cons.mp loaded with rfl | later
        · exact List.find?_cons_of_pos (decide_eq_true rfl)
        · have different : entry.1 ≠ metric := fun same =>
            once.1 (same ▸ List.mem_map_of_mem later)
          rw [List.find?_cons_of_neg (by simpa using different)]
          exact ih later once.2
  rw [Scrape.value, found]

/-- A metric that was loaded has a value. -/
theorem exists_loaded {metric : Metric} (listed : metric ∈ scrape.metrics) :
    ∃ value, (metric, value) ∈ scrape.loaded := by
  obtain ⟨⟨_, value⟩, loaded, rfl⟩ := List.mem_map.mp listed
  exact ⟨value, loaded⟩

/-- What was not loaded is shown as zero. -/
theorem value_of_not_mem {metric : Metric} (absent : metric ∉ scrape.metrics) :
    scrape.value metric = 0 := by
  have none : scrape.loaded.find? (fun entry => entry.1 = metric) = none := by
    refine List.find?_eq_none.mpr fun entry member same => absent ?_
    exact of_decide_eq_true same ▸ List.mem_map_of_mem member
  rw [value, none]

/-- The routes shown are those that were loaded. -/
theorem mem_routes {route : String} {value : Int64} :
    (route, value) ∈ scrape.routes ↔ (.route route, value) ∈ scrape.loaded := by
  rw [routes, List.mem_mergeSort, List.mem_filterMap]
  constructor
  · rintro ⟨⟨metric, shown⟩, loaded, same⟩
    cases metric with
    | route other =>
        obtain ⟨rfl, rfl⟩ := Prod.mk.inj (Option.some.inj same)
        exact loaded
    | _ => cases same
  · intro loaded
    exact ⟨_, loaded, rfl⟩

/-- They are shown in ascending order. -/
theorem Sound.routes_ascending (sound : scrape.Sound start metrics) :
    (scrape.routes.map Prod.fst).Pairwise (· < ·) := by
  have once : (scrape.loaded.map Prod.fst).Nodup := (List.nodup_append.mp sound.once).1
  have sorted : scrape.routes.Pairwise fun first second => first.1 ≤ second.1 := by
    refine (List.pairwise_mergeSort ?_ ?_ _).imp of_decide_eq_true
    · intro first second third low high
      exact decide_eq_true ((of_decide_eq_true low).trans (of_decide_eq_true high))
    · intro first second
      rcases le_total first.1 second.1 with low | high
      · simp [low]
      · simp [high]
  have distinct : (scrape.routes.map Prod.fst).Nodup := by
    refine (((List.mergeSort_perm _ _).map Prod.fst).nodup_iff).mpr ?_
    have names : (scrape.loaded.filterMap fun
        | (.route route, value) => some (route, value)
        | _ => none).map Prod.fst = (scrape.loaded.map Prod.fst).filterMap Metric.routeName := by
      rw [List.map_filterMap, List.filterMap_map]
      refine List.filterMap_congr fun entry _ => ?_
      obtain ⟨metric, value⟩ := entry
      cases metric <;> rfl
    rw [names]
    refine once.filterMap fun one two route oneIs twoIs => ?_
    exact (Metric.routeName_eq_some.mp oneIs).trans (Metric.routeName_eq_some.mp twoIs).symm
  exact ((List.pairwise_map.mpr sorted).and distinct).imp fun both => lt_of_le_of_ne both.1 both.2

/-- What a scrape shows that is written, between the beginning and the end of a run. -/
structure Reports (before after : Metrics) (scrape : Scrape) : Prop where
  counters : ∀ metric ∈ scraped, (before.registry.load metric).toInt ≤ scrape.value metric ∧
    scrape.value metric ≤ (after.registry.load metric).toInt
  /-- The routes stand in ascending order, none of them twice. -/
  ascending : (scrape.routes.map Prod.fst).Pairwise (· < ·)
  routes : ∀ route, before.registry.routeCounters.load route ≠ none →
    route ∈ scrape.routes.map Prod.fst
  counted : ∀ entry ∈ scrape.routes, (before.registry.routeCount entry.1).toInt ≤ entry.2.toInt ∧
    entry.2.toInt ≤ (after.registry.routeCount entry.1).toInt

/-- A scrape that is written reports what was counted. -/
theorem Sound.reports {before after : Metrics} (sound : scrape.Sound before.registry after)
    (written : scrape.stage = .written) : scrape.Reports before after where
  counters metric listed := by
    have todo : scrape.todo = [] := by rw [Scrape.todo, written]
    have loaded := sound.fixed metric listed
    rw [todo, List.append_nil] at loaded
    obtain ⟨value, loaded⟩ := exists_loaded loaded
    rw [sound.value_eq loaded]
    exact sound.between metric value loaded
  ascending := sound.routes_ascending
  routes route found := by
    have owes := sound.owes route found
    rw [Owes, written] at owes
    obtain ⟨value, loaded⟩ := exists_loaded owes
    exact List.mem_map.mpr ⟨(route, value), mem_routes.mpr loaded, rfl⟩
  counted := by
    rintro ⟨route, value⟩ member
    exact sound.between (.route route) value (mem_routes.mp member)

/-- A counter that a scrape has loaded is loaded by a later one, and is no less there. -/
theorem Sound.loaded_later {before after : Metrics} {earlier : Scrape} {first : Registry}
    (soundEarlier : earlier.Sound first before)
    (sound : scrape.Sound before.registry after) (written : scrape.stage = .written)
    {metric : Metric} {value : Int64} (loaded : (metric, value) ∈ earlier.loaded) :
    ∃ larger, (metric, larger) ∈ scrape.loaded ∧ value.toInt ≤ larger.toInt := by
  have todo : scrape.todo = [] := by rw [Scrape.todo, written]
  have again : metric ∈ scrape.metrics := by
    by_cases always : metric ∈ scraped
    · have listed := sound.fixed metric always
      rwa [todo, List.append_nil] at listed
    · cases metric with
      | latencySumMicros =>
          -- There was something to divide by, and so there is still.
          obtain ⟨count, counted, positive⟩ :=
            soundEarlier.sum.mp (List.mem_append_left _ (mem_metrics loaded))
          have fixed := sound.fixed .latencyCount (by decide)
          rw [todo, List.append_nil] at fixed
          obtain ⟨now, shown⟩ := exists_loaded fixed
          have more := (soundEarlier.between _ _ counted).2.trans (sound.between _ _ shown).1
          have listed := sound.sum.mpr ⟨now, shown, Int64.lt_iff_toInt_lt.mpr
            ((Int64.lt_iff_toInt_lt.mp positive).trans_le more)⟩
          rwa [todo, List.append_nil] at listed
      | route route =>
          have owes := sound.owes route
            (soundEarlier.known route (List.mem_append_left _ (mem_metrics loaded)))
          rwa [Owes, written] at owes
      | latencyCount | requestsTotal | proxiedTotal | rateLimitedTotal | unauthorizedTotal =>
          exact absurd (by decide) always
  obtain ⟨larger, shown⟩ := exists_loaded again
  exact ⟨larger, shown,
    (soundEarlier.between _ _ loaded).2.trans (sound.between _ _ shown).1⟩

/-- Nothing that one scrape shows is missing in the other, or less. -/
structure Below (earlier later : Scrape) : Prop where
  values : ∀ metric, earlier.value metric ≤ later.value metric
  routes : ∀ entry ∈ earlier.routes, ∃ value, (entry.1, value) ∈ later.routes ∧
    entry.2.toInt ≤ value.toInt

end Scrape

namespace Monitor

variable {first later labels : List MonitorLabel} {mid final : Monitor} {index other : Nat}
  {earlier scrape : Scrape}

/-- In a run from the start everything is sound, and there is room for more. -/
theorem since_of_run (inRange : InRange (first ++ later))
    (run : monitorMachine.exec {} first = some mid) :
    mid.Since {} (fun _ => True) ((later.map weight).sum + 0) := by
  obtain ⟨small, timely⟩ := inRange
  rw [List.map_append, List.sum_append] at small
  have start : Since {} (fun _ => True) ((first.map weight).sum + ((later.map weight).sum + 0))
      {} := by
    refine ⟨Metrics.fits_start (by omega), .refl _, fun index scrape _ found => ?_⟩
    cases found
  exact start.run (by omega) (fun label member => timely label (List.mem_append_left _ member)) run

/-- A scrape that begins after another has been written shows at least as much. -/
theorem scrape_reports (inRange : InRange (first ++ later))
    (run : monitorMachine.exec {} first = some mid)
    (rerun : monitorMachine.exec mid later = some final) (begun : mid.scrapes.length ≤ other)
    (foundOther : final.scrapes[other]? = some scrape) (written : scrape.stage = .written) :
    scrape.Reports mid.metrics final.metrics ∧
      ∀ earlier ∈ mid.scrapes, earlier.stage = .written → earlier.Below scrape := by
  have before := since_of_run inRange run
  have fresh : ∀ (index : Nat) (scrape : Scrape), mid.scrapes.length ≤ index →
      mid.scrapes[index]? = some scrape → scrape = {} := by
    intro index scrape absent found
    rw [List.getElem?_eq_none absent] at found
    cases found
  have after := (since_start before.fits fresh).run (Int.le_refl 0)
    (fun label member => inRange.timely label (List.mem_append_right _ member)) rerun
  have sound := after.sound other scrape begun foundOther
  refine ⟨sound.reports written, fun earlier member _ => ⟨fun metric => ?_, fun entry shown => ?_⟩⟩
  · obtain ⟨index, found⟩ := List.getElem?_of_mem member
    have soundEarlier := before.sound index earlier trivial found
    by_cases shown : metric ∈ earlier.metrics
    · obtain ⟨value, loaded⟩ := Scrape.exists_loaded shown
      obtain ⟨larger, again, le⟩ := soundEarlier.loaded_later sound written loaded
      rwa [soundEarlier.value_eq loaded, sound.value_eq again]
    · rw [Scrape.value_of_not_mem shown]
      by_cases shownLater : metric ∈ scrape.metrics
      · obtain ⟨value, loaded⟩ := Scrape.exists_loaded shownLater
        rw [sound.value_eq loaded]
        exact (before.fits.nonneg metric).trans (sound.between metric value loaded).1
      · exact (Scrape.value_of_not_mem shownLater).ge
  · obtain ⟨index, found⟩ := List.getElem?_of_mem member
    obtain ⟨larger, again, le⟩ := (before.sound index earlier trivial found).loaded_later sound
      written (Scrape.mem_routes.mp (show (entry.1, entry.2) ∈ earlier.routes from shown))
    exact ⟨larger, Scrape.mem_routes.mpr again, le⟩

/-- A request is counted, and is scraped before its route has a counter. -/
def oneScrape : List MonitorLabel :=
  [.metrics (.observeRequest ⟨"auth", 200, 1500000⟩), .metrics (.operation 0),
    .metrics (.operation 0), .metrics (.operation 0), .scrape, .proceed 0, .proceed 0, .proceed 0,
    .metrics .observeRequestStarted, .proceed 0, .proceed 0, .proceed 0, .proceed 0,
    .metrics (.operation 0), .metrics (.operation 0), .proceed 0]

/-- The next scrape shows the route, while another request is observed, which adds its time
between the loads of the count and of the sum. -/
def nextScrape : List MonitorLabel :=
  [.scrape, .metrics (.observeRequest ⟨"risk", 200, 500000⟩), .metrics (.operation 1),
    .proceed 1, .metrics (.operation 1), .proceed 1, .proceed 1, .proceed 1, .proceed 1,
    .proceed 1, .proceed 1, .metrics (.operation 0), .visit 1 "auth", .proceed 1]

def afterOne : Monitor := (monitorMachine.exec {} oneScrape).getD {}

def afterNext : Monitor := (monitorMachine.exec afterOne nextScrape).getD {}

def nextShown : Scrape := afterNext.scrapes.getD 1 {}

/-- The two scrapes count little. -/
theorem inRange_scrapes : InRange (oneScrape ++ nextScrape) :=
  ⟨by decide +kernel, by decide +kernel⟩

/-- The second scrape shows no less than the first. -/
theorem scrape_reports_next :
    nextShown.Reports afterOne.metrics afterNext.metrics ∧
      ∀ earlier ∈ afterOne.scrapes, earlier.stage = .written → earlier.Below nextShown :=
  scrape_reports inRange_scrapes rfl rfl (show afterOne.scrapes.length ≤ 1 by decide +kernel) rfl
    rfl

/-- The scrape has loaded this value. -/
def HasLoaded (index : Nat) (entry : Metric × Int64) (monitor : Monitor) : Prop :=
  ∃ scrape, monitor.scrapes[index]? = some scrape ∧ entry ∈ scrape.loaded

/-- What was loaded stays so when the scrape goes on. -/
theorem loaded_proceed {registry : Registry} {before after : Scrape} {entry : Metric × Int64}
    (step : before.proceed registry = some after) (loaded : entry ∈ before.loaded) :
    entry ∈ after.loaded := by
  unfold Scrape.proceed at step
  split at step
  · obtain rfl := Option.some.inj step
    exact List.mem_append_left _ loaded
  · obtain rfl := Option.some.inj step
    exact loaded
  · obtain rfl := Option.some.inj step
    exact loaded
  · cases step
  · cases step

theorem loaded_visit {registry : Registry} {route : String} {before after : Scrape}
    {entry : Metric × Int64} (step : before.visit registry route = some after)
    (loaded : entry ∈ before.loaded) : entry ∈ after.loaded := by
  unfold Scrape.visit at step
  split at step
  · obtain ⟨_, same⟩ := Option.ite_none_right_eq_some.mp step
    obtain rfl := Option.some.inj same
    exact List.mem_append_left _ loaded
  · cases step
  · cases step

/-- What one scrape is replaced by keeps what every scrape has loaded. -/
theorem HasLoaded.set {entry : Metric × Int64} (loaded : mid.HasLoaded index entry)
    {before after : Scrape} (found : mid.scrapes[other]? = some before)
    (keeps : entry ∈ before.loaded → entry ∈ after.loaded) :
    HasLoaded index entry { mid with scrapes := mid.scrapes.set other after } := by
  obtain ⟨held, present, member⟩ := loaded
  by_cases own : other = index
  · subst own
    obtain rfl := Option.some.inj (present.symm.trans found)
    exact ⟨after, List.getElem?_set_self (List.getElem?_eq_some_iff.mp found).1, keeps member⟩
  · exact ⟨held, (List.getElem?_set_ne own).trans present, member⟩

/-- What a scrape has loaded it keeps. -/
theorem HasLoaded.run {entry : Metric × Int64} (loaded : mid.HasLoaded index entry)
    (run : monitorMachine.exec mid later = some final) : final.HasLoaded index entry := by
  refine Machine.final_of_preserved ?_ loaded run
  intro monitor label next loaded step
  cases label with
  | metrics label =>
      obtain ⟨metrics, _, rfl⟩ := Option.map_eq_some_iff.mp step
      exact loaded
  | scrape =>
      obtain rfl := Option.some.inj step
      obtain ⟨held, present, member⟩ := loaded
      have inside := (List.getElem?_eq_some_iff.mp present).1
      exact ⟨held, (List.getElem?_append_left inside).trans present, member⟩
  | proceed other =>
      obtain ⟨before, found, step⟩ := Option.bind_eq_some_iff.mp step
      obtain ⟨after, proceeds, rfl⟩ := Option.map_eq_some_iff.mp step
      exact loaded.set found (loaded_proceed proceeds)
  | visit other route =>
      obtain ⟨before, found, step⟩ := Option.bind_eq_some_iff.mp step
      obtain ⟨after, visits, rfl⟩ := Option.map_eq_some_iff.mp step
      exact loaded.set found (loaded_visit visits)

end Monitor

end Sentinel.Gateway
