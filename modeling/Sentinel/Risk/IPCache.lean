import Sentinel.Risk.IPIntelligence
import Sentinel.Semantics.Expiring
import Sentinel.Semantics.Machine

/-!
# The cache of the address lookups

`_get_or_fetch` cut at its calls of Redis and of the lookup service, as requests run
it at once. `served_of_run` says where the data of a call come from and how long ago
they were cached, and `fetching_iff` when a call asks the lookup service.
-/

namespace Sentinel.Risk

open Sentinel.Wire Sentinel.Semantics

/-- The key under which the data of an address are cached. -/
def intelKey (ip : String) : String := "ip_intel:" ++ ip

/-- Different addresses have different keys. -/
theorem intelKey_inj {ip other : String} : intelKey ip = intelKey other ↔ ip = other := by
  constructor
  · intro same
    have chars := congrArg String.toList same
    rw [intelKey, intelKey, String.toList_append, String.toList_append] at chars
    exact String.toList_injective (List.append_cancel_left chars)
  · exact congrArg intelKey

/-- An answer of the lookup service that has been put into the cache. -/
structure StoredReply where
  ip : String
  outcome : LookupOutcome
  /-- When the answer arrived, and when `setex` wrote it. -/
  fetched : Int
  stored : Int

def StoredReply.data (reply : StoredReply) : Json := IPIntelligence.fetchIPData reply.outcome

/-- Where a call of `_get_or_fetch` is. -/
inductive IPPhase where
  | arrived
  | fetching
  /-- The answer is still to be written to the cache. -/
  | storing (outcome : LookupOutcome) (fetched : Int)
  /-- From the lookup of the call itself. -/
  | returned (data : Json) (outcome : LookupOutcome)
  /-- From the cache; the last write under its key goes along with it. -/
  | served (data : Json) (reply : Option StoredReply) (now : Int)
  /-- Redis has failed, or its entry cannot be loaded. -/
  | raised

structure IPCall where
  ip : String
  phase : IPPhase := .arrived

/-- Redis and all calls so far, with what has been stored, the newest first. -/
structure IPCache where
  clock : Int := 0
  redis : Expiring String String := fun _ => none
  calls : List IPCall := []
  stored : List StoredReply := []

inductive IPLabel where
  | wait (elapsed : Nat)
  | call (ip : String)
  | get (index : Nat)
  | answer (index : Nat) (outcome : LookupOutcome)
  | setex (index : Nat)
  | raise (index : Nat)

namespace IPCache

variable (python : PythonJson) (ttl : Int)

/-- The answer that was stored last for an address. -/
def latest (cache : IPCache) (ip : String) : Option StoredReply :=
  cache.stored.find? fun reply => reply.ip = ip

/-- What Redis holds for an address. -/
def cached (cache : IPCache) (ip : String) : Option CacheContent :=
  (cache.redis.get cache.clock (intelKey ip)).map CacheContent.text

/-- What a call finds in the cache. -/
def read (cache : IPCache) (ip : String) : IPIntelligence.CacheRead :=
  IPIntelligence.readCache python (cache.cached ip)

def enter (cache : IPCache) (index : Nat) (call : IPCall) (phase : IPPhase) : IPCache :=
  { cache with calls := cache.calls.set index { call with phase } }

/-- `redis.get`, and the return when there are data in the cache. -/
def get (cache : IPCache) (index : Nat) (call : IPCall) : Option IPCache :=
  match call.phase with
  | .arrived =>
      match cache.read python call.ip with
      | .found data => cache.enter index call (.served data (cache.latest call.ip) cache.clock)
      | .missing => cache.enter index call .fetching
      | .raised => cache.enter index call .raised
  | _ => none

/-- `_fetch_ip_data` comes back; without data the call returns. -/
def answer (outcome : LookupOutcome) (cache : IPCache) (index : Nat) (call : IPCall) :
    Option IPCache :=
  match call.phase with
  | .fetching =>
      let data := IPIntelligence.fetchIPData outcome
      if data.truthy then cache.enter index call (.storing outcome cache.clock)
      else cache.enter index call (.returned data outcome)
  | _ => none

/-- `redis.setex`, and the return. -/
def setex (cache : IPCache) (index : Nat) (call : IPCall) : Option IPCache :=
  match call.phase with
  | .storing outcome fetched =>
      let data := IPIntelligence.fetchIPData outcome
      some { cache.enter index call (.returned data outcome) with
        redis := cache.redis.set (intelKey call.ip) (python.dumps data) (cache.clock + ttl)
        stored := ⟨call.ip, outcome, fetched, cache.clock⟩ :: cache.stored }
  | _ => none

def raise (cache : IPCache) (index : Nat) (call : IPCall) : Option IPCache :=
  match call.phase with
  | .arrived | .storing _ _ => cache.enter index call .raised
  | _ => none

def step (cache : IPCache) : IPLabel → Option IPCache
  | .wait elapsed => some { cache with clock := cache.clock + elapsed }
  | .call ip => some { cache with calls := cache.calls ++ [{ ip }] }
  | .get index => cache.calls[index]?.bind (cache.get python index)
  | .answer index outcome => cache.calls[index]?.bind (cache.answer outcome index)
  | .setex index => cache.calls[index]?.bind (cache.setex python ttl index)
  | .raise index => cache.calls[index]?.bind (cache.raise index)

end IPCache

def ipMachine (python : PythonJson) (ttl : Int) : Machine IPCache IPLabel :=
  ⟨IPCache.step python ttl⟩

/-- `json.loads` reads back what `json.dumps` has made of the data, which is no empty text. -/
structure ReadsBackJson (python : PythonJson) (data : Json) : Prop where
  loads_dumps : python.loads (python.dumps data) = .value data
  dumps_ne : python.dumps data ≠ ""

/-- The data of all answers can be dumped and loaded again. -/
def Loadable (python : PythonJson) : IPLabel → Prop
  | .answer _ outcome => ReadsBackJson python (IPIntelligence.fetchIPData outcome)
  | .wait _ | .call _ | .get _ | .setex _ | .raise _ => True

namespace StoredReply

/-- An answer that is data: a document with something in it, under the status 200. -/
structure Sound (python : PythonJson) (reply : StoredReply) (clock : Int) : Prop where
  answered : ∃ body, reply.outcome = .answered 200 (some body) ∧ reply.data = body
  truthy : reply.data.truthy = true
  dumped : ReadsBackJson python reply.data
  fetched : reply.fetched ≤ reply.stored
  stored : reply.stored ≤ clock

/-- A stored reply stays sound as time passes. -/
theorem Sound.later {python : PythonJson} {reply : StoredReply} {clock later : Int}
    (sound : reply.Sound python clock) (after : clock ≤ later) : reply.Sound python later :=
  ⟨sound.answered, sound.truthy, sound.dumped, sound.fetched, sound.stored.trans after⟩

/-- What is not empty comes from a document under the status 200. -/
theorem answered_of_truthy {outcome : LookupOutcome}
    (truthy : (IPIntelligence.fetchIPData outcome).truthy = true) :
    ∃ body, outcome = .answered 200 (some body) ∧ IPIntelligence.fetchIPData outcome = body := by
  cases outcome with
  | raised => cases truthy
  | answered status body =>
      simp only [IPIntelligence.fetchIPData] at truthy ⊢
      split at truthy
      · rename_i ok
        cases body with
        | none => cases truthy
        | some body => exact ⟨body, ok ▸ rfl, if_pos ok⟩
      · cases truthy

/-- The write to the cache. -/
def write (python : PythonJson) (ttl : Int) (reply : StoredReply) :
    Expiring.Write String String :=
  ⟨intelKey reply.ip, python.dumps reply.data, reply.stored + ttl⟩

end StoredReply

namespace IPCall

/-- What has become of a call. -/
def Accounted (python : PythonJson) (ttl clock : Int) (call : IPCall) : Prop :=
  match call.phase with
  | .storing outcome fetched =>
      (IPIntelligence.fetchIPData outcome).truthy = true ∧
        ReadsBackJson python (IPIntelligence.fetchIPData outcome) ∧ fetched ≤ clock
  | .returned data outcome => data = IPIntelligence.fetchIPData outcome
  | .served data reply now => ∃ stored, reply = some stored ∧ stored.ip = call.ip ∧
      stored.data = data ∧ stored.Sound python now ∧ now ≤ clock ∧ now < stored.stored + ttl
  | .arrived | .fetching | .raised => True

/-- What accounts for a call's answer accounts for it later. -/
theorem Accounted.later {python : PythonJson} {ttl clock later : Int} {call : IPCall}
    (accounted : call.Accounted python ttl clock) (after : clock ≤ later) :
    call.Accounted python ttl later := by
  obtain ⟨ip, phase⟩ := call
  cases phase with
  | storing outcome fetched =>
      obtain ⟨truthy, dumped, past⟩ := accounted
      exact ⟨truthy, dumped, past.trans after⟩
  | served data reply now =>
      obtain ⟨stored, same, own, read, sound, past, alive⟩ := accounted
      exact ⟨stored, same, own, read, sound, past.trans after, alive⟩
  | returned data outcome => exact accounted
  | arrived | fetching | raised => trivial

end IPCall

namespace IPCache

variable {python : PythonJson} {ttl : Int} {cache next : IPCache}

/-- Redis holds what was stored, in the order of time. -/
structure Inv (python : PythonJson) (ttl : Int) (cache : IPCache) : Prop where
  agrees : cache.redis.Agrees (cache.stored.map (StoredReply.write python ttl))
  sound : ∀ reply ∈ cache.stored, reply.Sound python cache.clock
  ordered : cache.stored.Pairwise fun newer older => older.stored ≤ newer.stored
  accounted : ∀ call ∈ cache.calls, call.Accounted python ttl cache.clock

/-- Nothing is stored in the empty cache. -/
theorem inv_start : Inv python ttl {} where
  agrees := Expiring.agrees_empty
  sound := nofun
  ordered := .nil
  accounted := nofun

/-- The last write under an address's key is its latest stored reply. -/
theorem last_eq_latest (stored : List StoredReply) (ip : String) :
    Expiring.last (stored.map (StoredReply.write python ttl)) (intelKey ip) =
      (stored.find? fun reply => reply.ip = ip).map (StoredReply.write python ttl) := by
  induction stored with
  | nil => rfl
  | cons reply rest ih =>
      rw [List.map_cons, Expiring.last_cons, ih]
      by_cases own : reply.ip = ip
      · simp [own, StoredReply.write]
      · simp [own, StoredReply.write, intelKey_inj]

/-- A GET finds the latest reply of the address, until it expires. -/
theorem Inv.get_iff (inv : cache.Inv python ttl) {ip text : String} :
    cache.redis.get cache.clock (intelKey ip) = some text ↔
      ∃ reply, cache.latest ip = some reply ∧ python.dumps reply.data = text ∧
        cache.clock < reply.stored + ttl := by
  rw [inv.agrees.get_iff, last_eq_latest]
  constructor
  · rintro ⟨write, found, value, alive⟩
    obtain ⟨reply, isLatest, rfl⟩ := Option.map_eq_some_iff.mp found
    exact ⟨reply, isLatest, value, alive⟩
  · rintro ⟨reply, isLatest, value, alive⟩
    exact ⟨_, congrArg (Option.map _) isLatest, value, alive⟩

/-- What a call finds in the cache are the data stored last, while they live; everything
in it can be loaded. -/
theorem Inv.read_cases (inv : cache.Inv python ttl) (ip : String) :
    cache.read python ip = .missing ∧ cache.redis.get cache.clock (intelKey ip) = none ∨
      ∃ reply, cache.latest ip = some reply ∧ cache.read python ip = .found reply.data ∧
        cache.clock < reply.stored + ttl := by
  cases held : cache.redis.get cache.clock (intelKey ip) with
  | none =>
      refine .inl ⟨?_, rfl⟩
      rw [read, cached, held]
      rfl
  | some text =>
      obtain ⟨reply, isLatest, rfl, alive⟩ := inv.get_iff.mp held
      have dumped := (inv.sound reply (List.mem_of_find?_eq_some isLatest)).dumped
      refine .inr ⟨reply, isLatest, ?_, alive⟩
      rw [read, cached, held]
      simp only [Option.map_some, IPIntelligence.readCache, if_neg dumped.dumps_ne,
        dumped.loads_dumps]

/-- A call enters another phase, and all else stays. -/
theorem Inv.enter (inv : cache.Inv python ttl) {index : Nat} {call : IPCall} {phase : IPPhase}
    (accounted : IPCall.Accounted python ttl cache.clock { call with phase }) :
    (cache.enter index call phase).Inv python ttl where
  agrees := inv.agrees
  sound := inv.sound
  ordered := inv.ordered
  accounted other member := by
    rcases List.mem_or_eq_of_mem_set member with old | rfl
    · exact inv.accounted other old
    · exact accounted

/-- A GET keeps the invariant. -/
theorem Inv.get (inv : cache.Inv python ttl) {index : Nat} {call : IPCall}
    (step : cache.get python index call = some next) : next.Inv python ttl := by
  unfold IPCache.get at step
  split at step
  · rcases inv.read_cases call.ip with ⟨missing, _⟩ | ⟨reply, isLatest, found, alive⟩
    · rw [missing] at step
      obtain rfl := Option.some.inj step
      exact inv.enter trivial
    · rw [found] at step
      obtain rfl := Option.some.inj step
      have listed := List.mem_of_find?_eq_some isLatest
      have own : reply.ip = call.ip := by simpa using List.find?_some isLatest
      exact inv.enter ⟨reply, isLatest, own, rfl, inv.sound reply listed, Int.le_refl _, alive⟩
  · cases step

theorem Inv.answer (inv : cache.Inv python ttl) {index : Nat} {call : IPCall}
    {outcome : LookupOutcome} (dumped : ReadsBackJson python (IPIntelligence.fetchIPData outcome))
    (step : cache.answer outcome index call = some next) : next.Inv python ttl := by
  unfold IPCache.answer at step
  split at step
  · dsimp only at step
    split at step
    · rename_i truthy
      obtain rfl := Option.some.inj step
      exact inv.enter ⟨truthy, dumped, Int.le_refl _⟩
    · obtain rfl := Option.some.inj step
      exact inv.enter rfl
  · cases step

theorem Inv.setex (inv : cache.Inv python ttl) {index : Nat} {call : IPCall}
    (found : cache.calls[index]? = some call)
    (step : cache.setex python ttl index call = some next) : next.Inv python ttl := by
  have accounted := inv.accounted call (List.mem_of_getElem? found)
  unfold IPCache.setex at step
  split at step
  · rename_i outcome fetched phase
    rw [IPCall.Accounted, phase] at accounted
    obtain ⟨truthy, dumped, past⟩ := accounted
    obtain ⟨body, answered, same⟩ := StoredReply.answered_of_truthy truthy
    obtain rfl := Option.some.inj step
    have entered : (cache.enter index call (.returned (IPIntelligence.fetchIPData outcome)
        outcome)).Inv python ttl := inv.enter rfl
    refine ⟨?_, fun reply member => ?_, ?_, entered.accounted⟩
    · exact inv.agrees.set (StoredReply.write python ttl ⟨call.ip, outcome, fetched, cache.clock⟩)
    · rcases List.mem_cons.mp member with rfl | old
      · exact ⟨⟨body, answered, same⟩, truthy, dumped, past, Int.le_refl _⟩
      · exact inv.sound reply old
    · exact List.pairwise_cons.mpr ⟨fun older member => (inv.sound older member).stored,
        inv.ordered⟩
  · cases step

/-- Every step keeps the invariant. -/
theorem Inv.step (inv : cache.Inv python ttl) {label : IPLabel} (loadable : Loadable python label)
    (step : cache.step python ttl label = some next) : next.Inv python ttl := by
  cases label with
  | wait elapsed =>
      obtain rfl := Option.some.inj step
      have after : cache.clock ≤ cache.clock + elapsed := by omega
      exact ⟨inv.agrees, fun reply member => (inv.sound reply member).later after, inv.ordered,
        fun call member => (inv.accounted call member).later after⟩
  | call ip =>
      obtain rfl := Option.some.inj step
      refine ⟨inv.agrees, inv.sound, inv.ordered, fun call member => ?_⟩
      rcases List.mem_append.mp member with old | new
      · exact inv.accounted call old
      · obtain rfl := List.mem_singleton.mp new
        trivial
  | get index =>
      obtain ⟨call, _, moves⟩ := Option.bind_eq_some_iff.mp step
      exact inv.get moves
  | answer index outcome =>
      obtain ⟨call, _, moves⟩ := Option.bind_eq_some_iff.mp step
      exact inv.answer loadable moves
  | setex index =>
      obtain ⟨call, found, moves⟩ := Option.bind_eq_some_iff.mp step
      exact inv.setex found moves
  | raise index =>
      obtain ⟨call, _, moves⟩ := Option.bind_eq_some_iff.mp step
      unfold IPCache.raise at moves
      split at moves
      · obtain rfl := Option.some.inj moves
        exact inv.enter trivial
      · obtain rfl := Option.some.inj moves
        exact inv.enter trivial
      · cases moves

/-- So it holds after every run. -/
theorem inv_run {labels : List IPLabel} {final : IPCache}
    (loadable : ∀ label ∈ labels, Loadable python label)
    (run : (ipMachine python ttl).exec {} labels = some final) : final.Inv python ttl := by
  have along : (ipMachine python ttl).Along (Inv python ttl) {} labels :=
    Machine.along_of_guarded (fun inv allowed step => Inv.step inv allowed step) inv_start
      (Machine.guarded_of_forall (fun label member _ => loadable label member) _)
  exact along.final run

/-- Whatever the calls do at the same time, one that asks no lookup service returns data
that the service has given for the same address, and that were written to the cache less
than their lifetime ago. -/
theorem served_of_run (python : PythonJson) (ttl : Int) (labels : List IPLabel) (final : IPCache)
    (loadable : ∀ label ∈ labels, Loadable python label)
    (run : (ipMachine python ttl).exec {} labels = some final) :
    ∀ call ∈ final.calls, call.Accounted python ttl final.clock :=
  (inv_run loadable run).accounted

/-- What one call makes of the cache by itself, as the steps make it. -/
theorem getOrFetch_eq (ip : String) (outcome : LookupOutcome) :
    (IPIntelligence.getOrFetch python (cache.cached ip) outcome).1 =
      match cache.read python ip with
      | .found data => some data
      | .missing => some (IPIntelligence.fetchIPData outcome)
      | .raised => none := by
  rw [IPIntelligence.getOrFetch, read]
  cases IPIntelligence.readCache python (cache.cached ip) <;> rfl

/-- There is nothing in the cache for an address for which nothing stored is alive. -/
theorem Inv.missing_iff (inv : cache.Inv python ttl) {ip : String} :
    cache.read python ip = .missing ↔
      ∀ reply ∈ cache.stored, reply.ip = ip → reply.stored + ttl ≤ cache.clock := by
  rcases inv.read_cases ip with ⟨missing, nothing⟩ | ⟨reply, isLatest, found, alive⟩
  · refine ⟨fun _ reply member own => ?_, fun _ => missing⟩
    by_contra living
    have ordered : (cache.stored.map (StoredReply.write python ttl)).Pairwise
        fun newer older => older.expiry ≤ newer.expiry :=
      List.pairwise_map.mpr (inv.ordered.imp fun le => Int.add_le_add_right le ttl)
    obtain ⟨text, held⟩ := inv.agrees.isSome_of_mem ordered (List.mem_map_of_mem member)
      (Int.not_le.mp living)
    have same : cache.redis.get cache.clock (intelKey ip) = some text := own ▸ held
    rw [nothing] at same
    cases same
  · rw [found]
    refine ⟨nofun, fun expired => ?_⟩
    have own : reply.ip = ip := by simpa using List.find?_some isLatest
    have dead := expired reply (List.mem_of_find?_eq_some isLatest) own
    omega

/-- A call asks the lookup service exactly when no call has stored data for its address
within the lifetime. -/
theorem fetching_iff (python : PythonJson) (ttl : Int) (labels : List IPLabel)
    (loadable : ∀ label ∈ labels, Loadable python label)
    (run : (ipMachine python ttl).exec {} labels = some cache) {index : Nat} {call : IPCall}
    (called : cache.calls[index]? = some call)
    (step : cache.step python ttl (.get index) = some next) :
    next.calls[index]? = some { call with phase := .fetching } ↔
      ∀ reply ∈ cache.stored, reply.ip = call.ip → reply.stored + ttl ≤ cache.clock := by
  rw [← (inv_run loadable run).missing_iff]
  obtain ⟨other, same, moves⟩ := Option.bind_eq_some_iff.mp step
  obtain rfl := Option.some.inj (called.symm.trans same)
  have inside := (List.getElem?_eq_some_iff.mp called).1
  unfold IPCache.get at moves
  split at moves
  · cases found : cache.read python call.ip <;>
    · rw [found] at moves
      obtain rfl := Option.some.inj moves
      rw [IPCache.enter, List.getElem?_set_self inside]
      simp
  · cases moves

/-- The one answer that is met below, as text and as a document. -/
def proxyText : String := "\x7b\"proxy\": true\x7d"

def proxyData : Json := .obj [("proxy", .bool true)]

def proxyJson : PythonJson where
  loads text := if text = proxyText then .value proxyData else .valueError
  dumps _ := proxyText
  lower text := text
  lower_plain _ _ := rfl

/-- A second request for an address, a minute later. -/
def twoRequests : List IPLabel :=
  [.call "8.8.8.8", .get 0, .answer 0 (.answered 200 (some proxyData)), .setex 0, .wait 60,
    .call "8.8.8.8"]

/-- In the example every reply can be read back. -/
theorem loadable_twoRequests :
    ∀ label ∈ twoRequests ++ [.get 1], Loadable proxyJson label := by
  simp only [twoRequests, List.cons_append, List.nil_append, List.forall_mem_cons, Loadable,
    true_and]
  have loads : proxyJson.loads proxyText = .value proxyData := by simp [proxyJson]
  exact ⟨⟨loads, (by decide : proxyText ≠ "")⟩, nofun⟩

def afterTwo : IPCache := ((ipMachine proxyJson 3600).exec {} twoRequests).getD {}

def secondServed : IPCache := (afterTwo.step proxyJson 3600 (.get 1)).getD {}

/-- The second request is served from what the first one stored. -/
theorem served_second :
    ∃ call, secondServed.calls[1]? = some call ∧
      call.Accounted proxyJson 3600 secondServed.clock := by
  have second : ∃ call, secondServed.calls[1]? = some call := ⟨_, by rfl⟩
  obtain ⟨call, found⟩ := second
  exact ⟨call, found,
    served_of_run proxyJson 3600 (twoRequests ++ [.get 1]) secondServed loadable_twoRequests
      (by rfl) call (List.mem_of_getElem? found)⟩

/-- It would ask the service only if no reply were in its time. -/
theorem fetching_second :
    secondServed.calls[1]? = some { ip := "8.8.8.8", phase := .fetching } ↔
      ∀ reply ∈ afterTwo.stored, reply.ip = "8.8.8.8" → reply.stored + 3600 ≤ afterTwo.clock :=
  fetching_iff proxyJson 3600 twoRequests
    (fun label member => loadable_twoRequests label (List.mem_append_left _ member)) (by rfl)
    (show afterTwo.calls[1]? = some { ip := "8.8.8.8" } by rfl) (by rfl)

end IPCache

end Sentinel.Risk
