import Sentinel.Risk.Extractor
import Sentinel.Semantics.Machine

/-!
# One view of an address

A scoring request looks its address up three times: for the aggregator and, in
another task, for the reputation feature and then for the flags. Each time it
reads the cache and, without a usable entry, asks the lookup service and caches
what that answers. `oneView_of_guarded` says when one decision sees one address.
-/

namespace Sentinel.Risk

open Sentinel.Wire Sentinel.Semantics IPIntelligence

/-- The calls of a request that look its address up. -/
inductive AddressCall where
  /-- `ip_intel.score`, for the aggregator -/
  | ipScore
  /-- `self.ip_intelligence.score` in `extract` -/
  | reputation
  /-- `self.ip_intelligence.get_flags` in `extract` -/
  | flags
deriving DecidableEq

/-- Where a call stands in `_get_or_fetch`. -/
inductive LookupPhase where
  | reading
  | fetching
  | caching (data : Json)
  | returned (data : Json)
  | raised

/-- The data that the call has got. -/
def LookupPhase.data : LookupPhase → Option Json
  | .caching data | .returned data => some data
  | .reading | .fetching | .raised => none

/-- The entry of the address in the cache, and the calls of the request. -/
structure AddressState where
  cached : Option CacheContent
  phases : AddressCall → LookupPhase

inductive AddressLabel where
  /-- `redis.get` -/
  | read (call : AddressCall) (raises : Bool)
  | answer (call : AddressCall) (outcome : LookupOutcome)
  /-- `redis.setex` -/
  | store (call : AddressCall) (raises : Bool)
  /-- The entry expires. -/
  | expire
  /-- Something else is written under the key. -/
  | replace (content : CacheContent)

/-- The block of `extract` about the address, by the data of its two calls. -/
def withBrought (python : PythonJson) (forScore forFlags : Option Json) (features : Features) :
    Features :=
  match forScore.bind (computeScore python) with
  | none => features
  | some risk =>
      let features := { features with ipReputationScore := .finite risk }
      match forFlags.bind (IPIntelligence.flags python) with
      | none => features
      | some flags =>
          { features with
            ipIsVpn := .ofBool flags.ipIsVpn
            ipIsTor := .ofBool flags.ipIsTor
            ipIsDatacenter := .ofBool flags.ipIsDatacenter
            ipIsProxy := .ofBool flags.ipIsProxy }

/-- What the feature vector shows of an address: the score, and the flags from its own
read. -/
theorem withIntelligence_eq (python : ExtractorPython) (cached : Option CacheContent)
    (forScore forFlags : LookupOutcome) {ipAddress : String} (known : ipAddress ≠ "")
    (features : Features) :
    FeatureExtractor.withIntelligence python cached forScore forFlags ipAddress features =
      let scored := getOrFetch python.toPythonJson cached forScore
      let flagged := getOrFetch python.toPythonJson scored.2 forFlags
      withBrought python.toPythonJson scored.1 flagged.1 features := by
  simp only [FeatureExtractor.withIntelligence, if_neg known, withBrought]
  rfl

namespace AddressState

variable (python : PythonJson)

def start (cached : Option CacheContent) : AddressState := ⟨cached, fun _ => .reading⟩

def put (state : AddressState) (call : AddressCall) (phase : LookupPhase) : AddressState :=
  { state with phases := Function.update state.phases call phase }

/-- The flags are looked up once there is a reputation; the other two calls start at
once, each in its task. -/
def begun (state : AddressState) : AddressCall → Bool
  | .flags =>
      match state.phases .reputation with
      | .returned data => (computeScore python data).isSome
      | _ => false
  | .ipScore | .reputation => true

def step (state : AddressState) : AddressLabel → Option AddressState
  | .read call raises =>
      match state.phases call with
      | .reading =>
          if state.begun python call then
            if raises then some (state.put call .raised)
            else
              match readCache python state.cached with
              | .found data => some (state.put call (.returned data))
              | .missing => some (state.put call .fetching)
              | .raised => some (state.put call .raised)
          else none
      | _ => none
  | .answer call outcome =>
      match state.phases call with
      | .fetching =>
          let data := fetchIPData outcome
          some (state.put call (if data.truthy then .caching data else .returned data))
      | _ => none
  | .store call raises =>
      match state.phases call with
      | .caching data =>
          if raises then some (state.put call .raised)
          else
            some { state.put call (.returned data) with
              cached := some (.text (python.dumps data)) }
      | _ => none
  | .expire => some { state with cached := none }
  | .replace content => some { state with cached := some content }

/-- The block of `extract` about the address is over. -/
def extracted (state : AddressState) : Bool :=
  match state.phases .reputation with
  | .raised => true
  | .returned data =>
      match computeScore python data, state.phases .flags with
      | none, _ | _, .raised | _, .returned _ => true
      | _, _ => false
  | _ => false

/-- `features` and `ip_score` in `score_request`, when both tasks have brought a
result: the aggregator goes on with these. -/
def gathered (state : AddressState) (features : Features) : Option (Features × ℚ) :=
  match state.phases .ipScore with
  | .returned data =>
      if state.extracted python then
        (computeScore python data).map fun ipScore =>
          (withBrought python (state.phases .reputation).data (state.phases .flags).data features,
            ipScore)
      else none
  | _ => none

/-- The score of the aggregator is the reputation that the rules and the model see,
and they see the flags of the lookup that it comes from. -/
def OneView (features : Features) (state : AddressState) : Prop :=
  ∀ extracted ipScore, state.gathered python features = some (extracted, ipScore) →
    extracted.ipReputationScore = .finite ipScore ∧
      ∃ data flags, state.phases .ipScore = .returned data ∧
        IPIntelligence.flags python data = some flags ∧
        extracted.ipIsVpn = .ofBool flags.ipIsVpn ∧ extracted.ipIsTor = .ofBool flags.ipIsTor ∧
        extracted.ipIsDatacenter = .ofBool flags.ipIsDatacenter ∧
        extracted.ipIsProxy = .ofBool flags.ipIsProxy

/-- Two replies say the same of the address: whether they say anything, and whether it is a
proxy, a hosting address and, by its `isp`, of TOR. -/
structure SameReport (data other : Json) : Prop where
  known : data.truthy = other.truthy
  proxy : (data.get "proxy" .null).map Json.truthy = (other.get "proxy" .null).map Json.truthy
  hosting : (data.get "hosting" .null).map Json.truthy =
    (other.get "hosting" .null).map Json.truthy
  tor : (data.get "isp" (.str "")).bind (mentionsTor python) =
    (other.get "isp" (.str "")).bind (mentionsTor python)

/-- The reply says the same as all that calls of the request have got before. -/
def Fits (state : AddressState) (data : Json) : Prop :=
  ∀ call known, (state.phases call).data = some known → SameReport python known data

/-- No call of `extract` fails at Redis or at a cache entry that cannot be loaded, and neither
an entry that is found nor an answer of the lookup service says anything else than those
before. -/
def BringsAlike (state : AddressState) : AddressLabel → Prop
  | .read call raises =>
      (call ≠ .ipScore → raises = false ∧ readCache python state.cached ≠ .raised) ∧
        ∀ data, readCache python state.cached = .found data → state.Fits python data
  | .answer _ outcome => state.Fits python (fetchIPData outcome)
  | .store call raises => call ≠ .ipScore → raises = false
  | .expire | .replace _ => True

structure Inv (state : AddressState) : Prop where
  answered : ∀ call, call ≠ .ipScore → state.phases call ≠ .raised
  alike : ∀ call data, (state.phases call).data = some data → state.Fits python data

variable {python}

/-- Every document reports the same as itself. -/
theorem SameReport.refl (data : Json) : SameReport python data data := ⟨rfl, rfl, rfl, rfl⟩

theorem SameReport.symm {data other : Json} (same : SameReport python data other) :
    SameReport python other data :=
  ⟨same.known.symm, same.proxy.symm, same.hosting.symm, same.tor.symm⟩

/-- The score is made of what the reply says. -/
theorem computeScore_eq (data : Json) :
    computeScore python data =
      ((data.get "proxy" .null).map Json.truthy).bind fun proxy =>
        ((data.get "hosting" .null).map Json.truthy).bind fun hosting =>
          ((data.get "isp" (.str "")).bind (mentionsTor python)).map fun tor =>
            min (if data.truthy then
              (if proxy then 35 else 0) + (if hosting then 30 else 0) + if tor then 40 else 0
            else 30) 100 := by
  cases data with
  | obj entries =>
      obtain ⟨proxy, hosting, isp, hasProxy, hasHosting, hasIsp, computed, -⟩ :=
        @readings python entries
      rw [computed, hasProxy, hasHosting, hasIsp]
      rfl
  | null | bool _ | num _ | str _ | time _ | arr _ => rfl

/-- And so are the flags. -/
theorem flags_eq (data : Json) :
    IPIntelligence.flags python data =
      ((data.get "proxy" .null).map Json.truthy).bind fun proxy =>
        ((data.get "hosting" .null).map Json.truthy).bind fun hosting =>
          ((data.get "isp" (.str "")).bind (mentionsTor python)).map fun tor =>
            ⟨proxy, tor, hosting, proxy⟩ := by
  cases data with
  | obj entries =>
      obtain ⟨proxy, hosting, isp, hasProxy, hasHosting, hasIsp, -, flagged⟩ :=
        @readings python entries
      rw [flagged, hasProxy, hasHosting, hasIsp]
      rfl
  | null | bool _ | num _ | str _ | time _ | arr _ => rfl

/-- Two documents with the same report have one score. -/
theorem SameReport.computeScore_eq {data other : Json} (same : SameReport python data other) :
    computeScore python data = computeScore python other := by
  rw [AddressState.computeScore_eq, AddressState.computeScore_eq, same.known, same.proxy,
    same.hosting, same.tor]

theorem SameReport.flags_eq {data other : Json} (same : SameReport python data other) :
    IPIntelligence.flags python data = IPIntelligence.flags python other := by
  rw [AddressState.flags_eq, AddressState.flags_eq, same.proxy, same.hosting, same.tor]

/-- Data that has a score has flags. -/
theorem flags_of_computeScore {data : Json} {risk : ℚ} (scored : computeScore python data = some risk) :
    ∃ flags, IPIntelligence.flags python data = some flags := by
  cases data with
  | obj entries =>
      obtain ⟨proxy, hosting, isp, _, _, _, computed, flagged⟩ := @readings python entries
      rw [computed] at scored
      obtain ⟨tor, mentions, _⟩ := Option.map_eq_some_iff.mp scored
      exact ⟨_, by rw [flagged, mentions]; rfl⟩
  | null | bool _ | num _ | str _ | time _ | arr _ => cases scored

variable {state next : AddressState}

@[simp] theorem phases_put_self (call : AddressCall) (phase : LookupPhase) :
    (state.put call phase).phases call = phase := Function.update_self ..

@[simp] theorem put_put (call : AddressCall) (phase later : LookupPhase) :
    (state.put call phase).put call later = state.put call later := by
  simp only [AddressState.put, Function.update_idem]

/-- No other call moves. -/
theorem phases_put_of_ne {call other : AddressCall} (different : other ≠ call)
    (phase : LookupPhase) : (state.put call phase).phases other = state.phases other :=
  Function.update_of_ne different ..

/-- Before any call nothing has been read. -/
theorem inv_start (cached : Option CacheContent) : (start cached).Inv python where
  answered _ := nofun
  alike _ _ got := nomatch got

/-- A call goes on, with data like all there is if it has got any. -/
theorem Inv.put (inv : state.Inv python) {call : AddressCall} {phase : LookupPhase}
    (answered : call ≠ .ipScore → phase ≠ .raised)
    (fits : ∀ data, phase.data = some data → state.Fits python data) :
    (state.put call phase).Inv python where
  answered other := by
    by_cases itself : other = call
    · subst itself
      rwa [phases_put_self]
    · rw [phases_put_of_ne itself]
      exact inv.answered other
  alike other data got another known found := by
    by_cases itself : other = call <;> by_cases alsoItself : another = call
    · subst itself alsoItself
      rw [phases_put_self] at got found
      obtain rfl := Option.some.inj (got.symm.trans found)
      exact SameReport.refl _
    · subst itself
      rw [phases_put_self] at got
      rw [phases_put_of_ne alsoItself] at found
      exact fits data got another known found
    · subst alsoItself
      rw [phases_put_self] at found
      rw [phases_put_of_ne itself] at got
      exact (fits known found other data got).symm
    · rw [phases_put_of_ne itself] at got
      rw [phases_put_of_ne alsoItself] at found
      exact inv.alike other data got another known found

/-- The invariant is about the calls, so the cache may change under it. -/
theorem Inv.recache (inv : state.Inv python) (cached : Option CacheContent) :
    { state with cached }.Inv python := ⟨inv.answered, inv.alike⟩

/-- A step whose answers report alike keeps the invariant. -/
theorem Inv.step (inv : state.Inv python) {label : AddressLabel}
    (guard : state.BringsAlike python label) (step : state.step python label = some next) :
    next.Inv python := by
  cases label with
  | read call raises =>
      obtain ⟨answers, found⟩ := guard
      simp only [AddressState.step] at step
      split at step
      · split at step
        · split at step
          · rename_i raised
            cases step
            exact inv.put (fun extracts => absurd (answers extracts).1 (by simp [raised])) nofun
          · split at step
            · rename_i data cached
              cases step
              refine inv.put (fun _ => nofun) fun other same => ?_
              cases same
              exact found data cached
            · cases step
              exact inv.put (fun _ => nofun) nofun
            · rename_i unreadable
              cases step
              exact inv.put (fun extracts => absurd unreadable (answers extracts).2) nofun
        · cases step
      · cases step
  | answer call outcome =>
      simp only [AddressState.step] at step
      split at step
      · cases step
        refine inv.put (fun _ => ?_) fun data got => ?_
        · split <;> nofun
        · have same : fetchIPData outcome = data := by
            split at got <;> exact Option.some.inj got
          exact same ▸ guard
      · cases step
  | store call raises =>
      simp only [AddressState.step] at step
      split at step
      · rename_i data caching
        split at step
        · rename_i raised
          cases step
          exact inv.put (fun extracts => absurd (guard extracts) (by simp [raised])) nofun
        · cases step
          have returned : (state.put call (.returned data)).Inv python := by
            refine inv.put (fun _ => nofun) fun other same => ?_
            cases same
            exact inv.alike call data (congrArg LookupPhase.data caching)
          exact returned.recache _
      · cases step
  | expire =>
      cases step
      exact inv.recache none
  | replace content =>
      cases step
      exact inv.recache (some content)

/-- When `extract` is over and there is a score for the aggregator, both of its calls
have got replies that say the same. -/
theorem Inv.brought (inv : state.Inv python) (ended : state.extracted python = true) {data : Json}
    {risk : ℚ} (returned : state.phases .ipScore = .returned data)
    (scored : computeScore python data = some risk) :
    ∃ forScore forFlags, (state.phases .reputation).data = some forScore ∧
      (state.phases .flags).data = some forFlags ∧ SameReport python forScore data ∧
      SameReport python forFlags data := by
  have alike := inv.alike .ipScore data (congrArg LookupPhase.data returned)
  unfold AddressState.extracted at ended
  split at ended
  · rename_i raised
    exact absurd raised (inv.answered .reputation nofun)
  · rename_i forScore reputation
    have got : (state.phases .reputation).data = some forScore :=
      congrArg LookupPhase.data reputation
    have same := alike .reputation forScore got
    split at ended
    · rename_i unreadable
      rw [same.computeScore_eq, scored] at unreadable
      cases unreadable
    · rename_i raised _
      exact absurd raised (inv.answered .flags nofun)
    · rename_i forFlags flagged _
      have gotFlags : (state.phases .flags).data = some forFlags :=
        congrArg LookupPhase.data flagged
      exact ⟨forScore, forFlags, got, gotFlags, same, alike .flags forFlags gotFlags⟩
    · cases ended
  · cases ended

/-- A decision that is made of data all alike sees one address. -/
theorem Inv.oneView (inv : state.Inv python) (features : Features) :
    state.OneView python features := by
  intro extracted ipScore gathered
  unfold AddressState.gathered at gathered
  split at gathered
  · rename_i data returned
    split at gathered
    · rename_i ended
      obtain ⟨risk, scored, made⟩ := Option.map_eq_some_iff.mp gathered
      obtain ⟨rfl, rfl⟩ := Prod.mk.inj made
      obtain ⟨forScore, forFlags, got, gotFlags, scoreAlike, flagsAlike⟩ :=
        inv.brought ended returned scored
      obtain ⟨flags, flagged⟩ := flags_of_computeScore scored
      have seen : withBrought python (state.phases .reputation).data (state.phases .flags).data
          features = { features with
            ipReputationScore := .finite risk
            ipIsVpn := .ofBool flags.ipIsVpn
            ipIsTor := .ofBool flags.ipIsTor
            ipIsDatacenter := .ofBool flags.ipIsDatacenter
            ipIsProxy := .ofBool flags.ipIsProxy } := by
        simp only [withBrought, got, gotFlags, Option.bind_some, scoreAlike.computeScore_eq, scored,
          flagsAlike.flags_eq, flagged]
      rw [seen]
      exact ⟨rfl, data, flags, returned, flagged, rfl, rfl, rfl, rfl⟩
    · cases gathered
  · cases gathered

end AddressState

/-- The lookups of one request as a machine. -/
def addressMachine (python : PythonJson) : Machine AddressState AddressLabel where
  step := AddressState.step python

/-- A call that is not interrupted gets what `_get_or_fetch` returns, and leaves the
cache as that leaves it. -/
theorem exec_getOrFetch (python : PythonJson) {state : AddressState} {call : AddressCall}
    (outcome : LookupOutcome) (reading : state.phases call = .reading)
    (begun : state.begun python call = true) :
    ∃ labels, (addressMachine python).exec state labels =
      some { state.put call
          (match (getOrFetch python state.cached outcome).1 with
            | some data => .returned data
            | none => .raised) with
        cached := (getOrFetch python state.cached outcome).2 } := by
  unfold getOrFetch
  cases found : readCache python state.cached with
  | found data =>
      refine ⟨[.read call false], ?_⟩
      simp [Machine.exec, addressMachine, AddressState.step, reading, begun, found]
      rfl
  | raised =>
      refine ⟨[.read call false], ?_⟩
      simp [Machine.exec, addressMachine, AddressState.step, reading, begun, found]
      rfl
  | missing =>
      have read : (addressMachine python).step state (.read call false) =
          some (state.put call .fetching) := by
        simp [addressMachine, AddressState.step, reading, begun, found]
      by_cases empty : (fetchIPData outcome).truthy = true
      · refine ⟨[.read call false, .answer call outcome, .store call false],
          Machine.exec_cons_eq_some.mpr ⟨_, read, ?_⟩⟩
        simp [Machine.exec, addressMachine, AddressState.step, empty]
      · refine ⟨[.read call false, .answer call outcome],
          Machine.exec_cons_eq_some.mpr ⟨_, read, ?_⟩⟩
        simp [Machine.exec, addressMachine, AddressState.step, empty]
        rfl

/-- In every run in which the lookups of the request say the same of the address, every
decision sees one address. -/
theorem oneView_of_guarded (python : PythonJson) (features : Features)
    (cached : Option CacheContent)
    (labels : List AddressLabel)
    (guarded : (addressMachine python).Guarded (AddressState.BringsAlike python) (.start cached)
      labels) :
    (addressMachine python).Along (AddressState.OneView python features) (.start cached)
      labels := by
  have inv : (addressMachine python).Along (AddressState.Inv python) (.start cached) labels :=
    Machine.along_of_guarded (fun inv guard step => AddressState.Inv.step inv guard step)
      (AddressState.inv_start cached) guarded
  exact inv.mono fun _ inv => inv.oneView features

/-- A reply about a proxy, and its text. -/
def proxyReply : Json := .obj [("proxy", .bool true)]

def proxyJson : PythonJson where
  loads
    | "\x7b\"proxy\": true\x7d" => .value proxyReply
    | _ => .valueError
  dumps _ := "\x7b\"proxy\": true\x7d"
  lower text := text
  lower_plain _ _ := rfl

/-- The same reply with one more field. -/
def longerReply : Json := .obj [("proxy", .bool true), ("country", .str "Germany")]

/-- One call finds the cached reply, the next one asks again when it has expired, and the
third finds what that has cached. -/
def agreeingLookups : List AddressLabel :=
  [.read .ipScore false, .expire, .read .reputation false,
    .answer .reputation (.answered 200 (some longerReply)), .store .reputation false,
    .read .flags false]

/-- A reply with one more member that nothing reads reports the same. -/
theorem sameReport_longer : AddressState.SameReport proxyJson proxyReply longerReply :=
  ⟨rfl, rfl, rfl, rfl⟩

/-- Two lookups of one address whose answers agree give one view. -/
theorem oneView_agreeing :
    (addressMachine proxyJson).Along (AddressState.OneView proxyJson {})
      (.start (some (.text "\x7b\"proxy\": true\x7d"))) agreeingLookups := by
  refine oneView_of_guarded proxyJson {} _ agreeingLookups ?_
  have first : AddressState.Fits proxyJson (.start (some (.text "\x7b\"proxy\": true\x7d")))
      proxyReply := nofun
  refine Machine.guarded_cons _ rfl ⟨fun extracts => absurd rfl extracts, ?_⟩ ?_
  · rintro data found
    cases found
    exact first
  refine Machine.guarded_cons _ rfl trivial ?_
  refine Machine.guarded_cons _ rfl ⟨fun _ => ⟨rfl, nofun⟩, nofun⟩ ?_
  refine Machine.guarded_cons _ rfl ?_ ?_
  · rintro (_ | _ | _) known got <;> cases got
    exact sameReport_longer
  refine Machine.guarded_cons _ rfl (fun _ => rfl) ?_
  refine Machine.guarded_cons _ rfl ⟨fun _ => ⟨rfl, nofun⟩, ?_⟩ trivial
  rintro data found
  cases found
  rintro (_ | _ | _) known got <;> cases got
  · exact .refl _
  · exact sameReport_longer.symm

/-- The lookup for the aggregator times out, and the extractor's does not. -/
def halfAnswered : List AddressLabel :=
  [.read .ipScore false, .read .reputation false, .answer .ipScore .raised,
    .answer .reputation (.answered 200 (some proxyReply)), .store .reputation false,
    .read .flags false]

/-- Without the condition the score and the flags can come from two answers. -/
theorem oneView_fails :
    ¬ ∀ (python : PythonJson) (features : Features) (cached : Option CacheContent)
      (labels : List AddressLabel),
      (addressMachine python).Along (AddressState.OneView python features) (.start cached)
        labels := by
  intro always
  have run : ((addressMachine proxyJson).exec (.start none) halfAnswered).map (fun state =>
      (state.gathered proxyJson {}).map fun (extracted, ipScore) =>
        (extracted.ipReputationScore, ipScore)) = some (some (.finite 35, 30)) := by
    decide +kernel
  obtain ⟨state, reached, observed⟩ := Option.map_eq_some_iff.mp run
  obtain ⟨⟨extracted, ipScore⟩, gathered, seen⟩ := Option.map_eq_some_iff.mp observed
  obtain ⟨reputation, score⟩ := Prod.mk.inj seen
  have same := ((always proxyJson {} none halfAnswered).final reached extracted ipScore gathered).1
  rw [reputation, score] at same
  exact absurd same (by decide)

end Sentinel.Risk
