import Mathlib.Data.List.Nodup
import Sentinel.Auth.Concurrency

/-!
# Is a refresh token used once?

`Refresh` reads the stored hash, compares it and writes a new one in separate
repository calls. Two calls that read before either writes both succeed.
-/

namespace Sentinel.Auth

open Sentinel.Wire Sentinel.Semantics

/-- A token was matched with the stored hash; these calls go on to exchange it. -/
def RefreshPhase.matched? : RefreshPhase → Option Session
  | .readingUser session | .generating session _ | .storing session _ => some session
  | _ => none

/-- The call has returned a pair. -/
def RefreshPhase.succeeded : RefreshPhase → Bool
  | .returned (.ok _) => true
  | _ => false

theorem RefreshPhase.succeeded_iff {phase : RefreshPhase} :
    phase.succeeded = true ↔ ∃ pair, phase = .returned (.ok pair) := by
  unfold succeeded
  split <;> simp_all

namespace AuthService

variable {Store : Type}

/-- No two calls have returned a pair for one token. -/
def SingleUse (state : AuthState Store) : Prop :=
  ∀ {first second firstCall secondCall firstPair secondPair},
    state.calls first = some firstCall → firstCall.phase = .returned (.ok firstPair) →
    state.calls second = some secondCall → secondCall.phase = .returned (.ok secondPair) →
    firstCall.token = secondCall.token → first = second

/-- Since a call that stores its session read it, no call with the same token
has stored one. -/
def StoresAlone (repository : FaithfulRepository Store) (state : AuthState Store) :
    AuthLabel → Prop
  | .advance index input => ∀ call session pair store, state.calls index = some call →
      call.phase = .storing session pair →
      repository.create input.now session state.store = .ok store →
      ∀ exchange ∈ state.exchanges.drop call.readAt, exchange.2 ≠ call.token
  | _ => True

variable (service : AuthService)

/-- No earlier exchange was for a token with this digest. -/
def Unspent (exchanges : List (Nat × String)) (hash : String) : Prop :=
  ∀ exchange ∈ exchanges, service.hash exchange.2 ≠ hash

/-- What holds of a call's hashes: those it has read or matched were issued and,
when it read them, unspent; the one it is about to store was not issued yet. -/
structure SingleUseCall (drawn issued : List (Uuid × String)) (exchanges : List (Nat × String))
    (index : Nat) (call : Call) : Prop where
  readAt : call.readAt ≤ exchanges.length
  read : ∀ {session}, call.phase = .comparing session →
    (session.id, session.refreshTokenHash) ∈ issued ∧
      service.Unspent (exchanges.take call.readAt) session.refreshTokenHash
  matched : ∀ {session}, call.phase.matched? = some session →
    (session.id, service.hash call.token) ∈ issued ∧
      service.Unspent (exchanges.take call.readAt) (service.hash call.token)
  pending : ∀ {session pair}, call.phase = .storing session pair →
    (session.id, session.refreshTokenHash) ∈ drawn ∧
      (session.id, session.refreshTokenHash) ∉ issued
  exchanged : ∀ {pair}, call.phase = .returned (.ok pair) → (index, call.token) ∈ exchanges

/-- The exchange was made by a call that has returned. -/
def Returned (calls : Nat → Option Call) (exchange : Nat × String) : Prop :=
  ∃ call pair, calls exchange.1 = some call ∧ call.phase = .returned (.ok pair) ∧
    call.token = exchange.2

/-- The call is about to store this hash. -/
def Stores (calls : Nat → Option Call) (index : Nat) (hash : String) : Prop :=
  ∃ call session pair, calls index = some call ∧ call.phase = .storing session pair ∧
    session.refreshTokenHash = hash

structure SingleUseSound (repository : FaithfulRepository Store) (state : AuthState Store) : Prop
    extends Sound repository state where
  drawn : ∀ {first second hash}, (first, hash) ∈ state.drawn → (second, hash) ∈ state.drawn →
    first = second
  issued : ∀ {entry}, entry ∈ state.issued → entry ∈ state.drawn
  spent : ∀ exchange ∈ state.exchanges, ∃ id, (id, service.hash exchange.2) ∈ state.issued
  once : (state.exchanges.map Prod.snd).Nodup
  returned : ∀ exchange ∈ state.exchanges, Returned state.calls exchange
  recorded : ∀ {id session}, repository.Live state.store id session →
    (id, session.refreshTokenHash) ∈ state.issued ∧
      service.Unspent state.exchanges session.refreshTokenHash
  alone : ∀ {first second hash}, Stores state.calls first hash → Stores state.calls second hash →
    first = second
  calm : ∀ {index call}, state.calls index = some call →
    service.SingleUseCall state.drawn state.issued state.exchanges index call

variable {service} {repository : FaithfulRepository Store}

section

variable {drawn issued : List (Uuid × String)} {exchanges : List (Nat × String)} {index : Nat}
  {call : Call}

/-- Longer histories do no harm to a call whose own token was not issued meanwhile. -/
theorem SingleUseCall.mono {moreDrawn moreIssued : List (Uuid × String)}
    {moreExchanges : List (Nat × String)}
    (sound : service.SingleUseCall drawn issued exchanges index call)
    (drawnGrown : ∀ entry ∈ drawn, entry ∈ moreDrawn)
    (issuedGrown : ∀ entry ∈ issued, entry ∈ moreIssued) (extended : exchanges <+: moreExchanges)
    (unissued : ∀ {session pair}, call.phase = .storing session pair →
      (session.id, session.refreshTokenHash) ∉ moreIssued) :
    service.SingleUseCall moreDrawn moreIssued moreExchanges index call := by
  obtain ⟨new, rfl⟩ := extended
  have early : (exchanges ++ new).take call.readAt = exchanges.take call.readAt :=
    List.take_append_of_le_length sound.readAt
  refine ⟨?_, fun phase => ?_, fun held => ?_, fun phase => ?_, fun phase => ?_⟩
  · rw [List.length_append]
    exact Nat.le_add_right_of_le sound.readAt
  · rw [early]
    exact ⟨issuedGrown _ (sound.read phase).1, (sound.read phase).2⟩
  · rw [early]
    exact ⟨issuedGrown _ (sound.matched held).1, (sound.matched held).2⟩
  · exact ⟨drawnGrown _ (sound.pending phase).1, unissued phase⟩
  · exact List.mem_append_left _ (sound.exchanged phase)

/-- A call that holds no hash and has exchanged nothing. -/
theorem SingleUseCall.idle (readAt : call.readAt ≤ exchanges.length)
    (unread : ∀ session, call.phase ≠ .comparing session) (unmatched : call.phase.matched? = none)
    (unsuccessful : ∀ pair, call.phase ≠ .returned (.ok pair)) :
    service.SingleUseCall drawn issued exchanges index call where
  readAt := readAt
  read phase := (unread _ phase).elim
  matched held := by
    rw [unmatched] at held
    cases held
  pending phase := by
    rw [phase] at unmatched
    cases unmatched
  exchanged phase := (unsuccessful _ phase).elim

/-- A call's own steps keep what holds of its hashes. -/
theorem Quiet.singleUseCall {phase : RefreshPhase}
    (sound : service.SingleUseCall drawn issued exchanges index call)
    (quiet : service.Quiet call.token call.phase phase) :
    service.SingleUseCall drawn issued exchanges index { call with phase := phase } := by
  generalize before : call.phase = old at quiet
  cases quiet with
  | failed _ _ => exact .idle sound.readAt nofun rfl nofun
  | validated _ => exact .idle sound.readAt nofun rfl nofun
  | replaced => exact .idle sound.readAt nofun rfl nofun
  | matched matched =>
      refine ⟨sound.readAt, nofun, fun held => ?_, nofun, nofun⟩
      cases held
      rw [matched]
      exact sound.read before
  | found =>
      refine ⟨sound.readAt, nofun, fun held => ?_, nofun, nofun⟩
      cases held
      exact sound.matched (by rw [before]; rfl)

/-- They do not lead to a store. -/
theorem Quiet.not_storing {token : String} {before after : RefreshPhase}
    (quiet : service.Quiet token before after) (session : Session) (pair : TokenPair) :
    after ≠ .storing session pair := by
  cases quiet <;> nofun

theorem Quiet.running {token : String} {before after : RefreshPhase}
    (quiet : service.Quiet token before after) (result : Except AuthError TokenPair) :
    before ≠ .returned result := by
  cases quiet with
  | failed running _ => exact running result
  | validated _ => nofun
  | replaced => nofun
  | matched _ => nofun
  | found => nofun

end

section

variable {state : AuthState Store} {index other : Nat} {call : Call} {hash : String}
  {exchange : Nat × String}

/-- Exchanges stay those of calls that have returned. -/
theorem Returned.put (returned : Returned state.calls exchange)
    (running : ∀ before pair, state.calls index = some before →
      before.phase ≠ .returned (.ok pair)) :
    Returned (state.put index call).calls exchange := by
  obtain ⟨before, pair, present, phase, token⟩ := returned
  refine ⟨before, pair, ?_, phase, token⟩
  rcases eq_or_ne exchange.1 index with same | different
  · rw [same] at present
    exact (running before pair present phase).elim
  · exact (Function.update_of_ne different ..).trans present

/-- Who is about to store is the one that moved, or was so before. -/
theorem stores_put (stores : Stores (state.put index call).calls other hash) :
    (other = index ∧ ∃ session pair, call.phase = .storing session pair ∧
        session.refreshTokenHash = hash) ∨
      other ≠ index ∧ Stores state.calls other hash := by
  obtain ⟨found, session, pair, present, phase, same⟩ := stores
  rcases AuthState.calls_put present with ⟨rfl, rfl⟩ | ⟨different, present⟩
  · exact .inl ⟨rfl, session, pair, phase, same⟩
  · exact .inr ⟨different, found, session, pair, present, phase, same⟩

/-- Only a call that stores can add to the stored hashes. -/
theorem stores_of_put (stores : Stores (state.put index call).calls other hash)
    (notStoring : ∀ session pair, call.phase ≠ .storing session pair) :
    Stores state.calls other hash := by
  rcases stores_put stores with ⟨-, session, pair, phase, -⟩ | ⟨-, stores⟩
  · exact (notStoring session pair phase).elim
  · exact stores

end

/-- The invariant lets no token be exchanged twice. -/
theorem SingleUseSound.singleUse {state : AuthState Store}
    (sound : service.SingleUseSound repository state) : SingleUse state := by
  intro first second firstCall secondCall firstPair secondPair present phase also same tokens
  have firstMember := (sound.calm present).exchanged phase
  have secondMember := (sound.calm also).exchanged same
  rw [tokens] at firstMember
  exact congrArg Prod.fst (List.inj_on_of_nodup_map sound.once firstMember secondMember rfl)

/-- At the start nothing was issued. -/
theorem singleUseSound_start {store : Store} (empty : ∀ id, repository.view store id = none) :
    service.SingleUseSound repository (AuthState.start store) where
  toSound := sound_start empty
  drawn member := by cases member
  issued member := by cases member
  spent _ member := by cases member
  once := List.nodup_nil
  returned _ member := by cases member
  recorded live := by
    have stored := live.1
    rw [AuthState.start, empty] at stored
    cases stored
  alone stores := by
    obtain ⟨_, _, _, present, -⟩ := stores
    cases present
  calm present := by cases present

/-- A hash that is not issued was never the hash of an exchanged token. -/
theorem SingleUseSound.unspent_of_unissued {state : AuthState Store}
    (sound : service.SingleUseSound repository state) {id : Uuid} {hash : String}
    (drawn : (id, hash) ∈ state.drawn) (unissued : (id, hash) ∉ state.issued) :
    service.Unspent state.exchanges hash := by
  rintro exchange member rfl
  obtain ⟨owner, issued⟩ := sound.spent exchange member
  rw [sound.drawn drawn (sound.issued issued)] at unissued
  exact unissued issued

/-- The token of a call that stores its session alone is exchanged once. -/
theorem SingleUseSound.once_append {state : AuthState Store}
    (sound : service.SingleUseSound repository state) {index : Nat} {call : Call}
    {session : Session} (present : state.calls index = some call)
    (held : call.phase.matched? = some session)
    (alone : ∀ exchange ∈ state.exchanges.drop call.readAt, exchange.2 ≠ call.token) :
    ((state.exchanges ++ [(index, call.token)]).map Prod.snd).Nodup := by
  have unspent := ((sound.calm present).matched held).2
  rw [List.map_append, List.nodup_append]
  refine ⟨sound.once, List.nodup_singleton _, ?_⟩
  intro token member other new equal
  obtain ⟨exchange, member, same⟩ := List.mem_map.mp member
  rw [equal, List.mem_singleton.mp new] at same
  rw [← List.take_append_drop call.readAt state.exchanges] at member
  rcases List.mem_append.mp member with early | late
  · exact unspent exchange early (congrArg service.hash same)
  · exact alone exchange late same

/-- A hash that has never been drawn leaves every hash with one owner. -/
theorem owner_cons {drawn : List (Uuid × String)} {id : Uuid} {hash : String}
    (fresh : ∀ entry ∈ drawn, entry.2 ≠ hash)
    (unique : ∀ {first second other}, (first, other) ∈ drawn → (second, other) ∈ drawn →
      first = second) {first second : Uuid} {other : String}
    (member : (first, other) ∈ (id, hash) :: drawn)
    (also : (second, other) ∈ (id, hash) :: drawn) : first = second := by
  rcases List.mem_cons.mp member with same | member <;>
    rcases List.mem_cons.mp also with equal | also
  · exact (congrArg Prod.fst same).trans (congrArg Prod.fst equal).symm
  · exact (fresh _ also (congrArg Prod.snd same)).elim
  · exact (fresh _ member (congrArg Prod.snd equal)).elim
  · exact unique member also

section

variable {state : AuthState Store} {index : Nat} {call : Call}

/-- The call that moves has not returned. -/
theorem running_of_present (present : state.calls index = some call)
    (running : ∀ pair, call.phase ≠ .returned (.ok pair)) (before : Call) (pair : TokenPair)
    (same : state.calls index = some before) : before.phase ≠ .returned (.ok pair) := by
  rw [present] at same
  cases same
  exact running pair

/-- A step that exchanges nothing and has no hash to store, and after which no
more sessions are live than before. -/
theorem SingleUseSound.move (sound : service.SingleUseSound repository state) {after : Call}
    {store : Store} {revoked : List Uuid} (present : state.calls index = some call)
    (known : Sound repository
      { state.put index after with store := store, revoked := revoked })
    (running : ∀ pair, call.phase ≠ .returned (.ok pair))
    (notStoring : ∀ session pair, after.phase ≠ .storing session pair)
    (shrunk : ∀ {id session}, repository.Live store id session →
      repository.Live state.store id session)
    (calm : service.SingleUseCall state.drawn state.issued state.exchanges index after) :
    service.SingleUseSound repository
      { state.put index after with store := store, revoked := revoked } where
  toSound := known
  drawn := sound.drawn
  issued := sound.issued
  spent := sound.spent
  once := sound.once
  returned exchange member :=
    (sound.returned exchange member).put (running_of_present present running)
  recorded live := sound.recorded (shrunk live)
  alone first second :=
    sound.alone (stores_of_put first notStoring) (stores_of_put second notStoring)
  calm found := by
    rcases AuthState.calls_put found with ⟨rfl, rfl⟩ | ⟨-, same⟩
    · exact calm
    · exact sound.calm same

/-- Drawing a fresh refresh token. -/
theorem SingleUseSound.generate (sound : service.SingleUseSound repository state)
    {session rotated : Session} {user : User} {pair : TokenPair}
    (present : state.calls index = some call) (phase : call.phase = .generating session user)
    (fresh : state.FreshToken rotated.refreshTokenHash) (id : rotated.id = session.id)
    (known : Sound repository
      { state.put index { call with phase := .storing rotated pair } with
        drawn := (session.id, rotated.refreshTokenHash) :: state.drawn }) :
    service.SingleUseSound repository
      { state.put index { call with phase := .storing rotated pair } with
        drawn := (session.id, rotated.refreshTokenHash) :: state.drawn } where
  toSound := known
  drawn first second := owner_cons fresh sound.drawn first second
  issued member := List.mem_cons_of_mem _ (sound.issued member)
  spent := sound.spent
  once := sound.once
  returned exchange member :=
    (sound.returned exchange member).put (running_of_present present (by simp [phase]))
  recorded := sound.recorded
  alone first second := by
    have undrawn {other : Nat} (stores : Stores state.calls other rotated.refreshTokenHash) :
        False := by
      obtain ⟨found, session, pair, present, phase, same⟩ := stores
      exact fresh _ ((sound.calm present).pending phase).1 same
    rcases stores_put first with ⟨rfl, _, _, ⟨⟩, same⟩ | ⟨-, earlier⟩ <;>
      rcases stores_put second with ⟨rfl, _, _, ⟨⟩, equal⟩ | ⟨-, also⟩
    · rfl
    · exact (undrawn (same ▸ also)).elim
    · exact (undrawn (equal ▸ earlier)).elim
    · exact sound.alone earlier also
  calm found := by
    rcases AuthState.calls_put found with ⟨rfl, rfl⟩ | ⟨-, same⟩
    · have before := sound.calm present
      have matched := before.matched (show call.phase.matched? = some session by rw [phase]; rfl)
      have unissued : (rotated.id, rotated.refreshTokenHash) ∉ state.issued :=
        fun member => fresh _ (sound.issued member) rfl
      refine ⟨before.readAt, nofun, fun held => ?_, fun storing => ?_, nofun⟩
      · cases held
        rw [id]
        exact matched
      · cases storing
        rw [← id]
        exact ⟨List.mem_cons_self, unissued⟩
    · have calm := sound.calm same
      exact calm.mono (fun _ member => List.mem_cons_of_mem _ member) (fun _ member => member)
        List.prefix_rfl fun phase => (calm.pending phase).2

/-- Storing a session whose token no other call has exchanged since it was read. -/
theorem SingleUseSound.store (sound : service.SingleUseSound repository state)
    {session : Session} {pair : TokenPair} {store : Store} {now : Time}
    (present : state.calls index = some call) (phase : call.phase = .storing session pair)
    (created : repository.create now session state.store = .ok store)
    (alone : ∀ exchange ∈ state.exchanges.drop call.readAt, exchange.2 ≠ call.token)
    (known : Sound repository
      { state.put index { call with phase := .returned (.ok pair) } with
        store := store
        issued := (session.id, session.refreshTokenHash) :: state.issued
        exchanges := state.exchanges ++ [(index, call.token)] }) :
    service.SingleUseSound repository
      { state.put index { call with phase := .returned (.ok pair) } with
        store := store
        issued := (session.id, session.refreshTokenHash) :: state.issued
        exchanges := state.exchanges ++ [(index, call.token)] } := by
  have before := sound.calm present
  have held : call.phase.matched? = some session := by rw [phase]; rfl
  obtain ⟨drawn, unissued⟩ := before.pending phase
  have matched := (before.matched held).1
  have storing : Stores state.calls index session.refreshTokenHash :=
    ⟨call, session, pair, present, phase, rfl⟩
  -- The presented token was issued for this session and for no other.
  have owner {id : Uuid} {hash : String} (issued : (id, hash) ∈ state.issued)
      (same : service.hash call.token = hash) : id = session.id :=
    sound.drawn (sound.issued issued) (sound.issued (same ▸ matched))
  refine ⟨known, sound.drawn, fun member => ?_, fun exchange member => ?_,
    sound.once_append present held alone, fun exchange member => ?_, fun live => ?_,
    fun first second => ?_, fun after => ?_⟩
  · rcases List.mem_cons.mp member with rfl | member
    · exact drawn
    · exact sound.issued member
  · rcases List.mem_append.mp member with old | new
    · obtain ⟨id, issued⟩ := sound.spent exchange old
      exact ⟨id, List.mem_cons_of_mem _ issued⟩
    · rw [List.mem_singleton.mp new]
      exact ⟨session.id, List.mem_cons_of_mem _ matched⟩
  · rcases List.mem_append.mp member with old | new
    · exact (sound.returned exchange old).put (running_of_present present (by simp [phase]))
    · rw [List.mem_singleton.mp new]
      exact ⟨_, pair, Function.update_self .., rfl, rfl⟩
  · rcases FaithfulRepository.live_create created live with ⟨rfl, rfl⟩ | ⟨different, live⟩
    · refine ⟨List.mem_cons_self, fun exchange member same => ?_⟩
      rcases List.mem_append.mp member with old | new
      · exact sound.unspent_of_unissued drawn unissued exchange old same
      · rw [List.mem_singleton.mp new] at same
        exact unissued (same ▸ matched)
    · refine ⟨List.mem_cons_of_mem _ (sound.recorded live).1, fun exchange member same => ?_⟩
      rcases List.mem_append.mp member with old | new
      · exact (sound.recorded live).2 exchange old same
      · rw [List.mem_singleton.mp new] at same
        exact different (owner (sound.recorded live).1 same)
  · exact sound.alone (stores_of_put first nofun) (stores_of_put second nofun)
  · rcases AuthState.calls_put after with ⟨rfl, rfl⟩ | ⟨different, same⟩
    · refine ⟨?_, nofun, nofun, nofun, fun _ => ?_⟩
      · rw [List.length_append]
        exact Nat.le_add_right_of_le before.readAt
      · exact List.mem_append_right _ (List.mem_singleton_self _)
    · have calm := sound.calm same
      refine calm.mono (fun _ member => member) (fun _ member => List.mem_cons_of_mem _ member)
        (List.prefix_append _ _) fun {other otherPair} phase member => ?_
      rcases List.mem_cons.mp member with equal | member
      · exact different (sound.alone
          ⟨_, other, otherPair, same, phase, congrArg Prod.snd equal⟩ storing)
      · exact (calm.pending phase).2 member

/-- A step of a call that stores alone keeps the invariant. -/
theorem Advanced.singleUseSound {next : AuthState Store} {input : StepInput}
    (sound : service.SingleUseSound repository state) (present : state.calls index = some call)
    (guard : StoresAlone repository state (.advance index input))
    (advanced : service.Advanced repository state index input call next) :
    service.SingleUseSound repository next := by
  have known := sound.toSound.transition (.advanced present advanced)
  have before := sound.calm present
  cases advanced with
  | quiet quiet =>
      exact sound.move present known (fun _ => quiet.running _) quiet.not_storing
        (fun live => live) (quiet.singleUseCall before)
  | @read sessionID session phase live =>
      refine sound.move present known (by simp [phase]) nofun (fun live => live) ?_
      refine ⟨Nat.le_refl _, fun held => ?_, nofun, nofun, nofun⟩
      cases held
      change (_, _) ∈ state.issued ∧
        service.Unspent (state.exchanges.take state.exchanges.length) _
      rw [List.take_length, sound.stored live]
      exact sound.recorded live
  | revoked phase revoked =>
      exact sound.move present known (by simp [phase]) nofun
        (fun live => ((FaithfulRepository.live_revokeFamily revoked).mp live).2)
        (.idle before.readAt nofun rfl nofun)
  | generated pair phase fresh => exact sound.generate present phase fresh rfl known
  | @stored session pair store phase created =>
      exact sound.store present phase created
        (guard call session pair store present phase created) known

end

/-- Guarded steps keep tokens single-use. -/
theorem SingleUseSound.step {state next : AuthState Store} {label : AuthLabel}
    (sound : service.SingleUseSound repository state) (alone : StoresAlone repository state label)
    (step : (service.machine repository).step state label = some next) :
    service.SingleUseSound repository next := by
  have transition := step_transition step
  have known := sound.toSound.transition transition
  cases transition with
  | unchanged _ => exact sound
  | @loggedIn request input users session store isLive _ fresh created =>
      refine ⟨known, fun first second => ?_, fun member => ?_, fun exchange member => ?_,
        sound.once, sound.returned, fun live => ?_, sound.alone, fun {index call} present => ?_⟩
      · exact owner_cons fresh sound.drawn first second
      · rcases List.mem_cons.mp member with rfl | member
        · exact List.mem_cons_self
        · exact List.mem_cons_of_mem _ (sound.issued member)
      · obtain ⟨id, issued⟩ := sound.spent exchange member
        exact ⟨id, List.mem_cons_of_mem _ issued⟩
      · rcases FaithfulRepository.live_create created live with ⟨rfl, rfl⟩ | ⟨-, live⟩
        · refine ⟨List.mem_cons_self, fun exchange member same => ?_⟩
          obtain ⟨id, issued⟩ := sound.spent exchange member
          exact fresh _ (sound.issued issued) same
        · exact ⟨List.mem_cons_of_mem _ (sound.recorded live).1, (sound.recorded live).2⟩
      · have calm := sound.calm present
        refine calm.mono (fun _ member => List.mem_cons_of_mem _ member)
          (fun _ member => List.mem_cons_of_mem _ member) List.prefix_rfl fun phase member => ?_
        rcases List.mem_cons.mp member with equal | member
        · exact fresh _ (calm.pending phase).1 (congrArg Prod.snd equal)
        · exact (calm.pending phase).2 member
  | began token absent =>
      refine ⟨known, sound.drawn, sound.issued, sound.spent, sound.once, fun exchange member => ?_,
        sound.recorded, fun first second => ?_, fun after => ?_⟩
      · refine (sound.returned exchange member).put fun before pair present => ?_
        rw [absent] at present
        cases present
      · exact sound.alone (stores_of_put first nofun) (stores_of_put second nofun)
      · rcases AuthState.calls_put after with ⟨rfl, rfl⟩ | ⟨-, same⟩
        · exact .idle (Nat.zero_le _) nofun rfl nofun
        · exact sound.calm same
  | advanced present advanced => exact advanced.singleUseSound sound present alone
  | loggedOut revoked =>
      exact ⟨known, sound.drawn, sound.issued, sound.spent, sound.once, sound.returned,
        fun live => sound.recorded ((FaithfulRepository.live_revokeByID revoked).mp live).2,
        sound.alone, sound.calm⟩

/-- A step after which tokens are still single-use has not stored over another
exchange of its token. -/
theorem storesAlone_of_singleUse {state next : AuthState Store} {label : AuthLabel}
    (sound : service.SingleUseSound repository state)
    (step : (service.machine repository).step state label = some next)
    (once : SingleUse next) : StoresAlone repository state label := by
  cases label with
  | login _ _ _ => trivial
  | begin _ _ => trivial
  | logout _ _ => trivial
  | advance index input =>
      intro call session pair store present phase created exchange member same
      obtain ⟨other, otherPair, also, returned, token⟩ :=
        sound.returned exchange (List.mem_of_mem_drop member)
      have different : exchange.1 ≠ index := by
        rintro equal
        rw [equal, present] at also
        cases also
        rw [phase] at returned
        cases returned
      change service.advance repository state index input = some next at step
      simp only [advance, present, phase, refreshStep, created, Option.some.injEq] at step
      subst step
      exact different (once ((Function.update_of_ne different ..).trans also) returned
        (Function.update_self ..) rfl (token.trans same))

/-- Over every faithful repository and in every run: every refresh token is
exchanged at most once exactly as long as no call stores its session after
another call exchanged the same token since the first one's read. -/
theorem singleUse_iff {store : Store} (empty : ∀ id, repository.view store id = none)
    (labels : List AuthLabel) :
    (service.machine repository).Along SingleUse (AuthState.start store) labels ↔
      (service.machine repository).Guarded (StoresAlone repository) (AuthState.start store)
        labels := by
  have holds : service.SingleUseSound repository (AuthState.start store) :=
    singleUseSound_start empty
  refine Machine.along_iff_guarded ?_ ?_ ?_ labels holds
  · intro state sound
    exact sound.singleUse
  · intro state label next sound alone step
    exact sound.step alone step
  · intro state label next sound step once
    exact storesAlone_of_singleUse sound step once

/-- An undisturbed store is alone with its token. -/
theorem storesAlone_of_undisturbed (state : AuthState Store) (label : AuthLabel)
    (stores : state.storesUndisturbed label = true) : StoresAlone repository state label := by
  cases label with
  | login _ _ _ => trivial
  | begin _ _ => trivial
  | logout _ _ => trivial
  | advance index input =>
      intro call session pair store present phase _
      exact (AuthState.undisturbed stores present phase).2

/-- Of two refreshes with one token that run beside each other one succeeds. -/
theorem singleUse_turnByTurn :
    Installed.machine.Along SingleUse (AuthState.start fun _ => none) Installed.turnByTurn ∧
      (Installed.machine.exec (AuthState.start fun _ => none) Installed.turnByTurn).map
        (fun state => (state.exchanges.map Prod.fst, state.revoked)) =
        some ([0], [Installed.uuid 2, Installed.uuid 2]) := by
  obtain ⟨passed, final⟩ := Installed.turnByTurn_undisturbed
  exact ⟨(singleUse_iff (fun _ => rfl) _).mpr
    (Machine.guarded_of_passes storesAlone_of_undisturbed passed), final⟩

/-- Two calls with the login's token, of which each reads before the other stores. -/
def overlapping : List AuthLabel :=
  Installed.loggedInAndBegun ++ [.begin 1 Installed.token] ++
    List.replicate 5 (.advance 0 (Installed.stepInput 6)) ++
    List.replicate 5 (.advance 1 (Installed.stepInput 7)) ++
    [.advance 0 (Installed.stepInput 6), .advance 1 (Installed.stepInput 7)]

/-- Both calls return a pair for the one token. -/
theorem singleUse_fails :
    ¬ Installed.machine.Along SingleUse (AuthState.start fun _ => none) overlapping := by
  intro once
  have run : (Installed.machine.exec (AuthState.start fun _ => none) overlapping).map
      (fun state => [0, 1].map fun index => (state.calls index).map fun call =>
        (call.token, call.phase.succeeded)) =
      some [some (Installed.token, true), some (Installed.token, true)] := by decide +kernel
  obtain ⟨state, reached, observed⟩ := Option.map_eq_some_iff.mp run
  obtain ⟨first, rest⟩ := List.cons.inj observed
  obtain ⟨firstCall, present, same⟩ := Option.map_eq_some_iff.mp first
  obtain ⟨secondCall, also, equal⟩ := Option.map_eq_some_iff.mp (List.cons.inj rest).1
  obtain ⟨firstPair, phase⟩ := RefreshPhase.succeeded_iff.mp (congrArg Prod.snd same)
  obtain ⟨secondPair, returned⟩ := RefreshPhase.succeeded_iff.mp (congrArg Prod.snd equal)
  exact absurd (once.final reached present phase also returned
    ((congrArg Prod.fst same).trans (congrArg Prod.fst equal).symm)) (by decide)

end AuthService
end Sentinel.Auth
