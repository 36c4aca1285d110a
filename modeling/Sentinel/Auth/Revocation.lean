import Sentinel.Auth.Concurrency

/-!
# Is revocation final?

`Refresh` writes the whole session back, without a look at what became of it
since it was read. A revocation between the two is lost.
-/

namespace Sentinel.Auth

open Sentinel.Wire Sentinel.Semantics

namespace AuthService

variable {Store : Type}

/-- Revoked sessions stay revoked, and no call that began after a session's
revocation has succeeded for it. -/
structure RevocationFinal (repository : FaithfulRepository Store) (state : AuthState Store) :
    Prop where
  gone : ∀ id ∈ state.revoked, ∀ session, ¬ repository.Live state.store id session
  refused : ∀ {index call pair}, state.calls index = some call →
    call.phase = .returned (.ok pair) → ∀ id ∈ call.revokedAtBegin,
      validateRefreshToken call.token ≠ .ok id

/-- A call that stores its session finds it unrevoked at that moment. -/
def StoresUnrevoked (repository : FaithfulRepository Store) (state : AuthState Store) :
    AuthLabel → Prop
  | .advance index input => ∀ call session pair store, state.calls index = some call →
      call.phase = .storing session pair →
      repository.create input.now session state.store = .ok store → session.id ∉ state.revoked
  | _ => True

/-- What a call remembers of the revocations, and what it holds. -/
structure RevocationCall (created : List (Uuid × Uuid)) (revoked : List Uuid) (call : Call) :
    Prop where
  remembered : ∀ id ∈ call.revokedAtBegin, id ∈ revoked
  held : ∀ {session}, call.phase.session? = some session →
    (session.id, session.tokenFamily) ∈ created ∧ session.id ∉ call.revokedAtBegin
  refused : ∀ {pair}, call.phase = .returned (.ok pair) → ∀ id ∈ call.revokedAtBegin,
    validateRefreshToken call.token ≠ .ok id

structure RevocationSound (repository : FaithfulRepository Store) (state : AuthState Store) : Prop
    extends Sound repository state where
  families : ∀ {id family other}, (id, family) ∈ state.created → (id, other) ∈ state.created →
    family = other
  recorded : ∀ {id session}, repository.Live state.store id session →
    (id, session.tokenFamily) ∈ state.created
  gone : ∀ id ∈ state.revoked, ∀ session, ¬ repository.Live state.store id session
  calm : ∀ {index call}, state.calls index = some call →
    RevocationCall state.created state.revoked call

variable {service : AuthService} {repository : FaithfulRepository Store}

/-- What the invariant says of the revocations. -/
theorem RevocationSound.final {state : AuthState Store}
    (sound : RevocationSound repository state) : RevocationFinal repository state :=
  ⟨sound.gone, fun present => (sound.calm present).refused⟩

/-- At the start nothing was revoked. -/
theorem revocationSound_start {store : Store} (empty : ∀ id, repository.view store id = none) :
    RevocationSound repository (AuthState.start store) where
  toSound := sound_start empty
  families member := by cases member
  recorded live := by
    have stored := live.1
    rw [AuthState.start, empty] at stored
    cases stored
  gone id member := by cases member
  calm present := by cases present

section

variable {created later : List (Uuid × Uuid)} {revoked more : List Uuid} {call : Call}

/-- More revocations do no harm to a call that has begun. -/
theorem RevocationCall.mono (sound : RevocationCall created revoked call)
    (grown : ∀ entry ∈ created, entry ∈ later) (further : ∀ id ∈ revoked, id ∈ more) :
    RevocationCall later more call :=
  ⟨fun id member => further id (sound.remembered id member),
    fun held => ⟨grown _ (sound.held held).1, (sound.held held).2⟩, sound.refused⟩

/-- A call that holds nothing and has not succeeded owes nothing. -/
theorem RevocationCall.idle (remembered : ∀ id ∈ call.revokedAtBegin, id ∈ revoked)
    (empty : call.phase.session? = none)
    (unsuccessful : ∀ pair, call.phase ≠ .returned (.ok pair)) :
    RevocationCall created revoked call := by
  refine ⟨remembered, fun held => ?_, fun succeeded => (unsuccessful _ succeeded).elim⟩
  rw [empty] at held
  cases held

/-- A call's own steps keep what it holds. -/
theorem Quiet.revocationCall {phase : RefreshPhase} (sound : RevocationCall created revoked call)
    (quiet : service.Quiet call.token call.phase phase) :
    RevocationCall created revoked { call with phase := phase } := by
  generalize before : call.phase = old at quiet
  cases quiet with
  | failed _ _ => exact .idle sound.remembered rfl nofun
  | validated _ => exact .idle sound.remembered rfl nofun
  | replaced => exact .idle sound.remembered rfl nofun
  | matched _ =>
      refine ⟨sound.remembered, fun held => ?_, nofun⟩
      cases held
      exact sound.held (by rw [before]; rfl)
  | found =>
      refine ⟨sound.remembered, fun held => ?_, nofun⟩
      cases held
      exact sound.held (by rw [before]; rfl)

end

/-- Sessions of a revoked family are gone. -/
theorem gone_of_members {state : AuthState Store} {now : Time} {family id : Uuid} {store : Store}
    (sound : RevocationSound repository state)
    (revoked : repository.revokeFamily now family state.store = .ok store)
    (member : id ∈ state.members family) (session : Session) :
    ¬ repository.Live store id session := by
  intro live
  obtain ⟨different, live⟩ := (FaithfulRepository.live_revokeFamily revoked).mp live
  simp only [AuthState.members, List.mem_map, List.mem_filter, decide_eq_true_eq] at member
  obtain ⟨⟨known, recorded⟩, ⟨created, rfl⟩, rfl⟩ := member
  exact different (sound.families (sound.recorded live) created)

/-- A step of a call that stores no revoked session keeps revocations final. -/
theorem Advanced.revocationSound {state next : AuthState Store} {index : Nat} {input : StepInput}
    {call : Call} (sound : RevocationSound repository state)
    (present : state.calls index = some call)
    (unrevoked : StoresUnrevoked repository state (.advance index input))
    (advanced : service.Advanced repository state index input call next) :
    RevocationSound repository next := by
  have known := sound.toSound.transition (.advanced present advanced)
  have before := sound.calm present
  cases advanced with
  | quiet quiet =>
      refine ⟨known, sound.families, sound.recorded, sound.gone, fun after => ?_⟩
      rcases AuthState.calls_put after with ⟨-, rfl⟩ | ⟨-, same⟩
      · exact quiet.revocationCall before
      · exact sound.calm same
  | read phase live =>
      refine ⟨known, sound.families, sound.recorded, sound.gone, fun after => ?_⟩
      rcases AuthState.calls_put after with ⟨-, rfl⟩ | ⟨-, same⟩
      · refine ⟨before.remembered, fun held => ?_, nofun⟩
        cases held
        rw [sound.stored live]
        exact ⟨sound.recorded live, fun member =>
          sound.gone _ (before.remembered _ member) _ live⟩
      · exact sound.calm same
  | @revoked family _ phase revoked =>
      refine ⟨known, sound.families, fun live => ?_, fun id member session live => ?_,
        fun after => ?_⟩
      · exact sound.recorded ((FaithfulRepository.live_revokeFamily revoked).mp live).2
      · rcases List.mem_append.mp member with old | new
        · exact sound.gone id old session
            ((FaithfulRepository.live_revokeFamily revoked).mp live).2
        · exact gone_of_members sound revoked new session live
      · have further := fun id (member : id ∈ state.revoked) =>
          List.mem_append_left (state.members family) member
        rcases AuthState.calls_put after with ⟨-, rfl⟩ | ⟨-, same⟩
        · exact .idle (fun id member => further id (before.remembered id member)) rfl nofun
        · exact (sound.calm same).mono (fun _ member => member) further
  | @generated session _ pair phase _ =>
      refine ⟨known, sound.families, sound.recorded, sound.gone, fun after => ?_⟩
      rcases AuthState.calls_put after with ⟨-, rfl⟩ | ⟨-, same⟩
      · refine ⟨before.remembered, fun held => ?_, nofun⟩
        cases held
        have held : call.phase.session? = some session := by rw [phase]; rfl
        have known := before.held held
        exact known
      · exact sound.calm same
  | @stored session pair store phase created =>
      have held : call.phase.session? = some session := by rw [phase]; rfl
      obtain ⟨recorded, unremembered⟩ := before.held held
      refine ⟨known, sound.families, fun live => ?_, fun id member other live => ?_,
        fun after => ?_⟩
      · rcases FaithfulRepository.live_create created live with ⟨rfl, rfl⟩ | ⟨-, live⟩
        · exact recorded
        · exact sound.recorded live
      · rcases FaithfulRepository.live_create created live with ⟨rfl, rfl⟩ | ⟨-, live⟩
        · exact unrevoked call _ pair store present phase created member
        · exact sound.gone id member other live
      · rcases AuthState.calls_put after with ⟨-, rfl⟩ | ⟨-, same⟩
        · refine ⟨before.remembered, nofun, fun _ id member validated => ?_⟩
          rw [((sound.calls present).held held).1] at validated
          cases validated
          exact unremembered member
        · exact sound.calm same

/-- Guarded steps keep revocations final. -/
theorem RevocationSound.step {state next : AuthState Store} {label : AuthLabel}
    (sound : RevocationSound repository state) (unrevoked : StoresUnrevoked repository state label)
    (step : (service.machine repository).step state label = some next) :
    RevocationSound repository next := by
  have transition := step_transition step
  have known := sound.toSound.transition transition
  cases transition with
  | unchanged _ => exact sound
  | @loggedIn request input users session store isLive freshSession _ created =>
      have grown (entry : Uuid × Uuid) (member : entry ∈ state.created) :
          entry ∈ (session.id, session.tokenFamily) :: state.created :=
        List.mem_cons_of_mem _ member
      refine ⟨known, fun first second => ?_, fun live => ?_, fun id member other live => ?_,
        fun present => (sound.calm present).mono grown fun _ member => member⟩
      · rcases List.mem_cons.mp first with same | first <;>
          rcases List.mem_cons.mp second with equal | second
        · exact (congrArg Prod.snd same).trans (congrArg Prod.snd equal).symm
        · exact (freshSession.1 _ second (congrArg Prod.fst same)).elim
        · exact (freshSession.1 _ first (congrArg Prod.fst equal)).elim
        · exact sound.families first second
      · rcases FaithfulRepository.live_create created live with ⟨rfl, rfl⟩ | ⟨-, live⟩
        · exact List.mem_cons_self
        · exact grown _ (sound.recorded live)
      · rcases FaithfulRepository.live_create created live with ⟨rfl, rfl⟩ | ⟨-, live⟩
        · exact freshSession.2 member
        · exact sound.gone id member other live
  | began token _ =>
      refine ⟨known, sound.families, sound.recorded, sound.gone, fun after => ?_⟩
      rcases AuthState.calls_put after with ⟨-, rfl⟩ | ⟨-, same⟩
      · exact .idle (fun _ member => member) rfl nofun
      · exact sound.calm same
  | advanced present advanced => exact advanced.revocationSound sound present unrevoked
  | @loggedOut _ sessionID _ revoked =>
      have grown := fun id (member : id ∈ state.revoked) => List.mem_cons_of_mem sessionID member
      refine ⟨known, sound.families, fun live => ?_, fun id member session live => ?_,
        fun present => (sound.calm present).mono (fun _ member => member) grown⟩
      · exact sound.recorded ((FaithfulRepository.live_revokeByID revoked).mp live).2
      · obtain ⟨different, live⟩ := (FaithfulRepository.live_revokeByID revoked).mp live
        rcases List.mem_cons.mp member with rfl | member
        · exact different rfl
        · exact sound.gone id member session live

/-- A step after which revocations are still final has stored no revoked session. -/
theorem storesUnrevoked_of_final {state next : AuthState Store} {label : AuthLabel}
    (sound : RevocationSound repository state)
    (step : (service.machine repository).step state label = some next)
    (final : RevocationFinal repository next) : StoresUnrevoked repository state label := by
  cases label with
  | login _ _ _ => trivial
  | begin _ _ => trivial
  | logout _ _ => trivial
  | advance index input =>
      intro call session pair store present phase created revoked
      have unrevoked := ((sound.calls present).held (by rw [phase]; rfl)).2
      change service.advance repository state index input = some next at step
      simp only [advance, present, phase, refreshStep, created, Option.some.injEq] at step
      subst step
      exact final.gone session.id revoked session
        (FaithfulRepository.live_created created unrevoked)

/-- Over every faithful repository and in every run: revocations are final
exactly as long as no call stores a session that was revoked since it read it. -/
theorem revocationFinal_iff {store : Store} (empty : ∀ id, repository.view store id = none)
    (labels : List AuthLabel) :
    (service.machine repository).Along (RevocationFinal repository) (AuthState.start store)
        labels ↔
      (service.machine repository).Guarded (StoresUnrevoked repository) (AuthState.start store)
        labels := by
  refine Machine.along_iff_guarded ?_ ?_ ?_ labels (revocationSound_start empty)
  · intro state sound
    exact sound.final
  · intro state label next sound unrevoked step
    exact sound.step unrevoked step
  · intro state label next sound step final
    exact storesUnrevoked_of_final sound step final

/-- An undisturbed store is one of an unrevoked session. -/
theorem storesUnrevoked_of_undisturbed (state : AuthState Store) (label : AuthLabel)
    (stores : state.storesUndisturbed label = true) : StoresUnrevoked repository state label := by
  cases label with
  | login _ _ _ => trivial
  | begin _ _ => trivial
  | logout _ _ => trivial
  | advance index input =>
      intro call session pair store present phase _
      exact (AuthState.undisturbed stores present phase).1

/-- A refresh has succeeded when the session is logged out, and the calls that are then
under way are refused. -/
theorem revocationFinal_turnByTurn :
    Installed.machine.Along (RevocationFinal sessionMap.toFaithfulRepository)
        (AuthState.start fun _ => none) Installed.turnByTurn ∧
      (Installed.machine.exec (AuthState.start fun _ => none) Installed.turnByTurn).map
        (fun state => (state.exchanges.map Prod.fst, state.revoked)) =
        some ([0], [Installed.uuid 2, Installed.uuid 2]) := by
  obtain ⟨passed, final⟩ := Installed.turnByTurn_undisturbed
  exact ⟨(revocationFinal_iff (fun _ => rfl) _).mpr
    (Machine.guarded_of_passes storesUnrevoked_of_undisturbed passed), final⟩

/-- A logout between the read and the write of a refresh, which then stores the
session again. -/
def lostRevocation : List AuthLabel :=
  Installed.loggedInAndBegun ++ List.replicate 5 (.advance 0 (Installed.stepInput 6)) ++
    [.logout 0 (Installed.uuid 2), .advance 0 (Installed.stepInput 6)]

/-- The session that was logged out is live again. -/
theorem revocationFinal_fails :
    ¬ Installed.machine.Along (RevocationFinal sessionMap.toFaithfulRepository)
      (AuthState.start fun _ => none) lostRevocation := by
  intro final
  have run : (Installed.machine.exec (AuthState.start fun _ => none) lostRevocation).map
      (fun state => (state.revoked, (state.store (Installed.uuid 2)).map Session.isRevoked)) =
        some ([Installed.uuid 2], some false) := by decide +kernel
  obtain ⟨state, reached, observed⟩ := Option.map_eq_some_iff.mp run
  obtain ⟨revoked, stored⟩ := Prod.mk.inj observed
  obtain ⟨session, present, unrevoked⟩ := Option.map_eq_some_iff.mp stored
  have member : Installed.uuid 2 ∈ state.revoked := by
    rw [revoked]
    exact List.mem_singleton_self _
  exact (final.final reached).gone (Installed.uuid 2) member
    session ⟨present, unrevoked⟩

end AuthService
end Sentinel.Auth
