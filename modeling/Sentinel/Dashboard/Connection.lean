import Mathlib.Algebra.GroupWithZero.Nat
import Sentinel.Semantics.Machine
import Sentinel.Wire.Json

/-!
# The dashboard's socket

`useWebSocket`: every run of its effect has variables of its own, and all runs
share the state and the refs of the hook. A label is one task of the browser:
React commits a URL or unmounts the component, a timer fires, or a socket delivers
an event. A socket delivers messages while it is open, and when its connection
fails it delivers `error` and `close` in one task. When the server starts the closing
handshake `readyState` changes without an event, and `close` comes later.
-/

namespace Sentinel.Dashboard

open Sentinel.Wire Sentinel.Semantics

/-- The last entry with a key is the one that `JSON.parse` keeps. -/
def property (entries : List (String × Json)) (key : String) : Option Json :=
  (entries.reverse.find? (·.1 = key)).map Prod.snd

/-- Whether a condition of JavaScript takes the value for true. -/
def truthy : Json → Bool
  | .null => false
  | .bool value => value
  | .num value => value ≠ 0
  | .str text => text ≠ ""
  | .time _ | .arr _ | .obj _ => true

/-- The data of a parsed frame; `none` when reading `type` throws. -/
def frameData : Json → Option Json
  | .null => none
  | .obj entries =>
      match property entries "data" with
      | some data => some (if (property entries "type").any truthy then data else .obj entries)
      | none => some (.obj entries)
  | message => some message

/-- `readyState` -/
inductive ReadyState where
  | connecting
  | opened
  | closing
  | closed
deriving DecidableEq

/-- What `close()` makes of it. -/
def ReadyState.close : ReadyState → ReadyState
  | .connecting | .opened | .closing => .closing
  | .closed => .closed

def ReadyState.live : ReadyState → Bool
  | .connecting | .opened => true
  | .closing | .closed => false

structure Socket where
  /-- The run of the effect that created it. -/
  run : Nat
  ready : ReadyState

/-- The variables of one run of the effect. -/
structure EffectRun where
  url : String
  cancelled : Bool := false
  retryTimer : Option Nat := none

structure Timer where
  /-- The run whose `connect` it calls. -/
  run : Nat
  delay : Nat
  pending : Bool := true

structure Hook where
  /-- The URL of the last commit. -/
  url : Option String := none
  mounted : Bool := true
  data : Json := .null
  isConnected : Bool := false
  socketRef : Option Nat := none
  retryRef : Nat := 0
  runs : List EffectRun := []
  /-- The run whose cleanup is still to come. -/
  current : Option Nat := none
  sockets : List Socket := []
  timers : List Timer := []
  /-- A message that did not come from a socket of the current run has set `data`. -/
  strayed : Bool := false

inductive Task where
  | commit (url : Option String)
  | unmount
  | timeout (timer : Nat)
  | opened (socket : Nat)
  | message (socket : Nat) (text : String)
  /-- The server starts the closing handshake, of which no handler is told. -/
  | closing (socket : Nat)
  | closed (socket : Nat)
  /-- The connection fails: an error, and then the close event. -/
  | failed (socket : Nat)

namespace Hook

/-- A setter does nothing once the component is unmounted. -/
def setIsConnected (state : Hook) (value : Bool) : Hook :=
  if state.mounted then { state with isConnected := value } else state

def setData (state : Hook) (data : Json) : Hook :=
  if state.mounted then { state with data } else state

def setReady (state : Hook) (id : Nat) (become : ReadyState → ReadyState) : Hook :=
  { state with
    sockets := state.sockets.modify id fun socket => { socket with ready := become socket.ready } }

def setTimeout (state : Hook) (run delay : Nat) : Hook :=
  { state with
    timers := state.timers ++ [{ run, delay }]
    runs := state.runs.modify run fun closure =>
      { closure with retryTimer := some state.timers.length } }

/-- A timer that is cleared or has fired fires no more. -/
def clearTimeout (state : Hook) (timer : Nat) : Hook :=
  { state with timers := state.timers.modify timer fun entry => { entry with pending := false } }

def cancelled (state : Hook) (run : Nat) : Bool := state.runs[run]?.all (·.cancelled)

def connect (state : Hook) (run : Nat) : Hook :=
  if state.cancelled run then state
  else { state with
    socketRef := some state.sockets.length
    sockets := state.sockets ++ [⟨run, .connecting⟩] }

def onopen (state : Hook) : Hook := { state with retryRef := 0 }.setIsConnected true

def onmessage (parse : String → Option Json) (state : Hook) (socket : Socket) (text : String) :
    Hook :=
  match (parse text).bind frameData with
  | some data =>
      { state with strayed := state.strayed || state.current ≠ some socket.run }.setData data
  | none => state

def onclose (state : Hook) (socket : Socket) : Hook :=
  let state := state.setIsConnected false
  if state.cancelled socket.run then state
  else
    { state with retryRef := state.retryRef + 1 }.setTimeout socket.run
      (min 30000 (500 * 2 ^ state.retryRef))

def onerror (state : Hook) (id : Nat) : Hook := state.setReady id .close

/-- A new run of the effect. -/
def enter (state : Hook) (url : String) : Hook :=
  { state with
    url := some url
    runs := state.runs ++ [({ url } : EffectRun)]
    current := some state.runs.length }

def effect (state : Hook) (url : Option String) : Hook :=
  match url with
  | none | some "" => { state with url }
  | some url => (state.enter url).connect state.runs.length

/-- `if (retryTimer) clearTimeout(retryTimer)` -/
def clearRetry (state : Hook) (run : Nat) : Hook :=
  match state.runs[run]?.bind EffectRun.retryTimer with
  | some timer => state.clearTimeout timer
  | none => state

/-- `socketRef.current?.close()`, and the reference is dropped. -/
def closeRef (state : Hook) : Hook :=
  match state.socketRef with
  | some id => { state.setReady id .close with socketRef := none }
  | none => state

def cancel (state : Hook) (run : Nat) : Hook :=
  { state with
    current := none
    runs := state.runs.modify run fun closure => { closure with cancelled := true } }

/-- The function that the last run has returned. -/
def cleanup (state : Hook) : Hook :=
  match state.current with
  | none => state
  | some run => ((state.cancel run).clearRetry run).closeRef

/-- The task that a socket in a state that `allowed` describes delivers an event. -/
def deliver (state : Hook) (id : Nat) (allowed : ReadyState → Bool) (handle : Socket → Hook) :
    Option Hook :=
  state.sockets[id]?.bind fun socket => if allowed socket.ready then some (handle socket) else none

def step (parse : String → Option Json) (state : Hook) : Task → Option Hook
  | .commit url =>
      if state.mounted then
        some (if url = state.url then state else state.cleanup.effect url)
      else none
  | .unmount => if state.mounted then some { state.cleanup with mounted := false } else none
  | .timeout timer =>
      state.timers[timer]?.bind fun entry =>
        if entry.pending then some ((state.clearTimeout timer).connect entry.run) else none
  | .opened id =>
      state.deliver id (· = .connecting) fun _ => (state.setReady id fun _ => .opened).onopen
  | .message id text =>
      state.deliver id (· = .opened) fun socket => state.onmessage parse socket text
  | .closing id =>
      state.deliver id (· = .opened) fun _ => state.setReady id fun _ => .closing
  | .closed id =>
      state.deliver id (· ≠ .closed) fun socket =>
        (state.setReady id fun _ => .closed).onclose socket
  | .failed id =>
      state.deliver id (· ≠ .closed) fun socket =>
        ((state.setReady id fun _ => .closed).onerror id).onclose socket

/-- The component is mounted with a URL. -/
def start (url : Option String) : Hook := effect { mounted := true } url

/-- A socket that the current run has created is open. -/
def CurrentOpen (state : Hook) : Prop :=
  ∃ (id : Nat) (socket : Socket), state.sockets[id]? = some socket ∧
    state.current = some socket.run ∧ socket.ready = .opened

/-- A connection that the hook keeps, or one that it is about to make. -/
inductive Attempt where
  | socket (id : Nat)
  | retry (timer : Nat)

def Has (state : Hook) : Attempt → Prop
  | .socket id => ∃ socket, state.sockets[id]? = some socket ∧ socket.ready.live = true
  | .retry timer => ∃ entry, state.timers[timer]? = some entry ∧ entry.pending = true

structure FollowsSocket (state : Hook) : Prop where
  reported : state.mounted = true → (state.isConnected = true ↔ state.CurrentOpen)
  own : state.strayed = false
  single : ∀ attempt other, state.Has attempt → state.Has other → attempt = other

/-- While the current socket is open, the URL stays, no replaced socket delivers its
close event and the server does not start to close it. -/
def Undisturbed (state : Hook) : Task → Prop
  | .commit url => url ≠ state.url → ¬ state.CurrentOpen
  | .closed id | .failed id =>
      ∀ socket, state.sockets[id]? = some socket → state.current ≠ some socket.run →
        ¬ state.CurrentOpen
  | .closing _ => ¬ state.CurrentOpen
  | .unmount | .timeout _ | .opened _ | .message _ _ => True

/-- The socket delivers nothing any more but its close event, and that one only
after its run has ended. -/
def Retired (state : Hook) (id : Nat) : Prop :=
  ∀ socket, state.sockets[id]? = some socket →
    socket.ready = .closed ∨ socket.ready = .closing ∧ state.current ≠ some socket.run

def Fired (state : Hook) (timer : Nat) : Prop :=
  ∀ entry, state.timers[timer]? = some entry → entry.pending = false

/-- What the current run is doing: there is none, or it has a socket that has not
delivered its close event, or it waits to open one. -/
inductive Situation (state : Hook) : Prop where
  | idle (ended : state.current = none) (sockets : ∀ id, state.Retired id)
      (timers : ∀ timer, state.Fired timer)
  | engaged (id : Nat) (socket : Socket) (ref : state.socketRef = some id)
      (found : state.sockets[id]? = some socket) (current : state.current = some socket.run)
      (unclosed : socket.ready ≠ .closed) (sockets : ∀ other, other ≠ id → state.Retired other)
      (timers : ∀ timer, state.Fired timer)
  | waiting (timer : Nat) (entry : Timer) (closure : EffectRun)
      (found : state.timers[timer]? = some entry) (current : state.current = some entry.run)
      (running : state.runs[entry.run]? = some closure) (ref : closure.retryTimer = some timer)
      (sockets : ∀ id, state.Retired id) (timers : ∀ other, other ≠ timer → state.Fired other)

/-- The current run is the one that is not cancelled. -/
structure Wired (state : Hook) : Prop where
  running : ∀ (run : Nat) (closure : EffectRun), state.runs[run]? = some closure →
    (closure.cancelled = false ↔ state.current = some run)
  begun : ∀ run, state.current = some run → run < state.runs.length
  owned : ∀ (id : Nat) (socket : Socket), state.sockets[id]? = some socket →
    socket.run < state.runs.length
  mounted : state.mounted = false → state.current = none
  own : state.strayed = false

/-- The current run, if there is one, has neither a socket nor a retry. -/
structure Resting (state : Hook) : Prop where
  sockets : ∀ id, state.Retired id
  timers : ∀ timer, state.Fired timer

variable {parse : String → Option Json} {state next : Hook}

/-- An entry of the longer list is the last one or was there before. -/
theorem of_getElem?_concat {α : Type} {list : List α} {last entry : α} {index : Nat}
    (found : (list ++ [last])[index]? = some entry) :
    list[index]? = some entry ∨ index = list.length ∧ last = entry := by
  by_cases inside : index < list.length
  · rw [List.getElem?_append_left inside] at found
    exact .inl found
  · rw [List.getElem?_append_right (Nat.le_of_not_lt inside)] at found
    have same : entry = last := List.mem_singleton.mp (List.mem_of_getElem? found)
    have first := (List.getElem?_eq_some_iff.mp found).1
    simp only [List.length_singleton] at first
    exact .inr ⟨by omega, same.symm⟩

/-- An entry of a modified list comes from one of the list. -/
theorem of_getElem?_modify {α : Type} {list : List α} {change : α → α} {index other : Nat}
    {entry : α} (found : (list.modify index change)[other]? = some entry) :
    ∃ before, list[other]? = some before ∧
      (index = other ∧ entry = change before ∨ index ≠ other ∧ entry = before) := by
  rw [List.getElem?_modify] at found
  obtain ⟨before, present, same⟩ := Option.map_eq_some_iff.mp found
  refine ⟨before, present, ?_⟩
  by_cases itself : index = other
  · rw [if_pos itself] at same
    exact .inl ⟨itself, same.symm⟩
  · rw [if_neg itself] at same
    exact .inr ⟨itself, same.symm⟩

/-- The run that is current was not cancelled. -/
theorem cancelled_eq_false (wired : state.Wired) {run : Nat} (current : state.current = some run) :
    state.cancelled run = false := by
  obtain ⟨closure, found⟩ : ∃ closure, state.runs[run]? = some closure :=
    ⟨_, List.getElem?_eq_getElem (wired.begun run current)⟩
  simp only [cancelled, found, Option.all_some, (wired.running run closure found).mpr current]

/-- Every other was. -/
theorem cancelled_eq_true (wired : state.Wired) {run : Nat} (current : state.current ≠ some run) :
    state.cancelled run = true := by
  cases found : state.runs[run]? with
  | none => simp only [cancelled, found, Option.all_none]
  | some closure =>
      have ended := mt (wired.running run closure found).mp current
      simp only [cancelled, found, Option.all_some, Bool.not_eq_false] at ended ⊢
      exact ended

/-- A connection is opened for a run that has none. -/
theorem connect_spec (wired : state.Wired) (resting : state.Resting) {run : Nat}
    (current : state.current = some run) :
    (state.connect run).Wired ∧ (state.connect run).Situation := by
  rw [connect, if_neg (by rw [cancelled_eq_false wired current]; exact Bool.false_ne_true)]
  refine ⟨⟨wired.running, wired.begun, fun id socket found => ?_, wired.mounted, wired.own⟩,
    .engaged state.sockets.length ⟨run, .connecting⟩ rfl List.getElem?_concat_length current nofun
      (fun other different socket found => ?_) resting.timers⟩
  · rcases of_getElem?_concat found with old | ⟨_, rfl⟩
    · exact wired.owned id socket old
    · exact wired.begun run current
  · rcases of_getElem?_concat found with old | ⟨last, _⟩
    · exact resting.sockets other socket old
    · exact absurd last different

/-- When no run goes on, a socket is retired once it is closing. -/
theorem retired_of_ended (ended : state.current = none) {id : Nat}
    (dead : ∀ socket, state.sockets[id]? = some socket → socket.ready.live = false) :
    state.Retired id := by
  intro socket found
  have dead := dead socket found
  cases ready : socket.ready with
  | closed => exact .inl rfl
  | closing => exact .inr ⟨rfl, by rw [ended]; nofun⟩
  | connecting | opened => rw [ready] at dead; cases dead

/-- A retired socket is closing or closed. -/
theorem Retired.dead {id : Nat} (retired : state.Retired id) {socket : Socket}
    (found : state.sockets[id]? = some socket) : socket.ready.live = false := by
  rcases retired socket found with closed | ⟨closing, _⟩
  · rw [closed]; rfl
  · rw [closing]; rfl

theorem live_close (ready : ReadyState) : ready.close.live = false := by
  cases ready <;> rfl

/-- A timer that was cleared does not fire. -/
theorem clearTimeout_fired (timer : Nat) : (state.clearTimeout timer).Fired timer := by
  intro entry found
  obtain ⟨_, _, ⟨_, rfl⟩ | ⟨different, _⟩⟩ := of_getElem?_modify found
  · rfl
  · exact absurd rfl different

theorem Fired.clearTimeout {other : Nat} (fired : state.Fired other) (timer : Nat) :
    (state.clearTimeout timer).Fired other := by
  intro entry found
  obtain ⟨before, present, ⟨_, rfl⟩ | ⟨_, rfl⟩⟩ := of_getElem?_modify found
  · rfl
  · exact fired _ present

theorem Fired.clearRetry {other : Nat} (fired : state.Fired other) (run : Nat) :
    (state.clearRetry run).Fired other := by
  unfold Hook.clearRetry
  split
  · exact fired.clearTimeout _
  · exact fired

@[simp] theorem clearRetry_frame (run : Nat) :
    (state.clearRetry run).current = state.current ∧ (state.clearRetry run).runs = state.runs ∧
      (state.clearRetry run).sockets = state.sockets ∧
      (state.clearRetry run).socketRef = state.socketRef ∧
      (state.clearRetry run).mounted = state.mounted ∧
      (state.clearRetry run).strayed = state.strayed ∧
      (state.clearRetry run).isConnected = state.isConnected := by
  unfold clearRetry
  split <;> exact ⟨rfl, rfl, rfl, rfl, rfl, rfl, rfl⟩

@[simp] theorem closeRef_frame :
    state.closeRef.current = state.current ∧ state.closeRef.runs = state.runs ∧
      state.closeRef.timers = state.timers ∧ state.closeRef.mounted = state.mounted ∧
      state.closeRef.strayed = state.strayed ∧
      state.closeRef.isConnected = state.isConnected := by
  unfold closeRef
  split <;> exact ⟨rfl, rfl, rfl, rfl, rfl, rfl⟩

/-- A socket after `closeRef` is one from before, which is dead if it was or if it
is the one referred to. -/
theorem of_closeRef {id : Nat} {socket : Socket}
    (found : state.closeRef.sockets[id]? = some socket) :
    ∃ before, state.sockets[id]? = some before ∧ before.run = socket.run ∧
      (before.ready.live = false ∨ state.socketRef = some id → socket.ready.live = false) := by
  unfold closeRef at found
  split at found
  · rename_i closed ref
    obtain ⟨before, present, ⟨_, rfl⟩ | ⟨different, rfl⟩⟩ := of_getElem?_modify found
    · exact ⟨before, present, rfl, fun _ => live_close before.ready⟩
    · refine ⟨_, present, rfl, fun dead => dead.resolve_right ?_⟩
      rw [ref]
      exact fun equal => different (Option.some.inj equal)
  · rename_i ref
    refine ⟨socket, found, rfl, fun dead => dead.resolve_right ?_⟩
    rw [ref]
    nofun

/-- The cleanup neither unmounts nor reports. -/
theorem cleanup_frame : state.cleanup.mounted = state.mounted ∧
    state.cleanup.isConnected = state.isConnected := by
  unfold cleanup
  split
  · exact ⟨rfl, rfl⟩
  · simp [cancel]

/-- After the cleanup no run is without its mark. -/
theorem runs_cancelled (wired : state.Wired) {run other : Nat} (current : state.current = some run)
    {closure : EffectRun}
    (found : (state.cancel run).runs[other]? = some closure) : closure.cancelled = true := by
  obtain ⟨before, present, ⟨_, rfl⟩ | ⟨different, rfl⟩⟩ := of_getElem?_modify found
  · rfl
  · have ended := mt (wired.running other _ present).mp
      (by rw [current]; exact fun equal => different (Option.some.inj equal))
    rwa [Bool.not_eq_false] at ended

/-- The cleanup leaves no run, and nothing that one would leave behind. -/
theorem cleanup_spec (wired : state.Wired) (situation : state.Situation) :
    state.cleanup.Wired ∧ state.cleanup.Resting ∧ state.cleanup.current = none := by
  cases current : state.current with
  | none =>
      rw [show state.cleanup = state by simp only [cleanup, current]]
      refine ⟨wired, ?_, current⟩
      cases situation with
      | idle _ sockets timers => exact ⟨sockets, timers⟩
      | engaged _ _ _ _ running => rw [current] at running; cases running
      | waiting _ _ _ _ running => rw [current] at running; cases running
  | some run =>
      have ended : state.cleanup.current = none := by simp [cleanup, current, cancel]
      refine ⟨⟨fun other closure found => ?_, ?_, fun id socket found => ?_, ?_, ?_⟩,
        ⟨fun id => retired_of_ended ended fun socket found => ?_, fun timer => ?_⟩, ended⟩
      · rw [ended]
        simp only [cleanup, current, closeRef_frame, clearRetry_frame] at found
        rw [runs_cancelled wired current found]
        exact ⟨nofun, nofun⟩
      · rw [ended]
        nofun
      · simp only [cleanup, current] at found ⊢
        obtain ⟨before, found, same, _⟩ := of_closeRef found
        simp only [clearRetry_frame, cancel] at found
        simpa [← same, cancel] using wired.owned id before found
      · exact fun _ => ended
      · simpa [cleanup, current, cancel] using wired.own
      · simp only [cleanup, current] at found
        obtain ⟨before, found, _, dead⟩ := of_closeRef found
        simp only [clearRetry_frame, cancel] at found dead
        apply dead
        cases situation with
        | idle none => rw [current] at none; cases none
        | engaged kept _ ref _ _ _ others =>
            by_cases same : id = kept
            · exact .inr (same ▸ ref)
            · exact .inl ((others id same).dead found)
        | waiting _ _ _ _ _ _ _ sockets => exact .inl ((sockets id).dead found)
      · have fired : ((state.cancel run).clearRetry run).Fired timer := by
          cases situation with
          | idle none => rw [current] at none; cases none
          | engaged _ _ _ _ _ _ _ timers =>
              have fired : (state.cancel run).Fired timer := timers timer
              exact fired.clearRetry run
          | waiting retry entry closure _ running found ref _ timers =>
              by_cases same : timer = retry
              · obtain rfl := Option.some.inj (current.symm.trans running)
                rw [clearRetry, cancel]
                simp only [List.getElem?_modify_eq, found, Option.map_eq_map, Option.map_some,
                  Option.bind_some, ref]
                exact same ▸ clearTimeout_fired _
              · have fired : (state.cancel run).Fired timer := timers timer same
                exact fired.clearRetry run
        simpa only [cleanup, current, Fired, closeRef_frame] using fired

/-- A run that begins is the current one. -/
theorem enter_spec (wired : state.Wired) (resting : state.Resting) (ended : state.current = none)
    (mounted : state.mounted = true) (url : String) :
    (state.enter url).Wired ∧ (state.enter url).Resting := by
  refine ⟨⟨fun run closure found => ?_, fun run current => ?_, fun id socket found => ?_,
    fun unmounted => ?_, wired.own⟩, fun id socket found => ?_, resting.timers⟩
  · rcases of_getElem?_concat found with old | ⟨last, rfl⟩
    · have inside := (List.getElem?_eq_some_iff.mp old).1
      have past := (wired.running run closure old).not.mpr (by rw [ended]; nofun)
      refine ⟨fun going => absurd going past, fun current => ?_⟩
      exact absurd (Option.some.inj current) (Nat.ne_of_gt inside)
    · exact ⟨fun _ => congrArg some last.symm, fun _ => rfl⟩
  · obtain rfl := Option.some.inj current
    simp [enter]
  · have before := wired.owned id socket found
    simp only [enter, List.length_append, List.length_singleton]
    omega
  · exact absurd (mounted.symm.trans unmounted) (by decide)
  · refine (resting.sockets id socket found).imp_right fun closing => ⟨closing.1, fun current => ?_⟩
    exact absurd (Option.some.inj current) (Nat.ne_of_gt (wired.owned id socket found))

/-- The effect runs for a URL after the cleanup. -/
theorem effect_spec (wired : state.Wired) (resting : state.Resting) (ended : state.current = none)
    (mounted : state.mounted = true) (url : Option String) :
    (state.effect url).Wired ∧ (state.effect url).Situation := by
  have idle : ({ state with url } : Hook).Situation := .idle ended resting.sockets resting.timers
  have same : ({ state with url } : Hook).Wired :=
    ⟨wired.running, wired.begun, wired.owned, wired.mounted, wired.own⟩
  unfold effect
  split
  · exact ⟨same, idle⟩
  · exact ⟨same, idle⟩
  · rename_i text _
    obtain ⟨wired, resting⟩ := enter_spec wired resting ended mounted text
    exact connect_spec wired resting rfl

/-- What the hook reports is no part of the wiring. -/
theorem Wired.report (wired : state.Wired) (data : Json) (isConnected : Bool) (retryRef : Nat) :
    ({ state with data, isConnected, retryRef } : Hook).Wired :=
  ⟨wired.running, wired.begun, wired.owned, wired.mounted, wired.own⟩

/-- What is reported changes nothing else. -/
theorem Situation.report (situation : state.Situation) (data : Json) (isConnected : Bool)
    (retryRef : Nat) : ({ state with data, isConnected, retryRef } : Hook).Situation := by
  cases situation with
  | idle ended sockets timers => exact .idle ended sockets timers
  | engaged id socket ref found current unclosed sockets timers =>
      exact .engaged id socket ref found current unclosed sockets timers
  | waiting timer entry closure found current running ref sockets timers =>
      exact .waiting timer entry closure found current running ref sockets timers

/-- A socket that is not retired is the one that the current run has. -/
theorem Situation.of_engaged (situation : state.Situation) {id : Nat} {socket : Socket}
    (found : state.sockets[id]? = some socket) (engaged : ¬ state.Retired id) :
    state.socketRef = some id ∧ state.current = some socket.run ∧
      (∀ other, other ≠ id → state.Retired other) ∧ ∀ timer, state.Fired timer := by
  cases situation with
  | idle _ sockets => exact absurd (sockets id) engaged
  | waiting _ _ _ _ _ _ _ sockets => exact absurd (sockets id) engaged
  | engaged kept held ref present current _ sockets timers =>
      obtain rfl : id = kept := by
        by_contra different
        exact engaged (sockets id different)
      obtain rfl := Option.some.inj (found.symm.trans present)
      exact ⟨ref, current, sockets, timers⟩

/-- A live socket is. -/
theorem Situation.of_live (situation : state.Situation) {id : Nat} {socket : Socket}
    (found : state.sockets[id]? = some socket) (live : socket.ready.live = true) :
    state.socketRef = some id ∧ state.current = some socket.run ∧
      (∀ other, other ≠ id → state.Retired other) ∧ ∀ timer, state.Fired timer := by
  refine situation.of_engaged found fun retired => ?_
  rw [retired.dead found] at live
  cases live

/-- So is a socket of the current run whose close event is still to come. -/
theorem Situation.of_current (situation : state.Situation) {id : Nat} {socket : Socket}
    (found : state.sockets[id]? = some socket) (current : state.current = some socket.run)
    (ready : socket.ready ≠ .closed) :
    (∀ other, other ≠ id → state.Retired other) ∧ ∀ timer, state.Fired timer := by
  refine (situation.of_engaged found fun retired => ?_).2.2
  exact ((retired socket found).resolve_left ready).2 current

/-- The socket has its new state. -/
theorem found_setReady {id : Nat} {socket : Socket} (found : state.sockets[id]? = some socket)
    (become : ReadyState → ReadyState) :
    (state.setReady id become).sockets[id]? =
      some { socket with ready := become socket.ready } := by
  simp only [setReady, List.getElem?_modify_eq, found, Option.map_eq_map, Option.map_some]

/-- The others keep theirs. -/
theorem found_setReady_of_ne {id other : Nat} (different : other ≠ id)
    (become : ReadyState → ReadyState) :
    (state.setReady id become).sockets[other]? = state.sockets[other]? := by
  rw [setReady, List.getElem?_modify_ne _ _ (Ne.symm different)]

/-- The runs own their sockets as before. -/
theorem Wired.setReady (wired : state.Wired) (id : Nat) (become : ReadyState → ReadyState) :
    (state.setReady id become).Wired := by
  refine ⟨wired.running, wired.begun, fun other socket found => ?_, wired.mounted, wired.own⟩
  obtain ⟨before, present, ⟨_, rfl⟩ | ⟨_, rfl⟩⟩ := of_getElem?_modify found
  · exact wired.owned other before present
  · exact wired.owned other _ present

/-- What is retired stays so. -/
theorem Retired.setReady {id other : Nat} (retired : state.Retired other) (different : other ≠ id)
    (become : ReadyState → ReadyState) : (state.setReady id become).Retired other := by
  intro socket found
  rw [found_setReady_of_ne different] at found
  exact retired socket found

/-- A closed socket is retired. -/
theorem retired_closed (id : Nat) : (state.setReady id fun _ => .closed).Retired id := by
  intro socket found
  obtain ⟨_, _, ⟨_, rfl⟩ | ⟨different, _⟩⟩ := of_getElem?_modify found
  · exact .inl rfl
  · exact absurd rfl different

/-- A socket of another run than the current one is retired. -/
theorem Situation.retired_of_past (situation : state.Situation) {id : Nat} {socket : Socket}
    (found : state.sockets[id]? = some socket) (past : state.current ≠ some socket.run) :
    state.Retired id := by
  by_contra engaged
  exact past (situation.of_engaged found engaged).2.1

/-- The close event of a retired socket changes nothing about the others. -/
theorem Situation.closed (situation : state.Situation) {id : Nat} (retired : state.Retired id) :
    (state.setReady id fun _ => .closed).Situation := by
  have settled : ∀ other, state.Retired other →
      (state.setReady id fun _ => .closed).Retired other := by
    intro other before
    by_cases same : other = id
    · subst same
      exact retired_closed other
    · exact before.setReady same _
  cases situation with
  | idle ended sockets timers =>
      exact .idle ended (fun other => settled other (sockets other)) timers
  | engaged kept held ref found current unclosed sockets timers =>
      have different : kept ≠ id := by
        intro same
        subst same
        exact ((retired held found).resolve_left unclosed).2 current
      exact .engaged kept held ref ((found_setReady_of_ne different _).trans found) current unclosed
        (fun other apart => settled other (sockets other apart)) timers
  | waiting timer entry closure found current running ref sockets timers =>
      exact .waiting timer entry closure found current running ref
        (fun other => settled other (sockets other)) timers

/-- The current socket is connected. -/
theorem opened_spec (wired : state.Wired) (situation : state.Situation) {id : Nat} {socket : Socket}
    (found : state.sockets[id]? = some socket) (ready : socket.ready = .connecting) :
    (state.setReady id fun _ => .opened).onopen.Wired ∧
      (state.setReady id fun _ => .opened).onopen.Situation := by
  obtain ⟨ref, current, sockets, timers⟩ := situation.of_live found (by rw [ready]; rfl)
  have engaged : (state.setReady id fun _ => .opened).Situation :=
    .engaged id _ ref (found_setReady found _) current nofun
      (fun other different => (sockets other different).setReady different _) timers
  have wired := wired.setReady id fun _ => .opened
  unfold onopen setIsConnected
  split
  · exact ⟨wired.report _ _ _, engaged.report _ _ _⟩
  · exact ⟨wired.report _ _ _, engaged.report _ _ _⟩

/-- The server starts to close the current socket. -/
theorem closing_spec (wired : state.Wired) (situation : state.Situation) {id : Nat}
    {socket : Socket} (found : state.sockets[id]? = some socket) (ready : socket.ready = .opened) :
    (state.setReady id fun _ => .closing).Wired ∧
      (state.setReady id fun _ => .closing).Situation := by
  obtain ⟨ref, current, sockets, timers⟩ := situation.of_live found (by rw [ready]; rfl)
  exact ⟨wired.setReady id _, .engaged id _ ref (found_setReady found _) current nofun
    (fun other different => (sockets other different).setReady different _) timers⟩

/-- A message is reported and connects nothing. -/
theorem message_spec (wired : state.Wired) (situation : state.Situation) {id : Nat}
    {socket : Socket} (found : state.sockets[id]? = some socket) (ready : socket.ready = .opened)
    (text : String) :
    (state.onmessage parse socket text).Wired ∧ (state.onmessage parse socket text).Situation := by
  obtain ⟨_, current, _⟩ := situation.of_live found (by rw [ready]; rfl)
  unfold onmessage
  split
  · rename_i data _
    have own : (state.strayed || state.current ≠ some socket.run) = state.strayed := by
      simp [current]
    rw [own]
    unfold setData
    split
    · exact ⟨wired.report _ _ _, situation.report _ _ _⟩
    · exact ⟨wired, situation⟩
  · exact ⟨wired, situation⟩

/-- The retry is the current run's. -/
theorem setTimeout_spec (wired : state.Wired) (resting : state.Resting) {run : Nat}
    (current : state.current = some run) (delay : Nat) :
    (state.setTimeout run delay).Wired ∧ (state.setTimeout run delay).Situation := by
  obtain ⟨closure, found⟩ : ∃ closure, state.runs[run]? = some closure :=
    ⟨_, List.getElem?_eq_getElem (wired.begun run current)⟩
  have length : (state.setTimeout run delay).runs.length = state.runs.length :=
    List.length_modify ..
  refine ⟨⟨fun other closure found => ?_, fun other going => ?_, fun id socket found => ?_,
    wired.mounted, wired.own⟩,
    .waiting state.timers.length { run, delay } { closure with
      retryTimer := some state.timers.length } List.getElem?_concat_length current ?_ rfl
      resting.sockets fun other different entry found => ?_⟩
  · obtain ⟨before, present, ⟨_, rfl⟩ | ⟨_, rfl⟩⟩ := of_getElem?_modify found
    · exact wired.running other before present
    · exact wired.running other _ present
  · rw [length]
    exact wired.begun other going
  · rw [length]
    exact wired.owned id socket found
  · simp only [setTimeout, List.getElem?_modify_eq, found, Option.map_eq_map, Option.map_some]
  · rcases of_getElem?_concat found with old | ⟨last, _⟩
    · exact resting.timers other entry old
    · exact absurd last different

/-- A socket delivers its close event: the current run is to retry, and a run that
has ended is not. -/
theorem closed_spec (wired : state.Wired) (situation : state.Situation) {id : Nat} {socket : Socket}
    (found : state.sockets[id]? = some socket) (ready : socket.ready ≠ .closed) :
    ((state.setReady id fun _ => .closed).onclose socket).Wired ∧
      ((state.setReady id fun _ => .closed).onclose socket).Situation := by
  have closedWired := wired.setReady id fun _ => .closed
  generalize reported : (state.setReady id fun _ => .closed).setIsConnected false = after
  have kept : after.Wired ∧ after.current = state.current ∧
      ((state.setReady id fun _ => .closed).Situation → after.Situation) ∧
      ((state.setReady id fun _ => .closed).Resting → after.Resting) := by
    subst reported
    unfold setIsConnected
    split
    · exact ⟨closedWired.report _ _ _, rfl, fun situation => situation.report _ _ _,
        fun resting => ⟨resting.sockets, resting.timers⟩⟩
    · exact ⟨closedWired, rfl, fun situation => situation, fun resting => resting⟩
  obtain ⟨wiredAfter, sameRun, situated, rested⟩ := kept
  simp only [onclose, reported]
  by_cases current : state.current = some socket.run
  · obtain ⟨sockets, timers⟩ := situation.of_current found current ready
    rw [← sameRun] at current
    rw [if_neg (by rw [cancelled_eq_false wiredAfter current]; exact Bool.false_ne_true)]
    have resting : after.Resting := by
      refine rested ⟨fun other => ?_, timers⟩
      by_cases same : other = id
      · subst same
        exact retired_closed other
      · exact (sockets other same).setReady same _
    have counted := wiredAfter.report after.data after.isConnected (after.retryRef + 1)
    exact setTimeout_spec counted ⟨resting.sockets, resting.timers⟩ current _
  · have retired := situation.retired_of_past found current
    rw [← sameRun] at current
    rw [if_pos (cancelled_eq_true wiredAfter current)]
    exact ⟨wiredAfter, situated (situation.closed retired)⟩

/-- The timer of the current run fires. -/
theorem timeout_spec (wired : state.Wired) (situation : state.Situation) {timer : Nat}
    {entry : Timer} (found : state.timers[timer]? = some entry) (pending : entry.pending = true) :
    ((state.clearTimeout timer).connect entry.run).Wired ∧
      ((state.clearTimeout timer).connect entry.run).Situation := by
  have unfired : ¬ state.Fired timer := by
    intro fired
    rw [fired entry found] at pending
    cases pending
  have cleared : (state.clearTimeout timer).Wired :=
    ⟨wired.running, wired.begun, wired.owned, wired.mounted, wired.own⟩
  cases situation with
  | idle _ _ timers => exact absurd (timers timer) unfired
  | engaged _ _ _ _ _ _ _ timers => exact absurd (timers timer) unfired
  | waiting retry held closure present current _ _ sockets timers =>
      obtain rfl : timer = retry := by
        by_contra different
        exact unfired (timers timer different)
      obtain rfl := Option.some.inj (found.symm.trans present)
      refine connect_spec cleared ⟨sockets, fun other => ?_⟩ current
      by_cases same : other = timer
      · subst same
        exact clearTimeout_fired other
      · exact (timers other same).clearTimeout timer

/-- An event is delivered to a socket in the right state. -/
theorem deliver_eq_some {id : Nat} {allowed : ReadyState → Bool} {handle : Socket → Hook} :
    state.deliver id allowed handle = some next ↔
      ∃ socket, state.sockets[id]? = some socket ∧ allowed socket.ready = true ∧
        handle socket = next := by
  simp only [deliver, Option.bind_eq_some_iff, Option.ite_none_right_eq_some, Option.some.injEq]

/-- An error event finds the socket closed. -/
theorem onerror_closed (id : Nat) :
    (state.setReady id fun _ => .closed).onerror id = state.setReady id fun _ => .closed := by
  simp only [onerror, setReady, List.modify_modify_eq]
  rfl

/-- What every step keeps. -/
theorem step_spec (wired : state.Wired) (situation : state.Situation) {task : Task}
    (step : state.step parse task = some next) : next.Wired ∧ next.Situation := by
  cases task with
  | commit url =>
      simp only [Hook.step, Option.ite_none_right_eq_some, Option.some.injEq] at step
      obtain ⟨mounted, rfl⟩ := step
      split
      · exact ⟨wired, situation⟩
      · obtain ⟨wired, resting, ended⟩ := cleanup_spec wired situation
        exact effect_spec wired resting ended (cleanup_frame.1.trans mounted) url
  | unmount =>
      simp only [Hook.step, Option.ite_none_right_eq_some, Option.some.injEq] at step
      obtain ⟨mounted, rfl⟩ := step
      obtain ⟨wired, resting, ended⟩ := cleanup_spec wired situation
      exact ⟨⟨wired.running, wired.begun, wired.owned, fun _ => ended, wired.own⟩,
        .idle ended resting.sockets resting.timers⟩
  | timeout timer =>
      simp only [Hook.step, Option.bind_eq_some_iff, Option.ite_none_right_eq_some,
        Option.some.injEq] at step
      obtain ⟨entry, found, pending, rfl⟩ := step
      exact timeout_spec wired situation found pending
  | opened id =>
      rw [Hook.step, deliver_eq_some] at step
      obtain ⟨socket, found, ready, rfl⟩ := step
      exact opened_spec wired situation found (of_decide_eq_true ready)
  | message id text =>
      rw [Hook.step, deliver_eq_some] at step
      obtain ⟨socket, found, ready, rfl⟩ := step
      exact message_spec wired situation found (of_decide_eq_true ready) text
  | closing id =>
      rw [Hook.step, deliver_eq_some] at step
      obtain ⟨socket, found, ready, rfl⟩ := step
      exact closing_spec wired situation found (of_decide_eq_true ready)
  | closed id =>
      rw [Hook.step, deliver_eq_some] at step
      obtain ⟨socket, found, ready, rfl⟩ := step
      exact closed_spec wired situation found (of_decide_eq_true ready)
  | failed id =>
      rw [Hook.step, deliver_eq_some] at step
      obtain ⟨socket, found, ready, rfl⟩ := step
      rw [onerror_closed]
      exact closed_spec wired situation found (of_decide_eq_true ready)

/-- A hook that has run nothing is wired. -/
theorem initial_spec :
    ({ mounted := true } : Hook).Wired ∧ ({ mounted := true } : Hook).Resting := by
  have nothing : ∀ {α : Type} {index : Nat} {entry : α}, ([] : List α)[index]? ≠ some entry := by
    simp
  have ended : ({ mounted := true } : Hook).current = none := rfl
  exact ⟨⟨fun _ _ found => absurd found nothing, nofun, fun _ _ found => absurd found nothing,
    fun _ => ended, rfl⟩,
    ⟨fun _ _ found => absurd found nothing, fun _ _ found => absurd found nothing⟩⟩

/-- There is one attempt at most. -/
theorem Situation.single (situation : state.Situation) {attempt other : Attempt}
    (has : state.Has attempt) (hasOther : state.Has other) : attempt = other := by
  have dead : ∀ {id}, state.Retired id → ¬ state.Has (.socket id) := by
    rintro id retired ⟨socket, found, live⟩
    rw [retired.dead found] at live
    cases live
  have silent : ∀ {timer}, state.Fired timer → ¬ state.Has (.retry timer) := by
    rintro timer fired ⟨entry, found, pending⟩
    rw [fired entry found] at pending
    cases pending
  have only : ∃ one, ∀ attempt, state.Has attempt → attempt = one := by
    cases situation with
    | idle _ sockets timers =>
        refine ⟨.socket 0, fun attempt has => ?_⟩
        cases attempt with
        | socket id => exact absurd has (dead (sockets id))
        | retry timer => exact absurd has (silent (timers timer))
    | engaged id _ _ _ _ _ sockets timers =>
        refine ⟨.socket id, fun attempt has => ?_⟩
        cases attempt with
        | socket other =>
            by_contra different
            exact dead (sockets other fun same => different (congrArg Attempt.socket same)) has
        | retry timer => exact absurd has (silent (timers timer))
    | waiting timer _ _ _ _ _ _ sockets timers =>
        refine ⟨.retry timer, fun attempt has => ?_⟩
        cases attempt with
        | socket id => exact absurd has (dead (sockets id))
        | retry other =>
            by_contra different
            exact silent (timers other fun same => different (congrArg Attempt.retry same)) has
  obtain ⟨one, only⟩ := only
  exact (only attempt has).trans (only other hasOther).symm

/-- The hook reports what its current socket is. -/
def Reports (state : Hook) : Prop :=
  state.mounted = true → (state.isConnected = true ↔ state.CurrentOpen)

/-- An open socket of the current run stays one where both are kept. -/
theorem CurrentOpen.transfer {other : Hook} (openSocket : state.CurrentOpen)
    (current : other.current = state.current)
    (sockets : ∀ (id : Nat) (socket : Socket), state.sockets[id]? = some socket →
      socket.ready = .opened → other.sockets[id]? = some socket) : other.CurrentOpen := by
  obtain ⟨id, socket, found, running, ready⟩ := openSocket
  exact ⟨id, socket, sockets id socket found ready, current.trans running, ready⟩

/-- Where everything is retired no socket is open. -/
theorem not_currentOpen (retired : ∀ id, state.Retired id) : ¬ state.CurrentOpen := by
  rintro ⟨id, socket, found, _, ready⟩
  have dead := (retired id).dead found
  rw [ready] at dead
  cases dead

/-- A socket that connects is not open yet. -/
theorem currentOpen_connect (run : Nat) : (state.connect run).CurrentOpen ↔ state.CurrentOpen := by
  unfold connect
  split
  · rfl
  · constructor
    · intro openSocket
      refine openSocket.transfer rfl fun id socket found ready => ?_
      rcases of_getElem?_concat found with old | ⟨_, rfl⟩
      · exact old
      · cases ready
    · intro openSocket
      refine openSocket.transfer rfl fun id socket found _ => ?_
      exact (List.getElem?_append_left (List.getElem?_eq_some_iff.mp found).1).trans found

theorem not_currentOpen_effect (wired : state.Wired) (resting : state.Resting)
    (url : Option String) : ¬ (state.effect url).CurrentOpen := by
  unfold effect
  split
  · exact not_currentOpen resting.sockets
  · exact not_currentOpen resting.sockets
  · rw [currentOpen_connect]
    rintro ⟨id, socket, found, current, _⟩
    exact absurd (Option.some.inj current) (Nat.ne_of_gt (wired.owned id socket found))

/-- The effect neither unmounts nor reports. -/
theorem effect_frame (url : Option String) : (state.effect url).mounted = state.mounted ∧
    (state.effect url).isConnected = state.isConnected := by
  unfold effect
  split
  · exact ⟨rfl, rfl⟩
  · exact ⟨rfl, rfl⟩
  · unfold connect
    split <;> exact ⟨rfl, rfl⟩

/-- The close is reported, and nothing else is touched but the retry. -/
theorem onclose_frame (state : Hook) (socket : Socket) :
    (state.onclose socket).mounted = state.mounted ∧
    (state.onclose socket).current = state.current ∧
    (state.onclose socket).sockets = state.sockets ∧
    (state.mounted = true → (state.onclose socket).isConnected = false) := by
  unfold onclose setIsConnected
  split
  · dsimp only
    split <;> exact ⟨rfl, rfl, rfl, fun _ => rfl⟩
  · rename_i unmounted
    dsimp only
    split <;> exact ⟨rfl, rfl, rfl, fun mounted => absurd mounted unmounted⟩

/-- A commit of another URL. -/
theorem reports_commit (wired : state.Wired) (situation : state.Situation)
    (reports : state.Reports) (mounted : state.mounted = true) (url : Option String) :
    (state.cleanup.effect url).Reports ↔ ¬ state.CurrentOpen := by
  obtain ⟨wired, resting, _⟩ := cleanup_spec wired situation
  have closed := not_currentOpen_effect wired resting url
  have same : (state.cleanup.effect url).isConnected = state.isConnected :=
    (effect_frame url).2.trans cleanup_frame.2
  have still : (state.cleanup.effect url).mounted = true :=
    ((effect_frame url).1.trans cleanup_frame.1).trans mounted
  unfold Reports
  rw [same, reports mounted]
  exact ⟨fun reported openSocket => closed ((reported still).mp openSocket),
    fun shut _ => ⟨fun openSocket => absurd openSocket shut,
      fun openSocket => absurd openSocket closed⟩⟩

/-- A run goes on in a component that is mounted. -/
theorem CurrentOpen.mounted (openSocket : state.CurrentOpen) (wired : state.Wired) :
    state.mounted = true := by
  by_contra unmounted
  obtain ⟨_, _, _, running, _⟩ := openSocket
  rw [wired.mounted (Bool.not_eq_true _ ▸ unmounted)] at running
  cases running

/-- A close event. -/
theorem reports_closed (wired : state.Wired) (situation : state.Situation) {id : Nat}
    {socket : Socket} (found : state.sockets[id]? = some socket) (ready : socket.ready ≠ .closed) :
    ((state.setReady id fun _ => .closed).onclose socket).Reports ↔
      state.Undisturbed (.closed id) := by
  have disturbed : state.Undisturbed (.closed id) ↔
      (state.current ≠ some socket.run → ¬ state.CurrentOpen) := by
    refine ⟨fun shut => shut socket found, fun shut other present => ?_⟩
    obtain rfl := Option.some.inj (found.symm.trans present)
    exact shut
  rw [disturbed]
  obtain ⟨mounted, current, sockets, unconnected⟩ :=
    onclose_frame (state.setReady id fun _ => .closed) socket
  have same : ((state.setReady id fun _ => .closed).onclose socket).CurrentOpen ↔
      (state.setReady id fun _ => .closed).CurrentOpen := by
    unfold CurrentOpen
    rw [sockets, current]
  unfold Reports
  rw [mounted, same]
  by_cases running : state.current = some socket.run
  · obtain ⟨others, _⟩ := situation.of_current found running ready
    have shut : ¬ (state.setReady id fun _ => .closed).CurrentOpen := by
      refine not_currentOpen fun other => ?_
      by_cases itself : other = id
      · subst itself
        exact retired_closed other
      · exact (others other itself).setReady itself _
    refine ⟨fun _ different => absurd running different, fun _ isMounted => ?_⟩
    rw [unconnected isMounted]
    exact ⟨nofun, fun openSocket => absurd openSocket shut⟩
  · have dead := (situation.retired_of_past found running).dead found
    have openStill : (state.setReady id fun _ => .closed).CurrentOpen ↔ state.CurrentOpen := by
      constructor
      · intro openSocket
        refine openSocket.transfer rfl fun other held present isOpen => ?_
        by_cases itself : other = id
        · subst itself
          rw [found_setReady found] at present
          obtain rfl := Option.some.inj present
          cases isOpen
        · rwa [found_setReady_of_ne itself] at present
      · intro openSocket
        refine openSocket.transfer rfl fun other held present isOpen => ?_
        have different : other ≠ id := by
          intro itself
          subst itself
          obtain rfl := Option.some.inj (found.symm.trans present)
          rw [isOpen] at dead
          cases dead
        rwa [found_setReady_of_ne different]
    rw [openStill]
    refine ⟨fun reported _ openSocket => ?_, fun shut isMounted => ?_⟩
    · have isMounted := openSocket.mounted wired
      have connected := (reported isMounted).mpr openSocket
      rw [unconnected isMounted] at connected
      cases connected
    · rw [unconnected isMounted]
      exact ⟨nofun, fun openSocket => absurd openSocket (shut running)⟩

/-- A closing handshake that the server starts: the hook goes on reporting the socket. -/
theorem reports_closing (wired : state.Wired) (situation : state.Situation)
    (reports : state.Reports) {id : Nat} {socket : Socket}
    (found : state.sockets[id]? = some socket) (ready : socket.ready = .opened) :
    (state.setReady id fun _ => .closing).Reports ↔ ¬ state.CurrentOpen := by
  obtain ⟨_, current, others, _⟩ := situation.of_live found (by rw [ready]; rfl)
  have openBefore : state.CurrentOpen := ⟨id, socket, found, current, ready⟩
  refine iff_of_false (fun reported => ?_) (not_not_intro openBefore)
  have mounted := openBefore.mounted wired
  obtain ⟨other, held, present, _, isOpen⟩ :=
    (reported mounted).mp ((reports mounted).mpr openBefore)
  by_cases itself : other = id
  · subst itself
    rw [found_setReady found] at present
    obtain rfl := Option.some.inj present
    cases isOpen
  · rw [found_setReady_of_ne itself] at present
    have dead := (others other itself).dead present
    rw [isOpen] at dead
    cases dead

/-- From a state that reports what it should, a step reaches another such state
exactly when it is undisturbed. -/
theorem reports_step (wired : state.Wired) (situation : state.Situation) (reports : state.Reports)
    {task : Task} (step : state.step parse task = some next) :
    next.Reports ↔ state.Undisturbed task := by
  cases task with
  | commit url =>
      simp only [Hook.step, Option.ite_none_right_eq_some, Option.some.injEq] at step
      obtain ⟨mounted, rfl⟩ := step
      by_cases same : url = state.url
      · simp only [same, if_true, Undisturbed, ne_eq, not_true_eq_false, false_implies, iff_true]
        exact reports
      · simp only [same, if_false, Undisturbed, ne_eq, not_false_eq_true, true_implies]
        exact reports_commit wired situation reports mounted url
  | unmount =>
      simp only [Hook.step, Option.ite_none_right_eq_some, Option.some.injEq] at step
      obtain ⟨mounted, rfl⟩ := step
      exact ⟨fun _ => trivial, fun _ => nofun⟩
  | timeout timer =>
      simp only [Hook.step, Option.bind_eq_some_iff, Option.ite_none_right_eq_some,
        Option.some.injEq] at step
      obtain ⟨entry, _, _, rfl⟩ := step
      refine iff_of_true ?_ trivial
      have cleared : (state.clearTimeout timer).Reports := reports
      unfold Reports at cleared ⊢
      rw [currentOpen_connect]
      unfold connect
      split <;> exact cleared
  | opened id =>
      rw [Hook.step, deliver_eq_some] at step
      obtain ⟨socket, found, ready, rfl⟩ := step
      obtain ⟨_, current, _⟩ := situation.of_live found (by rw [of_decide_eq_true ready]; rfl)
      refine iff_of_true (fun mounted => ?_) trivial
      have connected : (state.setReady id fun _ => .opened).onopen.CurrentOpen := by
        unfold onopen setIsConnected
        split <;>
          exact ⟨id, _, found_setReady found fun _ => .opened, current, rfl⟩
      refine ⟨fun _ => connected, fun _ => ?_⟩
      unfold onopen setIsConnected at mounted ⊢
      split
      · rfl
      · rename_i unmounted
        rw [if_neg unmounted] at mounted
        exact absurd mounted unmounted
  | message id text =>
      rw [Hook.step, deliver_eq_some] at step
      obtain ⟨socket, _, _, rfl⟩ := step
      refine iff_of_true ?_ trivial
      unfold onmessage setData
      split
      · split <;> exact reports
      · exact reports
  | closing id =>
      rw [Hook.step, deliver_eq_some] at step
      obtain ⟨socket, found, ready, rfl⟩ := step
      exact reports_closing wired situation reports found (of_decide_eq_true ready)
  | closed id =>
      rw [Hook.step, deliver_eq_some] at step
      obtain ⟨socket, found, ready, rfl⟩ := step
      exact reports_closed wired situation found (of_decide_eq_true ready)
  | failed id =>
      rw [Hook.step, deliver_eq_some] at step
      obtain ⟨socket, found, ready, rfl⟩ := step
      rw [onerror_closed]
      exact reports_closed wired situation found (of_decide_eq_true ready)

/-- The wiring is in order, and the hook reports what its socket is. -/
structure Sound (state : Hook) : Prop where
  wired : state.Wired
  situation : state.Situation
  reports : state.Reports

/-- At the start there is no socket to follow. -/
theorem start_sound (url : Option String) : (start url).Sound := by
  obtain ⟨wired, resting⟩ := initial_spec
  obtain ⟨started, situation⟩ := effect_spec wired resting rfl rfl url
  refine ⟨started, situation, fun _ => ?_⟩
  have unconnected : (start url).isConnected = false := (effect_frame url).2
  rw [unconnected]
  exact ⟨nofun, fun openSocket => absurd openSocket (not_currentOpen_effect wired resting url)⟩

/-- Under the invariant the hook follows its socket. -/
theorem Sound.follows (sound : state.Sound) : state.FollowsSocket :=
  ⟨sound.reports, sound.wired.own, fun _ _ => sound.situation.single⟩

/-- An undisturbed task keeps it. -/
theorem Sound.step (sound : state.Sound) {task : Task} (undisturbed : state.Undisturbed task)
    (step : state.step parse task = some next) : next.Sound := by
  obtain ⟨wired, situation⟩ := step_spec sound.wired sound.situation step
  exact ⟨wired, situation,
    (reports_step sound.wired sound.situation sound.reports step).mpr undisturbed⟩

end Hook

/-- The tasks of the browser that run the code of one hook. -/
def hookMachine (parse : String → Option Json) : Machine Hook Task := ⟨Hook.step parse⟩

/-- In a run, the connection state follows the current socket exactly when nothing
disturbs a socket that is open, no server that closes it included. -/
theorem followsSocket_iff (parse : String → Option Json) (url : Option String) (tasks : List Task) :
    (hookMachine parse).Along Hook.FollowsSocket (.start url) tasks ↔
      (hookMachine parse).Guarded Hook.Undisturbed (.start url) tasks := by
  refine Machine.along_iff_guarded (fun _ sound => Hook.Sound.follows sound) ?_ ?_ tasks
    (Hook.start_sound url)
  · intro state task next sound undisturbed step
    exact sound.step undisturbed step
  · intro state task next sound step follows
    exact (Hook.reports_step sound.wired sound.situation sound.reports step).mp follows.reported

/-- Whatever happens, no other socket's message becomes the data, and there are never
two connections, nor one and a retry. -/
theorem single_of_run (parse : String → Option Json) (url : Option String) (tasks : List Task) :
    (hookMachine parse).Along (fun state => state.strayed = false ∧
      ∀ attempt other, state.Has attempt → state.Has other → attempt = other) (.start url)
      tasks := by
  have kept : (hookMachine parse).Along (fun state => state.Wired ∧ state.Situation) (.start url)
      tasks := by
    refine Machine.along_of_preserved ?_ ⟨(Hook.start_sound url).wired,
      (Hook.start_sound url).situation⟩ tasks
    intro state task next kept step
    exact Hook.step_spec kept.1 kept.2 step
  exact kept.mono fun _ kept => ⟨kept.1.own, fun _ _ => kept.2.single⟩

/-- The token is refreshed while the socket is open. -/
def tokenRefreshed : List Task := [.opened 0, .commit (some "wss://host/ws?access_token=new")]

/-- After the refresh the hook still reports the old socket's connection. -/
theorem followsSocket_fails :
    ¬ ∀ (parse : String → Option Json) (url : Option String) (tasks : List Task),
      (hookMachine parse).Along Hook.FollowsSocket (.start url) tasks := by
  intro always
  have follows := ((always (fun _ => none) (some "wss://host/ws?access_token=old")
    tokenRefreshed).final rfl).reported rfl
  obtain ⟨id, socket, found, current, ready⟩ := follows.mp rfl
  match id with
  | 0 => cases found; cases ready
  | 1 => cases found; cases ready
  | id + 2 => cases found

end Sentinel.Dashboard
