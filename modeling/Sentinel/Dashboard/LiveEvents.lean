import Sentinel.Dashboard.Connection
import Sentinel.Semantics.Recency

/-!
# The dashboard's list of events

`useAnalytics` while the backend is reachable. A frame is put into the one cell of
`useWebSocket`; when React has committed, the live effect runs if the cell was set
since, and the microtask that it queues runs before any other task. A refresh
replaces the list by what the server has read at some moment.
-/

namespace Sentinel.Dashboard

open Sentinel.Wire Sentinel.Semantics

structure AnalyticsEvent where
  id : Option String := none
  eventID : Option String := none
  eventType : String
  userID : Option String := none
  ipAddress : Option String := none
  timestamp : String
  action : Option String := none
  riskScore : Option ℚ := none
  countryCode : Option String := none
  country : Option String := none
deriving DecidableEq

def stringOf : Json → Option String
  | .str text => some text
  | .time instant => some (rfc3339 instant)
  | _ => none

def numberOf : Json → Option ℚ
  | .num value => some value
  | _ => none

namespace AnalyticsEvent

/-- The event that a JSON object is. -/
def ofJson : Json → Option AnalyticsEvent
  | .obj entries => do
      let eventType ← (property entries "event_type").bind stringOf
      let timestamp ← (property entries "timestamp").bind stringOf
      return {
        id := (property entries "id").bind stringOf
        eventID := (property entries "event_id").bind stringOf
        eventType
        userID := (property entries "user_id").bind stringOf
        ipAddress := (property entries "ip_address").bind stringOf
        timestamp
        action := (property entries "action").bind stringOf
        riskScore := (property entries "risk_score").bind numberOf
        countryCode := (property entries "country_code").bind stringOf
        country := (property entries "country").bind stringOf }
  | _ => none

/-- `event.id ?? event.event_id` -/
def key (event : AnalyticsEvent) : Option String := event.id.or event.eventID

end AnalyticsEvent

/-- A row of the table of events. The column `timestamp` holds whole seconds. -/
structure StoredRow where
  event : AnalyticsEvent
  second : Int
deriving DecidableEq

def StoredRow.key (row : StoredRow) : Option String := row.event.key

/-- The rows in the order of the query, which leaves open that of rows of one second. -/
def IsAnswer (stored rows : List StoredRow) : Prop :=
  rows.Perm stored ∧ rows.Pairwise fun first next => next.second ≤ first.second

instance (stored rows : List StoredRow) : Decidable (IsAnswer stored rows) :=
  inferInstanceAs (Decidable (_ ∧ _))

/-- An event that the list owes, since an effect has run after its frame. -/
structure Due where
  key : Option String
  /-- The newer events that have entered the list. -/
  newer : Finset (Option String) := ∅

def Due.passed (due : Due) (keys : Finset (Option String)) : Due :=
  { due with newer := due.newer ∪ keys.erase due.key }

structure LiveView where
  /-- `liveEvent` -/
  data : Option AnalyticsEvent := none
  /-- `liveEvent` has been set since the effect has last run. -/
  changed : Bool := false
  /-- `none` is the value `null`. -/
  events : Option (List AnalyticsEvent) := some []
  /-- A render has thrown, and React has taken the page down. -/
  thrown : Bool := false
  /-- The calls of `refresh`, with what the server has read if it has. -/
  refreshes : List (Option (List StoredRow)) := []
  /-- The table of events. -/
  stored : List StoredRow := []
  /-- The events whose frames have arrived since the effect has last run. -/
  awaiting : List (Option String) := []
  due : List Due := []
  /-- An effect has put a second entry with an id into the list. -/
  repeated : Bool := false

inductive LiveAction where
  | receive (text : String)
  | render
  /-- The live effect runs, after a render. -/
  | effect
  | refresh
  /-- The server reads the rows of a call. -/
  | read (call : Nat) (rows : List StoredRow)
  | respond (call : Nat)
  | reject (call : Nat)
  /-- The analytics service stores an event. -/
  | store (event : AnalyticsEvent) (second : Int)

namespace LiveView

/-- The events that are shown. -/
def list (state : LiveView) : List AnalyticsEvent := state.events.getD []

/-- The rows that the server sends of those that are stored. -/
def newest (rows : List StoredRow) : List StoredRow := rows.take 50

/-- What the body of the answer is for the hook: without a row the slice of `GetEvents` is
nil, and is encoded as `null`. -/
def answered (rows : List StoredRow) : Option (List AnalyticsEvent) :=
  if rows = [] then none else some (rows.map (·.event))

/-- The rows of an answer that are newer than the event with this key: of a later second. -/
def newerIn (state : LiveView) (rows : List StoredRow) (key : Option String) :
    Finset (Option String) :=
  ((rows.filter fun row =>
    state.stored.any fun other => other.key = key && other.second < row.second).map
      StoredRow.key).toFinset

/-- The live effect and its microtask. -/
def liveEffect (state : LiveView) (live : AnalyticsEvent) (current : List AnalyticsEvent) :
    LiveView :=
  let events := push AnalyticsEvent.key 50 live current
  { state with
    changed := false
    events := some events
    awaiting := []
    due := ((state.awaiting.map fun key => ({ key } : Due)) ++ state.due).map
      fun due => due.passed {live.key}
    repeated := state.repeated || 1 < (events.filter (·.key = live.key)).length }

/-- `setEvents` of `refresh`. -/
def setEvents (state : LiveView) (rows : List StoredRow) : LiveView :=
  { state with
    events := answered rows
    due := state.due.map fun due => due.passed (state.newerIn rows due.key) }

/-- The event of a frame: one that is malformed has none. -/
def received (parse : String → Option Json) (text : String) : Option Json :=
  (parse text).bind frameData

/-- The hub sends nothing but events. Once a render has thrown, the cleanups have run: no
frame arrives, no effect runs and no setter does anything. -/
def step (parse : String → Option Json) (state : LiveView) : LiveAction → Option LiveView
  | .receive text =>
      if state.thrown then none
      else match received parse text with
        | none => some state
        | some json =>
            (AnalyticsEvent.ofJson json).map fun event =>
              { state with
                data := some event
                changed := true
                awaiting := event.key :: state.awaiting }
  -- The metrics are computed from `events.filter`, which `null` has not.
  | .render => some { state with thrown := state.thrown || state.events.isNone }
  | .effect =>
      if state.thrown || !state.changed then none
      else match state.data, state.events with
        | some live, some current => some (state.liveEffect live current)
        | _, _ => none
  | .refresh => some { state with refreshes := state.refreshes ++ [none] }
  | .read call rows =>
      match state.refreshes[call]? with
      | some none =>
          if IsAnswer state.stored rows then
            some { state with refreshes := state.refreshes.set call (some rows) }
          else none
      | _ => none
  | .respond call =>
      match state.refreshes[call]? with
      | some (some rows) =>
          let state := { state with refreshes := state.refreshes.eraseIdx call }
          some (if state.thrown then state else state.setEvents (newest rows))
      | _ => none
  | .reject call => some { state with refreshes := state.refreshes.eraseIdx call }
  | .store event second => some { state with stored := state.stored ++ [⟨event, second⟩] }

/-- The page is up, every event that is due is shown until 50 newer ones have entered the
list, and no effect has put two entries with one id into it. -/
structure Keeps (state : LiveView) : Prop where
  up : state.thrown = false
  shown : ∀ due ∈ state.due, due.newer.card < 50 → due.key ∈ state.list.map AnalyticsEvent.key
  single : state.repeated = false

/-- The rows hold an event that is due, and before it only newer ones. -/
def Covers (rows : List StoredRow) (due : Due) : Prop :=
  due.key ∈ rows.map StoredRow.key ∧
    ∀ row ∈ aheadOf StoredRow.key rows due.key, row.key ∈ due.newer

/-- A frame arrives when the effect has run for the one before it. A response that is
applied was not read of an empty table, and covers every event still due. No event is
stored twice. -/
def Settled (parse : String → Option Json) (state : LiveView) : LiveAction → Prop
  | .receive text =>
      ∀ json event, received parse text = some json → AnalyticsEvent.ofJson json = some event →
        ∀ key ∈ state.awaiting, key = event.key
  | .respond call =>
      ∀ rows, state.refreshes[call]? = some (some rows) → rows ≠ [] ∧ ∀ due ∈ state.due,
        (due.passed (state.newerIn (newest rows) due.key)).newer.card < 50 →
          Covers rows (due.passed (state.newerIn (newest rows) due.key))
  | .store event _ => event.key ∉ state.stored.map StoredRow.key
  | .render | .effect | .refresh | .read .. | .reject _ => True

/-- What settles a message, in terms of the keys it awaits. -/
theorem settled_receive_iff {parse : String → Option Json} {state : LiveView} {text : String} :
    (∀ event ∈ (received parse text).bind AnalyticsEvent.ofJson,
      ∀ key ∈ state.awaiting, key = event.key) ↔ state.Settled parse (.receive text) := by
  simp only [Settled, Option.mem_def, Option.bind_eq_some_iff]
  exact ⟨fun settled json event got isEvent => settled event ⟨json, got, isEvent⟩,
    fun settled event ⟨json, got, isEvent⟩ => settled json event got isEvent⟩

/-- What settles an answer, in terms of its rows. -/
theorem settled_respond_iff {parse : String → Option Json} {state : LiveView} {call : Nat} :
    (∀ rows ∈ state.refreshes[call]?.join, rows ≠ [] ∧ ∀ due ∈ state.due,
      (due.passed (state.newerIn (newest rows) due.key)).newer.card < 50 →
        Covers rows (due.passed (state.newerIn (newest rows) due.key))) ↔
      state.Settled parse (.respond call) := by
  simp only [Settled, Option.mem_def, Option.join_eq_some_iff]

instance (rows : List StoredRow) (due : Due) : Decidable (Covers rows due) :=
  inferInstanceAs (Decidable (_ ∧ _))

instance (parse : String → Option Json) (state : LiveView) :
    ∀ action, Decidable (state.Settled parse action)
  | .receive _ => decidable_of_iff _ settled_receive_iff
  | .respond _ => decidable_of_iff _ settled_respond_iff
  | .store _ _ => inferInstanceAs (Decidable (_ ∉ _))
  | .render | .effect | .refresh | .read _ _ | .reject _ => isTrue trivial

structure Inv (state : LiveView) : Prop where
  distinct : (state.stored.map StoredRow.key).Nodup
  read : ∀ rows, some rows ∈ state.refreshes → (rows.map StoredRow.key).Nodup
  awaiting : ∀ key ∈ state.awaiting, ∀ live, state.data = some live → key = live.key
  listed : state.events.isSome = true
  single : (state.list.map AnalyticsEvent.key).Nodup
  shown : ∀ due ∈ state.due, due.newer.card < 50 →
    Within AnalyticsEvent.key state.list due.key due.newer
  up : state.thrown = false
  unrepeated : state.repeated = false

variable {parse : String → Option Json} {state next : LiveView}

/-- One more event has passed. -/
theorem passed_singleton {due : Due} {key : Option String} (different : key ≠ due.key) :
    (due.passed {key}).newer = insert key due.newer := by
  rw [Due.passed, Finset.erase_eq_of_notMem (by simpa using Ne.symm different), Finset.union_comm]
  rfl

/-- The live effect keeps what the list owes, and puts its own event in front. -/
theorem shown_push {events : List AnalyticsEvent} {live : AnalyticsEvent} {due : Due}
    (single : (events.map AnalyticsEvent.key).Nodup)
    (shown : due.newer.card < 50 → Within AnalyticsEvent.key events due.key due.newer)
    (few : (due.passed {live.key}).newer.card < 50) :
    Within AnalyticsEvent.key (push AnalyticsEvent.key 50 live events) due.key
      (due.passed {live.key}).newer := by
  by_cases same : live.key = due.key
  · rw [← same]
    exact within_push_self (by decide)
  · rw [passed_singleton same] at few ⊢
    have fewer : due.newer.card < 50 :=
      Nat.lt_of_le_of_lt (Finset.card_le_card (Finset.subset_insert ..)) few
    exact within_push single (shown fewer) few same

/-- The effect repeats no event. -/
theorem unrepeated_effect (unrepeated : state.repeated = false) (live : AnalyticsEvent)
    (current : List AnalyticsEvent) : (state.liveEffect live current).repeated = false := by
  have once : ¬ 1 < ((push AnalyticsEvent.key 50 live current).filter
      (·.key = live.key)).length := Nat.not_lt_of_le length_filter_push_le
  simp only [liveEffect, unrepeated, once, decide_false, Bool.or_false]

/-- It keeps the events that are due. -/
theorem Inv.effect (inv : state.Inv) {live : AnalyticsEvent} {current : List AnalyticsEvent}
    (data : state.data = some live) (events : state.events = some current) :
    (state.liveEffect live current).Inv := by
  have listed : state.list = current := by rw [list, events, Option.getD_some]
  have single := inv.single
  have shown := inv.shown
  rw [listed] at single shown
  refine ⟨inv.distinct, inv.read, nofun, rfl, nodup_push single, fun due member few => ?_, inv.up,
    unrepeated_effect inv.unrepeated live current⟩
  obtain ⟨before, queued, rfl⟩ := List.mem_map.mp member
  rcases List.mem_append.mp queued with new | old
  · obtain ⟨key, waiting, rfl⟩ := List.mem_map.mp new
    rw [inv.awaiting key waiting live data] at few ⊢
    exact within_push_self (by decide)
  · exact shown_push single (shown before old) few

/-- The events of an answer that has a row. -/
theorem list_setEvents {rows : List StoredRow} (filled : rows ≠ []) :
    (state.setEvents (newest rows)).events = some ((newest rows).map (·.event)) := by
  have sent : newest rows ≠ [] := by
    rw [newest, Ne, List.take_eq_nil_iff]
    simp [filled]
  exact if_neg sent

theorem Inv.respond (inv : state.Inv) {call : Nat} {rows : List StoredRow}
    (found : state.refreshes[call]? = some (some rows)) (filled : rows ≠ [])
    (covers : ∀ due ∈ state.due,
      (due.passed (state.newerIn (newest rows) due.key)).newer.card < 50 →
        Covers rows (due.passed (state.newerIn (newest rows) due.key))) :
    ({ state with refreshes := state.refreshes.eraseIdx call }.setEvents (newest rows)).Inv := by
  have distinct := inv.read rows (List.mem_of_getElem? found)
  have events := @list_setEvents { state with refreshes := state.refreshes.eraseIdx call } rows
    filled
  have listed : ({ state with refreshes := state.refreshes.eraseIdx call }.setEvents
      (newest rows)).list = (newest rows).map (·.event) := by rw [list, events, Option.getD_some]
  refine ⟨inv.distinct, fun rows member => inv.read rows (List.mem_of_mem_eraseIdx member),
    inv.awaiting, ?_, ?_, fun due member few => ?_, inv.up, inv.unrepeated⟩
  · rw [events, Option.isSome_some]
  · rw [listed, List.map_map]
    exact distinct.sublist ((List.take_sublist 50 rows).map StoredRow.key)
  · obtain ⟨before, owed, rfl⟩ := List.mem_map.mp member
    obtain ⟨known, ahead⟩ := covers before owed few
    rw [listed]
    exact (within_take distinct (List.Sublist.refl rows) known (fun row _ => ahead row) few).map
      fun _ => rfl

theorem Inv.store (inv : state.Inv) (event : AnalyticsEvent) (second : Int)
    (fresh : event.key ∉ state.stored.map StoredRow.key) :
    ({ state with stored := state.stored ++ [⟨event, second⟩] } : LiveView).Inv where
  distinct := by
    rw [List.map_append, List.nodup_append]
    refine ⟨inv.distinct, List.nodup_singleton _, fun key member other new => ?_⟩
    obtain rfl := List.mem_singleton.mp new
    exact fun same : key = event.key => fresh (same ▸ member)
  read := inv.read
  awaiting := inv.awaiting
  listed := inv.listed
  single := inv.single
  shown := inv.shown
  up := inv.up
  unrepeated := inv.unrepeated

/-- What a server has read has different keys, as the table has. -/
theorem Inv.read_step (inv : state.Inv) {call : Nat} {rows : List StoredRow}
    (answer : IsAnswer state.stored rows) :
    ({ state with refreshes := state.refreshes.set call (some rows) } : LiveView).Inv := by
  refine ⟨inv.distinct, fun other member => ?_, inv.awaiting, inv.listed, inv.single, inv.shown,
    inv.up, inv.unrepeated⟩
  rcases List.mem_or_eq_of_mem_set member with old | new
  · exact inv.read other old
  · cases new
    exact ((answer.1.map StoredRow.key).nodup_iff).mpr inv.distinct

theorem Inv.step (inv : state.Inv) {action : LiveAction} (settled : state.Settled parse action)
    (step : state.step parse action = some next) : next.Inv := by
  have up : ¬ state.thrown = true := by simp [inv.up]
  cases action with
  | receive text =>
      simp only [LiveView.step, if_neg up] at step
      split at step
      · cases step
        exact inv
      · rename_i json got
        obtain ⟨event, isEvent, rfl⟩ := Option.map_eq_some_iff.mp step
        refine ⟨inv.distinct, inv.read, fun key member live set => ?_, inv.listed, inv.single,
          inv.shown, inv.up, inv.unrepeated⟩
        obtain rfl := Option.some.inj set
        rcases List.mem_cons.mp member with rfl | earlier
        · rfl
        · exact settled json event got isEvent key earlier
  | render =>
      cases step
      refine ⟨inv.distinct, inv.read, inv.awaiting, inv.listed, inv.single, inv.shown, ?_,
        inv.unrepeated⟩
      rw [inv.up, Option.isNone_eq_false_iff.mpr inv.listed, Bool.false_or]
  | effect =>
      simp only [LiveView.step] at step
      split at step
      · cases step
      · split at step
        · rename_i live current data events
          cases step
          exact inv.effect data events
        · cases step
  | refresh =>
      cases step
      refine ⟨inv.distinct, fun rows member => ?_, inv.awaiting, inv.listed, inv.single, inv.shown,
        inv.up, inv.unrepeated⟩
      rcases List.mem_append.mp member with old | new
      · exact inv.read rows old
      · cases List.mem_singleton.mp new
  | read call rows =>
      simp only [LiveView.step] at step
      split at step
      · split at step
        · rename_i answer
          cases step
          exact inv.read_step answer
        · cases step
      · cases step
  | respond call =>
      simp only [LiveView.step, if_neg up] at step
      split at step
      · rename_i rows found
        cases step
        obtain ⟨filled, covers⟩ := settled rows found
        exact inv.respond found filled covers
      · cases step
  | reject call =>
      cases step
      exact ⟨inv.distinct, fun rows member => inv.read rows (List.mem_of_mem_eraseIdx member),
        inv.awaiting, inv.listed, inv.single, inv.shown, inv.up, inv.unrepeated⟩
  | store event second =>
      cases step
      exact inv.store event second settled

/-- No step repeats an event. -/
theorem unrepeated_step (unrepeated : state.repeated = false) {action : LiveAction}
    (step : state.step parse action = some next) : next.repeated = false := by
  cases action with
  | receive text =>
      simp only [LiveView.step] at step
      split at step
      · cases step
      · split at step
        · cases step
          exact unrepeated
        · obtain ⟨event, _, rfl⟩ := Option.map_eq_some_iff.mp step
          exact unrepeated
  | effect =>
      simp only [LiveView.step] at step
      split at step
      · cases step
      · split at step
        · cases step
          exact unrepeated_effect unrepeated _ _
        · cases step
  | read call rows =>
      simp only [LiveView.step] at step
      split at step
      · split at step
        · cases step
          exact unrepeated
        · cases step
      · cases step
  | respond call =>
      simp only [LiveView.step] at step
      split at step
      · cases step
        split
        · exact unrepeated
        · exact unrepeated
      · cases step
  | render | refresh | reject call | store event second =>
      cases step
      exact unrepeated

/-- Under the invariant the view keeps what is due. -/
theorem Inv.keeps (inv : state.Inv) : state.Keeps :=
  ⟨inv.up, fun due member few => (inv.shown due member few).mem, inv.unrepeated⟩

/-- At the start nothing is due. -/
theorem inv_start : ({} : LiveView).Inv where
  distinct := List.nodup_nil
  read := nofun
  awaiting := nofun
  listed := rfl
  single := List.nodup_nil
  shown := nofun
  up := rfl
  unrepeated := rfl

end LiveView

/-- The tasks of the browser, and what the server does, as a machine. -/
def liveMachine (parse : String → Option Json) : Machine LiveView LiveAction :=
  ⟨LiveView.step parse⟩

/-- In every run in which the steps are settled, the list loses nothing but by age. -/
theorem keeps_of_settled (parse : String → Option Json) (actions : List LiveAction)
    (settled : (liveMachine parse).Guarded (LiveView.Settled parse) {} actions) :
    (liveMachine parse).Along LiveView.Keeps {} actions := by
  have inv : (liveMachine parse).Along LiveView.Inv {} actions :=
    Machine.along_of_guarded (fun inv settled step => LiveView.Inv.step inv settled step)
      LiveView.inv_start settled
  exact inv.mono fun _ inv => inv.keeps

/-- In no run does an effect put a second entry with an id into the list. -/
theorem unrepeated_of_run (parse : String → Option Json) (actions : List LiveAction) :
    (liveMachine parse).Along (fun state => state.repeated = false) {} actions := by
  refine Machine.along_of_preserved ?_ ?_ actions
  · intro state action next unrepeated step
    exact LiveView.unrepeated_step unrepeated step
  · rfl

/-- A login whose id is all that differs, and its frame. -/
def loginEvent (id : String) : AnalyticsEvent :=
  { id := some id, eventType := "login", timestamp := "2026-01-01T00:00:00Z" }

def loginFrame (id : String) : String :=
  "\x7b\"id\":\"" ++ id ++ "\",\"event_type\":\"login\",\"timestamp\":\"2026-01-01T00:00:00Z\"\x7d"

def parseLogin (text : String) : Option Json :=
  (["a", "b"].find? fun id => text = loginFrame id).map fun id =>
    .obj [("id", .str id), ("event_type", .str "login"), ("timestamp", .time 1767225600000000000)]

/-- Two events come to the list, and stay in it when a refresh replaces it. -/
def refreshed : List LiveAction :=
  [.store (loginEvent "a") 0, .receive (loginFrame "a"), .render, .effect, .refresh,
    .store (loginEvent "b") 1, .receive (loginFrame "b"), .render, .effect,
    .read 0 [⟨loginEvent "b", 1⟩, ⟨loginEvent "a", 0⟩], .respond 0, .render]

/-- A run with a refresh that is settled. -/
theorem keeps_refreshed : (liveMachine parseLogin).Along LiveView.Keeps {} refreshed :=
  keeps_of_settled parseLogin refreshed (Machine.guarded_of_decide (by decide +kernel))

/-- A batch is broadcast, and both frames arrive before React commits. -/
def burst : List LiveAction :=
  [.store (loginEvent "a") 0, .store (loginEvent "b") 0, .receive (loginFrame "a"),
    .receive (loginFrame "b"), .render, .effect]

/-- A response is applied that was read before the event was stored. -/
def overtaken : List LiveAction :=
  [.store (loginEvent "b") 0, .refresh, .read 0 [⟨loginEvent "b", 0⟩],
    .store (loginEvent "a") 1, .receive (loginFrame "a"), .render, .effect, .respond 0, .render]

/-- A response is applied that was read before any event was stored. -/
def emptied : List LiveAction := [.refresh, .read 0 [], .respond 0, .render]

/-- The page is down, or an event that is due is not shown. -/
def LiveView.loses (state : LiveView) : Bool :=
  state.thrown || state.due.any fun due =>
    due.newer.card < 50 && due.key ∉ state.list.map AnalyticsEvent.key

/-- A run at whose end an event is lost does not keep it. -/
theorem not_keeps_of_loses {parse : String → Option Json} {actions : List LiveAction}
    (lost : ((liveMachine parse).exec {} actions).map LiveView.loses = some true) :
    ¬ (liveMachine parse).Along LiveView.Keeps {} actions := by
  intro along
  obtain ⟨state, reached, loses⟩ := Option.map_eq_some_iff.mp lost
  have keeps := along.final reached
  rw [LiveView.loses, keeps.up, Bool.false_or] at loses
  obtain ⟨due, member, missing⟩ := List.any_eq_true.mp loses
  simp only [Bool.and_eq_true, decide_eq_true_eq] at missing
  exact missing.2 (keeps.shown due member missing.1)

/-- A burst, an answer that is overtaken and an empty table each lose one. -/
theorem keeps_fails :
    ¬ (liveMachine parseLogin).Along LiveView.Keeps {} burst ∧
      ¬ (liveMachine parseLogin).Along LiveView.Keeps {} overtaken ∧
      ¬ (liveMachine parseLogin).Along LiveView.Keeps {} emptied :=
  ⟨not_keeps_of_loses (by decide +kernel), not_keeps_of_loses (by decide +kernel),
    not_keeps_of_loses (by decide +kernel)⟩

end Sentinel.Dashboard
