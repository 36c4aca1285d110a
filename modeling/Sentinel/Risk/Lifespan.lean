import Mathlib.Data.List.Perm.Basic
import Sentinel.Risk.RulesEngine
import Sentinel.Risk.Velocity
import Sentinel.Semantics.Machine

/-!
# Background tasks and the end of the process

`score_request` answers and leaves the writing of its decision to three tasks,
which `_background_tasks` holds until they have ended: the event loop itself
keeps no task alive. The shutdown of `lifespan` waits for them before it stops
the producer and closes Redis and the pool. The server begins it when no request
is left. `tended_of_run` says what that achieves: no task is forgotten, none runs
into a closed connection, and all that can outlive its task is a command of
`update_velocity` another command of which has raised.
-/

namespace Sentinel.Risk

open Sentinel.Wire Sentinel.Semantics

variable {parser : Parser}

/-- What `scoreRequest` makes of one request, with all that it has awaited. -/
structure Scoring (parser : Parser) where
  cache : List (CacheRule parser)
  aggregator : RiskAggregator
  request : ScoreRequest
  extracted : Except PyException Features
  ipIntel : Except PyException ℚ
  model : Except PyException (ℚ × Option (List ShapContribution))
  decisionID : Uuid
  elapsedMs : ℚ

def Scoring.run (scoring : Scoring parser) (tasks : List BackgroundTask) :
    Except PyException ScoreResponse × List BackgroundTask :=
  scoreRequest scoring.cache scoring.aggregator scoring.request scoring.extracted scoring.ipIntel
    scoring.model scoring.decisionID scoring.elapsedMs tasks

/-- The tasks that write a decision. -/
def decisionTasks (decided : RiskDecision × ScoreRequest) : List BackgroundTask :=
  [.save decided.1, .publishDecision decided.1, .updateVelocity decided.2]

/-- A request is answered with its three tasks, or fails and leaves none. -/
theorem Scoring.run_tasks (scoring : Scoring parser) (tasks : List BackgroundTask) :
    (∃ problem, scoring.run tasks = (.error problem, tasks)) ∨
      ∃ decision, scoring.run tasks =
        (.ok decision.toResponse, tasks ++ decisionTasks (decision, scoring.request)) := by
  obtain ⟨cache, aggregator, request, extracted, ipIntel, model, decisionID, elapsedMs⟩ := scoring
  simp only [run, scoreRequest]
  split
  · exact .inl ⟨_, rfl⟩
  · exact .inl ⟨_, rfl⟩
  · rename_i features ipScore
    by_cases silent : RulesEngine.triggered features cache = []
    · rw [RulesEngine.evaluate_eq, if_pos silent]
      cases model with
      | error problem => exact .inl ⟨problem, rfl⟩
      | ok scored => exact .inr ⟨_, rfl⟩
    · rw [RulesEngine.evaluate_worker_raises tasks silent]
      exact .inl ⟨_, rfl⟩

inductive ShutdownStage where
  | serving
  /-- In `asyncio.gather(*_background_tasks)`, of the tasks that were in the set. -/
  | waiting (awaited : List Nat)
  | waited
  | consumerStopped
  | producerStopped
  | redisClosed
  | poolClosed

/-- The wait for the tasks is over. -/
def ShutdownStage.Closing : ShutdownStage → Prop
  | .serving => False
  | .waiting _ => False
  | _ => True

/-- Tasks are numbered in the order in which they are created. -/
structure Lifespan where
  /-- Requests that have been received and not answered. -/
  requests : Nat
  answers : List (Except PyException ScoreResponse)
  created : List BackgroundTask
  running : List Nat
  ended : List Nat
  /-- `_background_tasks` -/
  background : List Nat
  /-- The commands of `update_velocity` without a reply: a task, and a place in its `gather`. -/
  commands : List (Nat × Nat)
  /-- The tasks that have ended with the exception of a command. -/
  raised : List Nat
  stage : ShutdownStage

inductive LifespanLabel (parser : Parser) where
  | receive
  | score (scoring : Scoring parser)
  /-- Redis replies to a command, or it raises. -/
  | reply (task command : Nat) (succeeded : Bool)
  /-- A task ends that waits for no command. -/
  | finish (task : Nat)
  /-- The callback of a task that has ended takes it out of the set. -/
  | discard (task : Nat)
  | shutdown
  | gathered
  | stopConsumer
  | stopProducer
  | closeRedis
  | closePool

/-- The commands in the `gather` of a task. -/
def commandCount : BackgroundTask → Nat
  | .updateVelocity request => (updateVelocity request).length
  | _ => 0

namespace Lifespan

def start : Lifespan := ⟨0, [], [], [], [], [], [], [], .serving⟩

/-- Tasks are created, started and put into the set. -/
def launch (state : Lifespan) (tasks : List BackgroundTask) : Lifespan :=
  let fresh := List.range' state.created.length tasks.length
  { state with
    created := state.created ++ tasks
    running := state.running ++ fresh
    background := state.background ++ fresh
    commands := state.commands ++ (fresh.zip tasks).flatMap fun task =>
      (List.range (commandCount task.2)).map (task.1, ·) }

/-- A task ends. -/
def leave (state : Lifespan) (task : Nat) : Lifespan :=
  if task ∈ state.running then
    { state with running := state.running.erase task, ended := task :: state.ended }
  else state

def step (state : Lifespan) : LifespanLabel parser → Option Lifespan
  | .receive =>
      match state.stage with
      | .serving => some { state with requests := state.requests + 1 }
      | _ => none
  | .score scoring =>
      match state.stage, state.requests with
      | .serving, requests + 1 =>
          let (answer, tasks) := scoring.run state.created
          some
            { state.launch (tasks.drop state.created.length) with
              requests := requests
              answers := state.answers ++ [answer] }
      | _, _ => none
  | .reply task command succeeded =>
      if (task, command) ∈ state.commands then
        let replied := { state with commands := state.commands.erase (task, command) }
        if succeeded then some replied
        else some { replied.leave task with raised := task :: state.raised }
      else none
  | .finish task =>
      if task ∈ state.running ∧ ∀ command ∈ state.commands, command.1 ≠ task then
        some (state.leave task)
      else none
  | .discard task =>
      if task ∈ state.background ∧ task ∉ state.running then
        some { state with background := state.background.erase task }
      else none
  | .shutdown =>
      match state.stage, state.requests with
      | .serving, 0 =>
          some { state with
            stage := if state.background = [] then .waited else .waiting state.background }
      | _, _ => none
  | .gathered =>
      match state.stage with
      | .waiting awaited =>
          if ∀ task ∈ awaited, task ∉ state.running then some { state with stage := .waited }
          else none
      | _ => none
  | .stopConsumer =>
      match state.stage with
      | .waited => some { state with stage := .consumerStopped }
      | _ => none
  | .stopProducer =>
      match state.stage with
      | .consumerStopped => some { state with stage := .producerStopped }
      | _ => none
  | .closeRedis =>
      match state.stage with
      | .producerStopped => some { state with stage := .redisClosed }
      | _ => none
  | .closePool =>
      match state.stage with
      | .redisClosed => some { state with stage := .poolClosed }
      | _ => none

end Lifespan

def lifespanMachine (parser : Parser) : Machine Lifespan (LifespanLabel parser) where
  step := Lifespan.step

namespace Lifespan

/-- No task is forgotten, and none runs once the wait for them is over. -/
structure Tended (state : Lifespan) : Prop where
  /-- The answered requests have their three tasks, and there are no others. -/
  decided : ∃ decisions : List (RiskDecision × ScoreRequest),
    state.created = decisions.flatMap decisionTasks ∧
      state.answers.filterMap Except.toOption = decisions.map (·.1.toResponse)
  /-- A task ends once. -/
  once : (state.ended ++ state.running).Perm (List.range state.created.length)
  held : ∀ task ∈ state.running, task ∈ state.background
  drained : state.stage.Closing → state.running = []
  orphaned : ∀ command ∈ state.commands, command.1 ∈ state.running ∨ command.1 ∈ state.raised

structure Inv (state : Lifespan) : Prop extends state.Tended where
  awaited : ∀ awaited, state.stage = .waiting awaited → ∀ task ∈ state.running, task ∈ awaited

variable {state next : Lifespan}

/-- At the start no task is running. -/
theorem inv_start : start.Inv where
  decided := ⟨[], rfl, rfl⟩
  once := .refl _
  held _ running := by cases running
  drained _ := rfl
  orphaned _ waiting := by cases waiting
  awaited _ waiting := by cases waiting

section Leave

variable (state) (task : Nat)

@[simp] theorem leave_answers : (state.leave task).answers = state.answers := by
  unfold leave
  split <;> rfl

@[simp] theorem leave_created : (state.leave task).created = state.created := by
  unfold leave
  split <;> rfl

@[simp] theorem leave_background : (state.leave task).background = state.background := by
  unfold leave
  split <;> rfl

@[simp] theorem leave_commands : (state.leave task).commands = state.commands := by
  unfold leave
  split <;> rfl

@[simp] theorem leave_raised : (state.leave task).raised = state.raised := by
  unfold leave
  split <;> rfl

@[simp] theorem leave_stage : (state.leave task).stage = state.stage := by
  unfold leave
  split <;> rfl

/-- A reply to a command is nothing to the task that ends. -/
theorem leave_with_commands (commands : List (Nat × Nat)) :
    { state with commands := commands }.leave task =
      { state.leave task with commands := commands } := by
  unfold leave
  split <;> rfl

theorem leave_with_same :
    { state.leave task with commands := state.commands, raised := state.raised } =
      state.leave task := by
  unfold leave
  split <;> rfl

/-- No task starts when another ends. -/
theorem leave_running_subset : (state.leave task).running ⊆ state.running := by
  unfold leave
  split
  · exact List.erase_subset
  · exact List.Subset.refl _

variable {state task}

/-- The other tasks go on. -/
theorem mem_leave_running {other : Nat} (running : other ∈ state.running)
    (different : other ≠ task) : other ∈ (state.leave task).running := by
  unfold leave
  split
  · exact (List.mem_erase_of_ne different).mpr running
  · exact running

/-- No task is lost: what ended and what runs are together the tasks of before. -/
theorem leave_perm : ((state.leave task).ended ++ (state.leave task).running).Perm
    (state.ended ++ state.running) := by
  unfold leave
  split
  · rename_i running
    exact List.perm_middle.symm.trans ((List.perm_cons_erase running).symm.append_left state.ended)
  · exact .refl _

end Leave

/-- A task ends, none of whose commands is left behind without an exception. -/
theorem Inv.leave (inv : state.Inv) (task : Nat) {commands : List (Nat × Nat)} {raised : List Nat}
    (fewer : ∀ command ∈ commands, command ∈ state.commands)
    (more : ∀ other ∈ state.raised, other ∈ raised)
    (explained : ∀ command ∈ commands, command.1 = task → task ∈ raised) :
    Inv { state.leave task with commands := commands, raised := raised } where
  decided := by simpa only [leave_created, leave_answers] using inv.decided
  once := by
    simp only [leave_created]
    exact leave_perm.trans inv.once
  held other running := by
    simp only [leave_background]
    exact inv.held other (leave_running_subset state task running)
  drained closing := by
    rw [leave_stage] at closing
    have none := leave_running_subset state task
    rw [inv.drained closing] at none
    exact List.subset_nil.mp none
  orphaned command waiting := by
    by_cases own : command.1 = task
    · rw [own]
      exact .inr (explained command waiting own)
    · rcases inv.orphaned command (fewer command waiting) with running | raised
      · exact .inl (mem_leave_running running own)
      · exact .inr (more _ raised)
  awaited waited waiting other running := by
    rw [leave_stage] at waiting
    exact inv.awaited waited waiting other (leave_running_subset state task running)

/-- A request is answered, with its tasks or with none. -/
theorem Inv.launch (inv : state.Inv) (serving : state.stage = .serving) {requests : Nat}
    {answer : Except PyException ScoreResponse} {tasks : List BackgroundTask}
    (decided : ∃ decisions : List (RiskDecision × ScoreRequest),
      tasks = decisions.flatMap decisionTasks ∧
        [answer].filterMap Except.toOption = decisions.map (·.1.toResponse)) :
    Inv { state.launch tasks with requests := requests, answers := state.answers ++ [answer] } where
  decided := by
    obtain ⟨former, created, answered⟩ := inv.decided
    obtain ⟨latter, rfl, answers⟩ := decided
    refine ⟨former ++ latter, ?_, ?_⟩
    · rw [List.flatMap_append, ← created]
      rfl
    · change (state.answers ++ [answer]).filterMap Except.toOption = _
      rw [List.filterMap_append, List.map_append, answered, answers]
  once := by
    simp only [Lifespan.launch, List.length_append]
    rw [← List.append_assoc, List.range_eq_range', ← List.range'_append_1, Nat.zero_add,
      ← List.range_eq_range']
    exact inv.once.append_right _
  held task running := by
    simp only [Lifespan.launch, List.mem_append] at running ⊢
    exact running.imp (inv.held task) id
  drained closing := by
    simp only [Lifespan.launch, serving] at closing
    exact closing.elim
  orphaned command waiting := by
    simp only [Lifespan.launch, List.mem_append] at waiting ⊢
    rcases waiting with old | fresh
    · exact (inv.orphaned command old).imp .inl id
    · obtain ⟨task, created, listed⟩ := List.mem_flatMap.mp fresh
      obtain ⟨place, -, rfl⟩ := List.mem_map.mp listed
      exact .inl (.inr (List.of_mem_zip created).1)
  awaited waited waiting := by
    simp only [Lifespan.launch, serving] at waiting
    cases waiting

/-- What the end of the wait allows. -/
theorem Inv.advance (inv : state.Inv) {stage : ShutdownStage} (idle : state.running = []) :
    Inv { state with stage := stage } where
  decided := inv.decided
  once := inv.once
  held := inv.held
  drained _ := idle
  orphaned := inv.orphaned
  awaited _ _ task running := by
    change task ∈ state.running at running
    rw [idle] at running
    cases running

/-- Every step keeps the invariant. -/
theorem Inv.step (inv : state.Inv) {label : LifespanLabel parser}
    (step : state.step label = some next) : next.Inv := by
  cases label with
  | receive =>
      simp only [Lifespan.step] at step
      split at step
      · cases step
        exact { inv with }
      · cases step
  | score scoring =>
      simp only [Lifespan.step] at step
      split at step
      · rename_i requests serving pending
        rcases scoring.run_tasks state.created with ⟨problem, ran⟩ | ⟨decision, ran⟩
        · rw [ran] at step
          cases step
          refine inv.launch serving ⟨[], ?_, rfl⟩
          simp
        · rw [ran] at step
          cases step
          refine inv.launch serving ⟨[(decision, scoring.request)], ?_, rfl⟩
          simp
      · cases step
  | reply task command succeeded =>
      simp only [Lifespan.step] at step
      split at step
      · have fewer : ∀ other ∈ state.commands.erase (task, command), other ∈ state.commands :=
          fun other => List.mem_of_mem_erase
        split at step
        · cases step
          exact { inv with orphaned := fun other waiting => inv.orphaned other (fewer other waiting) }
        · cases step
          rw [leave_with_commands]
          refine inv.leave task fewer (fun other => List.mem_cons_of_mem task) ?_
          exact fun _ _ _ => List.mem_cons_self
      · cases step
  | finish task =>
      simp only [Lifespan.step] at step
      split at step
      · rename_i ready
        cases step
        have left := inv.leave task (fun _ => id) (fun _ => id)
          (fun command waiting own => absurd own (ready.2 command waiting))
        rwa [leave_with_same] at left
      · cases step
  | discard task =>
      simp only [Lifespan.step] at step
      split at step
      · rename_i gone
        cases step
        refine { inv with held := fun other running => ?_ }
        refine (List.mem_erase_of_ne ?_).mpr (inv.held other running)
        rintro rfl
        exact gone.2 running
      · cases step
  | shutdown =>
      simp only [Lifespan.step] at step
      split at step
      · cases step
        split
        · rename_i empty
          refine inv.advance (List.eq_nil_iff_forall_not_mem.mpr fun task running => ?_)
          have held := inv.held task running
          rw [empty] at held
          cases held
        · refine { inv with drained := fun closing => closing.elim, awaited := ?_ }
          rintro _ ⟨rfl⟩
          exact inv.held
      · cases step
  | gathered =>
      simp only [Lifespan.step] at step
      split at step
      · rename_i awaited waiting
        split at step
        · rename_i all
          cases step
          refine inv.advance (List.eq_nil_iff_forall_not_mem.mpr fun task running => ?_)
          exact all task (inv.awaited awaited waiting task running) running
        · cases step
      · cases step
  | stopConsumer | stopProducer | closeRedis | closePool =>
      simp only [Lifespan.step] at step
      split at step
      · rename_i stage
        cases step
        refine inv.advance (inv.drained ?_)
        rw [stage]
        trivial
      · cases step

end Lifespan

/-- In every run, whatever the order in which requests are answered, tasks and their commands
end and the process shuts down. -/
theorem tended_of_run (labels : List (LifespanLabel parser)) :
    (lifespanMachine parser).Along Lifespan.Tended .start labels := by
  have preserved : ∀ {state next : Lifespan} {label : LifespanLabel parser}, state.Inv →
      (lifespanMachine parser).step state label = some next → next.Inv :=
    fun inv step => inv.step step
  exact (Machine.along_of_preserved (fun inv step => preserved inv step) Lifespan.inv_start
    labels).mono fun state inv => inv.toTended

end Sentinel.Risk
