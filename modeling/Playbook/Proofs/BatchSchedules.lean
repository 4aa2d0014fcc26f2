import Playbook.Runner

/-!
# Schedules of batches

The runs of a batch share their runner and one memory, in which each of them puts its properties
when it has loaded them.  Workers take the paths of the batch on in order, as many at a time as
there are workers.  At every moment any run that is under way may do its next thing, which is as
small as a single look into properties; a schedule is any sequence of such moves.
-/

namespace Playbook

/-- The properties of the runs of a batch. -/
abbrev Memory := List PropertySet

namespace Memory

def read (memory : Memory) (place : Nat) : PropertySet := memory.getD place default

def write (memory : Memory) (place : Nat) (layer : Layer) : Memory :=
  memory.modify place fun properties => properties.write layer

end Memory

/-- A run that executes its scenario: the place of its properties, the outcomes so far and the
steps that are left. -/
structure Underway where
  place : Nat
  scenario : Scenario
  outcomes : List Outcome
  rest : List Step

namespace Underway

/-- A run that has just loaded its scenario. -/
def ofScenario (place : Nat) (scenario : Scenario) : Underway :=
  ⟨place, scenario, [], scenario.steps⟩

/-- The position of the next step. -/
def position (run : Underway) : Nat := run.outcomes.length + 1

/-- The outcome of the next step, from what it has come to. -/
def outcome (run : Underway) (step : Step) (ending : Fallible (Verdict × Layer)) : Outcome :=
  step.outcome run.position (Step.settled ending).1 (Step.settled ending).2

def record (run : Underway) (outcome : Outcome) : Underway :=
  { run with outcomes := run.outcomes ++ [outcome] }

/-- The result of a run that ends here. -/
def result (run : Underway) (path : String) (state : RunState) (reason : Option String) :
    Result where
  source := if path.isEmpty then run.scenario.label else path
  scenario := some run.scenario
  outcomes := run.outcomes
  state := state
  abortReason := reason

end Underway

/-- How far a run of a batch has come. -/
inductive Stage where
  | waiting
  /-- Its properties are to be loaded. -/
  | loading
  /-- Its scenario is to be loaded. -/
  | opening (place : Nat)
  | between (run : Underway)
  /-- In the middle of a step, of which some work is left. -/
  | within (run : Underway) (step : Step) (work : Procedure (Verdict × Layer))
  | ended (result : Fallible Result)

namespace Stage

def isWaiting : Stage → Bool
  | waiting => true
  | _ => false

def isEnded : Stage → Bool
  | ended _ => true
  | _ => false

/-- Whether a worker has taken the run on and is not through with it. -/
def isUnderway (stage : Stage) : Bool := !stage.isWaiting && !stage.isEnded

/-- The place of the properties of a run that has loaded them. -/
def place? : Stage → Option Nat
  | opening place => some place
  | between run | within run _ _ => some run.place
  | waiting | loading | ended _ => none

def result? : Stage → Option (Fallible Result)
  | ended result => some result
  | _ => none

end Stage

namespace Runner

def loadScenario (runner : Runner) (path : String) : Fallible Scenario :=
  Scenario.load runner.engine.registry runner.ahead runner.engine.files runner.engine.workspace
    (.ofText path)

/-- What a run comes to that cannot be loaded. -/
def refused (path : String) : Failure → Fallible Result
  | .diagnostic d =>
      if isReported d.kind then .ok (loadFailed path d.message) else .error (.diagnostic d)
  | failure => .error failure

/-- How far a run is that has tried to load its properties, and the memory behind this. -/
def withProperties (path : String) (memory : Memory) : Fallible PropertySet → Stage × Memory
  | .ok properties => (.opening memory.length, memory ++ [properties])
  | .error failure => (.ended (refused path failure), memory)

/-- How far a run is that has tried to load its scenario. -/
def withScenario (path : String) (place : Nat) : Fallible Scenario → Stage
  | .ok scenario => .between (.ofScenario place scenario)
  | .error failure => .ended (refused path failure)

/-- What a run that has come so far does next: how far it comes, and the memory behind it. -/
def advance (runner : Runner) (path : String) (memory : Memory) : Stage → Stage × Memory
  | .waiting => (.loading, memory)
  | .loading => withProperties path memory runner.loadProperties
  | .opening place => (withScenario path place (runner.loadScenario path), memory)
  | .between run =>
      match run.rest with
      | [] => (.ended (.ok (run.result path .completed none)), memory)
      | step :: rest =>
          (.within { run with rest := rest } step
            (step.procedure runner.engine run.position false), memory)
  | .within run step (.done ending) =>
      let outcome := run.outcome step ending
      let run := run.record outcome
      if runner.engine.settings.stopsAt outcome then
        (.ended (.ok (run.result path .aborted (some (Run.stopReason outcome)))), memory)
      else (.between run, memory)
  | .within run step (.look next) => (.within run step (next (memory.read run.place)), memory)
  | .within run step (.store layer next) =>
      (.within run step next, memory.write run.place layer)
  | .within run step (.cancel next) => (.within run step next, memory)
  | .ended result => (.ended result, memory)

end Runner

/-- A path of a batch, and how far its run has come. -/
structure Task where
  path : String
  stage : Stage := .waiting

/-- A batch that is being run. -/
structure Pool where
  memory : Memory
  tasks : List Task

namespace Pool

/-- A batch of which nothing has been taken on. -/
def ofPaths (paths : List String) : Pool := ⟨[], paths.map fun path => { path := path }⟩

/-- Number of workers that have something to do. -/
def busy (pool : Pool) : Nat := pool.tasks.countP fun task => task.stage.isUnderway

def isOver (pool : Pool) : Bool := pool.tasks.all fun task => task.stage.isEnded

def results (pool : Pool) : List (Option (Fallible Result)) :=
  pool.tasks.map fun task => task.stage.result?

/-- The batch behind the next move of one of its runs. -/
def moved (pool : Pool) (runner : Runner) (number : Nat) (task : Task) : Pool :=
  let (stage, memory) := runner.advance task.path pool.memory task.stage
  ⟨memory, pool.tasks.set number { task with stage := stage }⟩

/-- The moves of a batch with a number of workers. -/
inductive Moves (runner : Runner) (workers : Nat) (pool : Pool) : Pool → Prop where
  /-- A worker that is free takes on the first path that is waiting. -/
  | takeOn {number : Nat} {task : Task} :
      pool.tasks[number]? = some task → task.stage.isWaiting = true →
      (∀ earlier ∈ pool.tasks.take number, earlier.stage.isWaiting = false) →
      pool.busy < workers → Moves runner workers pool (pool.moved runner number task)
  | goOn {number : Nat} {task : Task} :
      pool.tasks[number]? = some task → task.stage.isUnderway = true →
      Moves runner workers pool (pool.moved runner number task)

/-- What a batch may have come to after a number of moves. -/
inductive After (runner : Runner) (workers : Nat) (start : Pool) : Nat → Pool → Prop where
  | start : After runner workers start 0 start
  | move {moves : Nat} {pool next : Pool} :
      After runner workers start moves pool → Moves runner workers pool next →
      After runner workers start (moves + 1) next

end Pool

end Playbook
