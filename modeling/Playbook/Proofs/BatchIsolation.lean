import Playbook.Proofs.BatchSchedules
import Playbook.Proofs.Fallible
import Playbook.Proofs.Procedure

/-!
# Isolation of the runs of a batch

No two runs of a batch have their properties in one place, so what a run will come to changes by
none of the moves of the batch, neither by its own ones nor by those of others.  Whatever the
schedule, every run ends with the result that it has alone.
-/

namespace Playbook

namespace Memory

variable {memory : Memory} {place other : Nat} {layer : Layer}

@[simp] theorem length_write : (memory.write place layer).length = memory.length :=
  List.length_modify ..

theorem read_write_self (inside : place < memory.length) :
    (memory.write place layer).read place = (memory.read place).write layer := by
  simp [read, write, List.getD_eq_getElem?_getD, inside]

theorem read_write_of_ne (distinct : place ≠ other) :
    (memory.write place layer).read other = memory.read other := by
  simp [read, write, List.getD_eq_getElem?_getD, distinct]

theorem read_append_length (properties : PropertySet) :
    read (memory ++ [properties]) memory.length = properties := by
  simp [read, List.getD_eq_getElem?_getD]

theorem read_append_of_lt (inside : place < memory.length) (properties : PropertySet) :
    read (memory ++ [properties]) place = memory.read place := by
  simp [read, List.getD_eq_getElem?_getD, List.getElem?_append_left, inside]

end Memory

/-- Executing one step of a run that nothing cancels. -/
theorem Run.ofSteps_never_cons (engine : Engine) (index : Nat) (properties : PropertySet)
    (step : Step) (rest : List Step) :
    let executed := step.execute engine properties index false
    ofSteps engine .never index false properties (step :: rest) =
      if engine.settings.stopsAt executed.outcome then stoppedAt executed false
      else after executed (ofSteps engine .never (index + 1) false executed.properties rest) := rfl

theorem Run.cancelled_ofSteps_never (engine : Engine) (index : Nat) (properties : PropertySet)
    (steps : List Step) :
    (ofSteps engine .never index false properties steps).cancelled = false := by
  induction steps generalizing index properties with
  | nil => rfl
  | cons step rest ih =>
      rw [ofSteps_never_cons]
      split
      · rfl
      · exact ih ..

namespace Runner

/-- What a path comes to if it is run alone. -/
def alone (runner : Runner) (path : String) : Fallible Result :=
  (runner.run .never false path).map Prod.fst

/-- The result of a run that goes on alone, on properties. -/
def finish (runner : Runner) (path : String) (run : Underway) (properties : PropertySet) :
    Result :=
  let others := Run.ofSteps runner.engine .never run.position false properties run.rest
  { run with outcomes := run.outcomes ++ others.outcomes }.result path others.state
    others.abortReason

/-- The result of a run that goes on alone behind a step that is complete. -/
def finishStep (runner : Runner) (path : String) (run : Underway) (step : Step)
    (completed : Completed (Verdict × Layer)) : Result :=
  let outcome := run.outcome step completed.result
  let run := run.record outcome
  if runner.engine.settings.stopsAt outcome then
    run.result path .aborted (some (Run.stopReason outcome))
  else runner.finish path run completed.properties

/-- The result of a run that goes on alone from a scenario, if that could be loaded. -/
def begin (runner : Runner) (path : String) (properties : PropertySet) :
    Fallible Scenario → Fallible Result
  | .ok scenario => .ok (runner.execute .never false properties scenario path).1
  | .error failure => refused path failure

/-- What a run that has come so far will come to, if it goes on alone. -/
def future (runner : Runner) (path : String) (memory : Memory) : Stage → Fallible Result
  | .waiting | .loading => runner.alone path
  | .opening place => runner.begin path (memory.read place) (runner.loadScenario path)
  | .between run => .ok (runner.finish path run (memory.read run.place))
  | .within run step work =>
      .ok (runner.finishStep path run step (work.run (memory.read run.place)))
  | .ended result => result

theorem alone_of_load_eq_error {runner : Runner} {path : String} {failure : Failure}
    (failed : runner.load (.ofText path) = .error failure) :
    runner.alone path = refused path failure := by
  unfold alone run
  rw [failed]
  cases failure with
  | diagnostic d =>
      unfold refused
      dsimp only
      split <;> rfl
  | _ => rfl

theorem load_ofText (runner : Runner) (path : String) :
    runner.load (.ofText path) = runner.loadProperties >>= fun properties =>
      runner.loadScenario path >>= fun scenario => pure (properties, scenario) := rfl

/-- Behind its properties, a run loads its scenario and executes it on them. -/
theorem alone_of_loadProperties_eq_ok {runner : Runner} {properties : PropertySet}
    (loaded : runner.loadProperties = .ok properties) (path : String) :
    runner.alone path = runner.begin path properties (runner.loadScenario path) := by
  have both : runner.load (.ofText path) =
      runner.loadScenario path >>= fun scenario => pure (properties, scenario) := by
    rw [load_ofText, loaded, Fallible.ok_bind]
  generalize runner.loadScenario path = opened at both
  cases opened with
  | ok scenario =>
      unfold alone run
      rw [both]
      rfl
  | error failure => exact alone_of_load_eq_error both

theorem finish_nil {run : Underway} (ended : run.rest = []) (runner : Runner) (path : String)
    (properties : PropertySet) :
    runner.finish path run properties = run.result path .completed none := by
  obtain ⟨place, scenario, outcomes, rest⟩ := run
  subst ended
  simp [finish, Run.ofSteps, Run.finished, Run.outcomes]

theorem finish_cons {run : Underway} {step : Step} {rest : List Step}
    (more : run.rest = step :: rest) (runner : Runner) (path : String)
    (properties : PropertySet) :
    runner.finish path run properties =
      runner.finishStep path { run with rest := rest } step
        ((step.procedure runner.engine run.position false).run properties) := by
  let executed := step.execute runner.engine properties run.position false
  have position : ({ run with rest := rest }.record executed.outcome).position =
      run.position + 1 := by
    simp [Underway.position, Underway.record]
  change runner.finish path run properties =
    if runner.engine.settings.stopsAt executed.outcome then
      ({ run with rest := rest }.record executed.outcome).result path .aborted
        (some (Run.stopReason executed.outcome))
    else runner.finish path ({ run with rest := rest }.record executed.outcome)
      executed.properties
  have split := Run.ofSteps_never_cons runner.engine run.position properties step rest
  unfold finish
  rw [more, split]
  split
  · rfl
  · simp only [Underway.result, Run.outcomes, Run.after, List.map_cons]
    rw [position, List.append_cons]
    rfl

/-- A run does not change what it will come to. -/
theorem future_advance {memory : Memory} {stage : Stage}
    (inside : ∀ place ∈ stage.place?, place < memory.length) (runner : Runner) (path : String) :
    runner.future path (runner.advance path memory stage).2 (runner.advance path memory stage).1 =
      runner.future path memory stage := by
  cases stage with
  | waiting => rfl
  | loading =>
      change _ = runner.alone path
      unfold advance
      cases loaded : runner.loadProperties with
      | ok properties =>
          change runner.begin path (Memory.read (memory ++ [properties]) memory.length)
            (runner.loadScenario path) = _
          rw [Memory.read_append_length, alone_of_loadProperties_eq_ok loaded]
      | error failure =>
          symm
          apply alone_of_load_eq_error
          rw [load_ofText]
          exact Fallible.bind_eq_error_iff.mpr (.inl loaded)
  | opening place =>
      unfold advance future
      generalize runner.loadScenario path = opened
      cases opened <;> rfl
  | between run =>
      obtain ⟨place, scenario, outcomes, rest⟩ := run
      cases rest with
      | nil => exact congrArg Except.ok (finish_nil rfl runner path _).symm
      | cons step rest => exact congrArg Except.ok (finish_cons rfl runner path _).symm
  | within run step work =>
      cases work with
      | done ending =>
          change _ = Except.ok (if runner.engine.settings.stopsAt (run.outcome step ending) then
            (run.record (run.outcome step ending)).result path .aborted
              (some (Run.stopReason (run.outcome step ending)))
            else runner.finish path (run.record (run.outcome step ending)) (memory.read run.place))
          unfold advance
          dsimp only
          split
          · rfl
          · rfl
      | look next => rfl
      | store layer next =>
          have written : (memory.write run.place layer).read run.place =
              (memory.read run.place).write layer :=
            Memory.read_write_self (inside run.place rfl)
          change Except.ok (runner.finishStep path run step
            (next.run ((memory.write run.place layer).read run.place))) = _
          rw [written]
          rfl
      | cancel next => rfl
  | ended result => rfl

/-- What the next move of a run does to the memory: nothing, or it puts properties into a new
place, or it writes into the place that the run has. -/
inductive Touches (memory : Memory) (stage next : Stage) : Memory → Prop where
  | nothing : (∀ place ∈ next.place?, place ∈ stage.place?) → Touches memory stage next memory
  | adds (properties : PropertySet) :
      next.place? = some memory.length → Touches memory stage next (memory ++ [properties])
  | writes (place : Nat) (layer : Layer) :
      stage.place? = some place → next.place? = some place →
      Touches memory stage next (memory.write place layer)

theorem touches_advance (runner : Runner) (path : String) (memory : Memory) (stage : Stage) :
    Touches memory stage (runner.advance path memory stage).1
      (runner.advance path memory stage).2 := by
  cases stage with
  | waiting => exact .nothing fun place member => member
  | loading =>
      unfold advance
      cases runner.loadProperties with
      | ok properties => exact .adds properties rfl
      | error failure => exact .nothing nofun
  | opening place =>
      unfold advance
      generalize runner.loadScenario path = opened
      cases opened with
      | ok scenario => exact .nothing fun place member => member
      | error failure => exact .nothing nofun
  | between run =>
      obtain ⟨place, scenario, outcomes, rest⟩ := run
      cases rest with
      | nil => exact .nothing nofun
      | cons step rest => exact .nothing fun place member => member
  | within run step work =>
      cases work with
      | done ending =>
          unfold advance
          dsimp only
          split
          · exact .nothing nofun
          · exact .nothing fun place member => member
      | look next => exact .nothing fun place member => member
      | store layer next => exact .writes run.place layer rfl rfl
      | cancel next => exact .nothing fun place member => member
  | ended result => exact .nothing nofun

namespace Touches

variable {memory behind : Memory} {stage next : Stage} {place : Nat}

theorem length_le (touches : Touches memory stage next behind) :
    memory.length ≤ behind.length := by
  cases touches with
  | nothing => exact Nat.le_refl _
  | adds properties => simp
  | writes place layer => simp

/-- The places of other runs are left alone. -/
theorem read_eq (touches : Touches memory stage next behind) (inside : place < memory.length)
    (foreign : place ∉ stage.place?) : behind.read place = memory.read place := by
  cases touches with
  | nothing => rfl
  | adds properties => exact Memory.read_append_of_lt inside properties
  | writes own layer held =>
      apply Memory.read_write_of_ne
      intro same
      exact foreign (same ▸ held)

/-- A run keeps its place or takes one that no run has had. -/
theorem mem_or_length_le (touches : Touches memory stage next behind)
    (member : place ∈ next.place?) : place ∈ stage.place? ∨ memory.length ≤ place := by
  cases touches with
  | nothing kept => exact .inl (kept place member)
  | adds properties fresh =>
      rw [fresh] at member
      exact .inr (Nat.le_of_eq (Option.some.inj member))
  | writes own layer held kept =>
      rw [kept] at member
      exact .inl (held.trans member)

theorem lt_length (touches : Touches memory stage next behind)
    (inside : ∀ place ∈ stage.place?, place < memory.length) (member : place ∈ next.place?) :
    place < behind.length := by
  cases touches with
  | nothing kept => exact inside place (kept place member)
  | adds properties fresh =>
      rw [fresh] at member
      cases member
      simp
  | writes own layer held kept =>
      rw [kept] at member
      rw [Memory.length_write]
      exact inside place (held.trans member)

end Touches

end Runner

/-- A view on a run that sees nothing of the memory but the properties of the run. -/
def Stage.Sees {α : Type} (view : Memory → Stage → α) : Prop :=
  ∀ memory other stage, (∀ place ∈ stage.place?, memory.read place = other.read place) →
    view memory stage = view other stage

theorem Runner.sees_future (runner : Runner) (path : String) :
    Stage.Sees (runner.future path) := by
  intro memory other stage same
  cases stage with
  | opening place => simp only [future, same place rfl]
  | between run => simp only [future, same run.place rfl]
  | within run step work => simp only [future, same run.place rfl]
  | _ => rfl

namespace Pool

variable {runner : Runner} {workers moves number : Nat} {pool next start : Pool} {task : Task}

/-- What there is to see of the runs of a batch. -/
def views {α : Type} (pool : Pool) (view : String → Memory → Stage → α) : List α :=
  pool.tasks.map fun task => view task.path pool.memory task.stage

/-- The runs have their properties in the memory, no two of them in one place. -/
structure Separate (pool : Pool) : Prop where
  inside : ∀ task ∈ pool.tasks, ∀ place ∈ task.stage.place?, place < pool.memory.length
  apart : ∀ {i j : Nat} {first second : Task}, pool.tasks[i]? = some first →
    pool.tasks[j]? = some second → i ≠ j →
    ∀ place ∈ first.stage.place?, place ∉ second.stage.place?

theorem separate_ofPaths (paths : List String) : (ofPaths paths).Separate where
  inside task member place held := by
    obtain ⟨path, _, rfl⟩ := List.mem_map.mp member
    cases held
  apart first _ _ place held := by
    obtain ⟨path, _, rfl⟩ := List.mem_map.mp (List.mem_of_getElem? first)
    cases held

theorem getElem?_tasks_moved (found : pool.tasks[number]? = some task) (i : Nat) :
    (pool.moved runner number task).tasks[i]? =
      if number = i then
        some { task with stage := (runner.advance task.path pool.memory task.stage).1 }
      else pool.tasks[i]? := by
  obtain ⟨inside, _⟩ := List.getElem?_eq_some_iff.mp found
  change (pool.tasks.set number
    { task with stage := (runner.advance task.path pool.memory task.stage).1 })[i]? = _
  rw [List.getElem?_set, if_pos inside]

theorem separate_moved (separate : pool.Separate) (found : pool.tasks[number]? = some task) :
    (pool.moved runner number task).Separate := by
  have touches := runner.touches_advance task.path pool.memory task.stage
  have own := separate.inside task (List.mem_of_getElem? found)
  have foreign : ∀ {k : Nat} {other : Task}, pool.tasks[k]? = some other → number ≠ k →
      ∀ place ∈ (runner.advance task.path pool.memory task.stage).1.place?,
        place ∉ other.stage.place? := by
    intro k other at_ distinct place member held
    rcases touches.mem_or_length_le member with kept | fresh
    · exact separate.apart found at_ distinct place kept held
    · have inside := separate.inside other (List.mem_of_getElem? at_) place held
      exact absurd inside (Nat.not_lt_of_le fresh)
  constructor
  case inside =>
    intro other member place held
    rcases List.mem_or_eq_of_mem_set member with member | rfl
    · exact Nat.lt_of_lt_of_le (separate.inside other member place held) touches.length_le
    · exact touches.lt_length own held
  case apart =>
    intro i j first second firstAt secondAt distinct place held
    rw [getElem?_tasks_moved found] at firstAt secondAt
    split at firstAt
    case isTrue same =>
      subst same
      cases firstAt
      rw [if_neg distinct] at secondAt
      exact foreign secondAt distinct place held
    case isFalse other =>
      split at secondAt
      case isTrue same =>
        subst same
        cases secondAt
        intro taken
        exact foreign firstAt other place taken held
      case isFalse => exact separate.apart firstAt secondAt distinct place held

/-- A move of one run changes no view on the others. -/
theorem views_moved {α : Type} {view : String → Memory → Stage → α}
    (sees : ∀ path, Stage.Sees (view path)) (separate : pool.Separate)
    (found : pool.tasks[number]? = some task) :
    (pool.moved runner number task).views view =
      (pool.views view).set number (view task.path
        (runner.advance task.path pool.memory task.stage).2
        (runner.advance task.path pool.memory task.stage).1) := by
  obtain ⟨inside, _⟩ := List.getElem?_eq_some_iff.mp found
  have touches := runner.touches_advance task.path pool.memory task.stage
  apply List.ext_getElem?
  intro i
  unfold views
  rw [List.getElem?_map, getElem?_tasks_moved found, List.getElem?_set, List.length_map,
    if_pos inside, List.getElem?_map]
  split
  case isTrue => rfl
  case isFalse distinct =>
    cases at_ : pool.tasks[i]? with
    | none => rfl
    | some other =>
        apply congrArg some
        apply sees other.path
        intro place held
        apply touches.read_eq (separate.inside other (List.mem_of_getElem? at_) place held)
        intro own
        exact separate.apart found at_ distinct place own held

theorem separate_of_moves (separate : pool.Separate) (moves : Moves runner workers pool next) :
    next.Separate := by
  cases moves with
  | takeOn found => exact separate_moved separate found
  | goOn found => exact separate_moved separate found

theorem separate_of_after (separate : start.Separate)
    (after : After runner workers start moves pool) : pool.Separate := by
  induction after with
  | start => exact separate
  | move _ moves ih => exact separate_of_moves ih moves

/-- What the runs of a batch will come to, each if it goes on alone. -/
def futures (pool : Pool) (runner : Runner) : List (Fallible Result) := pool.views runner.future

theorem futures_moved (separate : pool.Separate) (found : pool.tasks[number]? = some task) :
    (pool.moved runner number task).futures runner = pool.futures runner := by
  obtain ⟨inside, here⟩ := List.getElem?_eq_some_iff.mp found
  have own := separate.inside task (List.mem_of_getElem? found)
  unfold futures
  rw [views_moved runner.sees_future separate found, Runner.future_advance own]
  apply List.ext_getElem?
  intro i
  rw [List.getElem?_set]
  split
  case isTrue same =>
    subst same
    simp [views, here, inside]
  case isFalse => rfl

theorem futures_of_moves (separate : pool.Separate) (moves : Moves runner workers pool next) :
    next.futures runner = pool.futures runner := by
  cases moves with
  | takeOn found => exact futures_moved separate found
  | goOn found => exact futures_moved separate found

/-- No schedule changes what the runs of a batch will come to. -/
theorem futures_of_after (separate : start.Separate)
    (after : After runner workers start moves pool) :
    pool.futures runner = start.futures runner := by
  induction after with
  | start => rfl
  | move before moves ih =>
      exact (futures_of_moves (separate_of_after separate before) moves).trans ih

theorem futures_ofPaths (runner : Runner) (paths : List String) :
    (ofPaths paths).futures runner = paths.map runner.alone := by
  simp [futures, views, ofPaths, Runner.future]

/-- A batch that is over has come to what was to come of its runs. -/
theorem results_of_isOver (noneGoes : pool.isOver = true) (runner : Runner) :
    pool.results = (pool.futures runner).map some := by
  unfold results futures views
  rw [List.map_map]
  apply List.map_congr_left
  intro task member
  have ended := List.all_eq_true.mp noneGoes task member
  obtain ⟨path, stage⟩ := task
  cases stage with
  | ended result => rfl
  | _ => cases ended

end Pool

end Playbook
