import Mathlib.Algebra.BigOperators.Group.List.Basic
import Mathlib.Algebra.GroupWithZero.Nat
import Playbook.Proofs.BatchIsolation

/-!
# Completion of batches

Every move of a batch takes work off one of its runs and adds none to the others, and as long as
a run has not ended there is a move.  So every schedule comes to an end, with the result that
each run has alone.
-/

namespace Playbook

/-- Number of things that a procedure does to a run with properties. -/
def Procedure.actions {α : Type} : Procedure α → PropertySet → Nat
  | done _, _ => 0
  | look next, properties => (next properties).actions properties + 1
  | store layer next, properties => next.actions (properties.write layer) + 1
  | cancel next, properties => next.actions properties + 1

namespace Runner

variable {memory : Memory} {stage : Stage}

/-- Number of moves that steps take, if none of them stops the run, and one for its end. -/
def movesOfSteps (runner : Runner) : Nat → PropertySet → List Step → Nat
  | _, _, [] => 1
  | index, properties, step :: rest =>
      let work := step.procedure runner.engine index false
      work.actions properties + 2 +
        movesOfSteps runner (index + 1) (work.run properties).properties rest

/-- Number of moves that are left to a run whose scenario is to be loaded. -/
def movesOfScenario (runner : Runner) (properties : PropertySet) : Fallible Scenario → Nat
  | .ok scenario => runner.movesOfSteps 1 properties scenario.steps + 1
  | .error _ => 1

/-- Number of moves that are left to a run whose properties are to be loaded. -/
def movesOfLoading (runner : Runner) (path : String) : Fallible PropertySet → Nat
  | .ok properties => runner.movesOfScenario properties (runner.loadScenario path) + 1
  | .error _ => 1

/-- Number of moves that are left to a run at most. -/
def remaining (runner : Runner) (path : String) (memory : Memory) : Stage → Nat
  | .waiting => runner.movesOfLoading path runner.loadProperties + 1
  | .loading => runner.movesOfLoading path runner.loadProperties
  | .opening place => runner.movesOfScenario (memory.read place) (runner.loadScenario path)
  | .between run => runner.movesOfSteps run.position (memory.read run.place) run.rest
  | .within run _ work =>
      work.actions (memory.read run.place) + 1 + runner.movesOfSteps (run.position + 1)
        (work.run (memory.read run.place)).properties run.rest
  | .ended _ => 0

theorem sees_remaining (runner : Runner) (path : String) :
    Stage.Sees (runner.remaining path) := by
  intro memory other stage same
  cases stage with
  | opening place => simp only [remaining, same place rfl]
  | between run => simp only [remaining, same run.place rfl]
  | within run step work => simp only [remaining, same run.place rfl]
  | _ => rfl

theorem remaining_advance_lt (runner : Runner) (path : String) (going : stage.isEnded = false)
    (inside : ∀ place ∈ stage.place?, place < memory.length) :
    runner.remaining path (runner.advance path memory stage).2
        (runner.advance path memory stage).1 <
      runner.remaining path memory stage := by
  cases stage with
  | waiting => exact Nat.lt_succ_self _
  | loading =>
      unfold remaining advance
      cases runner.loadProperties with
      | ok properties =>
          change runner.movesOfScenario (Memory.read (memory ++ [properties]) memory.length)
            (runner.loadScenario path) < runner.movesOfScenario properties _ + 1
          rw [Memory.read_append_length]
          exact Nat.lt_succ_self _
      | error failure => exact Nat.zero_lt_one
  | opening place =>
      unfold remaining advance
      generalize runner.loadScenario path = opened
      cases opened with
      | ok scenario => exact Nat.lt_succ_self _
      | error failure => exact Nat.zero_lt_one
  | between run =>
      obtain ⟨place, scenario, outcomes, rest⟩ := run
      cases rest with
      | nil => exact Nat.zero_lt_one
      | cons step rest =>
          apply Nat.add_lt_add_right
          exact Nat.lt_succ_self _
  | within run step work =>
      cases work with
      | done ending =>
          have position : (run.record (run.outcome step ending)).position = run.position + 1 := by
            simp [Underway.position, Underway.record]
          change _ < 0 + 1 + runner.movesOfSteps (run.position + 1) (memory.read run.place) run.rest
          unfold advance
          dsimp only
          split
          · change 0 < _
            omega
          · change runner.movesOfSteps (run.record (run.outcome step ending)).position
              (memory.read run.place) run.rest < _
            rw [position]
            omega
      | look next =>
          apply Nat.add_lt_add_right
          exact Nat.lt_succ_self _
      | store layer next =>
          have written : (memory.write run.place layer).read run.place =
              (memory.read run.place).write layer :=
            Memory.read_write_self (inside run.place rfl)
          change next.actions ((memory.write run.place layer).read run.place) + 1 +
            runner.movesOfSteps (run.position + 1)
              (next.run ((memory.write run.place layer).read run.place)).properties run.rest < _
          rw [written]
          apply Nat.add_lt_add_right
          exact Nat.lt_succ_self _
      | cancel next =>
          apply Nat.add_lt_add_right
          exact Nat.lt_succ_self _
  | ended result => cases going

end Runner

namespace Stage

variable {stage : Stage}

theorem going_of_isWaiting (waiting : stage.isWaiting = true) : stage.isEnded = false := by
  cases stage with
  | ended result => cases waiting
  | _ => rfl

theorem going_of_isUnderway (busy : stage.isUnderway = true) : stage.isEnded = false := by
  cases stage with
  | ended result => cases busy
  | _ => rfl

theorem isWaiting_of_going (going : stage.isEnded = false) (idle : ¬stage.isUnderway = true) :
    stage.isWaiting = true := by
  cases stage with
  | waiting => rfl
  | ended result => cases going
  | _ => exact absurd rfl idle

end Stage

namespace Pool

variable {runner : Runner} {workers moves number : Nat} {pool next start : Pool} {task : Task}

/-- Number of moves that are left to the runs of a batch at most. -/
def remaining (pool : Pool) (runner : Runner) : Nat := (pool.views runner.remaining).sum

theorem remaining_moved_lt (separate : pool.Separate) (found : pool.tasks[number]? = some task)
    (going : task.stage.isEnded = false) :
    (pool.moved runner number task).remaining runner < pool.remaining runner := by
  obtain ⟨inside, here⟩ := List.getElem?_eq_some_iff.mp found
  have own := separate.inside task (List.mem_of_getElem? found)
  have less := runner.remaining_advance_lt task.path going own
  have counted : number < (pool.views runner.remaining).length := by
    simpa [views] using inside
  have old : (pool.views runner.remaining)[number] =
      runner.remaining task.path pool.memory task.stage := by
    simp [views, here]
  calc (pool.moved runner number task).remaining runner
      = ((pool.views runner.remaining).set number (runner.remaining task.path
          (runner.advance task.path pool.memory task.stage).2
          (runner.advance task.path pool.memory task.stage).1)).sum :=
        congrArg List.sum (views_moved runner.sees_remaining separate found)
    _ < ((pool.views runner.remaining).set number (pool.views runner.remaining)[number]).sum := by
        rw [List.sum_set, List.sum_set, if_pos counted, if_pos counted, old]
        omega
    _ = pool.remaining runner := congrArg List.sum (List.set_getElem_self counted)

theorem remaining_lt_of_moves (separate : pool.Separate)
    (moves : Moves runner workers pool next) : next.remaining runner < pool.remaining runner := by
  cases moves with
  | takeOn found waiting =>
      exact remaining_moved_lt separate found (Stage.going_of_isWaiting waiting)
  | goOn found busy => exact remaining_moved_lt separate found (Stage.going_of_isUnderway busy)

/-- The number of moves of a batch has a bound that no schedule exceeds. -/
theorem moves_add_remaining_le (separate : start.Separate)
    (after : After runner workers start moves pool) :
    moves + pool.remaining runner ≤ start.remaining runner := by
  induction after with
  | start => exact Nat.le_of_eq (Nat.zero_add _)
  | move before moves ih =>
      have less := remaining_lt_of_moves (separate_of_after separate before) moves
      omega

/-- A batch that is not over goes on: a run that is under way has a move, or else a worker is
free for the first path that is waiting. -/
theorem exists_moves (staffed : 0 < workers) (going : pool.isOver = false) (runner : Runner) :
    ∃ next, Moves runner workers pool next := by
  by_cases underway : ∃ task ∈ pool.tasks, task.stage.isUnderway = true
  · obtain ⟨task, member, busy⟩ := underway
    obtain ⟨number, found⟩ := List.getElem?_of_mem member
    exact ⟨_, .goOn found busy⟩
  · have idle : pool.busy = 0 := by
      apply List.countP_eq_zero.mpr
      intro task member busy
      exact underway ⟨task, member, busy⟩
    have waiting : ∃ task ∈ pool.tasks, task.stage.isWaiting = true := by
      obtain ⟨task, member, left⟩ := List.all_eq_false.mp going
      refine ⟨task, member, Stage.isWaiting_of_going (Bool.eq_false_iff.mpr left) ?_⟩
      intro busy
      exact underway ⟨task, member, busy⟩
    let first := pool.tasks.findIdx fun task => task.stage.isWaiting
    have inside : first < pool.tasks.length := List.findIdx_lt_length.mpr waiting
    have found : pool.tasks[first]? = some pool.tasks[first] := List.getElem?_eq_getElem inside
    have reached : pool.tasks[first].stage.isWaiting = true :=
      List.findIdx_getElem (p := fun task : Task => task.stage.isWaiting)
    refine ⟨_, .takeOn found reached ?_ (idle ▸ staffed)⟩
    intro earlier member
    obtain ⟨i, before, rfl⟩ := List.mem_take_iff_getElem.mp member
    exact List.not_of_lt_findIdx (Nat.lt_of_lt_of_le before (Nat.min_le_left ..))

end Pool

namespace Runner

theorem cancelled_of_run_never {runner : Runner} {path : String} {ending : Result × Bool}
    (ran : runner.run .never false path = .ok ending) : ending.2 = false := by
  unfold run at ran
  generalize runner.load (.ofText path) = loaded at ran
  cases loaded with
  | ok loaded =>
      cases ran
      exact Run.cancelled_ofSteps_never ..
  | error failure =>
      cases failure with
      | diagnostic d =>
          dsimp only at ran
          split at ran <;> cases ran
          rfl
      | _ => cases ran

section

-- What follows goes by what a run has returned and never looks into it.
attribute [local irreducible] run

theorem runAll_cons (runner : Runner) (cancellation : Cancellation) (cancelled : Bool)
    (path : String) (rest : List String) :
    runner.runAll cancellation cancelled (path :: rest) =
      match runner.run cancellation cancelled path with
      | .ok (result, cancelled) => .ok result :: runner.runAll cancellation cancelled rest
      | .error failure => .error failure :: runner.runAll cancellation cancelled rest := rfl

/-- A run that nothing cancels leaves the others as they are. -/
theorem runAll_never_cons (runner : Runner) (path : String) (rest : List String) :
    runner.runAll .never false (path :: rest) =
      runner.alone path :: runner.runAll .never false rest := by
  have silent : ∀ ending, runner.run .never false path = .ok ending → ending.2 = false :=
    fun _ => cancelled_of_run_never
  unfold alone
  rw [runAll_cons]
  generalize runner.run .never false path = ran at silent
  cases ran with
  | ok ending =>
      obtain ⟨result, cancelled⟩ := ending
      cases silent (result, cancelled) rfl
      rfl
  | error failure => rfl

/-- Runs one after the other, which nothing cancels, are runs that are alone. -/
theorem runAll_never (runner : Runner) (paths : List String) :
    runner.runAll .never false paths = paths.map runner.alone := by
  induction paths with
  | nil => rfl
  | cons path rest ih => exact (runner.runAll_never_cons path rest).trans (congrArg _ ih)

end

theorem runBatch_of_pos {runner : Runner} {workers : Option Int}
    (staffed : ∀ count ∈ workers, 0 < count) (cancellation : Cancellation) (cancelled : Bool)
    (paths : List String) :
    runner.runBatch cancellation cancelled workers paths =
      (runner.runAll cancellation cancelled paths).mapM fun outcome => outcome := by
  cases workers with
  | none => rfl
  | some count => exact if_neg (Int.not_le.mpr (staffed count rfl))

/-- Batches are isolated.  If every path of a batch comes to a result when it is run alone, then
these results, in the order of the paths, are those of runs one after the other and of the batch,
with any number of workers and by any schedule: no schedule goes on for ever, each goes on until
all runs have ended, and they end with these results. -/
theorem runBatch_isolated {runner : Runner} {paths : List String}
    (returns : ∀ path ∈ paths, ∃ ending, runner.run .never false path = .ok ending) :
    ∃ results : List Result, paths.map runner.alone = results.map .ok ∧
      runner.runAll .never false paths = results.map .ok ∧
      (∀ workers : Option Int, (∀ count ∈ workers, 0 < count) →
        runner.runBatch .never false workers paths = .ok results) ∧
      ∀ workers, 0 < workers → ∃ bound, ∀ moves pool,
        Pool.After runner workers (.ofPaths paths) moves pool → moves ≤ bound ∧
          if pool.isOver then pool.results = results.map fun result => some (.ok result)
          else ∃ next, Pool.Moves runner workers pool next := by
  have succeed : ∀ path ∈ paths, Fallible.Succeeds (runner.alone path) := by
    intro path member
    obtain ⟨ending, ran⟩ := returns path member
    exact ⟨ending.1, Fallible.map_eq_ok_iff.mpr ⟨ending, ran, rfl⟩⟩
  obtain ⟨results, collected⟩ := Fallible.exists_map_ok succeed
  have sequential := (runner.runAll_never paths).trans collected
  refine ⟨results, collected, sequential, ?_, ?_⟩
  · intro workers staffed
    rw [runBatch_of_pos staffed, sequential, Fallible.mapM_map_ok]
  · intro workers staffed
    refine ⟨(Pool.ofPaths paths).remaining runner, fun moves pool after => ?_⟩
    have separate := Pool.separate_ofPaths paths
    have bounded := Pool.moves_add_remaining_le separate after
    refine ⟨Nat.le_of_add_right_le bounded, ?_⟩
    split
    case isTrue ended =>
      rw [Pool.results_of_isOver ended runner, Pool.futures_of_after separate after,
        Pool.futures_ofPaths, collected, List.map_map]
      rfl
    case isFalse going =>
      exact Pool.exists_moves staffed (Bool.eq_false_iff.mpr going) runner

/-- Two workers and a file that is run twice, about a file that is missing. -/
theorem runBatch_isolated_pair :
    let runner : Runner :=
      { engine := { registry := .builtin, workspace := .ofText "",
                    files := (Files.mk [] []).add (.ofText "a.yaml")
                      ("kind: set\nx: 5\n---\n" ++
                        "kind: assert\nvalue: '\x7b\x7bx\x7d\x7d'\neq: 5\n").toUTF8.toList } }
    let paths := ["a.yaml", "b.yaml", "a.yaml"]
    ∃ results : List Result, runner.runBatch .never false (some 2) paths = .ok results ∧
      results.map Result.status = [.pass, .error, .pass] ∧
      ∃ bound, ∀ moves pool, Pool.After runner 2 (.ofPaths paths) moves pool → moves ≤ bound ∧
        if pool.isOver then pool.results = results.map fun result => some (.ok result)
        else ∃ next, Pool.Moves runner 2 pool next := by
  intro runner paths
  have returned : paths.all fun path => (runner.run .never false path).isOk := by decide +kernel
  have statuses : (paths.map runner.alone).map (fun outcome => outcome.toOption.map Result.status) =
      [Status.pass, .error, .pass].map some := by decide +kernel
  obtain ⟨results, collected, _, batch, schedules⟩ := @runBatch_isolated runner paths
    fun path member => Fallible.succeeds_of_isOk (List.all_eq_true.mp returned path member)
  refine ⟨results, batch (some 2) (by simp), ?_, schedules 2 (by decide)⟩
  rw [collected, List.map_map] at statuses
  apply List.map_injective_iff.mpr (fun _ _ => Option.some.inj)
  rw [List.map_map]
  exact statuses

end Runner

end Playbook
