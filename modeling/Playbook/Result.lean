import Playbook.Outcome
import Playbook.Scenario

/-!
# Results

What became of a whole run: the outcomes of its steps in order, and how it ended.
-/

namespace Playbook

/-- States of a run. Loading is followed by executing or, if it fails, by completion; an
executing run is completed or aborted. -/
inductive RunState where
  | idle
  | loading
  | executing
  | completed
  | aborted
deriving DecidableEq, Repr, Inhabited

namespace RunState

def all : List RunState := [.idle, .loading, .executing, .completed, .aborted]

def word : RunState → String
  | .idle => "idle"
  | .loading => "loading"
  | .executing => "executing"
  | .completed => "completed"
  | .aborted => "aborted"

end RunState

/-- The result of a run. A run without a scenario has failed to load one. -/
structure Result where
  source : String
  scenario : Option Scenario := none
  outcomes : List Outcome := []
  state : RunState := .completed
  abortReason : Option String := none
deriving Repr

namespace Result

/-- The verdict on a run: error if a step is in error or the run was aborted, else failure if
a step has failed. -/
def status (result : Result) : Status :=
  if result.outcomes.any (·.status == .error) || result.state == .aborted then .error
  else if result.outcomes.any (·.status == .fail) then .fail
  else .pass

/-- The steps of the scenario, if there is one. -/
def steps (result : Result) : List Step := (result.scenario.map Scenario.steps).getD []

/-- Number of steps that were not executed. -/
def skipped (result : Result) : Int :=
  match result.scenario with
  | some scenario => (scenario.steps.length : Int) - result.outcomes.length
  | none => 0

end Result

end Playbook
