import Playbook.Execution
import Playbook.Result

/-!
# Runs of steps

A run executes steps in order, each on the properties that the steps before it have left. It
ends behind the last step, behind a step whose outcome stops it, or before a step that finds
the run cancelled.
-/

namespace Playbook

/-- When a run is cancelled: from outside before a step is looked at, while it begins, so that
its operation finds the run cancelled, or later while it is executed, and by its own steps if
they may. A run that was cancelled stays so. -/
structure Cancellation where
  before : Nat → Bool := fun _ => false
  entering : Nat → Bool := fun _ => false
  during : Nat → Bool := fun _ => false
  bySteps : Bool := true

/-- A run that nothing cancels. -/
def Cancellation.never : Cancellation := { bySteps := false }

/-- A run that only its own steps cancel. -/
def Cancellation.fromSteps : Cancellation := {}

def Settings.stopsAt (settings : Settings) (outcome : Outcome) : Bool :=
  match outcome.status with
  | .error => settings.abortOnError
  | .fail => settings.abortOnFailure
  | .pass => false

/-- What executing steps has come to: what each of them has led to, how the run ended, the
properties behind it, and whether it was cancelled. -/
structure Run where
  executed : List Executed
  state : RunState
  abortReason : Option String
  properties : PropertySet
  cancelled : Bool
deriving Repr

namespace Run

/-- The outcomes of the steps that were executed. -/
def outcomes (run : Run) : List Outcome := run.executed.map Executed.outcome

/-- A run behind its last step. -/
def finished (properties : PropertySet) (cancelled : Bool) : Run :=
  ⟨[], .completed, none, properties, cancelled⟩

/-- Why a run has stopped before a step. -/
def cancelReason (index : Nat) : String := "run cancelled before step " ++ toString index

/-- A run that stops before a step. -/
def cancelledBefore (index : Nat) (properties : PropertySet) : Run :=
  ⟨[], .aborted, some (cancelReason index), properties, true⟩

/-- Why a run has stopped behind a step with an outcome. -/
def stopReason (outcome : Outcome) : String :=
  "aborted after step " ++ toString outcome.index ++ " ended with " ++ outcome.status.title

/-- A run that stops behind a step. -/
def stoppedAt (executed : Executed) (cancelled : Bool) : Run :=
  ⟨[executed], .aborted, some (stopReason executed.outcome), executed.properties, cancelled⟩

/-- A run with one more step in front. -/
def after (executed : Executed) (run : Run) : Run :=
  { run with executed := executed :: run.executed }

/-- Executes steps, the first one at a given position, in a run that may have been cancelled. Every
failure has a text. -/
def ofSteps (engine : Engine) (cancellation : Cancellation) :
    Nat → Bool → PropertySet → List Step → Run
  | _, cancelled, properties, [] => finished properties cancelled
  | index, cancelled, properties, step :: rest =>
      if cancelled || cancellation.before index then cancelledBefore index properties
      else
        let executed := step.execute engine properties index (cancellation.entering index)
        let cancelled := cancellation.entering index || cancellation.during index ||
          (cancellation.bySteps && executed.cancels)
        if engine.settings.stopsAt executed.outcome then stoppedAt executed cancelled
        else
          after executed
            (ofSteps engine cancellation (index + 1) cancelled executed.properties rest)

theorem length_outcomes_le (engine : Engine) (cancellation : Cancellation) (index : Nat)
    (cancelled : Bool) (properties : PropertySet) (steps : List Step) :
    (ofSteps engine cancellation index cancelled properties steps).outcomes.length ≤
      steps.length := by
  fun_induction ofSteps engine cancellation index cancelled properties steps with
  | case1 => exact Nat.le_refl 0
  | case2 => exact Nat.zero_le _
  | case3 => exact Nat.succ_le_succ (Nat.zero_le _)
  | case4 _ _ _ _ _ _ _ _ _ ih => exact Nat.succ_le_succ ih

def ofScenario (engine : Engine) (cancellation : Cancellation) (cancelled : Bool)
    (properties : PropertySet) (scenario : Scenario) : Run :=
  ofSteps engine cancellation 1 cancelled properties scenario.steps

/-- Executes steps whose failures may have no text. The first one without an outcome ends all. -/
def attemptSteps (tell : Telling) (engine : Engine) (cancellation : Cancellation) :
    Nat → Bool → PropertySet → List Step → Fallible Run
  | _, cancelled, properties, [] => .ok (finished properties cancelled)
  | index, cancelled, properties, step :: rest =>
      if cancelled || cancellation.before index then .ok (cancelledBefore index properties)
      else do
        let executed ←
          (step.attempt tell engine properties index (cancellation.entering index)).executed
        let cancelled := cancellation.entering index || cancellation.during index ||
          (cancellation.bySteps && executed.cancels)
        if engine.settings.stopsAt executed.outcome then return stoppedAt executed cancelled
        else
          return after executed
            (← attemptSteps tell engine cancellation (index + 1) cancelled executed.properties
              rest)

/-- The result of running a scenario that was asked for by a name. -/
def result (run : Run) (source : String) (scenario : Scenario) : Result where
  source := source
  scenario := some scenario
  outcomes := run.outcomes
  state := run.state
  abortReason := run.abortReason

end Run

/-- What a scenario is reported under if nothing else is asked for: its file, or its name. -/
def Scenario.label (scenario : Scenario) : String :=
  (scenario.source.map FilePath.text).getD scenario.name

end Playbook
