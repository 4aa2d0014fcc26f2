import Playbook.Result
import Playbook.Scenario.Reader

/-!
# Reading results

Outcomes and results are read back from records with the checks that every part of them has to
pass.
-/

namespace Playbook

open Playbook.Field

/-- Reads a verdict by its word. -/
def Status.read (v : Value) : Checked Status := do
  let word ← choice (Status.all.map Status.word) v
  return (Status.all.find? fun status => status.word == word).getD .error

/-- Reads a state by its word. -/
def RunState.read (v : Value) : Checked RunState := do
  let word ← choice (RunState.all.map RunState.word) v
  return (RunState.all.find? fun state => state.word == word).getD .completed

namespace Outcome

/-- Reads an outcome. The time that the step took is checked but not kept. -/
def read (v : Value) : Checked Outcome := do
  let entries ← recordEntries "StepOutcome" v
  let index ← required entries ["index"] natural
  let kind ← required entries ["kind"] text
  let status ← required entries ["status"] Status.read
  let message ← withDefault entries ["message"] text ""
  let title ← withDefault entries ["title"] (optional text) none
  let _ ← withDefault entries ["elapsed"] nonnegative (.zero false)
  let exports ← withDefault entries ["exports"] (mapping text text) []
  onlyFields [["index"], ["kind"], ["status"], ["message"], ["title"], ["elapsed"], ["exports"]]
    entries
  return { index, kind, status, message, title, exports }

end Outcome

namespace Scenario

/-- A path, given as a text. -/
def pathField (v : Value) : Checked FilePath :=
  match v with
  | .text s => .ok (.ofText s)
  | _ => Issue.here .pathExpected

/-- A step that issues can be found in without knowing any operators. -/
def stepField (v : Value) : Fallible Step := Step.read none v

/-- Reads steps from a position on. -/
def stepsFrom : Nat → List Value → Fallible (List Step)
  | _, [] => .ok []
  | position, v :: rest => do
      let step ← (stepField v).mapError fun failure =>
        match failure with
        | .issue issue => .issue (issue.below (.index position))
        | failure => failure
      return step :: (← stepsFrom (position + 1) rest)

/-- Reads the steps of a scenario. -/
def stepsField (entries : List (Value × Value)) : Fallible (List Step) :=
  match Value.field? "steps" entries with
  | none => .ok []
  | some v =>
      let steps := match v.items? with
        | some items => stepsFrom 0 items
        | none => .error (.issue ⟨.tupleExpected, []⟩)
      steps.mapError fun failure =>
        match failure with
        | .issue issue => .issue (issue.below (.name "steps"))
        | failure => failure

/-- Reads a header as a part of a scenario. -/
def headerField (v : Value) : Checked Header := do
  headerFields (← recordEntries "ScenarioHeader" v)

def read (v : Value) : Fallible Scenario := do
  let entries ← (recordEntries "Scenario" v).mapError Failure.issue
  let name ← (required entries ["name"] text).mapError Failure.issue
  let source ← (withDefault entries ["source"] (optional pathField) none).mapError Failure.issue
  let header ← (withDefault entries ["header"] (optional headerField) none).mapError Failure.issue
  let steps ← stepsField entries
  (onlyFields [["name"], ["source"], ["header"], ["steps"]] entries).mapError Failure.issue
  return ⟨name, source, header, steps⟩

end Scenario

namespace Result

/-- Reads a result whose scenario and outcomes have been read. -/
def read (scenario : Option Scenario) (outcomes : List Outcome) (entries : List (Value × Value)) :
    Checked Result := do
  let source ← required entries ["source"] text
  let state ← withDefault entries ["state"] RunState.read .completed
  let abortReason ← withDefault entries ["abort_reason"] (optional text) none
  onlyFields [["source"], ["scenario"], ["outcomes"], ["state"], ["abort_reason"]] entries
  return ⟨source, scenario, outcomes, state, abortReason⟩

end Result

end Playbook
