import Playbook.Result

/-!
# Reports

The result of a run in lines: one for each outcome, one for each step that was not executed,
and a summary.
-/

namespace Playbook

namespace Report

/-- One character of a text on a single line. -/
def lineChar (c : Char) : Option String :=
  if c = '\r' then some "\\r" else if c = '\n' then some "\\n" else none

/-- A text with its line ends escaped. -/
def singleLine (text : String) : String := Text.replaceChars lineChar text

/-- A title behind a line, if there is one. -/
def titled (line : String) (title : Option String) : String :=
  match title with
  | some title => if title.isEmpty then line else line ++ " (" ++ title ++ ")"
  | none => line

def lineStart (index : Nat) (kind : String) : String :=
  "[" ++ toString index ++ "] " ++ kind ++ " "

def outcomeLine (outcome : Outcome) : String :=
  titled (lineStart outcome.index outcome.kind ++ outcome.status.title ++ ": " ++
    singleLine outcome.message) outcome.title

/-- The word for steps that were not executed. -/
def skippedWord : String := "SKIPPED"

/-- The line of a step that was not executed. -/
def skippedLine (reason : String) (index : Nat) (step : Step) : String :=
  titled (lineStart index step.kind ++ skippedWord ++ ": " ++ reason) step.title

/-- Lines of steps that were not executed, numbered from a position on. -/
def skippedLines (reason : String) : Nat → List Step → List String
  | _, [] => []
  | index, step :: rest => skippedLine reason index step :: skippedLines reason (index + 1) rest

end Report

namespace Result

open Report

/-- Number of outcomes with a status. -/
def count (result : Result) (status : Status) : Nat :=
  result.outcomes.countP fun outcome => outcome.status == status

/-- Number of steps, or of outcomes if there is no scenario. -/
def total (result : Result) : Nat :=
  match result.scenario with
  | some scenario => scenario.steps.length
  | none => result.outcomes.length

/-- Why steps were not executed. -/
def skipReason (result : Result) : String :=
  match result.abortReason with
  | some reason => if reason.isEmpty then "not executed" else reason
  | none => "not executed"

/-- The steps that have no outcome. -/
def skippedSteps (result : Result) : List Step := result.steps.drop result.outcomes.length

def summaryLine (result : Result) : String :=
  "Total: " ++ toString result.total ++
    ", Passed: " ++ toString (result.count .pass) ++
    ", Failed: " ++ toString (result.count .fail) ++
    ", Errors: " ++ toString (result.count .error) ++
    ", Skipped: " ++ toString result.skipped ++
    ", Status: " ++ result.status.title

/-- Lines of the steps of a result, executed or not. -/
def stepLines (result : Result) : List String :=
  result.outcomes.map outcomeLine ++
    skippedLines result.skipReason (result.outcomes.length + 1) result.skippedSteps

def reportLines (result : Result) : List String := result.stepLines ++ [result.summaryLine]

end Result

end Playbook
