import Playbook.Number.Binary64
import Playbook.Value.Entries

/-!
# Steps

A step either runs an operation with raw parameters or asserts a relation between two values.
Placeholders stay in the raw values; they are replaced when the step is run.
-/

namespace Playbook

/-- A step that runs an operation. -/
structure ActionStep where
  title : Option String
  description : Option String
  kind : String
  params : List (String × Value)
  /-- Property keys with paths into what the operation returns. -/
  exports : List (String × String)
  timeout : Option Binary64
deriving Repr

/-- A step that asserts a relation between an actual and an expected value. -/
structure AssertionStep where
  title : Option String
  description : Option String
  value : Value
  /-- The name or alias of the relation. -/
  operator : String
  expected : Value
  ignoreCase : Bool
  /-- Whether the relation must hold of every item of the value. -/
  each : Bool
  /-- Ranges for the number of items that the relation holds of. -/
  count : Option String
deriving Repr

/-- A step of a scenario. -/
inductive Step where
  | action (step : ActionStep)
  | assertion (step : AssertionStep)
deriving Repr

namespace Step

def assertKind : String := "assert"

def kind : Step → String
  | .action step => step.kind
  | .assertion _ => assertKind

def title : Step → Option String
  | .action step => step.title
  | .assertion step => step.title

end Step

def Value.ofText? (text : Option String) : Value := (text.map Value.text).getD .null

def ActionStep.toValue (step : ActionStep) : Value :=
  .record [("title", .ofText? step.title), ("description", .ofText? step.description),
    ("kind", .text step.kind), ("params", .record step.params),
    ("export", .record (step.exports.map fun entry => (entry.1, .text entry.2))),
    ("timeout", (step.timeout.map Value.float).getD .null)]

def AssertionStep.toValue (step : AssertionStep) : Value :=
  .record [("title", .ofText? step.title), ("description", .ofText? step.description),
    ("kind", .text Step.assertKind), ("value", step.value), ("operator", .text step.operator),
    ("expected", step.expected), ("ignore_case", .bool step.ignoreCase), ("each", .bool step.each),
    ("count", .ofText? step.count)]

end Playbook
