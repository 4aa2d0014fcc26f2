import Playbook.Properties

/-!
# Outcomes

What became of one step: its status, a message on one line, and the properties that it has
exported.
-/

namespace Playbook

/-- The verdict on a step or on a run. An error is a step that could not be carried out. -/
inductive Status where
  | pass
  | fail
  | error
deriving DecidableEq, Repr, Inhabited

namespace Status

/-- All verdicts. -/
def all : List Status := [.pass, .fail, .error]

/-- The word for a verdict. -/
def word : Status → String
  | .pass => "pass"
  | .fail => "fail"
  | .error => "error"

/-- The word for a verdict in reports. -/
def title : Status → String
  | .pass => "PASS"
  | .fail => "FAIL"
  | .error => "ERROR"

end Status

/-- The outcome of one step. Steps count from one; zero stands for loading. -/
structure Outcome where
  index : Nat
  kind : String
  status : Status
  message : String
  title : Option String := none
  exports : Layer := []
deriving DecidableEq, Repr, Inhabited

end Playbook
