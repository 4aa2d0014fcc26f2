import Playbook.FilePath
import Playbook.Step

/-!
# Scenarios

A scenario is a sequence of steps with a name, read from a stream of documents. The first
document may be a header that describes the scenario.
-/

namespace Playbook

/-- The description of a scenario. -/
structure Header where
  title : Option String
  description : Option String
  name : Option String
  id : Option String
  metadata : List (String × Value)
deriving Repr

/-- A loaded scenario. -/
structure Scenario where
  name : String
  source : Option FilePath
  header : Option Header
  steps : List Step
deriving Repr

namespace Scenario

/-- The name of scenarios that come from no file. -/
def anonymousName : String := "<unicode string>"

/-- The name of a scenario: that of its header if it has one, else that of its file. -/
def nameFor (header : Option Header) (source : Option FilePath) : String :=
  match header.bind Header.name with
  | some name => if name.isEmpty then fileName else name
  | none => fileName
where
  /-- The name of the file. -/
  fileName : String := (source.map FilePath.stem).getD anonymousName

end Scenario

end Playbook
