import Playbook.Diagnostic
import Playbook.Files
import Playbook.Form
import Playbook.Value.Plain

/-!
# Capabilities

A capability is the operation behind a kind of step: a name, parameters and a behaviour. It is
compiled into an operation with two forms, the signature for raw parameters and the typed form
for resolved ones.
-/

namespace Playbook

/-- What an operation may know: the workspace and its files, the time it may take, the step
that it runs for, and whether the run has been cancelled. -/
structure Context where
  workspace : FilePath
  files : Files
  timeout : Binary64
  step : Nat
  cancelled : Bool

/-- What an operation does: the seconds that it takes, its result, and whether it cancels the
run. -/
structure Effect where
  result : Fallible Value
  seconds : Binary64 := .zero false
  cancels : Bool := false

/-- The behaviour of an operation on its parameters. -/
abbrev Behaviour := List (String × Value) → Context → Effect

/-- A declared capability. -/
structure Capability where
  name : String
  parameters : Schema := []
  /-- Whether undeclared parameters are accepted. -/
  opens : Bool := false
  /-- A rule for the names of undeclared parameters. -/
  nameRule : Option NameRule := none
  behaviour : Behaviour

/-- A compiled capability. -/
structure Operation where
  kind : String
  signature : Form
  form : Form
  behaviour : Behaviour

namespace Capability

/-- The kind of steps that a capability is addressed by. -/
def qualifiedName (capability : Capability) (plugin : Option String) : String :=
  match plugin with
  | some plugin => if plugin.isEmpty then capability.name else plugin ++ "." ++ capability.name
  | none => capability.name

/-- What the forms of a capability do with undeclared parameters. -/
def undeclared (capability : Capability) : Undeclared :=
  if capability.opens then .accepted capability.nameRule else .refused

def compile (capability : Capability) (plugin : Option String) :
    Except Schema.Clash Operation := do
  let loose ← capability.parameters.fields .loose
  let typed ← capability.parameters.fields .typed
  return {
    kind := capability.qualifiedName plugin
    signature := ⟨capability.name ++ "_Signature", loose, capability.undeclared⟩
    form := ⟨capability.name ++ "_Capability", typed, capability.undeclared⟩
    behaviour := capability.behaviour }

end Capability

/-- Runs an operation; its result is reduced to plain data. -/
def Operation.call (operation : Operation) (params : List (String × Value)) (context : Context) :
    Effect :=
  let effect := operation.behaviour params context
  { effect with
    result := effect.result.bind fun v => v.normalize.mapError .fault }

end Playbook
