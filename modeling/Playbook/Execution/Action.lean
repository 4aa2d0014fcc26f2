import Playbook.Diagnostic.Schema
import Playbook.Execution.Procedure
import Playbook.Registry
import Playbook.Settings
import Playbook.Step

/-!
# Executing actions

An action resolves its parameters, has its operation read them and runs it for as long as it
may take. What the operation returns is exported, together with the parts that the step has
names for. Exports are written once, after everything else has succeeded.
-/

namespace Playbook

/-- What steps are executed with. -/
structure Engine where
  registry : Registry
  workspace : FilePath
  files : Files := ⟨[], []⟩
  settings : Settings := {}

namespace ActionStep

/-- Seconds that a step may take. -/
def timeLimit (step : ActionStep) (settings : Settings) : Binary64 :=
  step.timeout.getD settings.defaultTimeout

def operation (step : ActionStep) (registry : Registry) : Fallible Operation :=
  match registry.operation? step.kind with
  | some operation => .ok operation
  | none => .error (.plain .capability ("unknown step kind " ++ Text.quoted step.kind))

/-- The parameters of a step as its operation takes them. -/
def parameters (step : ActionStep) (operation : Operation) (index : Nat) :
    Procedure (List (String × Value)) := do
  let resolved ← Procedure.resolve index (.record step.params)
  Diagnostic.checked resolved none (some (index : Int)) (operation.form.read resolved)

/-- The error of a step that was abandoned. -/
def abandoned (limit : Binary64) : Failure :=
  .plain .timeout ("step did not complete within " ++ limit.briefText ++ " s")

/-- An effect with a bound on its time. What goes on behind the bound is not seen. -/
def bounded (limit grace : Binary64) (effect : Effect) : Effect :=
  if (limit.add grace).lt effect.seconds then
    { result := .error (abandoned limit), seconds := limit.add grace }
  else effect

/-- Runs the operation of a step, in a run that may have been cancelled. -/
def perform (step : ActionStep) (engine : Engine) (operation : Operation)
    (params : List (String × Value)) (index : Nat) (cancelled : Bool) : Effect :=
  let limit := step.timeLimit engine.settings
  bounded limit engine.settings.timeoutGrace
    (operation.call params ⟨engine.workspace, engine.files, limit, index, cancelled⟩)

/-- The entries that an operation has returned; nothing is no entries. -/
def producedEntries (step : ActionStep) (produced : Value) : Fallible (List (Value × Value)) :=
  match produced with
  | .null => .ok []
  | .map entries => .ok entries
  | v => .error (.plain .capability ("capability " ++ Text.quoted step.kind ++ " returned " ++
      v.kindName ++ ", expected a mapping"))

/-- The part of a returned mapping that an export path leads to. -/
def exportedPart (step : ActionStep) (produced : List (Value × Value)) (path : String) :
    Fallible Value := do
  let lookup := Lookup.ofPath path
  if ← (lookup.exists? (.map produced)).mapError Failure.fault then
    (lookup.resolve (.map produced)).mapError Failure.fault
  else throw (.plain .capability ("export path " ++ Text.quoted path ++ " not found in " ++
    Text.quoted step.kind ++ " result"))

/-- Adds the parts that aliases name. All paths lead into what the operation has returned. -/
def addAliases (step : ActionStep) (produced : List (Value × Value)) :
    List (Value × Value) → List (String × String) → Fallible (List (Value × Value))
  | values, [] => .ok values
  | values, (name, path) :: rest => do
      let part ← step.exportedPart produced path
      addAliases step produced (Ordered.put (.text name) part values) rest

def exported (step : ActionStep) (produced : Value) : Fallible (List (Value × Value)) := do
  let entries ← step.producedEntries produced
  step.addAliases entries entries step.exports

/-- Writes what a step exports. The texts that its outcome shows are made once more afterwards. -/
def write (step : ActionStep) (produced : Value) : Procedure Layer := do
  let values ← step.exported produced
  Procedure.exportValues values
  PropertySet.exportTexts values

/-- Resolves the parameters of a step and runs its operation on them. -/
def produce (step : ActionStep) (engine : Engine) (index : Nat) (cancelled : Bool) :
    Procedure Value := do
  let operation ← step.operation engine.registry
  let params ← step.parameters operation index
  Procedure.ofEffect (step.perform engine operation params index cancelled)

/-- What executing an action does to its run. -/
def procedure (step : ActionStep) (engine : Engine) (index : Nat) (cancelled : Bool) :
    Procedure Layer := do
  let produced ← step.produce engine index cancelled
  step.write produced

/-- Message of a step that has succeeded. -/
def message (exports : Layer) : String :=
  if exports.isEmpty then "completed"
  else "exported " ++ Text.join ", " (exports.map Prod.fst)

end ActionStep

end Playbook
