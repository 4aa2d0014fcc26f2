import Playbook.Execution.Action
import Playbook.Execution.Assertion

/-!
# Executing steps

A step is executed with the properties of the run and leads to an outcome. Every failure that has
a text is part of the outcome; only actions that succeed change the properties.
-/

namespace Playbook

/-- What executing a step leads to: its outcome, the properties behind it, whether it has
cancelled the run, and the properties that it has seen. -/
structure Executed where
  outcome : Outcome
  properties : PropertySet
  cancels : Bool := false
  seen : List PropertySet := []
deriving Repr

/-- What executing a step comes to if a failure of it may have no text: an outcome or what is
raised in its place, and what it has done to its run. -/
structure Attempted where
  outcome : Fallible Outcome
  properties : PropertySet
  cancels : Bool := false
  seen : List PropertySet := []
deriving Repr

/-- What the step has led to, if it has an outcome. -/
def Attempted.executed (attempted : Attempted) : Fallible Executed :=
  attempted.outcome.map fun outcome =>
    { outcome
      properties := attempted.properties
      cancels := attempted.cancels
      seen := attempted.seen }

namespace Step

def outcome (step : Step) (index : Nat) (verdict : Verdict) (exports : Layer) : Outcome where
  index := index
  kind := step.kind
  status := verdict.status
  message := verdict.message
  title := step.title
  exports := exports

/-- The verdict on a step that could not be carried out. -/
def failed (failure : Failure) : Verdict := ⟨.error, failure.outcomeMessage⟩

/-- What executing a step does to its run: it ends with the verdict and with what was exported. -/
def procedure (engine : Engine) (index : Nat) (cancelled : Bool) :
    Step → Procedure (Verdict × Layer)
  | .assertion check => do
      let verdict ← check.procedure engine.registry index
      return (verdict, [])
  | .action task => do
      let exports ← task.procedure engine index cancelled
      return (⟨.pass, ActionStep.message exports⟩, exports)

/-- The verdict on a step with what it has exported. A failure is an error without exports. -/
def settled : Fallible (Verdict × Layer) → Verdict × Layer
  | .ok ending => ending
  | .error failure => (failed failure, [])

/-- Executes a step at a position of a run, which may have been cancelled, if every failure has
its message for a text. -/
def execute (engine : Engine) (properties : PropertySet) (index : Nat) (cancelled : Bool)
    (step : Step) : Executed :=
  let completed := (step.procedure engine index cancelled).run properties
  let (verdict, exports) := settled completed.result
  { outcome := step.outcome index verdict exports
    properties := completed.properties
    cancels := completed.cancels
    seen := completed.seen }

/-- The verdict on a step with what it has exported, if a failure of the step has a text. -/
def told (tell : Telling) : Fallible (Verdict × Layer) → Fallible (Verdict × Layer)
  | .ok ending => .ok ending
  | .error failure => do return (⟨.error, ← tell failure⟩, [])

/-- Executes a step whose failures may have no text. If there is none to make an outcome of, what
asking for it raises leaves the step. -/
def attempt (tell : Telling) (engine : Engine) (properties : PropertySet) (index : Nat)
    (cancelled : Bool) (step : Step) : Attempted :=
  let completed := (step.procedure engine index cancelled).run properties
  { outcome := (told tell completed.result).map fun (verdict, exports) =>
      step.outcome index verdict exports
    properties := completed.properties
    cancels := completed.cancels
    seen := completed.seen }

end Step

end Playbook
