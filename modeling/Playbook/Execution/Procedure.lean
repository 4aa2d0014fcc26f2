import Playbook.Capability
import Playbook.Properties

/-!
# Procedures

A procedure is what executing a step does to the run that the step belongs to, one thing after
the other: it looks into the properties of the run, writes above them, cancels the run, and
ends with a result or a failure. What was done before a failure stays done.
-/

namespace Playbook

/-- What a step does to its run, up to its end. -/
inductive Procedure (α : Type) where
  | done (result : Fallible α)
  /-- Looks into the properties as they are at this moment. -/
  | look (next : PropertySet → Procedure α)
  /-- Writes texts above all properties. -/
  | store (layer : Layer) (next : Procedure α)
  /-- Cancels the run. -/
  | cancel (next : Procedure α)

/-- What a procedure has come to: its result, the properties behind it, whether it has cancelled
the run, and the properties that it has seen, once for each look. -/
structure Completed (α : Type) where
  result : Fallible α
  properties : PropertySet
  cancels : Bool := false
  seen : List PropertySet := []

namespace Procedure

variable {α β : Type}

/-- A procedure, and another one that goes on with its result. A failure ends both. -/
def bind : Procedure α → (α → Procedure β) → Procedure β
  | done (.ok a), following => following a
  | done (.error failure), _ => done (.error failure)
  | look next, following => look fun properties => (next properties).bind following
  | store layer next, following => store layer (next.bind following)
  | cancel next, following => cancel (next.bind following)

instance : Monad Procedure where
  pure a := done (.ok a)
  bind := bind

/-- A computation that does nothing to the run is a procedure. -/
instance : MonadLift (Except Failure) Procedure where
  monadLift := done

/-- Carries a procedure out on the properties of a run. -/
def run : Procedure α → PropertySet → Completed α
  | done result, properties => { result, properties }
  | look next, properties =>
      let rest := (next properties).run properties
      { rest with seen := properties :: rest.seen }
  | store layer next, properties => next.run (properties.write layer)
  | cancel next, properties => { next.run properties with cancels := true }

/-- A value with its placeholders replaced, for a step. -/
def resolve (index : Nat) (v : Value) : Procedure Value :=
  look fun properties => done (properties.resolveValue (some index) v)

/-- A text with its placeholders replaced, for a step. -/
def resolveText (index : Nat) (s : String) : Procedure String :=
  look fun properties => done (properties.resolveTemplate (some index) s)

/-- Writes values above all properties; nothing is written unless all of them can be. -/
def exportValues (values : List (Value × Value)) : Procedure Unit := do
  store (← PropertySet.exportLayer values) (pure ())

/-- What an operation has done. -/
def ofEffect (effect : Effect) : Procedure Value :=
  if effect.cancels then cancel (done effect.result) else done effect.result

end Procedure

end Playbook
