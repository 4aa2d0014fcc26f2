import Playbook.Proofs.StepFaults

/-!
# Refusals of steps

A document that is no step is refused by a schema error that names the number of the step.  Only
three documents escape this: parameters that are given twice under keys of which two have no
order, an operator that can be no key, and a literal range with too many digits.
-/

namespace Playbook.Scenario

/-- The faults that leave the reading of a step. -/
inductive Escapes : Fault → Prop where
  | unordered {fault : Fault} : fault.IsUnordered → Escapes fault
  | unhashable (kind : String) : Escapes (.unhashable kind)
  | digitsWritten : Escapes .digitsWritten

theorem StepFault.escapes {registry : Registry} {document : Value} {fault : Fault}
    (faulty : StepFault registry document fault) : Escapes fault := by
  rcases faulty with ⟨⟨_, failed⟩ | ⟨_, unusable⟩⟩ | ⟨_, ⟨unwritable⟩⟩
  · exact .unordered (Value.sort_eq_error failed)
  · obtain ⟨_, kind, _, _, rfl⟩ := unusable
    exact .unhashable kind
  · obtain ⟨_, _, _, _, _, failed⟩ := unwritable
    rw [intText_eq_error failed]
    exact .digitsWritten

end Playbook.Scenario
