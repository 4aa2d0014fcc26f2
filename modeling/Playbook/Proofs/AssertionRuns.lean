import Playbook.Proofs.StoredLists

/-!
# Assertions with resolved values

Once the relation of an assertion is known and its values are resolved, its verdict is that of a
claim on them: on the value as a whole, on every item or on the number of items.
-/

namespace Playbook

namespace Claim

/-- What is expected of a value, once both values are shown. -/
def announced (claim : Claim) (start actualText expectedText : String) : String :=
  start ++ ("\"" ++ actualText ++ "\"") ++ " to " ++ claim.comparator.describe ++ " " ++
    ("\"" ++ expectedText ++ "\"")

variable {claim : Claim} {actualText expectedText : String}

theorem quote_eq {v : Value} {text : String} (shown : v.stringify = .ok text) :
    quote v = .ok ("\"" ++ text ++ "\"") := by
  unfold quote Value.quote
  rw [shown]
  rfl

theorem expectation_eq (actualShown : claim.actual.stringify = .ok actualText)
    (expectedShown : claim.expected.stringify = .ok expectedText) (start : String) :
    claim.expectation start = .ok (claim.announced start actualText expectedText) := by
  unfold expectation
  rw [quote_eq actualShown, quote_eq expectedShown]
  rfl

end Claim

namespace AssertionStep

/-- The verdict on a claim, as an assertion asks for it. -/
def judged (check : AssertionStep) (properties : PropertySet) (index : Nat) (claim : Claim) :
    Fallible Verdict :=
  match check.count with
  | some count => do claim.judgeCount (← properties.resolveTemplate (some index) count)
  | none => if check.each then claim.judgeEach else claim.judge

variable {check : AssertionStep} {registry : Registry} {properties : PropertySet} {index : Nat}
  {comparator : Comparator} {actual expected : Value}

theorem result_run_procedure (known : registry.comparator? check.operator = some comparator)
    (actualResolved : properties.resolveValue (some index) check.value = .ok actual)
    (expectedResolved : properties.resolveValue (some index) check.expected = .ok expected) :
    ((check.procedure registry index).run properties).result =
      check.judged properties index ⟨comparator, actual, expected, check.ignoreCase⟩ := by
  unfold procedure AssertionStep.comparator judged
  rw [known, Procedure.run_bind, Procedure.run_lift]
  unfold Completed.andThen
  dsimp only
  rw [Procedure.run_bind, run_claim_of_resolved actualResolved, expectedResolved]
  unfold Completed.andThen
  dsimp only [Except.map]
  cases check.count with
  | none =>
      dsimp only
      split <;> rfl
  | some count =>
      dsimp only
      rw [Procedure.run_bind, Procedure.run_resolveText]
      unfold Completed.andThen
      dsimp only
      cases properties.resolveTemplate (some (index : Int)) count <;> rfl

end AssertionStep

namespace Step

theorem outcome_execute_assertion (engine : Engine) (properties : PropertySet) (index : Nat)
    (cancelled : Bool) (check : AssertionStep) :
    (execute engine properties index cancelled (.assertion check)).outcome =
      outcome (.assertion check) index
        (match ((check.procedure engine.registry index).run properties).result with
          | .ok verdict => verdict
          | .error failure => failed failure) [] := by
  unfold execute procedure
  rw [Procedure.run_bind, Completed.andThen_pure]
  cases ((check.procedure engine.registry index).run properties).result <;> rfl

variable {engine : Engine} {check : AssertionStep} {comparator : Comparator}
  {properties : PropertySet} {index : Nat} {actual expected : Value}

/-- Once an assertion has a verdict, executing it has that verdict. -/
theorem outcome_of_judged (known : engine.registry.comparator? check.operator = some comparator)
    (actualResolved : properties.resolveValue (some index) check.value = .ok actual)
    (expectedResolved : properties.resolveValue (some index) check.expected = .ok expected)
    {verdict : Verdict} (judged : check.judged properties index
      ⟨comparator, actual, expected, check.ignoreCase⟩ = .ok verdict) (cancelled : Bool) :
    (execute engine properties index cancelled (.assertion check)).outcome =
      outcome (.assertion check) index verdict [] := by
  rw [outcome_execute_assertion,
    AssertionStep.result_run_procedure known actualResolved expectedResolved, judged]

end Step

end Playbook
