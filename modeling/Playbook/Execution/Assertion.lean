import Playbook.Execution.Items
import Playbook.Execution.Procedure
import Playbook.Outcome
import Playbook.Registry
import Playbook.Step

/-!
# Executing assertions

An assertion compares a value with an expected one. The relation has to hold of the value as a
whole, of every item of it, or of a number of its items that lies in given ranges. A comparison
whose assertion fails does not hold, and its message is a detail of the verdict.
-/

namespace Playbook

/-- A verdict with its message. -/
structure Verdict where
  status : Status
  message : String
deriving DecidableEq, Repr, Inhabited

/-- Whether a comparison holds, with a detail if it does not. -/
structure Comparison where
  holds : Bool
  detail : String := ""
deriving DecidableEq, Repr, Inhabited

/-- An assertion with its values: what is compared, and how. -/
structure Claim where
  comparator : Comparator
  actual : Value
  expected : Value
  ignoreCase : Bool

namespace Claim

/-- Options of the comparisons. -/
def options (claim : Claim) : Options := [(.text "ignore_case", .bool claim.ignoreCase)]

def compare (claim : Claim) (v : Value) : Fallible Comparison :=
  match claim.comparator.relation v claim.expected claim.options with
  | .ok holds => .ok ⟨holds, ""⟩
  | .error (.fault (.assertion message)) => .ok ⟨false, message⟩
  | .error failure => .error failure

/-- A value in messages. -/
def quote (v : Value) : Fallible String := v.quote.mapError .fault

/-- What is expected of the actual value. -/
def expectation (claim : Claim) (start : String) : Fallible String := do
  let actual ← quote claim.actual
  let expected ← quote claim.expected
  return start ++ actual ++ " to " ++ claim.comparator.describe ++ " " ++ expected

/-- A message with a remark in parentheses, if there is one. -/
def remarked (message remark : String) : String :=
  if remark.isEmpty then message else message ++ " (" ++ remark ++ ")"

/-- The verdict on the value as a whole. -/
def judge (claim : Claim) : Fallible Verdict := do
  let comparison ← claim.compare claim.actual
  let message ← claim.expectation "expected "
  if comparison.holds then return ⟨.pass, message⟩
  else return ⟨.fail, remarked message comparison.detail⟩

/-- The first item from a position on that the relation does not hold of, with its position and
the detail. -/
def firstFailing (claim : Claim) : Nat → List Value → Fallible (Option (Nat × Value × String))
  | _, [] => .ok none
  | position, item :: rest => do
      let comparison ← claim.compare item
      if comparison.holds then firstFailing claim (position + 1) rest
      else return some (position, item, comparison.detail)

/-- The remark on an item that the relation does not hold of. -/
def itemRemark (position : Nat) (item : Value) (detail : String) : Fallible String := do
  let shown ← quote item
  return "item " ++ toString position ++ " is " ++ shown ++
    (if detail.isEmpty then "" else ", " ++ detail)

/-- The verdict on every item. Nothing to compare is a failure. -/
def judgeEach (claim : Claim) : Fallible Verdict := do
  let items ← claim.actual.asItems.mapError .fault
  let message ← claim.expectation "expected every item of "
  if items.isEmpty then return ⟨.fail, remarked message "no items"⟩
  else
    match ← claim.firstFailing 0 items with
    | none => return ⟨.pass, message⟩
    | some (position, item, detail) =>
        return ⟨.fail, remarked message (← itemRemark position item detail)⟩

/-- Number of items that the relation holds of. -/
def countHolding (claim : Claim) : List Value → Fallible Nat
  | [] => .ok 0
  | item :: rest => do
      let comparison ← claim.compare item
      let others ← countHolding claim rest
      return if comparison.holds then others + 1 else others

/-- The verdict on the number of items that the relation holds of, which has to lie in ranges. -/
def judgeCount (claim : Claim) (ranges : String) : Fallible Verdict := do
  let items ← claim.actual.asItems.mapError .fault
  let matched ← claim.countHolding items
  let expectation ← claim.expectation
    ("expected " ++ ranges ++ " of " ++ toString items.length ++ " items of ")
  let message := expectation ++ ", " ++ toString matched ++ " did"
  match Range.anyContainsInt matched ranges with
  | .ok true => return ⟨.pass, message⟩
  | .ok false => return ⟨.fail, message⟩
  | .error fault => return ⟨.fail, message ++ " (" ++ fault.message ++ ")"⟩

end Claim

namespace AssertionStep

def comparator (step : AssertionStep) (registry : Registry) : Fallible Comparator :=
  match registry.comparator? step.operator with
  | some comparator => .ok comparator
  | none => .error (.plain .capability ("unknown operator " ++ Text.quoted step.operator))

def claim (step : AssertionStep) (comparator : Comparator) (index : Nat) : Procedure Claim := do
  let actual ← Procedure.resolve index step.value
  let expected ← Procedure.resolve index step.expected
  return ⟨comparator, actual, expected, step.ignoreCase⟩

/-- What executing an assertion does to its run. -/
def procedure (step : AssertionStep) (registry : Registry) (index : Nat) : Procedure Verdict := do
  let comparator ← step.comparator registry
  let claim ← step.claim comparator index
  match step.count with
  | some count => do
      let ranges ← Procedure.resolveText index count
      claim.judgeCount ranges
  | none => if step.each then claim.judgeEach else claim.judge

end AssertionStep

end Playbook
