import Playbook.Number.Power
import Playbook.Value.Literal

/-!
# Issues

What is wrong with a part of a document, and where: a cause with its message and the path to
the part.
-/

namespace Playbook

namespace Issue

/-- One step on the way to a part of a value. -/
inductive Part where
  | name (text : String)
  | index (position : Int)
deriving DecidableEq, Repr

/-- Text of a step. -/
def Part.text : Part → String
  | .name s => s
  | .index n => toString n

/-- The step into a mapping at a key. Keys that are neither texts nor small integers are
named by their literal. -/
def Part.ofKey : Value → Part
  | .text s => .name s
  | .bool b => .index (if b then 1 else 0)
  | .int n =>
      if -(twoTo 63 : Int) ≤ n && n < twoTo 63 then .index n
      else .name ((Value.literal (.int n)).toOption.getD "<int>")
  | v => .name (v.literal.toOption.getD v.kindName)

/-- What is wrong with a part. -/
inductive Cause where
  | missing
  | extra
  | textExpected
  | textUndecodable
  | textPattern (pattern : String)
  | textTooShort (least : Nat)
  | boolExpected
  | boolUnreadable
  | intExpected
  | intFractional
  | intUnreadable
  | intTooLong
  | numberExpected
  | numberUnreadable
  | finiteExpected
  | greaterThan (bound : String)
  | atLeast (bound : String)
  | listExpected
  | listTooShort (least actual : Nat)
  | tupleExpected
  | mappingExpected
  | recordExpected (name : String)
  | choiceExpected (choices : List String)
  | keyNotText
  | pathExpected
  /-- A rule of the model itself is broken. -/
  | rule (message : String)
  /-- A reader of its own kind has refused the part. -/
  | refused (message : String)
deriving DecidableEq, Repr

/-- Quoted choices, the last one joined by a word. -/
def choiceText : List String → String
  | [] => ""
  | [last] => "'" ++ last ++ "'"
  | [first, last] => "'" ++ first ++ "' or '" ++ last ++ "'"
  | first :: rest => "'" ++ first ++ "', " ++ choiceText rest

def Cause.message : Cause → String
  | .missing => "Field required"
  | .extra => "Extra inputs are not permitted"
  | .textExpected => "Input should be a valid string"
  | .textUndecodable =>
      "Input should be a valid string, unable to parse raw data as a unicode string"
  | .textPattern pattern => "String should match pattern '" ++ pattern ++ "'"
  | .textTooShort least =>
      "String should have at least " ++ toString least ++
        (if least = 1 then " character" else " characters")
  | .boolExpected => "Input should be a valid boolean"
  | .boolUnreadable => "Input should be a valid boolean, unable to interpret input"
  | .intExpected => "Input should be a valid integer"
  | .intFractional => "Input should be a valid integer, got a number with a fractional part"
  | .intUnreadable => "Input should be a valid integer, unable to parse string as an integer"
  | .intTooLong => "Unable to parse input string as an integer, exceeded maximum size"
  | .numberExpected => "Input should be a valid number"
  | .numberUnreadable => "Input should be a valid number, unable to parse string as a number"
  | .finiteExpected => "Input should be a finite number"
  | .greaterThan bound => "Input should be greater than " ++ bound
  | .atLeast bound => "Input should be greater than or equal to " ++ bound
  | .listExpected => "Input should be a valid list"
  | .listTooShort least actual =>
      "List should have at least " ++ toString least ++
        (if least = 1 then " item" else " items") ++ " after validation, not " ++ toString actual
  | .tupleExpected => "Input should be a valid tuple"
  | .mappingExpected => "Input should be a valid dictionary"
  | .recordExpected name => "Input should be a valid dictionary or instance of " ++ name
  | .choiceExpected choices => "Input should be " ++ choiceText choices
  | .keyNotText => "Keys should be strings"
  | .pathExpected => "Input is not a valid path"
  | .rule message => "Value error, " ++ message
  | .refused message => message

end Issue

/-- Something wrong with a part of a document. -/
structure Issue where
  cause : Issue.Cause
  path : List Issue.Part
deriving DecidableEq, Repr

/-- The result of checking a part of a document. -/
abbrev Checked (α : Type) := Except Issue α

namespace Issue

/-- An issue with the checked part itself. -/
def here {α : Type} (cause : Cause) : Checked α := .error ⟨cause, []⟩

/-- The issue seen from outside of the part. -/
def below (part : Part) (issue : Issue) : Issue := ⟨issue.cause, part :: issue.path⟩

def message (issue : Issue) : String := issue.cause.message

/-- The path as texts. -/
def location (issue : Issue) : List String := issue.path.map Part.text

end Issue

/-- Checks a part, so that its issues carry the step to it. -/
def Checked.at {α : Type} (part : Issue.Part) (checked : Checked α) : Checked α :=
  checked.mapError (Issue.below part)

end Playbook
