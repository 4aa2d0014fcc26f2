import Playbook.Diagnostic
import Playbook.Field.Record
import Playbook.Name
import Playbook.Step
import Playbook.Text.Lines
import Playbook.Value.Order

/-!
# Reading steps

A step document is a mapping. The kind `assert` makes it an assertion, every other kind an
action. In an action, keys that have no meaning of their own are parameters; in an assertion,
the one key without a meaning of its own is the operator and holds the expected value.
-/

namespace Playbook.Step

open Playbook.Field

/-- Canonical names of operators by name or alias. -/
abbrev OperatorNames := List (String × String)

def actionKeys : List String := ["kind", "title", "description", "export", "timeout", "params"]

def assertionKeys : List String :=
  ["kind", "title", "description", "value", "operator", "expected", "ignoreCase", "ignore_case",
    "each", "count"]

def isNamed (names : List String) (key : Value) : Bool :=
  match key with
  | .text s => names.contains s
  | _ => false

/-- A broken rule as a failure; a fault in making its message takes its place. -/
def brokenRule {α : Type} (message : Except Fault String) : Fallible α :=
  match message with
  | .ok text => .error (.issue ⟨.rule text, []⟩)
  | .error fault =>
      if fault.label = "ValueError" then .error (.issue ⟨.rule fault.message, []⟩)
      else .error (.fault fault)

/-- Texts of keys, separated by commas. -/
def keyTexts (keys : List Value) : Except Fault String := do
  return Text.join ", " (← keys.mapM Value.plainText)

/-! ## Actions -/

/-- Message on parameters that are given twice. -/
def duplicateMessage (duplicates : List Value) : Except Fault String := do
  return "parameters defined twice: " ++ (← keyTexts (← Value.sort duplicates))

/-- The mapping that the parameters of an action are given as; what counts as false stands for
an empty one. -/
def nestedParams? (entries : List (Value × Value)) : Option (List (Value × Value)) :=
  match Value.field? "params" entries with
  | none => some []
  | some v => if v.isTrue then v.entries? else some []

def inlineParams (entries : List (Value × Value)) : List (Value × Value) :=
  entries.filter fun entry => !isNamed actionKeys entry.1

/-- Entries of an action that are no parameters. -/
def reservedEntries (entries : List (Value × Value)) : List (Value × Value) :=
  entries.filter fun entry => isNamed actionKeys entry.1

/-- Moves the parameters of an action into one mapping. -/
def collectParams (entries : List (Value × Value)) : Fallible (List (Value × Value)) :=
  let inline := inlineParams entries
  if inline.isEmpty then .ok entries
  else
    match nestedParams? entries with
    | none => .ok entries
    | some params =>
        match params.filter fun entry => Ordered.contains entry.1 inline with
        | [] =>
            .ok (Ordered.put (.text "params") (.map (Ordered.putAll params inline))
              (reservedEntries entries))
        | duplicates => brokenRule (duplicateMessage (duplicates.map Prod.fst))

def propertyKey (v : Value) : Checked String := do
  let s ← text v
  if s.isEmpty then Issue.here (.textTooShort 1)
  else if Name.isPropertyKey s.toList then return s
  else Issue.here (.textPattern Name.propertyKeyPattern)

/-- Reads an action whose parameters are in one mapping. -/
def actionFields (entries : List (Value × Value)) : Checked ActionStep := do
  let title ← withDefault entries ["title"] (optional text) none
  let description ← withDefault entries ["description"] (optional text) none
  let kind ← required entries ["kind"] (textWith Name.isKind Name.kindPattern)
  let params ← withDefault entries ["params"] (mapping text any) []
  let exports ← withDefault entries ["export"] (mapping propertyKey text) []
  let timeout ← withDefault entries ["timeout"] (optional positive) none
  noExtras actionKeys entries
  return ⟨title, description, kind, params, exports, timeout⟩

def readAction (v : Value) : Fallible ActionStep := do
  match v with
  | .map entries =>
      let entries ← collectParams entries
      (actionFields entries).mapError .issue
  | _ => throw (.issue ⟨.recordExpected "ActionStep", []⟩)

/-! ## Assertions -/

def severalMessage (explicit : Bool) (candidates : List Value) : Except Fault String := do
  let shown ← keyTexts candidates
  return (if explicit then "unexpected keys next to explicit operator: "
    else "assertion has several operators: ") ++ shown

/-- Makes the operator of an assertion explicit. -/
def collectOperator (entries : List (Value × Value)) : Fallible (List (Value × Value)) :=
  let candidates := (entries.map Prod.fst).filter fun key => !isNamed assertionKeys key
  if Value.hasField "operator" entries then
    if candidates.isEmpty then .ok entries else brokenRule (severalMessage true candidates)
  else
    match candidates with
    | [] => brokenRule (.ok "assertion has no operator")
    | [key] =>
        let expected := (Ordered.find? key entries).getD .null
        .ok (Ordered.put (.text "expected") expected
          (Ordered.erase key (Ordered.put (.text "operator") key entries)))
    | candidates => brokenRule (severalMessage false candidates)

def canonicalOperator (operators : OperatorNames) (operator : Value) : Fallible String :=
  match operator.unhashable? with
  | some kind => .error (.fault (.unhashable kind))
  | none =>
      match operator.text?.bind fun name => Ordered.find? name operators with
      | some name => .ok name
      | none => brokenRule (do return "unknown operator " ++ (← operator.literal))

/-- Replaces the operator of an assertion by its canonical name, where names are known. -/
def canonicalize (operators : Option OperatorNames) (entries : List (Value × Value)) :
    Fallible (List (Value × Value)) := do
  match operators with
  | none => return entries
  | some operators =>
      let name ← canonicalOperator operators ((Value.field? "operator" entries).getD .null)
      return Ordered.put (.text "operator") (.text name) entries

/-- A number of items: ranges as a text, or an integer. -/
def countText : Value → Checked (Option String)
  | .int n =>
      match intText n with
      | .ok s => .ok (some s)
      | .error fault => Issue.here (.rule fault.message)
  | v => optional text v

def ignoreCaseNames : List String := ["ignoreCase", "ignore_case"]

/-- Reads an assertion whose operator is explicit. -/
def assertionFields (entries : List (Value × Value)) : Checked AssertionStep := do
  let title ← withDefault entries ["title"] (optional text) none
  let description ← withDefault entries ["description"] (optional text) none
  let _ ← required entries ["kind"] (choice [assertKind])
  let value ← required entries ["value"] any
  let operator ← required entries ["operator"] (textWith Name.isVariable Name.variablePattern)
  let expected ← required entries ["expected"] any
  let ignoreCase ← withDefault entries ignoreCaseNames truth false
  let each ← withDefault entries ["each"] truth false
  let count ← withDefault entries ["count"] countText none
  let used := usedNames entries (ignoreCaseNames ::
    ["title", "description", "kind", "value", "operator", "expected", "each", "count"].map ([·]))
  noExtras used entries
  return ⟨title, description, value, operator, expected, ignoreCase, each, count⟩

def readAssertion (operators : Option OperatorNames) (entries : List (Value × Value)) :
    Fallible AssertionStep := do
  let entries ← collectOperator entries
  let entries ← canonicalize operators entries
  (assertionFields entries).mapError .issue

/-! ## Steps -/

/-- Whether a document is an assertion. -/
def isAssertion (entries : List (Value × Value)) : Bool :=
  Value.field? "kind" entries == some (.text assertKind)

/-- A failure seen from outside of one of the two forms of steps. -/
def underTag (tag : String) : Failure → Failure
  | .issue issue => .issue (issue.below (.name tag))
  | failure => failure

/-- Reads a step. Operators are looked up where their names are known. -/
def read (operators : Option OperatorNames) (v : Value) : Fallible Step :=
  match v with
  | .map entries =>
      if isAssertion entries then
        ((readAssertion operators entries).map .assertion).mapError (underTag "assertion")
      else ((readAction v).map .action).mapError (underTag "action")
  | v => ((readAction v).map .action).mapError (underTag "action")

end Playbook.Step
