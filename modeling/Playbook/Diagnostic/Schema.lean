import Playbook.Diagnostic
import Playbook.Ordered
import Playbook.Text.Lines
import Playbook.Value.Entries

/-!
# Diagnostics on schemas

Issues with a value as diagnostics that show the innermost part of the value on the way to the
issue.
-/

namespace Playbook

/-- The key that a step on a path stands for. -/
def Issue.Part.key : Issue.Part → Value
  | .name s => .text s
  | .index n => .int n

/-- The part that one step leads to, with its key in a mapping. -/
def Issue.Part.follow (part : Issue.Part) (v : Value) : Option (Option Value × Value) :=
  match v.entries?, v.items? with
  | some entries, _ => (Ordered.find? part.key entries).map fun found => (some part.key, found)
  | none, some items =>
      match part with
      | .index n => if 0 ≤ n then (items[n.toNat]?).map fun found => (none, found) else none
      | .name _ => none
  | none, none => none

/-- The innermost part on a path, with its key if it has one. -/
def Issue.innermost : List Issue.Part → Option Value × Value → Option Value × Value
  | [], found => found
  | part :: rest, found =>
      match part.follow found.2 with
      | some next => Issue.innermost rest next
      | none => found

/-- The innermost part of a value on the path of an issue; an entry of a mapping is shown with
its key. -/
def Issue.pinpoint (issue : Issue) (v : Value) : Value :=
  match Issue.innermost issue.path (none, v) with
  | (some key, found) => .map [(key, found)]
  | (none, found) => found

namespace Diagnostic

/-- The first line of a text that is not blank, without outer blanks. -/
def firstLine (text : String) : String :=
  (((Text.splitLines text).map Text.strip).find? fun line => !line.isEmpty).getD ""

/-- Names a step in front of a message. -/
def stepMark : Option Int → String
  | some n => if n = 0 then "" else "Step " ++ toString n ++ ": "
  | none => ""

/-- Message on an issue: the first line of its own message, and its location. -/
def issueMessage (issue : Issue) : String :=
  let line := firstLine issue.message
  let location := Text.join "." issue.location
  (if line.isEmpty then "Validation error" else line) ++
    (if location.isEmpty then "" else " (" ++ location ++ ")")

def ofIssue (issue : Issue) (v : Value) (filename : Option String) (step : Option Int) :
    Diagnostic :=
  ⟨.schema, stepMark step ++ issueMessage issue,
    some ⟨filename, none, none, step, .element (issue.pinpoint v) []⟩⟩

/-- A check whose issues become diagnostics. -/
def checked {α : Type} (v : Value) (filename : Option String) (step : Option Int)
    (result : Checked α) : Fallible α :=
  result.mapError fun issue => .diagnostic (ofIssue issue v filename step)

end Diagnostic

end Playbook
