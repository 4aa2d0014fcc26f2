import Playbook.Comparator
import Playbook.Json.Reader
import Playbook.Value.Plain

/-!
# Items of values

Assertions on items read a value as a list. Exported lists are stored as JSON texts, so a text
that is a JSON array is read as its items; any other value is its own only item.
-/

namespace Playbook.Value

/-- Whether a text opens a list, blanks aside. -/
def opensList (s : String) : Bool := (s.toList.dropWhile Text.isBlank).head? == some '['

def asItems (v : Value) : Except Fault (List Value) :=
  match v with
  | .list items | .tuple items | .set items => .ok items
  | .text s =>
      if opensList s then
        match Json.read s with
        | .ok (.list items) => .ok items
        | .error (.integerTooLong digits) => .error (.digitsRead digits)
        | _ => .ok [v]
      else .ok [v]
  | v => .ok [v]

/-- A value in messages: its property text in quotes. -/
def quote (v : Value) : Except Fault String := do return "\"" ++ (← v.stringify) ++ "\""

end Playbook.Value
