import Playbook.Parameter

/-!
# Forms

A form accepts a mapping of parameters: declared fields under any of their keys and, if the
form is open, undeclared ones with names that its rule allows.
-/

namespace Playbook

/-- A rule for names, with the text it is declared by. -/
structure NameRule where
  source : String
  allows : String → Bool

/-- What a form does with undeclared parameters. -/
inductive Undeclared where
  | refused
  | accepted (rule : Option NameRule)

/-- A form for parameters. -/
structure Form where
  name : String
  fields : List ParameterField
  undeclared : Undeclared

namespace Form

open Playbook.Field

def disallowed? (rule : Option NameRule) (extras : List (String × Value)) : Option String :=
  match rule with
  | none => none
  | some rule => (extras.find? fun entry => !rule.allows entry.1).map Prod.fst

def disallowedMessage (name : String) : String :=
  "parameter name " ++ Text.quoted name ++ " is not allowed"

/-- Undeclared parameters, if they are accepted. -/
def readUndeclared (form : Form) (entries : List (Value × Value)) :
    Checked (List (String × Value)) := do
  let used := usedNames entries (form.fields.map (·.keys))
  match form.undeclared with
  | .refused => do
      noExtras used entries
      return []
  | .accepted rule => do
      let extras ← extras used entries
      match disallowed? rule extras with
      | some name => Issue.here (.rule (disallowedMessage name))
      | none => return extras

/-- Reads parameters: the declared ones in order of declaration, then the undeclared ones. -/
def read (form : Form) (v : Value) : Checked (List (String × Value)) := do
  let entries ← recordEntries form.name v
  let declared ← ParameterField.readAll entries form.fields
  let undeclared ← form.readUndeclared entries
  return Ordered.putAll declared undeclared

end Form

end Playbook
