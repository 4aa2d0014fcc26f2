import Playbook.Field.Scalar

/-!
# Records

A record reads named fields from a mapping, each under the first of its names that is
present. A key that no field has used is refused or kept, as the record says.
-/

namespace Playbook.Field

open Issue

/-- The first of some names that is present, with its value. -/
def lookup? (entries : List (Value × Value)) : List String → Option (String × Value)
  | [] => none
  | name :: rest =>
      match Value.field? name entries with
      | some v => some (name, v)
      | none => lookup? entries rest

/-- A field that may be left out. -/
def withDefault {α : Type} (entries : List (Value × Value)) (names : List String)
    (check : Value → Checked α) (fallback : α) : Checked α :=
  match lookup? entries names with
  | some (name, v) => (check v).at (.name name)
  | none => .ok fallback

/-- A field that must be given. -/
def required {α : Type} (entries : List (Value × Value)) (names : List String)
    (check : Value → Checked α) : Checked α :=
  match lookup? entries names with
  | some (name, v) => (check v).at (.name name)
  | none => .error ⟨.missing, [.name (names.headD "")]⟩

/-- The keys that fields use: for each field the first of its names that is present. -/
def usedNames (entries : List (Value × Value)) (fields : List (List String)) : List String :=
  fields.filterMap fun names => (lookup? entries names).map Prod.fst

/-- The entries that no field uses, by name. Keys must be texts. -/
def extras (used : List String) : List (Value × Value) → Checked (List (String × Value))
  | [] => .ok []
  | (k, v) :: rest => do
      match text k with
      | .error _ => .error ⟨.keyNotText, [Part.ofKey k]⟩
      | .ok name =>
          let others ← extras used rest
          if used.contains name then return others else return (name, v) :: others

/-- Refuses the first entry that no field uses. -/
def noExtras (used : List String) : List (Value × Value) → Checked Unit
  | [] => .ok ()
  | (k, _) :: rest =>
      match text k with
      | .error _ => .error ⟨.keyNotText, [Part.ofKey k]⟩
      | .ok name =>
          if used.contains name then noExtras used rest
          else .error ⟨.extra, [Part.ofKey k]⟩

/-- Refuses the first entry that no field reads. -/
def onlyFields (fields : List (List String)) (entries : List (Value × Value)) : Checked Unit :=
  noExtras (usedNames entries fields) entries

def recordEntries (name : String) : Value → Checked (List (Value × Value))
  | .map entries => .ok entries
  | _ => here (.recordExpected name)

end Playbook.Field
