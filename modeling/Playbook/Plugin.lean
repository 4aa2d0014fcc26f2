import Playbook.Capability
import Playbook.Comparator
import Playbook.Pattern.Matcher
import Playbook.Pattern.Reader

/-!
# Plugins

A plugin contributes capabilities under its own name, and comparators. Declarations are given as
mappings and checked field by field; the behaviours come with them.
-/

namespace Playbook

/-- What a plugin contributes. -/
structure Plugin where
  name : String
  version : Int := 1
  capabilities : List Capability := []
  comparators : List Comparator := []

namespace Declaration

open Playbook.Field

def variableName (v : Value) : Checked String :=
  textWith Name.isVariable Name.variablePattern v

/-- Reads a title and a description, which have no effect. -/
def readTexts (entries : List (Value × Value)) : Checked Unit := do
  let _ ← withDefault entries ["title"] (optional text) none
  let _ ← withDefault entries ["description"] (optional text) none

/-- A list that is not empty. -/
def samples (v : Value) : Checked (List Value) := do
  let items ← list any v
  if items.isEmpty then Issue.here (.listTooShort 1 0) else return items

/-- The broken rule of a required parameter with a default. -/
def defaultRule : Issue.Cause := .rule "a required parameter can not have a default value"

/-- Reads the declaration of a parameter of a type. -/
def parameter (type : ParameterType) (entries : List (Value × Value)) : Checked Parameter := do
  readTexts entries
  let aliases ← withDefault entries ["aliases"] (list variableName) []
  let _ ← withDefault entries ["examples"] (optional samples) none
  let fallback ← withDefault entries ["default"] any .null
  let isRequired ← withDefault entries ["required"] truth false
  onlyFields [["title"], ["description"], ["aliases"], ["examples"], ["default"], ["required"]]
    entries
  if isRequired && fallback.kindName != "NoneType" then Issue.here defaultRule
  else return { type := type, aliases := aliases, fallback := fallback, required := isRequired }

def schema : List (String × Parameter) → Checked Schema
  | [] => .ok []
  | (name, declared) :: rest => do
      let key ← ((variableName (.text name)).at (.name "[key]")).at (.name name)
      return (key, declared) :: (← schema rest)

/-- Reads the pattern of a rule for names. -/
def nameRule (v : Value) : Checked (Option NameRule) := do
  match ← optional text v with
  | none => return none
  | some source =>
      match Pattern.read {} false source with
      | .ok pattern => return some ⟨source, Pattern.matchesStart pattern⟩
      | .error fault =>
          Issue.here (.rule ("invalid parameter name pattern: " ++ fault.message source))

/-- Reads the declaration of a capability, whose parameters have been read. -/
def capability (parameters : Schema) (behaviour : Behaviour) (entries : List (Value × Value)) :
    Checked Capability := do
  readTexts entries
  let name ← required entries ["name"] variableName
  let opens ← withDefault entries ["open_parameters"] truth false
  let rule ← withDefault entries ["extra_pattern"] nameRule none
  onlyFields [["title"], ["description"], ["name"], ["open_parameters"], ["extra_pattern"]] entries
  return ⟨name, parameters, opens, rule, behaviour⟩

/-- Reads the declaration of a comparator. -/
def comparator (relation : Value → Value → Options → Fallible Bool)
    (entries : List (Value × Value)) : Checked Comparator := do
  readTexts entries
  let name ← required entries ["name"] variableName
  let aliases ← withDefault entries ["aliases"] (list variableName) []
  let verb ← withDefault entries ["verb"] (optional text) none
  onlyFields [["title"], ["description"], ["name"], ["aliases"], ["verb"]] entries
  return { name := name, aliases := aliases, verb := verb, relation := relation }

/-- Reads the declaration of a plugin, whose extensions have been read. -/
def plugin (capabilities : List Capability) (comparators : List Comparator)
    (entries : List (Value × Value)) : Checked Plugin := do
  let name ← required entries ["name"] variableName
  let version ← withDefault entries ["version"] integer 1
  onlyFields [["name"], ["version"]] entries
  return ⟨name, version, capabilities, comparators⟩

end Declaration

end Playbook
