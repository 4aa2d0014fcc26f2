import Playbook.Field.Record
import Playbook.Name

/-!
# Parameters

The declared parameters of a capability. A schema is compiled into fields of a form in two
flavours that accept the same keys: a loose one that takes any value, for parameters that may
still hold placeholders, and a typed one that coerces values to the declared types. A key may
belong to one parameter only.
-/

namespace Playbook

/-- Types that the value of a parameter is read as. -/
inductive ParameterType where
  | any
  | text
  | integer
  | number
  | truth
  | listOf (item : ParameterType)
  | mappingOf (item : ParameterType)
  | either (first second : ParameterType)
  /-- A type with a reader of its own, which says why it refuses a value. -/
  | other (name : String) (reader : Value → Except String Value)
deriving Inhabited

namespace ParameterType

/-- How a type is written. -/
def label : ParameterType → String
  | .any => "Any"
  | .text => "str"
  | .integer => "int"
  | .number => "float"
  | .truth => "bool"
  | .listOf item => "list[" ++ item.label ++ "]"
  | .mappingOf item => "dict[str," ++ item.label ++ "]"
  | .either first second => first.label ++ "|" ++ second.label
  | .other name _ => name

/-- The types that declarations may name. -/
def known : List ParameterType :=
  [.text, .integer, .number, .truth, .listOf .text, .listOf .integer,
    .either .text (.listOf .text), .mappingOf .integer]

/-- The type that is written in a certain way. -/
def named? (name : String) : Option ParameterType :=
  known.find? fun type => type.label == name

def read : ParameterType → Value → Checked Value
  | .any, v => .ok v
  | .text, v => (Field.text v).map .text
  | .integer, v => (Field.integer v).map .int
  | .number, v => (Field.number v).map .float
  | .truth, v => (Field.truth v).map .bool
  | .listOf item, v => (Field.list item.read v).map .list
  | .mappingOf item, v => (Field.mapping Field.text item.read v).map .record
  | .either first second, v => Field.either first.label first.read second.read v
  | .other _ reader, v =>
      match reader v with
      | .ok w => .ok w
      | .error message => Issue.here (.refused message)

/-- Reads a value as a type, null standing for no value. -/
def readOptional (type : ParameterType) (v : Value) : Checked Value :=
  match v with
  | .null => .ok .null
  | v => type.read v

end ParameterType

/-- A declared parameter. A default is for parameters that need not be given. -/
structure Parameter where
  type : ParameterType := .any
  aliases : List String := []
  fallback : Value := .null
  required : Bool := false
deriving Inhabited

/-- Parameters by name, in order of declaration. -/
abbrev Schema := List (String × Parameter)

/-- How values are taken: as they are, or coerced to their types. -/
inductive Flavour where
  | loose
  | typed
deriving DecidableEq, Repr

/-- A field of a form: its name, all keys it is accepted under, and how its value is read. -/
structure ParameterField where
  name : String
  keys : List String
  fallback : Option Value
  type : ParameterType
  nullable : Bool

namespace Schema

/-- Keys that no parameter may have. -/
def reservedNames : List String := ["kind", "runner", "signature", "extra_pattern"]

/-- A key that belongs to something else already, and the parameter that claims it. -/
structure Clash where
  key : String
  parameter : String
deriving DecidableEq, Repr

def Clash.message (clash : Clash) : String :=
  "parameter name \x60" ++ clash.key ++ "\x60 of \x60" ++ clash.parameter ++ "\x60 is used twice"

def claim (parameter : String) : List String → List String → Except Clash (List String)
  | taken, [] => .ok taken
  | taken, key :: rest =>
      if taken.contains key then .error ⟨key, parameter⟩ else claim parameter (key :: taken) rest

def field (flavour : Flavour) (name : String) (parameter : Parameter) : ParameterField where
  name := name
  keys := name :: parameter.aliases
  fallback := if parameter.required then none else some parameter.fallback
  type := match flavour with
    | .loose => .any
    | .typed => parameter.type
  nullable := !parameter.required

/-- The fields of parameters, given the keys that are taken. -/
def fieldsFrom (flavour : Flavour) (taken : List String) :
    Schema → Except Clash (List ParameterField)
  | [] => .ok []
  | (name, parameter) :: rest => do
      let taken ← claim name taken (name :: parameter.aliases)
      return field flavour name parameter :: (← fieldsFrom flavour taken rest)

def fields (flavour : Flavour) (schema : Schema) : Except Clash (List ParameterField) :=
  fieldsFrom flavour reservedNames schema

end Schema

namespace ParameterField

open Playbook.Field

def read (field : ParameterField) (v : Value) : Checked Value :=
  if field.nullable then field.type.readOptional v else field.type.read v

def readFrom (entries : List (Value × Value)) (field : ParameterField) : Checked Value :=
  match field.fallback with
  | some fallback => withDefault entries field.keys field.read fallback
  | none => required entries field.keys field.read

def readAll (entries : List (Value × Value)) :
    List ParameterField → Checked (List (String × Value))
  | [] => .ok []
  | field :: rest => do
      let v ← field.readFrom entries
      return (field.name, v) :: (← readAll entries rest)

end ParameterField

end Playbook
