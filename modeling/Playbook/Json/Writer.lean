import Playbook.Value.Literal

/-!
# Compact JSON

The compact JSON text of a value, without blanks between its parts and with characters
outside ASCII as themselves. Values without a JSON form are written as the JSON text of their
plain form; keys that are numbers, truth values or null are written as texts.
-/

namespace Playbook.Json

open Playbook.Text

/-- One character of a JSON string. -/
def escaped (c : Char) : List Char :=
  if c = '"' then ['\\', '"']
  else if c = '\\' then ['\\', '\\']
  else if c = '\n' then ['\\', 'n']
  else if c = '\r' then ['\\', 'r']
  else if c = '\t' then ['\\', 't']
  else if c.toNat = 0x0C then ['\\', 'f']
  else if c.toNat = 0x08 then ['\\', 'b']
  else if c.toNat < 0x20 then '\\' :: 'u' :: hexDigits 4 c.toNat
  else [c]

/-- A JSON string. -/
def string (s : String) : List Char :=
  '"' :: s.toList.flatMap escaped ++ ['"']

/-- A JSON number for a double, with words for what is not finite. -/
def number (x : Binary64) : String :=
  match x with
  | .nan => "NaN"
  | .infinite negative => if negative then "-Infinity" else "Infinity"
  | x => x.text

def keyText : Value → Except Fault String
  | .text s => .ok s
  | .float x => .ok (number x)
  | .bool b => .ok (if b then "true" else "false")
  | .null => .ok "null"
  | .int n => intText n
  | v => .error (.keyKind v.kindPath)

mutual

/-- JSON text of a value. -/
def write : Value → Except Fault (List Char)
  | .null => .ok "null".toList
  | .bool b => .ok (if b then "true".toList else "false".toList)
  | .int n => do return (← intText n).toList
  | .float x => .ok (number x).toList
  | .text s => .ok (string s)
  | .list items | .tuple items => do return '[' :: (← writeItems items) ++ [']']
  | .map entries => do return '\x7b' :: (← writeEntries entries) ++ ['\x7d']
  | v => do return string (← v.plainText)

/-- JSON texts of items, separated by commas. -/
def writeItems : List Value → Except Fault (List Char)
  | [] => .ok []
  | [v] => write v
  | v :: rest => do
      let first ← write v
      return first ++ ',' :: (← writeItems rest)

/-- JSON texts of entries, separated by commas. -/
def writeEntries : List (Value × Value) → Except Fault (List Char)
  | [] => .ok []
  | [(k, v)] => do
      let key ← keyText k
      return string key ++ ':' :: (← write v)
  | (k, v) :: rest => do
      let key ← keyText k
      let value ← write v
      return string key ++ ':' :: value ++ ',' :: (← writeEntries rest)

end

/-- Compact JSON text of a value. -/
def text (v : Value) : Except Fault String := do return String.ofList (← write v)

end Playbook.Json
