import Playbook.Json.Writer
import Playbook.Text.Utf8

/-!
# Plain data and property texts

`normalize` turns what an operation returns into plain data: scalars, lists and mappings with
text keys. `stringify` turns plain data into the text that a property holds.
-/

namespace Playbook.Value

mutual

/-- Plain data of a value: tuples and sets become lists. Fails on the first key that is not
a text and on the first object that is not plain, keys before their values. -/
def normalize : Value → Except Fault Value
  | .list items | .tuple items | .set items => do return .list (← normalizeItems items)
  | .map entries => do return .map (← normalizeEntries entries)
  | .foreign kind shown => .error (.notPlain kind shown)
  | v => .ok v

/-- Plain data of the items of a sequence. -/
def normalizeItems : List Value → Except Fault (List Value)
  | [] => .ok []
  | v :: rest => do
      let first ← normalize v
      return first :: (← normalizeItems rest)

/-- Plain data of the entries of a mapping. -/
def normalizeEntries : List (Value × Value) → Except Fault (List (Value × Value))
  | [] => .ok []
  | (.text key, v) :: rest => do
      let value ← normalize v
      return (.text key, value) :: (← normalizeEntries rest)
  | (key, _) :: _ => do throw (.keyNotText (← key.literal))

end

/-- The property text of a value: nothing for null, compact JSON for sequences and mappings,
the plain form of a scalar otherwise. Bytes are decoded leniently. -/
def stringify : Value → Except Fault String
  | .null => .ok ""
  | .bool b => .ok (if b then "true" else "false")
  | .bytes b => .ok (Text.Utf8.decodeLenient b)
  | .list items => Json.text (.list items)
  | .tuple items => Json.text (.tuple items)
  | .set items => Json.text (.set items)
  | .map entries => Json.text (.map entries)
  | v => v.plainText

end Playbook.Value
