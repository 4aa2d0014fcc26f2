import Playbook.Value.Entries
import Playbook.Value.Literal
import Playbook.Yaml.Base64
import Playbook.Yaml.Scalar

/-!
# Block documents

The form of a value as a document in block style: scalars with their tags, sequences, and
mappings with texts as keys. A value is first reduced to what a document may show: keys become
texts, sequences of every kind become lists, and what is not plain data a placeholder.
-/

namespace Playbook.Yaml

/-- A document, or a part of one, in block style. -/
inductive Block where
  /-- A scalar under a tag, to be written line by line if it is literal. -/
  | scalar (tag : String) (literal : Bool) (text : String)
  | sequence (items : List Block)
  | mapping (entries : List (String × Block))
deriving Inhabited, Repr

namespace Block

/-- Shown in place of what is not plain data. -/
def placeholder : String := "<runtime object>"

mutual

/-- What a document may show of a value. -/
def reduce : Value → Except Fault Value
  | .list items | .tuple items | .set items => do return .list (← reduceItems items)
  | .map entries => do return .map (Ordered.ofEntries (← reduceEntries entries))
  | .foreign .. => .ok (.text placeholder)
  | v => .ok v

def reduceItems : List Value → Except Fault (List Value)
  | [] => .ok []
  | v :: rest => do
      let first ← reduce v
      return first :: (← reduceItems rest)

/-- Entries under the texts of their keys. -/
def reduceEntries : List (Value × Value) → Except Fault (List (Value × Value))
  | [] => .ok []
  | (k, v) :: rest => do
      let key ← k.plainText
      let value ← reduce v
      return (.text key, value) :: (← reduceEntries rest)

end

/-- A plain scalar of a standard tag. -/
def plain (tag text : String) : Block := .scalar (standardTag tag) false text

/-- Text of a double in a document: a mantissa always has a point. -/
def floatText : Binary64 → String
  | .nan => ".nan"
  | .infinite negative => if negative then "-.inf" else ".inf"
  | x =>
      let digits := x.text.toList
      if digits.contains '.' then x.text
      else String.ofList (digits.flatMap fun c => if c = 'e' then ['.', '0', 'e'] else [c])

mutual

/-- The form of a reduced value. Durations have none. -/
def ofReduced : Value → Except Fault Block
  | .null => .ok (plain "null" "null")
  | .bool b => .ok (plain "bool" (if b then "true" else "false"))
  | .int n => do return plain "int" (← intText n)
  | .float x => .ok (plain "float" (floatText x))
  | .text s => .ok (plain "str" s)
  | .bytes b => .ok (.scalar (standardTag "binary") true (String.ofList (Base64.encodeLines b)))
  | .date d => .ok (plain "timestamp" d.text)
  | .datetime t => .ok (plain "timestamp" t.text)
  | .list items | .tuple items | .set items => do return .sequence (← ofReducedItems items)
  | .map entries => do return .mapping (← ofReducedEntries entries)
  | .duration d => .error (.unrepresentable d.literal)
  | .foreign _ shown => .error (.unrepresentable shown)

/-- Forms of items. -/
def ofReducedItems : List Value → Except Fault (List Block)
  | [] => .ok []
  | v :: rest => do
      let first ← ofReduced v
      return first :: (← ofReducedItems rest)

/-- Forms of entries. -/
def ofReducedEntries : List (Value × Value) → Except Fault (List (String × Block))
  | [] => .ok []
  | (k, v) :: rest => do
      let value ← ofReduced v
      return (k.text?.getD "", value) :: (← ofReducedEntries rest)

end

/-- The document that shows a value. -/
def ofValue (v : Value) : Except Fault Block := do ofReduced (← reduce v)

end Block

end Playbook.Yaml
