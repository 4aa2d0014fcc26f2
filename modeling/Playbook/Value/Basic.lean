import Playbook.Number.Binary64
import Playbook.Calendar

/-!
# Values

The data that flows through a run: what documents hold, what operations return and what is
compared. Mappings keep the order of their entries and may have keys of any kind.
-/

namespace Playbook

/-- A value of a document or of a computation. -/
inductive Value where
  | null
  | bool (value : Bool)
  | int (value : Int)
  | float (value : Binary64)
  | text (value : String)
  | bytes (value : List UInt8)
  | date (value : Date)
  | datetime (value : DateTime)
  | duration (value : Duration)
  | list (items : List Value)
  | tuple (items : List Value)
  | set (items : List Value)
  | map (entries : List (Value × Value))
  /-- Something that is not plain data, known by the name of its kind and its shown form. -/
  | foreign (kind shown : String)
deriving Inhabited, Repr

namespace Value

def kindName : Value → String
  | .null => "NoneType"
  | .bool _ => "bool"
  | .int _ => "int"
  | .float _ => "float"
  | .text _ => "str"
  | .bytes _ => "bytes"
  | .date _ => "date"
  | .datetime _ => "datetime"
  | .duration _ => "timedelta"
  | .list _ => "list"
  | .tuple _ => "tuple"
  | .set _ => "set"
  | .map _ => "dict"
  | .foreign kind _ => kind

/-- Name of the kind of a value with the family it belongs to, as messages on keys show it. -/
def kindPath (v : Value) : String :=
  match v with
  | .date _ | .datetime _ | .duration _ => "datetime." ++ v.kindName
  | v => v.kindName

/-- Items of a sequence: a list, a tuple or a set. -/
def items? : Value → Option (List Value)
  | .list items | .tuple items | .set items => some items
  | _ => none

/-- Entries of a mapping. -/
def entries? : Value → Option (List (Value × Value))
  | .map entries => some entries
  | _ => none

/-- Scalars: the values without parts that are plain data, null excepted. -/
def isScalar : Value → Bool
  | .bool _ | .int _ | .float _ | .text _ | .bytes _ | .date _ | .datetime _ | .duration _ => true
  | _ => false

/-- Whether a value counts as true where a condition is asked for. -/
def isTrue : Value → Bool
  | .null => false
  | .bool b => b
  | .int n => n != 0
  | .float x => !x.isZero
  | .text s => !s.isEmpty
  | .bytes b => !b.isEmpty
  | .duration d => !d.isZero
  | .list items | .tuple items | .set items => !items.isEmpty
  | .map entries => !entries.isEmpty
  | .date _ | .datetime _ | .foreign .. => true

/-- Whether a value may be a key of a mapping. A tuple may if all its items may. -/
def isKey : Value → Bool
  | .list _ | .set _ | .map _ => false
  | .tuple items => keys items
  | _ => true
where
  /-- All values may be keys. -/
  keys : List Value → Bool
    | [] => true
    | v :: rest => v.isKey && keys rest

/-- The first part of a value that keeps it from being a key. -/
def unhashable? : Value → Option String
  | .list _ => some "list"
  | .set _ => some "set"
  | .map _ => some "dict"
  | .tuple items => first items
  | _ => none
where
  /-- The first offending part of a list of values. -/
  first : List Value → Option String
    | [] => none
    | v :: rest => match v.unhashable? with
      | some kind => some kind
      | none => first rest

/-- Exact equality of an integer and a double. -/
def intEqFloat (n : Int) (x : Binary64) : Bool :=
  match x.toInt? with
  | some m => n == m
  | none => false

mutual

/-- Equality of values as keys of a mapping and items of a set: numbers by value, whatever
their kind, everything else by kind and content. What cannot be a key equals nothing. -/
def same : Value → Value → Bool
  | .null, .null => true
  | .bool a, .bool b => a == b
  | .bool a, .int n => (if a then 1 else 0) == n
  | .int n, .bool a => (if a then 1 else 0) == n
  | .int m, .int n => m == n
  | .float x, .float y => x.eq y
  | .int n, .float x => intEqFloat n x
  | .float x, .int n => intEqFloat n x
  | .bool a, .float x => intEqFloat (if a then 1 else 0) x
  | .float x, .bool a => intEqFloat (if a then 1 else 0) x
  | .text a, .text b => a == b
  | .bytes a, .bytes b => a == b
  | .date a, .date b => a == b
  | .datetime a, .datetime b => a.same b
  | .duration a, .duration b => a == b
  | .tuple a, .tuple b => sameList a b
  | .foreign k s, .foreign k' s' => k == k' && s == s'
  | _, _ => false

/-- Equality of sequences, item by item. -/
def sameList : List Value → List Value → Bool
  | [], [] => true
  | a :: as, b :: bs => same a b && sameList as bs
  | _, _ => false

end

end Value

end Playbook
