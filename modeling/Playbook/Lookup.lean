import Playbook.Fault
import Playbook.Ordered
import Playbook.Text.Lines
import Playbook.Number.Numeral
import Playbook.Text.Quoted
import Playbook.Value.Entries

/-!
# Path lookups

A path addresses parts of a value: segments separated by points, or by slashes if the path
begins with one. A segment is a key of a mapping, an index of a sequence, negative ones
counting from the end, or a star for every item of a sequence. What does not match is left
out. Every part found is reported with the pointer that leads to it.
-/

namespace Playbook

/-- A path in its parts. -/
structure Lookup where
  path : String
  segments : List String
deriving DecidableEq, Repr

namespace Lookup

/-- The segment that stands for every item. -/
def wildcard : String := "*"

/-- Reads a path; outer blanks and empty segments do not count. -/
def ofPath (text : String) : Lookup :=
  let path := Text.trim text.toList
  let separator := if path.head? = some '/' then '/' else '.'
  let segments := (Text.splitOnChar separator path).filter fun segment => !segment.isEmpty
  ⟨String.ofList path, segments.map String.ofList⟩

/-- Whether the path may select several parts. -/
def hasWildcard (lookup : Lookup) : Bool := lookup.segments.contains wildcard

/-- Whether a segment reads as an index: dashes and then digits of any script. -/
def isIndex (segment : String) : Bool :=
  let digits := segment.toList.dropWhile (· == '-')
  !digits.isEmpty && digits.all Text.isDigit

def index (segment : String) : Except Fault Int :=
  match Numeral.readInt 10 segment.toList with
  | .ok n => .ok n
  | .error .malformed => .error (.integerText 10 (Text.quoted segment))
  | .error (.tooLong digits) => .error (.digitsRead digits)

/-- The item at an index, a negative one counting from the end. -/
def item? (items : List Value) (position : Int) : Option Value :=
  if position < 0 then
    if -(items.length : Int) ≤ position then items[((items.length : Int) + position).toNat]?
    else none
  else items[position.toNat]?

/-- Parts found so far, with their pointers. -/
abbrev Found := List (String × Value)

/-- Items of a sequence from a position on, under a pointer. -/
def itemsFrom (pointer : String) : Nat → List Value → Found
  | _, [] => []
  | position, v :: rest =>
      (pointer ++ "/" ++ toString position, v) :: itemsFrom pointer (position + 1) rest

/-- The parts that one segment selects below a part. -/
def select (segment pointer : String) (node : Value) : Except Fault Found :=
  let single (v : Value) : Found := [(pointer ++ "/" ++ segment, v)]
  match node with
  | .list items | .tuple items | .set items =>
      if segment = wildcard then .ok (itemsFrom pointer 0 items)
      else if isIndex segment then do
        return ((item? items (← index segment)).map single).getD []
      else .ok []
  | .map entries => .ok (((Value.field? segment entries).map single).getD [])
  | _ => .ok []

/-- One segment followed from every part. Parts with the same pointer are one. -/
def follow (segment : String) : Found → Found → Except Fault Found
  | matched, [] => .ok matched
  | matched, (pointer, node) :: rest => do
      let selected ← select segment pointer node
      follow segment (Ordered.putAll matched selected) rest

/-- All segments followed one after the other. -/
def followAll : List String → Found → Except Fault Found
  | [], nodes => .ok nodes
  | segment :: rest, nodes => do followAll rest (← follow segment [] nodes)

/-- All parts that a path selects, with their pointers, in the order of the document. -/
def findAll (lookup : Lookup) (v : Value) : Except Fault Found := do
  let nodes ← followAll lookup.segments [("", v)]
  return nodes.map fun (pointer, node) => (if pointer.isEmpty then "/" else pointer, node)

/-- The part at a path: a list of parts for a path with a wildcard, null if there is none. -/
def resolve (lookup : Lookup) (v : Value) : Except Fault Value := do
  let found ← lookup.findAll v
  if lookup.hasWildcard then return .list (found.map Prod.snd)
  else match found with
    | [] => return .null
    | (_, node) :: _ => return node

/-- Whether a path selects anything. -/
def exists? (lookup : Lookup) (v : Value) : Except Fault Bool := do
  return !(← lookup.findAll v).isEmpty

end Lookup

end Playbook
