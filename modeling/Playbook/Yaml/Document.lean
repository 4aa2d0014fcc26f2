import Playbook.Value.Entries
import Playbook.Yaml.Base64
import Playbook.Yaml.Node

/-!
# Values of documents

A document becomes a value by the tags of its nodes. Values are built level by level: all nodes
of one level come before those of the next. Of several failures, the one on the uppermost level
counts, and of those the first.
-/

namespace Playbook.Yaml

structure LeveledFailure where
  level : Nat
  failure : Failure

/-- The result of building a value. -/
abbrev Built (α : Type) := Except LeveledFailure α

namespace Node

def problem {α : Type} (level : Nat) (problem : Problem) (place : Position) : Built α :=
  .error ⟨level, .problem problem place⟩

/-- Two results together; of two failures the one on the upper level counts. -/
def together {α β : Type} (a : Built α) (b : Built β) : Built (α × β) :=
  match a, b with
  | .ok x, .ok y => .ok (x, y)
  | .error e, .ok _ => .error e
  | .ok _, .error e => .error e
  | .error e, .error f => .error (if f.level < e.level then f else e)

/-- Several results together. -/
def allTogether {α : Type} : List (Built α) → Built (List α)
  | [] => .ok []
  | first :: rest => (together first (allTogether rest)).map fun (x, xs) => x :: xs

mutual

/-- Pairs of a mapping with those of the mappings it merges, which come first. -/
def mergedPairs (start : Position) : Nat → List (Node × Node) →
    Except Failure (List (Node × Node) × List (Node × Node))
  | 0, pairs => .ok ([], pairs)
  | _ + 1, [] => .ok ([], [])
  | fuel + 1, (key, value) :: rest => do
      if key.tag = standardTag "merge" then
        let merged ← mergeSource start fuel value
        let (more, own) ← mergedPairs start fuel rest
        return (merged ++ more, own)
      else
        let key := if key.tag = standardTag "value" then key.withTag (standardTag "str") else key
        let (merged, own) ← mergedPairs start fuel rest
        return (merged, (key, value) :: own)

/-- Pairs that the value of a merge key stands for. -/
def mergeSource (start : Position) : Nat → Node → Except Failure (List (Node × Node))
  | 0, _ => .ok []
  | fuel + 1, node =>
      match node with
      | .mapping _ pairs place => do
          let (merged, own) ← mergedPairs place fuel pairs
          return merged ++ own
      | .sequence _ items _ => mergeSources start fuel items
      | .enclosing place => .error (.problem .enclosingNode place)
      | .scalar _ _ place =>
          .error (.problem
            (.expectedNode "a mapping or list of mappings for merging" "scalar") place)

/-- Pairs of several mappings, those of later ones first. -/
def mergeSources (start : Position) : Nat → List Node → Except Failure (List (Node × Node))
  | 0, _ => .ok []
  | _ + 1, [] => .ok []
  | fuel + 1, node :: rest =>
      match node with
      | .mapping _ pairs place => do
          let (merged, own) ← mergedPairs place fuel pairs
          let later ← mergeSources start fuel rest
          return later ++ (merged ++ own)
      | node =>
          .error (.problem (.expectedNode "a mapping for merging" node.kindName) node.start)

end

/-- The pairs of a mapping after merging. -/
def flattened (pairs : List (Node × Node)) (start : Position) :
    Except Failure (List (Node × Node)) := do
  let fuel := 2 * sizeOfPairs pairs + 2
  let (merged, own) ← mergedPairs start fuel pairs
  return merged ++ own

/-- The text of a scalar; a mapping may stand for the scalar under its value key. -/
def scalarText (level : Nat) : Nat → Node → Built String
  | _, .scalar _ text _ => .ok text
  | 0, node => problem level (.expectedNode "a scalar node" node.kindName) node.start
  | fuel + 1, node =>
      match node with
      | .mapping _ pairs _ =>
          match pairs.find? fun pair => pair.1.tag = standardTag "value" with
          | some (_, value) => scalarText level fuel value
          | none => problem level (.expectedNode "a scalar node" node.kindName) node.start
      | node => problem level (.expectedNode "a scalar node" node.kindName) node.start

/-- A scalar read by a function of its text. -/
def scalarValue (level : Nat) (read : String → Except Fault Value) (node : Node) : Built Value := do
  let text ← scalarText level node.size node
  (read text).mapError fun fault => ⟨level, .fault fault⟩

/-- Bytes written in base 64. -/
def binaryValue (level : Nat) (node : Node) : Built Value := do
  let text ← scalarText level node.size node
  match Base64.asciiFault? text.toList with
  | some message => problem level (.notAscii message) node.start
  | none =>
      match Base64.decode text.toList with
      | .ok bytes => return .bytes bytes
      | .error fault => problem level (.base64 fault.message) node.start

def standardScalar? (level : Nat) (node : Node) (name : String) : Option (Built Value) :=
  match name with
  | "null" => some (scalarValue level (fun _ => .ok .null) node)
  | "bool" => some (scalarValue level (fun s => (readTruthScalar s).map .bool) node)
  | "int" => some (scalarValue level (fun s => (readIntegerScalar s).map .int) node)
  | "float" => some (scalarValue level (fun s => (readFloatScalar s).map .float) node)
  | "timestamp" => some (scalarValue level readTimeScalar node)
  | "str" => some (scalarValue level (fun s => .ok (.text s)) node)
  | "binary" => some (binaryValue level node)
  | _ => none

def standardName? (tag : String) : Option String :=
  let known := ["null", "bool", "int", "float", "timestamp", "str", "binary", "seq", "map", "set",
    "omap", "pairs"]
  known.find? fun name => standardTag name = tag

/-- Tags of collections, whose values can be no keys. -/
def collectionNames : List String := ["seq", "map", "set", "omap", "pairs"]

/-- The key of a pair; it must be a value that may be a key. Of a collection this is known
before its parts are built. -/
def keyOf (level : Nat) (node : Node) (built : Built Value) : Built Value :=
  if collectionNames.any fun name => standardTag name = node.tag then
    problem level .unhashableKey node.start
  else do
    let key ← built
    if key.isKey then return key else problem level .unhashableKey node.start

mutual

/-- The value of a node that is met on a level. A value that would contain itself is refused,
wherever the alias for it stands. -/
def build : Nat → Nat → Node → Built Value
  | 0, level, node => problem level (.unknownTag node.tag) node.start
  | _ + 1, level, .enclosing place => problem level .enclosingNode place
  | fuel + 1, level, node =>
      let below := level + 1
      match standardName? node.tag with
      | none => problem level (.unknownTag node.tag) node.start
      | some "seq" =>
          match node with
          | .sequence _ items _ => (allTogether (buildItems fuel below items)).map .list
          | node => problem below (.expectedNode "a sequence node" node.kindName) node.start
      | some "map" => (buildEntries fuel below node).map .map
      | some "set" => (buildEntries fuel below node).map fun entries => .set (entries.map Prod.fst)
      | some "omap" => buildOrdered fuel below "an ordered map" node
      | some "pairs" => buildOrdered fuel below "pairs" node
      | some name =>
          (standardScalar? level node name).getD (problem level (.unknownTag node.tag) node.start)

def buildItems : Nat → Nat → List Node → List (Built Value)
  | 0, _, _ => []
  | _ + 1, _, [] => []
  | fuel + 1, level, node :: rest => build fuel level node :: buildItems fuel level rest

def buildEntries : Nat → Nat → Node → Built (List (Value × Value))
  | 0, _, _ => .ok []
  | fuel + 1, level, node =>
      match node with
      | .mapping _ pairs start =>
          match flattened pairs start with
          | .error failure => .error ⟨level, failure⟩
          | .ok pairs => (allTogether (buildPairs fuel level pairs)).map Ordered.ofEntries
      | node => problem level (.expectedNode "a mapping node" node.kindName) node.start

/-- Entries of pairs. -/
def buildPairs : Nat → Nat → List (Node × Node) → List (Built (Value × Value))
  | 0, _, _ => []
  | _ + 1, _, [] => []
  | fuel + 1, level, (key, value) :: rest =>
      together (keyOf level key (build fuel level key)) (build fuel level value) ::
        buildPairs fuel level rest

/-- A list of pairs, from a sequence of mappings with one pair each. -/
def buildOrdered : Nat → Nat → String → Node → Built Value
  | 0, level, _, node => problem level (.unknownTag node.tag) node.start
  | fuel + 1, level, _, node =>
      match node with
      | .sequence _ items _ => (allTogether (buildSingles fuel level items)).map .list
      | node => problem level (.expectedNode "a sequence" node.kindName) node.start

/-- Pairs from mappings with one pair each. -/
def buildSingles : Nat → Nat → List Node → List (Built Value)
  | 0, _, _ => []
  | _ + 1, _, [] => []
  | fuel + 1, level, node :: rest =>
      let single : Built Value :=
        match node with
        | .mapping _ [(key, value)] _ =>
            (together (build fuel level key) (build fuel level value)).map
              fun (k, v) => .tuple [k, v]
        | .mapping _ pairs place =>
            problem level (.expectedItems "a single mapping item" pairs.length) place
        | node => problem level (.expectedNode "a mapping of length 1" node.kindName) node.start
      single :: buildSingles fuel level rest

end

/-- The value of a document. -/
def toValue (node : Node) : Except Failure Value :=
  (build (2 * node.size + 2) 0 node).mapError LeveledFailure.failure

end Node

/-- Characters that a YAML text may hold. -/
def isReadable (c : Char) : Bool :=
  let code := c.toNat
  code == 0x09 || code == 0x0A || code == 0x0D || (0x20 ≤ code && code ≤ 0x7E) || code == 0x85 ||
    (0xA0 ≤ code && code ≤ 0xD7FF) || (0xE000 ≤ code && code ≤ 0xFFFD) || 0x10000 ≤ code

/-- The first character that a YAML text may not hold, if there is one. -/
def unreadable? (cs : List Char) : Option Failure :=
  let before := cs.takeWhile isReadable
  match cs.drop before.length with
  | c :: _ => some (.unreadable c before.length)
  | [] => none

def valuesOf (stream : DocumentStream) : Except Failure (List Value) := do
  let values ← stream.documents.mapM Node.toValue
  match stream.failure with
  | some failure => throw failure
  | none => return values

def load (text : String) : Except Failure (List Value) :=
  let cs := text.toList
  match unreadable? cs with
  | some failure => .error failure
  | none => valuesOf (documentsOf (eventsOf (tokensOf cs)))

end Playbook.Yaml
