import Playbook.Yaml.Event
import Playbook.Yaml.Scalar

/-!
# YAML nodes

Documents as trees. An alias stands for a copy of the node with its anchor, unless it is a part
of that node itself. A value is a finite tree too, so there is none for such an alias.
-/

namespace Playbook.Yaml

/-- A part of a document, with its tag and the place where it starts. -/
inductive Node where
  | scalar (tag text : String) (start : Position)
  | sequence (tag : String) (items : List Node) (start : Position)
  | mapping (tag : String) (pairs : List (Node × Node)) (start : Position)
  /-- An alias for a node that it is a part of. It has no value. -/
  | enclosing (start : Position)
deriving Inhabited, Repr

namespace Node

def tag : Node → String
  | .scalar tag .. | .sequence tag .. | .mapping tag .. => tag
  | .enclosing _ => ""

def withTag (tag : String) : Node → Node
  | .scalar _ text start => .scalar tag text start
  | .sequence _ items start => .sequence tag items start
  | .mapping _ pairs start => .mapping tag pairs start
  | .enclosing start => .enclosing start

def start : Node → Position
  | .scalar _ _ start | .sequence _ _ start | .mapping _ _ start | .enclosing start => start

def kindName : Node → String
  | .scalar .. => "scalar"
  | .sequence .. => "sequence"
  | .mapping .. => "mapping"
  | .enclosing _ => "alias"

mutual

/-- Number of nodes in a tree. -/
def size : Node → Nat
  | .scalar .. | .enclosing _ => 1
  | .sequence _ items _ => 1 + sizeOfAll items
  | .mapping _ pairs _ => 1 + sizeOfPairs pairs

/-- Number of nodes in several trees. -/
def sizeOfAll : List Node → Nat
  | [] => 0
  | node :: rest => node.size + sizeOfAll rest

/-- Number of nodes in pairs of trees. -/
def sizeOfPairs : List (Node × Node) → Nat
  | [] => 0
  | (key, value) :: rest => key.size + value.size + sizeOfPairs rest

end

end Node

/-- The state of building trees: events to come, and the nodes with anchors; a node that is
still open is not there yet. -/
structure TreeState where
  events : List Event
  failure : Option Failure
  anchors : List (String × Option Node)

namespace TreeState

def next (s : TreeState) : Except Failure (Event × TreeState) :=
  match s.events with
  | event :: rest => .ok (event, { s with events := rest })
  | [] => .error (s.failure.getD (.problem .unexpectedEnd ⟨0, 0, 0⟩))

/-- Notes an anchor, which may not be in use. -/
def openAnchor (s : TreeState) (anchor : Option String) (place : Position) :
    Except Failure TreeState :=
  match anchor with
  | none => .ok s
  | some name =>
      if s.anchors.any fun entry => entry.1 == name then
        .error (.problem .repeatedAnchor place)
      else .ok { s with anchors := (name, none) :: s.anchors }

def closeAnchor (s : TreeState) (anchor : Option String) (node : Node) : TreeState :=
  match anchor with
  | none => s
  | some name =>
      { s with anchors := s.anchors.map fun entry =>
          if entry.1 == name then (name, some node) else entry }

def collectionTag (tag : Option String) (name : String) : String :=
  match tag with
  | none | some "!" => standardTag name
  | some tag => tag

def scalarTag (tag : Option String) (implicit : Bool) (text : String) : String :=
  match tag with
  | none | some "!" => if implicit then implicitTag text else standardTag "str"
  | some tag => tag

mutual

/-- The tree that begins with the next event. -/
def tree : Nat → TreeState → Except Failure (Node × TreeState)
  | 0, s => .error (s.failure.getD (.problem .unexpectedEnd ⟨0, 0, 0⟩))
  | fuel + 1, s => do
      let (event, after) ← s.next
      match event.kind with
      | .alias name =>
          match s.anchors.find? fun entry => entry.1 == name with
          | some (_, some node) => return (node, after)
          | some (_, none) => return (.enclosing event.start, after)
          | none => throw (.problem (.undefinedAlias name) event.start)
      | .scalar anchor tag implicit text => do
          let s ← after.openAnchor anchor event.start
          let node := Node.scalar (scalarTag tag implicit text) text event.start
          return (node, s.closeAnchor anchor node)
      | .sequenceStart anchor tag => do
          let s ← after.openAnchor anchor event.start
          let (items, s) ← trees fuel s
          let node := Node.sequence (collectionTag tag "seq") items event.start
          return (node, s.closeAnchor anchor node)
      | .mappingStart anchor tag => do
          let s ← after.openAnchor anchor event.start
          let (pairs, s) ← treePairs fuel s
          let node := Node.mapping (collectionTag tag "map") pairs event.start
          return (node, s.closeAnchor anchor node)
      | _ => throw (.problem .unexpectedEnd event.start)

/-- Trees up to the end of a collection. -/
def trees : Nat → TreeState → Except Failure (List Node × TreeState)
  | 0, s => .ok ([], s)
  | fuel + 1, s => do
      let (event, after) ← s.next
      match event.kind with
      | .collectionEnd => return ([], after)
      | _ => do
          let (first, s) ← tree fuel s
          let (rest, s) ← trees fuel s
          return (first :: rest, s)

/-- Pairs of trees up to the end of a collection. -/
def treePairs : Nat → TreeState → Except Failure (List (Node × Node) × TreeState)
  | 0, s => .ok ([], s)
  | fuel + 1, s => do
      let (event, after) ← s.next
      match event.kind with
      | .collectionEnd => return ([], after)
      | _ => do
          let (key, s) ← tree fuel s
          let (value, s) ← tree fuel s
          let (rest, s) ← treePairs fuel s
          return ((key, value) :: rest, s)

end

/-- Goes past the next event. -/
def pass (s : TreeState) : Except Failure TreeState := do
  let (_, after) ← s.next
  return after

/-- The tree of the next document; none at the end of the stream. -/
def document (s : TreeState) : Except Failure (Option (Node × TreeState)) := do
  let (event, after) ← s.next
  match event.kind with
  | .streamEnd => return none
  | _ => do
      let (node, s) ← tree (2 * after.events.length + 2) { after with anchors := [] }
      return some (node, ← s.pass)

end TreeState

/-- Documents of a stream, and the failure that comes after them, if any. -/
structure DocumentStream where
  documents : List Node
  failure : Option Failure

/-- Reads documents to the end of the stream or to a failure. -/
def documentsFrom : Nat → TreeState → DocumentStream
  | 0, _ => ⟨[], none⟩
  | fuel + 1, s =>
      match s.document with
      | .ok none => ⟨[], none⟩
      | .ok (some (node, next)) =>
          let stream := documentsFrom fuel next
          ⟨node :: stream.documents, stream.failure⟩
      | .error failure => ⟨[], some failure⟩

def documentsOf (stream : EventStream) : DocumentStream :=
  documentsFrom (stream.events.length + 1) ⟨stream.events, stream.failure, []⟩

end Playbook.Yaml
