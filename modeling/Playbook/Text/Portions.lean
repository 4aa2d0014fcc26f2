import Playbook.Number.Binary64
import Playbook.Text.Encoding

/-!
# Reading texts in portions

The bytes of a text file are taken in portions, whenever more characters are asked for, and each
portion is decoded by itself. Who reads a file therefore sees the characters in front of a
portion before a fault in that portion.
-/

namespace Playbook.Text

/-- A text in UTF-8 that is being read. -/
structure Reader where
  /-- Bytes that have not been taken yet. -/
  rest : List UInt8
  /-- A character that is not complete. -/
  pending : Option (Utf8.Pending × UInt8) := none
  /-- Whether a carriage return waits for what follows it. -/
  held : Bool := false
  /-- Characters that have not been handed out yet. -/
  ready : List Char := []
  /-- Bytes for each character of the last portion. -/
  density : Binary64 := .zero false

namespace Reader

/-- The least number of bytes of a portion. -/
def leastPortion : Nat := 8192

/-- Number of bytes to take if a number of characters is asked for. -/
def portionSize (reader : Reader) (asked : Nat) : Nat :=
  max leastPortion (reader.density.mul (.ofRatio false asked 1)).wholePart

/-- Decodes a portion behind a character that is not complete. Positions are counted from the
start of that character. The empty portion is the end of the text. -/
def decodePortion (pending : Option (Utf8.Pending × UInt8)) (portion : List UInt8) :
    Except Fault (List Char × Option (Utf8.Pending × UInt8)) :=
  match portion, pending with
  | [], some (state, first) =>
      Encoding.undecodable "utf-8" ⟨0, state.seen, first, "unexpected end of data"⟩
  | portion, pending =>
      match Utf8.decodePart (Utf8.openBytes pending) pending portion with
      | .ok result => .ok result
      | .error fault => Encoding.undecodable "utf-8" fault

/-- A carriage return that waits for what follows it. -/
def waiting (held : Bool) : List Char := if held then ['\r'] else []

/-- Takes off a carriage return at the end, which may belong to a line feed. -/
def hold (cs : List Char) : List Char × Bool :=
  if cs.getLast? = some '\r' then (cs.dropLast, true) else (cs, false)

/-- A reader behind a portion that has been decoded. -/
def behind (reader : Reader) (portion : List UInt8) (decoded : List Char)
    (pending : Option (Utf8.Pending × UInt8)) : Reader :=
  let decoded := waiting reader.held ++ decoded
  let (decoded, held) := if portion.isEmpty then (decoded, false) else hold decoded
  let cs := unifyLineEnds decoded
  { rest := reader.rest.drop portion.length
    pending := pending
    held := held
    ready := reader.ready ++ cs
    density := if cs.isEmpty then .zero false else .ofRatio false portion.length cs.length }

/-- Takes and decodes the next portion. -/
def fill (asked : Nat) (reader : Reader) : Except Fault Reader := do
  let portion := reader.rest.take (reader.portionSize asked)
  let (decoded, pending) ← decodePortion reader.pending portion
  return reader.behind portion decoded pending

/-- Whether nothing is left that could become a character. -/
def ended (reader : Reader) : Bool :=
  reader.rest.isEmpty && reader.pending.isNone && !reader.held

/-- All characters up to the portion that cannot be decoded, and its fault. -/
def drain : Nat → Reader → List Char × Option Fault
  | 0, reader => (reader.ready, none)
  | fuel + 1, reader =>
      if reader.ended then (reader.ready, none)
      else
        match reader.fill 0 with
        | .ok next => drain fuel next
        | .error fault => (reader.ready, some fault)

/-- Reads a number of characters, or as many as there are. -/
def read : Nat → Nat → Reader → Except Fault (List Char × Reader)
  | 0, _, reader => .ok ([], reader)
  | fuel + 1, count, reader =>
      if count ≤ reader.ready.length || reader.ended then
        .ok (reader.ready.take count, { reader with ready := reader.ready.drop count })
      else do
        let missing := count - reader.ready.length
        let next ← { reader with ready := [] }.fill missing
        let (others, last) ← read fuel missing next
        return (reader.ready ++ others, last)

/-- Reads a number of characters again and again, up to the end or to a fault. -/
def readAll (count : Nat) : Nat → Reader → List (List Char) × Option Fault
  | 0, _ => ([], none)
  | fuel + 1, reader =>
      match reader.read (reader.rest.length + 2) count with
      | .error fault => ([], some fault)
      | .ok (cs, next) =>
          if cs.isEmpty then ([], none)
          else
            let (others, fault) := readAll count fuel next
            (cs :: others, fault)

end Reader

/-- The lines of a text that can be read, and the fault that is met behind them. -/
structure ReadLines where
  lines : List String
  fault : Option Fault

/-- Reads a text line by line. A line whose end is not reached is not read. -/
def readLines (bytes : List UInt8) : ReadLines :=
  let drained := Reader.drain (bytes.length + 2) { rest := bytes }
  let lines := (splitOnChar '\n' drained.1).map String.ofList
  ⟨if drained.2.isSome then lines.dropLast else lines, drained.2⟩

/-- Reads a text in parts of some number of characters. -/
def readParts (count : Nat) (bytes : List UInt8) : List (List Char) × Option Fault :=
  Reader.readAll count (bytes.length + 1) { rest := bytes }

end Playbook.Text
