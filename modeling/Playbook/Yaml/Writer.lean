import Playbook.Yaml.Block
import Playbook.Yaml.Pen

/-!
# Text of block documents

Sequences and mappings are written in block style, indented by two columns; a sequence that is
the value of a key starts in the column of the key. A key that is empty, long or of several
lines is marked by a question mark.
-/

namespace Playbook.Yaml.Block

/-- Where a part stands in its document. -/
inductive Place where
  | root
  | item
  /-- The value of a key, or a key that is marked. -/
  | entry
  | simpleKey
deriving DecidableEq, Repr

/-- The margin of the lines of a scalar. -/
def innerMargin : Option Nat → Nat
  | none => 2
  | some margin => margin + 2

/-- How a scalar is written. -/
inductive Style where
  | plain
  | singleQuoted
  | doubleQuoted
  | literal
deriving DecidableEq, Repr

/-- The first style that suits a scalar. -/
def style (place : Place) (tag : String) (wantsLiteral : Bool) (text : String)
    (analysis : Analysis) : Style :=
  let simple := place == .simpleKey
  if wantsLiteral then
    if !simple && analysis.literal then .literal else .doubleQuoted
  else if implicitTag text = tag && analysis.plain &&
      !(simple && (analysis.empty || analysis.multiline)) then .plain
  else if analysis.singleQuoted && !(simple && analysis.multiline) then .singleQuoted
  else .doubleQuoted

def shortTag (tag : String) : String := "!!" ++ String.ofList (tag.toList.drop 18)

/-- Whether a scalar needs its tag: the tag is neither what its plain form reads as nor, for a
quoted scalar, that of a text. -/
def needsTag (tag text : String) : Style → Bool
  | .plain => implicitTag text != tag
  | _ => tag != standardTag "str"

/-- Writes a scalar. -/
def putScalar (margin : Option Nat) (place : Place) (tag : String) (wantsLiteral : Bool)
    (text : String) (pen : Pen) : Pen :=
  let cs := text.toList
  let chosen := style place tag wantsLiteral text (Analysis.ofText cs)
  let pen := if needsTag tag text chosen then pen.indicator (shortTag tag) true false else pen
  let inner := innerMargin margin
  let split := place != .simpleKey
  match chosen with
  | .plain =>
      Pen.putPlain inner split cs
        (if place == .root then { pen with openEnded := true } else pen)
  | .singleQuoted => pen.putSingleQuoted inner split cs
  | .doubleQuoted => pen.putDoubleQuoted inner split cs
  | .literal => pen.putLiteral inner cs

/-- Whether a key can be written without a mark. -/
def isSimpleKey (key : String) : Bool :=
  let analysis := Analysis.ofText key.toList
  key.length + 5 < 128 && !analysis.empty && !analysis.multiline

/-- The margin of a part of a collection. -/
def deeper : Option Nat → Nat
  | none => 0
  | some margin => margin + 2

mutual

/-- Writes a part of a document. -/
def put (margin : Option Nat) (place : Place) : Block → Pen → Pen
  | .scalar tag wantsLiteral text, pen => putScalar margin place tag wantsLiteral text pen
  | .sequence [], pen => (pen.indicator "[" true false).indicator "]" false false
  | .mapping [], pen => (pen.indicator "\x7b" true false).indicator "\x7d" false false
  | .sequence items, pen =>
      let flush := place == .entry && !pen.inIndentation
      putItems (if flush then margin.getD 0 else deeper margin) items pen
  | .mapping entries, pen => putEntries (deeper margin) entries pen

/-- Writes the items of a sequence. -/
def putItems (margin : Nat) : List Block → Pen → Pen
  | [], pen => pen
  | item :: rest, pen =>
      let pen := (pen.indent margin).indicator "-" true true
      putItems margin rest (put (some margin) .item item pen)

/-- Writes the entries of a mapping. -/
def putEntries (margin : Nat) : List (String × Block) → Pen → Pen
  | [], pen => pen
  | (key, v) :: rest, pen =>
      let pen := pen.indent margin
      let pen :=
        if isSimpleKey key then
          (putScalar (some margin) .simpleKey (standardTag "str") false key pen).indicator ":"
            false false
        else
          let pen := pen.indicator "?" true true
          let pen := putScalar (some margin) .entry (standardTag "str") false key pen
          (pen.indent margin).indicator ":" true true
      putEntries margin rest (put (some margin) .entry v pen)

end

/-- The text of a document. A plain scalar alone is followed by an end marker. -/
def write (block : Block) : String :=
  let pen := (put none .root block {}).indent 0
  let pen := if pen.openEnded then (pen.indicator "..." true false).indent 0 else pen
  String.ofList pen.written.reverse

end Playbook.Yaml.Block
