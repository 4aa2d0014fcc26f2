import Playbook.Field.Issue
import Playbook.Number.Power
import Playbook.Text.Case
import Playbook.Text.Utf8
import Playbook.Value.Entries

/-!
# Checks of single values

Checks that coerce a value to a type where its meaning is plain: numbers given as texts, words
for truth values, sequences of any kind as lists.
-/

namespace Playbook.Field

open Playbook.Text Issue

def any (v : Value) : Checked Value := .ok v

def bytesText? (bytes : List UInt8) : Option String :=
  (Utf8.decode bytes).toOption

/-- A text, or bytes that are one. -/
def text : Value → Checked String
  | .text s => .ok s
  | .bytes b => match bytesText? b with
      | some s => .ok s
      | none => here .textUndecodable
  | _ => here .textExpected

/-- A text that obeys a rule, named in the message by a pattern. -/
def textWith (rule : List Char → Bool) (pattern : String) (v : Value) : Checked String := do
  let s ← text v
  if rule s.toList then return s else here (.textPattern pattern)

def truthWord? (word : String) : Option Bool :=
  match lower word with
  | "0" | "f" | "n" | "no" | "off" | "false" => some false
  | "1" | "t" | "y" | "on" | "yes" | "true" => some true
  | _ => none

/-- The truth value that an integer stands for. -/
def truthOfInt (n : Int) : Checked Bool :=
  if n = 0 then .ok false else if n = 1 then .ok true else here .boolUnreadable

/-- A truth value, or a word or number for one. -/
def truth : Value → Checked Bool
  | .bool b => .ok b
  | .text s => match truthWord? s with
      | some b => .ok b
      | none => here .boolUnreadable
  | .bytes b => match (bytesText? b).bind truthWord? with
      | some b => .ok b
      | none => here .boolUnreadable
  | .int n => truthOfInt n
  | .float x => match x.toInt? with
      | some n => truthOfInt n
      | none => here .boolExpected
  | _ => here .boolExpected

/-- Drops a fraction that consists of zeros, at least one. -/
def dropZeroFraction (cs : List Char) : List Char :=
  match splitOnChar '.' cs with
  | [whole, fraction] =>
      if !fraction.isEmpty && fraction.all (· == '0') then whole else cs
  | _ => cs

/-- Digit of the first 128 characters. -/
def asciiDigit? (c : Char) : Option Nat :=
  if isAsciiDigit c then some (c.toNat - 48) else none

/-- An integer from its text: a sign, digits with single underscores between them and a
fraction of zeros are accepted. -/
def readInteger (cs : List Char) : Checked Int :=
  let body := trimWhile isWhiteSpace cs
  if body.length > Numeral.digitLimit then here .intTooLong
  else
    let (negative, digits) := Numeral.readSign (dropZeroFraction body)
    match Numeral.readDigits asciiDigit? 10 digits with
    | some (value, _) => .ok (if negative then -(value : Int) else value)
    | none => here .intUnreadable

/-- An integer, or a text or whole number for one. -/
def integer : Value → Checked Int
  | .int n => .ok n
  | .bool b => .ok (if b then 1 else 0)
  | .text s => readInteger s.toList
  | .bytes b => match bytesText? b with
      | some s => readInteger s.toList
      | none => here .intUnreadable
  | .float x => match x.toInt? with
      | some n => if n.natAbs < twoTo 63 then .ok n else here .intTooLong
      | none => here (if x.isFinite then .intFractional else .finiteExpected)
  | _ => here .intExpected

/-- Whether a text holds underscores, all of them single and none at an end. -/
def hasInnerUnderscores (cs : List Char) : Bool :=
  cs.contains '_' && (splitOnChar '_' cs).all fun part => !part.isEmpty

/-- A double from its text: either with blanks around it or with underscores inside of it. -/
def readNumber (cs : List Char) : Checked Binary64 :=
  let ascii (cs : List Char) : Option Binary64 :=
    if cs.all fun c => c.toNat < 128 then Numeral.readUnspaced cs else none
  let spaced := ascii (trimWhile isWhiteSpace cs)
  let marked := if hasInnerUnderscores cs then ascii (cs.filter (· != '_')) else none
  match spaced.or marked with
  | some x => .ok x
  | none => here .numberUnreadable

/-- A double, or an integer, truth value or text for one. -/
def number : Value → Checked Binary64
  | .float x => .ok x
  | .int n => match Binary64.ofInt? n with
      | some x => .ok x
      | none => here .numberExpected
  | .bool b => .ok (.ofRatio false (if b then 1 else 0) 1)
  | .text s => readNumber s.toList
  | .bytes b => match bytesText? b with
      | some s => readNumber s.toList
      | none => here .numberUnreadable
  | _ => here .numberExpected

/-- A double above zero. -/
def positive (v : Value) : Checked Binary64 := do
  let x ← number v
  if Binary64.lt (.zero false) x then return x else here (.greaterThan "0")

/-- A double that is not below zero. -/
def nonnegative (v : Value) : Checked Binary64 := do
  let x ← number v
  if Binary64.le (.zero false) x then return x else here (.atLeast "0")

/-- An integer that is not below zero. -/
def natural (v : Value) : Checked Nat := do
  let n ← integer v
  if n < 0 then here (.atLeast "0") else return n.toNat

def choice (words : List String) : Value → Checked String
  | .text s => if words.contains s then .ok s else here (.choiceExpected words)
  | _ => here (.choiceExpected words)

def optional {α : Type} (check : Value → Checked α) : Value → Checked (Option α)
  | .null => .ok none
  | v => (check v).map some

/-- Checks the items of a list from a position on. -/
def itemsFrom {α : Type} (check : Value → Checked α) : Nat → List Value → Checked (List α)
  | _, [] => .ok []
  | position, v :: rest => do
      let first ← (check v).at (.index position)
      return first :: (← itemsFrom check (position + 1) rest)

/-- A sequence of any kind as a list. -/
def list {α : Type} (check : Value → Checked α) (v : Value) : Checked (List α) :=
  match v.items? with
  | some items => itemsFrom check 0 items
  | none => here .listExpected

/-- A sequence of any kind as a tuple. -/
def tuple {α : Type} (check : Value → Checked α) (v : Value) : Checked (List α) :=
  match v.items? with
  | some items => itemsFrom check 0 items
  | none => here .tupleExpected

def entriesWith {α β : Type} (checkKey : Value → Checked α) (check : Value → Checked β) :
    List (Value × Value) → Checked (List (α × β))
  | [] => .ok []
  | (k, v) :: rest => do
      let key ← ((checkKey k).at (.name "[key]")).at (Part.ofKey k)
      let value ← (check v).at (Part.ofKey k)
      return (key, value) :: (← entriesWith checkKey check rest)

def mapping {β : Type} (checkKey : Value → Checked String) (check : Value → Checked β)
    (v : Value) : Checked (List (String × β)) :=
  match v with
  | .map entries => do return Ordered.ofEntries (← entriesWith checkKey check entries)
  | _ => here .mappingExpected

/-- Reads a part as one of two shapes; if it has neither, the issue with the first counts,
below the name of that shape. -/
def either {α : Type} (name : String) (first second : Value → Checked α) (v : Value) : Checked α :=
  match first v with
  | .ok result => .ok result
  | .error issue =>
      match second v with
      | .ok result => .ok result
      | .error _ => .error (issue.below (.name name))

end Playbook.Field
