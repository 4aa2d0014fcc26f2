import Playbook.Diagnostic
import Playbook.Number.Numeral
import Playbook.Text.Quoted
import Playbook.Value.Plain

/-!
# Numbers and ranges

Reading a value as a number, and texts that list ranges: `n+` from a number up, `n-` down from
it, `l-h` between two numbers, or a number alone. Items are tried in that order.
-/

namespace Playbook

/-- The number that a text denotes, outer blanks aside. -/
def Numeral.ofText? (cs : List Char) : Option Binary64 :=
  (Numeral.readDecimal (Text.trim cs)).map Numeral.Decimal.toBinary64

/-- The number that a value denotes. Truth values are no numbers. -/
def Value.asNumber : Value → Except Fault (Option Binary64)
  | .int n => match Binary64.ofInt? n with
      | some x => .ok (some x)
      | none => .error .doubleRange
  | .float x => .ok (some x)
  | .text s => .ok (Numeral.ofText? s.toList)
  | .bytes b => .ok (Numeral.ofText? (Text.Utf8.decodeLenient b).toList)
  | _ => .ok none

/-- An interval of numbers, its ends included. -/
structure Range where
  low : Binary64
  high : Binary64
deriving DecidableEq, Repr

namespace Range

/-- Whether a number lies in a range. -/
def contains (x : Binary64) (range : Range) : Bool := range.low.le x && x.le range.high

/-- Whether an integer lies in a range. -/
def containsInt (n : Int) (range : Range) : Bool := range.low.leInt n && Binary64.intLe n range.high

/-- A number with a sign, digits and an optional fraction at the start of a text, and what
follows it. -/
def readBound (cs : List Char) : Option (Binary64 × List Char) :=
  let (negative, body) := Numeral.readSign cs
  match Numeral.spanDigits body with
  | ([], _) => none
  | (whole, '.' :: rest) =>
      match Numeral.spanDigits rest with
      | ([], _) => some (Numeral.Decimal.toBinary64 ⟨negative, whole, [], 0⟩, '.' :: rest)
      | (fraction, after) =>
          some (Numeral.Decimal.toBinary64 ⟨negative, whole, fraction, 0⟩, after)
  | (whole, after) => some (Numeral.Decimal.toBinary64 ⟨negative, whole, [], 0⟩, after)

/-- Two numbers with a dash between them. -/
def readBetween (cs : List Char) : Option Range := do
  let (low, afterLow) ← readBound cs
  match afterLow.dropWhile Text.isBlank with
  | '-' :: rest => do
      let (high, after) ← readBound (rest.dropWhile Text.isBlank)
      if after.isEmpty then some ⟨low, high⟩ else none
  | _ => none

/-- The number before a final character, if the text ends in it. -/
def readBefore (final : Char) (cs : List Char) : Option Binary64 :=
  match cs.getLast? with
  | some c => if c = final then Numeral.ofText? cs.dropLast else none
  | none => none

/-- One range without outer blanks. -/
def readItem (cs : List Char) : Option Range :=
  ((readBefore '+' cs).map fun low => ⟨low, .infinite false⟩)
    |>.or ((readBefore '-' cs).map fun high => ⟨.infinite true, high⟩)
    |>.or (readBetween cs)
    |>.or ((Numeral.ofText? cs).map fun exact => ⟨exact, exact⟩)

/-- Reads the items one by one; the first that is no range is the failure. -/
def readItems : List (List Char) → Except (List Char) (List Range)
  | [] => .ok []
  | raw :: rest =>
      let item := Text.trim raw
      match readItem item with
      | some range => do return range :: (← readItems rest)
      | none => .error item

/-- Message on a text that lists something that is no range. -/
def faultMessage (item : List Char) (text : String) : String :=
  "Invalid range " ++ Text.quoted (String.ofList item) ++ " in " ++ Text.quoted text

/-- Reads a list of ranges separated by commas; the failure is its message. -/
def parse (text : String) : Except String (List Range) :=
  (readItems (Text.splitOnChar ',' text.toList)).mapError fun item => faultMessage item text

/-- Whether one of the ranges of a text has a property. -/
def anyOf (test : Range → Bool) (text : String) : Except Fault Bool :=
  match parse text with
  | .ok ranges => .ok (ranges.any test)
  | .error message => .error (.assertion message)

/-- Whether a number lies in one of the ranges of a text. -/
def anyContains (x : Binary64) (text : String) : Except Fault Bool := anyOf (contains x) text

/-- Whether an integer lies in one of the ranges of a text. -/
def anyContainsInt (n : Int) (text : String) : Except Fault Bool := anyOf (containsInt n) text

end Range

end Playbook
