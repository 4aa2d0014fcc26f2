import Playbook.Number.Binary64
import Playbook.Number.Power
import Playbook.Text.Lines

/-!
# Numerals

Reading integers and doubles from text. Digits may come from any script. Integers with more
than 4300 digits are refused, in both directions.
-/

namespace Playbook.Numeral

open Playbook.Text

/-- The greatest number of digits an integer is read from or written with. -/
def digitLimit : Nat := 4300

/-- Why a text is not read as an integer. -/
inductive IntegerFault where
  | malformed
  | tooLong (digits : Nat)
deriving DecidableEq, Repr

/-- Digits in a base, single underscores between them allowed; the digits and their number. -/
def readDigits (valueOf : Char → Option Nat) (base : Nat) : List Char → Option (Nat × Nat) :=
  go 0 0 false
where
  /-- Continues after some digits; an underscore must be followed by a digit. -/
  go (value count : Nat) (afterDigit : Bool) : List Char → Option (Nat × Nat)
    | [] => if afterDigit then some (value, count) else none
    | '_' :: rest => if afterDigit then go value count false rest else none
    | c :: rest =>
        match valueOf c with
        | some d => if d < base then go (value * base + d) (count + 1) true rest else none
        | none => none

/-- A sign, and what follows it. -/
def readSign : List Char → Bool × List Char
  | '-' :: rest => (true, rest)
  | '+' :: rest => (false, rest)
  | rest => (false, rest)

/-- Value of a digit of a base up to ten in any script, or of a letter above. -/
def digitIn (c : Char) : Option Nat :=
  match digitValue? c with
  | some d => some d
  | none => digitOfBase c

/-- A letter that names a base, after a leading zero. -/
def dropBaseMark (base : Nat) : List Char → List Char
  | '0' :: c :: rest =>
      let marked :=
        (base = 2 && (c = 'b' || c = 'B')) || (base = 8 && (c = 'o' || c = 'O')) ||
          (base = 16 && (c = 'x' || c = 'X'))
      if marked then
        match rest with
        | '_' :: digits => digits
        | digits => digits
      else '0' :: c :: rest
  | cs => cs

/-- Reads an integer in a base, with outer blanks, a sign and underscores between digits. -/
def readInt (base : Nat) (s : List Char) : Except IntegerFault Int :=
  let (negative, body) := readSign (trim s)
  match readDigits digitIn base (dropBaseMark base body) with
  | none => .error .malformed
  | some (value, count) =>
      if count > digitLimit && !(base = 2 || base = 8 || base = 16) then .error (.tooLong count)
      else .ok (if negative then -(value : Int) else value)

/-- Text of an integer, none if it has too many digits. -/
def intText? (n : Int) : Option String :=
  if n.natAbs < tenTo digitLimit then some (toString n) else none

/-- A run of digits of any script, and what follows it. -/
def spanDigits : List Char → List Nat × List Char
  | [] => ([], [])
  | c :: rest =>
      match digitValue? c with
      | some d => let (ds, after) := spanDigits rest; (d :: ds, after)
      | none => ([], c :: rest)

/-- The number that decimal digits stand for. -/
def ofDigits (digits : List Nat) : Nat := digits.foldl (fun value d => value * 10 + d) 0

/-- A decimal literal: sign, whole digits, fraction digits and exponent. -/
structure Decimal where
  negative : Bool
  whole : List Nat
  fraction : List Nat
  exponent : Int
deriving DecidableEq, Repr

/-- The double that a decimal literal denotes. -/
def Decimal.toBinary64 (d : Decimal) : Binary64 :=
  .ofDecimal d.negative (ofDigits (d.whole ++ d.fraction)) (d.exponent - (d.fraction.length : Int))

/-- An optional exponent that ends the literal. -/
def readExponent : List Char → Option Int
  | [] => some 0
  | c :: rest =>
      if c = 'e' || c = 'E' then
        let (negative, body) := readSign rest
        match spanDigits body with
        | ([], _) => none
        | (digits, []) =>
            let size : Int := ofDigits digits
            some (if negative then -size else size)
        | (_, _ :: _) => none
      else none

/-- Reads a decimal literal without blanks or underscores: digits with an optional fraction,
or a fraction alone, then an optional exponent. -/
def readDecimal (cs : List Char) : Option Decimal :=
  let (negative, body) := readSign cs
  match spanDigits body with
  | ([], '.' :: rest) =>
      match spanDigits rest with
      | ([], _) => none
      | (fraction, after) => (readExponent after).map fun e => ⟨negative, [], fraction, e⟩
  | ([], _) => none
  | (whole, '.' :: rest) =>
      let (fraction, after) := spanDigits rest
      (readExponent after).map fun e => ⟨negative, whole, fraction, e⟩
  | (whole, after) => (readExponent after).map fun e => ⟨negative, whole, [], e⟩

/-- Drops single underscores between digits; none if an underscore stands elsewhere. -/
def dropUnderscores : Bool → List Char → Option (List Char)
  | _, [] => some []
  | afterDigit, '_' :: c :: rest =>
      if afterDigit && isDigit c then (dropUnderscores true rest).map (c :: ·) else none
  | _, ['_'] => none
  | _, c :: rest => (dropUnderscores (isDigit c) rest).map (c :: ·)

/-- A letter in lower case. -/
def lowerAscii (c : Char) : Char :=
  if 'A' ≤ c && c ≤ 'Z' then Char.ofNat (c.toNat + 32) else c

/-- Reads a double without blanks or underscores: a decimal literal, an infinity or
not-a-number. -/
def readUnspaced (cs : List Char) : Option Binary64 :=
  let (negative, word) := readSign cs
  match String.ofList (word.map lowerAscii) with
  | "inf" | "infinity" => some (.infinite negative)
  | "nan" => some .nan
  | _ => (readDecimal cs).map Decimal.toBinary64

/-- Reads a double, with outer blanks and underscores between digits. -/
def readBinary64 (s : List Char) : Option Binary64 :=
  (dropUnderscores false (trim s)).bind readUnspaced

end Playbook.Numeral
