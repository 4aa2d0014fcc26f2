import Playbook.Number.Numeral
import Playbook.Value.Entries

/-!
# Reading JSON

Reads a JSON text into a value. Objects keep the order of their keys; a repeated key keeps
its first place and its last value. The words for numbers that are not finite are accepted.
-/

namespace Playbook.Json

open Playbook.Text

/-- Why a text is not JSON. -/
inductive ReadFault where
  | valueExpected
  | nameExpected
  | colonExpected
  | commaExpected
  | extraData
  | unterminatedString
  | controlCharacter
  | unknownEscape
  | unicodeEscape
  | byteOrderMark
  /-- An integer with too many digits, which is well formed but refused. -/
  | integerTooLong (digits : Nat)
deriving DecidableEq, Repr

def ReadFault.message : ReadFault → String
  | .valueExpected => "Expecting value"
  | .nameExpected => "Expecting property name enclosed in double quotes"
  | .colonExpected => "Expecting ':' delimiter"
  | .commaExpected => "Expecting ',' delimiter"
  | .extraData => "Extra data"
  | .unterminatedString => "Unterminated string starting at"
  | .controlCharacter => "Invalid control character at"
  | .unknownEscape => "Invalid \\escape"
  | .unicodeEscape => "Invalid \\uXXXX escape"
  | .byteOrderMark => "Unexpected UTF-8 BOM (decode using utf-8-sig)"
  | .integerTooLong digits => toString digits

/-- Blanks between the parts of a JSON text. -/
def isSpace (c : Char) : Bool := c == ' ' || c == '\t' || c == '\n' || c == '\r'

/-- What follows the leading blanks. -/
def skipSpace (cs : List Char) : List Char := cs.dropWhile isSpace

/-- The character that a one-letter escape stands for. -/
def escapeValue? : Char → Option Nat
  | '"' => some 0x22
  | '\\' => some 0x5C
  | '/' => some 0x2F
  | 'b' => some 0x08
  | 'f' => some 0x0C
  | 'n' => some 0x0A
  | 'r' => some 0x0D
  | 't' => some 0x09
  | _ => none

/-- Value of four hexadecimal digits. -/
def hexValue? (a b c d : Char) : Option Nat :=
  if isHexDigit a && isHexDigit b && isHexDigit c && isHexDigit d then do
    let va ← digitOfBase a
    let vb ← digitOfBase b
    let vc ← digitOfBase c
    let vd ← digitOfBase d
    return ((va * 16 + vb) * 16 + vc) * 16 + vd
  else none

/-- Code units of the rest of a string, and what follows its closing quote. An escape by its
number needs something behind it. -/
def readUnits : List Char → Except ReadFault (List Nat × List Char)
  | [] => .error .unterminatedString
  | c :: rest =>
      if c = '"' then .ok ([], rest)
      else if c = '\\' then
        match rest with
        | [] => .error .unterminatedString
        | mark :: rest =>
            if mark = 'u' then
              match rest with
              | a :: b :: c :: d :: rest =>
                  match hexValue? a b c d, rest.isEmpty with
                  | some unit, false => do
                      let (units, after) ← readUnits rest
                      return (unit :: units, after)
                  | _, _ => .error .unicodeEscape
              | _ => .error .unicodeEscape
            else
              match escapeValue? mark with
              | some unit => do
                  let (units, after) ← readUnits rest
                  return (unit :: units, after)
              | none => .error .unknownEscape
      else if c.toNat < 0x20 then .error .controlCharacter
      else do
        let (units, after) ← readUnits rest
        return (c.toNat :: units, after)

/-- Characters of code units: two surrogates together form one character. -/
def joinUnits : List Nat → List Char
  | [] => []
  | [unit] => [Char.ofNat (if 0xD800 ≤ unit && unit < 0xE000 then 0xFFFD else unit)]
  | unit :: next :: rest =>
      if 0xD800 ≤ unit && unit < 0xDC00 && 0xDC00 ≤ next && next < 0xE000 then
        Char.ofNat (0x10000 + (unit - 0xD800) * 0x400 + (next - 0xDC00)) :: joinUnits rest
      else
        Char.ofNat (if 0xD800 ≤ unit && unit < 0xE000 then 0xFFFD else unit) ::
          joinUnits (next :: rest)

/-- The rest of a string after its opening quote. -/
def readString (cs : List Char) : Except ReadFault (String × List Char) := do
  let (units, after) ← readUnits cs
  return (String.ofList (joinUnits units), after)

/-- A run of ASCII digits, and what follows it. -/
def spanAscii (cs : List Char) : List Char × List Char :=
  (cs.takeWhile isAsciiDigit, cs.dropWhile isAsciiDigit)

def asciiValue (digits : List Char) : Nat :=
  digits.foldl (fun value c => value * 10 + (c.toNat - 48)) 0

/-- A fraction: a point and at least one digit. -/
def readFraction : List Char → List Char × List Char
  | '.' :: rest =>
      match spanAscii rest with
      | ([], _) => ([], '.' :: rest)
      | result => result
  | cs => ([], cs)

/-- An exponent with its sign: a letter and at least one digit. -/
def readPower : List Char → Option Int × List Char
  | c :: rest =>
      if c = 'e' || c = 'E' then
        let (negative, body) := Numeral.readSign rest
        match spanAscii body with
        | ([], _) => (none, c :: rest)
        | (digits, after) =>
            let size : Int := asciiValue digits
            (some (if negative then -size else size), after)
      else (none, c :: rest)
  | [] => (none, [])

/-- A number without its sign. -/
def readMagnitude (negative : Bool) (cs : List Char) : Except ReadFault (Value × List Char) :=
  let (whole, afterWhole) := match cs with
    | '0' :: rest => (['0'], rest)
    | cs => spanAscii cs
  if whole.isEmpty then .error .valueExpected
  else
    let (fraction, afterFraction) := readFraction afterWhole
    let (power, after) := readPower afterFraction
    if fraction.isEmpty && power.isNone then
      if whole.length > Numeral.digitLimit then .error (.integerTooLong whole.length)
      else
        let size : Int := asciiValue whole
        .ok (.int (if negative then -size else size), after)
    else
      let digits := asciiValue (whole ++ fraction)
      .ok (.float (.ofDecimal negative digits (power.getD 0 - (fraction.length : Int))), after)

/-- A word at the start of a text, and what follows it. -/
def readWord : List Char → Except ReadFault (Value × List Char)
  | 'n' :: 'u' :: 'l' :: 'l' :: rest => .ok (.null, rest)
  | 't' :: 'r' :: 'u' :: 'e' :: rest => .ok (.bool true, rest)
  | 'f' :: 'a' :: 'l' :: 's' :: 'e' :: rest => .ok (.bool false, rest)
  | 'N' :: 'a' :: 'N' :: rest => .ok (.float .nan, rest)
  | 'I' :: 'n' :: 'f' :: 'i' :: 'n' :: 'i' :: 't' :: 'y' :: rest =>
      .ok (.float (.infinite false), rest)
  | '-' :: 'I' :: 'n' :: 'f' :: 'i' :: 'n' :: 'i' :: 't' :: 'y' :: rest =>
      .ok (.float (.infinite true), rest)
  | '-' :: rest => readMagnitude true rest
  | cs => readMagnitude false cs

mutual

/-- A value at the start of a text, and what follows it. The fuel bounds the nesting. -/
def readValue : Nat → List Char → Except ReadFault (Value × List Char)
  | 0, _ => .error .valueExpected
  | _ + 1, '"' :: rest => do
      let (s, after) ← readString rest
      return (.text s, after)
  | fuel + 1, '[' :: rest =>
      match skipSpace rest with
      | ']' :: after => .ok (.list [], after)
      | items => do
          let (values, after) ← readItems fuel items
          return (.list values, after)
  | fuel + 1, '\x7b' :: rest =>
      match skipSpace rest with
      | '\x7d' :: after => .ok (.map [], after)
      | entries => do
          let (fields, after) ← readEntries fuel entries
          return (.map (Ordered.ofEntries fields), after)
  | _ + 1, cs => readWord cs

/-- The items of an array from one of them on, and what follows the array. -/
def readItems : Nat → List Char → Except ReadFault (List Value × List Char)
  | 0, _ => .error .valueExpected
  | fuel + 1, cs => do
      let (value, after) ← readValue fuel cs
      match skipSpace after with
      | ']' :: rest => return ([value], rest)
      | ',' :: rest =>
          let (values, after) ← readItems fuel (skipSpace rest)
          return (value :: values, after)
      | _ => throw .commaExpected

/-- The entries of an object from one of them on, and what follows the object. -/
def readEntries : Nat → List Char → Except ReadFault (List (Value × Value) × List Char)
  | 0, _ => .error .valueExpected
  | fuel + 1, '"' :: cs => do
      let (name, afterName) ← readString cs
      match skipSpace afterName with
      | ':' :: body =>
          let (value, after) ← readValue fuel (skipSpace body)
          match skipSpace after with
          | '\x7d' :: rest => return ([(.text name, value)], rest)
          | ',' :: rest =>
              let (entries, after) ← readEntries fuel (skipSpace rest)
              return ((.text name, value) :: entries, after)
          | _ => throw .commaExpected
      | _ => throw .colonExpected
  | _ + 1, _ => .error .nameExpected

end

/-- Reads a whole text. -/
def readChars (cs : List Char) : Except ReadFault Value :=
  if cs.head? = some (Char.ofNat 0xFEFF) then .error .byteOrderMark
  else do
    let (value, after) ← readValue (2 * cs.length + 2) (skipSpace cs)
    if (skipSpace after).isEmpty then return value else throw .extraData

/-- Reads a JSON text. -/
def read (s : String) : Except ReadFault Value := readChars s.toList

end Playbook.Json
