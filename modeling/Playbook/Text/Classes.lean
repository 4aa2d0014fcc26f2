import Playbook.Text.ClassTables
import Playbook.Text.IdentifierTable

/-!
# Character classes

Membership tests for the character classes of the reading rules, and the digit value of a
decimal digit in any script.
-/

namespace Playbook.Text

/-- Whether a code point lies in one of the inclusive ranges. -/
def inRanges (ranges : List (Nat × Nat)) (code : Nat) : Bool :=
  ranges.any fun range => range.1 ≤ code && code ≤ range.2

/-- Blank characters: the separators of text, the controls from tab to carriage return and
the four information separators. -/
def isBlank (c : Char) : Bool :=
  let code := c.toNat
  code == 0x20 || (0x09 ≤ code && code ≤ 0x0D) || (0x1C ≤ code && code ≤ 0x1F) ||
    code == 0x85 || code == 0xA0 || code == 0x1680 || (0x2000 ≤ code && code ≤ 0x200A) ||
    code == 0x2028 || code == 0x2029 || code == 0x202F || code == 0x205F || code == 0x3000

/-- White space in the narrower sense, without the information separators. -/
def isWhiteSpace (c : Char) : Bool :=
  isBlank c && !(0x1C ≤ c.toNat && c.toNat ≤ 0x1F)

def isLineEnd (c : Char) : Bool :=
  let code := c.toNat
  (0x0A ≤ code && code ≤ 0x0D) || (0x1C ≤ code && code ≤ 0x1E) || code == 0x85 ||
    code == 0x2028 || code == 0x2029

/-- Letters of the first 128 characters. -/
def isAsciiLetter (c : Char) : Bool :=
  ('a' ≤ c && c ≤ 'z') || ('A' ≤ c && c ≤ 'Z')

/-- Digits of the first 128 characters. -/
def isAsciiDigit (c : Char) : Bool :=
  '0' ≤ c && c ≤ '9'

/-- Letters, digits and underscore of the first 128 characters. -/
def isAsciiWord (c : Char) : Bool :=
  isAsciiLetter c || isAsciiDigit c || c == '_'

/-- Hexadecimal digits. -/
def isHexDigit (c : Char) : Bool :=
  isAsciiDigit c || ('a' ≤ c && c ≤ 'f') || ('A' ≤ c && c ≤ 'F')

/-- Value of a digit or letter as a digit of a large base. -/
def digitOfBase (c : Char) : Option Nat :=
  if isAsciiDigit c then some (c.toNat - 48)
  else if 'a' ≤ c && c ≤ 'z' then some (c.toNat - 87)
  else if 'A' ≤ c && c ≤ 'Z' then some (c.toNat - 55)
  else none

/-- Digit value of a decimal digit of any script. -/
def digitValue? (c : Char) : Option Nat :=
  if c.toNat < 128 then
    if isAsciiDigit c then some (c.toNat - 48) else none
  else
    (decimalRanges.find? fun range => range.1 ≤ c.toNat && c.toNat ≤ range.2).map
      fun range => (c.toNat - range.1) % 10

/-- Decimal digits of any script. -/
def isDigit (c : Char) : Bool := (digitValue? c).isSome

/-- Letters, digits and underscore of any script. -/
def isWord (c : Char) : Bool :=
  if c.toNat < 128 then isAsciiWord c else inRanges alphanumericRanges c.toNat

def isIdentifierPart (c : Char) : Bool :=
  if c.toNat < 128 then isAsciiWord c else inRanges identifierRanges c.toNat

/-- Characters that can be shown as themselves inside quotes. -/
def isPrintable (c : Char) : Bool :=
  if c.toNat < 128 then 0x20 ≤ c.toNat && c.toNat < 0x7F else inRanges printableRanges c.toNat

end Playbook.Text
