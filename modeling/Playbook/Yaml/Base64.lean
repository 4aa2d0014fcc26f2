import Playbook.Text.Classes
import Playbook.Text.Quoted

/-!
# Base 64

Bytes written with 64 characters, three bytes in four characters. Other characters are passed
over; padding ends the text once it completes a group.
-/

namespace Playbook.Yaml.Base64

open Playbook.Text

/-- Value of a character. -/
def digit? (c : Char) : Option Nat :=
  if 'A' ≤ c && c ≤ 'Z' then some (c.toNat - 65)
  else if 'a' ≤ c && c ≤ 'z' then some (c.toNat - 71)
  else if isAsciiDigit c then some (c.toNat + 4)
  else if c = '+' then some 62
  else if c = '/' then some 63
  else none

/-- Why a text is no sequence of bytes. -/
inductive Fault where
  | padding
  | length (digits : Nat)

def Fault.message : Fault → String
  | .padding => "Incorrect padding"
  | .length digits =>
      "Invalid base64-encoded string: number of data characters (" ++ toString digits ++
        ") cannot be 1 more than a multiple of 4"

/-- Decodes from a place in a group of four: bytes so far in reverse, bits of the last
character, place in the group and padding seen. -/
def decodeFrom : List UInt8 → Nat → Nat → Nat → List Char → Except Fault (List UInt8)
  | found, _, place, _, [] =>
      match place with
      | 0 => .ok found.reverse
      | 1 => .error (.length (found.length / 3 * 4 + 1))
      | _ => .error .padding
  | found, bits, place, pads, c :: rest =>
      if c = '=' then
        if place ≥ 2 && place + pads + 1 ≥ 4 then .ok found.reverse
        else decodeFrom found bits place (if place ≥ 2 then pads + 1 else pads) rest
      else match digit? c with
        | none => decodeFrom found bits place pads rest
        | some d =>
            match place with
            | 0 => decodeFrom found d 1 0 rest
            | 1 => decodeFrom (UInt8.ofNat (bits * 4 + d / 16) :: found) (d % 16) 2 0 rest
            | 2 => decodeFrom (UInt8.ofNat (bits * 16 + d / 4) :: found) (d % 4) 3 0 rest
            | _ => decodeFrom (UInt8.ofNat (bits * 64 + d) :: found) 0 0 0 rest

/-- Decodes a text. -/
def decode (cs : List Char) : Except Fault (List UInt8) := decodeFrom [] 0 0 0 cs

def digitChar (value : Nat) : Char :=
  if value < 26 then Char.ofNat (65 + value)
  else if value < 52 then Char.ofNat (71 + value)
  else if value < 62 then Char.ofNat (value - 4)
  else if value = 62 then '+' else '/'

/-- Encodes bytes. -/
def encode : List UInt8 → List Char
  | [] => []
  | [a] => [digitChar (a.toNat / 4), digitChar (a.toNat % 4 * 16), '=', '=']
  | [a, b] =>
      [digitChar (a.toNat / 4), digitChar (a.toNat % 4 * 16 + b.toNat / 16),
        digitChar (b.toNat % 16 * 4), '=']
  | a :: b :: c :: rest =>
      digitChar (a.toNat / 4) :: digitChar (a.toNat % 4 * 16 + b.toNat / 16) ::
        digitChar (b.toNat % 16 * 4 + c.toNat / 64) :: digitChar (c.toNat % 64) :: encode rest

/-- Ends a line after every 76 characters, given the room left on the first one. -/
def wrap : Nat → List Char → List Char
  | _, [] => ['\n']
  | 0, c :: rest => '\n' :: c :: wrap 75 rest
  | room + 1, c :: rest => c :: wrap room rest

def encodeLines (bytes : List UInt8) : List Char :=
  if bytes.isEmpty then [] else wrap 76 (encode bytes)

/-- Message on the first characters outside of the first 128. -/
def asciiFault? (cs : List Char) : Option String :=
  let before := (cs.takeWhile fun c => c.toNat < 128).length
  let bad := (cs.drop before).takeWhile fun c => 128 ≤ c.toNat
  match bad with
  | [] => none
  | [c] =>
      let shown :=
        if c.toNat < 0x100 then '\\' :: 'x' :: hexDigits 2 c.toNat
        else if c.toNat < 0x10000 then '\\' :: 'u' :: hexDigits 4 c.toNat
        else '\\' :: 'U' :: hexDigits 8 c.toNat
      some ("'ascii' codec can't encode character '" ++ String.ofList shown ++ "' in position " ++
        toString before ++ ": ordinal not in range(128)")
  | several =>
      some ("'ascii' codec can't encode characters in position " ++ toString before ++ "-" ++
        toString (before + several.length - 1) ++ ": ordinal not in range(128)")

end Playbook.Yaml.Base64
