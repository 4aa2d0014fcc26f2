import Playbook.Text.Quoted

/-!
# Text from bytes

Decoding of UTF-8. A byte either completes a character, opens or continues a longer one, or
is invalid; the strict reader reports the first invalid place, the lenient one puts the
replacement character there.
-/

namespace Playbook.Text.Utf8

/-- A character of several bytes that is not complete: how many bytes are missing, the bits
read so far and the range that the next byte must lie in. -/
structure Pending where
  missing : Nat
  bits : Nat
  low : Nat
  high : Nat
  seen : Nat

/-- What a byte means. -/
inductive Step where
  | char (c : Char)
  | pending (state : Pending)
  | invalid

/-- Reads the first byte of a character. -/
def start (byte : UInt8) : Step :=
  let b := byte.toNat
  if b < 0x80 then .char (Char.ofNat b)
  else if b < 0xC2 then .invalid
  else if b < 0xE0 then .pending ⟨1, b - 0xC0, 0x80, 0xBF, 1⟩
  else if b < 0xF0 then
    .pending ⟨2, b - 0xE0, if b = 0xE0 then 0xA0 else 0x80, if b = 0xED then 0x9F else 0xBF, 1⟩
  else if b < 0xF5 then
    .pending ⟨3, b - 0xF0, if b = 0xF0 then 0x90 else 0x80, if b = 0xF4 then 0x8F else 0xBF, 1⟩
  else .invalid

/-- Reads a further byte of a character. -/
def Pending.next (state : Pending) (byte : UInt8) : Step :=
  let b := byte.toNat
  if state.low ≤ b && b ≤ state.high then
    let bits := state.bits * 64 + (b - 0x80)
    if state.missing ≤ 1 then .char (Char.ofNat bits)
    else .pending ⟨state.missing - 1, bits, 0x80, 0xBF, state.seen + 1⟩
  else .invalid

/-- The first invalid place of a byte string: position, length, the byte there and the cause. -/
structure Fault where
  position : Nat
  length : Nat
  byte : UInt8
  reason : String
deriving DecidableEq, Repr

/-- Message of a decoding fault under the name of an encoding. -/
def Fault.message (encoding : String) (fault : Fault) : String :=
  let place :=
    if fault.length ≤ 1 then
      "byte 0x" ++ String.ofList (hexDigits 2 fault.byte.toNat) ++ " in position " ++
        toString fault.position
    else
      "bytes in position " ++ toString fault.position ++ "-" ++
        toString (fault.position + fault.length - 1)
  "'" ++ encoding ++ "' codec can't decode " ++ place ++ ": " ++ fault.reason

/-- Decodes strictly; `position` is that of the next byte and `first` the byte that opened the
pending character. -/
def decodeFrom (position : Nat) : Option (Pending × UInt8) → List UInt8 → Except Fault (List Char)
  | none, [] => .ok []
  | some (state, first), [] =>
      .error ⟨position - state.seen, state.seen, first, "unexpected end of data"⟩
  | none, byte :: rest =>
      match start byte with
      | .char c => (decodeFrom (position + 1) none rest).map (c :: ·)
      | .pending state => decodeFrom (position + 1) (some (state, byte)) rest
      | .invalid => .error ⟨position, 1, byte, "invalid start byte"⟩
  | some (state, first), byte :: rest =>
      match state.next byte with
      | .char c => (decodeFrom (position + 1) none rest).map (c :: ·)
      | .pending state => decodeFrom (position + 1) (some (state, first)) rest
      | .invalid => .error ⟨position - state.seen, state.seen, first, "invalid continuation byte"⟩

/-- Decodes the bytes of a portion strictly. The last character may be left incomplete. -/
def decodePart (position : Nat) : Option (Pending × UInt8) → List UInt8 →
    Except Fault (List Char × Option (Pending × UInt8))
  | state, [] => .ok ([], state)
  | none, byte :: rest =>
      match start byte with
      | .char c => (decodePart (position + 1) none rest).map fun (cs, last) => (c :: cs, last)
      | .pending state => decodePart (position + 1) (some (state, byte)) rest
      | .invalid => .error ⟨position, 1, byte, "invalid start byte"⟩
  | some (state, first), byte :: rest =>
      match state.next byte with
      | .char c => (decodePart (position + 1) none rest).map fun (cs, last) => (c :: cs, last)
      | .pending state => decodePart (position + 1) (some (state, first)) rest
      | .invalid => .error ⟨position - state.seen, state.seen, first, "invalid continuation byte"⟩

/-- Number of bytes of a character that is not complete. -/
def openBytes : Option (Pending × UInt8) → Nat
  | none => 0
  | some (state, _) => state.seen

def decode (bytes : List UInt8) : Except Fault String :=
  (decodeFrom 0 none bytes).map String.ofList

/-- The character put in place of invalid bytes. -/
def replacement : Char := Char.ofNat 0xFFFD

def decodeLenientFrom : Option Pending → List UInt8 → List Char
  | none, [] => []
  | some _, [] => [replacement]
  | state, byte :: rest =>
      let fresh (front : List Char) : List Char × Option Pending :=
        match start byte with
        | .char c => (front ++ [c], none)
        | .pending next => (front, some next)
        | .invalid => (front ++ [replacement], none)
      let (front, next) :=
        match state with
        | none => fresh []
        | some pending =>
            match pending.next byte with
            | .char c => ([c], none)
            | .pending next => ([], some next)
            | .invalid => fresh [replacement]
      front ++ decodeLenientFrom next rest

/-- Decodes a byte string, replacing what is invalid. -/
def decodeLenient (bytes : List UInt8) : String :=
  String.ofList (decodeLenientFrom none bytes)

end Playbook.Text.Utf8
