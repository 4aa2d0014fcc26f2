import Playbook.Fault
import Playbook.Text.Case
import Playbook.Text.Lines
import Playbook.Text.Utf8

/-!
# Encodings of text files

Text files are read under a named encoding. Names count without case, and blanks, dashes and
underscores in them are one.
-/

namespace Playbook.Text

/-- An encoding of texts as bytes. -/
inductive Encoding where
  | utf8
  /-- UTF-8 with an optional mark at the start. -/
  | utf8Marked
  | ascii
  | latin1
  /-- UTF-16 with a mark that tells the order of bytes. -/
  | utf16
  | utf16Ordered (bigEndian : Bool)
deriving DecidableEq, Repr

namespace Encoding

/-- Letters, digits and points of a name, with one underscore for all that stands between
them. -/
def plainName (name : String) : String :=
  let spaced := name.toList.map fun c => if isAsciiWord c && c != '_' || c == '.' then c else ' '
  let words := (splitOnChar ' ' spaced).filter fun word => !word.isEmpty
  lower (join "_" (words.map String.ofList))

def named? (name : String) : Option Encoding :=
  match plainName name with
  | "utf_8" | "utf8" | "u8" | "utf" | "cp65001" | "utf8_ucs2" | "utf8_ucs4" => some .utf8
  | "utf_8_sig" => some .utf8Marked
  | "ascii" | "646" | "ansi_x3.4_1968" | "ansi_x3_4_1968" | "ansi_x3.4_1986" | "cp367" | "csascii"
  | "ibm367" | "iso646_us" | "iso_646.irv_1991" | "iso_ir_6" | "us" | "us_ascii" => some .ascii
  | "latin_1" | "latin1" | "latin" | "l1" | "8859" | "cp819" | "csisolatin1" | "ibm819"
  | "iso8859" | "iso8859_1" | "iso_8859_1" | "iso_8859_1_1987" | "iso_ir_100" => some .latin1
  | "utf_16" | "u16" | "utf16" => some .utf16
  | "utf_16_le" | "unicodelittleunmarked" | "utf_16le" => some (.utf16Ordered false)
  | "utf_16_be" | "unicodebigunmarked" | "utf_16be" => some (.utf16Ordered true)
  | _ => none

/-- Names of encodings that are between bytes, not of texts. -/
def byteEncodings : List String :=
  ["base64", "base_64", "base64_codec", "bz2", "bz2_codec", "hex", "hex_codec", "quopri",
    "quopri_codec", "quoted_printable", "quotedprintable", "rot13", "rot_13", "uu", "uu_codec",
    "zip", "zlib", "zlib_codec"]

/-- The encoding of a name, or the fault of a name that has none. -/
def find (name : String) : Except Fault Encoding :=
  match named? name with
  | some encoding => .ok encoding
  | none =>
      if name.toList.contains (Char.ofNat 0) then
        .error (.raised "ValueError" "embedded null character")
      else if byteEncodings.contains (plainName name) then
        .error (.raised "LookupError" ("'" ++ name ++
          "' is not a text encoding; use codecs.open() to handle arbitrary codecs"))
      else .error (.raised "LookupError" ("unknown encoding: " ++ name))

/-- The fault of bytes that are no text. -/
def undecodable {α : Type} (name : String) (fault : Utf8.Fault) : Except Fault α :=
  .error (.undecodable (fault.message name))

/-- Characters of UTF-8. -/
def decodeUtf8 (bytes : List UInt8) : Except Fault (List Char) :=
  match Utf8.decodeFrom 0 none bytes with
  | .ok cs => .ok cs
  | .error fault => undecodable "utf-8" fault

/-- Characters of the first 128, given the position of the first byte. -/
def decodeAscii : Nat → List UInt8 → Except Fault (List Char)
  | _, [] => .ok []
  | position, byte :: rest =>
      if byte.toNat < 128 then (decodeAscii (position + 1) rest).map (Char.ofNat byte.toNat :: ·)
      else undecodable "ascii" ⟨position, 1, byte, "ordinal not in range(128)"⟩

/-- The unit of two bytes. -/
def unitOf (bigEndian : Bool) (a b : UInt8) : Nat :=
  if bigEndian then a.toNat * 256 + b.toNat else b.toNat * 256 + a.toNat

/-- Characters of 16-bit units, given the position of the first byte. -/
def decodeUnits (bigEndian : Bool) : Nat → List UInt8 → Except Fault (List Char)
  | _, [] => .ok []
  | position, [a] => bad position 1 a "truncated data"
  | position, a :: b :: rest =>
      let unit := unitOf bigEndian a b
      if unit < 0xD800 || 0xE000 ≤ unit then
        (decodeUnits bigEndian (position + 2) rest).map (Char.ofNat unit :: ·)
      else if 0xDC00 ≤ unit then bad position 2 a "illegal encoding"
      else
        match rest with
        | c :: d :: after =>
            let next := unitOf bigEndian c d
            if 0xDC00 ≤ next && next < 0xE000 then
              let code := 0x10000 + (unit - 0xD800) * 0x400 + (next - 0xDC00)
              (decodeUnits bigEndian (position + 4) after).map (Char.ofNat code :: ·)
            else bad position 2 a "illegal UTF-16 surrogate"
        | _ => bad position (2 + rest.length) a "unexpected end of data"
where
  /-- An invalid place. -/
  bad (position length : Nat) (byte : UInt8) (reason : String) : Except Fault (List Char) :=
    undecodable (if bigEndian then "utf-16-be" else "utf-16-le") ⟨position, length, byte, reason⟩

/-- Characters of UTF-16 behind its mark. Complete units without a mark are refused. -/
def decodeMarked : List UInt8 → Except Fault (List Char)
  | [] => .ok []
  | 0xFF :: 0xFE :: rest => decodeUnits false 2 rest
  | 0xFE :: 0xFF :: rest => decodeUnits true 2 rest
  | bytes => do
      let _ ← decodeUnits false 0 bytes
      throw (.raised "UnicodeError" "UTF-16 stream does not start with BOM")

/-- Characters of UTF-8 behind its mark; an incomplete mark is no text. -/
def decodeSigned : List UInt8 → Except Fault (List Char)
  | [0xEF] | [0xEF, 0xBB] => .ok []
  | 0xEF :: 0xBB :: 0xBF :: rest => decodeUtf8 rest
  | bytes => decodeUtf8 bytes

/-- The text of bytes under an encoding, with line ends of every kind read alike. -/
def read (encoding : Encoding) (bytes : List UInt8) : Except Fault String := do
  let cs ← (
    match encoding with
    | .utf8 => decodeUtf8 bytes
    | .utf8Marked => decodeSigned bytes
    | .ascii => decodeAscii 0 bytes
    | .latin1 => .ok (bytes.map fun byte => Char.ofNat byte.toNat)
    | .utf16 => decodeMarked bytes
    | .utf16Ordered bigEndian => decodeUnits bigEndian 0 bytes)
  return String.ofList (unifyLineEnds cs)

end Encoding

end Playbook.Text
