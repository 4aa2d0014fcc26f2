import Playbook.Text.Classes
import Playbook.Text.Utf8
import Playbook.Yaml.Cursor
import Playbook.Yaml.Token

/-!
# Directives, anchors, aliases and tags

Reading of the tokens that are made of single words.
-/

namespace Playbook.Yaml

open Playbook.Text

def Cursor.fail {α : Type} (cursor : Cursor) (problem : Problem) : Except Failure α :=
  .error (.problem problem cursor.position)

def Cursor.expected {α : Type} (cursor : Cursor) (what : String) : Except Failure α :=
  cursor.fail (.expected what cursor.char)

def isNameChar (c : Char) : Bool := isAsciiWord c || c == '-'

/-- Characters of tags, escapes included. -/
def isTagChar (c : Char) : Bool :=
  isNameChar c || ";/?:@&=+$,.!~*'()[]%".toList.contains c

/-- Text of digits as a number. -/
def digitsValue (digits : List Char) : Nat :=
  digits.foldl (fun value c => value * 10 + (c.toNat - 48)) 0

/-- A nonempty name. -/
def scanName (cursor : Cursor) : Except Failure (String × Cursor) :=
  let (name, after) := cursor.span isNameChar
  if name.isEmpty then cursor.expected "alphabetic or numeric character"
  else .ok (String.ofList name, after)

/-- Fails unless a comment or the end of the line follows; goes to the next line. -/
def skipRestOfLine (cursor : Cursor) : Except Failure Cursor :=
  let cursor := cursor.skipBlanks
  let cursor := if cursor.char == '#' then cursor.skipLine else cursor
  if endsLine cursor.char then .ok cursor.lineBreak.2
  else cursor.expected "a comment or a line break"

/-- Digits of a version. -/
def scanVersionNumber (cursor : Cursor) : Except Failure (Nat × Cursor) :=
  let (digits, after) := cursor.span isAsciiDigit
  if digits.isEmpty then cursor.expected "a digit" else .ok (digitsValue digits, after)

/-- A version: two numbers with a point between them. -/
def scanVersion (cursor : Cursor) : Except Failure (Directive × Cursor) := do
  let (major, cursor) ← scanVersionNumber cursor.skipBlanks
  if cursor.char != '.' then cursor.expected "a digit or '.'"
  else
    let (minor, cursor) ← scanVersionNumber (cursor.skip 1)
    if endsWord cursor.char then return (.version major minor, cursor)
    else cursor.expected "a digit or ' '"

/-- A tag handle: an exclamation mark, or a name between two of them. -/
def scanTagHandle (cursor : Cursor) : Except Failure (String × Cursor) :=
  if cursor.char != '!' then cursor.expected "'!'"
  else
    let body := cursor.skip 1
    if body.char == ' ' then .ok ("!", body)
    else
      let (name, after) := body.span isNameChar
      if after.char != '!' then after.expected "'!'"
      else .ok (String.ofList ('!' :: name ++ ['!']), after.skip 1)

def scanEscapedBytes : Nat → Cursor → Except Failure (List UInt8 × Cursor)
  | 0, cursor => .ok ([], cursor)
  | fuel + 1, cursor =>
      if cursor.char != '%' then .ok ([], cursor)
      else
        let digits := cursor.skip 1
        let bad := ([0, 1].map fun ahead => charAt ahead digits.rest).find? fun c => !isHexDigit c
        match bad with
        | some c => digits.fail (.expectedHex "URI escape sequence" 2 c)
        | none => do
            let value := ((digitOfBase (charAt 0 digits.rest)).getD 0) * 16 +
              (digitOfBase (charAt 1 digits.rest)).getD 0
            let (bytes, after) ← scanEscapedBytes fuel (digits.skip 2)
            return (UInt8.ofNat value :: bytes, after)

def scanEscapes (cursor : Cursor) : Except Failure (List Char × Cursor) := do
  let (bytes, after) ← scanEscapedBytes (cursor.rest.length + 1) cursor
  match Utf8.decode bytes with
  | .ok s => return (s.toList, after)
  | .error fault => cursor.fail (.undecodable (fault.message "utf-8"))

def scanTagChars : Nat → Cursor → Except Failure (List Char × Cursor)
  | 0, cursor => .ok ([], cursor)
  | fuel + 1, cursor => do
      let (plain, cursor) := cursor.span fun c => isTagChar c && c != '%'
      if cursor.char == '%' then
        let (escaped, cursor) ← scanEscapes cursor
        let (more, cursor) ← scanTagChars fuel cursor
        return (plain ++ escaped ++ more, cursor)
      else return (plain, cursor)

/-- A nonempty tag text. -/
def scanTagUri (cursor : Cursor) : Except Failure (String × Cursor) := do
  if !isTagChar cursor.char then cursor.expected "URI"
  else
    let (cs, after) ← scanTagChars (cursor.rest.length + 1) cursor
    return (String.ofList cs, after)

/-- A declaration of a tag handle. -/
def scanTagDirective (cursor : Cursor) : Except Failure (Directive × Cursor) := do
  let (handle, cursor) ← scanTagHandle cursor.skipBlanks
  if cursor.char != ' ' then cursor.expected "' '"
  else
    let (start, cursor) ← scanTagUri cursor.skipBlanks
    if endsWord cursor.char then return (.tag handle start, cursor)
    else cursor.expected "' '"

/-- A directive and the rest of its line. -/
def scanDirective (cursor : Cursor) : Except Failure (Token × Cursor) := do
  let start := cursor.position
  let (name, afterName) ← scanName (cursor.skip 1)
  if !endsWord afterName.char then afterName.expected "alphabetic or numeric character"
  else
    let (directive, after) ← match name with
      | "YAML" => scanVersion afterName
      | "TAG" => scanTagDirective afterName
      | _ => pure (.other, afterName)
    let stop := after.position
    let after := if directive = .other then after.skipLine else after
    let next ← skipRestOfLine after
    return (⟨.directive directive, start, stop⟩, next)

/-- An anchor or an alias. -/
def scanAnchor (make : String → Token.Kind) (cursor : Cursor) :
    Except Failure (Token × Cursor) := do
  let (name, after) ← scanName (cursor.skip 1)
  if isGap after.char || "?:,]\x7d%@`".toList.contains after.char then
    return (⟨make name, cursor.position, after.position⟩, after)
  else after.expected "alphabetic or numeric character"

/-- Whether an exclamation mark comes before the end of a word. -/
def hasHandle : List Char → Bool
  | [] => false
  | c :: rest => !endsWord c && (c == '!' || hasHandle rest)

def scanTagText (cursor : Cursor) : Except Failure (TagText × Cursor) := do
  let next := charAt 1 cursor.rest
  if next == '<' then
    let (suffix, after) ← scanTagUri (cursor.skip 2)
    if after.char != '>' then after.expected "'>'"
    else return (⟨none, suffix⟩, after.skip 1)
  else if isGap next then return (⟨none, "!"⟩, cursor.skip 1)
  else
    let (handle, after) ←
      if hasHandle (cursor.rest.drop 1) then scanTagHandle cursor else pure ("!", cursor.skip 1)
    let (suffix, after) ← scanTagUri after
    return (⟨some handle, suffix⟩, after)

def scanTag (cursor : Cursor) : Except Failure (Token × Cursor) := do
  let (tag, after) ← scanTagText cursor
  if endsWord after.char then return (⟨.tag tag, cursor.position, after.position⟩, after)
  else after.expected "' '"

end Playbook.Yaml
