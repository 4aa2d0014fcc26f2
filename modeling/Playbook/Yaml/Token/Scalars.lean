import Playbook.Number.Power
import Playbook.Yaml.Token.Words

/-!
# Scalars

Reading of plain, quoted and block scalars. Line ends inside plain and quoted scalars fold: one
reads as a blank, each further one as itself.
-/

namespace Playbook.Yaml

open Playbook.Text

/-- Folds a line end and the further ones after it. -/
def foldBreaks (first breaks : List Char) : List Char :=
  if first ≠ ['\n'] then first ++ breaks
  else if breaks.isEmpty then [' ']
  else breaks

/-- The stretch of a plain scalar at the start of a text. It ends at a gap, at a colon before a
gap and, inside flow collections, at their indicators. -/
def plainStretch (flow : Bool) : List Char → List Char
  | [] => []
  | c :: rest =>
      let next := headChar rest
      let stops := isGap c ||
        (c == ':' && (isGap next || (flow && ",[]\x7b\x7d".toList.contains next))) ||
        (flow && ",?[]\x7b\x7d".toList.contains c)
      if stops then [] else c :: plainStretch flow rest

/-- Blanks and line ends inside a plain scalar; none if a document separator follows. -/
def plainBreaks : Nat → Cursor → Option (List Char) × Cursor
  | 0, cursor => (some [], cursor)
  | fuel + 1, cursor =>
      if cursor.char == ' ' then plainBreaks fuel (cursor.skip 1)
      else if isBreak cursor.char then
        let (lineBreak, after) := cursor.lineBreak
        if isSeparator after.rest then (none, after)
        else
          let (more, last) := plainBreaks fuel after
          (more.map (lineBreak ++ ·), last)
      else (some [], cursor)

/-- What stands between two stretches of a plain scalar. -/
structure PlainGap where
  /-- The characters that the gap reads as; none before a document separator. -/
  chars : Option (List Char)
  /-- Whether the gap holds a line end. -/
  broken : Bool
  cursor : Cursor

/-- Reads a gap of a plain scalar. -/
def scanPlainGap (cursor : Cursor) : PlainGap :=
  let (blanks, after) := cursor.span (· == ' ')
  if isBreak after.char then
    let (first, next) := after.lineBreak
    if isSeparator next.rest then ⟨none, true, next⟩
    else
      let (breaks, last) := plainBreaks (next.rest.length + 1) next
      ⟨breaks.map (foldBreaks first), true, last⟩
  else ⟨some blanks, false, after⟩

/-- A plain scalar: its characters, where it stops, whether a line end follows it, and what is
left. -/
structure PlainScalar where
  chars : List Char
  stop : Position
  broken : Bool
  cursor : Cursor

/-- Goes on with a plain scalar after some characters and a gap. -/
def scanPlainFrom (flow : Bool) (indent : Int) : Nat → PlainScalar → List Char → PlainScalar
  | 0, found, _ => found
  | fuel + 1, found, gap =>
      if found.cursor.char == '#' then found
      else
        let stretch := plainStretch flow found.cursor.rest
        if stretch.isEmpty then found
        else
          let after := found.cursor.skip stretch.length
          let next := scanPlainGap after
          let found := ⟨found.chars ++ gap ++ stretch, after.position, next.broken, next.cursor⟩
          match next.chars with
          | none | some [] => found
          | some gap =>
              if next.cursor.char == '#' || (!flow && (next.cursor.column : Int) < indent) then
                found
              else scanPlainFrom flow indent fuel found gap

/-- A plain scalar inside a block of some indentation. -/
def scanPlain (flow : Bool) (indent : Int) (cursor : Cursor) : PlainScalar :=
  scanPlainFrom flow indent (cursor.rest.length + 1) ⟨[], cursor.position, false, cursor⟩ []

/-- Line ends inside a quoted scalar, with blanks around them. -/
def quotedBreaks : Nat → Cursor → Except Failure (List Char × Cursor)
  | 0, cursor => .ok ([], cursor)
  | fuel + 1, cursor =>
      if isSeparator cursor.rest then cursor.fail .unexpectedSeparator
      else
        let after := (cursor.span fun c => c == ' ' || c == '\t').2
        if isBreak after.char then do
          let (lineBreak, next) := after.lineBreak
          let (more, last) ← quotedBreaks fuel next
          return (lineBreak ++ more, last)
        else .ok ([], after)

/-- Blanks and line ends inside a quoted scalar. -/
def quotedGap (cursor : Cursor) : Except Failure (List Char × Cursor) :=
  let (blanks, after) := cursor.span fun c => c == ' ' || c == '\t'
  if after.char == endChar then after.fail .unexpectedEnd
  else if isBreak after.char then do
    let (first, next) := after.lineBreak
    let (breaks, last) ← quotedBreaks (next.rest.length + 1) next
    return (foldBreaks first breaks, last)
  else .ok (blanks, after)

def escapeReplacement? : Char → Option Nat
  | '0' => some 0x00
  | 'a' => some 0x07
  | 'b' => some 0x08
  | 't' | '\t' => some 0x09
  | 'n' => some 0x0A
  | 'v' => some 0x0B
  | 'f' => some 0x0C
  | 'r' => some 0x0D
  | 'e' => some 0x1B
  | ' ' => some 0x20
  | '"' => some 0x22
  | '\\' => some 0x5C
  | '/' => some 0x2F
  | 'N' => some 0x85
  | '_' => some 0xA0
  | 'L' => some 0x2028
  | 'P' => some 0x2029
  | _ => none

/-- Number of digits of an escape by code. -/
def escapeDigits? : Char → Option Nat
  | 'x' => some 2
  | 'u' => some 4
  | 'U' => some 8
  | _ => none

/-- Value of hexadecimal digits. -/
def hexNumber (digits : List Char) : Nat :=
  digits.foldl (fun value c => value * 16 + (digitOfBase c).getD 0) 0

/-- The character of an escaped code. A surrogate is no character by itself: the replacement
character stands for it. -/
def escapedChar (code : Nat) : Char :=
  Char.ofNat (if 0xD800 ≤ code && code < 0xE000 then 0xFFFD else code)

/-- The escape after a backslash. -/
def scanEscape (cursor : Cursor) : Except Failure (List Char × Cursor) :=
  let c := cursor.char
  match escapeReplacement? c, escapeDigits? c with
  | some code, _ => .ok ([Char.ofNat code], cursor.skip 1)
  | none, some count =>
      let digits := cursor.skip 1
      let bad := ((List.range count).map fun ahead => charAt ahead digits.rest).find?
        fun c => !isHexDigit c
      match bad with
      | some c => digits.fail (.expectedHex "escape sequence" count c)
      | none =>
          let code := hexNumber (digits.rest.take count)
          if code < 0x110000 then .ok ([escapedChar code], digits.skip count)
          else if code < twoTo 31 then
            .error (.fault (.raised "ValueError" "chr() arg not in range(0x110000)"))
          else .error (.fault (.raised "OverflowError" "Python int too large to convert to C int"))
  | none, none =>
      if isBreak c then quotedBreaks (cursor.rest.length + 1) cursor.lineBreak.2
      else cursor.fail (.unknownEscape c)

/-- Characters of a quoted scalar up to the next gap or quote. -/
def quotedStretch (double : Bool) : Nat → Cursor → Except Failure (List Char × Cursor)
  | 0, cursor => .ok ([], cursor)
  | fuel + 1, cursor => do
      let (plain, cursor) := cursor.span fun c =>
        !(c == '\'' || c == '"' || c == '\\' || isGap c)
      let c := cursor.char
      if !double && c == '\'' && charAt 1 cursor.rest == '\'' then
        let (more, last) ← quotedStretch double fuel (cursor.skip 2)
        return (plain ++ '\'' :: more, last)
      else if (double && c == '\'') || (!double && (c == '"' || c == '\\')) then
        let (more, last) ← quotedStretch double fuel (cursor.skip 1)
        return (plain ++ c :: more, last)
      else if double && c == '\\' then
        let (escaped, next) ← scanEscape (cursor.skip 1)
        let (more, last) ← quotedStretch double fuel next
        return (plain ++ escaped ++ more, last)
      else return (plain, cursor)

/-- The rest of a quoted scalar up to its closing quote. -/
def quotedRest (double : Bool) (quote : Char) : Nat → Cursor →
    Except Failure (List Char × Cursor)
  | 0, cursor => .ok ([], cursor)
  | fuel + 1, cursor =>
      if cursor.char == quote then .ok ([], cursor.skip 1)
      else do
        let (gap, cursor) ← quotedGap cursor
        let (stretch, cursor) ← quotedStretch double (cursor.rest.length + 1) cursor
        let (more, last) ← quotedRest double quote fuel cursor
        return (gap ++ stretch ++ more, last)

def scanQuoted (style : ScalarStyle) (cursor : Cursor) : Except Failure (Token × Cursor) := do
  let double := style = .doubleQuoted
  let start := cursor.position
  let quote := cursor.char
  let (first, cursor) ← quotedStretch double (cursor.rest.length + 1) (cursor.skip 1)
  let (rest, cursor) ← quotedRest double quote (cursor.rest.length + 1) cursor
  return (⟨.scalar (String.ofList (first ++ rest)) style, start, cursor.position⟩, cursor)

/-- What happens to the line ends that end a block scalar. -/
inductive Chomping where
  | clip
  | strip
  | keep
deriving DecidableEq

/-- The header of a block scalar: what happens to its last line ends, and its indentation. -/
structure BlockHeader where
  chomping : Chomping
  increment : Option Nat

/-- An indicator of what happens to the last line ends. -/
def chompingOf? : Char → Option Chomping
  | '+' => some .keep
  | '-' => some .strip
  | _ => none

/-- An indentation indicator. -/
def scanIncrement (cursor : Cursor) : Except Failure (Option Nat × Cursor) :=
  let c := cursor.char
  if !isAsciiDigit c then .ok (none, cursor)
  else if c == '0' then cursor.fail .zeroIndent
  else .ok (some (c.toNat - 48), cursor.skip 1)

/-- The indicators of a block scalar, in either order, and the rest of their line. -/
def scanBlockHeader (cursor : Cursor) : Except Failure (BlockHeader × Cursor) := do
  let (header, cursor) ← match chompingOf? cursor.char with
    | some chomping => do
        let (increment, after) ← scanIncrement (cursor.skip 1)
        pure (BlockHeader.mk chomping increment, after)
    | none => do
        let (increment, after) ← scanIncrement cursor
        match increment, chompingOf? after.char with
        | some _, some chomping => pure (⟨chomping, increment⟩, after.skip 1)
        | _, _ => pure (⟨.clip, increment⟩, after)
  if !endsWord cursor.char then cursor.expected "chomping or indentation indicators"
  else return (header, ← skipRestOfLine cursor)

/-- Leading blank lines of a block scalar, and its deepest indentation among them. -/
def blockIndentation : Nat → Nat → Cursor → List Char × Nat × Cursor
  | 0, deepest, cursor => ([], deepest, cursor)
  | fuel + 1, deepest, cursor =>
      if cursor.char == ' ' then
        let next := cursor.skip 1
        blockIndentation fuel (max deepest next.column) next
      else if isBreak cursor.char then
        let (lineBreak, next) := cursor.lineBreak
        let (more, deepest, last) := blockIndentation fuel deepest next
        (lineBreak ++ more, deepest, last)
      else ([], deepest, cursor)

/-- The cursor after at most so many blanks that it stands in a column. -/
def skipIndent (indent : Nat) (cursor : Cursor) : Cursor :=
  let blanks := (cursor.rest.takeWhile (· == ' ')).length
  cursor.skip (min blanks (indent - cursor.column))

/-- Blank lines of a block scalar. -/
def blockBreaks (indent : Nat) : Nat → Cursor → List Char × Cursor
  | 0, cursor => ([], cursor)
  | fuel + 1, cursor =>
      let cursor := skipIndent indent cursor
      if isBreak cursor.char then
        let (lineBreak, next) := cursor.lineBreak
        let (more, last) := blockBreaks indent fuel next
        (lineBreak ++ more, last)
      else ([], cursor)

/-- Lines of a block scalar: its characters, the end of its last line, the blank lines after it
and what is left. -/
structure BlockLines where
  chars : List Char
  lineBreak : List Char
  breaks : List Char
  cursor : Cursor

/-- Whether a block scalar goes on at a cursor. -/
def goesOn (indent : Nat) (cursor : Cursor) : Bool :=
  cursor.column == indent && cursor.char != endChar

/-- Reads lines of a block scalar. -/
def blockLines (folds : Bool) (indent : Nat) : Nat → BlockLines → BlockLines
  | 0, found => found
  | fuel + 1, found =>
      if !goesOn indent found.cursor then found
      else
        let opensFlush := !(found.cursor.char == ' ' || found.cursor.char == '\t')
        let (line, after) := found.cursor.span fun c => !isBreak c
        let (lineBreak, next) := after.lineBreak
        let (breaks, last) := blockBreaks indent (next.rest.length + 1) next
        let chars := found.chars ++ found.breaks ++ line
        if goesOn indent last then
          let joint :=
            if folds && lineBreak == ['\n'] && opensFlush &&
                !(last.char == ' ' || last.char == '\t') then
              if breaks.isEmpty then [' '] else []
            else lineBreak
          blockLines folds indent fuel ⟨chars ++ joint, lineBreak, breaks, last⟩
        else ⟨chars, lineBreak, breaks, last⟩

/-- A block scalar inside a block of some indentation. -/
def scanBlock (style : ScalarStyle) (outer : Int) (cursor : Cursor) :
    Except Failure (Token × Cursor) := do
  let start := cursor.position
  let (header, cursor) ← scanBlockHeader (cursor.skip 1)
  let least : Nat := (max (outer + 1) 1).toNat
  let (indent, breaks, cursor) := match header.increment with
    | some increment =>
        let indent := least + increment - 1
        let (breaks, cursor) := blockBreaks indent (cursor.rest.length + 1) cursor
        (indent, breaks, cursor)
    | none =>
        let (breaks, deepest, cursor) := blockIndentation (cursor.rest.length + 1) 0 cursor
        (max least deepest, breaks, cursor)
  let lines := blockLines (style = .folded) indent (cursor.rest.length + 1) ⟨[], [], breaks, cursor⟩
  let chars := match header.chomping with
    | .strip => lines.chars
    | .clip => lines.chars ++ lines.lineBreak
    | .keep => lines.chars ++ lines.lineBreak ++ lines.breaks
  return (⟨.scalar (String.ofList chars) style, start, lines.cursor.position⟩, lines.cursor)

end Playbook.Yaml
