import Playbook.Yaml.Cursor

/-!
# Styles of scalars

Which ways of writing a text are open to it. A plain text must not begin or end with a blank
or line end nor hold an indicator; a text in single quotes may hold everything but blanks next
to line ends and characters that need an escape.
-/

namespace Playbook.Yaml

/-- What a text allows: how it may be written in block style. -/
structure Analysis where
  empty : Bool
  multiline : Bool
  plain : Bool
  singleQuoted : Bool
  literal : Bool
deriving DecidableEq, Repr

namespace Analysis

/-- Line ends that a text in single quotes may hold. -/
def isInnerBreak (c : Char) : Bool :=
  c == '\n' || c == Char.ofNat 0x85 || c == Char.ofNat 0x2028 || c == Char.ofNat 0x2029

/-- Characters that can only be written as escapes. -/
def isSpecial (c : Char) : Bool :=
  let code := c.toNat
  let ascii := c == '\n' || (0x20 ≤ code && code ≤ 0x7E)
  let wide := code == 0x85 || (0xA0 ≤ code && code ≤ 0xD7FF) || (0xE000 ≤ code && code ≤ 0xFFFD) ||
    (0x10000 ≤ code && code < 0x10FFFF)
  !(ascii || (wide && code != 0xFEFF))

/-- Characters that open something else than a plain scalar. -/
def isOpening (c : Char) : Bool :=
  "#,[]\x7b\x7d&*!|>'\"%@\x60".toList.contains c

/-- Whether the text that follows a character begins with a gap. -/
def beforeGap : List Char → Bool
  | [] => true
  | c :: _ => isGap c

/-- Whether a text begins with an indicator of block style. -/
def opensIndicator : List Char → Bool
  | [] => false
  | c :: rest => isOpening c || ((c == '?' || c == ':' || c == '-') && beforeGap rest)

/-- Whether a text holds an indicator of block style after its first character. -/
def holdsIndicator : Char → List Char → Bool
  | _, [] => false
  | previous, c :: rest =>
      (c == ':' && beforeGap rest) || (c == '#' && isGap previous) || holdsIndicator c rest

/-- Whether a text reads as the border of a document. -/
def opensBorder : List Char → Bool
  | '-' :: '-' :: '-' :: _ | '.' :: '.' :: '.' :: _ => true
  | _ => false

/-- Whether two neighbours in a text stand in a relation. -/
def anyNeighbours (relation : Char → Char → Bool) : List Char → Bool
  | c :: d :: rest => relation c d || anyNeighbours relation (d :: rest)
  | _ => false

def isSeparating (c : Char) : Bool := c == ' ' || isInnerBreak c

/-- What a text allows. -/
def ofText (cs : List Char) : Analysis :=
  match cs with
  | [] => ⟨true, false, true, true, false⟩
  | first :: rest =>
      let last := (cs.getLast?).getD first
      let multiline := cs.any isInnerBreak
      let indicator := opensBorder cs || opensIndicator cs || holdsIndicator first rest
      let breakSpace := anyNeighbours (fun c d => isInnerBreak c && d == ' ') cs
      let spaceBreak := anyNeighbours (fun c d => c == ' ' && isInnerBreak d) cs
      let special := spaceBreak || cs.any isSpecial
      let bordered := isSeparating first || isSeparating last
      { empty := false
        multiline := multiline
        plain := !(bordered || breakSpace || special || multiline || indicator)
        singleQuoted := !(breakSpace || special)
        literal := !(last == ' ' || special) }

end Analysis

end Playbook.Yaml
