import Playbook.Yaml.Problem

/-!
# Walking over a YAML text

A cursor holds what is left of a text and its place. Lines end at line feeds, carriage returns
(one with a following line feed), next-line characters and the two separators. The end of the
text reads as a null character, which cannot stand in a text.
-/

namespace Playbook.Yaml

/-- What is left of a text, and where it begins. -/
structure Cursor where
  rest : List Char
  position : Position
deriving Inhabited

/-- The character that stands for the end of a text. -/
def endChar : Char := Char.ofNat 0

/-- Characters that end a line. -/
def isBreak (c : Char) : Bool :=
  c == '\r' || c == '\n' || c == Char.ofNat 0x85 || c == Char.ofNat 0x2028 || c == Char.ofNat 0x2029

def endsLine (c : Char) : Bool := isBreak c || c == endChar

/-- Blanks, line ends and the end of the text. -/
def endsWord (c : Char) : Bool := endsLine c || c == ' '

/-- Blanks, tabs, line ends and the end of the text. -/
def isGap (c : Char) : Bool := endsWord c || c == '\t'

def charAt (ahead : Nat) (cs : List Char) : Char := (cs[ahead]?).getD endChar

/-- The character at the start. -/
def headChar (cs : List Char) : Char := cs.headD endChar

/-- The place after a character, given the character that follows. -/
def Position.after (p : Position) (c : Char) (next : Char) : Position :=
  if (isBreak c && c != '\r') || (c == '\r' && next != '\n') then ⟨p.index + 1, p.line + 1, 0⟩
  else if c.toNat = 0xFEFF then ⟨p.index + 1, p.line, p.column⟩
  else ⟨p.index + 1, p.line, p.column + 1⟩

/-- The cursor some characters further. -/
def Cursor.skip : Nat → Cursor → Cursor
  | 0, cursor => cursor
  | n + 1, cursor =>
      match cursor.rest with
      | [] => cursor
      | c :: rest => Cursor.skip n ⟨rest, cursor.position.after c (headChar rest)⟩

def Cursor.char (cursor : Cursor) : Char := headChar cursor.rest

def Cursor.column (cursor : Cursor) : Nat := cursor.position.column

/-- The cursor after characters of a class, and those characters. -/
def Cursor.span (test : Char → Bool) (cursor : Cursor) : List Char × Cursor :=
  let taken := cursor.rest.takeWhile test
  (taken, cursor.skip taken.length)

def Cursor.skipBlanks (cursor : Cursor) : Cursor := (cursor.span (· == ' ')).2

def Cursor.skipLine (cursor : Cursor) : Cursor := (cursor.span fun c => !isBreak c).2

/-- Takes a line end, read as a line feed unless it is one of the two separators; nothing if
there is none. -/
def Cursor.lineBreak (cursor : Cursor) : List Char × Cursor :=
  let c := cursor.char
  if c == '\r' && charAt 1 cursor.rest == '\n' then (['\n'], cursor.skip 2)
  else if c == '\r' || c == '\n' || c == Char.ofNat 0x85 then (['\n'], cursor.skip 1)
  else if isBreak c then ([c], cursor.skip 1)
  else ([], cursor)

/-- Whether a document marker made of three characters stands at the start of a text. -/
def isMarker (mark : Char) (cs : List Char) : Bool :=
  match cs with
  | a :: b :: c :: rest => a == mark && b == mark && c == mark && isGap (headChar rest)
  | _ => false

/-- Whether a document begins or ends at the start of a text. -/
def isSeparator (cs : List Char) : Bool := isMarker '-' cs || isMarker '.' cs

end Playbook.Yaml
