import Playbook.Yaml.Style

/-!
# Writing documents in block style

A pen writes a document character by character and knows the column that it stands in. Lines
are folded at blanks behind column 80; a scalar is written plain where that reads back as the
same scalar, else in single quotes, else in double quotes with escapes.
-/

namespace Playbook.Yaml

/-- What has been written, last character first, and where the pen stands: whether it follows
a blank, whether its line holds nothing but indentation and indicators, and whether the
document needs an end marker. -/
structure Pen where
  written : List Char := []
  column : Nat := 0
  afterBlank : Bool := true
  inIndentation : Bool := true
  openEnded : Bool := false

namespace Pen

/-- Column behind which lines are folded. -/
def width : Nat := 80

/-- Writes characters on the line. -/
def put (cs : List Char) (pen : Pen) : Pen :=
  { pen with written := cs.reverse ++ pen.written, column := pen.column + cs.length }

/-- Ends the line with a given character. -/
def breakWith (c : Char) (pen : Pen) : Pen :=
  { pen with written := c :: pen.written, column := 0, afterBlank := true, inIndentation := true }

/-- Ends the line. -/
def newline (pen : Pen) : Pen := pen.breakWith '\n'

/-- Goes to an indentation, on a new line unless the line is still empty up to there. -/
def indent (width : Nat) (pen : Pen) : Pen :=
  let pen :=
    if !pen.inIndentation || pen.column > width || (pen.column == width && !pen.afterBlank) then
      pen.newline
    else pen
  if pen.column < width then
    { (pen.put (List.replicate (width - pen.column) ' ')) with afterBlank := true }
  else pen

/-- Writes an indicator, with a blank in front of it if it needs one. -/
def indicator (text : String) (needsBlank keepsIndentation : Bool) (pen : Pen) : Pen :=
  let cs := if pen.afterBlank || !needsBlank then text.toList else ' ' :: text.toList
  { pen.put cs with
    afterBlank := false
    inIndentation := pen.inIndentation && keepsIndentation
    openEnded := false }

/-- Marks that the line holds text. -/
def onText (pen : Pen) : Pen := { pen with afterBlank := false, inIndentation := false }

/-- A run of characters of one sort. -/
inductive Run where
  | blanks (count : Nat)
  | breaks (cs : List Char)
  | word (cs : List Char)
deriving DecidableEq, Repr

/-- Puts a character in front of runs. -/
def Run.add (c : Char) (runs : List Run) : List Run :=
  if c = ' ' then
    match runs with
    | .blanks count :: rest => .blanks (count + 1) :: rest
    | runs => .blanks 1 :: runs
  else if Analysis.isInnerBreak c then
    match runs with
    | .breaks cs :: rest => .breaks (c :: cs) :: rest
    | runs => .breaks [c] :: runs
  else
    match runs with
    | .word cs :: rest => .word (c :: cs) :: rest
    | runs => .word [c] :: runs

/-- The runs of a text. -/
def runsOf : List Char → List Run
  | [] => []
  | c :: rest => Run.add c (runsOf rest)

/-- Writes line ends: a line feed at the start counts twice. -/
def putBreaks (cs : List Char) (pen : Pen) : Pen :=
  let pen := if cs.head? = some '\n' then pen.newline else pen
  cs.foldl (fun pen c => if c = '\n' then pen.newline else pen.breakWith c) pen

/-- Writes the runs of a text in plain style. -/
def putPlainRuns (margin : Nat) (split : Bool) : List Run → Pen → Pen
  | [], pen => pen
  | .blanks count :: rest, pen =>
      let pen :=
        if count = 1 && pen.column > width && split then (pen.indent margin).onText
        else pen.put (List.replicate count ' ')
      putPlainRuns margin split rest pen
  | .breaks cs :: rest, pen =>
      putPlainRuns margin split rest ((pen.putBreaks cs).indent margin).onText
  | .word cs :: rest, pen => putPlainRuns margin split rest (pen.put cs)

/-- Writes a plain scalar. -/
def putPlain (margin : Nat) (split : Bool) (cs : List Char) (pen : Pen) : Pen :=
  if cs.isEmpty then pen
  else
    let pen := if pen.afterBlank then pen else pen.put [' ']
    putPlainRuns margin split (runsOf cs) pen.onText

/-- Writes the runs of a text in single quotes; blanks at the ends of the text stay. -/
def putQuotedRuns (margin : Nat) (split : Bool) (first : Bool) : List Run → Pen → Pen
  | [], pen => pen
  | .blanks count :: rest, pen =>
      let pen :=
        if count = 1 && pen.column > width && split && !first && !rest.isEmpty then
          pen.indent margin
        else pen.put (List.replicate count ' ')
      putQuotedRuns margin split false rest pen
  | .breaks cs :: rest, pen =>
      putQuotedRuns margin split false rest ((pen.putBreaks cs).indent margin)
  | .word cs :: rest, pen =>
      let doubled := cs.flatMap fun c => if c = '\'' then ['\'', '\''] else [c]
      putQuotedRuns margin split false rest (pen.put doubled)

/-- Writes a scalar in single quotes. -/
def putSingleQuoted (margin : Nat) (split : Bool) (cs : List Char) (pen : Pen) : Pen :=
  (putQuotedRuns margin split true (runsOf cs) (pen.indicator "'" true false)).indicator "'"
    false false

/-- Whether a character stands for itself in double quotes. -/
def isSelf (c : Char) : Bool :=
  let code := c.toNat
  ((0x20 ≤ code && code ≤ 0x7E) || (0xA0 ≤ code && code ≤ 0xD7FF) ||
    (0xE000 ≤ code && code ≤ 0xFFFD)) &&
    !(c == '"' || c == '\\' || code == 0x2028 || code == 0x2029 || code == 0xFEFF)

def escapeLetter? (c : Char) : Option Char :=
  match c.toNat with
  | 0x00 => some '0'
  | 0x07 => some 'a'
  | 0x08 => some 'b'
  | 0x09 => some 't'
  | 0x0A => some 'n'
  | 0x0B => some 'v'
  | 0x0C => some 'f'
  | 0x0D => some 'r'
  | 0x1B => some 'e'
  | 0x22 => some '"'
  | 0x5C => some '\\'
  | 0x85 => some 'N'
  | 0xA0 => some '_'
  | 0x2028 => some 'L'
  | 0x2029 => some 'P'
  | _ => none

def escape (c : Char) : List Char :=
  match escapeLetter? c with
  | some letter => ['\\', letter]
  | none =>
      if c.toNat ≤ 0xFF then '\\' :: 'x' :: Text.hexDigitsUpper 2 c.toNat
      else if c.toNat ≤ 0xFFFF then '\\' :: 'u' :: Text.hexDigitsUpper 4 c.toNat
      else '\\' :: 'U' :: Text.hexDigitsUpper 8 c.toNat

/-- Breaks a line in double quotes; a blank that begins the next line is marked. -/
def fold (margin : Nat) (pending : List Char) (next : Char) (pen : Pen) : Pen :=
  let pen := ((pen.put (pending ++ ['\\'])).indent margin).onText
  if next = ' ' then pen.put ['\\'] else pen

/-- Writes characters in double quotes, given those read but not yet written, last one first.
A line may be folded at a blank or after an escape, but not at the ends of the text. -/
def putEscaped (margin : Nat) (split : Bool) (first : Bool) (pending : List Char) :
    List Char → Pen → Pen
  | [], pen => pen.put pending.reverse
  | c :: rest, pen =>
      if isSelf c then
        let foldable := !first && !rest.isEmpty && (c = ' ' || pending.isEmpty) && split
        if foldable && pen.column + pending.length > width then
          putEscaped margin split false [c] rest (pen.fold margin pending.reverse c)
        else putEscaped margin split false (c :: pending) rest pen
      else
        let pen := (pen.put pending.reverse).put (escape c)
        match rest with
        | next :: _ =>
            if !first && split && pen.column > width + 1 then
              putEscaped margin split false [] rest (pen.fold margin [] next)
            else putEscaped margin split false [] rest pen
        | [] => putEscaped margin split false [] rest pen

/-- Writes a scalar in double quotes. -/
def putDoubleQuoted (margin : Nat) (split : Bool) (cs : List Char) (pen : Pen) : Pen :=
  (putEscaped margin split true [] cs (pen.indicator "\"" true false)).indicator "\"" false false

/-- Writes a scalar line by line. The text must not begin with a blank or line end and must
end with one line feed. -/
def putLiteral (margin : Nat) (cs : List Char) (pen : Pen) : Pen :=
  cs.foldl
    (fun pen c =>
      if c = '\n' then pen.newline
      else
        let pen := if pen.column = 0 then pen.indent margin else pen
        { pen with written := c :: pen.written })
    (pen.indicator "|" true false).newline

end Pen

end Playbook.Yaml
