import Playbook.Text.CaseTables

/-!
# Letter case

Lower-casing and case folding of texts. Folding may lengthen a text; lower-casing here maps
each character to one character.
-/

namespace Playbook.Text

/-- Counterpart of a code point in a table of runs, if the table moves it. -/
def caseRun? (runs : List CaseRun) (code : Nat) : Option Nat :=
  (runs.find? fun run =>
    run.first ≤ code && code ≤ run.last && (code - run.first) % run.step == 0).map
      fun run => ((code : Int) + run.offset).toNat

/-- Lower-case counterpart of a character. -/
def lowerChar (c : Char) : Char :=
  if c.toNat < 128 then
    if 'A' ≤ c && c ≤ 'Z' then Char.ofNat (c.toNat + 32) else c
  else Char.ofNat ((caseRun? lowerRuns c.toNat).getD c.toNat)

/-- A text with every character in lower case. -/
def lower (s : String) : String := String.ofList (s.toList.map lowerChar)

/-- Folding of one character for comparisons that ignore case. -/
def foldChar (c : Char) : List Char :=
  if c.toNat < 128 then [lowerChar c]
  else match foldExpansions.find? fun entry => entry.1 == c.toNat with
    | some entry => entry.2.map Char.ofNat
    | none => [Char.ofNat ((caseRun? foldRuns c.toNat).getD c.toNat)]

/-- A text folded for comparisons that ignore case. -/
def fold (s : String) : String := String.ofList (s.toList.flatMap foldChar)

/-- Upper-case counterpart of a text of ASCII letters. -/
def upperAscii (s : String) : String :=
  String.ofList (s.toList.map fun c =>
    if 'a' ≤ c && c ≤ 'z' then Char.ofNat (c.toNat - 32) else c)

end Playbook.Text
