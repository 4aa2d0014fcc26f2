import Playbook.Text.Classes

/-!
# Names

The grammars of step kinds, variables and property keys. Each grammar is given twice: as it
holds in documents, where identifiers may go on with letters of any script and a text must
match to its very end, and as a pattern of the first 128 characters, which tolerates one final
line feed.
-/

namespace Playbook.Name

open Playbook.Text

/-- A letter followed by characters of a class. -/
def isNameWith (part : Char → Bool) : List Char → Bool
  | [] => false
  | c :: rest => isAsciiLetter c && rest.all part

/-- A character that is neither a letter nor in the class is not part of a name. -/
theorem not_mem_of_isNameWith {part : Char → Bool} {c : Char} (notLetter : isAsciiLetter c = false)
    (notPart : part c = false) {cs : List Char} (valid : isNameWith part cs = true) : c ∉ cs := by
  intro member
  cases cs with
  | nil => cases member
  | cons first rest =>
      unfold isNameWith at valid
      rw [Bool.and_eq_true, List.all_eq_true] at valid
      rcases List.mem_cons.mp member with rfl | later
      · rw [notLetter] at valid
        cases valid.1
      · rw [valid.2 c later] at notPart
        cases notPart

/-- What precedes the first point of a text, and what follows it. -/
def splitPoint? : List Char → Option (List Char × List Char)
  | [] => none
  | c :: rest =>
      if c = '.' then some ([], rest)
      else (splitPoint? rest).map fun (front, back) => (c :: front, back)

theorem splitPoint?_append {front : List Char} (without : '.' ∉ front) (back : List Char) :
    splitPoint? (front ++ '.' :: back) = some (front, back) := by
  induction front with
  | nil => simp [splitPoint?]
  | cons c rest ih =>
      have other : c ≠ '.' := fun same => without (by simp [same])
      have later : '.' ∉ rest := fun member => without (List.mem_cons_of_mem c member)
      simp [splitPoint?, other, ih later]

theorem splitPoint?_eq_none {cs : List Char} (without : '.' ∉ cs) : splitPoint? cs = none := by
  induction cs with
  | nil => rfl
  | cons c rest ih =>
      have other : c ≠ '.' := fun same => without (by simp [same])
      have later : '.' ∉ rest := fun member => without (List.mem_cons_of_mem c member)
      simp [splitPoint?, other, ih later]

theorem eq_of_splitPoint? {cs front back : List Char}
    (split : splitPoint? cs = some (front, back)) :
    cs = front ++ '.' :: back := by
  induction cs generalizing front with
  | nil => cases split
  | cons c rest ih =>
      unfold splitPoint? at split
      by_cases point : c = '.'
      · rw [if_pos point] at split
        cases split
        rw [point, List.nil_append]
      · rw [if_neg point] at split
        obtain ⟨⟨earlier, later⟩, found, same⟩ := Option.map_eq_some_iff.mp split
        cases same
        exact congrArg (c :: ·) (ih found)

/-- A name, or two names joined by a point. -/
def isKindWith (part : Char → Bool) (cs : List Char) : Bool :=
  match splitPoint? cs with
  | none => isNameWith part cs
  | some (plugin, name) => isNameWith part plugin && isNameWith part name

theorem isKindWith_iff {part : Char → Bool} (point : part '.' = false) {cs : List Char} :
    isKindWith part cs = true ↔ isNameWith part cs = true ∨
      ∃ plugin name, cs = plugin ++ '.' :: name ∧ isNameWith part plugin = true ∧
        isNameWith part name = true := by
  have notLetter : isAsciiLetter '.' = false := by decide
  unfold isKindWith
  constructor
  · cases parts : splitPoint? cs with
    | none => exact .inl
    | some names =>
        intro valid
        obtain ⟨plugin, name⟩ := Bool.and_eq_true_iff.mp valid
        exact .inr ⟨names.1, names.2, eq_of_splitPoint? parts, plugin, name⟩
  · rintro (name | ⟨plugin, name, rfl, isPlugin, isName⟩)
    · rw [splitPoint?_eq_none (not_mem_of_isNameWith notLetter point name)]
      exact name
    · rw [splitPoint?_append (not_mem_of_isNameWith notLetter point isPlugin)]
      exact Bool.and_eq_true_iff.mpr ⟨isPlugin, isName⟩

/-- A nonempty text without blanks, braces, equals signs and colons. -/
def isKeyWith (blank : Char → Bool) (cs : List Char) : Bool :=
  !cs.isEmpty && cs.all fun c =>
    !(blank c || c == '\x7b' || c == '\x7d' || c == '=' || c == ':')

/-- Step kinds in documents. -/
def isKind (cs : List Char) : Bool := isKindWith isIdentifierPart cs

/-- Variables in documents. -/
def isVariable (cs : List Char) : Bool := isNameWith isIdentifierPart cs

theorem point_not_mem_of_isVariable {cs : List Char} (valid : isVariable cs = true) :
    '.' ∉ cs :=
  not_mem_of_isNameWith (by decide) (by decide +kernel) valid

def isPropertyKey (cs : List Char) : Bool := isKeyWith isWhiteSpace cs

/-- The pattern that messages show for kinds. -/
def kindPattern : String := "^([a-zA-Z][\\w]*\\.)?[a-zA-Z][\\w]*$"

/-- The pattern that messages show for variables. -/
def variablePattern : String := "^[a-zA-Z][\\w]*$"

/-- The pattern that messages show for property keys. -/
def propertyKeyPattern : String := "^[^\\s\x7b\x7d=:]+$"

/-- A text without its final line feed. -/
def dropFinalNewline (cs : List Char) : List Char :=
  match cs.getLast? with
  | some '\n' => cs.dropLast
  | _ => cs

/-- A step kind with its optional plugin. -/
structure Kind where
  plugin : Option String
  name : String
deriving DecidableEq, Repr

def matchKind? (cs : List Char) : Option Kind :=
  let body := dropFinalNewline cs
  match splitPoint? body with
  | none => if isNameWith isAsciiWord body then some ⟨none, String.ofList body⟩ else none
  | some (plugin, name) =>
      if isNameWith isAsciiWord plugin && isNameWith isAsciiWord name then
        some ⟨some (String.ofList plugin), String.ofList name⟩
      else none

def matchVariable? (cs : List Char) : Option String :=
  let body := dropFinalNewline cs
  if isNameWith isAsciiWord body then some (String.ofList body) else none

def matchPropertyKey? (cs : List Char) : Option String :=
  let body := dropFinalNewline cs
  if isKeyWith isBlank body then some (String.ofList body) else none

end Playbook.Name
