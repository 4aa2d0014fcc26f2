/-!
# Patterns

Patterns for texts: characters and sets of them, anchors, groups, repetitions, alternatives,
references to groups and conditions on what stands around.
-/

namespace Playbook.Pattern

/-- Ways to read a pattern. -/
structure Flags where
  ignoreCase : Bool := false
  multiline : Bool := false
  dotAll : Bool := false
  ascii : Bool := false
  verbose : Bool := false
deriving DecidableEq, Repr, Inhabited

/-- Changes of flags inside a group. -/
structure FlagChange where
  added : Flags := {}
  removed : Flags := {}
  /-- Whether the group asks for characters of all scripts. -/
  allScripts : Bool := false
deriving DecidableEq, Repr, Inhabited

def Flags.change (flags : Flags) (c : FlagChange) : Flags where
  ignoreCase := (flags.ignoreCase || c.added.ignoreCase) && !c.removed.ignoreCase
  multiline := (flags.multiline || c.added.multiline) && !c.removed.multiline
  dotAll := (flags.dotAll || c.added.dotAll) && !c.removed.dotAll
  ascii := (flags.ascii && !c.allScripts) || c.added.ascii
  verbose := (flags.verbose || c.added.verbose) && !c.removed.verbose

/-- Classes of characters. -/
inductive Category where
  | digit
  | space
  | word
deriving DecidableEq, Repr

/-- A member of a set of characters. -/
inductive SetItem where
  | char (code : Nat)
  | range (low high : Nat)
  | category (category : Category) (negated : Bool)
deriving DecidableEq, Repr

/-- Places in a text. -/
inductive Anchor where
  | lineStart
  | lineEnd
  | textStart
  | textEnd
  | wordBoundary
  | noWordBoundary
deriving DecidableEq, Repr

/-- How a repetition chooses its length: as long as possible, as short as possible, or as long
as possible without reconsidering. -/
inductive Greed where
  | greedy
  | lazy
  | possessive
deriving DecidableEq, Repr

/-- A part of a pattern. A sequence of parts matches one after the other. -/
inductive Node where
  | char (code : Nat)
  | anyChar
  | set (negated : Bool) (items : List SetItem)
  | anchor (anchor : Anchor)
  | group (index : Option Nat) (change : FlagChange) (body : List Node)
  | repetition (greed : Greed) (least : Nat) (most : Option Nat) (body : List Node)
  | branch (alternatives : List (List Node))
  | backreference (index : Nat)
  | lookahead (positive : Bool) (body : List Node)
  | lookbehind (positive : Bool) (width : Nat) (body : List Node)
  | conditional (index : Nat) (yes no : List Node)
  | atomic (body : List Node)
deriving Inhabited, Repr

/-- The least and greatest number of characters that something matches; no greatest number
stands for arbitrarily many. -/
structure Width where
  least : Nat
  most : Option Nat
deriving DecidableEq, Repr, Inhabited

/-- Width of one thing after another. -/
def Width.plus (a b : Width) : Width :=
  ⟨a.least + b.least, do return (← a.most) + (← b.most)⟩

/-- Width of one thing or another. -/
def Width.or (a b : Width) : Width :=
  ⟨min a.least b.least, do return max (← a.most) (← b.most)⟩

/-- Width of a repetition. -/
def Width.times (a : Width) (least : Nat) (most : Option Nat) : Width :=
  ⟨a.least * least,
    match most, a.most with
    | none, some 0 => some 0
    | some m, some n => some (n * m)
    | _, _ => none⟩

mutual

/-- Width of a part, given the widths of the groups. -/
def Node.width (groups : Nat → Width) : Node → Width
  | .char _ | .anyChar | .set .. => ⟨1, some 1⟩
  | .anchor _ | .lookahead .. | .lookbehind .. => ⟨0, some 0⟩
  | .group _ _ body | .atomic body => widthOf groups body
  | .repetition _ least most body => (widthOf groups body).times least most
  | .branch alternatives => widthOfAll groups alternatives
  | .backreference index => groups index
  | .conditional _ yes no => (widthOf groups yes).or (widthOf groups no)

/-- Width of a sequence of parts. -/
def widthOf (groups : Nat → Width) : List Node → Width
  | [] => ⟨0, some 0⟩
  | node :: rest => (node.width groups).plus (widthOf groups rest)

/-- Width of alternatives. -/
def widthOfAll (groups : Nat → Width) : List (List Node) → Width
  | [] => ⟨0, some 0⟩
  | [single] => widthOf groups single
  | first :: rest => (widthOf groups first).or (widthOfAll groups rest)

end

mutual

/-- A bound on the steps that a part takes for each character of a text. -/
def Node.weight : Node → Nat
  | .group _ _ body | .atomic body | .lookahead _ body | .lookbehind _ _ body => weightOf body + 2
  | .repetition _ least _ body => (least + 2) * (weightOf body + 2)
  | .branch alternatives => weightOfAll alternatives + 2
  | .conditional _ yes no => weightOf yes + weightOf no + 2
  | _ => 2

/-- Weight of a sequence of parts. -/
def weightOf : List Node → Nat
  | [] => 1
  | node :: rest => node.weight + weightOf rest

/-- Weight of alternatives. -/
def weightOfAll : List (List Node) → Nat
  | [] => 1
  | first :: rest => weightOf first + weightOfAll rest

end

mutual

/-- Whether two parts are the same. -/
def Node.same : Node → Node → Bool
  | .char a, .char b => a == b
  | .anyChar, .anyChar => true
  | .set a items, .set b others => a == b && items == others
  | .anchor a, .anchor b => a == b
  | .group a change body, .group b other nodes => a == b && change == other && sameNodes body nodes
  | .repetition a least most body, .repetition b fewest top nodes =>
      a == b && least == fewest && most == top && sameNodes body nodes
  | .branch parts, .branch others => sameParts parts others
  | .backreference a, .backreference b => a == b
  | .lookahead a body, .lookahead b nodes => a == b && sameNodes body nodes
  | .lookbehind a width body, .lookbehind b length nodes =>
      a == b && width == length && sameNodes body nodes
  | .conditional a yes no, .conditional b left right =>
      a == b && sameNodes yes left && sameNodes no right
  | .atomic body, .atomic nodes => sameNodes body nodes
  | _, _ => false

def sameNodes : List Node → List Node → Bool
  | [], [] => true
  | a :: rest, b :: others => a.same b && sameNodes rest others
  | _, _ => false

def sameParts : List (List Node) → List (List Node) → Bool
  | [], [] => true
  | a :: rest, b :: others => sameNodes a b && sameParts rest others
  | _, _ => false

end

mutual

theorem Node.same_iff (a b : Node) : a.same b = true ↔ a = b := by
  cases a <;> cases b <;>
    simp [Node.same, sameNodes_iff, sameParts_iff, and_assoc]

theorem sameNodes_iff (a b : List Node) : sameNodes a b = true ↔ a = b := by
  cases a <;> cases b <;> simp [sameNodes, Node.same_iff, sameNodes_iff]

theorem sameParts_iff (a b : List (List Node)) : sameParts a b = true ↔ a = b := by
  cases a <;> cases b <;> simp [sameParts, sameNodes_iff, sameParts_iff]

end

instance : DecidableEq Node := fun a b => decidable_of_iff _ (Node.same_iff a b)

end Playbook.Pattern

namespace Playbook

/-- A pattern with the flags it is read with and its number of groups. -/
structure Pattern where
  text : String
  flags : Pattern.Flags
  groups : Nat
  body : List Pattern.Node
deriving DecidableEq, Inhabited, Repr

end Playbook
