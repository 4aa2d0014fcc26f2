import Playbook.Pattern.Case
import Playbook.Pattern.Tree
import Playbook.Text.Classes

/-!
# Matching patterns

A backtracking matcher. A part of a pattern is tried at a position together with what has to
match after it; alternatives are tried in order, and the first way that lets everything after
it match is taken. A repetition that has matched nothing does not go on.
-/

namespace Playbook.Pattern

open Playbook.Text

/-- Where the groups have matched: start and end by group number, from one on. -/
abbrev Captures := List (Option (Nat × Nat))

/-- A match: where it ends and what the groups hold. -/
abbrev Match := Nat × Captures

/-- The text a pattern is tried on. -/
abbrev Subject := Array Char

/-- Whether a code point is in a class. -/
def Category.holds (ascii : Bool) (c : Char) : Category → Bool
  | .digit => if ascii then isAsciiDigit c else isDigit c
  | .space =>
      if ascii then c == ' ' || (0x09 ≤ c.toNat && c.toNat ≤ 0x0D) else isBlank c
  | .word => if ascii then isAsciiWord c else isWord c

/-- Whether a member of a set holds for a character; with `variants`, for one of the code
points that match it without regard to case. -/
def SetItem.holds (ascii : Bool) (variants : List Nat) (c : Char) : SetItem → Bool
  | .char code => variants.contains code
  | .range low high => variants.any fun v => low ≤ v && v ≤ high
  | .category kind negated => kind.holds ascii c != negated

/-- Code points that count as equal to a character. -/
def variantsOf (flags : Flags) (c : Char) : List Nat :=
  if flags.ignoreCase then caseVariants flags.ascii c.toNat else [c.toNat]

def inSet (flags : Flags) (negated : Bool) (items : List SetItem) (c : Char) : Bool :=
  let subject := if flags.ignoreCase then Char.ofNat (lowerCode flags.ascii c.toNat) else c
  (items.any (SetItem.holds flags.ascii (variantsOf flags c) subject)) != negated

/-- Whether a character is part of a word; positions outside of the text are not. -/
def wordAt (ascii : Bool) (subject : Subject) (position : Nat) : Bool :=
  match subject[position]? with
  | some c => Category.holds ascii c .word
  | none => false

/-- Whether a place in the text is a boundary of a word. -/
def atBoundary (ascii : Bool) (subject : Subject) (position : Nat) : Bool :=
  let before := position ≠ 0 && wordAt ascii subject (position - 1)
  before != wordAt ascii subject position

def Anchor.holds (flags : Flags) (subject : Subject) (position : Nat) : Anchor → Bool
  | .textStart => position == 0
  | .textEnd => position == subject.size
  | .lineStart =>
      position == 0 || (flags.multiline && subject[position - 1]? == some '\n')
  | .lineEnd =>
      position == subject.size ||
        (subject[position]? == some '\n' &&
          (flags.multiline || position + 1 == subject.size))
  | .wordBoundary => subject.size != 0 && atBoundary flags.ascii subject position
  | .noWordBoundary => subject.size != 0 && !atBoundary flags.ascii subject position

/-- Whether the text at a position repeats an earlier stretch; the length of the stretch. -/
def repeats (flags : Flags) (subject : Subject) (first length position : Nat) : Bool :=
  (List.range length).all fun offset =>
    match subject[first + offset]?, subject[position + offset]? with
    | some a, some b =>
        a == b ||
          (flags.ignoreCase && lowerCode flags.ascii a.toNat == lowerCode flags.ascii b.toNat)
    | _, _ => false

/-- Tries one character that passes a test. -/
def oneChar {α : Type} (test : Char → Bool) (subject : Subject) (position : Nat)
    (next : Nat → Option α) : Option α :=
  match subject[position]? with
  | some c => if test c then next (position + 1) else none
  | none => none

mutual

/-- Tries a sequence of parts at a position, then what comes after. The fuel bounds the depth
of the attempt. -/
def attempt (subject : Subject) : Nat → Flags → List Node → Nat → Captures →
    (Nat → Captures → Option Match) → Option Match
  | 0, _, _, _, _, _ => none
  | _ + 1, _, [], position, captures, next => next position captures
  | fuel + 1, flags, node :: rest, position, captures, next =>
      let after (position : Nat) (captures : Captures) : Option Match :=
        attempt subject fuel flags rest position captures next
      match node with
      | .char code =>
          oneChar (fun c => (variantsOf flags c).contains code) subject position
            fun p => after p captures
      | .anyChar =>
          oneChar (fun c => flags.dotAll || c != '\n') subject position fun p => after p captures
      | .set negated items =>
          oneChar (inSet flags negated items) subject position fun p => after p captures
      | .anchor anchor =>
          if anchor.holds flags subject position then after position captures else none
      | .group none change body =>
          attempt subject fuel (flags.change change) body position captures after
      | .group (some index) change body =>
          attempt subject fuel (flags.change change) body position captures fun p inner =>
            after p (inner.set (index - 1) (some (position, p)))
      | .branch alternatives =>
          attemptAny subject fuel flags alternatives position captures after
      | .repetition greed least most body =>
          match greed with
          | .possessive =>
              match attemptFixed subject fuel flags body least most 0 none position captures with
              | some (p, inner) => after p inner
              | none => none
          | greed =>
              attemptRepeated subject fuel flags (greed = .greedy) body least most 0 none
                position captures after
      | .backreference index =>
          match captures[index - 1]? with
          | some (some (first, last)) =>
              if repeats flags subject first (last - first) position then
                after (position + (last - first)) captures
              else none
          | _ => none
      | .lookahead positive body =>
          match attempt subject fuel flags body position captures
              fun p inner => some (p, inner) with
          | some (_, inner) => if positive then after position inner else none
          | none => if positive then none else after position captures
      | .lookbehind positive width body =>
          let found :=
            if position < width then none
            else attempt subject fuel flags body (position - width) captures
              fun p inner => some (p, inner)
          match found with
          | some (_, inner) => if positive then after position inner else none
          | none => if positive then none else after position captures
      | .conditional index yes no =>
          let matched := ((captures[index - 1]?).join).isSome
          attempt subject fuel flags (if matched then yes else no) position captures after
      | .atomic body =>
          match attempt subject fuel flags body position captures
              fun p inner => some (p, inner) with
          | some (p, inner) => after p inner
          | none => none

/-- Tries alternatives in order. -/
def attemptAny (subject : Subject) : Nat → Flags → List (List Node) → Nat → Captures →
    (Nat → Captures → Option Match) → Option Match
  | 0, _, _, _, _, _ => none
  | _ + 1, _, [], _, _, _ => none
  | fuel + 1, flags, first :: rest, position, captures, next =>
      match attempt subject fuel flags first position captures next with
      | some found => some found
      | none => attemptAny subject fuel flags rest position captures next

/-- Tries to repeat a part, `count` times so far; `last` is where the last optional turn
began. -/
def attemptRepeated (subject : Subject) : Nat → Flags → Bool → List Node → Nat → Option Nat →
    Nat → Option Nat → Nat → Captures → (Nat → Captures → Option Match) → Option Match
  | 0, _, _, _, _, _, _, _, _, _, _ => none
  | fuel + 1, flags, greedy, body, least, most, count, last, position, captures, next =>
      if count < least then
        attempt subject fuel flags body position captures fun p inner =>
          attemptRepeated subject fuel flags greedy body least most (count + 1) last p inner next
      else
        let allowed := (match most with
          | some most => count < most
          | none => true) && last != some position
        let again : Unit → Option Match := fun _ =>
          if allowed then
            attempt subject fuel flags body position captures fun p inner =>
              attemptRepeated subject fuel flags greedy body least most (count + 1)
                (some position) p inner next
          else none
        if greedy then
          match again () with
          | some found => some found
          | none => next position captures
        else
          match next position captures with
          | some found => some found
          | none => again ()

/-- Repeats a part as often as possible, taking the first way it matches each time. -/
def attemptFixed (subject : Subject) : Nat → Flags → List Node → Nat → Option Nat → Nat →
    Option Nat → Nat → Captures → Option Match
  | 0, _, _, _, _, _, _, _, _ => none
  | fuel + 1, flags, body, least, most, count, last, position, captures =>
      let allowed := (match most with
        | some most => count < most
        | none => true) && last != some position
      if count < least then
        match attempt subject fuel flags body position captures fun p inner => some (p, inner) with
        | some (p, inner) =>
            attemptFixed subject fuel flags body least most (count + 1) last p inner
        | none => none
      else if allowed then
        match attempt subject fuel flags body position captures fun p inner => some (p, inner) with
        | some (p, inner) =>
            attemptFixed subject fuel flags body least most (count + 1) (some position) p inner
        | none => some (position, captures)
      else some (position, captures)

end

/-- Tries a pattern at the start of a text, with a condition on where the match ends. -/
def tryAtStart (p : Playbook.Pattern) (s : String) (accept : Nat → Bool) : Bool :=
  let subject : Subject := s.toList.toArray
  let fuel := (weightOf p.body + 2) * (subject.size + 2)
  (attempt subject fuel p.flags p.body 0 (List.replicate p.groups none)
    fun position captures => if accept position then some (position, captures) else none).isSome

def matchesWhole (p : Playbook.Pattern) (s : String) : Bool :=
  p.tryAtStart s fun position => position == s.toList.length

/-- Whether a pattern matches at the start of a text. -/
def matchesStart (p : Playbook.Pattern) (s : String) : Bool :=
  p.tryAtStart s fun _ => true

end Playbook.Pattern
