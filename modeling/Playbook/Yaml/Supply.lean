import Playbook.Text.Portions
import Playbook.Yaml.Document

/-!
# YAML files

The text of a file is read in parts, as far as it is needed. What comes first counts: a problem of
the text, or a part of the file that is no text or holds a character that no YAML text may hold.
-/

namespace Playbook.Yaml

/-- The text in front of the first part that cannot be used, and what is wrong with that part. -/
structure Supply where
  text : List Char
  obstacle : Option Failure

namespace Supply

/-- Number of characters that are read at a time. -/
def partSize : Nat := 4096

/-- A failure in a part, seen from the start of the text. -/
def shifted (offset : Nat) : Failure → Failure
  | .unreadable c index => .unreadable c (offset + index)
  | failure => failure

/-- Puts parts together up to the first that cannot be used. -/
def ofParts (before : List Char) : List (List Char) → Option Fault → Supply
  | [], fault => ⟨before, fault.map .fault⟩
  | part :: rest, fault =>
      match unreadable? part with
      | some failure => ⟨before, some (shifted before.length failure)⟩
      | none => ofParts (before ++ part) rest fault

/-- The supply of a file. Its first two parts are read at once. -/
def ofBytes (bytes : List UInt8) : Supply :=
  match Text.readParts partSize bytes with
  | ([_], some fault) => ⟨[], some (.fault fault)⟩
  | (first :: second :: rest, fault) => ofParts [] ((first ++ second) :: rest) fault
  | (parts, fault) => ofParts [] parts fault

end Supply

/-- How many characters, from the cursor on, a step of scanning asks for. -/
abbrev Lookahead := TokenState → Nat

/-- Asking for one character behind those that are taken, or behind the place of a problem. -/
def Lookahead.least : Lookahead := fun s =>
  match s.step with
  | .ok next => s.cursor.rest.length - next.cursor.rest.length + 1
  | .error (.problem _ place) => place.index - s.cursor.position.index + 1
  | .error _ => 1

namespace TokenState

/-- Whether the next step is done without asking for more than there is of the text. A step that
takes all of it does not know that nothing follows. -/
def staysInside (ahead : Lookahead) (s : TokenState) : Bool :=
  ahead s ≤ s.cursor.rest.length &&
    match s.step with
    | .ok next => !next.cursor.rest.isEmpty
    | .error _ => true

end TokenState

/-- Reads tokens to a failure, or to the obstacle that the text ends at. -/
def tokensBefore (ahead : Lookahead) (obstacle : Failure) : Nat → TokenState → TokenStream
  | 0, s => ⟨s.tokens.toList.take s.settled, some obstacle⟩
  | fuel + 1, s =>
      if s.staysInside ahead then
        match s.step with
        | .ok next => tokensBefore ahead obstacle fuel next
        | .error failure => ⟨s.tokens.toList.take s.settled, some failure⟩
      else ⟨s.tokens.toList.take s.settled, some obstacle⟩

namespace Supply

def tokens (ahead : Lookahead) (supply : Supply) : TokenStream :=
  match supply.obstacle with
  | none => tokensOf supply.text
  | some obstacle =>
      tokensBefore ahead obstacle (supply.text.length + 2) (TokenState.start supply.text)

/-- The documents of a supply, up to the first failure. -/
def stream (ahead : Lookahead) (supply : Supply) : DocumentStream :=
  documentsOf (eventsOf (supply.tokens ahead))

/-- The values of the documents of a supply. -/
def load (ahead : Lookahead) (supply : Supply) : Except Failure (List Value) :=
  valuesOf (supply.stream ahead)

end Supply

end Playbook.Yaml
