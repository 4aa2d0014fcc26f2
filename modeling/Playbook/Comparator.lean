import Playbook.Pattern.Matcher
import Playbook.Pattern.Reader
import Playbook.Range
import Playbook.Text.Case
import Playbook.Value.Entries

/-!
# Comparators

A comparator decides whether an actual value stands in a relation to an expected one. It may
fail: an assertion failure means that the comparison does not hold, any other failure that it
cannot be made. Most comparisons are made on property texts, numbers are compared as numbers.
-/

namespace Playbook

/-- Options of a comparison. -/
abbrev Options := List (Value × Value)

/-- An assertion operator: its name, other names, the verb that messages use, and the
relation. -/
structure Comparator where
  name : String
  aliases : List String := []
  verb : Option String := none
  /-- Whether expected values are ranges, which can be checked before anything is compared. -/
  expectsRange : Bool := false
  relation : Value → Value → Options → Fallible Bool

namespace Comparator

/-- The verb that messages use. -/
def describe (comparator : Comparator) : String :=
  match comparator.verb with
  | some verb => if verb.isEmpty then comparator.name else verb
  | none => comparator.name

def ignoresCase (options : Options) : Bool :=
  ((Value.field? "ignore_case" options).map Value.isTrue).getD false

/-- Property text of a value, folded if case is ignored. -/
def textOf (ignoreCase : Bool) (v : Value) : Except Fault String := do
  let s ← v.stringify
  return if ignoreCase then Text.fold s else s

/-- Equality: numbers by value, everything else by text. An expected star equals all. -/
def equal (ignoreCase : Bool) (actual expected : Value) : Except Fault Bool :=
  match expected with
  | .text "*" => .ok true
  | expected => do
      let actualNumber ← actual.asNumber
      let expectedNumber ← expected.asNumber
      match actualNumber, expectedNumber with
      | some x, some y => return x.eq y
      | _, _ => do
          let left ← textOf ignoreCase actual
          let right ← textOf ignoreCase expected
          return left == right

def anyEqual (ignoreCase : Bool) (expected : Value) : List Value → Except Fault Bool
  | [] => .ok false
  | item :: rest => do
      if ← equal ignoreCase item expected then return true
      else anyEqual ignoreCase expected rest

def textsOf (ignoreCase : Bool) : List Value → Except Fault (List String)
  | [] => .ok []
  | v :: rest => do
      let first ← textOf ignoreCase v
      return first :: (← textsOf ignoreCase rest)

/-- Containment: a key of a mapping, an item of a sequence, a part of a text. -/
def contain (ignoreCase : Bool) (actual expected : Value) : Except Fault Bool :=
  match actual with
  | .map entries => do
      let wanted ← textOf ignoreCase expected
      return (← textsOf ignoreCase (entries.map Prod.fst)).contains wanted
  | .list items | .tuple items | .set items => anyEqual ignoreCase expected items
  | actual => do
      let needle ← textOf ignoreCase expected
      let whole ← textOf ignoreCase actual
      return Text.occursIn needle.toList whole.toList

/-- Fails the assertion on a value that is not a number. -/
def notNumber {α : Type} (v : Value) : Except Fault α := do
  throw (.assertion ("\"" ++ (← v.stringify) ++ "\" is not a number"))

/-- Both sides of a numeric comparison. -/
def numbers (actual expected : Value) : Except Fault (Binary64 × Binary64) := do
  let actualNumber ← actual.asNumber
  let expectedNumber ← expected.asNumber
  match actualNumber, expectedNumber with
  | none, _ => notNumber actual
  | some _, none => notNumber expected
  | some x, some y => return (x, y)

/-- Whether the whole text of a value matches a pattern. -/
def matchWhole (ignoreCase : Bool) (actual expected : Value) : Except Fault Bool := do
  let pattern ← expected.stringify
  let subject ← actual.stringify
  match Pattern.read { ignoreCase := ignoreCase } true pattern with
  | .ok p => return Pattern.matchesWhole p subject
  | .error fault => throw (fault.toFault pattern)

/-- Whether a number lies in one of some ranges. -/
def inRange (actual expected : Value) : Except Fault Bool := do
  match ← actual.asNumber with
  | none => notNumber actual
  | some x => Range.anyContains x (← expected.stringify)

def ofFaults (relation : Value → Value → Options → Except Fault Bool) :
    Value → Value → Options → Fallible Bool :=
  fun actual expected options => (relation actual expected options).mapError .fault

def equals : Comparator where
  name := "equals"
  aliases := ["eq", "equal"]
  verb := some "equal"
  relation := ofFaults fun actual expected options => equal (ignoresCase options) actual expected

/-- Inequality. -/
def notEquals : Comparator where
  name := "notEquals"
  aliases := ["ne", "notEqual"]
  verb := some "differ from"
  relation := ofFaults fun actual expected options => do
    return !(← equal (ignoresCase options) actual expected)

def contains : Comparator where
  name := "contains"
  verb := some "contain"
  relation := ofFaults fun actual expected options => contain (ignoresCase options) actual expected

/-- Lower bound. -/
def greaterThan : Comparator where
  name := "greaterThan"
  aliases := ["gt"]
  verb := some "be greater than"
  relation := ofFaults fun actual expected _ => do
    let (x, y) ← numbers actual expected
    return y.lt x

/-- Upper bound. -/
def lessThan : Comparator where
  name := "lessThan"
  aliases := ["lt"]
  verb := some "be less than"
  relation := ofFaults fun actual expected _ => do
    let (x, y) ← numbers actual expected
    return x.lt y

/-- Pattern match of the whole value. -/
def matchesPattern : Comparator where
  name := "matches"
  aliases := ["regex"]
  verb := some "match"
  relation := ofFaults fun actual expected options =>
    matchWhole (ignoresCase options) actual expected

/-- Membership in ranges. -/
def within : Comparator where
  name := "inRange"
  aliases := ["range"]
  verb := some "be in range"
  expectsRange := true
  relation := ofFaults fun actual expected _ => inRange actual expected

/-- The comparators that are always there. -/
def builtin : List Comparator :=
  [equals, notEquals, contains, greaterThan, lessThan, matchesPattern, within]

end Comparator

end Playbook
