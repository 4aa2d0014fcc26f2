import Playbook.Proofs.Fallible
import Playbook.Value.Plain

/-!
# Values with a property text

A value has a property text if its integers are not too long and the keys of its mappings are of
the kinds that JSON has keys for.  Sets have no JSON form of their own; they are shown by their
literal, to which only the length of integers matters.
-/

namespace Playbook

open Fallible

/-- Whether an integer is written. -/
def Numeral.isShort (n : Int) : Bool := n.natAbs < tenTo digitLimit

theorem succeeds_intText_iff {n : Int} : Succeeds (intText n) ↔ Numeral.isShort n = true := by
  unfold intText Numeral.intText? Numeral.isShort
  by_cases short : n.natAbs < tenTo Numeral.digitLimit <;> simp [short]

namespace Value

mutual

/-- Whether all integers of a value, at any depth, are short. -/
def isShown : Value → Bool
  | .int n => Numeral.isShort n
  | .list items | .tuple items | .set items => itemsAreShown items
  | .map entries => entriesAreShown entries
  | _ => true

def itemsAreShown : List Value → Bool
  | [] => true
  | v :: rest => isShown v && itemsAreShown rest

def entriesAreShown : List (Value × Value) → Bool
  | [] => true
  | (key, v) :: rest => isShown key && isShown v && entriesAreShown rest

end

mutual

theorem succeeds_literal_iff (v : Value) : Succeeds v.literal ↔ v.isShown = true := by
  cases v with
  | int n =>
      rw [literal, isShown]
      exact succeeds_intText_iff
  | list items =>
      rw [literal, succeeds_bind_iff_left fun _ => succeeds_pure _]
      exact succeeds_literals_iff items
  | tuple items =>
      rw [literal, succeeds_bind_iff_left]
      · exact succeeds_literals_iff items
      · intro texts
        split <;> exact succeeds_pure _
  | set items =>
      rw [literal, succeeds_bind_iff_left]
      · exact succeeds_literals_iff items
      · intro texts
        split <;> exact succeeds_pure _
  | map entries =>
      rw [literal, succeeds_bind_iff_left fun _ => succeeds_pure _]
      exact succeeds_entryLiterals_iff entries
  | _ => simp [literal, isShown]

theorem succeeds_literals_iff (items : List Value) :
    Succeeds (literals items) ↔ itemsAreShown items = true := by
  cases items with
  | nil => simp [literals, itemsAreShown]
  | cons v rest =>
      rw [literals, itemsAreShown, Bool.and_eq_true, ← succeeds_literal_iff v,
        ← succeeds_literals_iff rest]
      apply succeeds_bind_iff_and
      intro first _
      exact succeeds_bind_iff_left fun _ => succeeds_pure _

theorem succeeds_entryLiterals_iff (entries : List (Value × Value)) :
    Succeeds (entryLiterals entries) ↔ entriesAreShown entries = true := by
  cases entries with
  | nil => simp [entryLiterals, entriesAreShown]
  | cons entry rest =>
      obtain ⟨key, v⟩ := entry
      rw [entryLiterals, entriesAreShown, Bool.and_eq_true, Bool.and_eq_true, and_assoc,
        ← succeeds_literal_iff key, ← succeeds_literal_iff v, ← succeeds_entryLiterals_iff rest]
      apply succeeds_bind_iff_and
      intro shownKey _
      apply succeeds_bind_iff_and
      intro shown _
      exact succeeds_bind_iff_left fun _ => succeeds_pure _

end

/-- Whether JSON has keys for a value: texts, and null, truth values and numbers as texts. -/
def isJsonKey : Value → Bool
  | .text _ | .float _ | .bool _ | .null => true
  | .int n => Numeral.isShort n
  | _ => false

mutual

/-- Whether a value has a JSON text, and so a property text. -/
def isWritable : Value → Bool
  | .int n => Numeral.isShort n
  | .list items | .tuple items => itemsAreWritable items
  | .set items => itemsAreShown items
  | .map entries => entriesAreWritable entries
  | _ => true

def itemsAreWritable : List Value → Bool
  | [] => true
  | v :: rest => isWritable v && itemsAreWritable rest

def entriesAreWritable : List (Value × Value) → Bool
  | [] => true
  | (key, v) :: rest => isJsonKey key && isWritable v && entriesAreWritable rest

end

end Value

namespace Json

open Value

theorem succeeds_keyText_iff (key : Value) : Succeeds (keyText key) ↔ key.isJsonKey = true := by
  cases key with
  | int n =>
      rw [keyText, isJsonKey]
      exact succeeds_intText_iff
  | _ => simp [keyText, isJsonKey]

mutual

theorem succeeds_write_iff (v : Value) : Succeeds (write v) ↔ v.isWritable = true := by
  cases v with
  | int n =>
      rw [write, succeeds_bind_iff_left fun _ => succeeds_pure _]
      exact succeeds_intText_iff
  | list items | tuple items =>
      rw [write, succeeds_bind_iff_left fun _ => succeeds_pure _]
      exact succeeds_writeItems_iff items
  | set items =>
      simp only [write]
      rw [succeeds_bind_iff_left fun _ => succeeds_pure _]
      exact succeeds_literal_iff (.set items)
  | map entries =>
      rw [write, succeeds_bind_iff_left fun _ => succeeds_pure _]
      exact succeeds_writeEntries_iff entries
  | null | bool b | float x | text s => simp [write, isWritable]
  | bytes b | date d | datetime t | duration d | foreign kind shown =>
      simp only [write]
      rw [succeeds_bind_iff_left fun _ => succeeds_pure _]
      simp [plainText, literal, isWritable]

theorem succeeds_writeItems_iff (items : List Value) :
    Succeeds (writeItems items) ↔ itemsAreWritable items = true := by
  match items with
  | [] => simp [writeItems, itemsAreWritable]
  | [v] =>
      rw [writeItems, succeeds_write_iff v]
      simp [itemsAreWritable]
  | v :: next :: rest =>
      rw [writeItems, itemsAreWritable, Bool.and_eq_true, ← succeeds_write_iff v,
        ← succeeds_writeItems_iff (next :: rest)]
      · apply succeeds_bind_iff_and
        intro first _
        exact succeeds_bind_iff_left fun _ => succeeds_pure _
      · exact List.cons_ne_nil _ _

theorem succeeds_writeEntries_iff (entries : List (Value × Value)) :
    Succeeds (writeEntries entries) ↔ entriesAreWritable entries = true := by
  match entries with
  | [] => simp [writeEntries, entriesAreWritable]
  | [(key, v)] =>
      rw [writeEntries, entriesAreWritable, Bool.and_eq_true, Bool.and_eq_true, and_assoc,
        ← succeeds_keyText_iff key, ← succeeds_write_iff v]
      apply succeeds_bind_iff_and
      intro name _
      rw [succeeds_bind_iff_left fun _ => succeeds_pure _]
      simp [entriesAreWritable]
  | (key, v) :: next :: rest =>
      rw [writeEntries, entriesAreWritable, Bool.and_eq_true, Bool.and_eq_true, and_assoc,
        ← succeeds_keyText_iff key, ← succeeds_write_iff v,
        ← succeeds_writeEntries_iff (next :: rest)]
      · apply succeeds_bind_iff_and
        intro name _
        apply succeeds_bind_iff_and
        intro written _
        exact succeeds_bind_iff_left fun _ => succeeds_pure _
      · exact List.cons_ne_nil _ _

end

end Json

namespace Value

/-- A value has a property text if and only if it is writable. -/
theorem succeeds_stringify_iff (v : Value) : Succeeds v.stringify ↔ v.isWritable = true := by
  have json : Succeeds (Json.text v) ↔ v.isWritable = true := by
    unfold Json.text
    rw [succeeds_bind_iff_left fun _ => succeeds_pure _]
    exact Json.succeeds_write_iff v
  cases v with
  | int n =>
      simp only [stringify, plainText, literal, isWritable]
      exact succeeds_intText_iff
  | list items | tuple items | set items | map entries => exact json
  | _ => simp [stringify, plainText, literal, isWritable]

end Value

end Playbook
