import Playbook.Proofs.Substitution
import Playbook.Value.Plain

/-!
# Plain data

Scalars, lists and mappings with text keys are plain data.  Normalizing leaves them as they are,
and so does replacing placeholders where they have none.
-/

namespace Playbook

namespace Value

mutual

/-- Whether a value consists of scalars, lists and mappings with text keys. -/
def isPlain : Value → Bool
  | .list items => itemsArePlain items
  | .map entries => entriesArePlain entries
  | .tuple _ | .set _ | .foreign .. => false
  | _ => true

def itemsArePlain : List Value → Bool
  | [] => true
  | v :: rest => isPlain v && itemsArePlain rest

def entriesArePlain : List (Value × Value) → Bool
  | [] => true
  | (.text _, v) :: rest => isPlain v && entriesArePlain rest
  | _ => false

end

mutual

theorem normalize_eq_self {v : Value} (plain : v.isPlain = true) : v.normalize = .ok v := by
  cases v with
  | list items =>
      rw [normalize, normalizeItems_eq_self plain]
      rfl
  | map entries =>
      rw [normalize, normalizeEntries_eq_self plain]
      rfl
  | tuple items | set items => cases plain
  | foreign kind shown => cases plain
  | _ => rfl

theorem normalizeItems_eq_self {items : List Value} (plain : itemsArePlain items = true) :
    normalizeItems items = .ok items := by
  cases items with
  | nil => rfl
  | cons v rest =>
      rw [itemsArePlain, Bool.and_eq_true] at plain
      rw [normalizeItems, normalize_eq_self plain.1, normalizeItems_eq_self plain.2]
      rfl

theorem normalizeEntries_eq_self {entries : List (Value × Value)}
    (plain : entriesArePlain entries = true) : normalizeEntries entries = .ok entries := by
  cases entries with
  | nil => rfl
  | cons entry rest =>
      obtain ⟨key, v⟩ := entry
      cases key with
      | text name =>
          rw [entriesArePlain, Bool.and_eq_true] at plain
          rw [normalizeEntries, normalize_eq_self plain.1, normalizeEntries_eq_self plain.2]
          rfl
      | _ => simp [entriesArePlain] at plain

end

mutual

/-- Plain data has no sequences but lists. -/
theorem listed_eq_self {v : Value} (plain : v.isPlain = true) : v.listed = v := by
  cases v with
  | list items => rw [listed, listedItems_eq_self plain]
  | map entries => rw [listed, listedEntries_eq_self plain]
  | tuple items | set items => cases plain
  | _ => rfl

theorem listedItems_eq_self {items : List Value} (plain : itemsArePlain items = true) :
    listedItems items = items := by
  cases items with
  | nil => rfl
  | cons v rest =>
      rw [itemsArePlain, Bool.and_eq_true] at plain
      rw [listedItems, listed_eq_self plain.1, listedItems_eq_self plain.2]

theorem listedEntries_eq_self {entries : List (Value × Value)}
    (plain : entriesArePlain entries = true) : listedEntries entries = entries := by
  cases entries with
  | nil => rfl
  | cons entry rest =>
      obtain ⟨key, v⟩ := entry
      cases key with
      | text name =>
          rw [entriesArePlain, Bool.and_eq_true] at plain
          rw [listedEntries, listed_eq_self plain.1, listedEntries_eq_self plain.2]
      | _ => simp [entriesArePlain] at plain

end

/-! ## What normalizing makes -/

mutual

/-- What a value is normalized to is plain. -/
theorem isPlain_of_normalize {v result : Value} (success : v.normalize = .ok result) :
    result.isPlain = true := by
  cases v with
  | list items | tuple items | set items =>
      obtain ⟨others, each, same⟩ := Fallible.bind_eq_ok_iff.mp success
      cases same
      exact itemsArePlain_of_normalizeItems each
  | map entries =>
      obtain ⟨others, each, same⟩ := Fallible.bind_eq_ok_iff.mp success
      cases same
      exact entriesArePlain_of_normalizeEntries each
  | foreign kind shown => cases success
  | _ =>
      cases success
      rfl

theorem itemsArePlain_of_normalizeItems {items results : List Value}
    (success : normalizeItems items = .ok results) : itemsArePlain results = true := by
  cases items with
  | nil =>
      cases success
      rfl
  | cons v rest =>
      obtain ⟨first, here, success⟩ := Fallible.bind_eq_ok_iff.mp success
      obtain ⟨others, later, same⟩ := Fallible.bind_eq_ok_iff.mp success
      cases same
      rw [itemsArePlain, isPlain_of_normalize here, itemsArePlain_of_normalizeItems later]
      rfl

theorem entriesArePlain_of_normalizeEntries {entries results : List (Value × Value)}
    (success : normalizeEntries entries = .ok results) : entriesArePlain results = true := by
  cases entries with
  | nil =>
      cases success
      rfl
  | cons entry rest =>
      obtain ⟨key, v⟩ := entry
      cases key with
      | text name =>
          obtain ⟨value, here, success⟩ := Fallible.bind_eq_ok_iff.mp success
          obtain ⟨others, later, same⟩ := Fallible.bind_eq_ok_iff.mp success
          cases same
          rw [entriesArePlain, isPlain_of_normalize here,
            entriesArePlain_of_normalizeEntries later]
          rfl
      | _ =>
          obtain ⟨_, _, success⟩ := Fallible.bind_eq_ok_iff.mp success
          cases success

end

/-- A mapping with text keys is plain if its values are. -/
theorem isPlain_record_iff {fields : List (String × Value)} :
    (record fields).isPlain = true ↔ ∀ field ∈ fields, field.2.isPlain = true := by
  change entriesArePlain (fields.map fun field => (.text field.1, field.2)) = true ↔ _
  induction fields with
  | nil => simp [entriesArePlain]
  | cons field rest ih => simp [entriesArePlain, ih]

end Value

/-- Plain data without placeholders stays as it is. -/
theorem PropertySet.resolveValue_eq_self {v : Value} (plain : v.isPlain = true)
    (closed : v.references = []) (properties : PropertySet) (step : Option Int) :
    properties.resolveValue step v = .ok v := by
  rw [resolveValue_of_references_eq_nil closed, Value.listed_eq_self plain]

end Playbook
