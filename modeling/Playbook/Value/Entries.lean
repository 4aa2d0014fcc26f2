import Playbook.Ordered
import Playbook.Value.Basic

/-!
# Mappings of values

Mappings compare their keys by `Value.same`, so that `1`, `1.0` and `true` are one key.
-/

namespace Playbook

/-- Keys of mappings are compared by value. -/
instance : BEq Value := ⟨Value.same⟩

namespace Value

/-- The value that a mapping holds under a text key. -/
def field? (name : String) (entries : List (Value × Value)) : Option Value :=
  Ordered.find? (.text name) entries

/-- Whether a mapping has a text key. -/
def hasField (name : String) (entries : List (Value × Value)) : Bool :=
  Ordered.contains (.text name) entries

/-- A mapping with text keys. -/
def record (fields : List (String × Value)) : Value :=
  .map (fields.map fun field => (.text field.1, field.2))

/-- The text that a key is, if it is one. -/
def text? : Value → Option String
  | .text s => some s
  | _ => none

theorem hasField_eq_isSome (name : String) (entries : List (Value × Value)) :
    hasField name entries = (field? name entries).isSome :=
  Ordered.contains_eq_isSome_find? _ entries

theorem beq_text_iff {v : Value} {s : String} : (v == .text s) = true ↔ v = .text s := by
  change same v (.text s) = true ↔ _
  cases v <;> simp [same]

theorem text_beq_iff {v : Value} {s : String} : (.text s == v) = true ↔ v = .text s := by
  change same (.text s) v = true ↔ _
  cases v with
  | text other => simp [same, eq_comm (a := s)]
  | _ => simp [same]

theorem mem_keys_put {key v : Value} {name : String} {entries : List (Value × Value)} :
    key ∈ (Ordered.put (.text name) v entries).map Prod.fst ↔
      key ∈ entries.map Prod.fst ∨ key = .text name := by
  rw [Ordered.keys_put]
  split
  · rename_i present
    obtain ⟨entry, member, same⟩ := List.any_eq_true.mp present
    rw [beq_text_iff] at same
    apply (or_iff_left_of_imp _).symm
    rintro rfl
    rw [← same]
    exact List.mem_map_of_mem member
  · rw [List.mem_append, List.mem_singleton]

@[simp] theorem field?_put_self (name : String) (v : Value) (entries : List (Value × Value)) :
    field? name (Ordered.put (.text name) v entries) = some v := by
  induction entries with
  | nil => simp [field?, Ordered.put, Ordered.find?, beq_text_iff]
  | cons entry rest ih =>
      unfold field? at ih ⊢
      cases same : entry.1 == .text name <;> simp [Ordered.put, Ordered.find?, same, ih]

theorem field?_put_of_ne {name other : String} (distinct : other ≠ name) (v : Value)
    (entries : List (Value × Value)) :
    field? name (Ordered.put (.text other) v entries) = field? name entries := by
  have unequal : (Value.text other == Value.text name) = false := by
    rw [Bool.eq_false_iff]
    simpa [beq_text_iff] using distinct
  induction entries with
  | nil => simp [field?, Ordered.put, Ordered.find?, unequal]
  | cons entry rest ih =>
      obtain ⟨key, held⟩ := entry
      unfold field? at ih ⊢
      cases same : key == .text other with
      | true =>
          have equality : key = .text other := beq_text_iff.mp same
          subst equality
          simp [Ordered.put, Ordered.find?, unequal, same]
      | false => simp [Ordered.put, Ordered.find?, same, ih]

/-- Removing a key leaves the others. -/
theorem field?_erase_of_ne {name : String} {key : Value} (distinct : key ≠ .text name)
    (entries : List (Value × Value)) :
    field? name (Ordered.erase key entries) = field? name entries := by
  induction entries with
  | nil => rfl
  | cons entry rest ih =>
      unfold field? Ordered.erase at ih ⊢
      cases removed : entry.1 == key with
      | true =>
          have other : (entry.1 == .text name) = false := by
            rw [Bool.eq_false_iff]
            intro same
            rw [beq_text_iff.mp same] at removed
            exact distinct (text_beq_iff.mp removed)
          simp [removed, Ordered.find?, other, ih]
      | false => simp [removed, Ordered.find?, ih]

end Value

end Playbook
