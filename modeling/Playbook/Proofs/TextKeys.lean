import Mathlib.Data.List.Nodup
import Playbook.Proofs.PlainData
import Playbook.Proofs.PropertyHistory

/-!
# Mappings with text keys

A mapping whose keys are texts is a map from texts, and looking up, writing and selecting are the
same in both.  Where no key is repeated, the order of the entries does not matter to a lookup.
-/

namespace Playbook

namespace Ordered

variable {α β : Type} [BEq α] [LawfulBEq α] {entries others additions : List (α × β)}

theorem find?_perm (distinct : (entries.map Prod.fst).Nodup) (same : entries.Perm others)
    (key : α) : find? key entries = find? key others := by
  have otherDistinct : (others.map Prod.fst).Nodup := (same.map _).nodup_iff.mp distinct
  apply Option.ext
  intro value
  rw [find?_eq_some_iff distinct, find?_eq_some_iff otherDistinct, same.mem_iff]

theorem find?_eq_none_iff {key : α} : find? key entries = none ↔ key ∉ entries.map Prod.fst := by
  rw [← isSome_find?_iff, Option.not_isSome_iff_eq_none]

/-- What is stored hides what was there before. -/
theorem find?_putAll_of_nodup (distinct : (additions.map Prod.fst).Nodup) (key : α)
    (entries : List (α × β)) :
    find? key (putAll entries additions) = (find? key additions).or (find? key entries) := by
  rw [find?_putAll, find?_reverse distinct]

end Ordered

theorem Value.text_beq_text (s t : String) : (Value.text s == Value.text t) = (s == t) := by
  rw [Bool.eq_iff_iff, beq_text_iff, beq_iff_eq, text.injEq]

namespace PropertySet

variable {name : String} {fields : List (String × Value)}

theorem map_fst_keyed (fields : List (String × Value)) :
    (keyed fields).map Prod.fst = (fields.map Prod.fst).map .text := by
  unfold keyed
  rw [List.map_map, List.map_map]
  rfl

theorem mem_keyed_iff {v : Value} : (.text name, v) ∈ keyed fields ↔ (name, v) ∈ fields := by
  unfold keyed
  simp

theorem nodup_keyed_iff :
    ((keyed fields).map Prod.fst).Nodup ↔ (fields.map Prod.fst).Nodup := by
  rw [map_fst_keyed]
  exact List.nodup_map_iff fun _ _ same => Value.text.inj same

theorem field?_keyed (name : String) (fields : List (String × Value)) :
    Value.field? name (keyed fields) = Ordered.find? name fields := by
  unfold Value.field? keyed
  induction fields with
  | nil => rfl
  | cons field rest ih =>
      simp only [List.map_cons, Ordered.find?, Value.text_beq_text, ih]

theorem contains_keyed (name : String) (fields : List (String × Value)) :
    Ordered.contains (.text name) (keyed fields) = Ordered.contains name fields := by
  rw [Ordered.contains_eq_isSome_find?, Ordered.contains_eq_isSome_find?]
  exact congrArg Option.isSome (field?_keyed name fields)

theorem put_keyed (name : String) (v : Value) (fields : List (String × Value)) :
    Ordered.put (.text name) v (keyed fields) = keyed (Ordered.put name v fields) := by
  unfold keyed
  induction fields with
  | nil => rfl
  | cons field rest ih =>
      simp only [List.map_cons, Ordered.put, Value.text_beq_text, ih]
      split <;> rfl

theorem putAll_keyed (fields additions : List (String × Value)) :
    Ordered.putAll (keyed fields) (keyed additions) = keyed (Ordered.putAll fields additions) := by
  induction additions generalizing fields with
  | nil => rfl
  | cons addition rest ih =>
      change Ordered.putAll (Ordered.put (.text addition.1) addition.2 (keyed fields))
        (keyed rest) = _
      rw [put_keyed, ih]
      rfl

theorem filter_keyed (test : Value → Bool) (fields : List (String × Value)) :
    ((keyed fields).filter fun entry => test entry.1) =
      keyed (fields.filter fun field => test (.text field.1)) := by
  unfold keyed
  rw [List.filter_map]
  rfl

/-- Plain mappings have text keys. -/
theorem exists_keyed_of_plain {entries : List (Value × Value)}
    (plain : Value.entriesArePlain entries = true) : ∃ fields, entries = keyed fields := by
  induction entries with
  | nil => exact ⟨[], rfl⟩
  | cons entry rest ih =>
      obtain ⟨key, v⟩ := entry
      cases key with
      | text name =>
          rw [Value.entriesArePlain, Bool.and_eq_true] at plain
          obtain ⟨fields, rfl⟩ := ih plain.2
          exact ⟨(name, v) :: fields, rfl⟩
      | _ => simp [Value.entriesArePlain] at plain

end PropertySet

end Playbook
