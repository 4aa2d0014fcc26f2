import Mathlib.Data.List.Forall2
import Playbook.Proofs.Fallible
import Playbook.Proofs.LastMembers
import Playbook.Properties

/-!
# What can be exported

An export is accepted or rejected as a whole, whatever the properties are: all its keys must be
property keys, and all its values must have texts.  What is written are these texts, in order.
-/

namespace Playbook

namespace PropertySet

/-- What can be exported: all keys are property keys and all values have texts. -/
structure Exportable (values : List (Value × Value)) : Prop where
  keys : ∀ entry ∈ values, isExportKey entry.1 = true
  texts : ∀ entry ∈ values, ∃ text, entry.2.stringify = .ok text

theorem exists_text_of_isExportKey {key : Value} (isKey : isExportKey key = true) :
    ∃ name, key = .text name := by
  cases key with
  | text name => exact ⟨name, rfl⟩
  | _ => cases isKey

section Texts

variable {values : List (Value × Value)} {layer : Layer}

theorem exportTexts_cons_eq_ok {name : String} {v : Value} :
    exportTexts ((.text name, v) :: values) = .ok layer ↔
      ∃ text others, v.stringify = .ok text ∧ exportTexts values = .ok others ∧
        layer = (name, text) :: others := by
  rw [exportTexts]
  constructor
  · intro success
    obtain ⟨text, shown, success⟩ := Fallible.bind_eq_ok_iff.mp success
    obtain ⟨others, later, success⟩ := Fallible.bind_eq_ok_iff.mp success
    cases success
    exact ⟨text, others, Fallible.mapError_eq_ok_iff.mp shown, later, rfl⟩
  · rintro ⟨text, others, shown, later, rfl⟩
    rw [shown, later]
    rfl

/-- An entry and the text that is stored for it. -/
def ShownAs (entry : Value × Value) (stored : String × String) : Prop :=
  entry.1 = .text stored.1 ∧ entry.2.stringify = .ok stored.2

theorem exportTexts_eq_ok_iff (keys : ∀ entry ∈ values, ∃ name, entry.1 = .text name) :
    exportTexts values = .ok layer ↔ List.Forall₂ ShownAs values layer := by
  induction values generalizing layer with
  | nil =>
      rw [List.forall₂_nil_left_iff]
      constructor
      · intro success
        cases success
        rfl
      · rintro rfl
        rfl
  | cons entry rest ih =>
      obtain ⟨key, v⟩ := entry
      obtain ⟨name, same⟩ := keys _ List.mem_cons_self
      dsimp only at same
      subst same
      have others : ∀ {layer}, exportTexts rest = .ok layer ↔ List.Forall₂ ShownAs rest layer :=
        ih fun entry member => keys entry (List.mem_cons_of_mem _ member)
      rw [exportTexts_cons_eq_ok, List.forall₂_cons_left_iff]
      constructor
      · rintro ⟨text, later, shown, success, rfl⟩
        exact ⟨(name, text), later, ⟨rfl, shown⟩, others.mp success, rfl⟩
      · rintro ⟨⟨stored, text⟩, later, ⟨same, shown⟩, success, rfl⟩
        cases same
        exact ⟨text, later, shown, others.mpr success, rfl⟩

theorem exportLayer_eq_ok_iff :
    exportLayer values = .ok layer ↔
      (∀ entry ∈ values, isExportKey entry.1 = true) ∧ List.Forall₂ ShownAs values layer := by
  unfold exportLayer
  cases refused : values.find? fun entry => !isExportKey entry.1 with
  | some entry =>
      constructor
      · intro success
        cases success
      · rintro ⟨keys, _⟩
        have isKey := keys entry (List.mem_of_find?_eq_some refused)
        have notKey := List.find?_some refused
        rw [isKey] at notKey
        cases notKey
  | none =>
      have keys : ∀ entry ∈ values, isExportKey entry.1 = true := by
        simpa using List.find?_eq_none.mp refused
      rw [and_iff_right keys]
      exact exportTexts_eq_ok_iff fun entry member => exists_text_of_isExportKey (keys entry member)

theorem exists_shown_iff (keys : ∀ entry ∈ values, ∃ name, entry.1 = .text name) :
    (∃ layer, List.Forall₂ ShownAs values layer) ↔
      ∀ entry ∈ values, ∃ text, entry.2.stringify = .ok text := by
  constructor
  · rintro ⟨layer, shown⟩
    clear keys
    induction shown with
    | nil => simp
    | @cons first stored rest others here _ ih =>
        intro entry member
        rcases List.mem_cons.mp member with rfl | later
        · exact ⟨stored.2, here.2⟩
        · exact ih entry later
  · intro texts
    induction values with
    | nil => exact ⟨[], .nil⟩
    | cons entry rest ih =>
        obtain ⟨name, key⟩ := keys entry List.mem_cons_self
        obtain ⟨text, shown⟩ := texts entry List.mem_cons_self
        obtain ⟨layer, others⟩ := ih
          (fun other member => keys other (List.mem_cons_of_mem _ member))
          (fun other member => texts other (List.mem_cons_of_mem _ member))
        exact ⟨(name, text) :: layer, .cons ⟨key, shown⟩ others⟩

/-- Whether an export is accepted does not depend on the properties. -/
theorem exists_exportLayer_iff : (∃ layer, exportLayer values = .ok layer) ↔ Exportable values := by
  constructor
  · rintro ⟨layer, success⟩
    obtain ⟨keys, shown⟩ := exportLayer_eq_ok_iff.mp success
    have texts := fun entry member => exists_text_of_isExportKey (keys entry member)
    exact ⟨keys, (exists_shown_iff texts).mp ⟨layer, shown⟩⟩
  · rintro ⟨keys, texts⟩
    have names := fun entry member => exists_text_of_isExportKey (keys entry member)
    obtain ⟨layer, shown⟩ := (exists_shown_iff names).mpr texts
    exact ⟨layer, exportLayer_eq_ok_iff.mpr ⟨keys, shown⟩⟩

theorem mem_keys_of_shown (shown : List.Forall₂ ShownAs values layer) {key : String} :
    key ∈ layer.map Prod.fst ↔ ∃ v, (.text key, v) ∈ values := by
  induction shown with
  | nil => simp
  | @cons entry stored rest others here _ ih =>
      obtain ⟨k, v⟩ := entry
      obtain ⟨same, _⟩ := here
      dsimp only at same
      subst same
      rw [List.map_cons, List.mem_cons, ih]
      simp [exists_or, eq_comm]

/-- A key that is repeated counts where it is last. -/
theorem find?_reverse_of_shown (shown : List.Forall₂ ShownAs values layer) {key text : String} :
    Ordered.find? key layer.reverse = some text ↔
      ∃ v, IsLast values (fun entry => entry.1 = .text key) (.text key, v) ∧
        v.stringify = .ok text := by
  induction shown with
  | nil =>
      constructor
      · intro found
        cases found
      · rintro ⟨v, last, _⟩
        cases last.mem
  | @cons entry stored rest others here later ih =>
      obtain ⟨k, v⟩ := entry
      obtain ⟨same, shown⟩ := here
      dsimp only at same shown
      subst same
      have absent : Ordered.find? key others.reverse = none ↔
          ∀ other ∈ rest, other.1 ≠ .text key := by
        rw [← Option.not_isSome_iff_eq_none, Ordered.isSome_find?_iff, List.map_reverse,
          List.mem_reverse, mem_keys_of_shown later]
        constructor
        · rintro never ⟨k, v⟩ member rfl
          exact never ⟨v, member⟩
        · rintro never ⟨v, member⟩
          exact never _ member rfl
      rw [List.reverse_cons, Ordered.find?_append, Option.or_eq_some_iff, ih, absent]
      simp only [isLast_cons_iff, or_and_right, exists_or]
      apply or_congr_right
      constructor
      · rintro ⟨never, found⟩
        by_cases equal : stored.1 = key
        · subst equal
          have isText : stored.2 = text := by simpa [Ordered.find?] using found
          exact ⟨v, ⟨rfl, trivial, never⟩, isText ▸ shown⟩
        · simp [Ordered.find?, equal] at found
      · rintro ⟨v, ⟨same, _, never⟩, isText⟩
        cases same
        rw [shown] at isText
        cases isText
        exact ⟨never, by simp [Ordered.find?]⟩

/-- The keys of an export that is accepted. -/
theorem isExportKey_of_exportLayer (success : exportLayer values = .ok layer) :
    ∀ key ∈ layer.map Prod.fst, isExportKey (.text key) = true := by
  obtain ⟨keys, shown⟩ := exportLayer_eq_ok_iff.mp success
  intro key member
  obtain ⟨v, inside⟩ := (mem_keys_of_shown shown).mp member
  exact keys _ inside

theorem matches_of_exportLayer (success : exportLayer values = .ok layer) :
    ∀ entry ∈ layer, (Name.matchPropertyKey? entry.1.toList).isSome = true := by
  intro entry member
  exact isExportKey_of_exportLayer success entry.1 (List.mem_map_of_mem member)

theorem exportTexts_of_exportLayer (success : exportLayer values = .ok layer) :
    exportTexts values = .ok layer := by
  unfold exportLayer at success
  split at success
  · cases success
  · exact success

theorem exists_fault_of_exportTexts {failure : Failure}
    (failed : exportTexts values = .error failure) :
    ∃ fault, failure = .fault fault := by
  induction values with
  | nil => cases failed
  | cons entry rest ih =>
      rcases Fallible.bind_eq_error_iff.mp failed with failed | ⟨text, _, failed⟩
      · obtain ⟨fault, _, same⟩ := Fallible.mapError_eq_error_iff.mp failed
        exact ⟨fault, same.symm⟩
      · rcases Fallible.bind_eq_error_iff.mp failed with failed | ⟨others, _, failed⟩
        · exact ih failed
        · cases failed

/-- An export is rejected for a key only if it has a refused key. -/
theorem exists_refused_of_invalidKey {name : String}
    (failed : exportLayer values = .error (invalidKey (.text name))) :
    ∃ key ∈ values.map Prod.fst, isExportKey key = false := by
  unfold exportLayer at failed
  cases found : values.find? fun entry => !isExportKey entry.1 with
  | some entry =>
      have refused : isExportKey entry.1 = false := by simpa using List.find?_some found
      exact ⟨entry.1, List.mem_map_of_mem (List.mem_of_find?_eq_some found), refused⟩
  | none =>
      rw [found] at failed
      obtain ⟨fault, isFault⟩ := exists_fault_of_exportTexts failed
      cases isFault

/-- An export with refused keys is rejected for one of them. -/
theorem exists_invalidKey_of_refused {key : Value} (member : key ∈ values.map Prod.fst)
    (refused : isExportKey key = false) :
    ∃ first ∈ values.map Prod.fst, isExportKey first = false ∧
      exportLayer values = .error (invalidKey first) := by
  obtain ⟨entry, entryMember, rfl⟩ := List.mem_map.mp member
  unfold exportLayer
  cases found : values.find? fun entry => !isExportKey entry.1 with
  | some first =>
      have firstRefused : isExportKey first.1 = false := by simpa using List.find?_some found
      exact ⟨first.1, List.mem_map_of_mem (List.mem_of_find?_eq_some found), firstRefused, rfl⟩
  | none =>
      have allowed := List.find?_eq_none.mp found entry entryMember
      rw [refused] at allowed
      exact absurd rfl allowed

end Texts

end PropertySet

end Playbook
