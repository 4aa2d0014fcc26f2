import Mathlib.Data.List.Forall2
import Playbook.Proofs.Fallible
import Playbook.Field.Record

/-!
# Fields that are read

A field reads what its mapping holds under its name, or falls back on its default.  A field that
may hold nothing holds nothing if nothing was given, and a mapping is read entry by entry.
-/

namespace Playbook.Field

open Fallible

variable {α β : Type} {entries : List (Value × Value)}

/-- What a field with a default comes to, from what its mapping holds under its name. -/
def Gives (held : Option Value) (check : Value → Checked α) (fallback a : α) : Prop :=
  match held with
  | some v => check v = .ok a
  | none => a = fallback

theorem withDefault_eq_ok_iff {names : List String} {check : Value → Checked α} {fallback a : α} :
    withDefault entries names check fallback = .ok a ↔
      Gives ((lookup? entries names).map Prod.snd) check fallback a := by
  unfold withDefault Gives
  cases lookup? entries names with
  | none =>
      constructor
      · intro success
        exact (Except.ok.inj success).symm
      · rintro rfl
        rfl
  | some found => exact mapError_eq_ok_iff

theorem lookup?_singleton (name : String) :
    (lookup? entries [name]).map Prod.snd = Value.field? name entries := by
  unfold lookup?
  cases Value.field? name entries <;> rfl

theorem withDefault_singleton_eq_ok_iff {name : String} {check : Value → Checked α}
    {fallback a : α} : withDefault entries [name] check fallback = .ok a ↔
      Gives (Value.field? name entries) check fallback a := by
  rw [withDefault_eq_ok_iff, lookup?_singleton]

theorem required_eq_ok_iff {name : String} {check : Value → Checked α} {a : α} :
    required entries [name] check = .ok a ↔
      ∃ v, Value.field? name entries = some v ∧ check v = .ok a := by
  unfold required lookup?
  cases Value.field? name entries with
  | none => simp [lookup?]
  | some v => simp [mapError_eq_ok_iff, Checked.at]

theorem noExtras_eq_ok_iff {used : List String} :
    noExtras used entries = .ok () ↔ ∀ entry ∈ entries, ∃ name ∈ used, text entry.1 = .ok name := by
  induction entries with
  | nil => simp [noExtras]
  | cons entry rest ih =>
      obtain ⟨key, v⟩ := entry
      rw [List.forall_mem_cons, ← ih, noExtras]
      cases text key with
      | error issue => simp
      | ok name =>
          dsimp only
          split
          · rename_i present
            have own : ∃ other ∈ used, (Except.ok name : Checked String) = .ok other :=
              ⟨name, List.contains_iff_mem.mp present, rfl⟩
            exact (and_iff_right own).symm
          · rename_i absent
            apply iff_of_false nofun
            rintro ⟨⟨other, member, same⟩, _⟩
            cases same
            exact absent (List.contains_iff_mem.mpr member)

theorem optional_eq_ok_none_iff {check : Value → Checked α} {v : Value} :
    optional check v = .ok none ↔ v = .null := by
  cases v with
  | null => exact iff_of_true rfl rfl
  | _ =>
      apply iff_of_false _ nofun
      intro success
      obtain ⟨a, _, same⟩ := map_eq_ok_iff.mp success
      cases same

/-! ## Mappings -/

theorem entriesWith_eq_ok_iff {checkKey : Value → Checked α} {check : Value → Checked β}
    {read : List (α × β)} : entriesWith checkKey check entries = .ok read ↔
      List.Forall₂ (fun entry made => checkKey entry.1 = .ok made.1 ∧ check entry.2 = .ok made.2)
        entries read := by
  induction entries generalizing read with
  | nil =>
      rw [List.forall₂_nil_left_iff]
      exact ⟨fun success => (Except.ok.inj success).symm, fun same => same ▸ rfl⟩
  | cons entry rest ih =>
      rw [List.forall₂_cons_left_iff]
      constructor
      · intro success
        obtain ⟨key, keyRead, success⟩ := bind_eq_ok_iff.mp success
        obtain ⟨v, valueRead, success⟩ := bind_eq_ok_iff.mp success
        obtain ⟨others, othersRead, same⟩ := bind_eq_ok_iff.mp success
        exact ⟨(key, v), others,
          ⟨mapError_eq_ok_iff.mp (mapError_eq_ok_iff.mp keyRead), mapError_eq_ok_iff.mp valueRead⟩,
          ih.mp othersRead, (Except.ok.inj same).symm⟩
      · rintro ⟨⟨key, v⟩, others, ⟨keyRead, valueRead⟩, othersRead, rfl⟩
        apply bind_eq_ok_iff.mpr
        refine ⟨key, mapError_eq_ok_iff.mpr (mapError_eq_ok_iff.mpr keyRead), ?_⟩
        apply bind_eq_ok_iff.mpr
        refine ⟨v, mapError_eq_ok_iff.mpr valueRead, ?_⟩
        exact bind_eq_ok_iff.mpr ⟨others, ih.mpr othersRead, rfl⟩

/-- The texts that keys are read as. -/
def keyNames (entries : List (Value × Value)) : List String :=
  entries.filterMap fun entry => (text entry.1).toOption

theorem keyNames_of_forall₂ {check : Value → Checked β} {read : List (String × β)}
    (made : List.Forall₂ (fun entry made => text entry.1 = .ok made.1 ∧ check entry.2 = .ok made.2)
      entries read) : keyNames entries = read.map Prod.fst := by
  induction made with
  | nil => rfl
  | cons here _ ih =>
      unfold keyNames at ih ⊢
      rw [List.filterMap_cons, here.1, ih]
      rfl

theorem mem_keyNames_iff {name : String} :
    name ∈ keyNames entries ↔ ∃ entry ∈ entries, text entry.1 = .ok name := by
  unfold keyNames
  rw [List.mem_filterMap]
  simp only [toOption_eq_some_iff]

/-- The names of what is read from a mapping are the texts of its keys. -/
theorem mem_names_of_mapping {check : Value → Checked β} {read : List (String × β)}
    (success : mapping text check (.map entries) = .ok read) {name : String} :
    name ∈ read.map Prod.fst ↔ name ∈ keyNames entries := by
  obtain ⟨made, madeOf, same⟩ := bind_eq_ok_iff.mp success
  cases same
  rw [keyNames_of_forall₂ (entriesWith_eq_ok_iff.mp madeOf), Ordered.ofEntries,
    Ordered.mem_keys_putAll]
  simp

theorem mapping_eq_ok_nil_iff {checkKey : Value → Checked String} {check : Value → Checked β}
    {v : Value} : mapping checkKey check v = .ok [] ↔ v = .map [] := by
  cases v with
  | map entries =>
      cases entries with
      | nil => exact iff_of_true rfl rfl
      | cons entry rest =>
          apply iff_of_false _ nofun
          intro success
          obtain ⟨made, madeOf, same⟩ := bind_eq_ok_iff.mp success
          obtain ⟨first, others, _, _, rfl⟩ :=
            List.forall₂_cons_left_iff.mp (entriesWith_eq_ok_iff.mp madeOf)
          have key : first.1 ∈ (Ordered.ofEntries (first :: others)).map Prod.fst :=
            Ordered.mem_keys_putAll.mpr (.inl List.mem_cons_self)
          rw [Except.ok.inj same] at key
          cases key
  | _ => exact iff_of_false nofun nofun

end Playbook.Field
