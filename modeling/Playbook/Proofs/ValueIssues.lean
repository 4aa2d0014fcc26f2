import Playbook.Parameter
import Playbook.Proofs.Fallible

/-!
# Issues of values

Issues about the names of parameters come from records.  Reading a value as a type never raises
one of them, however deep the value is: the type has no record in it.
-/

namespace Playbook

/-- Causes that are about the names of parameters. -/
def Issue.Cause.IsOfNames : Issue.Cause → Prop
  | .missing | .extra | .keyNotText | .rule _ => True
  | _ => False

/-- A check that refuses values only. -/
def Checked.OfValues {α : Type} (checked : Checked α) : Prop :=
  ∀ issue, checked = .error issue → ¬issue.cause.IsOfNames

namespace Checked.OfValues

open Fallible

variable {α β : Type}

@[simp] theorem ok (a : α) : OfValues (.ok a) := by
  intro issue failed
  cases failed

@[simp] theorem here_iff {cause : Issue.Cause} :
    OfValues (Issue.here cause : Checked α) ↔ ¬cause.IsOfNames := by
  constructor
  · intro ofValues
    exact ofValues ⟨cause, []⟩ rfl
  · intro ofValue issue failed
    cases failed
    exact ofValue

theorem bind {first : Checked α} {following : α → Checked β} (ofValues : first.OfValues)
    (others : ∀ a, (following a).OfValues) : Checked.OfValues (first >>= following) := by
  intro issue failed
  rcases bind_eq_error_iff.mp failed with refused | ⟨a, _, refused⟩
  · exact ofValues issue refused
  · exact others a issue refused

theorem map {checked : Checked α} (ofValues : checked.OfValues) (f : α → β) :
    Checked.OfValues (checked.map f) := by
  intro issue failed
  exact ofValues issue (map_eq_error_iff.mp failed)

theorem under {checked : Checked α} (ofValues : checked.OfValues) (part : Issue.Part) :
    (checked.at part).OfValues := by
  intro issue failed
  obtain ⟨inner, refused, rfl⟩ := mapError_eq_error_iff.mp failed
  exact ofValues inner refused

end Checked.OfValues

namespace Field

open Issue.Cause Checked

theorem ofValues_text (v : Value) : (text v).OfValues := by
  fun_cases text v <;> simp [IsOfNames]

theorem ofValues_readInteger (cs : List Char) : (readInteger cs).OfValues := by
  fun_cases readInteger cs <;> simp [IsOfNames]

theorem ofValues_integer (v : Value) : (integer v).OfValues := by
  fun_cases integer v
  -- The cause of a number that is not whole depends on whether it is finite.
  case case8 x _ => cases x.isFinite <;> simp [IsOfNames]
  all_goals simp [IsOfNames, ofValues_readInteger]

theorem ofValues_readNumber (cs : List Char) : (readNumber cs).OfValues := by
  fun_cases readNumber cs <;> simp [IsOfNames]

theorem ofValues_number (v : Value) : (number v).OfValues := by
  fun_cases number v <;> simp [IsOfNames, ofValues_readNumber]

theorem ofValues_truthOfInt (n : Int) : (truthOfInt n).OfValues := by
  fun_cases truthOfInt n <;> simp [IsOfNames]

theorem ofValues_truth (v : Value) : (truth v).OfValues := by
  fun_cases truth v <;> simp [IsOfNames, ofValues_truthOfInt]

variable {α : Type} {check : Value → Checked α}

theorem ofValues_itemsFrom (ofValues : ∀ v, (check v).OfValues) (position : Nat)
    (items : List Value) : (itemsFrom check position items).OfValues := by
  induction items generalizing position with
  | nil => exact .ok []
  | cons v rest ih =>
      apply ((ofValues v).under _).bind
      intro first
      apply (ih (position + 1)).bind
      intro others
      exact .ok (first :: others)

theorem ofValues_list (ofValues : ∀ v, (check v).OfValues) (v : Value) :
    (list check v).OfValues := by
  unfold list
  split
  · exact ofValues_itemsFrom ofValues 0 _
  · simp [IsOfNames]

theorem ofValues_entriesWith (ofValues : ∀ v, (check v).OfValues)
    (entries : List (Value × Value)) : (entriesWith text check entries).OfValues := by
  induction entries with
  | nil => exact .ok []
  | cons entry rest ih =>
      apply (((ofValues_text entry.1).under _).under _).bind
      intro key
      apply ((ofValues entry.2).under _).bind
      intro value
      apply ih.bind
      intro others
      exact .ok ((key, value) :: others)

theorem ofValues_mapping (ofValues : ∀ v, (check v).OfValues) (v : Value) :
    (mapping text check v).OfValues := by
  unfold mapping
  split
  · apply (ofValues_entriesWith ofValues _).bind
    intro entries
    exact .ok (Ordered.ofEntries entries)
  · simp [IsOfNames]

theorem ofValues_either {other : Value → Checked α} (ofValues : ∀ v, (check v).OfValues)
    (name : String) (v : Value) : (either name check other v).OfValues := by
  unfold either
  split
  · exact .ok _
  · rename_i issue refused
    split
    · exact .ok _
    · intro outer failed
      cases failed
      exact ofValues v issue refused

end Field

theorem ParameterType.ofValues_read (type : ParameterType) (v : Value) :
    (type.read v).OfValues := by
  induction type generalizing v with
  | any => exact .ok v
  | text => exact (Field.ofValues_text v).map _
  | integer => exact (Field.ofValues_integer v).map _
  | number => exact (Field.ofValues_number v).map _
  | truth => exact (Field.ofValues_truth v).map _
  | listOf item ih => exact (Field.ofValues_list ih v).map _
  | mappingOf item ih => exact (Field.ofValues_mapping ih v).map _
  | either first second ih _ => exact Field.ofValues_either ih first.label v
  | other name reader =>
      unfold read
      split
      · exact .ok _
      · simp [Issue.Cause.IsOfNames]

theorem ParameterField.ofValues_read (field : ParameterField) (v : Value) :
    (field.read v).OfValues := by
  unfold ParameterField.read ParameterType.readOptional
  split
  · split
    · exact .ok Value.null
    · exact field.type.ofValues_read _
  · exact field.type.ofValues_read v

end Playbook
