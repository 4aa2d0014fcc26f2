import Playbook.Proofs.JsonReading
import Playbook.Proofs.Operands

/-!
# Reading values as items

A sequence is read as its items, a text that is a JSON array as the items of the array, and any
other value as its own only item.  Reading fails on no other texts than those that open a list and
go on like JSON as far as an integer beyond the limit of digits, whether or not the rest is JSON.
-/

namespace Playbook

open Fallible

namespace Json

/-- A text is JSON for a value, however many digits its integers have. -/
def IsText (s : String) (v : Value) : Prop := SpellsWhole (fun _ => True) v s.toList

/-- Behind blanks a text opens a list, and it goes on like JSON as far as an integer with that many
digits, which are beyond the limit. -/
def IsListCutOff (s : String) (digits : Nat) : Prop :=
  ∃ before cs, AreSpaces before ∧ s.toList = before ++ '[' :: cs ∧
    CutOff InLimit digits ('[' :: cs)

variable {s : String} {before cs : List Char} {digits : Nat}

theorem isBlank_of_isSpace {c : Char} (space : isSpace c = true) : Text.isBlank c = true := by
  simp only [isSpace, Bool.or_eq_true, beq_iff_eq] at space
  rcases space with ((rfl | rfl) | rfl) | rfl <;> rfl

/-- Whether a text opens a list is told by what stands behind its blanks. -/
theorem opensList_eq (same : s.toList = before ++ cs) (spaces : AreSpaces before)
    (stops : ∀ c ∈ cs.head?, Text.isBlank c = false) :
    Value.opensList s = (cs.head? == some '[') := by
  unfold Value.opensList
  rw [same, Text.dropWhile_append_of_stop (fun c member => isBlank_of_isSpace (spaces c member))
    stops]

theorem not_isBlank_of_beginsWithDigit (begins : BeginsWithDigit cs) :
    ∀ c ∈ cs.head?, Text.isBlank c = false := by
  obtain ⟨c, others, rfl, digit⟩ := begins
  rintro _ ⟨⟩
  simp only [Text.isAsciiDigit, Bool.and_eq_true, decide_eq_true_eq] at digit
  have bounds : 48 ≤ c.toNat ∧ c.toNat ≤ 57 := digit
  simp only [Text.isBlank, Bool.or_eq_false_iff, Bool.and_eq_false_iff, beq_eq_false_iff_ne,
    decide_eq_false_iff_not]
  omega

theorem CutOff.not_isBlank (cutOff : CutOff InLimit digits cs) :
    ∀ c ∈ cs.head?, Text.isBlank c = false := by
  cases cutOff with
  | number cutOff => exact not_isBlank_of_beginsWithDigit cutOff.beginsWithDigit
  | _ =>
      rintro _ ⟨⟩
      rfl

/-- A text that opens a list is cut off exactly if reading it meets an integer that is too long. -/
theorem isListCutOff_iff :
    IsListCutOff s digits ↔
      Value.opensList s = true ∧ read s = .error (.integerTooLong digits) := by
  rw [read_eq_tooLong_iff]
  constructor
  · rintro ⟨before, cs, spaces, same, cutOff⟩
    refine ⟨?_, ?_⟩
    · rw [opensList_eq same spaces cutOff.not_isBlank]
      rfl
    · rw [same]
      exact .behind spaces cutOff
  · generalize same : s.toList = whole
    rintro ⟨opens, spaces, cutOff⟩
    rename_i before cs
    rw [opensList_eq same spaces cutOff.not_isBlank, beq_iff_eq] at opens
    obtain ⟨others, rfl⟩ := List.head?_eq_some_iff.mp opens
    exact ⟨before, others, spaces, same, cutOff⟩

theorem Spells.opens_list {allowed : Nat → Prop} {items : List Value}
    (spells : Spells allowed (.list items) cs) : ∃ others, cs = '[' :: others := by
  cases spells with
  | word spelled => cases spelled
  | number spelled | negative spelled => cases spelled
  | emptyList _ => exact ⟨_, rfl⟩
  | list _ _ => exact ⟨_, rfl⟩

theorem opensList_of_isText {items : List Value} (isText : IsText s (.list items)) :
    Value.opensList s = true := by
  unfold IsText at isText
  generalize same : s.toList = whole at isText
  obtain ⟨spaces, spells, _⟩ := isText
  obtain ⟨others, rfl⟩ := spells.opens_list
  rw [opensList_eq same spaces (by rintro _ ⟨⟩; rfl)]
  rfl

/-- JSON is read, or it is cut off. -/
theorem IsText.read_or_cutOff {v : Value} (isText : IsText s v) :
    read s = .ok v ∨ ∃ digits, read s = .error (.integerTooLong digits) := by
  simp only [read_eq_ok_iff, read_eq_tooLong_iff]
  unfold IsText at isText
  generalize s.toList = whole at isText
  obtain ⟨beforeSpaces, spells, behindSpaces⟩ := isText
  rcases spells.bounded_or_cutOff behindSpaces.endsNumber with spells | ⟨digits, cutOff⟩
  · exact .inl (.around beforeSpaces spells behindSpaces)
  · exact .inr ⟨digits, .behind beforeSpaces cutOff⟩

theorem isText_of_read {v : Value} (success : read s = .ok v) : IsText s v := by
  have spells := read_eq_ok_iff.mp success
  unfold IsText
  generalize s.toList = whole at spells ⊢
  obtain ⟨beforeSpaces, spells, behindSpaces⟩ := spells
  exact .around beforeSpaces (spells.mono fun _ _ => trivial) behindSpaces

end Json

namespace Value

/-- The items of a value: those of a sequence, those of a JSON array in a text, and otherwise the
value itself as the only one. -/
inductive HasItems : Value → List Value → Prop where
  | sequence {v : Value} {items : List Value} : v.items? = some items → HasItems v items
  | array {s : String} {items : List Value} : Json.IsText s (.list items) → HasItems (.text s) items
  | single {v : Value} :
      v.items? = none → (∀ s items, v = .text s → ¬Json.IsText s (.list items)) → HasItems v [v]

theorem asItems_of_hasItems {v : Value} {items : List Value} (has : v.HasItems items)
    (readable : ∀ s digits, v = .text s → ¬Json.IsListCutOff s digits) :
    v.asItems = .ok items := by
  cases has with
  | @sequence v items sequence =>
      cases v with
      | list | tuple | set =>
          cases sequence
          rfl
      | _ => cases sequence
  | @array s items isText =>
      have opens := Json.opensList_of_isText isText
      rcases isText.read_or_cutOff with read | ⟨digits, tooLong⟩
      · rw [asItems_text, if_pos opens, read]
      · exact absurd (Json.isListCutOff_iff.mpr ⟨opens, tooLong⟩) (readable s digits rfl)
  | single noItems noArray =>
      cases v with
      | list | tuple | set => cases noItems
      | text s =>
          rw [asItems_text]
          split
          · rename_i opens
            split
            · rename_i items read
              exact absurd (Json.isText_of_read read) (noArray s items rfl)
            · rename_i digits tooLong
              exact absurd (Json.isListCutOff_iff.mpr ⟨opens, tooLong⟩) (readable s digits rfl)
            · rfl
          · rfl
      | _ => rfl

theorem asItems_eq_error_iff {v : Value} {fault : Fault} :
    v.asItems = .error fault ↔
      ∃ s digits, v = .text s ∧ Json.IsListCutOff s digits ∧ fault = .digitsRead digits := by
  simp only [Json.isListCutOff_iff]
  constructor
  · intro failure
    cases v with
    | text s =>
        rw [asItems_text] at failure
        split at failure
        · rename_i opens
          split at failure
          · cases failure
          · rename_i digits tooLong
            cases failure
            exact ⟨s, digits, rfl, ⟨opens, tooLong⟩, rfl⟩
          · cases failure
        · cases failure
    | _ => cases failure
  · rintro ⟨s, digits, rfl, ⟨opens, tooLong⟩, rfl⟩
    rw [asItems_text, if_pos opens, tooLong]

theorem exists_hasItems (v : Value) : ∃ items, v.HasItems items := by
  cases sequence : v.items? with
  | some items => exact ⟨items, .sequence sequence⟩
  | none =>
      by_cases array : ∃ s items, v = .text s ∧ Json.IsText s (.list items)
      · obtain ⟨s, items, rfl, isText⟩ := array
        exact ⟨items, .array isText⟩
      · refine ⟨[v], .single sequence ?_⟩
        rintro s items rfl isText
        exact array ⟨s, items, rfl, isText⟩

/-- Every value has items, and it is read as them, unless it is a text of a list that goes on like
JSON as far as an integer that is too long: reading such a text fails on that integer. -/
theorem asItems_reads_unless_cutOff (v : Value) :
    (∃ items, v.HasItems items) ∧
    (∀ items, v.asItems = .ok items ↔
      v.HasItems items ∧ ∀ s digits, v = .text s → ¬Json.IsListCutOff s digits) ∧
    ∀ fault, v.asItems = .error fault ↔
      ∃ s digits, v = .text s ∧ Json.IsListCutOff s digits ∧ fault = .digitsRead digits := by
  refine ⟨exists_hasItems v, fun items => ⟨?_, ?_⟩, fun fault => asItems_eq_error_iff⟩
  · intro success
    have readable : ∀ s digits, v = .text s → ¬Json.IsListCutOff s digits := by
      intro s digits isText cutOff
      have failure := asItems_eq_error_iff.mpr ⟨s, digits, isText, cutOff, rfl⟩
      rw [success] at failure
      cases failure
    obtain ⟨others, has⟩ := exists_hasItems v
    have same := (asItems_of_hasItems has readable).symm.trans success
    cases same
    exact ⟨has, readable⟩
  · rintro ⟨has, readable⟩
    exact asItems_of_hasItems has readable

theorem isWhole_replicate {length : Nat} (nonempty : length ≠ 0) :
    Json.IsWhole (List.replicate length '9') where
  nonempty := by simpa using nonempty
  digits := by
    intro c member
    rw [List.eq_of_mem_replicate member]
    rfl
  leading := by
    intro rest same
    have member : '0' ∈ List.replicate length '9' := by
      rw [same]
      exact List.mem_cons_self
    exact absurd (List.eq_of_mem_replicate member) (by decide)

/-- A list of one integer with one digit too many is JSON, and reading its items fails. -/
theorem hasItems_of_overlong_integer :
    HasItems (.text (String.ofList ('[' :: (List.replicate 4301 '9' ++ [']']))))
      [.int (Json.asciiValue (List.replicate 4301 '9'))] ∧
    asItems (.text (String.ofList ('[' :: (List.replicate 4301 '9' ++ [']'])))) =
      .error (.digitsRead 4301) := by
  have isWhole := isWhole_replicate (by decide : 4301 ≠ 0)
  have noSpaces := Json.areSpaces_nil
  constructor
  · refine .array ?_
    unfold Json.IsText
    rw [String.toList_ofList]
    have item : Json.Spells (fun _ => True) _ _ := .number (.integer isWhole trivial)
    have list := Json.Spells.list noSpaces (.last item noSpaces)
    have whole := Json.SpellsWhole.around noSpaces list noSpaces
    rw [List.append_nil, List.append_nil] at whole
    exact whole
  · have long : ¬Json.InLimit (List.replicate 4301 '9').length := by
      rw [List.length_replicate]
      exact Nat.not_le.mpr (by decide)
    have ends : Json.EndsNumber [']'] := Json.endsNumber_of_delimits (by simp [Json.Delimits])
    have cutOff := Json.CutOff.list noSpaces (.here (.number (.integer isWhole long ends)))
    rw [List.length_replicate] at cutOff
    exact asItems_eq_error_iff.mpr
      ⟨_, 4301, rfl, ⟨[], _, noSpaces, String.toList_ofList, cutOff⟩, rfl⟩

end Value

end Playbook
