import Playbook.Execution.Items
import Playbook.Proofs.JsonReading
import Playbook.Proofs.PropertyTexts
import Playbook.Proofs.References

/-!
# Operands of comparisons

What assertions compare has been resolved, or read from a JSON text.  Its sequences are lists at any
depth, and if it has a property text, then so has each of its items.
-/

namespace Playbook

open Fallible

namespace Value

mutual

/-- Values with a property text whose sequences are all lists. -/
def isOperand : Value → Bool
  | .int n => Numeral.isShort n
  | .list items => itemsAreOperands items
  | .map entries => entriesAreOperands entries
  | .tuple _ | .set _ => false
  | _ => true

def itemsAreOperands : List Value → Bool
  | [] => true
  | v :: rest => isOperand v && itemsAreOperands rest

def entriesAreOperands : List (Value × Value) → Bool
  | [] => true
  | (key, v) :: rest => isJsonKey key && isOperand v && entriesAreOperands rest

end

theorem itemsAreOperands_iff {items : List Value} :
    itemsAreOperands items = true ↔ ∀ v ∈ items, v.isOperand = true := by
  induction items with
  | nil => simp [itemsAreOperands]
  | cons v rest ih => simp [itemsAreOperands, ih]

theorem entriesAreOperands_iff {entries : List (Value × Value)} :
    entriesAreOperands entries = true ↔
      ∀ entry ∈ entries, entry.1.isJsonKey = true ∧ entry.2.isOperand = true := by
  induction entries with
  | nil => simp [entriesAreOperands]
  | cons entry rest ih => simp [entriesAreOperands, ih]

mutual

theorem isWritable_of_isOperand {v : Value} (operand : v.isOperand = true) :
    v.isWritable = true := by
  cases v with
  | list items => exact itemsAreWritable_of_itemsAreOperands operand
  | map entries => exact entriesAreWritable_of_entriesAreOperands operand
  | tuple items | set items => cases operand
  | int n => exact operand
  | _ => rfl

theorem itemsAreWritable_of_itemsAreOperands {items : List Value}
    (operands : itemsAreOperands items = true) : itemsAreWritable items = true := by
  cases items with
  | nil => rfl
  | cons v rest =>
      rw [itemsAreOperands, Bool.and_eq_true] at operands
      rw [itemsAreWritable, isWritable_of_isOperand operands.1,
        itemsAreWritable_of_itemsAreOperands operands.2]
      rfl

theorem entriesAreWritable_of_entriesAreOperands {entries : List (Value × Value)}
    (operands : entriesAreOperands entries = true) : entriesAreWritable entries = true := by
  cases entries with
  | nil => rfl
  | cons entry rest =>
      obtain ⟨key, v⟩ := entry
      rw [entriesAreOperands, Bool.and_eq_true, Bool.and_eq_true] at operands
      rw [entriesAreWritable, operands.1.1, isWritable_of_isOperand operands.1.2,
        entriesAreWritable_of_entriesAreOperands operands.2]
      rfl

end

end Value

/-! ## Resolved values -/

namespace Template

theorem exists_fill {valueOf : String → Option String} {parts : List Piece}
    (defined : ∀ name, Piece.placeholder name ∈ parts →
      (valueOf (String.ofList name)).isSome = true) :
    ∃ cs, fill valueOf parts = .ok cs := by
  induction parts with
  | nil => exact ⟨[], rfl⟩
  | cons part rest ih =>
      obtain ⟨cs, filled⟩ := ih fun name member => defined name (List.mem_cons_of_mem _ member)
      cases part with
      | char c =>
          refine ⟨c :: cs, ?_⟩
          rw [fill, filled]
          rfl
      | placeholder name =>
          obtain ⟨value, found⟩ := Option.isSome_iff_exists.mp (defined name List.mem_cons_self)
          refine ⟨value.toList ++ cs, ?_⟩
          rw [fill, found, filled]
          rfl

end Template

namespace PropertySet

variable {properties : PropertySet}

theorem succeeds_resolveTemplate {s : String}
    (defined : ∀ key ∈ Template.keys s, properties.contains key = true) (step : Option Int) :
    Succeeds (properties.resolveTemplate step s) := by
  have found : ∀ name, Template.Piece.placeholder name ∈ Template.pieces s →
      (properties.find? (String.ofList name)).isSome = true := by
    intro name member
    rw [isSome_find?]
    exact defined _ (Template.mem_keys_iff.mpr ⟨name, member, rfl⟩)
  have fills : ∃ cs, Template.fill properties.find? (Template.pieces s) = .ok cs :=
    Template.exists_fill found
  obtain ⟨cs, filled⟩ := fills
  refine ⟨String.ofList cs, ?_⟩
  unfold resolveTemplate
  rw [filled]

mutual

/-- A value is resolved if all keys that it refers to are there. -/
theorem succeeds_resolveValue {v : Value}
    (defined : ∀ key ∈ v.references, properties.contains key = true) (step : Option Int) :
    Succeeds (properties.resolveValue step v) := by
  cases v with
  | text s =>
      rw [resolveValue, succeeds_bind_iff_left fun _ => succeeds_pure _]
      exact succeeds_resolveTemplate defined step
  | list items | tuple items | set items =>
      rw [resolveValue, succeeds_bind_iff_left fun _ => succeeds_pure _]
      exact succeeds_resolveItems defined step
  | map entries =>
      rw [resolveValue, succeeds_bind_iff_left fun _ => succeeds_pure _]
      exact succeeds_resolveEntries defined step
  | _ => exact succeeds_ok _

theorem succeeds_resolveItems {items : List Value}
    (defined : ∀ key ∈ Value.itemReferences items, properties.contains key = true)
    (step : Option Int) : Succeeds (properties.resolveItems step items) := by
  cases items with
  | nil => exact succeeds_ok _
  | cons v rest =>
      obtain ⟨here, later⟩ := List.forall_mem_append.mp defined
      obtain ⟨first, resolved⟩ := succeeds_resolveValue here step
      obtain ⟨others, othersResolved⟩ := succeeds_resolveItems later step
      rw [resolveItems, resolved, othersResolved]
      exact succeeds_ok _

theorem succeeds_resolveEntries {entries : List (Value × Value)}
    (defined : ∀ key ∈ Value.entryReferences entries, properties.contains key = true)
    (step : Option Int) : Succeeds (properties.resolveEntries step entries) := by
  cases entries with
  | nil => exact succeeds_ok _
  | cons entry rest =>
      obtain ⟨here, later⟩ := List.forall_mem_append.mp defined
      obtain ⟨first, resolved⟩ := succeeds_resolveValue here step
      obtain ⟨others, othersResolved⟩ := succeeds_resolveEntries later step
      rw [resolveEntries, resolved, othersResolved]
      exact succeeds_ok _

end

variable {step : Option Int}

mutual

/-- What has been resolved is an operand as soon as it has a property text. -/
theorem isOperand_of_resolveValue {v resolved : Value}
    (success : properties.resolveValue step v = .ok resolved)
    (writable : resolved.isWritable = true) : resolved.isOperand = true := by
  cases v with
  | text s =>
      obtain ⟨filled, _, same⟩ := bind_eq_ok_iff.mp success
      cases same
      rfl
  | list items | tuple items | set items =>
      obtain ⟨others, resolvedItems, same⟩ := bind_eq_ok_iff.mp success
      cases same
      exact itemsAreOperands_of_resolveItems resolvedItems writable
  | map entries =>
      obtain ⟨others, resolvedEntries, same⟩ := bind_eq_ok_iff.mp success
      cases same
      exact entriesAreOperands_of_resolveEntries resolvedEntries writable
  | int n =>
      cases success
      exact writable
  | _ =>
      cases success
      rfl

theorem itemsAreOperands_of_resolveItems {items resolved : List Value}
    (success : properties.resolveItems step items = .ok resolved)
    (writable : Value.itemsAreWritable resolved = true) :
    Value.itemsAreOperands resolved = true := by
  cases items with
  | nil =>
      cases success
      rfl
  | cons v rest =>
      obtain ⟨first, here, success⟩ := bind_eq_ok_iff.mp success
      obtain ⟨others, later, same⟩ := bind_eq_ok_iff.mp success
      cases same
      rw [Value.itemsAreWritable, Bool.and_eq_true] at writable
      rw [Value.itemsAreOperands, isOperand_of_resolveValue here writable.1,
        itemsAreOperands_of_resolveItems later writable.2]
      rfl

theorem entriesAreOperands_of_resolveEntries {entries resolved : List (Value × Value)}
    (success : properties.resolveEntries step entries = .ok resolved)
    (writable : Value.entriesAreWritable resolved = true) :
    Value.entriesAreOperands resolved = true := by
  cases entries with
  | nil =>
      cases success
      rfl
  | cons entry rest =>
      obtain ⟨key, v⟩ := entry
      obtain ⟨first, here, success⟩ := bind_eq_ok_iff.mp success
      obtain ⟨others, later, same⟩ := bind_eq_ok_iff.mp success
      cases same
      rw [Value.entriesAreWritable, Bool.and_eq_true, Bool.and_eq_true] at writable
      rw [Value.entriesAreOperands, writable.1.1, isOperand_of_resolveValue here writable.1.2,
        entriesAreOperands_of_resolveEntries later writable.2]
      rfl

end

end PropertySet

/-! ## Items of JSON texts -/

namespace Json

open Text

theorem asciiValue_lt {digits : List Char} (all : ∀ c ∈ digits, isAsciiDigit c = true) :
    asciiValue digits < tenTo digits.length := by
  have bound (value : Nat) :
      digits.foldl (fun value c => value * 10 + (c.toNat - 48)) value <
        (value + 1) * tenTo digits.length := by
    induction digits generalizing value with
    | nil => simp [tenTo]
    | cons c rest ih =>
        obtain ⟨digit, others⟩ := List.forall_mem_cons.mp all
        have upper : c.toNat ≤ 57 := by
          simp only [isAsciiDigit, Bool.and_eq_true, decide_eq_true_eq] at digit
          exact digit.2
        have later := ih others (value * 10 + (c.toNat - 48))
        have power : tenTo (rest.length + 1) = 10 * tenTo rest.length := Nat.pow_succ'
        have scaled : (value * 10 + (c.toNat - 48) + 1) * tenTo rest.length ≤
            (value + 1) * 10 * tenTo rest.length := Nat.mul_le_mul_right _ (by omega)
        rw [List.foldl_cons, List.length_cons, power, ← Nat.mul_assoc]
        exact Nat.lt_of_lt_of_le later scaled
  unfold asciiValue
  simpa using bound 0

theorem isOperand_of_spellsMagnitude {negative : Bool} {cs : List Char} {v : Value}
    (spells : SpellsMagnitude InLimit negative v cs) : v.isOperand = true := by
  cases spells with
  | integer isWhole short =>
      have size : (if negative then -(asciiValue cs : Int) else asciiValue cs).natAbs =
          asciiValue cs := by
        split <;> simp
      have limit : tenTo cs.length ≤ tenTo Numeral.digitLimit := tenTo_le short
      rw [Value.isOperand, Numeral.isShort, decide_eq_true_eq, size]
      exact Nat.lt_of_lt_of_le (asciiValue_lt isWhole.digits) limit
  | double => rfl

/-- A member of an object: a text with an operand. -/
def IsMember (entry : Value × Value) : Prop :=
  (∃ name, entry.1 = .text name) ∧ entry.2.isOperand = true

theorem isMember_of_mem_putAll {entries additions : List (Value × Value)}
    (before : ∀ entry ∈ entries, IsMember entry) (members : ∀ entry ∈ additions, IsMember entry) :
    ∀ entry ∈ Ordered.putAll entries additions, IsMember entry := by
  induction additions generalizing entries with
  | nil => exact before
  | cons first rest ih =>
      obtain ⟨here, later⟩ := List.forall_mem_cons.mp members
      apply ih _ later
      intro entry member
      -- A key that is put again keeps its first entry and gets the new value.
      rcases Ordered.mem_put member with old | ⟨stored, same | kept⟩
      · exact before entry old
      · exact ⟨same ▸ here.1, stored ▸ here.2⟩
      · obtain ⟨other, otherMember, same⟩ := List.mem_map.mp kept
        exact ⟨same ▸ (before other otherMember).1, stored ▸ here.2⟩

theorem entriesAreOperands_ofEntries {entries : List (Value × Value)}
    (members : ∀ entry ∈ entries, IsMember entry) :
    Value.entriesAreOperands (Ordered.ofEntries entries) = true := by
  rw [Value.entriesAreOperands_iff]
  intro entry member
  obtain ⟨⟨name, same⟩, operand⟩ :=
    isMember_of_mem_putAll (List.forall_mem_nil _) members entry member
  rw [same]
  exact ⟨rfl, operand⟩

mutual

theorem isOperand_of_spells {v : Value} {cs : List Char} (spells : Spells InLimit v cs) :
    v.isOperand = true := by
  match spells with
  | .word spelled =>
      cases spelled
      all_goals rfl
  | .number spelled => exact isOperand_of_spellsMagnitude spelled
  | .negative spelled => exact isOperand_of_spellsMagnitude spelled
  | .text _ => rfl
  | .emptyList _ => rfl
  | .list _ items => exact itemsAreOperands_of_spells items
  | .emptyMap _ => rfl
  | .map _ members => exact entriesAreOperands_ofEntries (isMember_of_spells members)

theorem itemsAreOperands_of_spells {items : List Value} {cs : List Char}
    (spells : SpellsItems InLimit items cs) : Value.itemsAreOperands items = true := by
  match spells with
  | .last spelled _ =>
      rw [Value.itemsAreOperands, isOperand_of_spells spelled]
      rfl
  | .more spelled _ later =>
      rw [Value.itemsAreOperands, isOperand_of_spells spelled, itemsAreOperands_of_spells later]
      rfl

theorem isMember_of_spells {members : List (Value × Value)} {cs : List Char}
    (spells : SpellsMembers InLimit members cs) : ∀ entry ∈ members, IsMember entry := by
  match spells with
  | .last _ spelled _ =>
      exact List.forall_mem_singleton.mpr ⟨⟨_, rfl⟩, isOperand_of_spells spelled⟩
  | .more _ spelled _ later =>
      exact List.forall_mem_cons.mpr
        ⟨⟨⟨_, rfl⟩, isOperand_of_spells spelled⟩, isMember_of_spells later⟩

end

/-- Whatever is read from a JSON text is an operand. -/
theorem isOperand_of_read {s : String} {v : Value} (success : read s = .ok v) :
    v.isOperand = true := by
  have spells := read_eq_ok_iff.mp success
  generalize s.toList = cs at spells
  obtain ⟨_, spells, _⟩ := spells
  exact isOperand_of_spells spells

end Json

namespace Value

/-- A text that would be read as a list, were it not for an integer that is too long to be read. -/
def IsOverlongList (v : Value) : Prop :=
  ∃ s digits, v = .text s ∧ opensList s = true ∧ Json.read s = .error (.integerTooLong digits)

theorem asItems_text (s : String) :
    asItems (.text s) =
      if opensList s then
        match Json.read s with
        | .ok (.list items) => .ok items
        | .error (.integerTooLong digits) => .error (.digitsRead digits)
        | _ => .ok [.text s]
      else .ok [.text s] := rfl

theorem succeeds_asItems_iff {v : Value} : Succeeds v.asItems ↔ ¬v.IsOverlongList := by
  cases v with
  | text s =>
      rw [asItems_text]
      by_cases opens : opensList s = true
      · rw [if_pos opens]
        constructor
        · rintro success ⟨_, digits, same, _, tooLong⟩
          cases same
          rw [tooLong] at success
          exact not_succeeds_error _ success
        · intro readable
          split
          · exact succeeds_ok _
          · rename_i digits tooLong
            exact absurd ⟨s, digits, rfl, opens, tooLong⟩ readable
          · exact succeeds_ok _
      · rw [if_neg opens]
        apply iff_of_true (succeeds_ok _)
        rintro ⟨_, _, same, isOpen, _⟩
        cases same
        exact opens isOpen
  | _ =>
      apply iff_of_true (succeeds_ok _)
      rintro ⟨_, _, same, _⟩
      cases same

/-- The items of an operand are operands. -/
theorem isOperand_of_mem_asItems {v : Value} {items : List Value} (operand : v.isOperand = true)
    (success : v.asItems = .ok items) : ∀ item ∈ items, item.isOperand = true := by
  cases v with
  | list items =>
      cases success
      exact itemsAreOperands_iff.mp operand
  | tuple items | set items => cases operand
  | text s =>
      rw [asItems_text] at success
      split at success
      · split at success
        · rename_i read
          cases success
          exact itemsAreOperands_iff.mp (Json.isOperand_of_read read)
        · cases success
        · cases success
          simp [isOperand]
      · cases success
        simp [isOperand]
  | _ =>
      cases success
      simpa using operand

end Value

end Playbook
