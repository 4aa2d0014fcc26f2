import Mathlib.Tactic.IntervalCases
import Playbook.Json.Writer
import Playbook.Proofs.JsonReading

/-!
# Reading JSON that was written

A value that JSON has a form for is written as a text that spells it, so that reading the text gives
the value back: integers are spelled by their decimal digits, texts by the code units of their
characters, lists and mappings part by part.
-/

namespace Playbook

namespace Value

mutual

/-- Values that JSON has a form for. -/
def isJson : Value → Bool
  | .null | .bool _ | .text _ => true
  | .int n => n.natAbs < tenTo Numeral.digitLimit
  | .list items => itemsAreJson items
  | .map entries => entriesAreJson entries
  | _ => false

def itemsAreJson : List Value → Bool
  | [] => true
  | v :: rest => isJson v && itemsAreJson rest

/-- Entries of a mapping whose keys are texts, each of them once. -/
def entriesAreJson : List (Value × Value) → Bool
  | [] => true
  | (.text key, v) :: rest => !hasField key rest && isJson v && entriesAreJson rest
  | _ => false

end

end Value

namespace Json

open Text

/-! ## Characters of texts -/

theorem digitOfBase_hexChar :
    ∀ d < 16, isHexDigit (hexChar d) = true ∧ digitOfBase (hexChar d) = some d := by
  decide

theorem hexValue?_hexDigits {code : Nat} (small : code < 0x10000) :
    ∃ a b c d, hexDigits 4 code = [a, b, c, d] ∧ hexValue? a b c d = some code := by
  have digit (n : Nat) := digitOfBase_hexChar (n % 16) (Nat.mod_lt n (by decide))
  obtain ⟨hexA, valueA⟩ := digit (code / 16 / 16 / 16)
  obtain ⟨hexB, valueB⟩ := digit (code / 16 / 16)
  obtain ⟨hexC, valueC⟩ := digit (code / 16)
  obtain ⟨hexD, valueD⟩ := digit code
  refine ⟨_, _, _, _, rfl, ?_⟩
  unfold hexValue?
  rw [hexA, hexB, hexC, hexD, valueA, valueB, valueC, valueD]
  simp only [Bool.and_self, if_true, Option.pure_def, Option.bind_eq_bind, Option.bind_some,
    Option.some.injEq]
  omega

theorem SpellsUnits.escaped {c : Char} {units : List Nat} {cs : List Char}
    (spells : SpellsUnits units cs) : SpellsUnits (c.toNat :: units) (Json.escaped c ++ cs) := by
  unfold Json.escaped
  split
  · subst c
    exact .escape rfl spells
  split
  · subst c
    exact .escape rfl spells
  split
  · subst c
    exact .escape rfl spells
  split
  · subst c
    exact .escape rfl spells
  split
  · subst c
    exact .escape rfl spells
  split
  · rename_i formFeed
    rw [formFeed]
    exact .escape rfl spells
  split
  · rename_i backspace
    rw [backspace]
    exact .escape rfl spells
  split
  · rename_i control
    obtain ⟨_, _, _, _, digits, value⟩ := hexValue?_hexDigits (show c.toNat < 0x10000 by omega)
    rw [digits]
    exact .number value spells
  · rename_i notQuote notBackslash _ _ _ _ _ noControl
    exact .plain notQuote notBackslash (Nat.not_lt.mp noControl) spells

theorem spellsUnits_flatMap_escaped (cs : List Char) :
    SpellsUnits (cs.map Char.toNat) (cs.flatMap escaped) := by
  induction cs with
  | nil => exact .nil
  | cons c cs ih =>
      rw [List.flatMap_cons]
      exact ih.escaped

theorem joinUnits_toNat_cons (c : Char) (units : List Nat) :
    joinUnits (c.toNat :: units) = c :: joinUnits units := by
  have scalar : c.toNat < 0xD800 ∨ 0xE000 ≤ c.toNat := by
    have valid := c.valid
    unfold UInt32.isValidChar Nat.isValidChar at valid
    change c.val.toNat < 0xD800 ∨ 0xE000 ≤ c.val.toNat
    omega
  have notSurrogate : (0xD800 ≤ c.toNat && c.toNat < 0xE000) = false := by
    simp
    omega
  cases units with
  | nil => simp [joinUnits, notSurrogate, Char.ofNat_toNat]
  | cons next others =>
      have alone : (0xD800 ≤ c.toNat && c.toNat < 0xDC00 && 0xDC00 ≤ next && next < 0xE000) =
          false := by
        simp
        omega
      rw [joinUnits, alone, notSurrogate]
      simp [Char.ofNat_toNat]

theorem joinUnits_map_toNat (cs : List Char) : joinUnits (cs.map Char.toNat) = cs := by
  induction cs with
  | nil => rfl
  | cons c cs ih => rw [List.map_cons, joinUnits_toNat_cons, ih]

theorem spellsText_string (s : String) : SpellsText s (string s) := by
  have spells := SpellsText.quoted (spellsUnits_flatMap_escaped s.toList)
  rwa [joinUnits_map_toNat, String.ofList_toList] at spells

/-! ## Integers -/

theorem isAsciiDigit_of_mem_toDigits {n : Nat} {c : Char} (member : c ∈ Nat.toDigits 10 n) :
    isAsciiDigit c = true := by
  have digit := Nat.isDigit_of_mem_toDigits (by decide) (by decide) member
  simp only [Char.isDigit, Bool.and_eq_true, decide_eq_true_eq] at digit
  simp only [isAsciiDigit, Bool.and_eq_true, decide_eq_true_eq]
  exact digit

theorem exists_toDigits_eq_cons (n : Nat) :
    ∃ c cs, Nat.toDigits 10 n = c :: cs ∧ isAsciiDigit c = true := by
  cases digits : Nat.toDigits 10 n with
  | nil => exact absurd digits Nat.toDigits_ne_nil
  | cons c cs =>
      refine ⟨c, cs, rfl, isAsciiDigit_of_mem_toDigits (n := n) ?_⟩
      rw [digits]
      exact List.mem_cons_self

theorem length_toDigits_le {n limit : Nat} (positive : 0 < limit) (short : n < tenTo limit) :
    (Nat.toDigits 10 n).length ≤ limit :=
  (Nat.length_toDigits_le_iff (by decide) positive).mpr short

theorem asciiValue_toDigits (n : Nat) : asciiValue (Nat.toDigits 10 n) = n := by
  have value : Nat.ofDigitChars 10 (Nat.toDigits 10 n) 0 = n := Nat.ofDigitChars_ten_toDigits
  change (Nat.toDigits 10 n).foldl (fun value c => 10 * value + (c.toNat - 48)) 0 = n at value
  unfold asciiValue
  simpa only [Nat.mul_comm] using value

/-- Only zero is written with a leading zero. -/
theorem toDigits_ne_zero_cons {n : Nat} (positive : 0 < n) (others : List Char) :
    Nat.toDigits 10 n ≠ '0' :: others := by
  induction n using Nat.strongRecOn generalizing others with
  | ind n ih =>
      by_cases small : n < 10
      · rw [Nat.toDigits_of_lt_base small]
        intro same
        obtain ⟨zero, _⟩ := List.cons_eq_cons.mp same
        interval_cases n <;> simp at zero
      · have large : 10 ≤ n := Nat.not_lt.mp small
        rw [Nat.toDigits_of_base_le (by decide) large]
        intro same
        cases front : Nat.toDigits 10 (n / 10) with
        | nil => exact absurd front Nat.toDigits_ne_nil
        | cons c cs =>
            rw [front] at same
            obtain ⟨zero, _⟩ := List.cons_eq_cons.mp same
            rw [zero] at front
            exact ih (n / 10) (by omega) (by omega) cs front

theorem isWhole_toDigits (n : Nat) : IsWhole (Nat.toDigits 10 n) where
  nonempty := Nat.toDigits_ne_nil
  digits _ member := isAsciiDigit_of_mem_toDigits member
  leading := by
    intro rest same
    cases n with
    | zero =>
        cases same
        rfl
    | succ n => exact absurd same (toDigits_ne_zero_cons (Nat.succ_pos n) rest)

theorem spellsMagnitude_toDigits {n : Nat} (short : n < tenTo Numeral.digitLimit)
    (negative : Bool) :
    SpellsMagnitude InLimit negative (.int (if negative then -(n : Int) else n))
      (Nat.toDigits 10 n) := by
  have inLimit : InLimit (Nat.toDigits 10 n).length := length_toDigits_le (by decide) short
  have spells : SpellsMagnitude InLimit negative _ _ := .integer (isWhole_toDigits n) inLimit
  rwa [asciiValue_toDigits] at spells

theorem toList_toString_ofNat (n : Nat) : (toString (Int.ofNat n)).toList = Nat.toDigits 10 n := by
  change (String.ofList (Nat.toDigits 10 n)).toList = _
  exact String.toList_ofList

theorem toList_toString_negSucc (n : Nat) :
    (toString (Int.negSucc n)).toList = '-' :: Nat.toDigits 10 (n + 1) := by
  change ("-" ++ String.ofList (Nat.toDigits 10 (n + 1))).toList = _
  simp

theorem spells_toString {n : Int} (short : n.natAbs < tenTo Numeral.digitLimit) :
    Spells InLimit (.int n) (toString n).toList := by
  cases n with
  | ofNat n =>
      rw [toList_toString_ofNat]
      exact .number (spellsMagnitude_toDigits short false)
  | negSucc n =>
      rw [toList_toString_negSucc]
      exact .negative (spellsMagnitude_toDigits short true)

/-! ## Values -/

/-- The text of a value, which spells this value. -/
structure Readable (v : Value) (cs : List Char) : Prop where
  written : write v = .ok cs
  spells : Spells InLimit v cs

structure ItemsReadable (items : List Value) (cs : List Char) : Prop where
  written : writeItems items = .ok cs
  spells : SpellsItems InLimit items cs

structure EntriesReadable (entries : List (Value × Value)) (cs : List Char) : Prop where
  written : writeEntries entries = .ok cs
  spells : SpellsMembers InLimit entries cs

theorem intText_eq_ok {n : Int} (short : n.natAbs < tenTo Numeral.digitLimit) :
    intText n = .ok (toString n) := by
  unfold intText Numeral.intText?
  rw [if_pos short]

theorem readable_int {n : Int} (short : n.natAbs < tenTo Numeral.digitLimit) :
    Readable (.int n) (toString n).toList where
  written := by
    rw [write, intText_eq_ok short]
    rfl
  spells := spells_toString short

theorem readable_list {items : List Value} {cs : List Char} (readable : ItemsReadable items cs) :
    Readable (.list items) ('[' :: cs ++ [']']) where
  written := by
    rw [write, readable.written]
    rfl
  spells := .list areSpaces_nil readable.spells

theorem readable_map {entries : List (Value × Value)} {cs : List Char}
    (readable : EntriesReadable entries cs) (distinct : Ordered.ofEntries entries = entries) :
    Readable (.map entries) ('\x7b' :: cs ++ ['\x7d']) where
  written := by
    rw [write, readable.written]
    rfl
  spells := by
    have spells := Spells.map areSpaces_nil readable.spells
    rwa [distinct] at spells

theorem itemsReadable_last {v : Value} {cs : List Char} (readable : Readable v cs) :
    ItemsReadable [v] cs where
  written := readable.written
  spells := by
    have spells := SpellsItems.last readable.spells areSpaces_nil
    rwa [List.append_nil] at spells

theorem isComma_alone : IsComma [','] := .comma areSpaces_nil areSpaces_nil

theorem itemsReadable_more {v : Value} {others : List Value} {cs later : List Char}
    (first : Readable v cs) (more : others ≠ []) (rest : ItemsReadable others later) :
    ItemsReadable (v :: others) (cs ++ ',' :: later) where
  written := by
    rw [writeItems, first.written, rest.written]
    · rfl
    · exact more
  spells := .more first.spells isComma_alone rest.spells

theorem spellsKey_string (name : String) : SpellsKey name (string name ++ [':']) :=
  .colon (spellsText_string name) areSpaces_nil areSpaces_nil

theorem entriesReadable_last {name : String} {v : Value} {cs : List Char}
    (readable : Readable v cs) :
    EntriesReadable [(.text name, v)] (string name ++ ':' :: cs) where
  written := by
    rw [writeEntries, readable.written]
    rfl
  spells := by
    simpa using SpellsMembers.last (spellsKey_string name) readable.spells areSpaces_nil

theorem entriesReadable_more {name : String} {v : Value} {others : List (Value × Value)}
    {cs later : List Char} (first : Readable v cs) (more : others ≠ [])
    (rest : EntriesReadable others later) :
    EntriesReadable ((.text name, v) :: others) (string name ++ ':' :: cs ++ ',' :: later) where
  written := by
    rw [writeEntries, first.written, rest.written]
    · rfl
    · exact more
  spells := by
    simpa using SpellsMembers.more (spellsKey_string name) first.spells isComma_alone rest.spells

theorem ofEntries_of_entriesAreJson {entries : List (Value × Value)}
    (json : Value.entriesAreJson entries = true) : Ordered.ofEntries entries = entries := by
  apply Ordered.ofEntries_eq_self
  induction entries with
  | nil => exact List.Pairwise.nil
  | cons entry rest ih =>
      obtain ⟨key, v⟩ := entry
      cases key with
      | text name =>
          simp only [Value.entriesAreJson, Bool.and_eq_true] at json
          obtain ⟨⟨once, _⟩, later⟩ := json
          refine List.Pairwise.cons ?_ (ih later)
          intro other member
          cases same : (Value.text name == other.1) with
          | false => rfl
          | true =>
              have present : Value.hasField name rest = true := by
                apply List.any_eq_true.mpr
                exact ⟨other, member, Value.beq_text_iff.mpr (Value.text_beq_iff.mp same)⟩
              rw [present] at once
              cases once
      | _ => simp [Value.entriesAreJson] at json

mutual

theorem exists_readable {v : Value} (json : v.isJson = true) : ∃ cs, Readable v cs := by
  cases v with
  | null => exact ⟨_, rfl, .word .null⟩
  | bool b =>
      cases b with
      | false => exact ⟨_, rfl, .word .false⟩
      | true => exact ⟨_, rfl, .word .true⟩
  | int n =>
      have short : n.natAbs < tenTo Numeral.digitLimit := by simpa [Value.isJson] using json
      exact ⟨_, readable_int short⟩
  | text s => exact ⟨_, rfl, .text (spellsText_string s)⟩
  | list items =>
      by_cases empty : items = []
      · subst empty
        exact ⟨_, rfl, .emptyList areSpaces_nil⟩
      · obtain ⟨cs, readable⟩ := exists_itemsReadable json empty
        exact ⟨_, readable_list readable⟩
  | map entries =>
      by_cases empty : entries = []
      · subst empty
        exact ⟨_, rfl, .emptyMap areSpaces_nil⟩
      · obtain ⟨cs, readable⟩ := exists_entriesReadable json empty
        exact ⟨_, readable_map readable (ofEntries_of_entriesAreJson json)⟩
  | _ => cases json

theorem exists_itemsReadable {items : List Value} (json : Value.itemsAreJson items = true)
    (nonempty : items ≠ []) : ∃ cs, ItemsReadable items cs := by
  cases items with
  | nil => exact absurd rfl nonempty
  | cons v rest =>
      rw [Value.itemsAreJson, Bool.and_eq_true] at json
      obtain ⟨first, readable⟩ := exists_readable json.1
      by_cases last : rest = []
      · subst last
        exact ⟨_, itemsReadable_last readable⟩
      · obtain ⟨later, others⟩ := exists_itemsReadable json.2 last
        exact ⟨_, itemsReadable_more readable last others⟩

theorem exists_entriesReadable {entries : List (Value × Value)}
    (json : Value.entriesAreJson entries = true) (nonempty : entries ≠ []) :
    ∃ cs, EntriesReadable entries cs := by
  cases entries with
  | nil => exact absurd rfl nonempty
  | cons entry rest =>
      obtain ⟨key, v⟩ := entry
      cases key with
      | text name =>
          simp only [Value.entriesAreJson, Bool.and_eq_true] at json
          obtain ⟨⟨_, value⟩, json⟩ := json
          obtain ⟨first, readable⟩ := exists_readable value
          by_cases last : rest = []
          · subst last
            exact ⟨_, entriesReadable_last readable⟩
          · obtain ⟨later, others⟩ := exists_entriesReadable json last
            exact ⟨_, entriesReadable_more readable last others⟩
      | _ => simp [Value.entriesAreJson] at json

end

/-- The JSON text of a value is read as this value. -/
theorem read_text {v : Value} (json : v.isJson = true) :
    ∃ cs, Readable v cs ∧ text v = .ok (String.ofList cs) ∧ read (String.ofList cs) = .ok v := by
  obtain ⟨cs, readable⟩ := exists_readable json
  refine ⟨cs, readable, ?_, ?_⟩
  · unfold text
    rw [readable.written]
    rfl
  · rw [read_eq_ok_iff, String.toList_ofList]
    have spells := SpellsWhole.around areSpaces_nil readable.spells areSpaces_nil
    rwa [List.append_nil] at spells

end Json

end Playbook
