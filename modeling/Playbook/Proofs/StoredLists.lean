import Playbook.Execution
import Playbook.Proofs.JsonRoundTrip
import Playbook.Proofs.NameGrammars
import Playbook.Proofs.PlainData
import Playbook.Proofs.Procedure

/-!
# Lists survive being stored

An exported list is stored as its JSON text.  An assertion on items that is given the placeholder
of its key reads the text as the items that were stored, and shows the text that the list itself is
shown by.  So the assertion cannot tell whether the list came from the properties.
-/

namespace Playbook

namespace Value

mutual

theorem isPlain_of_isJson {v : Value} (json : v.isJson = true) : v.isPlain = true := by
  cases v with
  | list items => exact itemsArePlain_of_itemsAreJson json
  | map entries => exact entriesArePlain_of_entriesAreJson json
  | tuple items | set items => cases json
  | foreign kind shown => cases json
  | _ => rfl

theorem itemsArePlain_of_itemsAreJson {items : List Value} (json : itemsAreJson items = true) :
    itemsArePlain items = true := by
  cases items with
  | nil => rfl
  | cons v rest =>
      rw [itemsAreJson, Bool.and_eq_true] at json
      rw [itemsArePlain, isPlain_of_isJson json.1, itemsArePlain_of_itemsAreJson json.2]
      rfl

theorem entriesArePlain_of_entriesAreJson {entries : List (Value × Value)}
    (json : entriesAreJson entries = true) : entriesArePlain entries = true := by
  cases entries with
  | nil => rfl
  | cons entry rest =>
      obtain ⟨key, v⟩ := entry
      cases key with
      | text name =>
          simp only [entriesAreJson, Bool.and_eq_true] at json
          rw [entriesArePlain, isPlain_of_isJson json.1.2,
            entriesArePlain_of_entriesAreJson json.2]
          rfl
      | _ => simp [entriesAreJson] at json

end

theorem stringify_list_of_isJson {items : List Value} (json : (Value.list items).isJson = true) :
    ∃ s, stringify (.list items) = .ok s ∧ asItems (.text s) = .ok items := by
  obtain ⟨cs, readable, made, read⟩ := Json.read_text json
  refine ⟨String.ofList cs, made, ?_⟩
  have opens : opensList (String.ofList cs) = true := by
    obtain ⟨inner, _, same⟩ := Fallible.bind_eq_ok_iff.mp readable.written
    cases same
    simp [opensList, Text.isBlank]
  unfold asItems
  dsimp only
  rw [if_pos opens, read]

end Value

namespace Claim

section OtherActual

variable {claim : Claim} {v : Value}

theorem firstFailing_withActual (position : Nat) (items : List Value) :
    firstFailing { claim with actual := v } position items = claim.firstFailing position items := by
  induction items generalizing position with
  | nil => rfl
  | cons item rest ih =>
      simp only [firstFailing, ih]
      rfl

theorem countHolding_withActual (items : List Value) :
    countHolding { claim with actual := v } items = claim.countHolding items := by
  induction items with
  | nil => rfl
  | cons item rest ih =>
      simp only [countHolding, ih]
      rfl

theorem expectation_withActual (shown : v.stringify = claim.actual.stringify) (start : String) :
    expectation { claim with actual := v } start = claim.expectation start := by
  unfold expectation quote Value.quote
  rw [shown]

theorem judgeEach_withActual (items : v.asItems = claim.actual.asItems)
    (shown : v.stringify = claim.actual.stringify) :
    judgeEach { claim with actual := v } = claim.judgeEach := by
  unfold judgeEach
  simp only [items, expectation_withActual shown, firstFailing_withActual]

theorem judgeCount_withActual (items : v.asItems = claim.actual.asItems)
    (shown : v.stringify = claim.actual.stringify) (ranges : String) :
    judgeCount { claim with actual := v } ranges = claim.judgeCount ranges := by
  unfold judgeCount
  simp only [items, expectation_withActual shown, countHolding_withActual]

end OtherActual

end Claim

namespace Name

theorem isSome_matchPropertyKey? {cs : List Char} (chars : ∀ c ∈ cs, IsKeyChar c)
    (nonempty : cs ≠ []) : (matchPropertyKey? cs).isSome = true :=
  isSome_matchPropertyKey?_iff.mpr ⟨cs, ⟨nonempty, chars⟩, .inl rfl⟩

end Name

namespace PropertySet

theorem exportLayer_single {key s : String} {v : Value} (isKey : Name.IsKey key.toList)
    (shown : v.stringify = .ok s) : exportLayer [(.text key, v)] = .ok [(key, s)] := by
  have exportable : isExportKey (.text key) = true := Name.isSome_matchPropertyKey? isKey.2 isKey.1
  unfold exportLayer
  simp only [List.find?_cons, exportable, Bool.not_true, List.find?_nil, exportTexts, shown]
  rfl

theorem exportValues_single {key s : String} {v : Value} (isKey : Name.IsKey key.toList)
    (shown : v.stringify = .ok s) (properties : PropertySet) :
    properties.exportValues [(.text key, v)] = .ok (properties.write [(key, s)]) := by
  unfold exportValues
  rw [exportLayer_single isKey shown]
  rfl

theorem ne_empty_of_exportValues {properties exported : PropertySet} {key : String} {v : Value}
    (success : properties.exportValues [(.text key, v)] = .ok exported) : key ≠ "" := by
  intro empty
  subst empty
  obtain ⟨layer, made, _⟩ := Fallible.bind_eq_ok_iff.mp success
  cases made

end PropertySet

namespace AssertionStep

/-- Whether the relation is held against items. -/
def ComparesItems (check : AssertionStep) : Prop := check.each = true ∨ check.count.isSome = true

theorem run_claim_of_resolved {check : AssertionStep} {properties : PropertySet} {index : Nat}
    {actual : Value} (resolved : properties.resolveValue (some index) check.value = .ok actual)
    (comparator : Comparator) :
    (check.claim comparator index).run properties =
      { result := (properties.resolveValue (some index) check.expected).map fun expected =>
          ⟨comparator, actual, expected, check.ignoreCase⟩
        properties
        seen := [properties, properties] } := by
  unfold claim
  rw [Procedure.run_bind, Procedure.run_resolve, resolved]
  unfold Completed.andThen
  dsimp only
  rw [Procedure.run_bind, Procedure.run_resolve, Completed.andThen_pure]
  rfl

/-- Two values that are read as the same items and shown by the same text are judged alike. -/
theorem run_withValue (check : AssertionStep) (comparing : check.ComparesItems)
    {first second actual other : Value} {properties : PropertySet} {index : Nat}
    (firstResolved : properties.resolveValue (some index) first = .ok actual)
    (secondResolved : properties.resolveValue (some index) second = .ok other)
    (items : actual.asItems = other.asItems) (shown : actual.stringify = other.stringify)
    (registry : Registry) :
    (({ check with value := first } : AssertionStep).procedure registry index).run properties =
      (({ check with value := second } : AssertionStep).procedure registry index).run
        properties := by
  unfold procedure
  rw [Procedure.run_bind, Procedure.run_bind, Procedure.run_lift, Procedure.run_lift]
  change Completed.andThen { result := check.comparator registry, properties } _ =
    Completed.andThen { result := check.comparator registry, properties } _
  cases check.comparator registry with
  | error failure => rfl
  | ok comparator =>
      unfold Completed.andThen
      dsimp only
      rw [Procedure.run_bind, Procedure.run_bind, run_claim_of_resolved firstResolved,
        run_claim_of_resolved secondResolved]
      dsimp only
      cases properties.resolveValue (some index) check.expected with
      | error failure => rfl
      | ok expected =>
          let claim : Claim := ⟨comparator, other, expected, check.ignoreCase⟩
          have each : Claim.judgeEach ⟨comparator, actual, expected, check.ignoreCase⟩ =
              claim.judgeEach := claim.judgeEach_withActual items shown
          have count (ranges : String) :
              Claim.judgeCount ⟨comparator, actual, expected, check.ignoreCase⟩ ranges =
                claim.judgeCount ranges := claim.judgeCount_withActual items shown ranges
          unfold Completed.andThen
          simp only [Except.map]
          cases given : check.count with
          | some ranges => simp only [count, claim]
          | none =>
              rcases comparing with isEach | counts
              · simp only [isEach, if_true, each, claim]
              · rw [given] at counts
                cases counts

/-- A list that is stored under a key is to an assertion on items what the list itself is. -/
theorem run_storedList (properties : PropertySet) {key : String} {items : List Value}
    (keyChars : ∀ c ∈ key.toList, Name.IsKeyChar c) (json : (Value.list items).isJson = true)
    (plain : (Value.list items).references = []) :
    let placeholder : Value := .text ("\x7b\x7b" ++ key ++ "\x7d\x7d")
    (key ≠ "" → ∃ exported, properties.exportValues [(.text key, .list items)] = .ok exported) ∧
      ∀ exported, properties.exportValues [(.text key, .list items)] = .ok exported →
        (∀ step, ∃ stored, exported.resolveValue step placeholder = .ok stored ∧
          stored.asItems = .ok items) ∧
        ∀ (check : AssertionStep) (registry : Registry) (index : Nat), check.ComparesItems →
          (({ check with value := placeholder } : AssertionStep).procedure registry index).run
              exported =
            (({ check with value := .list items } : AssertionStep).procedure registry index).run
              exported := by
  intro placeholder
  obtain ⟨s, shown, readBack⟩ := Value.stringify_list_of_isJson json
  have isKey (nonempty : key ≠ "") : Name.IsKey key.toList := ⟨by simpa using nonempty, keyChars⟩
  constructor
  · intro nonempty
    exact ⟨_, PropertySet.exportValues_single (isKey nonempty) shown properties⟩
  · intro exported success
    have nonempty := PropertySet.ne_empty_of_exportValues success
    rw [PropertySet.exportValues_single (isKey nonempty) shown] at success
    cases success
    have found : (properties.write [(key, s)]).find? key = some s := by
      rw [PropertySet.find?_write]
      simp [Ordered.find?]
    have templateChars : ∀ c ∈ key.toList, Template.isKeyChar c = true := by
      intro c member
      obtain ⟨notBlank, notOpening, notClosing, _⟩ := keyChars c member
      simp [Template.isKeyChar, notBlank, notOpening, notClosing]
    have resolved (step : Option Int) :
        (properties.write [(key, s)]).resolveValue step placeholder = .ok (.text s) := by
      rw [PropertySet.resolveValue,
        PropertySet.resolveTemplate_placeholder templateChars nonempty found]
      rfl
    constructor
    · intro step
      exact ⟨.text s, resolved step, readBack⟩
    · intro check registry index comparing
      have literal := PropertySet.resolveValue_eq_self (Value.isPlain_of_isJson json) plain
        (properties.write [(key, s)]) (some (index : Int))
      apply run_withValue check comparing (resolved _) literal
      · exact readBack
      · exact shown.symm

/-- Items of every kind, with quotes, control characters and braces in their texts. -/
theorem run_storedList_nested :
    let items : List Value :=
      [.null, .bool true, .int (-120), .text "\"\\\n\x01\x7b\x7b é", .list [],
        .map [(.text "\x7b\x7bhost\x7d\x7d", .list [.int 0, .text ""]), (.text "", .map [])]]
    let written := "[null,true,-120,\"\\\"\\\\\\n\\u0001\x7b\x7b é\",[]," ++
      "\x7b\"\x7b\x7bhost\x7d\x7d\":[0,\"\"],\"\":\x7b\x7d\x7d]"
    let properties : PropertySet := ⟨[("port", "1")], [("found", "[]")]⟩
    let exported : PropertySet := ⟨[("port", "1"), ("found", written)], [("found", "[]")]⟩
    let check : AssertionStep :=
      ⟨none, none, .text "\x7b\x7bfound\x7d\x7d", "contains", .text "\x7b\x7bport\x7d\x7d", false,
        false, some "1+"⟩
    (∀ c ∈ "found".toList, Name.IsKeyChar c) ∧ (Value.list items).isJson = true ∧
      (Value.list items).references = [] ∧ check.ComparesItems ∧
      properties.exportValues [(.text "found", .list items)] = .ok exported ∧
      (check.procedure .builtin 2).run exported =
        (({ check with value := .list items } : AssertionStep).procedure .builtin 2).run
          exported := by
  intro items written properties exported check
  have keyChars : ∀ c ∈ "found".toList, Name.IsKeyChar c := by
    intro c member
    have letter : c = 'f' ∨ c = 'o' ∨ c = 'u' ∨ c = 'n' ∨ c = 'd' := by simpa using member
    unfold Name.IsKeyChar
    rcases letter with rfl | rfl | rfl | rfl | rfl <;> decide
  have json : (Value.list items).isJson = true := by decide +kernel
  have plain : (Value.list items).references = [] := by decide +kernel
  have comparing : check.ComparesItems := .inr rfl
  have shown : Value.stringify (.list items) = .ok written := by decide +kernel
  have success : properties.exportValues [(.text "found", .list items)] = .ok exported :=
    PropertySet.exportValues_single ⟨by decide, keyChars⟩ shown properties
  have laws := run_storedList properties keyChars json plain
  exact ⟨keyChars, json, plain, comparing, success,
    (laws.2 exported success).2 check .builtin 2 comparing⟩

end AssertionStep

end Playbook
