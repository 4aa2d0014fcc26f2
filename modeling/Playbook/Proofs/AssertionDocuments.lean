import Playbook.Proofs.ActionDocuments
import Playbook.Proofs.ParameterNames

/-!
# Documents of assertions

The operator of an assertion stands under its own key, beside the expected value, or is itself a
key that holds the expected value.  An assertion is read from this choice and from the other
fields of its document.
-/

namespace Playbook

namespace Step

open Fallible Playbook.Field

variable {entries : List (Value × Value)} {operators : OperatorNames}

/-- The keys of an assertion that have no meaning of their own. -/
def operatorKeys (entries : List (Value × Value)) : List Value :=
  (entries.map Prod.fst).filter fun key => !isNamed assertionKeys key

/-- The operator that an assertion is read with, and the expected value. -/
inductive Chooses (entries : List (Value × Value)) : Value → Value → Prop where
  | explicit {operator expected : Value} : Value.field? "operator" entries = some operator →
      operatorKeys entries = [] → Value.field? "expected" entries = some expected →
      Chooses entries operator expected
  | asKey {key : Value} : Value.field? "operator" entries = none → operatorKeys entries = [key] →
      Chooses entries key ((Ordered.find? key entries).getD .null)

/-- The fields of an assertion that are read as they stand. -/
structure ReadsValues (entries : List (Value × Value)) (check : AssertionStep) : Prop where
  title : Gives (Value.field? "title" entries) (optional text) none check.title
  description : Gives (Value.field? "description" entries) (optional text) none check.description
  kind : ∃ word v, Value.field? "kind" entries = some v ∧ choice [assertKind] v = .ok word
  value : Value.field? "value" entries = some check.value
  ignoreCase : Gives ((lookup? entries ignoreCaseNames).map Prod.snd) truth false check.ignoreCase
  each : Gives (Value.field? "each" entries) truth false check.each
  count : Gives (Value.field? "count" entries) countText none check.count

/-- The fields of an assertion as they are read from a document, an operator and what is
expected. -/
structure ReadsAssertion (operators : OperatorNames) (entries : List (Value × Value))
    (operator expected : Value) (check : AssertionStep) : Prop where
  values : ReadsValues entries check
  operator : canonicalOperator operators operator = .ok check.operator
  named : Name.isVariable check.operator.toList = true
  expected : check.expected = expected
  single : ¬(Value.hasField "ignoreCase" entries = true ∧
    Value.hasField "ignore_case" entries = true)

/-- The names of the fields that are read as they stand. -/
def valueNames : List String :=
  ["kind", "title", "description", "value", "ignoreCase", "ignore_case", "each", "count"]

theorem lookup?_congr {first second : List (Value × Value)} {names : List String}
    (same : ∀ name ∈ names, Value.field? name first = Value.field? name second) :
    lookup? first names = lookup? second names := by
  induction names with
  | nil => rfl
  | cons name rest ih =>
      obtain ⟨here, later⟩ := List.forall_mem_cons.mp same
      rw [lookup?, lookup?, here, ih later]

theorem ReadsValues.congr {first second : List (Value × Value)} {check : AssertionStep}
    (same : ∀ name ∈ valueNames, Value.field? name first = Value.field? name second)
    (reads : ReadsValues first check) : ReadsValues second check := by
  have ignoreCase : lookup? first ignoreCaseNames = lookup? second ignoreCaseNames := by
    apply lookup?_congr
    intro name member
    apply same
    simp only [ignoreCaseNames, List.mem_cons, List.not_mem_nil, or_false] at member
    rcases member with rfl | rfl <;> decide
  have field {name : String} (member : name ∈ valueNames) := same name member
  exact {
    title := field (by decide : "title" ∈ valueNames) ▸ reads.title
    description := field (by decide : "description" ∈ valueNames) ▸ reads.description
    kind := field (by decide : "kind" ∈ valueNames) ▸ reads.kind
    value := field (by decide : "value" ∈ valueNames) ▸ reads.value
    ignoreCase := ignoreCase ▸ reads.ignoreCase
    each := field (by decide : "each" ∈ valueNames) ▸ reads.each
    count := field (by decide : "count" ∈ valueNames) ▸ reads.count }

/-- The fields of an assertion that have one name only. -/
def singleNames : List String :=
  ["title", "description", "kind", "value", "operator", "expected", "each", "count"]

/-- The fields of an assertion, each with its names. -/
def assertionFieldNames : List (List String) := ignoreCaseNames :: singleNames.map ([·])

theorem mem_usedNames_iff {fields : List (List String)} {name : String} :
    name ∈ usedNames entries fields ↔
      ∃ names ∈ fields, (names.find? fun name => Value.hasField name entries) = some name := by
  unfold usedNames
  rw [List.mem_filterMap]
  simp only [map_fst_lookup?]

theorem hasField_of_mem {name : String} {entry : Value × Value} (member : entry ∈ entries)
    (same : entry.1 = .text name) : Value.hasField name entries = true :=
  List.any_eq_true.mpr ⟨entry, member, Value.beq_text_iff.mpr same⟩

theorem exists_mem_of_hasField {name : String} (present : Value.hasField name entries = true) :
    ∃ entry ∈ entries, entry.1 = .text name := by
  obtain ⟨entry, member, same⟩ := List.any_eq_true.mp present
  exact ⟨entry, member, Value.beq_text_iff.mp same⟩

/-- Of an assertion whose keys all have a meaning, only a second name of one field is not used. -/
theorem noExtras_assertion_iff (named : ∀ entry ∈ entries, isNamed assertionKeys entry.1 = true) :
    noExtras (usedNames entries assertionFieldNames) entries = .ok () ↔
      ¬(Value.hasField "ignoreCase" entries = true ∧
        Value.hasField "ignore_case" entries = true) := by
  rw [noExtras_eq_ok_iff]
  constructor
  · rintro clean ⟨first, second⟩
    obtain ⟨entry, member, key⟩ := exists_mem_of_hasField second
    obtain ⟨name, used, read⟩ := clean entry member
    rw [key] at read
    cases read
    obtain ⟨names, field, found⟩ := mem_usedNames_iff.mp used
    rcases List.mem_cons.mp field with rfl | later
    · simp [ignoreCaseNames, first] at found
    · obtain ⟨single, singleMember, rfl⟩ := List.mem_map.mp later
      have same := List.mem_singleton.mp (List.mem_of_find?_eq_some found)
      exact absurd (same ▸ singleMember) (by decide)
  · intro single entry member
    obtain ⟨name, nameMember, key⟩ := isNamed_iff.mp (named entry member)
    have present := hasField_of_mem member key
    refine ⟨name, mem_usedNames_iff.mpr ?_, by rw [key]; rfl⟩
    by_cases only : name ∈ singleNames
    · exact ⟨[name], List.mem_cons_of_mem _ (List.mem_map_of_mem only), by simp [present]⟩
    · refine ⟨ignoreCaseNames, List.mem_cons_self, ?_⟩
      have either : name = "ignoreCase" ∨ name = "ignore_case" := by
        simp [assertionKeys, singleNames] at nameMember only
        tauto
      rcases either with rfl | rfl
      · simp [ignoreCaseNames, present]
      · have first : Value.hasField "ignoreCase" entries = false :=
          Bool.eq_false_iff.mpr fun first => single ⟨first, present⟩
        simp [ignoreCaseNames, first, present]

theorem required_any_eq_ok_iff {name : String} {v : Value} :
    required entries [name] any = .ok v ↔ Value.field? name entries = some v := by
  rw [required_eq_ok_iff]
  constructor
  · rintro ⟨held, found, same⟩
    cases same
    exact found
  · intro found
    exact ⟨v, found, rfl⟩

theorem assertionFields_eq_ok_iff {check : AssertionStep} :
    assertionFields entries = .ok check ↔ ReadsValues entries check ∧
      (∃ v, Value.field? "operator" entries = some v ∧
        textWith Name.isVariable Name.variablePattern v = .ok check.operator) ∧
      Value.field? "expected" entries = some check.expected ∧
      noExtras (usedNames entries assertionFieldNames) entries = .ok () := by
  constructor
  · intro success
    obtain ⟨title, titleRead, success⟩ := bind_eq_ok_iff.mp success
    obtain ⟨description, descriptionRead, success⟩ := bind_eq_ok_iff.mp success
    obtain ⟨kind, kindRead, success⟩ := bind_eq_ok_iff.mp success
    obtain ⟨value, valueRead, success⟩ := bind_eq_ok_iff.mp success
    obtain ⟨operator, operatorRead, success⟩ := bind_eq_ok_iff.mp success
    obtain ⟨expected, expectedRead, success⟩ := bind_eq_ok_iff.mp success
    obtain ⟨ignoreCase, ignoreCaseRead, success⟩ := bind_eq_ok_iff.mp success
    obtain ⟨each, eachRead, success⟩ := bind_eq_ok_iff.mp success
    obtain ⟨count, countRead, success⟩ := bind_eq_ok_iff.mp success
    obtain ⟨_, clean, success⟩ := bind_eq_ok_iff.mp success
    cases success
    refine ⟨?_, required_eq_ok_iff.mp operatorRead, required_any_eq_ok_iff.mp expectedRead, clean⟩
    exact {
      title := withDefault_singleton_eq_ok_iff.mp titleRead
      description := withDefault_singleton_eq_ok_iff.mp descriptionRead
      kind := ⟨kind, required_eq_ok_iff.mp kindRead⟩
      value := required_any_eq_ok_iff.mp valueRead
      ignoreCase := withDefault_eq_ok_iff.mp ignoreCaseRead
      each := withDefault_singleton_eq_ok_iff.mp eachRead
      count := withDefault_singleton_eq_ok_iff.mp countRead }
  · rintro ⟨reads, operatorRead, expectedHeld, clean⟩
    obtain ⟨word, kindRead⟩ := reads.kind
    unfold assertionFields
    rw [withDefault_singleton_eq_ok_iff.mpr reads.title,
      withDefault_singleton_eq_ok_iff.mpr reads.description, required_eq_ok_iff.mpr kindRead,
      required_any_eq_ok_iff.mpr reads.value, required_eq_ok_iff.mpr operatorRead,
      required_any_eq_ok_iff.mpr expectedHeld,
      withDefault_eq_ok_iff.mpr reads.ignoreCase, withDefault_singleton_eq_ok_iff.mpr reads.each,
      withDefault_singleton_eq_ok_iff.mpr reads.count]
    change (noExtras (usedNames entries assertionFieldNames) entries >>= fun _ => pure check) = _
    rw [clean]
    rfl

theorem collectOperator_eq_ok_iff {explicit : List (Value × Value)} :
    collectOperator entries = .ok explicit ↔
      (Value.hasField "operator" entries = true ∧ operatorKeys entries = [] ∧ explicit = entries) ∨
      Value.hasField "operator" entries = false ∧ ∃ key, operatorKeys entries = [key] ∧
        explicit = Ordered.put (.text "expected") ((Ordered.find? key entries).getD .null)
          (Ordered.erase key (Ordered.put (.text "operator") key entries)) := by
  unfold collectOperator
  dsimp only
  rw [show ((entries.map Prod.fst).filter fun key => !isNamed assertionKeys key) =
    operatorKeys entries from rfl]
  cases Value.hasField "operator" entries with
  | true =>
      rw [if_pos rfl]
      cases operatorKeys entries with
      | nil => simp [eq_comm]
      | cons key rest => simp [brokenRule_ne_ok]
  | false =>
      rw [if_neg Bool.false_ne_true]
      cases operatorKeys entries with
      | nil => simp [brokenRule_ne_ok]
      | cons key rest =>
          cases rest with
          | nil => simp [eq_comm]
          | cons second others => simp [brokenRule_ne_ok]

/-- The only key without a meaning of its own has no meaning of its own. -/
theorem ne_of_operatorKeys {key : Value} (only : operatorKeys entries = [key]) {name : String}
    (member : name ∈ assertionKeys) : key ≠ .text name := by
  rintro rfl
  have found : Value.text name ∈ operatorKeys entries := only ▸ List.mem_cons_self
  have unnamed := (List.mem_filter.mp found).2
  rw [isNamed_text.mpr member] at unnamed
  cases unnamed

section Collected

variable {explicit : List (Value × Value)} (collected : collectOperator entries = .ok explicit)
include collected

theorem field?_explicit {name : String} (member : name ∈ valueNames) :
    Value.field? name explicit = Value.field? name entries := by
  have notOperator : "operator" ≠ name := by
    rintro rfl
    exact absurd member (by decide)
  have notExpected : "expected" ≠ name := by
    rintro rfl
    exact absurd member (by decide)
  have known : name ∈ assertionKeys := by
    have subset : valueNames ⊆ assertionKeys := by decide
    exact subset member
  rcases collectOperator_eq_ok_iff.mp collected with ⟨_, _, rfl⟩ | ⟨_, key, only, rfl⟩
  · rfl
  · rw [Value.field?_put_of_ne notExpected,
      Value.field?_erase_of_ne (ne_of_operatorKeys only known), Value.field?_put_of_ne notOperator]

theorem hasField_explicit {name : String} (member : name ∈ valueNames) :
    Value.hasField name explicit = Value.hasField name entries := by
  rw [Value.hasField_eq_isSome, Value.hasField_eq_isSome, field?_explicit collected member]

/-- If the operator is a text, all keys that are left have a meaning of their own. -/
theorem isNamed_explicit {operator : Value} {given : String}
    (held : Value.field? "operator" explicit = some operator) (isText : text operator = .ok given) :
    ∀ entry ∈ explicit, isNamed assertionKeys entry.1 = true := by
  rcases collectOperator_eq_ok_iff.mp collected with ⟨_, none, rfl⟩ | ⟨_, key, only, rfl⟩
  · intro entry member
    by_contra unnamed
    have found : entry.1 ∈ operatorKeys explicit :=
      List.mem_filter.mpr ⟨List.mem_map_of_mem member, by simpa using unnamed⟩
    rw [none] at found
    cases found
  · rw [Value.field?_put_of_ne (by decide),
      Value.field?_erase_of_ne (ne_of_operatorKeys only (by decide)),
      Value.field?_put_self] at held
    cases held
    apply isNamed_put (by decide)
    intro entry member
    obtain ⟨member, apart⟩ := List.mem_filter.mp member
    rcases Value.mem_keys_put.mp (List.mem_map_of_mem member) with present | isOperator
    · by_contra unnamed
      have found : entry.1 ∈ operatorKeys entries :=
        List.mem_filter.mpr ⟨present, by simpa using unnamed⟩
      rw [only, List.mem_singleton] at found
      rw [found, beq_self_of_text isText] at apart
      cases apart
    · rw [isOperator]
      rfl

end Collected

/-- An assertion has an operator and an expected value if they can be made explicit. -/
theorem chooses_iff {operator expected : Value} : Chooses entries operator expected ↔
    ∃ explicit, collectOperator entries = .ok explicit ∧
      Value.field? "operator" explicit = some operator ∧
      Value.field? "expected" explicit = some expected := by
  constructor
  · intro chooses
    cases chooses with
    | explicit given none expects =>
        refine ⟨entries, collectOperator_eq_ok_iff.mpr (.inl ⟨?_, none, rfl⟩), given, expects⟩
        rw [Value.hasField_eq_isSome, given]
        rfl
    | asKey noOperator only =>
        refine ⟨_, collectOperator_eq_ok_iff.mpr (.inr ⟨?_, _, only, rfl⟩), ?_,
          Value.field?_put_self ..⟩
        · rw [Value.hasField_eq_isSome, noOperator]
          rfl
        · rw [Value.field?_put_of_ne (by decide),
            Value.field?_erase_of_ne (ne_of_operatorKeys only (by decide)), Value.field?_put_self]
  · rintro ⟨explicit, collected, given, expects⟩
    rcases collectOperator_eq_ok_iff.mp collected with ⟨_, none, rfl⟩ | ⟨noOperator, key, only, rfl⟩
    · exact .explicit given none expects
    · rw [Value.field?_put_of_ne (by decide),
        Value.field?_erase_of_ne (ne_of_operatorKeys only (by decide)),
        Value.field?_put_self] at given
      rw [Value.field?_put_self] at expects
      cases given
      cases expects
      apply Chooses.asKey _ only
      rw [Value.hasField_eq_isSome] at noOperator
      exact Option.isSome_eq_false_iff.mp noOperator |> Option.isNone_iff_eq_none.mp

/-- The operator that a canonical name is found for is a text in the document. -/
theorem exists_text_of_canonicalOperator {held : Option Value} {name : String}
    (resolved : canonicalOperator operators (held.getD .null) = .ok name) :
    ∃ given, held = some (.text given) := by
  obtain ⟨given, isText, _⟩ := canonicalOperator_eq_ok resolved
  cases held with
  | none => cases isText
  | some v => exact ⟨given, congrArg some isText⟩

theorem textWith_text_eq_ok_iff {rule : List Char → Bool} {pattern s read : String} :
    textWith rule pattern (.text s) = .ok read ↔ read = s ∧ rule s.toList = true := by
  unfold textWith
  change (if rule s.toList then _ else _) = _ ↔ _
  split
  · rename_i obeys
    simp [obeys, pure, Except.pure, eq_comm]
  · rename_i breaks
    simp [breaks, Issue.here]

/-- Putting the canonical name of the operator into a document whose operator is explicit. -/
theorem assertionFields_put_eq_ok_iff {explicit : List (Value × Value)}
    (named : ∀ entry ∈ explicit, isNamed assertionKeys entry.1 = true) {name : String}
    {check : AssertionStep} :
    assertionFields (Ordered.put (.text "operator") (.text name) explicit) = .ok check ↔
      ReadsValues explicit check ∧ (check.operator = name ∧ Name.isVariable name.toList = true) ∧
        Value.field? "expected" explicit = some check.expected ∧
        ¬(Value.hasField "ignoreCase" explicit = true ∧
          Value.hasField "ignore_case" explicit = true) := by
  have values : ∀ other ∈ valueNames, Value.field? other
      (Ordered.put (.text "operator") (.text name) explicit) = Value.field? other explicit := by
    intro other member
    apply Value.field?_put_of_ne
    rintro rfl
    exact absurd member (by decide)
  have stillNamed := isNamed_put (by decide : "operator" ∈ assertionKeys) named (.text name)
  rw [assertionFields_eq_ok_iff, noExtras_assertion_iff stillNamed, Value.field?_put_self,
    Value.field?_put_of_ne (by decide)]
  simp only [Value.hasField_eq_isSome, values "ignoreCase" (by decide),
    values "ignore_case" (by decide)]
  apply and_congr ⟨ReadsValues.congr values, ReadsValues.congr fun other member =>
    (values other member).symm⟩
  apply and_congr_left
  intro _
  constructor
  · rintro ⟨v, same, read⟩
    cases same
    exact textWith_text_eq_ok_iff.mp read
  · intro read
    exact ⟨_, rfl, textWith_text_eq_ok_iff.mpr read⟩

theorem readAssertion_eq_ok_iff {check : AssertionStep} :
    readAssertion (some operators) entries = .ok check ↔ ∃ operator expected,
      Chooses entries operator expected ∧
        ReadsAssertion operators entries operator expected check := by
  constructor
  · intro success
    obtain ⟨explicit, collected, success⟩ := bind_eq_ok_iff.mp success
    obtain ⟨canonical, named, success⟩ := bind_eq_ok_iff.mp success
    obtain ⟨name, resolved, same⟩ := bind_eq_ok_iff.mp named
    cases same
    obtain ⟨given, held⟩ := exists_text_of_canonicalOperator resolved
    obtain ⟨values, ⟨same, variable_⟩, expects, single⟩ :=
      (assertionFields_put_eq_ok_iff (isNamed_explicit collected held rfl)).mp
        (mapError_eq_ok_iff.mp success)
    rw [held] at resolved
    refine ⟨.text given, check.expected, chooses_iff.mpr ⟨explicit, collected, held, expects⟩, ?_⟩
    exact {
      values := values.congr fun _ member => field?_explicit collected member
      operator := same ▸ resolved
      named := same ▸ variable_
      expected := rfl
      single := by
        rwa [hasField_explicit collected (by decide : "ignoreCase" ∈ valueNames),
          hasField_explicit collected (by decide : "ignore_case" ∈ valueNames)] at single }
  · rintro ⟨operator, expected, chooses, reads⟩
    obtain ⟨explicit, collected, held, expects⟩ := chooses_iff.mp chooses
    obtain ⟨given, rfl, _⟩ := canonicalOperator_eq_ok reads.operator
    have named : canonicalize (some operators) explicit =
        .ok (Ordered.put (.text "operator") (.text check.operator) explicit) := by
      unfold canonicalize
      rw [held]
      exact bind_eq_ok_iff.mpr ⟨check.operator, reads.operator, rfl⟩
    refine bind_eq_ok_iff.mpr ⟨explicit, collected, bind_eq_ok_iff.mpr ⟨_, named, ?_⟩⟩
    rw [mapError_eq_ok_iff, assertionFields_put_eq_ok_iff (isNamed_explicit collected held rfl)]
    refine ⟨reads.values.congr fun _ member => (field?_explicit collected member).symm,
      ⟨rfl, reads.named⟩, reads.expected ▸ expects, ?_⟩
    rw [hasField_explicit collected (by decide : "ignoreCase" ∈ valueNames),
      hasField_explicit collected (by decide : "ignore_case" ∈ valueNames)]
    exact reads.single

end Step

end Playbook
