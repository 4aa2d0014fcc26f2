import Playbook.Proofs.IdleKeys

/-!
# Keys of steps that matter

A step document is read to the same step without a key only if the key is without effect, or if
all that it gives is given again under other keys.
-/

namespace Playbook

namespace Field

variable {entries : List (Value × Value)} {key v : Value}

/-- Among keys with texts, a value is found under its own key. -/
theorem Named.mem_of_find? (named : Named entries) (held : Ordered.find? key entries = some v) :
    (key, v) ∈ entries := by
  obtain ⟨entry, member, same, rfl⟩ := Ordered.exists_mem_of_find? held
  obtain ⟨name, read⟩ := named entry member
  rw [← eq_of_beq_of_text read same]
  exact member

end Field

namespace Step

open Fallible Playbook.Field

/-- Equality of steps, with parameters and exports in any order. -/
def Same : Step → Step → Prop
  | .action first, .action second =>
      first.params.Perm second.params ∧ first.exports.Perm second.exports ∧
        first = { second with params := first.params, exports := first.exports }
  | .assertion first, .assertion second => first = second
  | _, _ => False

theorem Same.refl (step : Step) : step.Same step := by
  cases step with
  | action task => exact ⟨.refl _, .refl _, rfl⟩
  | assertion check => rfl

/-- A key whose parameters are given under other keys, too: keys that differ may be read as the
same text. -/
inductive IsRepeated (entries : List (Value × Value)) (key : Value) : Prop where
  | beside {name : String} (action : isAssertion entries = false)
      (unnamed : isNamed actionKeys key = false) (read : text key = .ok name)
      (again : name ∈ keyNames (parameters (Ordered.erase key entries))) : IsRepeated entries key
  | nested {params : List (Value × Value)} (action : isAssertion entries = false)
      (isParams : key = .text "params") (given : nestedParams? entries = some params)
      (nonempty : params ≠ []) (again : keyNames params ⊆ keyNames (inlineParams entries)) :
      IsRepeated entries key

variable {entries : List (Value × Value)} {key v : Value} {name : String}

/-! ## Actions -/

theorem isText_of_isNamed {names : List String} {key : Value} (named : isNamed names key = true) :
    ∃ name, text key = .ok name := by
  obtain ⟨name, _, rfl⟩ := isNamed_iff.mp named
  exact ⟨name, rfl⟩

/-- All keys of an action that is read are texts. -/
theorem named_of_readAction {task : ActionStep} (success : readAction (.map entries) = .ok task) :
    Named entries := by
  obtain ⟨held, gathers, reads⟩ := readAction_eq_ok_iff.mp success
  intro entry member
  by_cases own : isNamed actionKeys entry.1 = true
  · exact isText_of_isNamed own
  · have inline : entry ∈ inlineParams entries :=
      List.mem_filter.mpr ⟨member, by simpa using own⟩
    cases gathers with
    | asGiven empty =>
        rw [empty] at inline
        cases inline
    | joined =>
        exact named_of_putAll (named_of_mapping reads.params) entry (List.mem_append_right _ inline)

theorem ReadsAction.lacks_of_erase {source : Option Value} {task : ActionStep}
    (reads : ReadsAction (Ordered.erase (.text name) entries) source task)
    (member : name ∈ optionalActionNames) : ActionLacks task name := by
  simp only [optionalActionNames, List.mem_cons, List.not_mem_nil, or_false] at member
  rcases member with rfl | rfl | rfl | rfl
  · exact reads.title.eq_fallback
  · exact reads.description.eq_fallback
  · exact reads.exports.eq_fallback
  · exact reads.timeout.eq_fallback

theorem ActionLacks.of_same {task other : ActionStep} (lacks : ActionLacks other name)
    (member : name ∈ optionalActionNames) (same : Same (.action other) (.action task)) :
    ActionLacks task name := by
  obtain ⟨_, exports, fields⟩ := same
  have title : other.title = task.title := by rw [fields]
  have description : other.description = task.description := by rw [fields]
  have timeout : other.timeout = task.timeout := by rw [fields]
  simp only [optionalActionNames, List.mem_cons, List.not_mem_nil, or_false] at member
  rcases member with rfl | rfl | rfl | rfl
  · exact title.symm.trans lacks
  · exact description.symm.trans lacks
  · rw [show other.exports = [] from lacks] at exports
    exact List.nil_perm.mp exports
  · exact timeout.symm.trans lacks

theorem mem_keyNames_parameters_of_same {others : List (Value × Value)} {task other : ActionStep}
    (success : readAction (.map entries) = .ok task)
    (again : readAction (.map others) = .ok other)
    (same : Same (.action other) (.action task)) (member : name ∈ keyNames (parameters entries)) :
    name ∈ keyNames (parameters others) := by
  have params : (other.params.map Prod.fst).Perm (task.params.map Prod.fst) := same.1.map _
  exact (mem_params_iff again).mp (params.mem_iff.mpr ((mem_params_iff success).mpr member))

theorem params_of_readAction_erase {task other : ActionStep}
    (success : readAction (.map entries) = .ok task) (action : isAssertion entries = false)
    (held : Value.field? "params" entries = some v)
    (again : readAction (.map (Ordered.erase (.text "params") entries)) = .ok other)
    (same : Same (.action other) (.action task)) :
    IsActionDefault "params" v ∨ IsRepeated entries (.text "params") := by
  cases full : v.isTrue with
  | false => exact .inl full
  | true =>
      obtain ⟨source, gathers, reads⟩ := readAction_eq_ok_iff.mp success
      have given : nestedParams? entries ≠ none := by
        cases gathers with
        | asGiven => exact nestedParams?_ne_none reads.params
        | joined _ nested => simp [nested]
      obtain ⟨params, nested⟩ := Option.ne_none_iff_exists'.mp given
      have nonempty : params ≠ [] := by
        rintro rfl
        rw [nestedParams?_of_held held, full, if_pos rfl] at nested
        cases v with
        | map others =>
            cases nested
            cases full
        | _ => cases nested
      refine .inr (.nested action rfl nested nonempty fun name member => ?_)
      have present : name ∈ keyNames (parameters entries) := by
        rw [parameters, nested, keyNames_append]
        exact List.mem_append_left _ member
      have kept := mem_keyNames_parameters_of_same success again same present
      rw [parameters, nestedParams?_erase, inlineParams_erase_of_mem (by decide)] at kept
      exact kept

/-- A key of an action whose removal changes nothing holds the default of its field, or is
repeated. -/
theorem idle_of_readAction_erase {task other : ActionStep}
    (success : readAction (.map entries) = .ok task) (action : isAssertion entries = false)
    (held : Ordered.find? key entries = some v)
    (again : readAction (.map (Ordered.erase key entries)) = .ok other)
    (same : Same (.action other) (.action task)) :
    HoldsDefault entries key v ∨ IsRepeated entries key := by
  by_cases named : isNamed actionKeys key = true
  · obtain ⟨name, member, rfl⟩ := isNamed_iff.mp named
    rw [holdsDefault_action_iff action]
    obtain ⟨_, _, reads⟩ := readAction_eq_ok_iff.mp success
    obtain ⟨_, _, readsAgain⟩ := readAction_eq_ok_iff.mp again
    by_cases optional_ : name ∈ optionalActionNames
    · have lacks := (readsAgain.lacks_of_erase optional_).of_same optional_ same
      exact .inl ((reads.lacks_iff optional_ held).mp lacks)
    · -- What is left is the kind, which is required, and the mapping of parameters.
      have either : name = "kind" ∨ name = "params" := by
        simp [actionKeys, optionalActionNames] at member optional_
        tauto
      rcases either with rfl | rfl
      · obtain ⟨_, found, _⟩ := readsAgain.kind
        rw [field?_erase_self] at found
        cases found
      · exact params_of_readAction_erase success action held again same
  · have texts := named_of_readAction success
    have member := texts.mem_of_find? held
    obtain ⟨name, read⟩ := texts _ member
    have present : name ∈ keyNames (parameters entries) := by
      rw [parameters, keyNames_append]
      apply List.mem_append_right
      exact mem_keyNames_iff.mpr ⟨_, List.mem_filter.mpr ⟨member, by simpa using named⟩, read⟩
    exact .inr (.beside action (Bool.eq_false_iff.mpr named) read
      (mem_keyNames_parameters_of_same success again same present))

/-! ## Assertions -/

variable {operators : OperatorNames} {operator expected : Value}

/-- All keys of an assertion that is read are texts. -/
theorem isText_of_readAssertion {check : AssertionStep}
    (success : readAssertion (some operators) entries = .ok check) :
    ∀ entry ∈ entries, ∃ name, entry.1 = .text name := by
  obtain ⟨operator, expected, chooses, reads⟩ := readAssertion_eq_ok_iff.mp success
  obtain ⟨given, rfl, _⟩ := canonicalOperator_eq_ok reads.operator
  intro entry member
  by_cases own : isNamed assertionKeys entry.1 = true
  · obtain ⟨name, _, same⟩ := isNamed_iff.mp own
    exact ⟨name, same⟩
  · have found : entry.1 ∈ operatorKeys entries :=
      List.mem_filter.mpr ⟨List.mem_map_of_mem member, by simpa using own⟩
    cases chooses with
    | explicit _ none =>
        rw [none] at found
        cases found
    | asKey _ only =>
        rw [only, List.mem_singleton] at found
        exact ⟨given, found⟩

/-- Without an operator as a key, the operator and the expected value have keys of their own. -/
theorem Chooses.held_of_none (chooses : Chooses entries operator expected)
    (none : operatorKeys entries = []) : Value.field? "operator" entries = some operator ∧
      Value.field? "expected" entries = some expected := by
  cases chooses with
  | explicit given _ expects => exact ⟨given, expects⟩
  | asKey _ only =>
      rw [none] at only
      cases only

theorem mem_assertionKeys_of_erase {otherOperator otherExpected : Value}
    (chooses : Chooses entries operator expected)
    (again : Chooses (Ordered.erase (.text name) entries) otherOperator otherExpected)
    (present : Value.text name ∈ entries.map Prod.fst) : name ∈ assertionKeys := by
  by_contra unnamed
  have found : Value.text name ∈ operatorKeys entries := by
    refine List.mem_filter.mpr ⟨present, ?_⟩
    rw [Bool.not_eq_true', Bool.eq_false_iff]
    exact fun own => unnamed (isNamed_text.mp own)
  cases chooses with
  | explicit _ none =>
      rw [none] at found
      cases found
  | asKey absent only =>
      -- The key was the operator, and without it there is none.
      rw [only, List.mem_singleton] at found
      subst found
      have none : operatorKeys (Ordered.erase (.text name) entries) = [] := by
        rw [operatorKeys_erase, only]
        simp [Value.beq_text_iff]
      have notOperator : name ≠ "operator" := by
        rintro rfl
        exact unnamed (by decide)
      have given := (again.held_of_none none).1
      rw [field?_erase_text notOperator, absent] at given
      cases given

/-- An explicit operator is chosen neither without its key nor without an expected value. -/
theorem operator_of_erase {otherOperator otherExpected : Value}
    (chooses : Chooses entries operator expected)
    (again : Chooses (Ordered.erase (.text name) entries) otherOperator otherExpected)
    (isChoice : name = "operator" ∨ name = "expected") :
    Value.field? "operator" entries = none := by
  cases chooses with
  | asKey absent => exact absent
  | explicit _ none =>
      have member : name ∈ assertionKeys := by rcases isChoice with rfl | rfl <;> decide
      obtain ⟨given, expects⟩ := again.held_of_none
        ((operatorKeys_erase_of_mem member entries).trans none)
      rcases isChoice with rfl | rfl
      · rw [field?_erase_self] at given
        cases given
      · rw [field?_erase_self] at expects
        cases expects

theorem ReadsAssertion.lacks_of_erase {check other : AssertionStep}
    {otherOperator otherExpected : Value}
    (reads : ReadsAssertion operators entries operator expected check)
    (held : Value.field? name entries = some v)
    (again : ReadsAssertion operators (Ordered.erase (.text name) entries) otherOperator
      otherExpected other)
    (member : name ∈ optionalAssertionNames) : AssertionLacks other name := by
  have flag (isFlag : name ∈ ignoreCaseNames) : other.ignoreCase = false := by
    have unset := again.values.ignoreCase
    rw [(ignoreCase_erase reads.single isFlag held).2] at unset
    exact unset
  simp only [optionalAssertionNames, List.mem_cons, List.not_mem_nil, or_false] at member
  rcases member with rfl | rfl | rfl | rfl | rfl | rfl
  · exact again.values.title.eq_fallback
  · exact again.values.description.eq_fallback
  · exact again.values.count.eq_fallback
  · exact flag (by decide)
  · exact flag (by decide)
  · exact again.values.each.eq_fallback

/-- A key of an assertion whose removal changes nothing holds the default of its field, or is
overwritten. -/
theorem idle_of_readAssertion_erase {check : AssertionStep}
    (success : readAssertion (some operators) entries = .ok check)
    (assertion : isAssertion entries = true) (held : Ordered.find? key entries = some v)
    (again : readAssertion (some operators) (Ordered.erase key entries) = .ok check) :
    HoldsDefault entries key v ∨ IsOverwritten entries key := by
  obtain ⟨operator, expected, chooses, reads⟩ := readAssertion_eq_ok_iff.mp success
  obtain ⟨_, _, choosesAgain, readsAgain⟩ := readAssertion_eq_ok_iff.mp again
  have texts := isText_of_readAssertion success
  have named : Named entries := by
    intro entry member
    obtain ⟨name, same⟩ := texts entry member
    exact ⟨name, same ▸ rfl⟩
  have present := named.mem_of_find? held
  obtain ⟨name, rfl⟩ := texts _ present
  have member := mem_assertionKeys_of_erase chooses choosesAgain (List.mem_map_of_mem present)
  by_cases optional_ : name ∈ optionalAssertionNames
  · rw [holdsDefault_assertion_iff assertion]
    have lacks := reads.lacks_of_erase held readsAgain optional_
    exact .inl ((reads.lacks_iff optional_ held).mp lacks)
  · have required_ : name = "kind" ∨ name = "value" ∨ name = "operator" ∨ name = "expected" := by
      simp [assertionKeys, optionalAssertionNames] at member optional_
      tauto
    rcases required_ with rfl | rfl | rfl | rfl
    · obtain ⟨_, _, found, _⟩ := readsAgain.values.kind
      rw [field?_erase_self] at found
      cases found
    · have found := readsAgain.values.value
      rw [field?_erase_self] at found
      cases found
    · have absent := operator_of_erase chooses choosesAgain (.inl rfl)
      cases absent.symm.trans held
    · have absent := operator_of_erase chooses choosesAgain (.inr rfl)
      refine .inr ⟨assertion, ?_, rfl⟩
      rw [Value.hasField_eq_isSome, absent]
      rfl

/-! ## Steps -/

/-- No step is read without its kind. -/
theorem read_erase_kind (operators : OperatorNames) (entries : List (Value × Value)) (step : Step) :
    read (some operators) (.map (Ordered.erase (.text "kind") entries)) ≠ .ok step := by
  have action : isAssertion (Ordered.erase (.text "kind") entries) = false := by
    unfold isAssertion
    rw [field?_erase_self]
    rfl
  intro success
  obtain ⟨task, _, success⟩ := (read_action_eq_ok_iff action).mp success
  obtain ⟨_, _, reads⟩ := readAction_eq_ok_iff.mp success
  obtain ⟨_, found, _⟩ := reads.kind
  rw [field?_erase_self] at found
  cases found

/-- A key without which the same step is read holds the default of its field, or what it gives is
given by other keys. -/
theorem idle_of_read_erase {step other : Step}
    (success : read (some operators) (.map entries) = .ok step)
    (held : Ordered.find? key entries = some v)
    (again : read (some operators) (.map (Ordered.erase key entries)) = .ok other)
    (same : other.Same step) :
    HoldsDefault entries key v ∨ IsOverwritten entries key ∨ IsRepeated entries key := by
  have notKind : key ≠ .text "kind" := by
    rintro rfl
    exact read_erase_kind operators entries other again
  have form := isAssertion_erase notKind entries
  cases assertion : isAssertion entries with
  | false =>
      obtain ⟨task, rfl, reading⟩ := (read_action_eq_ok_iff assertion).mp success
      obtain ⟨otherTask, rfl, erased⟩ := (read_action_eq_ok_iff (form.trans assertion)).mp again
      exact (idle_of_readAction_erase reading assertion held erased same).imp_right .inr
  | true =>
      obtain ⟨check, rfl, reading⟩ := (read_assertion_eq_ok_iff assertion).mp success
      obtain ⟨otherCheck, rfl, erased⟩ := (read_assertion_eq_ok_iff (form.trans assertion)).mp again
      cases (show otherCheck = check from same)
      exact (idle_of_readAssertion_erase reading assertion held erased).imp_right .inl

end Step

namespace Scenario

open Step

/-- Without a key, a step document is refused or another step is read, unless the key holds the
default of its field or what it gives is given by other keys: by an operator that overwrites it,
or by keys of parameters with the same text.  Without a default and without an overwritten value,
the same step is read. -/
theorem readStep_erase {registry : Registry} {filename : Option String} {number : Nat}
    {entries : List (Value × Value)} {step : Step} {key v : Value}
    (accepted : readStep registry filename number (.map entries) = .ok step)
    (held : Ordered.find? key entries = some v) :
    (∀ other, readStep registry filename number (.map (Ordered.erase key entries)) = .ok other →
      other.Same step →
      HoldsDefault entries key v ∨ IsOverwritten entries key ∨ IsRepeated entries key) ∧
    (HoldsDefault entries key v ∨ IsOverwritten entries key →
      readStep registry filename number (.map (Ordered.erase key entries)) = .ok step) := by
  obtain ⟨reading, passes⟩ := readStep_eq_ok accepted
  constructor
  · intro other again same
    exact idle_of_read_erase reading held (readStep_eq_ok again).1 same
  · intro idle
    exact readStep_of_passes (read_erase_of_idle reading held idle) passes

/-- A title that holds nothing can be left out of a document, a parameter cannot. -/
theorem readStep_erase_set :
    let entries : List (Value × Value) :=
      [(.text "kind", .text "set"), (.text "title", .null),
        (.text "params", .map [(.text "a", .int 1)]), (.text "b", .int 2)]
    let step : Step := .action ⟨none, none, "set", [("a", .int 1), ("b", .int 2)], [], none⟩
    readStep .builtin none 1 (.map entries) = .ok step ∧
      readStep .builtin none 1 (.map (Ordered.erase (.text "title") entries)) = .ok step ∧
      ∀ other, readStep .builtin none 1 (.map (Ordered.erase (.text "b") entries)) = .ok other →
        ¬other.Same step := by
  intro entries step
  have accepted : readStep .builtin none 1 (.map entries) = .ok step := by
    apply readStep_of_passes <;> rfl
  have title : Ordered.find? (.text "title") entries = some .null := rfl
  have param : Ordered.find? (.text "b") entries = some (.int 2) := rfl
  obtain ⟨_, withoutTitle⟩ := readStep_erase accepted title
  obtain ⟨withoutParam, _⟩ := readStep_erase accepted param
  refine ⟨accepted, withoutTitle (.inl ⟨"title", rfl, rfl⟩), fun other again same => ?_⟩
  rcases withoutParam other again same with default_ | ⟨_, _, isExpected⟩ | repeated
  · exact (holdsDefault_action_iff rfl).mp default_
  · exact absurd (Value.text.inj isExpected) (by decide)
  · cases repeated with
    | beside _ _ read member =>
        cases read
        exact absurd member (by decide)
    | nested _ isParams => exact absurd (Value.text.inj isParams) (by decide)

/-- An expected value next to an operator that is a key is neither read nor refused. -/
theorem readStep_overwritten_expected :
    let entries : List (Value × Value) :=
      [(.text "kind", .text "assert"), (.text "value", .int 1), (.text "equals", .int 2),
        (.text "expected", .int 3)]
    let step : Step := .assertion ⟨none, none, .int 1, "equals", .int 2, false, false, none⟩
    readStep .builtin none 1 (.map entries) = .ok step ∧
      Ordered.find? (.text "expected") entries = some (.int 3) ∧
      ¬HoldsDefault entries (.text "expected") (.int 3) ∧
      readStep .builtin none 1 (.map (Ordered.erase (.text "expected") entries)) = .ok step := by
  intro entries step
  refine ⟨?_, rfl, (holdsDefault_assertion_iff rfl).mp, ?_⟩
  · apply readStep_of_passes <;> rfl
  · apply readStep_of_passes <;> rfl

/-- Two keys with the same text are one parameter. -/
example : ∃ step,
    readStep .builtin none 1 (.map [(.text "kind", .text "set"), (.text "a", .int 1),
      (.bytes [97], .int 2)]) = .ok step ∧
    readStep .builtin none 1 (.map [(.text "kind", .text "set"), (.bytes [97], .int 2)]) =
      .ok step := by
  refine ⟨.action ⟨none, none, "set", [("a", .int 2)], [], none⟩, ?_, ?_⟩
  · apply readStep_of_passes <;> rfl
  · apply readStep_of_passes <;> rfl

end Scenario

end Playbook
