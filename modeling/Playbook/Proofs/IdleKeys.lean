import Playbook.Proofs.AssertionDocuments

/-!
# Keys without effect

A key that holds the default of its field can be removed from a step document: the same step is
read.  So can the expected value of an assertion whose operator is a key, since it is overwritten
by what this key holds.
-/

namespace Playbook

namespace Field

variable {entries : List (Value × Value)} {v : Value} {name : String}

@[simp] theorem field?_erase_self (name : String) (entries : List (Value × Value)) :
    Value.field? name (Ordered.erase (.text name) entries) = none :=
  Ordered.find?_erase_self ..

theorem field?_erase_text {other : String} (distinct : name ≠ other)
    (entries : List (Value × Value)) :
    Value.field? other (Ordered.erase (.text name) entries) = Value.field? other entries :=
  Value.field?_erase_of_ne (fun same => distinct (Value.text.inj same)) entries

/-- A field falls back on its default without its key, and does not see that others are gone. -/
theorem Gives.erase {α : Type} {removed : String} {check : Value → Checked α} {fallback a : α}
    (gives : Gives (Value.field? name entries) check fallback a)
    (fallsBack : removed = name → a = fallback) :
    Gives (Value.field? name (Ordered.erase (.text removed) entries)) check fallback a := by
  by_cases same : removed = name
  · subst same
    rw [field?_erase_self]
    exact fallsBack rfl
  · rw [field?_erase_text same]
    exact gives

theorem Gives.of_held {α : Type} {check : Value → Checked α} {fallback a : α}
    (gives : Gives (Value.field? name entries) check fallback a)
    (held : Value.field? name entries = some v) : check v = .ok a := by
  rw [held] at gives
  exact gives

theorem Gives.eq_fallback {α : Type} {check : Value → Checked α} {fallback a : α}
    (gives : Gives (Value.field? name (Ordered.erase (.text name) entries)) check fallback a) :
    a = fallback := by
  rw [field?_erase_self] at gives
  exact gives

theorem Gives.eq_none_iff {α : Type} {check : Value → Checked α} {a : Option α}
    (gives : Gives (Value.field? name entries) (optional check) none a)
    (held : Value.field? name entries = some v) : a = none ↔ v = .null := by
  have nothing : optional check v = .ok none ↔ v = .null := optional_eq_ok_none_iff
  rw [← nothing, gives.of_held held]
  simp

end Field

namespace Step

open Fallible Playbook.Field

/-- What the optional fields of actions are given as where they have their default. -/
def IsActionDefault : String → Value → Prop
  | "title", v => v = .null
  | "description", v => v = .null
  | "export", v => v = .map []
  | "timeout", v => v = .null
  | "params", v => v.isTrue = false
  | _, _ => False

/-- What the optional fields of assertions are given as where they have their default. -/
def IsAssertionDefault : String → Value → Prop
  | "title", v => v = .null
  | "description", v => v = .null
  | "count", v => v = .null
  | "ignoreCase", v => truth v = .ok false
  | "ignore_case", v => truth v = .ok false
  | "each", v => truth v = .ok false
  | _, _ => False

/-- A key of a step document that holds the default of its field. -/
def HoldsDefault (entries : List (Value × Value)) (key v : Value) : Prop :=
  ∃ name, key = .text name ∧
    if isAssertion entries then IsAssertionDefault name v else IsActionDefault name v

/-- The expected value of an assertion whose operator is a key. -/
def IsOverwritten (entries : List (Value × Value)) (key : Value) : Prop :=
  isAssertion entries = true ∧ Value.hasField "operator" entries = false ∧ key = .text "expected"

variable {entries : List (Value × Value)} {key v : Value} {name : String}

/-- Removing a key with a meaning of its own keeps the entries whose keys have none. -/
theorem filter_unnamed_erase {names : List String} (member : name ∈ names)
    (entries : List (Value × Value)) :
    ((Ordered.erase (.text name) entries).filter fun entry => !isNamed names entry.1) =
      entries.filter fun entry => !isNamed names entry.1 := by
  unfold Ordered.erase
  rw [List.filter_filter]
  apply List.filter_congr
  intro entry _
  by_cases same : entry.1 = .text name
  · simp [same, isNamed_text.mpr member]
  · have other : (entry.1 == .text name) = false :=
      Bool.eq_false_iff.mpr fun found => same (Value.beq_text_iff.mp found)
    rw [other, Bool.not_false, Bool.and_true]

/-! ## Actions -/

theorem inlineParams_erase_of_mem (member : name ∈ actionKeys)
    (entries : List (Value × Value)) :
    inlineParams (Ordered.erase (.text name) entries) = inlineParams entries :=
  filter_unnamed_erase member entries

theorem nestedParams?_congr {first second : List (Value × Value)}
    (same : Value.field? "params" first = Value.field? "params" second) :
    nestedParams? first = nestedParams? second := by
  unfold nestedParams?
  rw [same]

theorem nestedParams?_of_held (held : Value.field? "params" entries = some v) :
    nestedParams? entries = if v.isTrue then v.entries? else some [] := by
  unfold nestedParams?
  rw [held]

theorem nestedParams?_erase (entries : List (Value × Value)) :
    nestedParams? (Ordered.erase (.text "params") entries) = some [] := by
  unfold nestedParams?
  rw [field?_erase_self]

theorem Gathers.erase {held : Option Value} (gathers : Gathers entries held)
    (member : name ∈ actionKeys) (other : name ≠ "params") :
    Gathers (Ordered.erase (.text name) entries) held := by
  have inline := inlineParams_erase_of_mem member entries
  have given := field?_erase_text other entries
  cases gathers with
  | asGiven empty =>
      rw [← given]
      exact .asGiven (inline.trans empty)
  | joined nonempty nested separate =>
      rw [← inline] at nonempty separate ⊢
      exact .joined nonempty ((nestedParams?_congr given).trans nested) separate

/-- The optional fields of an action but its parameters. -/
def optionalActionNames : List String := ["title", "description", "export", "timeout"]

/-- An action that has the default of an optional field. -/
def ActionLacks (task : ActionStep) : String → Prop
  | "title" => task.title = none
  | "description" => task.description = none
  | "export" => task.exports = []
  | "timeout" => task.timeout = none
  | _ => True

/-- An action has the default of a field if and only if its key holds it. -/
theorem ReadsAction.lacks_iff {source : Option Value} {task : ActionStep}
    (reads : ReadsAction entries source task) (member : name ∈ optionalActionNames)
    (held : Value.field? name entries = some v) :
    ActionLacks task name ↔ IsActionDefault name v := by
  simp only [optionalActionNames, List.mem_cons, List.not_mem_nil, or_false] at member
  rcases member with rfl | rfl | rfl | rfl
  · exact reads.title.eq_none_iff held
  · exact reads.description.eq_none_iff held
  · have nothing : mapping propertyKey text v = .ok [] ↔ v = .map [] := mapping_eq_ok_nil_iff
    rw [reads.exports.of_held held, Except.ok.injEq] at nothing
    exact nothing
  · exact reads.timeout.eq_none_iff held

/-- An action is read without a key whose field has its default. -/
theorem ReadsAction.erase {source : Option Value} {task : ActionStep}
    (reads : ReadsAction entries source task) (notKind : name ≠ "kind")
    (lacks : ActionLacks task name) :
    ReadsAction (Ordered.erase (.text name) entries) source task where
  title := reads.title.erase fun same => by
    subst same
    exact lacks
  description := reads.description.erase fun same => by
    subst same
    exact lacks
  kind := field?_erase_text notKind entries ▸ reads.kind
  params := reads.params
  exports := reads.exports.erase fun same => by
    subst same
    exact lacks
  timeout := reads.timeout.erase fun same => by
    subst same
    exact lacks

theorem readAction_erase_params {task : ActionStep}
    (success : readAction (.map entries) = .ok task)
    (held : Value.field? "params" entries = some v) (empty : v.isTrue = false) :
    readAction (.map (Ordered.erase (.text "params") entries)) = .ok task := by
  obtain ⟨source, gathers, reads⟩ := readAction_eq_ok_iff.mp success
  have inline := inlineParams_erase_of_mem (by decide : "params" ∈ actionKeys) entries
  have others (source : Option Value) (params : Gives source (mapping text any) [] task.params) :
      ReadsAction (Ordered.erase (.text "params") entries) source task :=
    ReadsAction.erase { reads with params := params } (by decide) trivial
  rw [readAction_eq_ok_iff]
  cases gathers with
  | asGiven noInline =>
      refine ⟨none, ?_, others none ?_⟩
      · rw [← field?_erase_self "params" entries]
        exact .asGiven (inline.trans noInline)
      · have read := reads.params.of_held held
        cases v with
        | map params =>
            cases params with
            | nil => exact (Except.ok.inj read).symm
            | cons entry rest => cases empty
        | _ => cases read
  | joined nonempty nested separate =>
      -- What counts as false stands for an empty mapping here, whatever it is.
      rw [nestedParams?_of_held held, empty] at nested
      cases nested
      refine ⟨_, .joined (inline ▸ nonempty) (nestedParams?_erase entries) rfl, ?_⟩
      rw [inline]
      exact others _ reads.params

/-- An action is the same without a key that holds the default of its field. -/
theorem readAction_erase_of_isDefault {task : ActionStep}
    (success : readAction (.map entries) = .ok task)
    (held : Value.field? name entries = some v) (default_ : IsActionDefault name v) :
    readAction (.map (Ordered.erase (.text name) entries)) = .ok task := by
  by_cases isParams : name = "params"
  · subst isParams
    exact readAction_erase_params success held default_
  · obtain ⟨source, gathers, reads⟩ := readAction_eq_ok_iff.mp success
    have member : name ∈ optionalActionNames := by
      unfold IsActionDefault at default_
      split at default_ <;> simp_all [optionalActionNames]
    have known : name ∈ actionKeys := by
      have subset : optionalActionNames ⊆ actionKeys := by decide
      exact subset member
    have notKind : name ≠ "kind" := by
      rintro rfl
      exact absurd member (by decide)
    exact readAction_eq_ok_iff.mpr ⟨source, gathers.erase known isParams,
      reads.erase notKind ((reads.lacks_iff member held).mpr default_)⟩

/-! ## Assertions -/

variable {operators : OperatorNames} {operator expected : Value}

theorem operatorKeys_erase (key : Value) (entries : List (Value × Value)) :
    operatorKeys (Ordered.erase key entries) =
      (operatorKeys entries).filter fun other => !(other == key) := by
  unfold operatorKeys Ordered.erase
  rw [List.filter_filter, List.filter_map, List.filter_map, List.filter_filter]
  exact congrArg _ (List.filter_congr fun _ _ => Bool.and_comm ..)

theorem operatorKeys_erase_of_mem (member : name ∈ assertionKeys)
    (entries : List (Value × Value)) :
    operatorKeys (Ordered.erase (.text name) entries) = operatorKeys entries := by
  unfold operatorKeys
  rw [List.filter_map, List.filter_map]
  exact congrArg _ (filter_unnamed_erase member entries)

/-- The operator and the expected value are chosen without a key that is none of theirs. -/
theorem Chooses.erase {given : String} (chooses : Chooses entries (.text given) expected)
    (member : name ∈ assertionKeys) (notOperator : name ≠ "operator")
    (overwritten : name = "expected" → Value.field? "operator" entries = none) :
    Chooses (Ordered.erase (.text name) entries) (.text given) expected := by
  have keys := operatorKeys_erase_of_mem member entries
  have operator := field?_erase_text notOperator entries
  cases chooses with
  | explicit held none expects =>
      have notExpected : name ≠ "expected" := by
        intro same
        rw [overwritten same] at held
        cases held
      exact .explicit (operator.trans held) (keys.trans none)
        ((field?_erase_text notExpected entries).trans expects)
  | asKey absent only =>
      -- The operator is none of the keys with a meaning, so it is still there.
      have distinct : name ≠ given := by
        rintro rfl
        exact ne_of_operatorKeys only member rfl
      have kept : Value.field? given (Ordered.erase (.text name) entries) =
          Value.field? given entries := field?_erase_text distinct entries
      have same : Ordered.find? (.text given) (Ordered.erase (.text name) entries) =
          Ordered.find? (.text given) entries := kept
      rw [← same]
      exact .asKey (operator.trans absent) (keys.trans only)

/-- The flag for letter case is not set without its key. -/
theorem ignoreCase_erase (single : ¬(Value.hasField "ignoreCase" entries = true ∧
      Value.hasField "ignore_case" entries = true)) (member : name ∈ ignoreCaseNames)
    (held : Value.field? name entries = some v) :
    lookup? entries ignoreCaseNames = some (name, v) ∧
      lookup? (Ordered.erase (.text name) entries) ignoreCaseNames = none := by
  rw [Value.hasField_eq_isSome, Value.hasField_eq_isSome] at single
  simp only [ignoreCaseNames, List.mem_cons, List.not_mem_nil, or_false] at member
  rcases member with rfl | rfl
  · have other : Value.field? "ignore_case" entries = none := by simpa [held] using single
    have gone := (field?_erase_text (by decide : "ignoreCase" ≠ "ignore_case") entries).trans other
    simp [ignoreCaseNames, lookup?, held, gone]
  · have other : Value.field? "ignoreCase" entries = none := by simpa [held] using single
    have gone := (field?_erase_text (by decide : "ignore_case" ≠ "ignoreCase") entries).trans other
    simp [ignoreCaseNames, lookup?, held, other, gone]

theorem lookup?_ignoreCase_erase (other : name ∉ ignoreCaseNames)
    (entries : List (Value × Value)) :
    lookup? (Ordered.erase (.text name) entries) ignoreCaseNames =
      lookup? entries ignoreCaseNames := by
  apply lookup?_congr
  intro own member
  apply field?_erase_text
  rintro rfl
  exact other member

theorem single_erase (single : ¬(Value.hasField "ignoreCase" entries = true ∧
      Value.hasField "ignore_case" entries = true)) (name : String) :
    ¬(Value.hasField "ignoreCase" (Ordered.erase (.text name) entries) = true ∧
      Value.hasField "ignore_case" (Ordered.erase (.text name) entries) = true) := by
  have present {other : String}
      (found : Value.hasField other (Ordered.erase (.text name) entries) = true) :
      Value.hasField other entries = true := by
    obtain ⟨entry, member, same⟩ := exists_mem_of_hasField found
    exact hasField_of_mem (List.mem_of_mem_filter member) same
  rintro ⟨first, second⟩
  exact single ⟨present first, present second⟩

/-- The optional fields of an assertion. -/
def optionalAssertionNames : List String :=
  ["title", "description", "count", "ignoreCase", "ignore_case", "each"]

/-- An assertion that has the default of an optional field. -/
def AssertionLacks (check : AssertionStep) : String → Prop
  | "title" => check.title = none
  | "description" => check.description = none
  | "count" => check.count = none
  | "ignoreCase" => check.ignoreCase = false
  | "ignore_case" => check.ignoreCase = false
  | "each" => check.each = false
  | _ => True

theorem AssertionLacks.ignoreCase {check : AssertionStep} (lacks : AssertionLacks check name)
    (member : name ∈ ignoreCaseNames) : check.ignoreCase = false := by
  simp only [ignoreCaseNames, List.mem_cons, List.not_mem_nil, or_false] at member
  rcases member with rfl | rfl <;> exact lacks

theorem countText_eq_ok_none_iff : countText v = .ok none ↔ v = .null := by
  unfold countText
  split
  · rename_i n
    apply iff_of_false _ nofun
    cases intText n <;> simp [Issue.here]
  · exact optional_eq_ok_none_iff

theorem ReadsAssertion.ignoreCase_of_held {check : AssertionStep}
    (reads : ReadsAssertion operators entries operator expected check)
    (member : name ∈ ignoreCaseNames) (held : Value.field? name entries = some v) :
    truth v = .ok check.ignoreCase := by
  have read := reads.values.ignoreCase
  rw [(ignoreCase_erase reads.single member held).1] at read
  exact read

/-- An assertion has the default of a field if and only if its key holds it. -/
theorem ReadsAssertion.lacks_iff {check : AssertionStep}
    (reads : ReadsAssertion operators entries operator expected check)
    (member : name ∈ optionalAssertionNames) (held : Value.field? name entries = some v) :
    AssertionLacks check name ↔ IsAssertionDefault name v := by
  have flag {b : Bool} (read : truth v = .ok b) : b = false ↔ truth v = .ok false := by
    rw [read, Except.ok.injEq]
  simp only [optionalAssertionNames, List.mem_cons, List.not_mem_nil, or_false] at member
  rcases member with rfl | rfl | rfl | rfl | rfl | rfl
  · exact reads.values.title.eq_none_iff held
  · exact reads.values.description.eq_none_iff held
  · have nothing : countText v = .ok none ↔ v = .null := countText_eq_ok_none_iff
    rw [reads.values.count.of_held held, Except.ok.injEq] at nothing
    exact nothing
  · exact flag (reads.ignoreCase_of_held (by decide) held)
  · exact flag (reads.ignoreCase_of_held (by decide) held)
  · exact flag (reads.values.each.of_held held)

theorem ReadsAssertion.erase {check : AssertionStep}
    (reads : ReadsAssertion operators entries operator expected check)
    (held : Value.field? name entries = some v) (notKind : name ≠ "kind")
    (notValue : name ≠ "value") (lacks : AssertionLacks check name) :
    ReadsAssertion operators (Ordered.erase (.text name) entries) operator expected check where
  values := {
    title := reads.values.title.erase fun same => by
      subst same
      exact lacks
    description := reads.values.description.erase fun same => by
      subst same
      exact lacks
    kind := field?_erase_text notKind entries ▸ reads.values.kind
    value := field?_erase_text notValue entries ▸ reads.values.value
    ignoreCase := by
      by_cases member : name ∈ ignoreCaseNames
      · rw [(ignoreCase_erase reads.single member held).2]
        exact lacks.ignoreCase member
      · rw [lookup?_ignoreCase_erase member]
        exact reads.values.ignoreCase
    each := reads.values.each.erase fun same => by
      subst same
      exact lacks
    count := reads.values.count.erase fun same => by
      subst same
      exact lacks }
  operator := reads.operator
  named := reads.named
  expected := reads.expected
  single := single_erase reads.single name

/-- An assertion is the same without a key that holds the default of its field. -/
theorem readAssertion_erase_of_isDefault {check : AssertionStep}
    (success : readAssertion (some operators) entries = .ok check)
    (held : Value.field? name entries = some v) (default_ : IsAssertionDefault name v) :
    readAssertion (some operators) (Ordered.erase (.text name) entries) = .ok check := by
  obtain ⟨operator, expected, chooses, reads⟩ := readAssertion_eq_ok_iff.mp success
  obtain ⟨given, rfl, _⟩ := canonicalOperator_eq_ok reads.operator
  have member : name ∈ optionalAssertionNames := by
    unfold IsAssertionDefault at default_
    split at default_ <;> simp_all [optionalAssertionNames]
  have known : name ∈ assertionKeys := by
    have subset : optionalAssertionNames ⊆ assertionKeys := by decide
    exact subset member
  have distinct {other : String} (required : other ∉ optionalAssertionNames) : name ≠ other := by
    rintro rfl
    exact required member
  have chosen := chooses.erase known (distinct (by decide)) fun same =>
    absurd same (distinct (by decide))
  have lacks := (reads.lacks_iff member held).mpr default_
  exact readAssertion_eq_ok_iff.mpr
    ⟨_, _, chosen, reads.erase held (distinct (by decide)) (distinct (by decide)) lacks⟩

/-- An assertion whose operator is a key is the same without another expected value. -/
theorem readAssertion_erase_expected {check : AssertionStep}
    (success : readAssertion (some operators) entries = .ok check)
    (held : Value.field? "expected" entries = some v)
    (absent : Value.hasField "operator" entries = false) :
    readAssertion (some operators) (Ordered.erase (.text "expected") entries) = .ok check := by
  obtain ⟨operator, expected, chooses, reads⟩ := readAssertion_eq_ok_iff.mp success
  obtain ⟨given, rfl, _⟩ := canonicalOperator_eq_ok reads.operator
  have noOperator : Value.field? "operator" entries = none := by
    rw [Value.hasField_eq_isSome] at absent
    simpa using absent
  have chosen := chooses.erase (by decide : "expected" ∈ assertionKeys) (by decide)
    fun _ => noOperator
  exact readAssertion_eq_ok_iff.mpr
    ⟨_, _, chosen, reads.erase held (by decide) (by decide) trivial⟩

/-! ## Steps -/

theorem read_of_action {names : Option OperatorNames} (action : isAssertion entries = false) :
    read names (.map entries) =
      ((readAction (.map entries)).map .action).mapError (underTag "action") :=
  if_neg (Bool.eq_false_iff.mp action)

theorem read_of_assertion {names : Option OperatorNames} (assertion : isAssertion entries = true) :
    read names (.map entries) =
      ((readAssertion names entries).map .assertion).mapError (underTag "assertion") :=
  if_pos assertion

theorem read_action_eq_ok_iff {names : Option OperatorNames} (action : isAssertion entries = false)
    {step : Step} : read names (.map entries) = .ok step ↔
      ∃ task, step = .action task ∧ readAction (.map entries) = .ok task := by
  rw [read_of_action action, mapError_eq_ok_iff, map_eq_ok_iff]
  exact exists_congr fun task => and_comm.trans (and_congr_left' eq_comm)

theorem read_assertion_eq_ok_iff (assertion : isAssertion entries = true) {step : Step} :
    read (some operators) (.map entries) = .ok step ↔
      ∃ check, step = .assertion check ∧ readAssertion (some operators) entries = .ok check := by
  rw [read_of_assertion assertion, mapError_eq_ok_iff, map_eq_ok_iff]
  exact exists_congr fun check => and_comm.trans (and_congr_left' eq_comm)

theorem isAssertion_erase (notKind : key ≠ .text "kind") (entries : List (Value × Value)) :
    isAssertion (Ordered.erase key entries) = isAssertion entries := by
  unfold isAssertion
  rw [Value.field?_erase_of_ne notKind]

theorem holdsDefault_assertion_iff (assertion : isAssertion entries = true) :
    HoldsDefault entries (.text name) v ↔ IsAssertionDefault name v := by
  unfold HoldsDefault
  simp [assertion]

theorem holdsDefault_action_iff (action : isAssertion entries = false) :
    HoldsDefault entries (.text name) v ↔ IsActionDefault name v := by
  unfold HoldsDefault
  simp [action]

theorem HoldsDefault.ne_kind (default_ : HoldsDefault entries key v) : key ≠ .text "kind" := by
  rintro rfl
  cases assertion : isAssertion entries with
  | true => exact (holdsDefault_assertion_iff assertion).mp default_
  | false => exact (holdsDefault_action_iff assertion).mp default_

/-- The same step is read without a key that holds the default of its field, and without an
expected value that is overwritten. -/
theorem read_erase_of_idle {step : Step} (success : read (some operators) (.map entries) = .ok step)
    (held : Ordered.find? key entries = some v)
    (idle : HoldsDefault entries key v ∨ IsOverwritten entries key) :
    read (some operators) (.map (Ordered.erase key entries)) = .ok step := by
  rcases idle with default_ | ⟨assertion, absent, rfl⟩
  · have form := isAssertion_erase default_.ne_kind entries
    obtain ⟨name, rfl, isDefault⟩ := default_
    cases assertion : isAssertion entries with
    | false =>
        rw [assertion, if_neg Bool.false_ne_true] at isDefault
        obtain ⟨task, rfl, reading⟩ := (read_action_eq_ok_iff assertion).mp success
        have again := readAction_erase_of_isDefault reading held isDefault
        exact (read_action_eq_ok_iff (form.trans assertion)).mpr ⟨task, rfl, again⟩
    | true =>
        rw [assertion, if_pos rfl] at isDefault
        obtain ⟨check, rfl, reading⟩ := (read_assertion_eq_ok_iff assertion).mp success
        have again := readAssertion_erase_of_isDefault reading held isDefault
        exact (read_assertion_eq_ok_iff (form.trans assertion)).mpr ⟨check, rfl, again⟩
  · have form : isAssertion (Ordered.erase (.text "expected") entries) = true :=
      (isAssertion_erase (by simp) entries).trans assertion
    obtain ⟨check, rfl, reading⟩ := (read_assertion_eq_ok_iff assertion).mp success
    have again := readAssertion_erase_expected reading held absent
    exact (read_assertion_eq_ok_iff form).mpr ⟨check, rfl, again⟩

end Step

end Playbook
