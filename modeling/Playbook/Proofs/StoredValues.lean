import Playbook.Proofs.AssertionRuns
import Playbook.Proofs.Comparisons
import Playbook.Proofs.ImmediateActions
import Playbook.Proofs.StoredKeys

/-!
# Values that are set

A value that a step sets is stored as its property text, and an assertion on the placeholder of its
key compares this text with the value itself.  Both sides have the same text, and where that text
reads as a number, both sides are that number.
-/

namespace Playbook

namespace PropertySet

theorem find?_write_single (properties : PropertySet) (key s : String) :
    (properties.write [(key, s)]).find? key = some s := by
  rw [find?_write]
  simp [Ordered.find?]

/-- The placeholder of a key that has just been written stands for what was written. -/
theorem resolveValue_ofKey_write {key : String} (isKey : Name.IsKey key.toList)
    (properties : PropertySet) (s : String) (step : Option Int) :
    (properties.write [(key, s)]).resolveValue step (.text (Template.ofKey key)) =
      .ok (.text s) := by
  rw [resolveValue, resolveTemplate_ofKey isKey, resolve, find?_write_single]
  rfl

end PropertySet

/-- Whether a value is a number by its kind. -/
def Value.isNumber : Value → Bool
  | .int _ | .float _ => true
  | _ => false

namespace Comparator

/-- What is no number by its kind is one only by its property text. -/
theorem asNumber_of_not_isNumber {v : Value} {s : String} (shown : v.stringify = .ok s)
    (other : v.isNumber = false) :
    v.asNumber = .ok none ∨ v.asNumber = .ok (Numeral.ofText? s.toList) := by
  cases v with
  | int n => cases other
  | float x => cases other
  | text t =>
      cases shown
      exact .inr rfl
  | bytes b =>
      cases shown
      exact .inr rfl
  | _ => exact .inl rfl

/-- A value equals its own property text. -/
theorem equal_text {v : Value} {s : String} (shown : v.stringify = .ok s)
    (other : v.isNumber = false) (ignoreCase : Bool) :
    equal ignoreCase (.text s) v = .ok true := by
  by_cases star : v = .text "*"
  · rw [star]
    rfl
  · have texts : textOf ignoreCase (.text s) = textOf ignoreCase v := by
      rw [textOf_eq shown]
      exact textOf_eq rfl ignoreCase
    have number : Value.asNumber (.text s) = .ok (Numeral.ofText? s.toList) := rfl
    rw [equal_eq star, number, texts, textOf_eq shown]
    -- Where both sides are numbers, they are one numeral, which is never NaN.
    rcases asNumber_of_not_isNumber shown other with none_ | same
    · rw [none_]
      cases Numeral.ofText? s.toList <;> simp [bind, Except.bind, pure, Except.pure]
    · rw [same]
      cases read : Numeral.ofText? s.toList with
      | none => simp [bind, Except.bind, pure, Except.pure]
      | some x =>
          have reflexive := Binary64.eq_self (Numeral.ofText?_ne_nan read)
          simp [bind, Except.bind, pure, Except.pure, reflexive]

end Comparator

theorem Form.read_undeclared {form : Form} {rule : Option NameRule} (noFields : form.fields = [])
    (accepts : form.undeclared = .accepted rule) {key : String} {v : Value}
    (allowed : disallowed? rule [(key, v)] = none) :
    form.read (.record [(key, v)]) = .ok [(key, v)] := by
  have undeclared : form.readUndeclared [(.text key, v)] = .ok [(key, v)] := by
    unfold readUndeclared
    rw [noFields, accepts]
    apply Fallible.bind_eq_ok_iff.mpr
    refine ⟨[(key, v)], rfl, ?_⟩
    rw [allowed]
    rfl
  unfold read
  rw [noFields]
  apply Fallible.bind_eq_ok_iff.mpr
  refine ⟨[(.text key, v)], rfl, ?_⟩
  apply Fallible.bind_eq_ok_iff.mpr
  refine ⟨[], rfl, ?_⟩
  rw [undeclared]
  rfl

namespace ActionStep

/-- Plain data produced under one key is exported as its property text, if nothing else is. -/
theorem exportedLayer_single {task : ActionStep} (noAliases : task.exports = []) {key s : String}
    {v : Value} (isKey : Name.IsKey key.toList) (plain : v.isPlain = true)
    (shown : v.stringify = .ok s) :
    Fallible.normalized (.ok (.record [(key, v)])) >>= task.exportedLayer = .ok [(key, s)] := by
  have record : (Value.record [(key, v)]).isPlain = true := by
    simpa [Value.isPlain_record_iff] using plain
  have exported : task.exported (.record [(key, v)]) = .ok [(.text key, v)] := by
    unfold exported
    rw [noAliases]
    rfl
  unfold Fallible.normalized
  change ((Value.record [(key, v)]).normalize.mapError Failure.fault >>= _) = _
  rw [Value.normalize_eq_self record]
  change (task.exported (.record [(key, v)]) >>= PropertySet.exportLayer) = _
  rw [exported]
  exact PropertySet.exportLayer_single isKey shown

/-- The step that sets one property. -/
def setting (key : String) (v : Value) : ActionStep := ⟨none, none, "set", [(key, v)], [], none⟩

section Setting

variable {key s : String} {v : Value}

theorem disallowed?_propertyKeyRule (isKey : Name.IsKey key.toList) :
    Form.disallowed? (some Capability.propertyKeyRule) [(key, v)] = none := by
  have allowed : Capability.propertyKeyRule.allows key = true :=
    Name.isSome_matchPropertyKey? isKey.2 isKey.1
  simp [Form.disallowed?, allowed]

theorem readStep_setting (isKey : Name.IsKey key.toList) (filename : Option String) (number : Nat) :
    Scenario.readStep .builtin filename number
        (.record [("kind", .text "set"), ("params", .record [(key, v)])]) =
      .ok (.action (setting key v)) := by
  apply Scenario.readStep_of_passes
  · rfl
  · obtain ⟨operation, known, noFields, accepts⟩ : ∃ operation,
        Registry.builtin.operation? "set" = some operation ∧ operation.signature.fields = [] ∧
          operation.signature.undeclared = .accepted (some Capability.propertyKeyRule) :=
      ⟨_, rfl, rfl, rfl⟩
    have read := Form.read_undeclared noFields accepts (disallowed?_propertyKeyRule (v := v) isKey)
    unfold Scenario.Passes Scenario.checkSignature setting
    dsimp only
    rw [known]
    dsimp only
    rw [read]
    rfl

theorem answered_setting {engine : Engine} (usual : engine.registry = .builtin)
    (isKey : Name.IsKey key.toList) (plain : v.isPlain = true) (closed : v.references = [])
    (properties : PropertySet) (index : Nat) :
    (setting key v).Answered engine properties index (.ok (.record [(key, v)])) where
  untimed := rfl
  operation := by
    obtain ⟨operation, known, noFields, accepts, behaves⟩ : ∃ operation,
        Registry.builtin.operation? "set" = some operation ∧ operation.form.fields = [] ∧
          operation.form.undeclared = .accepted (some Capability.propertyKeyRule) ∧
          operation.behaviour = Capability.set.behaviour := ⟨_, rfl, rfl, rfl, rfl⟩
    have stays : properties.resolveValue (some index) (.record [(key, v)]) =
        .ok (.record [(key, v)]) := by
      apply PropertySet.resolveValue_eq_self
      · simpa [Value.isPlain_record_iff] using plain
      · change v.references ++ [] = []
        rw [closed]
        rfl
    refine ⟨operation, .record [(key, v)], [(key, v)], usual ▸ known, stays, ?_, ?_⟩
    · exact Form.read_undeclared noFields accepts (disallowed?_propertyKeyRule isKey)
    · intro context
      rw [behaves]
      rfl

/-- Setting a property passes and writes the property text of its value. -/
theorem execute_setting {engine : Engine} (usual : engine.registry = .builtin)
    (sound : engine.settings.Sound) (isKey : Name.IsKey key.toList) (plain : v.isPlain = true)
    (closed : v.references = []) (shown : v.stringify = .ok s) (properties : PropertySet)
    (index : Nat) (cancelled : Bool) :
    let executed := Step.execute engine properties index cancelled (.action (setting key v))
    executed.outcome.status = .pass ∧ executed.properties = properties.write [(key, s)] := by
  have answered := answered_setting usual isKey plain closed properties index
  rw [answered.execute_eq sound, exportedLayer_single rfl isKey plain shown]
  exact ⟨rfl, rfl⟩

end Setting

end ActionStep

namespace AssertionStep

/-- The assertion that a property equals a value. -/
def equalTo (key : String) (v : Value) (ignoreCase : Bool) : AssertionStep :=
  ⟨none, none, .text (Template.ofKey key), "equals", v, ignoreCase, false, none⟩

theorem readStep_equalTo (key : String) (v : Value) (ignoreCase : Bool)
    (filename : Option String) (number : Nat) :
    Scenario.readStep .builtin filename number
        (.record [("kind", .text "assert"), ("value", .text (Template.ofKey key)), ("equals", v),
          ("ignoreCase", .bool ignoreCase)]) =
      .ok (.assertion (equalTo key v ignoreCase)) := by
  apply Scenario.readStep_of_passes <;> rfl

theorem status_execute_equalTo {engine : Engine} (usual : engine.registry = .builtin)
    {key s : String} {v : Value} (isKey : Name.IsKey key.toList) (plain : v.isPlain = true)
    (closed : v.references = []) (shown : v.stringify = .ok s) (other : v.isNumber = false)
    (ignoreCase : Bool) (properties : PropertySet) (index : Nat) (cancelled : Bool) :
    (Step.execute engine (properties.write [(key, s)]) index cancelled
      (.assertion (equalTo key v ignoreCase))).outcome.status = .pass := by
  have known : engine.registry.comparator? "equals" = some Comparator.equals := by
    rw [usual]
    rfl
  have stored : (properties.write [(key, s)]).resolveValue (some index)
      (equalTo key v ignoreCase).value = .ok (.text s) :=
    PropertySet.resolveValue_ofKey_write isKey properties s (some (index : Int))
  have related : Comparator.equals.relation (.text s) v
      (Claim.options ⟨.equals, .text s, v, ignoreCase⟩) = .ok true := by
    change (Comparator.equal _ (.text s) v).mapError Failure.fault = .ok true
    rw [Comparator.equal_text shown other]
    rfl
  have holds : Claim.compare ⟨.equals, .text s, v, ignoreCase⟩ (.text s) = .ok ⟨true, ""⟩ := by
    unfold Claim.compare
    dsimp only
    rw [related]
  have judged : Claim.judge ⟨.equals, .text s, v, ignoreCase⟩ =
      .ok ⟨.pass, Claim.announced ⟨.equals, .text s, v, ignoreCase⟩ "expected " s s⟩ := by
    unfold Claim.judge
    rw [holds, Fallible.ok_bind, Claim.expectation_eq rfl shown]
    rfl
  rw [Step.outcome_of_judged known stored (PropertySet.resolveValue_eq_self plain closed _ _)
    judged]
  rfl

end AssertionStep

namespace Step

/-- A step that sets a property to a value passes, and so does the assertion behind it that the
property equals the value. -/
theorem set_then_equals_passes {engine : Engine} (usual : engine.registry = .builtin)
    (sound : engine.settings.Sound) {key : String} (isKey : Name.IsKey key.toList) {v : Value}
    (plain : v.isPlain = true) (writable : v.isWritable = true) (other : v.isNumber = false)
    (closed : v.references = []) (properties : PropertySet) (ignoreCase : Bool)
    (filename : Option String) (number later : Nat) :
    Scenario.readStep engine.registry filename number
        (.record [("kind", .text "set"), ("params", .record [(key, v)])]) =
      .ok (.action (.setting key v)) ∧
    Scenario.readStep engine.registry filename later
        (.record [("kind", .text "assert"), ("value", .text (Template.ofKey key)), ("equals", v),
          ("ignoreCase", .bool ignoreCase)]) =
      .ok (.assertion (.equalTo key v ignoreCase)) ∧
    ∀ cancelled cancelledLater,
      (execute engine properties number cancelled (.action (.setting key v))).outcome.status =
        .pass ∧
      (execute engine
          (execute engine properties number cancelled (.action (.setting key v))).properties
          later cancelledLater (.assertion (.equalTo key v ignoreCase))).outcome.status =
        .pass := by
  obtain ⟨s, shown⟩ := (Value.succeeds_stringify_iff v).mpr writable
  refine ⟨?set, ?assert, ?passes⟩
  case set =>
    rw [usual]
    exact ActionStep.readStep_setting isKey filename number
  case assert =>
    rw [usual]
    exact AssertionStep.readStep_equalTo key v ignoreCase filename later
  case passes =>
    intro cancelled cancelledLater
    obtain ⟨passes, written⟩ := ActionStep.execute_setting usual sound isKey plain closed shown
      properties number cancelled
    refine ⟨passes, ?_⟩
    rw [written]
    exact AssertionStep.status_execute_equalTo usual isKey plain closed shown other ignoreCase
      properties later cancelledLater

/-- A mapping with a date, a list, and a text with a quote, braces and a capital letter. -/
theorem set_then_equals_passes_mapping :
    let engine : Engine := { registry := .builtin, workspace := .ofText "ws" }
    let properties : PropertySet := ⟨[("found", "old")], [("port", "80")]⟩
    let v : Value := .map [(.text "When", .date ⟨2024, 2, 29⟩),
      (.text "ids", .list [.int (-120), .null, .bool true, .text "\"\x7b\x7b É"]),
      (.text "", .map [])]
    engine.registry = .builtin ∧ engine.settings.Sound ∧ Name.IsKey "found".toList ∧
      v.isPlain = true ∧ v.isWritable = true ∧ v.isNumber = false ∧ v.references = [] ∧
      (execute engine properties 1 false (.action (.setting "found" v))).outcome.status = .pass ∧
      (execute engine
          (execute engine properties 1 false (.action (.setting "found" v))).properties
          2 false (.assertion (.equalTo "found" v true))).outcome.status = .pass := by
  intro engine properties v
  have usual : engine.registry = .builtin := rfl
  have sound : engine.settings.Sound := Settings.sound_default
  have isKey : Name.IsKey "found".toList := Name.isKeyWith_iff.mp (by decide)
  have plain : v.isPlain = true := by decide +kernel
  have writable : v.isWritable = true := by decide +kernel
  have other : v.isNumber = false := rfl
  have closed : v.references = [] := by decide +kernel
  have laws := set_then_equals_passes usual sound isKey plain writable other closed properties true
    none 1 2
  exact ⟨usual, sound, isKey, plain, writable, other, closed, laws.2.2 false false⟩

end Step

end Playbook
