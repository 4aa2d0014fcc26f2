import Playbook.Proofs.OperatorNames
import Playbook.Proofs.ValueIssues

/-!
# Names of parameters

The signature of an operation and its typed form have the same keys and the same rule for undeclared
parameters, and replacing placeholders keeps the keys of a mapping.  So parameters whose names fit
the signature fit the typed form as well: what it refuses is a value.
-/

namespace Playbook

namespace Value

/-- Mappings with the same keys in the same order. -/
inductive SameKeys : List (Value × Value) → List (Value × Value) → Prop where
  | nil : SameKeys [] []
  | cons (key v w : Value) {rest others : List (Value × Value)} :
      SameKeys rest others → SameKeys ((key, v) :: rest) ((key, w) :: others)

theorem SameKeys.refl (entries : List (Value × Value)) : SameKeys entries entries := by
  induction entries with
  | nil => exact .nil
  | cons entry rest ih => exact ih.cons entry.1 entry.2 entry.2

theorem SameKeys.hasField {first second : List (Value × Value)} (same : SameKeys first second)
    (name : String) : Value.hasField name first = Value.hasField name second := by
  unfold Value.hasField Ordered.contains
  induction same with
  | nil => rfl
  | cons key v w _ ih => rw [List.any_cons, List.any_cons, ih]

end Value

namespace PropertySet

open Fallible

/-- Replacing placeholders keeps the keys. -/
theorem sameKeys_of_resolveEntries {properties : PropertySet} {step : Option Int}
    {entries resolved : List (Value × Value)}
    (success : properties.resolveEntries step entries = .ok resolved) :
    Value.SameKeys entries resolved := by
  induction entries generalizing resolved with
  | nil =>
      cases success
      exact .nil
  | cons entry rest ih =>
      obtain ⟨key, v⟩ := entry
      rw [resolveEntries] at success
      obtain ⟨w, _, success⟩ := bind_eq_ok_iff.mp success
      obtain ⟨others, resolution, same⟩ := bind_eq_ok_iff.mp success
      cases same
      exact (ih resolution).cons key v w

end PropertySet

namespace Field

open Issue Value

variable {first second : List (Value × Value)}

/-- The name that a field is used under. -/
theorem map_fst_lookup? (entries : List (Value × Value)) (names : List String) :
    (lookup? entries names).map Prod.fst = names.find? fun name => hasField name entries := by
  induction names with
  | nil => rfl
  | cons name rest ih =>
      rw [lookup?, List.find?_cons, hasField_eq_isSome]
      cases field? name entries with
      | none => exact ih
      | some v => rfl

theorem isSome_lookup?_of_sameKeys (same : SameKeys first second) (names : List String) :
    (lookup? first names).isSome = (lookup? second names).isSome := by
  have used := map_fst_lookup? first names
  simp only [same.hasField, ← map_fst_lookup? second] at used
  simpa using congrArg Option.isSome used

theorem usedNames_of_sameKeys (same : SameKeys first second) (fields : List (List String)) :
    usedNames first fields = usedNames second fields := by
  simp only [usedNames, map_fst_lookup?, same.hasField]

theorem noExtras_of_sameKeys (same : SameKeys first second) (used : List String) :
    noExtras used first = noExtras used second := by
  induction same with
  | nil => rfl
  | cons key v w _ ih => rw [noExtras, noExtras, ih]

/-- Which entries are used by no field depends on the keys only. -/
theorem extras_of_sameKeys (same : SameKeys first second) {used : List String}
    {unused : List (String × Value)} (success : extras used first = .ok unused) :
    ∃ others, extras used second = .ok others ∧ others.map Prod.fst = unused.map Prod.fst := by
  induction same generalizing unused with
  | nil =>
      cases success
      exact ⟨[], rfl, rfl⟩
  | cons key v w _ ih =>
      unfold extras at success ⊢
      cases isText : text key with
      | error issue =>
          rw [isText] at success
          cases success
      | ok name =>
          rw [isText] at success
          obtain ⟨further, inRest, success⟩ := Fallible.bind_eq_ok_iff.mp success
          obtain ⟨others, inOthers, names⟩ := ih inRest
          dsimp only
          rw [inOthers]
          split at success
          · rename_i isUsed
            cases success
            exact ⟨others, if_pos isUsed, names⟩
          · rename_i notUsed
            cases success
            exact ⟨(name, w) :: others, if_neg notUsed, congrArg (name :: ·) names⟩

end Field

namespace Form

open Playbook.Field Fallible Value

/-- The keys of the fields that must be given, for each of them. -/
def requiredKeys (form : Form) : List (List String) :=
  (form.fields.filter fun field => field.fallback.isNone).map (·.keys)

/-- The names of parameters fit a form: no required field is missing, and every name that no field
uses is accepted. -/
structure NamesFit (form : Form) (entries : List (Value × Value)) : Prop where
  present : ∀ keys ∈ form.requiredKeys, (lookup? entries keys).isSome = true
  accepted : ∃ undeclared, form.readUndeclared entries = .ok undeclared

/-- Forms that treat names alike. -/
structure AlikeInNames (first second : Form) : Prop where
  keys : first.fields.map (·.keys) = second.fields.map (·.keys)
  required : first.requiredKeys = second.requiredKeys
  undeclared : first.undeclared = second.undeclared

theorem AlikeInNames.symm {first second : Form} (alike : first.AlikeInNames second) :
    second.AlikeInNames first :=
  ⟨alike.keys.symm, alike.required.symm, alike.undeclared.symm⟩

theorem disallowed?_eq (rule : Option NameRule) (extras : List (String × Value)) :
    disallowed? rule extras =
      rule.bind fun rule => (extras.map Prod.fst).find? fun name => !rule.allows name := by
  cases rule with
  | none => rfl
  | some rule => rw [Option.bind_some, List.find?_map]; rfl

variable {first second : Form} {entries others : List (Value × Value)}

theorem readUndeclared_of_alikeInNames (alike : first.AlikeInNames second)
    (same : SameKeys entries others) {undeclared : List (String × Value)}
    (success : first.readUndeclared entries = .ok undeclared) :
    ∃ undeclared, second.readUndeclared others = .ok undeclared := by
  unfold readUndeclared at success ⊢
  rw [alike.keys, alike.undeclared, usedNames_of_sameKeys same] at success
  generalize second.undeclared = policy at success ⊢
  cases policy with
  | refused =>
      obtain ⟨_, refused, _⟩ := bind_eq_ok_iff.mp success
      rw [noExtras_of_sameKeys same] at refused
      exact ⟨[], bind_eq_ok_iff.mpr ⟨(), refused, rfl⟩⟩
  | accepted rule =>
      obtain ⟨unused, inEntries, success⟩ := bind_eq_ok_iff.mp success
      obtain ⟨further, inOthers, names⟩ := extras_of_sameKeys same inEntries
      refine ⟨further, bind_eq_ok_iff.mpr ⟨further, inOthers, ?_⟩⟩
      -- The rule looks at the names of the unused parameters only.
      rw [disallowed?_eq, ← names, ← disallowed?_eq] at success
      split at success
      · cases success
      · rfl

/-- Names that fit a form fit all forms that treat names alike, whatever the values are. -/
theorem NamesFit.congr (fit : first.NamesFit entries) (alike : first.AlikeInNames second)
    (same : SameKeys entries others) : second.NamesFit others where
  present := by
    intro keys member
    rw [← alike.required] at member
    rw [← isSome_lookup?_of_sameKeys same]
    exact fit.present keys member
  accepted := by
    obtain ⟨undeclared, success⟩ := fit.accepted
    exact readUndeclared_of_alikeInNames alike same success

end Form

namespace ParameterField

open Playbook.Field Fallible

variable {entries : List (Value × Value)}

theorem readFrom_eq_error {field : ParameterField} {issue : Issue}
    (failed : field.readFrom entries = .error issue) :
    (field.fallback = none ∧ lookup? entries field.keys = none) ∨
      ∃ name v inner, lookup? entries field.keys = some (name, v) ∧
        field.read v = .error inner ∧ issue = inner.below (.name name) := by
  unfold readFrom withDefault required at failed
  cases found : lookup? entries field.keys with
  | none =>
      rw [found] at failed
      cases fallback : field.fallback with
      | none => exact .inl ⟨rfl, rfl⟩
      | some v =>
          rw [fallback] at failed
          cases failed
  | some used =>
      obtain ⟨name, v⟩ := used
      rw [found] at failed
      right
      split at failed <;>
      · obtain ⟨inner, refused, same⟩ := mapError_eq_error_iff.mp failed
        exact ⟨name, v, inner, rfl, refused, same.symm⟩

theorem readAll_eq_error {fields : List ParameterField} {issue : Issue}
    (failed : readAll entries fields = .error issue) :
    ∃ field ∈ fields, field.readFrom entries = .error issue := by
  induction fields with
  | nil => cases failed
  | cons field rest ih =>
      rcases bind_eq_error_iff.mp failed with failed | ⟨v, _, failed⟩
      · exact ⟨field, List.mem_cons_self, failed⟩
      · rcases bind_eq_error_iff.mp failed with failed | ⟨_, _, failed⟩
        · obtain ⟨other, member, failed⟩ := ih failed
          exact ⟨other, List.mem_cons_of_mem field member, failed⟩
        · cases failed

theorem readAll_eq_ok {fields : List ParameterField} {params : List (String × Value)}
    (success : readAll entries fields = .ok params) :
    ∀ field ∈ fields, ∃ v, field.readFrom entries = .ok v := by
  induction fields generalizing params with
  | nil => simp
  | cons field rest ih =>
      obtain ⟨v, first, success⟩ := bind_eq_ok_iff.mp success
      obtain ⟨others, further, _⟩ := bind_eq_ok_iff.mp success
      intro other member
      rcases List.mem_cons.mp member with rfl | member
      · exact ⟨v, first⟩
      · exact ih further other member

end ParameterField

namespace Form

open Playbook.Field Fallible

variable {form : Form} {entries : List (Value × Value)}

theorem mem_requiredKeys {keys : List String} :
    keys ∈ form.requiredKeys ↔
      ∃ field ∈ form.fields, field.fallback = none ∧ field.keys = keys := by
  simp [requiredKeys, and_assoc]

theorem namesFit_of_read_eq_ok {params : List (String × Value)}
    (success : form.read (.map entries) = .ok params) : form.NamesFit entries := by
  obtain ⟨_, same, success⟩ := bind_eq_ok_iff.mp success
  cases same
  obtain ⟨declared, readFields, success⟩ := bind_eq_ok_iff.mp success
  obtain ⟨undeclared, readOthers, _⟩ := bind_eq_ok_iff.mp success
  refine ⟨?_, undeclared, readOthers⟩
  intro keys member
  obtain ⟨field, fieldMember, needed, rfl⟩ := mem_requiredKeys.mp member
  obtain ⟨v, success⟩ := ParameterField.readAll_eq_ok readFields field fieldMember
  unfold ParameterField.readFrom required at success
  rw [needed] at success
  cases found : lookup? entries field.keys with
  | none =>
      rw [found] at success
      cases success
  | some used => rfl

/-- Parameters with names that fit can only be refused for the value of a declared one. -/
theorem read_eq_error_of_namesFit (fit : form.NamesFit entries) {issue : Issue}
    (failed : form.read (.map entries) = .error issue) :
    ∃ field ∈ form.fields, ∃ name v inner, lookup? entries field.keys = some (name, v) ∧
      field.read v = .error inner ∧ issue = inner.below (.name name) := by
  -- Of the three parts of reading, the first and the last one succeed.
  rcases bind_eq_error_iff.mp failed with failed | ⟨_, same, failed⟩
  · cases failed
  · cases same
    rcases bind_eq_error_iff.mp failed with failed | ⟨declared, _, failed⟩
    · obtain ⟨field, member, failed⟩ := ParameterField.readAll_eq_error failed
      rcases ParameterField.readFrom_eq_error failed with ⟨needed, missing⟩ | refused
      · have found := fit.present field.keys (mem_requiredKeys.mpr ⟨field, member, needed, rfl⟩)
        rw [missing] at found
        cases found
      · exact ⟨field, member, refused⟩
    · obtain ⟨undeclared, accepted⟩ := fit.accepted
      rw [accepted] at failed
      cases failed

end Form

/-- Parameters with names that fit are read if their values may be anything. -/
theorem Form.read_eq_ok_of_namesFit {form : Form} {entries : List (Value × Value)}
    (anyValues : ∀ field ∈ form.fields, field.type = .any) (fit : form.NamesFit entries) :
    ∃ params, form.read (.map entries) = .ok params := by
  cases reading : form.read (.map entries) with
  | ok params => exact ⟨params, rfl⟩
  | error issue =>
      obtain ⟨field, member, _, v, _, _, refused, _⟩ := read_eq_error_of_namesFit fit reading
      unfold ParameterField.read ParameterType.readOptional at refused
      rw [anyValues field member] at refused
      split at refused
      · split at refused <;> cases refused
      · cases refused

namespace Schema

open Fallible

/-- Fields differ from flavour to flavour in nothing but their types. -/
theorem eq_map_field_of_fieldsFrom {flavour : Flavour} {taken : List String} {schema : Schema}
    {fields : List ParameterField} (success : fieldsFrom flavour taken schema = .ok fields) :
    fields = schema.map fun entry => field flavour entry.1 entry.2 := by
  induction schema generalizing taken fields with
  | nil =>
      cases success
      rfl
  | cons entry rest ih =>
      obtain ⟨taken, _, success⟩ := bind_eq_ok_iff.mp success
      obtain ⟨others, further, same⟩ := bind_eq_ok_iff.mp success
      cases same
      rw [ih further]
      rfl

end Schema

namespace Capability

open Fallible

variable {declared : Capability} {plugin : Option String} {operation : Operation}

theorem fields_of_compile (success : declared.compile plugin = .ok operation) :
    operation.signature.fields = declared.parameters.map (fun entry =>
        Schema.field .loose entry.1 entry.2) ∧
      operation.form.fields = declared.parameters.map (fun entry =>
        Schema.field .typed entry.1 entry.2) ∧
      operation.signature.undeclared = operation.form.undeclared := by
  obtain ⟨loose, looseSuccess, success⟩ := bind_eq_ok_iff.mp success
  obtain ⟨typed, typedSuccess, same⟩ := bind_eq_ok_iff.mp success
  cases same
  exact ⟨Schema.eq_map_field_of_fieldsFrom looseSuccess,
    Schema.eq_map_field_of_fieldsFrom typedSuccess, rfl⟩

theorem alikeInNames_of_compile (success : declared.compile plugin = .ok operation) :
    operation.signature.AlikeInNames operation.form := by
  obtain ⟨signature, form, undeclared⟩ := fields_of_compile success
  refine ⟨?_, ?_, undeclared⟩
  · rw [signature, form, List.map_map, List.map_map]
    rfl
  · rw [Form.requiredKeys, Form.requiredKeys, signature, form, List.filter_map, List.filter_map,
      List.map_map, List.map_map]
    rfl

theorem type_eq_any_of_compile (success : declared.compile plugin = .ok operation) :
    ∀ field ∈ operation.signature.fields, field.type = .any := by
  intro field member
  rw [(fields_of_compile success).1] at member
  obtain ⟨entry, _, rfl⟩ := List.mem_map.mp member
  rfl

end Capability

namespace Scenario

open Fallible

theorem checkSignature_eq_ok {registry : Registry} {filename : Option String} {number : Nat}
    {task : ActionStep} (checked : checkSignature registry filename number task = .ok ()) :
    ∃ operation params, registry.operation? task.kind = some operation ∧
      operation.signature.read (.record task.params) = .ok params := by
  unfold checkSignature at checked
  split at checked
  · cases checked
  · rename_i operation found
    obtain ⟨params, reading, _⟩ := map_eq_ok_iff.mp checked
    exact ⟨operation, params, found, mapError_eq_ok_iff.mp reading⟩

end Scenario

/-- Nothing that a step names is unknown when it is executed: neither its operator, nor its kind,
nor a parameter.  What its operation refuses is the value of a parameter. -/
def Step.NamesSettled (registry : Registry) : Step → Prop
  | .assertion check => ∃ comparator, check.comparator registry = .ok comparator
  | .action task => ∃ operation, task.operation registry = .ok operation ∧
      ∀ (properties : PropertySet) (index : Int) (resolved : Value),
        properties.resolveValue (some index) (.record task.params) = .ok resolved →
        ∃ entries, resolved = .map entries ∧ operation.form.NamesFit entries ∧
          ∀ issue, operation.form.read resolved = .error issue → ¬issue.cause.IsOfNames

namespace Registry

open Fallible Scenario

variable {registry : Registry}

theorem Built.operatorSettled (built : registry.Built) {filename : Option String} {number : Nat}
    {document : Value} {check : AssertionStep}
    (accepted : readStep registry filename number document = .ok (.assertion check)) :
    (Step.assertion check).NamesSettled registry := by
  obtain ⟨_, operator, _, _, canonical⟩ := canonicalName?_of_readStep accepted
  obtain ⟨further, denotes⟩ := Option.isSome_iff_exists.mp
    (built.consistent.canonical operator check.operator canonical).2
  obtain ⟨comparator, found, _⟩ := built.consistent.comparator?_eq_some denotes
  exact ⟨comparator, AssertionStep.comparator_eq_ok found⟩

theorem Built.parametersSettled (built : registry.Built) {filename : Option String} {number : Nat}
    {document : Value} {task : ActionStep}
    (accepted : readStep registry filename number document = .ok (.action task)) :
    (Step.action task).NamesSettled registry := by
  obtain ⟨operation, params, found, reading⟩ :=
    checkSignature_eq_ok (readStep_eq_ok accepted).2
  obtain ⟨declared, plugin, compiled⟩ := built.consistent.compiled task.kind operation found
  refine ⟨operation, by rw [ActionStep.operation, found], ?_⟩
  intro properties index resolved success
  rw [Value.record, PropertySet.resolveValue] at success
  obtain ⟨entries, resolution, same⟩ := bind_eq_ok_iff.mp success
  cases same
  have fit := (Form.namesFit_of_read_eq_ok reading).congr
    (Capability.alikeInNames_of_compile compiled)
    (PropertySet.sameKeys_of_resolveEntries resolution)
  refine ⟨entries, rfl, fit, ?_⟩
  intro issue failed
  obtain ⟨field, _, name, v, inner, _, refused, rfl⟩ := Form.read_eq_error_of_namesFit fit failed
  exact field.ofValues_read v inner refused

/-- In a registry that is built by registering, a step that is accepted meets no unknown name when
it is executed.  What the typed form of an operation accepts, its signature accepts. -/
theorem Built.names_settled (built : registry.Built) :
    (∀ (filename : Option String) (number : Nat) (document : Value) (step : Step),
        readStep registry filename number document = .ok step → step.NamesSettled registry) ∧
      ∀ (kind : String) (operation : Operation) (v : Value) (params : List (String × Value)),
        registry.operation? kind = some operation → operation.form.read v = .ok params →
        ∃ raw, operation.signature.read v = .ok raw := by
  constructor
  · intro filename number document step accepted
    cases step with
    | assertion check => exact built.operatorSettled accepted
    | action task => exact built.parametersSettled accepted
  · intro kind operation v params found reading
    obtain ⟨declared, plugin, compiled⟩ := built.consistent.compiled kind operation found
    cases v with
    | map entries =>
        have fit := (Form.namesFit_of_read_eq_ok reading).congr
          (Capability.alikeInNames_of_compile compiled).symm (.refl entries)
        exact Form.read_eq_ok_of_namesFit (Capability.type_eq_any_of_compile compiled) fit
    | _ => cases reading

/-- A pause that is given under an alias, for a time that turns out to be no number. -/
theorem names_settled_pause :
    let document : Value := .map [(.text "kind", .text "sleep"),
      (.text "ms", .text "\x7b\x7bpause\x7d\x7d")]
    let task : ActionStep :=
      ⟨none, none, "sleep", [("ms", .text "\x7b\x7bpause\x7d\x7d")], [], none⟩
    let properties : PropertySet := ⟨[], [("pause", "long")]⟩
    Registry.builtin.Built ∧
      readStep .builtin none 1 document = .ok (.action task) ∧
      properties.resolveValue (some 1) (.record task.params) =
        .ok (.record [("ms", .text "long")]) ∧
      ∃ operation issue, task.operation .builtin = .ok operation ∧
        operation.form.read (.record [("ms", .text "long")]) = .error issue ∧
        issue.path = [.name "ms"] ∧ ¬issue.cause.IsOfNames ∧
        ∃ raw, operation.signature.read (.record [("ms", .int 5)]) = .ok raw := by
  intro document task properties
  have built : Registry.builtin.Built := built_discover false []
  have accepted : readStep .builtin none 1 document = .ok (.action task) := rfl
  have resolution : properties.resolveValue (some 1) (.record task.params) =
      .ok (.record [("ms", .text "long")]) := rfl
  obtain ⟨operation, found, settled⟩ := built.names_settled.1 none 1 document _ accepted
  obtain ⟨_, _, _, ofValues⟩ := settled properties 1 _ resolution
  cases found
  refine ⟨built, accepted, resolution, _, ⟨.intUnreadable, [.name "ms"]⟩, rfl, rfl, rfl, ?_, ?_⟩
  · exact ofValues ⟨.intUnreadable, [.name "ms"]⟩ rfl
  · exact built.names_settled.2 "sleep" _ _ [("duration", .int 5)] rfl rfl

end Registry

end Playbook
