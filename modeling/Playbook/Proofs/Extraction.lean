import Playbook.Proofs.PathParts
import Playbook.Proofs.StoredValues

/-!
# Parts that are extracted

An extraction reads the JSON text that a list or a mapping is stored as, follows its path in the
value that was stored, and stores the part it finds.  So it passes if and only if the path leads to
something in the stored value itself, and nothing is lost on the way.
-/

namespace Playbook

open Fallible

namespace Value

theorem stringify_eq_text {v : Value}
    (nested : (∃ items, v = .list items) ∨ ∃ entries, v = .map entries) :
    v.stringify = Json.text v := by
  rcases nested with ⟨items, rfl⟩ | ⟨entries, rfl⟩ <;> rfl

/-- JSON values have property texts. -/
theorem succeeds_stringify_of_isJson {v : Value} (json : v.isJson = true) :
    Succeeds v.stringify := by
  obtain ⟨cs, _, written, _⟩ := Json.read_text json
  cases v with
  | list items | map entries => exact ⟨_, written⟩
  | int n =>
      rw [isJson] at json
      rw [succeeds_stringify_iff, isWritable, Numeral.isShort]
      exact json
  | null | bool b | text s => exact succeeds_ok _
  | _ => cases json

end Value

namespace Capability

/-- The parameters of an extraction. -/
def extractParams (source path into : String) : List (String × Value) :=
  [("source", .text source), ("path", .text path), ("into", .text into)]

theorem extractResult_eq {source path into : String} {v part : Value} {found : Lookup.Found}
    (read : Json.read source = .ok v) (success : (Lookup.ofPath path).findAll v = .ok found)
    (resolved : (Lookup.ofPath path).resolve v = .ok part) :
    extractResult (extractParams source path into) =
      if found.isEmpty then failed ("Path " ++ Text.quoted path ++ " not found in source")
      else .ok (.record [(into, part)]) := by
  have sourceRead : sourceValue (.text source) = .ok v := by
    unfold sourceValue
    dsimp only
    rw [read]
  have isSource : param (extractParams source path into) "source" = .text source := rfl
  have isPath : textParam (extractParams source path into) "path" = path := rfl
  have isInto : textParam (extractParams source path into) "into" = into := rfl
  simp only [extractResult, isSource, isPath, isInto, sourceRead, success, resolved, bind,
    Except.bind, Except.mapError, pure, Except.pure]

end Capability

namespace ActionStep

/-- The step that extracts a part of what a property holds. -/
def extraction (key path into : String) : ActionStep :=
  ⟨none, none, "extract", Capability.extractParams (Template.ofKey key) path into, [], none⟩

section Extraction

variable {key path into s : String}

theorem readStep_extraction (key path into : String) (filename : Option String) (number : Nat) :
    Scenario.readStep .builtin filename number
        (.record [("kind", .text "extract"), ("source", .text (Template.ofKey key)),
          ("path", .text path), ("into", .text into)]) =
      .ok (.action (extraction key path into)) := by
  apply Scenario.readStep_of_passes <;> rfl

theorem answered_extraction {engine : Engine} (usual : engine.registry = .builtin)
    (isKey : Name.IsKey key.toList) (closed : Template.keys path = [])
    (intoKey : Name.IsKey into.toList) (properties : PropertySet) (s : String) (index : Nat) :
    (extraction key path into).Answered engine (properties.write [(key, s)]) index
      (Capability.extractResult (Capability.extractParams s path into)) where
  untimed := rfl
  operation := by
    obtain ⟨operation, known, reads, behaves⟩ : ∃ operation,
        Registry.builtin.operation? "extract" = some operation ∧
          (∀ source path into,
            operation.form.read (.record (Capability.extractParams source path into)) =
              .ok (Capability.extractParams source path into)) ∧
          operation.behaviour = Capability.extract.behaviour := ⟨_, rfl, fun _ _ _ => rfl, rfl⟩
    have source := PropertySet.resolveValue_ofKey_write isKey properties s (some (index : Int))
    have pathStays := PropertySet.resolveValue_eq_self (v := .text path) rfl closed
      (properties.write [(key, s)]) (some (index : Int))
    have intoStays := PropertySet.resolveValue_eq_self (v := .text into) rfl
      (Template.keys_eq_nil_of_isKey intoKey) (properties.write [(key, s)]) (some (index : Int))
    refine ⟨operation, .record (Capability.extractParams s path into), _, usual ▸ known, ?_,
      reads s path into, ?_⟩
    · unfold extraction Capability.extractParams Value.record
      rw [PropertySet.resolveValue]
      simp only [List.map_cons, List.map_nil, PropertySet.resolveEntries, source, pathStays,
        intoStays]
      rfl
    · intro context
      rw [behaves]
      rfl

/-- What becomes of an extraction is decided by its path in the value that the property holds. -/
theorem execute_extraction {engine : Engine} (usual : engine.registry = .builtin)
    (sound : engine.settings.Sound) (isKey : Name.IsKey key.toList)
    (closed : Template.keys path = []) (intoKey : Name.IsKey into.toList) {v part : Value}
    {t : String} {found : Lookup.Found} (read : Json.read s = .ok v)
    (success : (Lookup.ofPath path).findAll v = .ok found)
    (resolved : (Lookup.ofPath path).resolve v = .ok part) (plain : part.isPlain = true)
    (shown : part.stringify = .ok t) (properties : PropertySet) (index : Nat) (cancelled : Bool) :
    (Step.execute engine (properties.write [(key, s)]) index cancelled
        (.action (extraction key path into))).outcome.status =
      (if found.isEmpty then .error else .pass) ∧
    (Step.execute engine (properties.write [(key, s)]) index cancelled
        (.action (extraction key path into))).outcome.exports =
      (if found.isEmpty then [] else [(into, t)]) ∧
    (Step.execute engine (properties.write [(key, s)]) index cancelled
        (.action (extraction key path into))).properties =
      if found.isEmpty then properties.write [(key, s)]
      else (properties.write [(key, s)]).write [(into, t)] := by
  have answered := answered_extraction usual isKey closed intoKey properties s index
  rw [answered.execute_eq sound, Capability.extractResult_eq read success resolved]
  cases found.isEmpty with
  | true => exact ⟨rfl, rfl, rfl⟩
  | false =>
      rw [if_neg Bool.false_ne_true, exportedLayer_single rfl intoKey plain shown]
      exact ⟨rfl, rfl, rfl⟩

end Extraction

end ActionStep

namespace Step

/-- An extraction from a list or a mapping that has been exported passes if and only if its path
leads to something in it, and stores the property text of what the path leads to. -/
theorem extract_from_export {engine : Engine} (usual : engine.registry = .builtin)
    (sound : engine.settings.Sound) {key path into : String} (isKey : Name.IsKey key.toList)
    (intoKey : Name.IsKey into.toList) (closed : Template.keys path = [])
    (readable : ∀ segment ∈ (Lookup.ofPath path).segments, Lookup.IsReadable segment) {v : Value}
    (nested : (∃ items, v = .list items) ∨ ∃ entries, v = .map entries) (json : v.isJson = true)
    (properties : PropertySet) (filename : Option String) (number : Nat) :
    Scenario.readStep engine.registry filename number
        (.record [("kind", .text "extract"), ("source", .text (Template.ofKey key)),
          ("path", .text path), ("into", .text into)]) =
      .ok (.action (.extraction key path into)) ∧
    ∃ exported isThere part t,
      properties.exportValues [(.text key, v)] = .ok exported ∧
      (Lookup.ofPath path).exists? v = .ok isThere ∧
      (Lookup.ofPath path).resolve v = .ok part ∧ part.stringify = .ok t ∧
      ∀ cancelled,
        (execute engine exported number cancelled
            (.action (.extraction key path into))).outcome.status =
          (if isThere then .pass else .error) ∧
        (execute engine exported number cancelled
            (.action (.extraction key path into))).outcome.exports =
          (if isThere then [(into, t)] else []) ∧
        (execute engine exported number cancelled
            (.action (.extraction key path into))).properties =
          if isThere then exported.write [(into, t)] else exported := by
  constructor
  · rw [usual]
    exact ActionStep.readStep_extraction key path into filename number
  · obtain ⟨cs, _, written, read⟩ := Json.read_text json
    obtain ⟨found, success, foundJson⟩ := Lookup.exists_findAll readable json
    obtain ⟨part, resolved, partJson⟩ := Lookup.exists_resolve success foundJson
    obtain ⟨t, shown⟩ := Value.succeeds_stringify_of_isJson partJson
    have stored := PropertySet.exportValues_single isKey
      ((Value.stringify_eq_text nested).trans written) properties
    refine ⟨_, _, part, t, stored, Lookup.exists?_eq success, resolved, shown, ?_⟩
    intro cancelled
    have laws := ActionStep.execute_extraction usual sound isKey closed intoKey read success
      resolved (Value.isPlain_of_isJson partJson) shown properties number cancelled
    cases empty : found.isEmpty <;> rw [empty] at laws <;> exact laws

/-- The last tags of all items, at a path with a wildcard and a negative index. -/
theorem extract_from_export_tags :
    let engine : Engine := { registry := .builtin, workspace := .ofText "ws" }
    let properties : PropertySet := ⟨[("tags", "old")], [("found", "80")]⟩
    let tags (items : List Value) : Value := .map [(.text "tags", .list items)]
    let v : Value := .map [(.text "items",
      .list [tags [.null, .text "\"\x7b\x7bx\x7d\x7d"], tags [.int (-3)], .bool true])]
    engine.registry = .builtin ∧ engine.settings.Sound ∧ Name.IsKey "found".toList ∧
      Name.IsKey "tags".toList ∧ Template.keys "/items/*/tags/-1" = [] ∧
      (∀ segment ∈ (Lookup.ofPath "/items/*/tags/-1").segments, Lookup.IsReadable segment) ∧
      ((∃ items, v = .list items) ∨ ∃ entries, v = .map entries) ∧ v.isJson = true ∧
      ∃ exported, properties.exportValues [(.text "found", v)] = .ok exported ∧
        (execute engine exported 2 false
          (.action (.extraction "found" "/items/*/tags/-1" "tags"))).outcome.status = .pass ∧
        (execute engine exported 2 false
            (.action (.extraction "found" "/items/*/tags/-1" "tags"))).properties =
          exported.write [("tags", "[\"\\\"\x7b\x7bx\x7d\x7d\",-3]")] := by
  intro engine properties tags v
  have usual : engine.registry = .builtin := rfl
  have sound : engine.settings.Sound := Settings.sound_default
  have isKey : Name.IsKey "found".toList := Name.isKeyWith_iff.mp (by decide)
  have intoKey : Name.IsKey "tags".toList := Name.isKeyWith_iff.mp (by decide)
  have closed : Template.keys "/items/*/tags/-1" = [] := by decide +kernel
  have readable : ∀ segment ∈ (Lookup.ofPath "/items/*/tags/-1").segments,
      Lookup.IsReadable segment := by decide +kernel
  have nested : (∃ items, v = .list items) ∨ ∃ entries, v = .map entries := .inr ⟨_, rfl⟩
  have json : v.isJson = true := by decide +kernel
  refine ⟨usual, sound, isKey, intoKey, closed, readable, nested, json, ?_⟩
  obtain ⟨_, exported, isThere, part, t, stored, present, resolved, shown, executed⟩ :=
    extract_from_export usual sound isKey intoKey closed readable nested json properties none 2
  have found : (Lookup.ofPath "/items/*/tags/-1").exists? v = .ok true := by decide +kernel
  have written : ((Lookup.ofPath "/items/*/tags/-1").resolve v >>= Value.stringify) =
      .ok "[\"\\\"\x7b\x7bx\x7d\x7d\",-3]" := by decide +kernel
  rw [resolved] at written
  cases present.symm.trans found
  cases shown.symm.trans written
  obtain ⟨passes, _, after⟩ := executed false
  rw [if_pos rfl] at passes after
  exact ⟨exported, stored, passes, after⟩

end Step

end Playbook
