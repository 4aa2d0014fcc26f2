import Playbook.Proofs.Fallible
import Playbook.Scenario.Reader

/-!
# Steps that are read

What a step that could be read says about its document.  The operator of an assertion is the
canonical name of the one that the document gives, and every step that is read has passed the
checks against the registry.
-/

namespace Playbook

namespace Field

open Fallible

theorem required_eq_ok {α : Type} {entries : List (Value × Value)} {name : String}
    {check : Value → Checked α} {a : α} (success : required entries [name] check = .ok a) :
    ∃ v, Value.field? name entries = some v ∧ check v = .ok a := by
  unfold required lookup? at success
  cases found : Value.field? name entries with
  | none =>
      rw [found] at success
      cases success
  | some v =>
      rw [found] at success
      exact ⟨v, rfl, mapError_eq_ok_iff.mp success⟩

theorem withDefault_eq_ok {α : Type} {entries : List (Value × Value)} {names : List String}
    {check : Value → Checked α} {fallback a : α}
    (success : withDefault entries names check fallback = .ok a) :
    a = fallback ∨ ∃ v, check v = .ok a := by
  unfold withDefault at success
  split at success
  · exact .inr ⟨_, mapError_eq_ok_iff.mp success⟩
  · exact .inl (Except.ok.inj success).symm

theorem textWith_text_eq_ok {rule : List Char → Bool} {pattern s read : String}
    (success : textWith rule pattern (.text s) = .ok read) : read = s := by
  obtain ⟨shown, same, success⟩ := bind_eq_ok_iff.mp success
  cases same
  split at success
  · exact (Except.ok.inj success).symm
  · cases success

end Field

namespace Step

open Fallible

/-- The operator that the document of an assertion gives: under its own key, or as the only key
without another meaning. -/
def givenOperator? (entries : List (Value × Value)) : Option Value :=
  match Value.field? "operator" entries with
  | some operator => some operator
  | none =>
      match (entries.map Prod.fst).filter fun key => !isNamed assertionKeys key with
      | [key] => some key
      | _ => none

theorem brokenRule_ne_ok {α : Type} (message : Except Fault String) (a : α) :
    brokenRule message ≠ .ok a := by
  unfold brokenRule
  split
  · simp
  · split <;> simp

/-- Making the operator of an assertion explicit keeps it. -/
theorem field?_of_collectOperator {entries explicit : List (Value × Value)}
    (success : collectOperator entries = .ok explicit) :
    Value.field? "operator" explicit = givenOperator? entries := by
  unfold collectOperator at success
  unfold givenOperator?
  dsimp only at success
  rw [Value.hasField_eq_isSome] at success
  cases given : Value.field? "operator" entries with
  | some operator =>
      rw [given, if_pos Option.isSome_some] at success
      split at success
      · cases success
        exact given
      · exact absurd success (brokenRule_ne_ok _ _)
  | none =>
      simp only [given, Option.isSome_none, Bool.false_eq_true, if_false] at success
      split at success
      · exact absurd success (brokenRule_ne_ok _ _)
      · rename_i key only
        rw [only]
        cases success
        -- The key has no other meaning, so it is not the one that the operator is put under.
        have distinct : key ≠ .text "operator" := by
          intro same
          have member : key ∈ [key] := List.mem_singleton_self key
          rw [← only, List.mem_filter] at member
          rw [same] at member
          simp [isNamed, assertionKeys] at member
        rw [Value.field?_put_of_ne (by decide), Value.field?_erase_of_ne distinct,
          Value.field?_put_self]
      · exact absurd success (brokenRule_ne_ok _ _)

theorem canonicalOperator_eq_ok {operators : OperatorNames} {operator : Value} {name : String}
    (success : canonicalOperator operators operator = .ok name) :
    ∃ given, operator = .text given ∧ Ordered.find? given operators = some name := by
  unfold canonicalOperator at success
  split at success
  · cases success
  · split at success
    · rename_i found
      cases success
      obtain ⟨given, isText, found⟩ := Option.bind_eq_some_iff.mp found
      cases operator with
      | text s =>
          cases isText
          exact ⟨_, rfl, found⟩
      | _ => cases isText
    · exact absurd success (brokenRule_ne_ok _ _)

theorem operator_of_assertionFields {entries : List (Value × Value)} {name : String}
    {check : AssertionStep} (operator : Value.field? "operator" entries = some (.text name))
    (success : assertionFields entries = .ok check) : check.operator = name := by
  obtain ⟨title, _, success⟩ := bind_eq_ok_iff.mp success
  obtain ⟨description, _, success⟩ := bind_eq_ok_iff.mp success
  obtain ⟨kind, _, success⟩ := bind_eq_ok_iff.mp success
  obtain ⟨value, _, success⟩ := bind_eq_ok_iff.mp success
  obtain ⟨read, readSuccess, success⟩ := bind_eq_ok_iff.mp success
  obtain ⟨expected, _, success⟩ := bind_eq_ok_iff.mp success
  obtain ⟨ignoreCase, _, success⟩ := bind_eq_ok_iff.mp success
  obtain ⟨each, _, success⟩ := bind_eq_ok_iff.mp success
  obtain ⟨count, _, success⟩ := bind_eq_ok_iff.mp success
  obtain ⟨_, _, success⟩ := bind_eq_ok_iff.mp success
  cases success
  obtain ⟨v, found, readSuccess⟩ := Field.required_eq_ok readSuccess
  cases found.symm.trans operator
  exact Field.textWith_text_eq_ok readSuccess

/-- An assertion is read with the canonical name of the operator that its document gives. -/
theorem operator_of_readAssertion {operators : OperatorNames} {entries : List (Value × Value)}
    {check : AssertionStep} (success : readAssertion (some operators) entries = .ok check) :
    ∃ given, givenOperator? entries = some (.text given) ∧
      Ordered.find? given operators = some check.operator := by
  obtain ⟨explicit, collected, success⟩ := bind_eq_ok_iff.mp success
  obtain ⟨named, canonical, success⟩ := bind_eq_ok_iff.mp success
  obtain ⟨name, resolved, same⟩ := bind_eq_ok_iff.mp canonical
  cases same
  obtain ⟨given, isText, found⟩ := canonicalOperator_eq_ok resolved
  have operator : check.operator = name :=
    operator_of_assertionFields (Value.field?_put_self ..) (mapError_eq_ok_iff.mp success)
  rw [field?_of_collectOperator collected] at isText
  refine ⟨given, ?_, by rw [operator]; exact found⟩
  cases held : givenOperator? entries with
  | none =>
      rw [held] at isText
      cases isText
  | some v =>
      rw [held] at isText
      exact congrArg some isText

theorem read_eq_assertion {operators : OperatorNames} {v : Value} {check : AssertionStep}
    (success : read (some operators) v = .ok (.assertion check)) :
    ∃ entries, v = .map entries ∧ readAssertion (some operators) entries = .ok check := by
  unfold read at success
  split at success
  · rename_i entries
    split at success
    · obtain ⟨found, readSuccess, same⟩ := map_eq_ok_iff.mp (mapError_eq_ok_iff.mp success)
      cases same
      exact ⟨entries, rfl, readSuccess⟩
    · obtain ⟨task, _, same⟩ := map_eq_ok_iff.mp (mapError_eq_ok_iff.mp success)
      cases same
  · obtain ⟨task, _, same⟩ := map_eq_ok_iff.mp (mapError_eq_ok_iff.mp success)
    cases same

theorem read_eq_action {operators : Option OperatorNames} {v : Value} {task : ActionStep}
    (success : read operators v = .ok (.action task)) :
    ∃ entries, v = .map entries ∧ readAction (.map entries) = .ok task := by
  unfold read at success
  split at success
  · rename_i entries
    split at success
    · obtain ⟨check, _, same⟩ := map_eq_ok_iff.mp (mapError_eq_ok_iff.mp success)
      cases same
    · obtain ⟨found, readSuccess, same⟩ := map_eq_ok_iff.mp (mapError_eq_ok_iff.mp success)
      cases same
      exact ⟨entries, rfl, readSuccess⟩
  · rename_i noMapping
    obtain ⟨found, readSuccess, _⟩ := map_eq_ok_iff.mp (mapError_eq_ok_iff.mp success)
    unfold readAction at readSuccess
    split at readSuccess
    · exact absurd rfl (noMapping _)
    · cases readSuccess

end Step

namespace Scenario

open Fallible

/-- Passing the checks against a registry. -/
def Passes (registry : Registry) (filename : Option String) (number : Nat) : Step → Prop
  | .action task => checkSignature registry filename number task = .ok ()
  | .assertion check => checkRanges registry filename number check = .ok ()

theorem readStep_eq_ok {registry : Registry} {filename : Option String} {number : Nat}
    {document : Value} {step : Step}
    (success : readStep registry filename number document = .ok step) :
    Step.read (some registry.operators) document = .ok step ∧
      Passes registry filename number step := by
  unfold readStep at success
  split at success
  · cases success
  · obtain ⟨found, readSuccess, success⟩ := bind_eq_ok_iff.mp success
    have reading := mapError_eq_ok_iff.mp readSuccess
    cases found with
    | action task =>
        obtain ⟨_, checked, same⟩ := bind_eq_ok_iff.mp success
        cases same
        exact ⟨reading, checked⟩
    | assertion check =>
        obtain ⟨_, checked, same⟩ := bind_eq_ok_iff.mp success
        cases same
        exact ⟨reading, checked⟩

theorem readStep_of_passes {registry : Registry} {filename : Option String} {number : Nat}
    {entries : List (Value × Value)} {step : Step}
    (success : Step.read (some registry.operators) (.map entries) = .ok step)
    (passes : Passes registry filename number step) :
    readStep registry filename number (.map entries) = .ok step := by
  unfold readStep
  dsimp only [Value.entries?]
  rw [success]
  cases step with
  | action task =>
      change (checkSignature registry filename number task >>= fun _ => _) = _
      rw [passes]
      rfl
  | assertion check =>
      change (checkRanges registry filename number check >>= fun _ => _) = _
      rw [passes]
      rfl

theorem readStep_eq_ok_iff {registry : Registry} {filename : Option String} {number : Nat}
    {entries : List (Value × Value)} {step : Step} :
    readStep registry filename number (.map entries) = .ok step ↔
      Step.read (some registry.operators) (.map entries) = .ok step ∧
        Passes registry filename number step :=
  ⟨readStep_eq_ok, fun both => readStep_of_passes both.1 both.2⟩

/-- An issue of a step document is reported for the step and its file. -/
theorem readStep_of_issue {registry : Registry} {entries : List (Value × Value)} {issue : Issue}
    (failed : Step.read (some registry.operators) (.map entries) = .error (.issue issue))
    (filename : Option String) (number : Nat) :
    readStep registry filename number (.map entries) =
      .error (.diagnostic (Diagnostic.ofIssue issue (.map entries) filename (some number))) := by
  unfold readStep
  dsimp only [Value.entries?]
  rw [failed]
  rfl

end Scenario

end Playbook
