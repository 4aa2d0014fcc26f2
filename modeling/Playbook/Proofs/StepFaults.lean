import Playbook.Proofs.ValueFaults
import Playbook.Runner

/-!
# Faults of reading steps

Reading a step ends with a diagnostic that a runner reports, except in three cases: parameters
that are given twice under keys without an order, an operator that can be no key, and a literal
range with too many digits.
-/

namespace Playbook

/-- Failures of a part of a document. -/
def Failure.IsIssue (failure : Failure) : Prop := ∃ issue, failure = .issue issue

/-- Failures that a runner reports as outcomes. -/
def Failure.Reported (failure : Failure) : Prop :=
  ∃ d, failure = .diagnostic d ∧ Runner.isReported d.kind = true

theorem Failure.not_reported_fault (fault : Fault) : ¬(Failure.fault fault).Reported := by
  intro ⟨d, same, _⟩
  cases same

/-- A schema error that names a step, in its context and in front of its message. -/
structure Diagnostic.SchemaOf (step : Option Int) (d : Diagnostic) : Prop where
  kind : d.kind = .schema
  context : d.context.bind Context.step = step
  message : ∃ rest, d.message = stepMark step ++ rest

/-- Failures that are schema errors of a step. -/
def Failure.SchemaOf (step : Option Int) (failure : Failure) : Prop :=
  ∃ d, failure = .diagnostic d ∧ d.SchemaOf step

theorem Failure.SchemaOf.reported {step : Option Int} {failure : Failure}
    (schema : failure.SchemaOf step) : failure.Reported := by
  obtain ⟨d, rfl, ofStep⟩ := schema
  refine ⟨d, rfl, ?_⟩
  rw [ofStep.kind]
  rfl

theorem Failure.not_schemaOf_fault (step : Option Int) (fault : Fault) :
    ¬(Failure.fault fault).SchemaOf step :=
  fun schema => not_reported_fault fault schema.reported

theorem Failure.not_isIssue_fault (fault : Fault) : ¬(Failure.fault fault).IsIssue := by
  intro ⟨found, same⟩
  cases same

theorem Diagnostic.schemaOf_ofIssue (issue : Issue) (v : Value) (filename : Option String)
    (step : Option Int) : (ofIssue issue v filename step).SchemaOf step :=
  ⟨rfl, rfl, _, rfl⟩

theorem Diagnostic.fails_checked {α : Type} (v : Value) (filename : Option String)
    (step : Option Int) (result : Checked α) :
    Fallible.Fails (Diagnostic.checked v filename step result) (Failure.SchemaOf step)
      fun _ => False := by
  apply Fallible.Fails.ofUsual
  · intro issue
    exact ⟨_, rfl, schemaOf_ofIssue issue v filename step⟩
  · intro issue fault same
    cases same

namespace Step

open Fallible

theorem fails_fields {α : Type} (checked : Checked α) :
    Fails (checked.mapError .issue) Failure.IsIssue fun _ => False := by
  apply Fails.ofUsual
  · intro issue
    exact ⟨issue, rfl⟩
  · intro issue fault same
    cases same

/-- A broken rule is a fault only if its message cannot be made for another reason than a text of
a wrong form. -/
theorem fails_brokenRule {α : Type} (message : Except Fault String) :
    Fails (brokenRule message : Fallible α) Failure.IsIssue fun fault =>
      message = .error fault ∧ fault.label ≠ "ValueError" := by
  unfold brokenRule
  cases message with
  | ok text =>
      apply Fails.error ⟨_, rfl⟩
      · intro fault same
        cases same
      · intro fault ⟨same, _⟩
        cases same
  | error inner =>
      by_cases usual : inner.label = "ValueError"
      · simp only [usual, if_true]
        apply Fails.error ⟨_, rfl⟩
        · intro fault same
          cases same
        · intro fault ⟨same, unusual⟩
          cases same
          exact unusual usual
      · simp only [usual, if_false]
        apply (Fails.fault inner).congr
        intro fault
        constructor
        · intro same
          subst same
          exact ⟨rfl, usual⟩
        · intro ⟨same, _⟩
          cases same
          rfl

theorem keyTexts_texts (names : List String) :
    keyTexts (names.map .text) = .ok (Text.join ", " names) := by
  have each : (names.map Value.text).mapM Value.plainText = .ok names := by
    induction names with
    | nil => rfl
    | cons name rest ih =>
        rw [List.map_cons, List.mapM_cons, ih]
        rfl
  unfold keyTexts
  rw [each]
  rfl

theorem keyTexts_eq_error {keys : List Value} {fault : Fault}
    (failed : keyTexts keys = .error fault) : fault = .digitsWritten := by
  rcases bind_eq_error_iff.mp failed with failed | ⟨_, _, failed⟩
  · obtain ⟨_, key, _, _, _, _, failed⟩ := mapM_eq_error_iff.mp failed
    exact Value.plainText_eq_error failed
  · cases failed

theorem severalMessage_eq_error {explicit : Bool} {candidates : List Value} {fault : Fault}
    (failed : severalMessage explicit candidates = .error fault) : fault = .digitsWritten := by
  rcases bind_eq_error_iff.mp failed with failed | ⟨_, _, failed⟩
  · exact keyTexts_eq_error failed
  · cases failed

/-- Keys that an action gives both among its own ones and in its mapping of parameters. -/
def repeatedParams (entries : List (Value × Value)) : List Value :=
  match nestedParams? entries with
  | none => []
  | some params =>
      (params.filter fun entry => Ordered.contains entry.1 (inlineParams entries)).map Prod.fst

/-- Keys that are given twice have to be sorted, and nothing else can go wrong unusually. -/
theorem duplicateMessage_eq_error_iff {duplicates : List Value} {fault : Fault} :
    duplicateMessage duplicates = .error fault ∧ fault.label ≠ "ValueError" ↔
      Value.sort duplicates = .error fault := by
  constructor
  · intro ⟨failed, unusual⟩
    rcases bind_eq_error_iff.mp failed with failed | ⟨sorted, _, failed⟩
    · exact failed
    · rcases bind_eq_error_iff.mp failed with failed | ⟨_, _, failed⟩
      · rw [keyTexts_eq_error failed] at unusual
        exact absurd rfl unusual
      · cases failed
  · intro failed
    -- A fault of sorting is none of those that make a rule broken.
    refine ⟨bind_eq_error_iff.mpr (.inl failed), ?_⟩
    cases Value.sort_eq_error failed with
    | _ => simp [Fault.label]

theorem fails_collectParams (entries : List (Value × Value)) :
    Fails (collectParams entries) Failure.IsIssue fun fault =>
      Value.sort (repeatedParams entries) = .error fault := by
  unfold collectParams
  dsimp only
  by_cases none_ : (inlineParams entries).isEmpty = true
  · have nothing : repeatedParams entries = [] := by
      unfold repeatedParams
      rw [List.isEmpty_iff.mp none_]
      cases nestedParams? entries <;> simp [Ordered.contains]
    rw [if_pos none_]
    apply Fails.ok
    intro fault failed
    rw [nothing] at failed
    cases failed
  · rw [if_neg none_]
    unfold repeatedParams
    cases nestedParams? entries with
    | none =>
        apply Fails.ok
        intro fault failed
        cases failed
    | some params =>
        dsimp only
        split
        · rename_i nothing
          apply Fails.ok
          intro fault failed
          rw [nothing] at failed
          cases failed
        · apply (fails_brokenRule _).congr
          intro fault
          exact duplicateMessage_eq_error_iff

theorem fails_brokenRule_of_digits {α : Type} {message : Except Fault String}
    (digits : ∀ fault, message = .error fault → fault = .digitsWritten) :
    Fails (brokenRule message : Fallible α) Failure.IsIssue fun _ => False := by
  apply (fails_brokenRule message).congr
  intro fault
  constructor
  · intro ⟨failed, unusual⟩
    rw [digits fault failed] at unusual
    exact unusual rfl
  · intro impossible
    exact impossible.elim

theorem fails_collectOperator (entries : List (Value × Value)) :
    Fails (collectOperator entries) Failure.IsIssue fun _ => False := by
  unfold collectOperator
  dsimp only
  split
  · split
    · exact Fails.ok _ fun _ => id
    · apply fails_brokenRule_of_digits
      intro fault failed
      exact severalMessage_eq_error failed
  · split
    · apply fails_brokenRule_of_digits
      intro fault failed
      cases failed
    · exact Fails.ok _ fun _ => id
    · apply fails_brokenRule_of_digits
      intro fault failed
      exact severalMessage_eq_error failed

theorem fails_canonicalOperator (operators : OperatorNames) (operator : Value) :
    Fails (canonicalOperator operators operator) Failure.IsIssue fun fault =>
      ∃ kind, operator.unhashable? = some kind ∧ fault = .unhashable kind := by
  unfold canonicalOperator
  cases hashed : operator.unhashable? with
  | some kind =>
      apply (Fails.fault _).congr
      intro fault
      simp
  | none =>
      have safe : ∀ fault : Fault, ¬∃ kind, none = some kind ∧ fault = .unhashable kind := by
        simp
      dsimp only
      split
      · exact Fails.ok _ safe
      · have noFault : Fails (brokenRule (do return "unknown operator " ++ (← operator.literal)) :
            Fallible String) Failure.IsIssue fun _ => False := by
          apply fails_brokenRule_of_digits
          intro fault failed
          rcases bind_eq_error_iff.mp failed with failed | ⟨_, _, failed⟩
          · exact Value.literal_eq_error operator failed
          · cases failed
        apply noFault.congr
        intro fault
        simp

/-- The operator of an assertion can be no key. -/
def unusableOperator (entries : List (Value × Value)) (fault : Fault) : Prop :=
  ∃ explicit kind, collectOperator entries = .ok explicit ∧
    ((Value.field? "operator" explicit).getD .null).unhashable? = some kind ∧
    fault = .unhashable kind

theorem fails_readAssertion (operators : OperatorNames) (entries : List (Value × Value)) :
    Fails (readAssertion (some operators) entries) Failure.IsIssue (unusableOperator entries) := by
  unfold readAssertion canonicalize
  apply Fails.congr
  · apply Fails.bind (fails_collectOperator entries)
    intro explicit _
    apply Fails.bind_of_safe
    · apply Fails.bind_of_safe (fails_canonicalOperator operators _)
      intro name _
      exact Fails.ok _ fun _ => id
    · intro canonical _
      exact fails_fields _
  · intro fault
    unfold unusableOperator
    simp

theorem fails_readAction (v : Value) :
    Fails (readAction v) Failure.IsIssue fun fault =>
      ∃ entries, v = .map entries ∧ Value.sort (repeatedParams entries) = .error fault := by
  unfold readAction
  split
  · rename_i entries
    apply Fails.congr
    · apply Fails.bind_of_safe (fails_collectParams entries)
      intro collected _
      exact fails_fields _
    · intro fault
      simp
  · rename_i noMap
    apply Fails.error ⟨_, rfl⟩
    · intro fault same
      cases same
    · intro fault faulty
      obtain ⟨entries, rfl, _⟩ := faulty
      exact noMap entries rfl

theorem fails_underTag {α : Type} {computation : Fallible α} {faults : Fault → Prop} (tag : String)
    (fails : Fails computation Failure.IsIssue faults) :
    Fails (computation.mapError (underTag tag)) Failure.IsIssue faults := by
  apply fails.mapError
  · intro fault
    rfl
  · intro failure faulty
    obtain ⟨issue, rfl⟩ := faulty
    exact ⟨_, rfl⟩
  · exact Failure.not_isIssue_fault

/-- What keeps a document from being read as a step at all. -/
inductive ReadFault : Value → Fault → Prop where
  /-- Parameters are given twice, and their keys cannot be sorted. -/
  | repeated {entries : List (Value × Value)} {fault : Fault} :
      isAssertion entries = false → Value.sort (repeatedParams entries) = .error fault →
      ReadFault (.map entries) fault
  | operator {entries : List (Value × Value)} {fault : Fault} :
      isAssertion entries = true → unusableOperator entries fault →
      ReadFault (.map entries) fault

theorem fails_read (operators : OperatorNames) (v : Value) :
    Fails (read (some operators) v) Failure.IsIssue (ReadFault v) := by
  unfold read
  split
  · rename_i entries
    by_cases asserts : isAssertion entries = true
    · rw [if_pos asserts]
      apply (fails_underTag _ ((fails_readAssertion operators entries).map _)).congr
      intro fault
      constructor
      · exact .operator asserts
      · intro faulty
        rcases faulty with ⟨notAsserts, _⟩ | ⟨_, unusable⟩
        · rw [asserts] at notAsserts
          cases notAsserts
        · exact unusable
    · rw [if_neg asserts]
      apply (fails_underTag _ ((fails_readAction _).map _)).congr
      intro fault
      constructor
      · intro ⟨_, same, failed⟩
        cases same
        exact .repeated (by simpa using asserts) failed
      · intro faulty
        rcases faulty with ⟨_, failed⟩ | ⟨isAssert, _⟩
        · exact ⟨entries, rfl, failed⟩
        · exact absurd isAssert asserts
  · rename_i noMap
    apply (fails_underTag _ ((fails_readAction v).map _)).congr
    intro fault
    constructor
    · intro faulty
      obtain ⟨entries, rfl, _⟩ := faulty
      exact absurd rfl (noMap entries)
    · intro faulty
      rcases faulty with ⟨_, _⟩ | ⟨_, _⟩
      · exact absurd rfl (noMap _)
      · exact absurd rfl (noMap _)

end Step

namespace Scenario

open Fallible

theorem fails_schemaError {α : Type} {faults : Fault → Prop} {message : String}
    {step : Option Int} (named : ∃ rest, message = Diagnostic.stepMark step ++ rest)
    (filename : Option String) (element : Value) (safe : ∀ fault, ¬faults fault) :
    Fails (.error (schemaError message filename step element) : Fallible α)
      (Failure.SchemaOf step) faults := by
  apply Fails.error ⟨_, rfl, rfl, rfl, named⟩
  · intro fault same
    cases same
  · exact safe

theorem exists_eq_stepMark_append {number : Nat} {message rest : String}
    (begins : message = numbered number ++ rest) :
    ∃ others, message = Diagnostic.stepMark (some (number : Int)) ++ others := by
  unfold Diagnostic.stepMark
  dsimp only
  -- Step zero has no mark of its own.
  split
  · exact ⟨message, String.empty_append.symm⟩
  · exact ⟨rest, begins⟩

theorem fails_checkSignature (registry : Registry) (filename : Option String) (number : Nat)
    (step : ActionStep) :
    Fails (checkSignature registry filename number step) (Failure.SchemaOf (some (number : Int)))
      fun _ => False := by
  unfold checkSignature
  split
  · apply fails_schemaError
    · exact exists_eq_stepMark_append String.append_assoc
    · exact fun _ => id
  · exact (Diagnostic.fails_checked _ _ _ _).map _

theorem fails_checkRangeTexts (filename : Option String) (number : Nat) (step : AssertionStep)
    (texts : List (String × String)) :
    Fails (checkRangeTexts filename number step texts) (Failure.SchemaOf (some (number : Int)))
      fun _ => False := by
  induction texts with
  | nil => exact Fails.ok _ fun _ => id
  | cons entry rest ih =>
      unfold checkRangeTexts
      split
      · exact ih
      · split
        · exact ih
        · apply fails_schemaError
          · apply exists_eq_stepMark_append
            simp only [String.append_assoc]
            rfl
          · exact fun _ => id

/-- A literal range is an integer with too many digits. -/
def unwritableRange (registry : Registry) (step : AssertionStep) (fault : Fault) : Prop :=
  ∃ comparator n, registry.comparator? step.operator = some comparator ∧
    comparator.expectsRange = true ∧ step.expected = .int n ∧ intText n = .error fault

theorem rangeTexts_eq_error_iff {registry : Registry} {step : AssertionStep} {fault : Fault} :
    rangeTexts registry step = .error fault ↔ unwritableRange registry step fault := by
  unfold rangeTexts unwritableRange
  dsimp only
  cases registry.comparator? step.operator with
  | none => simp [pure, Except.pure]
  | some comparator =>
      by_cases literal : comparator.expectsRange = true ∧ step.expected.isScalar = true
      · obtain ⟨expects, scalar⟩ := literal
        rw [if_pos (by simp [expects, scalar])]
        constructor
        · intro failed
          rcases bind_eq_error_iff.mp failed with failed | ⟨_, _, failed⟩
          · obtain ⟨n, isInt, failed⟩ := (Value.stringify_eq_error_iff scalar).mp failed
            exact ⟨comparator, n, rfl, expects, isInt, failed⟩
          · cases failed
        · intro ⟨_, n, _, _, isInt, failed⟩
          apply bind_eq_error_iff.mpr
          left
          exact (Value.stringify_eq_error_iff scalar).mpr ⟨n, isInt, failed⟩
      · rw [if_neg (by simpa using literal)]
        constructor
        · intro failed
          cases failed
        · intro ⟨_, n, same, expects, isInt, _⟩
          cases same
          exact absurd ⟨expects, by rw [isInt]; rfl⟩ literal

theorem fails_checkRanges (registry : Registry) (filename : Option String) (number : Nat)
    (step : AssertionStep) :
    Fails (checkRanges registry filename number step) (Failure.SchemaOf (some (number : Int)))
      (unwritableRange registry step) := by
  unfold checkRanges
  apply Fails.congr
  · apply Fails.bind_of_safe (Fails.ofFault _)
    intro texts _
    exact fails_checkRangeTexts filename number step texts
  · intro fault
    exact rangeTexts_eq_error_iff

/-- What keeps a step that was read from being checked. -/
inductive CheckFault (registry : Registry) : Step → Fault → Prop where
  | range {check : AssertionStep} {fault : Fault} :
      unwritableRange registry check fault → CheckFault registry (.assertion check) fault

/-- What keeps a document from being read and checked as a step. -/
inductive StepFault (registry : Registry) (document : Value) : Fault → Prop where
  | read {fault : Fault} : Step.ReadFault document fault → StepFault registry document fault
  | check {step : Step} {fault : Fault} :
      Step.read (some registry.operators) document = .ok step →
      CheckFault registry step fault → StepFault registry document fault

/-- Only mappings are read as steps. -/
theorem entries?_of_stepFault {registry : Registry} {document : Value} {fault : Fault}
    (faulty : StepFault registry document fault) : document.entries? ≠ none := by
  rcases faulty with ⟨⟨_, _⟩ | ⟨_, _⟩⟩ | ⟨success, ⟨_⟩⟩
  · simp [Value.entries?]
  · simp [Value.entries?]
  · unfold Step.read at success
    split at success
    · simp [Value.entries?]
    · obtain ⟨task, _, same⟩ := map_eq_ok_iff.mp (mapError_eq_ok_iff.mp success)
      cases same

theorem fails_check (registry : Registry) (filename : Option String) (number : Nat)
    (step : Step) :
    Fails (do
        match step with
        | .action action => checkSignature registry filename number action
        | .assertion assertion => checkRanges registry filename number assertion
        return step) (Failure.SchemaOf (some (number : Int))) (CheckFault registry step) := by
  cases step with
  | action task =>
      apply Fails.congr
      · apply Fails.bind_of_safe (fails_checkSignature registry filename number task)
        intro _ _
        exact Fails.ok _ fun _ => id
      · intro fault
        constructor
        · exact False.elim
        · intro faulty
          cases faulty
  | assertion check =>
      apply Fails.congr
      · apply Fails.bind_of_safe (fails_checkRanges registry filename number check)
        intro _ _
        exact Fails.ok _ fun _ => id
      · intro fault
        constructor
        · exact .range
        · intro ⟨unwritable⟩
          exact unwritable

theorem fails_readStep (registry : Registry) (filename : Option String) (number : Nat)
    (document : Value) :
    Fails (readStep registry filename number document) (Failure.SchemaOf (some (number : Int)))
      (StepFault registry document) := by
  unfold readStep
  cases entries : document.entries? with
  | none =>
      apply fails_schemaError
      · exact exists_eq_stepMark_append rfl
      · intro fault faulty
        exact entries?_of_stepFault faulty entries
  | some _ =>
      have reads : Fails ((Step.read (some registry.operators) document).mapError
          (stepFailure document filename number)) (Failure.SchemaOf (some (number : Int)))
          (Step.ReadFault document) := by
        apply (Step.fails_read registry.operators document).mapError
        · intro fault
          rfl
        · intro failure faulty
          obtain ⟨issue, rfl⟩ := faulty
          exact ⟨_, rfl, Diagnostic.schemaOf_ofIssue _ _ _ _⟩
        · exact Failure.not_schemaOf_fault _
      apply Fails.congr
      · apply reads.bind
        intro step _
        exact fails_check registry filename number step
      · intro fault
        constructor
        · intro faulty
          rcases faulty with faulty | ⟨step, success, faulty⟩
          · exact .read faulty
          · exact .check (mapError_eq_ok_iff.mp success) faulty
        · intro faulty
          rcases faulty with faulty | ⟨success, faulty⟩
          · exact .inl faulty
          · exact .inr ⟨_, mapError_eq_ok_iff.mpr success, faulty⟩

end Scenario

end Playbook
