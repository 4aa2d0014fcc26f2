import Playbook.Proofs.AssertionRuns
import Playbook.Proofs.Comparisons
import Playbook.Proofs.StepReading

/-!
# Assertions that are decided

An assertion on values that can be resolved passes or fails, unless one of the two values has no
property text, the items of the actual value cannot be read, or a comparison that is made meets an
integer beyond the range of doubles.  In these cases, and only in these, it ends in error.
-/

namespace Playbook

open Fallible

namespace Claim

variable {claim : Claim} {items : List Value}

theorem succeeds_quote_iff {v : Value} : Succeeds (quote v) ↔ v.isWritable = true := by
  unfold quote Value.quote
  rw [succeeds_mapError_iff, succeeds_bind_iff_left fun _ => succeeds_pure _]
  exact Value.succeeds_stringify_iff v

theorem succeeds_expectation_iff {start : String} : Succeeds (claim.expectation start) ↔
    claim.actual.isWritable = true ∧ claim.expected.isWritable = true := by
  unfold expectation
  rw [succeeds_bind_iff_and, succeeds_quote_iff]
  intro shown _
  rw [succeeds_bind_iff_left fun _ => succeeds_pure _, succeeds_quote_iff]

theorem succeeds_judge_iff : Succeeds claim.judge ↔ Succeeds (claim.compare claim.actual) ∧
    claim.actual.isWritable = true ∧ claim.expected.isWritable = true := by
  unfold judge
  apply succeeds_bind_iff_and
  intro comparison _
  rw [succeeds_bind_iff_left, succeeds_expectation_iff]
  intro message
  split <;> exact succeeds_pure _

theorem mem_of_firstFailing {position found : Nat} {item : Value} {detail : String}
    (failing : claim.firstFailing position items = .ok (some (found, item, detail))) :
    item ∈ items := by
  induction items generalizing position with
  | nil => cases failing
  | cons v rest ih =>
      obtain ⟨comparison, _, failing⟩ := bind_eq_ok_iff.mp failing
      split at failing
      · exact List.mem_cons_of_mem v (ih failing)
      · cases failing
        exact List.mem_cons_self

theorem succeeds_judgeEach_iff
    (resolved : claim.actual.isWritable = true → claim.actual.isOperand = true) :
    Succeeds claim.judgeEach ↔ ∃ items, claim.actual.asItems = .ok items ∧
      (claim.actual.isWritable = true ∧ claim.expected.isWritable = true) ∧
        Succeeds (claim.firstFailing 0 items) := by
  unfold judgeEach
  rw [succeeds_bind_iff]
  apply exists_congr
  intro items
  rw [mapError_eq_ok_iff]
  apply and_congr_right
  intro read
  rw [succeeds_bind_iff_and, succeeds_expectation_iff]
  intro message expectation
  split
  · rename_i empty
    rw [List.isEmpty_iff.mp empty]
    exact iff_of_true (succeeds_pure _) (succeeds_ok _)
  · rw [succeeds_bind_iff, Succeeds]
    apply exists_congr
    intro failing
    apply and_iff_left_of_imp
    intro compared
    cases failing with
    | none => exact succeeds_pure _
    | some entry =>
        obtain ⟨position, item, detail⟩ := entry
        -- Items of an operand are operands, so there is a text for the remark on this one.
        have operand := resolved (succeeds_expectation_iff.mp ⟨message, expectation⟩).1
        have remark : Succeeds (itemRemark position item detail) := by
          unfold itemRemark
          rw [succeeds_bind_iff_left fun _ => succeeds_pure _, succeeds_quote_iff]
          apply Value.isWritable_of_isOperand
          exact Value.isOperand_of_mem_asItems operand read item (mem_of_firstFailing compared)
        dsimp only
        rw [succeeds_bind_iff_left fun _ => succeeds_pure _]
        exact remark

theorem succeeds_judgeCount_iff {ranges : String} :
    Succeeds (claim.judgeCount ranges) ↔ ∃ items, claim.actual.asItems = .ok items ∧
      (claim.actual.isWritable = true ∧ claim.expected.isWritable = true) ∧
        Succeeds (claim.countHolding items) := by
  unfold judgeCount
  rw [succeeds_bind_iff]
  apply exists_congr
  intro items
  rw [mapError_eq_ok_iff]
  apply and_congr_right
  intro _
  rw [and_comm]
  apply succeeds_bind_iff_and
  intro matched _
  rw [succeeds_bind_iff_left, succeeds_expectation_iff]
  intro expectation
  dsimp only
  split <;> exact succeeds_pure _

/-! Verdicts are never errors themselves. -/

section Verdicts

variable {verdict : Verdict}

theorem status_of_judge (success : claim.judge = .ok verdict) :
    verdict.status = .pass ∨ verdict.status = .fail := by
  obtain ⟨comparison, _, success⟩ := bind_eq_ok_iff.mp success
  obtain ⟨message, _, success⟩ := bind_eq_ok_iff.mp success
  split at success
  · cases success
    exact .inl rfl
  · cases success
    exact .inr rfl

theorem status_of_judgeEach (success : claim.judgeEach = .ok verdict) :
    verdict.status = .pass ∨ verdict.status = .fail := by
  obtain ⟨items, _, success⟩ := bind_eq_ok_iff.mp success
  obtain ⟨message, _, success⟩ := bind_eq_ok_iff.mp success
  split at success
  · cases success
    exact .inr rfl
  · obtain ⟨failing, _, success⟩ := bind_eq_ok_iff.mp success
    cases failing with
    | none =>
        cases success
        exact .inl rfl
    | some entry =>
        obtain ⟨remark, _, success⟩ := bind_eq_ok_iff.mp success
        cases success
        exact .inr rfl

theorem status_of_judgeCount {ranges : String} (success : claim.judgeCount ranges = .ok verdict) :
    verdict.status = .pass ∨ verdict.status = .fail := by
  obtain ⟨items, _, success⟩ := bind_eq_ok_iff.mp success
  obtain ⟨matched, _, success⟩ := bind_eq_ok_iff.mp success
  obtain ⟨expectation, _, success⟩ := bind_eq_ok_iff.mp success
  dsimp only at success
  split at success
  · cases success
    exact .inl rfl
  · cases success
    exact .inr rfl
  · cases success
    exact .inr rfl

end Verdicts

end Claim

namespace AssertionStep

/-- The items of an assertion cannot be read, or a comparison that it makes overflows: of the value
as a whole, of an item behind items that the relation holds of, or of any item that is counted. -/
def Stuck (check : AssertionStep) (basic : Comparator.Basic) (actual expected : Value) : Prop :=
  match check.count with
  | some _ => actual.IsOverlongList ∨ ∃ items, actual.asItems = .ok items ∧
      ∃ item ∈ items, basic.Overflows check.ignoreCase item expected
  | none =>
      if check.each then actual.IsOverlongList ∨ ∃ items, actual.asItems = .ok items ∧
        ∃ earlier item later, items = earlier ++ item :: later ∧
          (∀ v ∈ earlier,
            Claim.Holds ⟨basic.comparator, actual, expected, check.ignoreCase⟩ v) ∧
            basic.Overflows check.ignoreCase item expected
      else basic.Overflows check.ignoreCase actual expected

section Judged

variable {check : AssertionStep} {basic : Comparator.Basic} {properties : PropertySet}
  {index : Nat} {actual expected : Value}

theorem status_of_judged {claim : Claim} {verdict : Verdict}
    (success : check.judged properties index claim = .ok verdict) :
    verdict.status = .pass ∨ verdict.status = .fail := by
  unfold judged at success
  split at success
  · obtain ⟨ranges, _, success⟩ := bind_eq_ok_iff.mp success
    exact Claim.status_of_judgeCount success
  · split at success
    · exact Claim.status_of_judgeEach success
    · exact Claim.status_of_judge success

theorem exists_items_iff {shown : Prop} {made overflows : List Value → Prop}
    (decides : shown → ∀ items, actual.asItems = .ok items → (made items ↔ ¬overflows items)) :
    (∃ items, actual.asItems = .ok items ∧ shown ∧ made items) ↔
      shown ∧ ¬(actual.IsOverlongList ∨ ∃ items, actual.asItems = .ok items ∧ overflows items) := by
  rw [not_or, ← Value.succeeds_asItems_iff]
  constructor
  · rintro ⟨items, read, isShown, isMade⟩
    refine ⟨isShown, ⟨items, read⟩, ?_⟩
    rintro ⟨others, othersRead, overflow⟩
    cases read.symm.trans othersRead
    exact (decides isShown items read).mp isMade overflow
  · rintro ⟨isShown, ⟨items, read⟩, safe⟩
    refine ⟨items, read, isShown, ?_⟩
    exact (decides isShown items read).mpr fun overflow => safe ⟨items, read, overflow⟩

/-- There is a verdict if and only if both values have property texts and the assertion is not
stuck. -/
theorem succeeds_judged_iff
    (counted : ∀ count ∈ check.count,
      Succeeds (properties.resolveTemplate (some (index : Int)) count))
    (resolved : actual.isWritable = true → actual.isOperand = true) :
    Succeeds (check.judged properties index
        ⟨basic.comparator, actual, expected, check.ignoreCase⟩) ↔
      (actual.isWritable = true ∧ expected.isWritable = true) ∧
        ¬check.Stuck basic actual expected := by
  unfold judged Stuck
  cases given : check.count with
  | some count =>
      obtain ⟨ranges, rangesResolved⟩ := counted count given
      dsimp only
      rw [rangesResolved]
      apply Claim.succeeds_judgeCount_iff.trans
      apply exists_items_iff
      intro shown items read
      have operands := Value.isOperand_of_mem_asItems (resolved shown.1) read
      exact Claim.succeeds_countHolding_iff rfl operands shown.2
  | none =>
      dsimp only
      by_cases each : check.each = true
      · rw [if_pos each, if_pos each]
        apply (Claim.succeeds_judgeEach_iff resolved).trans
        apply exists_items_iff
        intro shown items read
        have operands := Value.isOperand_of_mem_asItems (resolved shown.1) read
        exact Claim.succeeds_firstFailing_iff rfl operands shown.2
      · rw [if_neg each, if_neg each, Claim.succeeds_judge_iff, and_comm]
        apply and_congr_right
        intro shown
        exact Claim.succeeds_compare_iff rfl (resolved shown.1) shown.2

end Judged

end AssertionStep

namespace Step

/-- An assertion whose keys are all defined passes or fails if and only if both of its values have
property texts and it is not stuck. -/
theorem execute_assertion_decided {engine : Engine} {check : AssertionStep}
    {basic : Comparator.Basic}
    (known : engine.registry.comparator? check.operator = some basic.comparator)
    {properties : PropertySet}
    (defined : ∀ key ∈ check.references, properties.contains key = true) (index : Nat) :
    ∃ actual expected,
      properties.resolveValue (some index) check.value = .ok actual ∧
      properties.resolveValue (some index) check.expected = .ok expected ∧
      ∀ cancelled,
        ((execute engine properties index cancelled (.assertion check)).outcome.status = .pass ∨
          (execute engine properties index cancelled (.assertion check)).outcome.status = .fail) ↔
        (actual.isWritable = true ∧ expected.isWritable = true) ∧
          ¬check.Stuck basic actual expected := by
  obtain ⟨inValues, inCount⟩ := List.forall_mem_append.mp defined
  obtain ⟨inActual, inExpected⟩ := List.forall_mem_append.mp inValues
  have counted : ∀ count ∈ check.count,
      Succeeds (properties.resolveTemplate (some (index : Int)) count) := by
    intro count given
    rw [Option.mem_def] at given
    rw [given] at inCount
    exact PropertySet.succeeds_resolveTemplate inCount _
  obtain ⟨actual, actualResolved⟩ :=
    PropertySet.succeeds_resolveValue inActual (some (index : Int))
  obtain ⟨expected, expectedResolved⟩ :=
    PropertySet.succeeds_resolveValue inExpected (some (index : Int))
  refine ⟨actual, expected, actualResolved, expectedResolved, ?_⟩
  intro cancelled
  rw [← AssertionStep.succeeds_judged_iff counted
      (PropertySet.isOperand_of_resolveValue actualResolved), outcome_execute_assertion,
    AssertionStep.result_run_procedure known actualResolved expectedResolved]
  cases made : check.judged properties index
      ⟨basic.comparator, actual, expected, check.ignoreCase⟩ with
  | ok verdict => exact iff_of_true (AssertionStep.status_of_judged made) (succeeds_ok verdict)
  | error failure =>
      apply iff_of_false _ (not_succeeds_error failure)
      rintro (passes | fails)
      · cases passes
      · cases fails

/-- A number of a property and a number of the document, both less than a numeral that is far
beyond the doubles: as a text, it is read as infinity. -/
theorem execute_assertion_decided_numeral :
    let engine : Engine := { registry := .builtin, workspace := .ofText "ws" }
    let properties : PropertySet := ⟨[("port", "80")], []⟩
    let check : AssertionStep :=
      ⟨none, none, .list [.text "\x7b\x7bport\x7d\x7d", .int 8080], "lessThan", .text "1e999",
        false, true, none⟩
    engine.registry.comparator? check.operator =
        some (Comparator.Basic.comparator .lessThan) ∧
      (∀ key ∈ check.references, properties.contains key = true) ∧
      ((execute engine properties 1 false (.assertion check)).outcome.status = .pass ∨
        (execute engine properties 1 false (.assertion check)).outcome.status = .fail) := by
  intro engine properties check
  have known : engine.registry.comparator? check.operator =
      some (Comparator.Basic.comparator .lessThan) := Comparator.Basic.comparator?_builtin .lessThan
  have defined : ∀ key ∈ check.references, properties.contains key = true := by decide +kernel
  refine ⟨known, defined, ?_⟩
  obtain ⟨actual, expected, actualResolved, expectedResolved, decided⟩ :=
    execute_assertion_decided known defined 1
  have actualIs : properties.resolveValue (some (1 : Nat)) check.value =
      .ok (.list [.text "80", .int 8080]) := rfl
  have expectedIs : properties.resolveValue (some (1 : Nat)) check.expected =
      .ok (.text "1e999") := rfl
  cases actualResolved.symm.trans actualIs
  cases expectedResolved.symm.trans expectedIs
  have small : ∀ item ∈ [Value.text "80", .int 8080], item.isBeyond = false := by decide +kernel
  have writable : (Value.list [.text "80", .int 8080]).isWritable = true := by decide +kernel
  refine (decided false).mpr ⟨⟨writable, rfl⟩, ?_⟩
  rintro (⟨_, _, same, _⟩ | ⟨items, read, earlier, item, later, split, _, overflows⟩)
  · cases same
  · cases read
    have member : item ∈ [Value.text "80", .int 8080] := by
      rw [split]
      simp
    rcases overflows with left | right
    · rw [small item member] at left
      cases left
    · cases right

/-- The integer that is one and 309 zeros cannot be compared with itself. -/
theorem execute_assertion_beyond_doubles :
    let engine : Engine := { registry := .builtin, workspace := .ofText "ws" }
    let n : Value := .int (tenTo 309 : Nat)
    let check : AssertionStep := ⟨none, none, n, "equals", n, false, false, none⟩
    Scenario.readStep engine.registry none 1
        (.record [("kind", .text "assert"), ("value", n), ("equals", n)]) =
      .ok (.assertion check) ∧
    check.references = [] ∧
    (execute engine (.ofFile []) 1 false (.assertion check)).outcome.status = .error := by
  intro engine n check
  refine ⟨?_, rfl, ?_⟩
  · apply Scenario.readStep_of_passes <;> rfl
  · decide +kernel

end Step

end Playbook
