import Playbook.Proofs.AssertionRuns
import Playbook.Proofs.RangeTexts
import Playbook.Proofs.ScalarTexts
import Playbook.Proofs.StepReading

/-!
# Literal ranges

Ranges that hold no placeholder are checked when their step is read, so no execution fails on
them.  What is expected may be no range all the same: nothing is checked where nothing, a
container or bytes that look like a template are expected.  These are never ranges.
-/

namespace Playbook

open Fallible

namespace Range

/-- A text with a character that no range has is malformed. -/
theorem exists_parse_eq_error {text : String} {c : Char} (member : c ∈ text.toList)
    (foreign : isPart c = false) (noComma : c ≠ ',') : ∃ message, parse text = .error message := by
  cases parsed : parse text with
  | error message => exact ⟨message, rfl⟩
  | ok ranges =>
      rcases isPart_of_parse parsed member with part | comma
      · rw [foreign] at part
        cases part
      · exact absurd comma noComma

theorem faultMessage_of_parse_eq_error {text message : String}
    (failed : parse text = .error message) : ∃ item, message = faultMessage item text := by
  obtain ⟨item, _, same⟩ := mapError_eq_error_iff.mp failed
  exact ⟨item, same.symm⟩

end Range

namespace Value

/-- Expected values that are no checked ranges, although nothing is put into them: nothing at
all, containers, and bytes that look like a template. -/
inductive IsUnchecked : Value → Prop where
  | null : IsUnchecked .null
  | list (items : List Value) : IsUnchecked (.list items)
  | tuple (items : List Value) : IsUnchecked (.tuple items)
  | set (items : List Value) : IsUnchecked (.set items)
  | map (entries : List (Value × Value)) : IsUnchecked (.map entries)
  | bytes {b : List UInt8} :
      Template.hasPlaceholder (Text.Utf8.decodeLenient b) = true → IsUnchecked (.bytes b)

theorem openingBracket_mem_stringify {items : List Value} {text : String}
    (shown : (list items).stringify = .ok text) : '[' ∈ text.toList := by
  obtain ⟨cs, written, same⟩ := bind_eq_ok_iff.mp shown
  obtain ⟨inner, _, opened⟩ := bind_eq_ok_iff.mp written
  cases same
  cases opened
  simp

theorem openingBrace_mem_stringify {entries : List (Value × Value)} {text : String}
    (shown : (map entries).stringify = .ok text) : '\x7b' ∈ text.toList := by
  obtain ⟨cs, written, same⟩ := bind_eq_ok_iff.mp shown
  obtain ⟨inner, _, opened⟩ := bind_eq_ok_iff.mp written
  cases same
  cases opened
  simp

/-- Values that are not checked are no ranges. -/
theorem IsUnchecked.malformed {v resolved : Value} (unchecked : v.IsUnchecked)
    {properties : PropertySet} {step : Option Int} {text : String}
    (resolution : properties.resolveValue step v = .ok resolved)
    (shown : resolved.stringify = .ok text) : ∃ message, Range.parse text = .error message := by
  have bracket {items : List Value} (same : resolved = .list items) :
      ∃ message, Range.parse text = .error message := by
    subst same
    exact Range.exists_parse_eq_error (openingBracket_mem_stringify shown) (by decide) (by decide)
  cases unchecked with
  | null =>
      cases resolution
      cases shown
      exact ⟨_, rfl⟩
  | list items | tuple items | set items =>
      obtain ⟨others, _, same⟩ := bind_eq_ok_iff.mp resolution
      exact bracket (Except.ok.inj same).symm
  | map entries =>
      obtain ⟨others, _, same⟩ := bind_eq_ok_iff.mp resolution
      cases same
      exact Range.exists_parse_eq_error (openingBrace_mem_stringify shown) (by decide) (by decide)
  | @bytes b holds =>
      cases resolution
      cases shown
      have brace : '\x7b' ∈ (Text.Utf8.decodeLenient b).toList := by
        by_contra without
        simp [Template.hasPlaceholder, Template.keys_eq_nil_of_not_mem without] at holds
      exact Range.exists_parse_eq_error brace (by decide) (by decide)

theorem isScalar_of_checked {v : Value} (checked : ¬v.IsUnchecked)
    (notForeign : ∀ kind shown, v ≠ .foreign kind shown) : v.isScalar = true := by
  cases v with
  | null => exact absurd .null checked
  | list items => exact absurd (.list items) checked
  | tuple items => exact absurd (.tuple items) checked
  | set items => exact absurd (.set items) checked
  | map entries => exact absurd (.map entries) checked
  | foreign kind shown => exact absurd rfl (notForeign kind shown)
  | _ => rfl

/-- The text of a checked value holds no placeholder. -/
theorem hasPlaceholder_stringify {v : Value} {text : String} (scalar : v.isScalar = true)
    (plain : v.references = []) (checked : ¬v.IsUnchecked) (shown : v.stringify = .ok text) :
    Template.hasPlaceholder text = false := by
  cases v with
  | text s =>
      have same : s = text := Except.ok.inj shown
      have keys : Template.keys s = [] := plain
      rw [← same, Template.hasPlaceholder, keys]
      rfl
  | bytes b =>
      cases shown
      by_contra holds
      exact checked (.bytes (Bool.not_eq_false _ ▸ holds))
  | _ =>
      rw [Template.hasPlaceholder, keys_stringify_eq_nil scalar (by simp) (by simp) shown]
      rfl

theorem resolveValue_of_isScalar {v : Value} (scalar : v.isScalar = true)
    (plain : v.references = []) (properties : PropertySet) (step : Option Int) :
    properties.resolveValue step v = .ok v := by
  cases v with
  | text s =>
      unfold PropertySet.resolveValue
      rw [PropertySet.resolveTemplate_of_keys_eq_nil plain]
      rfl
  | list items | tuple items | set items | map entries => cases scalar
  | _ => rfl

end Value

namespace Scenario

variable {registry : Registry} {filename : Option String} {number : Nat} {check : AssertionStep}

/-- Texts without placeholders that have passed the check are ranges. -/
theorem exists_parse_eq_ok {texts : List (String × String)} {field text : String}
    (passed : checkRangeTexts filename number check texts = .ok ())
    (member : (field, text) ∈ texts) (literal : Template.hasPlaceholder text = false) :
    ∃ ranges, Range.parse text = .ok ranges := by
  induction texts with
  | nil => cases member
  | cons first rest ih =>
      obtain ⟨firstField, firstText⟩ := first
      unfold checkRangeTexts at passed
      rcases List.mem_cons.mp member with same | later
      · cases same
        rw [literal] at passed
        cases parsed : Range.parse text with
        | ok ranges => exact ⟨ranges, rfl⟩
        | error message =>
            rw [if_neg Bool.false_ne_true, parsed] at passed
            cases passed
      · apply ih _ later
        split at passed
        · exact passed
        · split at passed
          · exact passed
          · cases passed

theorem mem_rangeTexts_count {texts : List (String × String)} {count : String}
    (made : rangeTexts registry check = .ok texts) (given : check.count = some count) :
    ("count", count) ∈ texts := by
  unfold rangeTexts at made
  rw [given] at made
  dsimp only [Option.map_some, Option.getD_some] at made
  split at made
  · obtain ⟨text, _, same⟩ := bind_eq_ok_iff.mp made
    cases same
    exact List.mem_cons_self
  · cases made
    exact List.mem_cons_self

theorem mem_rangeTexts_expected {texts : List (String × String)} {text : String}
    (made : rangeTexts registry check = .ok texts)
    (within : registry.comparator? check.operator = some Comparator.within)
    (scalar : check.expected.isScalar = true) (shown : check.expected.stringify = .ok text) :
    ("expected", text) ∈ texts := by
  have ranged : (((registry.comparator? check.operator).map Comparator.expectsRange).getD false &&
      check.expected.isScalar) = true := by
    rw [within, scalar]
    rfl
  unfold rangeTexts at made
  dsimp only at made
  rw [if_pos ranged, shown, ok_bind] at made
  cases made
  exact List.mem_append_right _ List.mem_cons_self

end Scenario

namespace AssertionStep

/-- The fields of an assertion that may hold ranges. -/
inductive RangeField where
  | count
  | expected

/-- The texts that an execution of an assertion reads as ranges, with the fields that they come
from: its count, and what is expected if the relation is the one of ranges. -/
inductive ReadsRange (check : AssertionStep) (registry : Registry) (properties : PropertySet)
    (index : Nat) : RangeField → String → Prop where
  | count {count text : String} :
      check.count = some count → properties.resolveTemplate (some index) count = .ok text →
      ReadsRange check registry properties index .count text
  | expected {expected : Value} {text : String} :
      registry.comparator? check.operator = some Comparator.within →
      properties.resolveValue (some index) check.expected = .ok expected →
      expected.stringify = .ok text → ReadsRange check registry properties index .expected text

/-- An execution fails, and what it reads as ranges from a field is malformed. -/
def FailsOnRange (check : AssertionStep) (engine : Engine) (properties : PropertySet)
    (index : Nat) (cancelled : Bool) (field : RangeField) : Prop :=
  (Step.execute engine properties index cancelled (.assertion check)).outcome.status = .fail ∧
    ∃ text message, check.ReadsRange engine.registry properties index field text ∧
      Range.parse text = .error message

variable {registry : Registry} {filename : Option String} {number : Nat} {check : AssertionStep}
  {properties : PropertySet} {index : Nat} {text : String}

/-- A count without placeholders that has been checked is a range in every execution. -/
theorem exists_parse_of_count {count : String} (given : check.count = some count)
    (literal : Template.hasPlaceholder count = false)
    (passed : Scenario.checkRanges registry filename number check = .ok ())
    (reads : check.ReadsRange registry properties index .count text) :
    ∃ ranges, Range.parse text = .ok ranges := by
  obtain ⟨texts, made, passed⟩ := bind_eq_ok_iff.mp passed
  have plain : Template.keys count = [] := by simpa [Template.hasPlaceholder] using literal
  cases reads with
  | count held resolution =>
      cases given.symm.trans held
      rw [PropertySet.resolveTemplate_of_keys_eq_nil plain] at resolution
      cases resolution
      exact Scenario.exists_parse_eq_ok passed
        (Scenario.mem_rangeTexts_count (mapError_eq_ok_iff.mp made) given) literal

/-- An expected value without placeholders that has been checked is a range in every
execution. -/
theorem exists_parse_of_expected
    (within : registry.comparator? check.operator = some Comparator.within)
    (scalar : check.expected.isScalar = true) (plain : check.expected.references = [])
    (checked : ¬check.expected.IsUnchecked)
    (passed : Scenario.checkRanges registry filename number check = .ok ())
    (reads : check.ReadsRange registry properties index .expected text) :
    ∃ ranges, Range.parse text = .ok ranges := by
  obtain ⟨texts, made, passed⟩ := bind_eq_ok_iff.mp passed
  cases reads with
  | expected _ resolution shown =>
      rw [Value.resolveValue_of_isScalar scalar plain] at resolution
      cases resolution
      exact Scenario.exists_parse_eq_ok passed
        (Scenario.mem_rangeTexts_expected (mapError_eq_ok_iff.mp made) within scalar shown)
        (Value.hasPlaceholder_stringify scalar plain checked shown)

/-- A number that is compared with a malformed range fails for this reason. -/
theorem judge_of_malformed {claim : Claim} (within : claim.comparator = Comparator.within)
    {x : Binary64} {shown message : String} (number : claim.actual.asNumber = .ok (some x))
    (actualShown : claim.actual.stringify = .ok shown)
    (expectedShown : claim.expected.stringify = .ok text)
    (malformed : Range.parse text = .error message) :
    claim.judge = .ok ⟨.fail, "expected \"" ++ shown ++ "\" to be in range \"" ++ text ++ "\" (" ++
      message ++ ")"⟩ := by
  have compared : claim.compare claim.actual = .ok ⟨false, message⟩ := by
    have failed : Comparator.inRange claim.actual claim.expected = .error (.assertion message) := by
      unfold Comparator.inRange
      rw [number, ok_bind]
      dsimp only
      rw [expectedShown, ok_bind]
      unfold Range.anyContains Range.anyOf
      rw [malformed]
    have related : claim.comparator.relation claim.actual claim.expected claim.options =
        .error (.fault (.assertion message)) := by
      rw [within]
      change (Comparator.inRange claim.actual claim.expected).mapError Failure.fault = _
      rw [failed]
      rfl
    unfold Claim.compare
    rw [related]
  obtain ⟨item, rfl⟩ := Range.faultMessage_of_parse_eq_error malformed
  have remark : (Range.faultMessage item text).isEmpty = false := by
    simp [Range.faultMessage]
  unfold Claim.judge
  rw [compared, ok_bind, Claim.expectation_eq actualShown expectedShown, ok_bind]
  unfold Claim.remarked Claim.announced
  rw [remark, if_neg Bool.false_ne_true, if_neg Bool.false_ne_true, within]
  have verb : Comparator.within.describe = "be in range" := rfl
  change Except.ok (Verdict.mk .fail _) = _
  rw [verb]
  simp [← String.toList_inj]

end AssertionStep

namespace Scenario

/-- A step that is read has checked its literal ranges: no execution of it, on whatever
properties, fails on a count without placeholders, nor on an expected value without
placeholders.  What is not checked is `Value.IsUnchecked`: with such an expected value, every
comparison of a number fails on it. -/
theorem literal_ranges_settled {engine : Engine} {filename : Option String} {number : Nat}
    {document : Value} {check : AssertionStep}
    (accepted : readStep engine.registry filename number document = .ok (.assertion check)) :
    (∀ count, check.count = some count → Template.hasPlaceholder count = false →
      ∀ properties index cancelled, ¬check.FailsOnRange engine properties index cancelled .count) ∧
    (engine.registry.comparator? check.operator = some Comparator.within →
      check.expected.references = [] → (∀ kind shown, check.expected ≠ .foreign kind shown) →
      (¬check.expected.IsUnchecked → ∀ properties index cancelled,
        ¬check.FailsOnRange engine properties index cancelled .expected) ∧
      (check.expected.IsUnchecked → ∀ properties index cancelled actual x shown text,
        properties.resolveValue (some (index : Int)) check.value = .ok actual →
        actual.asNumber = .ok (some x) → actual.stringify = .ok shown →
        check.ReadsRange engine.registry properties index .expected text →
        check.count = none → check.each = false →
        ∃ message, Range.parse text = .error message ∧
          (Step.execute engine properties index cancelled (.assertion check)).outcome =
            Step.outcome (.assertion check) index ⟨.fail, "expected \"" ++ shown ++
              "\" to be in range \"" ++ text ++ "\" (" ++ message ++ ")"⟩ [])) := by
  obtain ⟨_, passed⟩ := readStep_eq_ok accepted
  refine ⟨?_, ?_⟩
  · rintro count given literal properties index cancelled ⟨_, text, message, reads, malformed⟩
    obtain ⟨ranges, parsed⟩ := AssertionStep.exists_parse_of_count given literal passed reads
    rw [parsed] at malformed
    cases malformed
  · intro within plain notForeign
    refine ⟨?_, ?_⟩
    · rintro checked properties index cancelled ⟨_, text, message, reads, malformed⟩
      have scalar := Value.isScalar_of_checked checked notForeign
      obtain ⟨ranges, parsed⟩ :=
        AssertionStep.exists_parse_of_expected within scalar plain checked passed reads
      rw [parsed] at malformed
      cases malformed
    · intro unchecked properties index cancelled actual x shown text resolution number actualShown
        reads noCount notEach
      cases reads with
      | @expected expected _ _ expectedResolution expectedShown =>
          obtain ⟨message, malformed⟩ := unchecked.malformed expectedResolution expectedShown
          refine ⟨message, malformed, ?_⟩
          apply Step.outcome_of_judged within resolution expectedResolution
          unfold AssertionStep.judged
          rw [noCount, notEach]
          dsimp only
          rw [if_neg Bool.false_ne_true,
            AssertionStep.judge_of_malformed rfl number actualShown expectedShown malformed]

/-- An assertion whose count and whose expected value are ranges. -/
theorem literal_ranges_settled_counted :
    let engine : Engine := { registry := .builtin, workspace := .ofText "ws" }
    let check : AssertionStep :=
      ⟨none, none, .list [.int 3, .int 9], "inRange", .text "1-5, 8+", false, false, some "1-"⟩
    readStep engine.registry none 1
        (.record [("kind", .text "assert"), ("value", .list [.int 3, .int 9]),
          ("range", .text "1-5, 8+"), ("count", .text "1-")]) = .ok (.assertion check) ∧
    ∀ properties index cancelled,
      ¬check.FailsOnRange engine properties index cancelled .count ∧
        ¬check.FailsOnRange engine properties index cancelled .expected := by
  intro engine check
  have accepted : readStep engine.registry none 1
      (.record [("kind", .text "assert"), ("value", .list [.int 3, .int 9]),
        ("range", .text "1-5, 8+"), ("count", .text "1-")]) = .ok (.assertion check) := by
    apply readStep_of_passes <;> rfl
  obtain ⟨counts, expects⟩ := literal_ranges_settled accepted
  obtain ⟨settled, _⟩ := expects rfl rfl nofun
  exact ⟨accepted, fun properties index cancelled =>
    ⟨counts "1-" rfl rfl properties index cancelled, settled nofun properties index cancelled⟩⟩

/-- An assertion on ranges that expects nothing is accepted, and its execution fails on them. -/
theorem readStep_null_range :
    let engine : Engine := { registry := .builtin, workspace := .ofText "ws" }
    let check : AssertionStep :=
      ⟨none, none, .int 5, "inRange", .null, false, false, none⟩
    readStep engine.registry none 1
        (.record [("kind", .text "assert"), ("value", .int 5), ("inRange", .null)]) =
      .ok (.assertion check) ∧
    engine.registry.comparator? check.operator = some Comparator.within ∧
    check.expected.references = [] ∧
    check.FailsOnRange engine (.ofFile []) 1 false .expected := by
  intro engine check
  refine ⟨?_, rfl, rfl, ?_, "", _, .expected rfl rfl rfl, rfl⟩
  · apply readStep_of_passes <;> rfl
  · decide +kernel

end Scenario

end Playbook
