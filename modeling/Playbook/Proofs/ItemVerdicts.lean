import Playbook.Proofs.Decisions

/-!
# Verdicts on items

An assertion on items holds of some of them.  Counting looks at all items and compares their number
with ranges; requiring every item stops at the first one that the relation does not hold of.  Both
come to the same number, and as long as comparisons only hold, do not hold or fail their assertion,
neither ends in an error.
-/

namespace Playbook

open Fallible

namespace Claim

/-- The comparison of a value has a result: the relation holds of it or not, or the assertion of the
comparison fails. -/
inductive Decides (claim : Claim) (v : Value) : Prop where
  | related {holds : Bool} :
      claim.comparator.relation v claim.expected claim.options = .ok holds → Decides claim v
  | failed {message : String} :
      claim.comparator.relation v claim.expected claim.options =
        .error (.fault (.assertion message)) → Decides claim v

/-- Whether the relation holds of a value. -/
def passes (claim : Claim) (v : Value) : Bool :=
  match claim.comparator.relation v claim.expected claim.options with
  | .ok holds => holds
  | .error _ => false

/-- What a failed comparison of a value adds to messages. -/
def detail (claim : Claim) (v : Value) : String :=
  match claim.comparator.relation v claim.expected claim.options with
  | .error (.fault (.assertion message)) => message
  | _ => ""

variable {claim : Claim} {items : List Value} {actualText expectedText : String}

theorem compare_eq {v : Value} (decides : claim.Decides v) :
    claim.compare v = .ok ⟨claim.passes v, claim.detail v⟩ := by
  unfold compare passes detail
  cases decides with
  | related made => rw [made]
  | failed made => rw [made]

/-! ## The two scans -/

theorem countHolding_eq (decides : ∀ v ∈ items, claim.Decides v) :
    claim.countHolding items = .ok (items.countP claim.passes) := by
  induction items with
  | nil => rfl
  | cons v rest ih =>
      obtain ⟨here, later⟩ := List.forall_mem_cons.mp decides
      rw [countHolding, compare_eq here, ok_bind, ih later, ok_bind, List.countP_cons]
      cases claim.passes v <;> rfl

theorem firstFailing_of_all (decides : ∀ v ∈ items, claim.Decides v)
    (all : ∀ v ∈ items, claim.passes v = true) (position : Nat) :
    claim.firstFailing position items = .ok none := by
  induction items generalizing position with
  | nil => rfl
  | cons v rest ih =>
      obtain ⟨here, later⟩ := List.forall_mem_cons.mp decides
      obtain ⟨passes, others⟩ := List.forall_mem_cons.mp all
      rw [firstFailing, compare_eq here, ok_bind, passes, if_pos rfl]
      exact ih later others (position + 1)

theorem firstFailing_append {earlier later : List Value} {item : Value}
    (decides : ∀ v ∈ earlier ++ item :: later, claim.Decides v)
    (before : ∀ v ∈ earlier, claim.passes v = true) (fails : claim.passes item = false)
    (position : Nat) :
    claim.firstFailing position (earlier ++ item :: later) =
      .ok (some (position + earlier.length, item, claim.detail item)) := by
  induction earlier generalizing position with
  | nil =>
      rw [List.nil_append, firstFailing, compare_eq (decides item (by simp)), ok_bind, fails]
      rfl
  | cons v rest ih =>
      obtain ⟨here, behind⟩ := List.forall_mem_cons.mp decides
      obtain ⟨passes, others⟩ := List.forall_mem_cons.mp before
      rw [List.cons_append, firstFailing, compare_eq here, ok_bind, passes, if_pos rfl,
        ih behind others, List.length_cons, Nat.add_assoc, Nat.add_comm 1]

/-! ## The two verdicts -/

section Verdicts

theorem readItems_eq (read : claim.actual.asItems = .ok items) :
    claim.actual.asItems.mapError Failure.fault = .ok items := by
  rw [read]
  rfl

variable (actualShown : claim.actual.stringify = .ok actualText)
  (expectedShown : claim.expected.stringify = .ok expectedText)
  (read : claim.actual.asItems = .ok items) (decides : ∀ v ∈ items, claim.Decides v)

include actualShown expectedShown read decides

theorem judgeCount_eq (ranges : String) :
    let message := claim.announced
      ("expected " ++ ranges ++ " of " ++ toString items.length ++ " items of ")
      actualText expectedText ++ ", " ++ toString (items.countP claim.passes) ++ " did"
    claim.judgeCount ranges = .ok (match Range.parse ranges with
      | .ok found =>
          ⟨if found.any (Range.containsInt (items.countP claim.passes)) then .pass else .fail,
            message⟩
      | .error problem => ⟨.fail, message ++ " (" ++ problem ++ ")"⟩) := by
  intro message
  unfold judgeCount
  rw [readItems_eq read, ok_bind, countHolding_eq decides, ok_bind,
    expectation_eq actualShown expectedShown, ok_bind]
  unfold Range.anyContainsInt Range.anyOf
  cases Range.parse ranges with
  | error problem => rfl
  | ok found =>
      dsimp only
      cases found.any (Range.containsInt (items.countP claim.passes)) <;> rfl

theorem judgeEach_of_all (all : ∀ v ∈ items, claim.passes v = true) :
    let message := claim.announced "expected every item of " actualText expectedText
    claim.judgeEach =
      .ok (if items = [] then ⟨.fail, remarked message "no items"⟩ else ⟨.pass, message⟩) := by
  intro message
  unfold judgeEach
  rw [readItems_eq read, ok_bind, expectation_eq actualShown expectedShown, ok_bind,
    firstFailing_of_all decides all]
  cases items with
  | nil => rfl
  | cons v rest => rfl

theorem judgeEach_of_first {earlier later : List Value} {item : Value} {itemText : String}
    (split : items = earlier ++ item :: later)
    (before : ∀ v ∈ earlier, claim.passes v = true) (fails : claim.passes item = false)
    (itemShown : item.stringify = .ok itemText) :
    claim.judgeEach = .ok ⟨.fail,
      claim.announced "expected every item of " actualText expectedText ++ " (" ++
        ("item " ++ toString earlier.length ++ " is " ++ ("\"" ++ itemText ++ "\"") ++
          (if (claim.detail item).isEmpty then "" else ", " ++ claim.detail item)) ++ ")"⟩ := by
  have nonempty : items.isEmpty = false := by simp [split]
  have first : claim.firstFailing 0 items =
      .ok (some (earlier.length, item, claim.detail item)) := by
    rw [split] at decides ⊢
    simpa using firstFailing_append decides before fails 0
  have remark : itemRemark earlier.length item (claim.detail item) = .ok ("item " ++
      toString earlier.length ++ " is " ++ ("\"" ++ itemText ++ "\"") ++
        (if (claim.detail item).isEmpty then "" else ", " ++ claim.detail item)) := by
    unfold itemRemark
    rw [quote_eq itemShown]
    rfl
  unfold judgeEach
  rw [readItems_eq read, ok_bind, expectation_eq actualShown expectedShown, ok_bind, nonempty,
    first]
  simp only [Bool.false_eq_true, if_false, ok_bind]
  rw [remark, ok_bind]
  unfold remarked
  have shown : (("item " ++ toString earlier.length ++ " is " ++ ("\"" ++ itemText ++ "\"") ++
      (if (claim.detail item).isEmpty then "" else ", " ++ claim.detail item)) : String).isEmpty =
        false := by
    simp
  rw [shown]
  rfl

/-- The verdict on a count says whether the number of items that the relation holds of lies in one
of the ranges; a count that is no list of ranges fails. -/
theorem judgeCount_settled (ranges : String) : ∃ verdict, claim.judgeCount ranges = .ok verdict ∧
    (∀ found, Range.parse ranges = .ok found →
      (verdict.status = .pass ↔ ∃ range ∈ found,
        range.low.leInt (items.countP claim.passes) = true ∧
          Binary64.intLe (items.countP claim.passes) range.high = true) ∧
      (verdict.status = .fail ↔ ¬∃ range ∈ found,
        range.low.leInt (items.countP claim.passes) = true ∧
          Binary64.intLe (items.countP claim.passes) range.high = true)) ∧
    ∀ problem, Range.parse ranges = .error problem → verdict.status = .fail := by
  refine ⟨_, judgeCount_eq actualShown expectedShown read decides ranges, ?_, ?_⟩
  · intro found parsed
    have inOne : found.any (Range.containsInt (items.countP claim.passes)) = true ↔
        ∃ range ∈ found, range.low.leInt (items.countP claim.passes) = true ∧
          Binary64.intLe (items.countP claim.passes) range.high = true := by
      simp [Range.containsInt]
    rw [parsed]
    dsimp only
    split
    · rename_i holds
      exact ⟨iff_of_true rfl (inOne.mp holds), iff_of_false nofun (not_not.mpr (inOne.mp holds))⟩
    · rename_i fails
      exact ⟨iff_of_false nofun (mt inOne.mpr fails), iff_of_true rfl (mt inOne.mpr fails)⟩
  · intro problem malformed
    rw [malformed]

/-- The verdict on every item says whether there are items and all of them count; where one does
not, the message names the first such item. -/
theorem judgeEach_settled (shown : ∀ v ∈ items, Succeeds v.stringify) :
    ∃ verdict, claim.judgeEach = .ok verdict ∧
      (verdict.status = .pass ↔ items ≠ [] ∧ items.countP claim.passes = items.length) ∧
      (verdict.status = .fail ↔ ¬(items ≠ [] ∧ items.countP claim.passes = items.length)) ∧
      (items ≠ [] → items.countP claim.passes ≠ items.length → ∃ earlier item later itemText,
        items = earlier ++ item :: later ∧ (∀ v ∈ earlier, claim.passes v = true) ∧
        claim.passes item = false ∧ item.stringify = .ok itemText ∧
        verdict.message =
          claim.announced "expected every item of " actualText expectedText ++ " (" ++
            ("item " ++ toString earlier.length ++ " is " ++ ("\"" ++ itemText ++ "\"") ++
              (if (claim.detail item).isEmpty then "" else ", " ++ claim.detail item)) ++ ")") := by
  have full : items.countP claim.passes = items.length ↔ ∀ v ∈ items, claim.passes v = true :=
    List.countP_eq_length
  rcases none_or_first (fun v => ¬claim.passes v = true) items with
    all | ⟨earlier, item, later, split, before, fails⟩
  · have all := fun v member => not_not.mp (all v member)
    refine ⟨_, judgeEach_of_all actualShown expectedShown read decides all, ?_, ?_, ?_⟩
    · by_cases empty : items = [] <;> simp [empty, full.mpr all]
    · by_cases empty : items = [] <;> simp [empty, full.mpr all]
    · exact fun _ some => absurd (full.mpr all) some
  · have before := fun v member => not_not.mp (before v member)
    have fails := Bool.eq_false_of_not_eq_true fails
    have member : item ∈ items := by simp [split]
    obtain ⟨itemText, itemShown⟩ := shown item member
    have incomplete : ¬items.countP claim.passes = items.length := by
      rw [full]
      intro all
      rw [all item member] at fails
      cases fails
    refine ⟨_, judgeEach_of_first actualShown expectedShown read decides split before fails
      itemShown, ?_, ?_, fun _ _ => ⟨earlier, item, later, itemText, split, before, fails,
        itemShown, rfl⟩⟩
    · simp [incomplete]
    · simp [incomplete]

end Verdicts

end Claim

namespace AssertionStep

variable {check : AssertionStep} {properties : PropertySet} {index : Nat} {claim : Claim}

theorem judged_of_count {count text : String} (counting : check.count = some count)
    (resolved : properties.resolveTemplate (some index) count = .ok text) :
    check.judged properties index claim = claim.judgeCount text := by
  unfold judged
  rw [counting]
  dsimp only
  rw [resolved]
  rfl

theorem judged_of_each (uncounted : check.count = none) (each : check.each = true) :
    check.judged properties index claim = claim.judgeEach := by
  unfold judged
  rw [uncounted]
  exact if_pos each

end AssertionStep

namespace Step

variable {engine : Engine} {check : AssertionStep} {comparator : Comparator}
  {properties : PropertySet} {index : Nat} {actual expected : Value}
  {actualText expectedText : String} {items : List Value}

/-- An assertion on items, as long as its comparisons hold, do not hold or fail their assertion:
with a count, it passes if the number of items that the relation holds of lies in one of the
ranges of the count, and without one, it passes if there are items and the relation holds of
all of them.  It fails otherwise, and names the first item that the relation does not hold of. -/
theorem execute_items (known : engine.registry.comparator? check.operator = some comparator)
    (actualResolved : properties.resolveValue (some index) check.value = .ok actual)
    (expectedResolved : properties.resolveValue (some index) check.expected = .ok expected)
    (actualShown : actual.stringify = .ok actualText)
    (expectedShown : expected.stringify = .ok expectedText)
    (read : actual.asItems = .ok items)
    (decides : ∀ v ∈ items, Claim.Decides ⟨comparator, actual, expected, check.ignoreCase⟩ v)
    (cancelled : Bool) :
    let claim : Claim := ⟨comparator, actual, expected, check.ignoreCase⟩
    let matched := items.countP claim.passes
    let outcome := (execute engine properties index cancelled (.assertion check)).outcome
    (∀ count text, check.count = some count →
      properties.resolveTemplate (some index) count = .ok text →
        (∀ ranges, Range.parse text = .ok ranges →
          (outcome.status = .pass ↔ ∃ range ∈ ranges,
            range.low.leInt matched = true ∧ Binary64.intLe matched range.high = true) ∧
          (outcome.status = .fail ↔ ¬∃ range ∈ ranges,
            range.low.leInt matched = true ∧ Binary64.intLe matched range.high = true)) ∧
        ∀ problem, Range.parse text = .error problem → outcome.status = .fail) ∧
    (check.count = none → check.each = true →
      (outcome.status = .pass ↔ items ≠ [] ∧ matched = items.length) ∧
      (outcome.status = .fail ↔ ¬(items ≠ [] ∧ matched = items.length)) ∧
      (items ≠ [] → matched ≠ items.length → ∃ earlier item later itemText,
        items = earlier ++ item :: later ∧ (∀ v ∈ earlier, claim.passes v = true) ∧
        claim.passes item = false ∧ item.stringify = .ok itemText ∧
        outcome.message =
          claim.announced "expected every item of " actualText expectedText ++ " (" ++
            ("item " ++ toString earlier.length ++ " is " ++ ("\"" ++ itemText ++ "\"") ++
              (if (claim.detail item).isEmpty then "" else ", " ++ claim.detail item)) ++
            ")")) := by
  intro claim matched outcome
  have executed : ∀ verdict, check.judged properties index claim = .ok verdict →
      outcome = Step.outcome (.assertion check) index verdict [] := fun _ judged =>
    outcome_of_judged known actualResolved expectedResolved judged cancelled
  constructor
  · intro count text counting resolved
    obtain ⟨verdict, judged, settled⟩ :=
      claim.judgeCount_settled actualShown expectedShown read decides text
    rw [executed verdict ((AssertionStep.judged_of_count counting resolved).trans judged)]
    exact settled
  · intro uncounted each
    have operand := PropertySet.isOperand_of_resolveValue actualResolved
      ((Value.succeeds_stringify_iff _).mp ⟨actualText, actualShown⟩)
    have shown : ∀ v ∈ items, Succeeds v.stringify := by
      intro v member
      rw [Value.succeeds_stringify_iff]
      exact Value.isWritable_of_isOperand (Value.isOperand_of_mem_asItems operand read v member)
    obtain ⟨verdict, judged, settled⟩ :=
      claim.judgeEach_settled actualShown expectedShown read decides shown
    rw [executed verdict ((AssertionStep.judged_of_each uncounted each).trans judged)]
    exact settled

/-- Three items, of which one is less than ten, one is no number and one is not less. -/
theorem execute_items_mixed :
    let engine : Engine := { registry := .builtin, workspace := .ofText "ws" }
    let check (count : Option String) : AssertionStep :=
      ⟨none, none, .list [.int 3, .text "x", .int 12], "lessThan", .int 10, false, true, count⟩
    (execute engine (.ofFile []) 1 false (.assertion (check none))).outcome.status = .fail ∧
      (execute engine (.ofFile []) 1 false (.assertion (check (some "0, 1")))).outcome.status =
        .pass := by
  intro engine check
  have decides (count : Option String) : ∀ v ∈ [Value.int 3, .text "x", .int 12],
      Claim.Decides ⟨Comparator.lessThan, (check count).value, .int 10, (check count).ignoreCase⟩
        v := by
    simp only [List.forall_mem_cons]
    exact ⟨.related rfl, .failed rfl, .related rfl, List.forall_mem_nil _⟩
  obtain ⟨actualText, actualShown⟩ := (Value.succeeds_stringify_iff
    (.list [.int 3, .text "x", .int 12])).mpr (by decide +kernel)
  obtain ⟨expectedText, expectedShown⟩ :=
    (Value.succeeds_stringify_iff (.int 10)).mpr (by decide +kernel)
  have settled (count : Option String) := @execute_items engine (check count) Comparator.lessThan
    (.ofFile []) 1 _ _ _ _ _ rfl rfl rfl actualShown expectedShown rfl (decides count) false
  have once : [Value.int 3, .text "x", .int 12].countP
      (Claim.passes ⟨Comparator.lessThan, (check none).value, .int 10, false⟩) = 1 := by
    decide +kernel
  constructor
  · refine ((settled none).2 rfl rfl).2.1.mpr ?_
    rintro ⟨_, all⟩
    cases once.symm.trans all
  · have counted := (settled (some "0, 1")).1 _ "0, 1" rfl rfl
    refine (counted.1 _ rfl).1.mpr ⟨_, List.mem_cons_of_mem _ List.mem_cons_self, ?_⟩
    decide +kernel

end Step

end Playbook
