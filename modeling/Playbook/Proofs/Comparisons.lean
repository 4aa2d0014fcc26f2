import Playbook.Execution.Assertion
import Playbook.Proofs.Operands
import Playbook.Proofs.Rounding

/-!
# Comparisons that cannot be made

The built-in relations other than the pattern match compare values with property texts, and the only
thing that keeps them from a result is an integer beyond the range of doubles.  Which integers they
read as numbers, and in which order, differs from relation to relation.
-/

namespace Playbook

open Fallible

namespace Value

/-- Integers beyond the range of doubles. -/
def isBeyond : Value → Bool
  | .int n => twoTo 1024 ≤ n.natAbs + twoTo 970
  | _ => false

theorem asNumber_eq_error_iff {v : Value} {fault : Fault} :
    v.asNumber = .error fault ↔ fault = .doubleRange ∧ v.isBeyond = true := by
  cases v with
  | int n =>
      rw [isBeyond, decide_eq_true_eq, ← Binary64.ofInt?_eq_none_iff]
      cases number : Binary64.ofInt? n <;> simp [asNumber, number, eq_comm]
  | _ => simp [asNumber, isBeyond]

theorem isBeyond_eq_false {v : Value} {number : Option Binary64}
    (success : v.asNumber = .ok number) : v.isBeyond = false := by
  rw [Bool.eq_false_iff]
  intro beyond
  have failed := asNumber_eq_error_iff.mpr ⟨rfl, beyond⟩
  rw [success] at failed
  cases failed

/-- Two numbers, and what is done with them, unless one of them is beyond the range of doubles. -/
theorem asNumber_bind_asNumber_eq_error_iff {α : Type} {first second : Value}
    {following : Option Binary64 → Option Binary64 → Except Fault α} {fault : Fault} :
    (do following (← first.asNumber) (← second.asNumber)) = .error fault ↔
      fault = .doubleRange ∧ (first.isBeyond = true ∨ second.isBeyond = true) ∨
        ∃ x y, first.asNumber = .ok x ∧ second.asNumber = .ok y ∧ following x y = .error fault := by
  cases firstNumber : first.asNumber with
  | error other =>
      obtain ⟨rfl, beyond⟩ := asNumber_eq_error_iff.mp firstNumber
      constructor
      · intro failed
        cases failed
        exact .inl ⟨rfl, .inl beyond⟩
      · rintro (⟨rfl, _⟩ | ⟨x, y, success, _⟩)
        · rfl
        · cases success
  | ok x =>
      have firstInRange := isBeyond_eq_false firstNumber
      cases secondNumber : second.asNumber with
      | error other =>
          obtain ⟨rfl, beyond⟩ := asNumber_eq_error_iff.mp secondNumber
          constructor
          · intro failed
            cases failed
            exact .inl ⟨rfl, .inr beyond⟩
          · rintro (⟨rfl, _⟩ | ⟨x, y, _, success, _⟩)
            · rfl
            · cases success
      | ok y =>
          have secondInRange := isBeyond_eq_false secondNumber
          simp [bind, Except.bind, firstInRange, secondInRange]

end Value

namespace Comparator

theorem equal_eq {expected : Value} (noStar : expected ≠ .text "*") (ignoreCase : Bool)
    (actual : Value) :
    equal ignoreCase actual expected = do
      let actualNumber ← actual.asNumber
      let expectedNumber ← expected.asNumber
      match actualNumber, expectedNumber with
      | some x, some y => return x.eq y
      | _, _ => do
          let left ← textOf ignoreCase actual
          let right ← textOf ignoreCase expected
          return left == right := by
  unfold equal
  split
  · exact absurd rfl noStar
  · rfl

theorem textOf_eq {v : Value} {s : String} (shown : v.stringify = .ok s) (ignoreCase : Bool) :
    textOf ignoreCase v = .ok (if ignoreCase then Text.fold s else s) := by
  unfold textOf
  rw [shown]
  rfl

section Texts

variable {ignoreCase : Bool} {actual expected : Value} {fault : Fault}

theorem exists_textOf {v : Value} (writable : v.isWritable = true) (ignoreCase : Bool) :
    ∃ s, textOf ignoreCase v = .ok s := by
  obtain ⟨s, shown⟩ := (Value.succeeds_stringify_iff v).mpr writable
  exact ⟨_, textOf_eq shown ignoreCase⟩

/-- Values that are compared as equal are read as numbers, both of them, unless anything will do. -/
theorem equal_eq_error_iff (actualWritable : actual.isWritable = true)
    (expectedWritable : expected.isWritable = true) :
    equal ignoreCase actual expected = .error fault ↔
      fault = .doubleRange ∧ expected ≠ .text "*" ∧
        (actual.isBeyond = true ∨ expected.isBeyond = true) := by
  by_cases star : expected = .text "*"
  · rw [star]
    exact iff_of_false (fun failed => by cases failed) fun overflows => overflows.2.1 rfl
  · obtain ⟨left, leftText⟩ := exists_textOf actualWritable ignoreCase
    obtain ⟨right, rightText⟩ := exists_textOf expectedWritable ignoreCase
    -- Both property texts are there, so nothing fails behind the two numbers.
    rw [equal_eq star, Value.asNumber_bind_asNumber_eq_error_iff, leftText, rightText,
      or_iff_left]
    · simp only [ne_eq, star, not_false_eq_true, true_and]
    · rintro ⟨x, y, _, _, failed⟩
      split at failed <;> cases failed

theorem anyEqual_eq_error_iff {items : List Value}
    (itemsWritable : ∀ v ∈ items, v.isWritable = true)
    (expectedWritable : expected.isWritable = true) :
    anyEqual ignoreCase expected items = .error fault ↔
      fault = .doubleRange ∧ ∃ earlier item later, items = earlier ++ item :: later ∧
        (∀ v ∈ earlier, equal ignoreCase v expected = .ok false) ∧ expected ≠ .text "*" ∧
          (item.isBeyond = true ∨ expected.isBeyond = true) := by
  have goesOn (n : Nat) (v : Value) (rest : List Value) (failure : Fault) :
      anyEqual ignoreCase expected (v :: rest) = .error failure ↔
        equal ignoreCase v expected = .error failure ∨
          equal ignoreCase v expected = .ok false ∧
            anyEqual ignoreCase expected rest = .error failure := by
    rw [anyEqual]
    cases equal ignoreCase v expected with
    | error other => simp [bind, Except.bind]
    | ok equals => cases equals <;> simp [bind, Except.bind, pure, Except.pure]
  rw [@scan_eq_error_iff Fault Value Bool (fun _ => anyEqual ignoreCase expected) _ _
    (fun _ _ failed => by cases failed) goesOn 0 items fault]
  constructor
  · rintro ⟨earlier, item, later, rfl, before, failed⟩
    have writable := itemsWritable item (by simp)
    obtain ⟨range, overflows⟩ := (equal_eq_error_iff writable expectedWritable).mp failed
    exact ⟨range, earlier, item, later, rfl, before, overflows⟩
  · rintro ⟨range, earlier, item, later, rfl, before, overflows⟩
    have writable := itemsWritable item (by simp)
    refine ⟨earlier, item, later, rfl, before, ?_⟩
    exact (equal_eq_error_iff writable expectedWritable).mpr ⟨range, overflows⟩

theorem exists_textsOf {vs : List Value} (writable : ∀ v ∈ vs, v.isWritable = true)
    (ignoreCase : Bool) : ∃ texts, textsOf ignoreCase vs = .ok texts := by
  induction vs with
  | nil => exact ⟨[], rfl⟩
  | cons v rest ih =>
      obtain ⟨here, later⟩ := List.forall_mem_cons.mp writable
      obtain ⟨s, text⟩ := exists_textOf here ignoreCase
      obtain ⟨others, texts⟩ := ih later
      refine ⟨s :: others, ?_⟩
      rw [textsOf, text, texts]
      rfl

theorem isWritable_of_isJsonKey {key : Value} (jsonKey : key.isJsonKey = true) :
    key.isWritable = true := by
  cases key with
  | int n => exact jsonKey
  | text s | float x | bool b | null => rfl
  | _ => cases jsonKey

/-- Only the items of a list are read as numbers, up to one that is equal to what is expected. -/
theorem contain_eq_error_iff (operand : actual.isOperand = true)
    (expectedWritable : expected.isWritable = true) :
    contain ignoreCase actual expected = .error fault ↔
      fault = .doubleRange ∧ ∃ earlier item later, actual = .list (earlier ++ item :: later) ∧
        (∀ v ∈ earlier, equal ignoreCase v expected = .ok false) ∧ expected ≠ .text "*" ∧
          (item.isBeyond = true ∨ expected.isBeyond = true) := by
  obtain ⟨wanted, expectedText⟩ := exists_textOf expectedWritable ignoreCase
  cases actual with
  | list items =>
      have writable : ∀ v ∈ items, v.isWritable = true := by
        intro v member
        exact Value.isWritable_of_isOperand (Value.itemsAreOperands_iff.mp operand v member)
      simp only [contain, Value.list.injEq]
      exact anyEqual_eq_error_iff writable expectedWritable
  | map entries =>
      have keys : ∀ key ∈ entries.map Prod.fst, key.isWritable = true := by
        intro key member
        obtain ⟨entry, entryMember, rfl⟩ := List.mem_map.mp member
        exact isWritable_of_isJsonKey (Value.entriesAreOperands_iff.mp operand entry entryMember).1
      obtain ⟨texts, keyTexts⟩ := exists_textsOf keys ignoreCase
      simp [contain, expectedText, keyTexts, bind, Except.bind, pure, Except.pure]
  | tuple items | set items => cases operand
  | _ =>
      obtain ⟨whole, actualText⟩ := exists_textOf (Value.isWritable_of_isOperand operand) ignoreCase
      simp [contain, expectedText, actualText, bind, Except.bind, pure, Except.pure]

/-- A value that is no number only fails the assertion. -/
theorem notNumber_eq_error {α : Type} {v : Value} (writable : v.isWritable = true)
    (failed : (notNumber v : Except Fault α) = .error fault) :
    ∃ message, fault = .assertion message := by
  obtain ⟨s, shown⟩ := (Value.succeeds_stringify_iff v).mpr writable
  unfold notNumber at failed
  rw [shown] at failed
  cases failed
  exact ⟨_, rfl⟩

theorem numbers_eq_error_iff (actualWritable : actual.isWritable = true)
    (expectedWritable : expected.isWritable = true)
    (serious : ∀ message, fault ≠ .assertion message) :
    numbers actual expected = .error fault ↔
      fault = .doubleRange ∧ (actual.isBeyond = true ∨ expected.isBeyond = true) := by
  unfold numbers
  rw [Value.asNumber_bind_asNumber_eq_error_iff, or_iff_left]
  rintro ⟨x, y, _, _, failed⟩
  split at failed
  · obtain ⟨message, same⟩ := notNumber_eq_error actualWritable failed
    exact serious message same
  · obtain ⟨message, same⟩ := notNumber_eq_error expectedWritable failed
    exact serious message same
  · cases failed

/-- Only the actual value is read as a number; ranges that are malformed fail the assertion. -/
theorem inRange_eq_error_iff (actualWritable : actual.isWritable = true)
    (expectedWritable : expected.isWritable = true)
    (serious : ∀ message, fault ≠ .assertion message) :
    inRange actual expected = .error fault ↔ fault = .doubleRange ∧ actual.isBeyond = true := by
  obtain ⟨ranges, shown⟩ := (Value.succeeds_stringify_iff expected).mpr expectedWritable
  unfold inRange
  rw [bind_eq_error_iff, Value.asNumber_eq_error_iff, shown, or_iff_left]
  rintro ⟨number, _, failed⟩
  cases number with
  | none =>
      obtain ⟨message, same⟩ := notNumber_eq_error actualWritable failed
      exact serious message same
  | some x =>
      change Range.anyOf _ ranges = .error fault at failed
      unfold Range.anyOf at failed
      split at failed
      · cases failed
      · cases failed
        exact serious _ rfl

end Texts

/-- The built-in relations other than the pattern match. -/
inductive Basic where
  | equals
  | notEquals
  | contains
  | greaterThan
  | lessThan
  | within
deriving DecidableEq, Repr

namespace Basic

def comparator : Basic → Comparator
  | equals => Comparator.equals
  | notEquals => Comparator.notEquals
  | contains => Comparator.contains
  | greaterThan => Comparator.greaterThan
  | lessThan => Comparator.lessThan
  | within => Comparator.within

/-- The built-in registry has them under their names. -/
theorem comparator?_builtin (basic : Basic) :
    Registry.builtin.comparator? basic.comparator.name = some basic.comparator := by
  cases basic <;> rfl

/-- A comparison meets an integer beyond the range of doubles.  An expected star equals everything,
a list is searched up to its first equal item, mappings and texts are searched as texts, and
ranges are texts. -/
def Overflows (ignoreCase : Bool) : Basic → Value → Value → Prop
  | equals, actual, expected | notEquals, actual, expected =>
      expected ≠ .text "*" ∧ (actual.isBeyond = true ∨ expected.isBeyond = true)
  | contains, actual, expected =>
      ∃ earlier item later, actual = .list (earlier ++ item :: later) ∧
        (∀ v ∈ earlier, equal ignoreCase v expected = .ok false) ∧ expected ≠ .text "*" ∧
          (item.isBeyond = true ∨ expected.isBeyond = true)
  | greaterThan, actual, expected | lessThan, actual, expected =>
      actual.isBeyond = true ∨ expected.isBeyond = true
  | within, actual, _ => actual.isBeyond = true

section Relations

variable {actual expected : Value} {options : Options} {failure : Failure}

theorem mapError_fault_eq_error_iff {result : Except Fault Bool} {overflows : Prop}
    (serious : ∀ message, failure ≠ .fault (.assertion message))
    (fails : ∀ fault, (∀ message, fault ≠ .assertion message) →
      (result = .error fault ↔ fault = .doubleRange ∧ overflows)) :
    result.mapError .fault = .error failure ↔ failure = .fault .doubleRange ∧ overflows := by
  rw [mapError_eq_error_iff]
  constructor
  · rintro ⟨fault, failed, rfl⟩
    have other : ∀ message, fault ≠ .assertion message := by
      rintro message rfl
      exact serious message rfl
    obtain ⟨rfl, holds⟩ := (fails fault other).mp failed
    exact ⟨rfl, holds⟩
  · rintro ⟨rfl, holds⟩
    refine ⟨.doubleRange, ?_, rfl⟩
    exact (fails .doubleRange fun message same => by cases same).mpr ⟨rfl, holds⟩

/-- Apart from failed assertions, a comparison of operands fails exactly on such an integer. -/
theorem relation_eq_error_iff {basic : Basic} (operand : actual.isOperand = true)
    (expectedWritable : expected.isWritable = true)
    (serious : ∀ message, failure ≠ .fault (.assertion message)) :
    basic.comparator.relation actual expected options = .error failure ↔
      failure = .fault .doubleRange ∧ basic.Overflows (ignoresCase options) actual expected := by
  have actualWritable := Value.isWritable_of_isOperand operand
  cases basic with
  | equals =>
      apply mapError_fault_eq_error_iff serious
      intro fault _
      exact equal_eq_error_iff actualWritable expectedWritable
  | notEquals =>
      apply mapError_fault_eq_error_iff serious
      intro fault _
      rw [bind_pure_eq_error_iff]
      exact equal_eq_error_iff actualWritable expectedWritable
  | contains =>
      apply mapError_fault_eq_error_iff serious
      intro fault _
      exact contain_eq_error_iff operand expectedWritable
  | greaterThan =>
      apply mapError_fault_eq_error_iff serious
      intro fault other
      exact (bind_pure_eq_error_iff (f := fun sides => sides.2.lt sides.1)).trans
        (numbers_eq_error_iff actualWritable expectedWritable other)
  | lessThan =>
      apply mapError_fault_eq_error_iff serious
      intro fault other
      exact (bind_pure_eq_error_iff (f := fun sides => sides.1.lt sides.2)).trans
        (numbers_eq_error_iff actualWritable expectedWritable other)
  | within =>
      apply mapError_fault_eq_error_iff serious
      intro fault other
      exact inRange_eq_error_iff actualWritable expectedWritable other

end Relations

end Basic

end Comparator

namespace Claim

variable {claim : Claim} {basic : Comparator.Basic}

/-- The relation holds of a value. -/
def Holds (claim : Claim) (v : Value) : Prop := ∃ detail, claim.compare v = .ok ⟨true, detail⟩

theorem compare_eq_error_iff (known : claim.comparator = basic.comparator) {v : Value}
    (operand : v.isOperand = true) (expectedWritable : claim.expected.isWritable = true)
    {failure : Failure} :
    claim.compare v = .error failure ↔
      failure = .fault .doubleRange ∧ basic.Overflows claim.ignoreCase v claim.expected := by
  have fails {other : Failure} (serious : ∀ message, other ≠ .fault (.assertion message)) :
      basic.comparator.relation v claim.expected claim.options = .error other ↔
        other = .fault .doubleRange ∧ basic.Overflows claim.ignoreCase v claim.expected :=
    Comparator.Basic.relation_eq_error_iff operand expectedWritable serious
  have serious : ∀ message, Failure.fault .doubleRange ≠ .fault (.assertion message) := by
    intro message same
    cases same
  unfold compare
  rw [known]
  -- A failed assertion is a comparison that does not hold, so only the last case is a failure.
  split
  · rename_i made
    apply iff_of_false (fun failed => by cases failed)
    rintro ⟨_, overflows⟩
    cases made.symm.trans ((fails serious).mpr ⟨rfl, overflows⟩)
  · rename_i made
    apply iff_of_false (fun failed => by cases failed)
    rintro ⟨_, overflows⟩
    cases made.symm.trans ((fails serious).mpr ⟨rfl, overflows⟩)
  · rename_i other noAssertion made
    constructor
    · intro same
      cases same
      exact (fails noAssertion).mp made
    · rintro ⟨rfl, overflows⟩
      cases made.symm.trans ((fails serious).mpr ⟨rfl, overflows⟩)
      rfl

theorem succeeds_compare_iff (known : claim.comparator = basic.comparator) {v : Value}
    (operand : v.isOperand = true) (expectedWritable : claim.expected.isWritable = true) :
    Succeeds (claim.compare v) ↔ ¬basic.Overflows claim.ignoreCase v claim.expected :=
  succeeds_iff_not fun _ => compare_eq_error_iff known operand expectedWritable

section Items

variable {items : List Value} {failure : Failure}

/-- Items are compared up to the first one that the relation does not hold of. -/
theorem firstFailing_eq_error_iff (known : claim.comparator = basic.comparator)
    (operands : ∀ v ∈ items, v.isOperand = true)
    (expectedWritable : claim.expected.isWritable = true) {position : Nat} :
    claim.firstFailing position items = .error failure ↔
      failure = .fault .doubleRange ∧ ∃ earlier item later, items = earlier ++ item :: later ∧
        (∀ v ∈ earlier, claim.Holds v) ∧
          basic.Overflows claim.ignoreCase item claim.expected := by
  have goesOn (n : Nat) (v : Value) (rest : List Value) (failure : Failure) :
      claim.firstFailing n (v :: rest) = .error failure ↔
        claim.compare v = .error failure ∨
          claim.Holds v ∧ claim.firstFailing (n + 1) rest = .error failure := by
    rw [firstFailing, Holds]
    cases claim.compare v with
    | error other => simp [bind, Except.bind]
    | ok comparison =>
        obtain ⟨holds, detail⟩ := comparison
        cases holds <;> simp [bind, Except.bind, pure, Except.pure]
  rw [scan_eq_error_iff (fun _ _ failed => by cases failed) goesOn]
  constructor
  · rintro ⟨earlier, item, later, rfl, before, failed⟩
    have operand := operands item (by simp)
    obtain ⟨range, overflows⟩ := (compare_eq_error_iff known operand expectedWritable).mp failed
    exact ⟨range, earlier, item, later, rfl, before, overflows⟩
  · rintro ⟨range, earlier, item, later, rfl, before, overflows⟩
    have operand := operands item (by simp)
    refine ⟨earlier, item, later, rfl, before, ?_⟩
    exact (compare_eq_error_iff known operand expectedWritable).mpr ⟨range, overflows⟩

/-- All items are compared to count those that the relation holds of. -/
theorem countHolding_eq_error_iff (known : claim.comparator = basic.comparator)
    (operands : ∀ v ∈ items, v.isOperand = true)
    (expectedWritable : claim.expected.isWritable = true) :
    claim.countHolding items = .error failure ↔
      failure = .fault .doubleRange ∧
        ∃ item ∈ items, basic.Overflows claim.ignoreCase item claim.expected := by
  induction items with
  | nil => simp [countHolding]
  | cons v rest ih =>
      obtain ⟨here, later⟩ := List.forall_mem_cons.mp operands
      have first {other : Failure} : claim.compare v = .error other ↔ _ :=
        compare_eq_error_iff known here expectedWritable
      rw [countHolding, bind_eq_error_iff]
      constructor
      · rintro (failed | ⟨comparison, _, failed⟩)
        · obtain ⟨range, overflows⟩ := first.mp failed
          exact ⟨range, v, List.mem_cons_self, overflows⟩
        · rw [bind_pure_eq_error_iff, ih later] at failed
          obtain ⟨range, item, member, overflows⟩ := failed
          exact ⟨range, item, List.mem_cons_of_mem v member, overflows⟩
      · rintro ⟨rfl, item, member, overflows⟩
        rcases List.mem_cons.mp member with rfl | behind
        · exact .inl (first.mpr ⟨rfl, overflows⟩)
        · cases made : claim.compare v with
          | error other =>
              obtain ⟨rfl, _⟩ := first.mp made
              exact .inl rfl
          | ok comparison =>
              refine .inr ⟨comparison, rfl, ?_⟩
              rw [bind_pure_eq_error_iff, ih later]
              exact ⟨rfl, item, behind, overflows⟩

theorem succeeds_firstFailing_iff (known : claim.comparator = basic.comparator)
    (operands : ∀ v ∈ items, v.isOperand = true)
    (expectedWritable : claim.expected.isWritable = true) {position : Nat} :
    Succeeds (claim.firstFailing position items) ↔
      ¬∃ earlier item later, items = earlier ++ item :: later ∧ (∀ v ∈ earlier, claim.Holds v) ∧
        basic.Overflows claim.ignoreCase item claim.expected :=
  succeeds_iff_not fun _ => firstFailing_eq_error_iff known operands expectedWritable

theorem succeeds_countHolding_iff (known : claim.comparator = basic.comparator)
    (operands : ∀ v ∈ items, v.isOperand = true)
    (expectedWritable : claim.expected.isWritable = true) :
    Succeeds (claim.countHolding items) ↔
      ¬∃ item ∈ items, basic.Overflows claim.ignoreCase item claim.expected :=
  succeeds_iff_not fun _ => countHolding_eq_error_iff known operands expectedWritable

end Items

end Claim

end Playbook
