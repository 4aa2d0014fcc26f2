import Playbook.Proofs.Comparisons
import Playbook.Proofs.NearestDoubles
import Playbook.Proofs.NumeralSyntax

/-!
# Comparing integers

Both sides of a numeric comparison are read as doubles.  Integers are compared as the doubles
nearest to them are, whether they are given as such or written out; comparisons keep their order,
but two integers that have one nearest double are equal.
-/

namespace Playbook

open Numeral Text

/-- An integer as it may be given: as such, or as digits behind an optional sign, with blanks
around. -/
inductive Spells : Int → Value → Prop where
  | int (n : Int) : Spells n (.int n)
  | text {sign digits : List Char} (before after : Blanks) (isSign : IsSign sign)
      (nonempty : digits ≠ []) (all : AreDigits digits) :
      Spells (if isNegative sign then -(ofDigits (values digits) : Int)
          else ofDigits (values digits))
        (.text (String.ofList (before.chars ++ (sign ++ digits ++ after.chars))))

/-- Two values are compared as two integers are. -/
structure ComparedAs (actual expected : Value) (options : Options) (a b : Int) : Prop where
  equals : Comparator.equals.relation actual expected options = .ok (decide (a = b))
  notEquals : Comparator.notEquals.relation actual expected options = .ok (decide (a ≠ b))
  greaterThan : Comparator.greaterThan.relation actual expected options = .ok (decide (b < a))
  lessThan : Comparator.lessThan.relation actual expected options = .ok (decide (a < b))

/-! ## Integers as doubles -/

namespace Binary64

theorem ofDecimal_zero {digits : Nat} (small : digits < tenTo 300) (negative : Bool) :
    ofDecimal negative digits 0 = ofRatio negative digits 1 := by
  unfold ofDecimal
  by_cases none : digits = 0
  · rw [if_pos none, ofRatio, if_pos none]
  · have range : Nat.log2 digits < 1000 := by
      have lower : twoTo (Nat.log2 digits) ≤ digits := Nat.log2_self_le none
      have limit : tenTo 300 < twoTo 1000 := by decide +kernel
      apply Nat.lt_of_not_le
      intro great
      have most := twoTo_le great
      omega
    have one : tenTo (0 : Int).toNat = 1 := rfl
    rw [if_neg none]
    dsimp only
    rw [if_neg (by omega), if_neg (by omega), if_neg (by decide), one, Nat.mul_one]

end Binary64

namespace Spells

variable {n : Int} {v : Value}

theorem exists_asNumber (spells : Spells n v) (small : n.natAbs < tenTo 300) :
    ∃ x : Double, v.asNumber = .ok (some x.toBinary64) ∧ x.IsNearest n := by
  have limit : tenTo 300 < twoTo 1023 := by decide +kernel
  cases spells with
  | int =>
      obtain ⟨x, rounded, nearest⟩ :=
        Binary64.exists_ofRatio_one (n < 0) (Nat.lt_trans small limit)
      have value : (if decide (n < 0) = true then -(n.natAbs : Int) else n.natAbs) = n := by
        simp only [decide_eq_true_eq]
        omega
      have read : Binary64.ofInt? n = some x.toBinary64 := by
        unfold Binary64.ofInt?
        rw [rounded]
        rfl
      rw [value] at nearest
      refine ⟨x, ?_, nearest⟩
      rw [Value.asNumber, read]
  | @text sign digits before after isSign nonempty all =>
      have size : ofDigits (values digits) < tenTo 300 := by
        split at small <;> omega
      obtain ⟨x, rounded, nearest⟩ :=
        Binary64.exists_ofRatio_one (isNegative sign) (Nat.lt_trans size limit)
      have decimal : IsDecimal (sign ++ (digits ++ [])) :=
        .parts isSign (.whole nonempty all) .none
      have trims := (trimmed_of_isDecimal decimal).trim_eq before after
      have noPoint : ∀ rest, [] ≠ '.' :: rest := fun rest => (List.cons_ne_nil '.' rest).symm
      have reads := readDecimal_whole isSign nonempty all .nil noPoint
      rw [List.append_nil] at trims reads
      refine ⟨x, ?_, nearest⟩
      rw [Value.asNumber, String.toList_ofList, ofText?, trims, reads]
      have denotes : Decimal.toBinary64 ⟨isNegative sign, values digits, [], 0⟩ = x.toBinary64 := by
        unfold Decimal.toBinary64
        dsimp only
        rw [List.append_nil, List.length_nil]
        exact (Binary64.ofDecimal_zero size _).trans rounded
      exact congrArg (fun y => Except.ok (some y)) denotes

theorem ne_star (spells : Spells n v) : v ≠ .text "*" := by
  cases spells with
  | int => exact nofun
  | @text sign digits before after isSign nonempty all =>
      intro same
      obtain ⟨c, rest, rfl⟩ := List.exists_cons_of_ne_nil nonempty
      have digit := all c List.mem_cons_self
      have chars := congrArg String.toList (Value.text.inj same)
      have member : c ∈ "*".toList := by
        rw [← chars]
        simp
      rw [List.mem_singleton.mp member] at digit
      cases digit

end Spells

/-! ## Comparisons -/

namespace ComparedAs

variable {actual expected : Value} {a b : Int} {x y : Double}

/-- Numbers are compared by their values. -/
theorem of_asNumber (options : Options) (noStar : expected ≠ .text "*")
    (actualNumber : actual.asNumber = .ok (some x.toBinary64))
    (expectedNumber : expected.asNumber = .ok (some y.toBinary64)) :
    ComparedAs actual expected options x.scaled y.scaled := by
  have equal : Comparator.equal (Comparator.ignoresCase options) actual expected =
      .ok (decide (x.scaled = y.scaled)) := by
    rw [Comparator.equal_eq noStar, actualNumber, expectedNumber]
    exact congrArg Except.ok (Double.eq_toBinary64 x y)
  have numbers : Comparator.numbers actual expected = .ok (x.toBinary64, y.toBinary64) := by
    unfold Comparator.numbers
    rw [actualNumber, expectedNumber]
    rfl
  refine ⟨?_, ?_, ?_, ?_⟩
  · simp only [Comparator.equals, Comparator.ofFaults, equal]
    rfl
  · simp only [Comparator.notEquals, Comparator.ofFaults, equal, decide_not]
    rfl
  · simp only [Comparator.greaterThan, Comparator.ofFaults, numbers]
    exact congrArg Except.ok (Double.lt_toBinary64 y x)
  · simp only [Comparator.lessThan, Comparator.ofFaults, numbers]
    exact congrArg Except.ok (Double.lt_toBinary64 x y)

/-- Integers in the same order are compared alike. -/
theorem congr {options : Options} {c d : Int} (compared : ComparedAs actual expected options a b)
    (less : a < b ↔ c < d) (greater : b < a ↔ d < c) : ComparedAs actual expected options c d := by
  have same : a = b ↔ c = d := by omega
  refine ⟨?_, ?_, ?_, ?_⟩
  · rw [compared.equals, decide_eq_decide.mpr same]
  · rw [compared.notEquals, decide_eq_decide.mpr (not_congr same)]
  · rw [compared.greaterThan, decide_eq_decide.mpr greater]
  · rw [compared.lessThan, decide_eq_decide.mpr less]

end ComparedAs

/-- Integers up to the limit of mantissas are doubles. -/
theorem Double.exists_of_natAbs_le {n : Int} (fits : n.natAbs ≤ twoTo 53) :
    ∃ x : Double, x.scaled = scale n := by
  obtain ⟨x, sign, value⟩ := exists_of_size fits (show 1074 ≤ 2044 by decide)
  have size : (x.size : Int) = scale n.natAbs := by
    rw [value]
    exact Int.natCast_mul _ _
  rcases Int.natAbs_eq n with positive | negative
  · refine ⟨x, ?_⟩
    rw [scaled_of_sign sign, size, ← positive]
  · refine ⟨x.neg, ?_⟩
    rw [scaled_neg, scaled_of_sign sign, size, ← scale_neg, ← negative]

/-- Integers of at most 300 digits are compared as the doubles nearest to them. -/
theorem compared_as_nearest {a b : Int} {actual expected : Value} (actualSpells : Spells a actual)
    (expectedSpells : Spells b expected) (actualSmall : a.natAbs < tenTo 300)
    (expectedSmall : b.natAbs < tenTo 300) (options : Options) :
    (∃ x y : Double, x.IsNearest a ∧ y.IsNearest b) ∧
    (∀ x y : Double, x.IsNearest a → y.IsNearest b →
      ComparedAs actual expected options x.scaled y.scaled) ∧
    (a = b → Comparator.equals.relation actual expected options = .ok true ∧
      Comparator.notEquals.relation actual expected options = .ok false) ∧
    (Comparator.greaterThan.relation actual expected options = .ok true → b < a) ∧
    (Comparator.lessThan.relation actual expected options = .ok true → a < b) ∧
    ((∃ x : Double, x.scaled = Double.scale a) → (∃ y : Double, y.scaled = Double.scale b) →
      ComparedAs actual expected options a b) ∧
    (a.natAbs ≤ twoTo 53 → b.natAbs ≤ twoTo 53 → ComparedAs actual expected options a b) := by
  obtain ⟨x, actualNumber, first⟩ := actualSpells.exists_asNumber actualSmall
  obtain ⟨y, expectedNumber, second⟩ := expectedSpells.exists_asNumber expectedSmall
  have compared := ComparedAs.of_asNumber options expectedSpells.ne_star actualNumber expectedNumber
  have order (less : a < b) : x.scaled ≤ y.scaled := first.mono second less
  have order' (greater : b < a) : y.scaled ≤ x.scaled := second.mono first greater
  have same (equal : a = b) : x.scaled = y.scaled := by
    subst equal
    exact first.unique second
  have exact_ (isDouble : ∃ x : Double, x.scaled = Double.scale a)
      (isDouble' : ∃ y : Double, y.scaled = Double.scale b) :
      ComparedAs actual expected options a b := by
    obtain ⟨x', value⟩ := isDouble
    obtain ⟨y', value'⟩ := isDouble'
    apply compared.congr
    · rw [first.scaled_eq value, second.scaled_eq value', Double.scale_lt_iff]
    · rw [first.scaled_eq value, second.scaled_eq value', Double.scale_lt_iff]
  refine ⟨⟨x, y, first, second⟩, ?atNearest, ?ofEqual, ?ofGreater, ?ofLess,
    exact_, ?ofSmall⟩
  case atNearest =>
    intro x' y' first' second'
    rw [first'.unique first, second'.unique second]
    exact compared
  case ofEqual =>
    intro equal
    rw [compared.equals, compared.notEquals, decide_eq_true (same equal), decide_eq_false]
    · exact ⟨rfl, rfl⟩
    · exact not_not.mpr (same equal)
  case ofGreater =>
    rw [compared.greaterThan]
    intro holds
    have greater := of_decide_eq_true (Except.ok.inj holds)
    omega
  case ofLess =>
    rw [compared.lessThan]
    intro holds
    have less := of_decide_eq_true (Except.ok.inj holds)
    omega
  case ofSmall =>
    intro fits fits'
    exact exact_ (Double.exists_of_natAbs_le fits) (Double.exists_of_natAbs_le fits')

/-- An integer that is no double equals itself in another spelling. -/
theorem compared_as_nearest_padded :
    Comparator.equals.relation (.text " +0009007199254740993\t") (.int 9007199254740993) [] =
      .ok true := by
  have digits : "0009007199254740993".toList.all isDigit = true := by decide +kernel
  have spells : Spells 9007199254740993 (.text " +0009007199254740993\t") :=
    .text ⟨[' '], List.forall_mem_singleton.mpr (by decide)⟩
      ⟨['\t'], List.forall_mem_singleton.mpr (by decide)⟩ .plus
      (show "0009007199254740993".toList ≠ [] by decide) (List.all_eq_true.mp digits)
  have small : (9007199254740993 : Int).natAbs < tenTo 300 := by decide +kernel
  exact ((compared_as_nearest spells (.int _) small small []).2.2.1 rfl).1

/-- The power of two that mantissas stay below equals the integer behind it. -/
theorem not_comparedAs_behind_mantissas :
    Comparator.equals.relation (.int 9007199254740993) (.int 9007199254740992) [] = .ok true ∧
      ¬ComparedAs (.int 9007199254740993) (.int 9007199254740992) [] 9007199254740993
        9007199254740992 := by
  have equal : Comparator.equals.relation (.int 9007199254740993) (.int 9007199254740992) [] =
      .ok true := by
    have made : Comparator.equal (Comparator.ignoresCase []) (.int 9007199254740993)
        (.int 9007199254740992) = .ok true := by decide +kernel
    simp only [Comparator.equals, Comparator.ofFaults, made]
    rfl
  refine ⟨equal, fun compared => ?_⟩
  cases equal.symm.trans compared.equals

end Playbook
