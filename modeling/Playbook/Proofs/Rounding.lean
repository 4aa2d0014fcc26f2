import Playbook.Range

/-!
# Rounded numbers

Rounding a ratio to a double keeps its sign, and what numerals are read as is always a number.  An
integer has a double unless rounding would take it to the power of two behind the greatest double.
-/

namespace Playbook

namespace Binary64

theorem ofRatio_eq (negative : Bool) (num den : Nat) :
    ofRatio negative num den = .infinite negative ∨
      ∃ mantissa exponent, ofRatio negative num den = .finite negative mantissa exponent := by
  fun_cases ofRatio negative num den with
  | case1 => exact .inr ⟨_, _, rfl⟩
  | case2 => exact .inl rfl
  | case3 => exact .inr ⟨_, _, rfl⟩

theorem ofRatio_ne_nan (negative : Bool) (num den : Nat) : ofRatio negative num den ≠ .nan := by
  rcases ofRatio_eq negative num den with rounded | ⟨mantissa, exponent, rounded⟩ <;> simp [rounded]

theorem ofDecimal_ne_nan (negative : Bool) (digits : Nat) (exponent : Int) :
    ofDecimal negative digits exponent ≠ .nan := by
  fun_cases ofDecimal negative digits exponent with
  | case1 | case3 => simp [zero]
  | case2 => simp
  | case4 | case5 => exact ofRatio_ne_nan _ _ _

theorem eq_self {x : Binary64} (number : x ≠ .nan) : x.eq x = true := by
  cases x with
  | nan => exact absurd rfl number
  | infinite negative => simp [eq]
  | finite negative mantissa exponent => simp [eq]

theorem scaled_zero (negative : Bool) : scaled negative 0 (-1074) = 0 := by
  cases negative <;> rfl

theorem scaled_nonneg (mantissa : Nat) (exponent : Int) : 0 ≤ scaled false mantissa exponent :=
  Int.natCast_nonneg _

theorem lt_zero_ofRatio (num den : Nat) : lt (ofRatio false num den) (.zero false) = false := by
  rcases ofRatio_eq false num den with rounded | ⟨mantissa, exponent, rounded⟩
  · rw [rounded]
    rfl
  · rw [rounded]
    simpa [lt, zero, scaled_zero] using scaled_nonneg mantissa exponent

/-- A positive number and one that is not negative have no negative sum. -/
theorem lt_zero_add {x y : Binary64} (positive : lt (.zero false) x = true)
    (nonnegative : le (.zero false) y = true) : lt (add x y) (.zero false) = false := by
  cases x with
  | nan => cases positive
  | infinite negative =>
      have above : negative = false := by simpa [lt, zero] using positive
      subst above
      cases y with
      | infinite negative => cases negative <;> rfl
      | _ => rfl
  | finite negative mantissa exponent =>
      cases y with
      | nan => rfl
      | infinite negative =>
          have above : negative = false := by simpa [le, lt, eq, zero] using nonnegative
          subst above
          rfl
      | finite other mantissa' exponent' =>
          have left : 0 < scaled negative mantissa exponent := by
            simpa [lt, zero, scaled_zero] using positive
          have right : 0 ≤ scaled other mantissa' exponent' := by
            simp [le, lt, eq, zero, scaled_zero] at nonnegative
            omega
          have nonzero :
              ¬scaled negative mantissa exponent + scaled other mantissa' exponent' = 0 := by omega
          have notBelow :
              ¬scaled negative mantissa exponent + scaled other mantissa' exponent' < 0 := by omega
          unfold add
          dsimp only
          rw [if_neg nonzero, decide_eq_false notBelow]
          exact lt_zero_ofRatio _ _

/-! ## Integers beyond the doubles -/

/-- A quotient reaches an even number by rounding from one half below it on. -/
theorem le_roundDiv_iff {num den bound : Nat} (positive : 0 < den) (even : bound % 2 = 0) :
    bound ≤ roundDiv num den ↔ bound * (2 * den) ≤ 2 * num + den := by
  have whole := Nat.div_add_mod num den
  have part := Nat.mod_lt num positive
  unfold roundDiv
  dsimp only
  generalize num / den = quotient at *
  generalize num % den = remainder at *
  have product (n : Nat) : n * (2 * den) = 2 * (den * n) := by
    rw [Nat.mul_left_comm, Nat.mul_comm n]
  rw [product, ← whole]
  -- Only of the number right above the quotient the remainder decides.
  rcases Nat.lt_trichotomy bound (quotient + 1) with below | same | above
  · have least : den * bound ≤ den * quotient := Nat.mul_le_mul_left den (by omega)
    constructor
    · intro _
      omega
    · intro _
      split <;> omega
  · subst same
    rw [Nat.mul_add, Nat.mul_one]
    have odd : quotient % 2 = 1 := by omega
    simp only [odd, beq_self_eq_true, Bool.and_true, Bool.or_eq_true, decide_eq_true_eq,
      beq_iff_eq]
    split <;> omega
  · have most : den * (quotient + 2) ≤ den * bound := Nat.mul_le_mul_left den (by omega)
    rw [Nat.mul_add] at most
    constructor
    · intro reached
      split at reached <;> omega
    · intro _
      omega

theorem roundDiv_le {num den bound : Nat} (below : num < bound * den) :
    roundDiv num den ≤ bound := by
  have quotient : num / den < bound := Nat.div_lt_of_lt_mul (by rwa [Nat.mul_comm])
  unfold roundDiv
  dsimp only
  split <;> omega

theorem exponentFor_one {num : Nat} (positive : num ≠ 0) :
    exponentFor num 1 = (Nat.log2 num : Int) - 52 := by
  have lower : twoTo (Nat.log2 num) ≤ num := Nat.log2_self_le positive
  have none_ : Nat.log2 1 = 0 := by decide
  unfold exponentFor unscale
  rw [none_]
  dsimp only
  generalize Nat.log2 num = size at *
  -- The first guess stays, since the scaled number has all 53 digits.
  by_cases small : size < 52
  · have sum : size + (52 - size) = 52 := by omega
    have scaled : twoTo 52 ≤ num * twoTo (52 - size) := by
      rw [← sum, twoTo_add, Nat.add_sub_cancel_left]
      exact Nat.mul_le_mul_right _ lower
    have negative : (size : Int) - (0 : Nat) - 52 < 0 := by omega
    have distance : ((size : Int) - (0 : Nat) - 52).natAbs = 52 - size := by omega
    rw [if_pos negative]
    dsimp only
    rw [distance, if_neg (by omega)]
    omega
  · have sum : (size - 52) + 52 = size := by omega
    have scaled : twoTo (size - 52) * twoTo 52 ≤ num := by
      rw [← twoTo_add, sum]
      exact lower
    have nonnegative : ¬(size : Int) - (0 : Nat) - 52 < 0 := by omega
    have distance : ((size : Int) - (0 : Nat) - 52).toNat = size - 52 := by omega
    rw [if_neg nonnegative]
    dsimp only
    rw [distance, Nat.one_mul, if_neg (by omega)]
    omega

theorem carried_exponent {full : Prop} [Decidable full] {before after : Int}
    {first second mantissa : Nat}
    (carried : (if full then (first, before + 1) else (second, before)) = (mantissa, after)) :
    971 < after ↔ 971 < before ∨ before = 971 ∧ full := by
  by_cases holds : full
  · rw [if_pos holds] at carried
    obtain ⟨_, sum⟩ := Prod.mk.inj carried
    simp only [holds, and_true]
    omega
  · rw [if_neg holds] at carried
    obtain ⟨_, same⟩ := Prod.mk.inj carried
    simp only [holds, and_false, or_false]
    omega

/-- A ratio has no double if its exponent is too great, or becomes so by rounding. -/
theorem ofRatio_eq_infinite_iff {num den : Nat} (positive : num ≠ 0) (negative : Bool) :
    ofRatio negative num den = .infinite negative ↔
      971 < exponentFor num den ∨ exponentFor num den = 971 ∧
        roundDiv (unscale num den 971).1 (unscale num den 971).2 = twoTo 53 := by
  have condition {exponent after : Int} {n d mantissa : Nat}
      (parts : unscale num den exponent = (n, d))
      (carried : (if roundDiv n d = twoTo 53 then (twoTo 52, exponent + 1)
        else (roundDiv n d, exponent)) = (mantissa, after)) :
      971 < after ↔ 971 < exponent ∨ exponent = 971 ∧
        roundDiv (unscale num den 971).1 (unscale num den 971).2 = twoTo 53 := by
    rw [carried_exponent carried]
    apply or_congr_right
    apply and_congr_right
    intro limit
    rw [← limit, parts]
  fun_cases ofRatio negative num den with
  | case1 => contradiction
  | case2 _ exponent n d parts mantissa last after carried great =>
      exact iff_of_true rfl ((condition parts carried).mp great)
  | case3 _ exponent n d parts mantissa last after carried small =>
      exact iff_of_false (fun same => by cases same) fun beyond =>
        small ((condition parts carried).mpr beyond)

/-- An integer is beyond the doubles from the middle between the greatest of them and the power of
two behind it on. -/
theorem ofInt?_eq_none_iff {n : Int} :
    ofInt? n = none ↔ twoTo 1024 ≤ n.natAbs + twoTo 970 := by
  have infinite : ofInt? n = none ↔ ofRatio (n < 0) n.natAbs 1 = .infinite (n < 0) := by
    unfold ofInt?
    rcases ofRatio_eq (n < 0) n.natAbs 1 with rounded | ⟨mantissa, exponent, rounded⟩ <;>
      simp [rounded]
  have half : twoTo 971 = 2 * twoTo 970 := twoTo_succ 970
  have double : twoTo 1024 = 2 * twoTo 1023 := twoTo_succ 1023
  have below : twoTo 970 < twoTo 1023 := twoTo_lt (by decide)
  rw [infinite]
  by_cases positive : n.natAbs = 0
  · have none_ : ¬twoTo 1024 ≤ n.natAbs + twoTo 970 := by omega
    rw [positive] at none_ ⊢
    exact iff_of_false (fun same => by cases same) none_
  · have lower : twoTo (Nat.log2 n.natAbs) ≤ n.natAbs := Nat.log2_self_le positive
    have upper : n.natAbs < twoTo (Nat.log2 n.natAbs + 1) := Nat.lt_log2_self
    rw [ofRatio_eq_infinite_iff positive, exponentFor_one positive]
    generalize n.natAbs = num at *
    rcases Nat.lt_trichotomy (Nat.log2 num) 1023 with small | limit | great
    · have least : twoTo (Nat.log2 num + 1) ≤ twoTo 1023 := twoTo_le small
      omega
    · -- Only the greatest exponent leaves it to rounding whether there is a double.
      have scale : twoTo 1024 = twoTo 53 * twoTo 971 := twoTo_add 53 971
      rw [limit] at upper
      have parts : unscale num 1 971 = (num, twoTo 971) := by
        unfold unscale
        rw [if_neg (by decide), Nat.one_mul]
        rfl
      have most : roundDiv num (twoTo 971) ≤ twoTo 53 := roundDiv_le (scale ▸ upper)
      have reached : twoTo 53 ≤ roundDiv num (twoTo 971) ↔ _ :=
        le_roundDiv_iff (twoTo_pos 971) (by decide)
      rw [Nat.mul_left_comm, ← scale] at reached
      rw [parts, limit]
      dsimp only
      omega
    · have most : twoTo 1024 ≤ twoTo (Nat.log2 num) := twoTo_le great
      omega

end Binary64

theorem Numeral.ofText?_ne_nan {cs : List Char} {x : Binary64} (read : ofText? cs = some x) :
    x ≠ .nan := by
  obtain ⟨decimal, _, rfl⟩ := Option.map_eq_some_iff.mp read
  exact Binary64.ofDecimal_ne_nan _ _ _

end Playbook
