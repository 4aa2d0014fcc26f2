import Playbook.Proofs.Rounding

/-!
# Nearest doubles

Finite doubles in their normal form lie on grids that get coarser with the exponent, so between a
double and the one above it there is no other.  An integer is rounded to the double nearest to it, a
tie going to the even mantissa.  This determines the value of the result, keeps the order of
integers, and changes no integer up to the power of two that mantissas stay below.
-/

namespace Playbook

/-- A finite double in its normal form. -/
structure Double where
  negative : Bool
  mantissa : Nat
  exponent : Int
  fits : mantissa < twoTo 53
  above : -1074 ≤ exponent
  below : exponent ≤ 971
  normal : twoTo 52 ≤ mantissa ∨ exponent = -1074

namespace Double

def toBinary64 (x : Double) : Binary64 := .finite x.negative x.mantissa x.exponent

/-- Position of the exponent among all exponents. -/
def grid (x : Double) : Nat := (x.exponent + 1074).toNat

/-- The absolute value in multiples of the smallest positive double. -/
def size (x : Double) : Nat := x.mantissa * twoTo x.grid

/-- The value in multiples of the smallest positive double. -/
def scaled (x : Double) : Int := if x.negative then -(x.size : Int) else x.size

/-- An integer in multiples of the smallest positive double. -/
def scale (n : Int) : Int := n * (twoTo 1074 : Nat)

def neg (x : Double) : Double :=
  { x with negative := !x.negative }

theorem scaled_neg (x : Double) : x.neg.scaled = -x.scaled := by
  unfold scaled neg
  cases x.negative <;> simp [size, grid]

theorem scale_neg (n : Int) : scale (-n) = -scale n := Int.neg_mul _ _

theorem eq_toBinary64 (x y : Double) :
    x.toBinary64.eq y.toBinary64 = decide (x.scaled = y.scaled) := rfl

theorem lt_toBinary64 (x y : Double) :
    x.toBinary64.lt y.toBinary64 = decide (x.scaled < y.scaled) := rfl

theorem scaled_of_sign {x : Double} (sign : x.negative = false) : x.scaled = x.size := by
  unfold scaled
  rw [sign]
  exact if_neg Bool.false_ne_true

theorem scaled_eq_size {x : Double} (nonnegative : 0 ≤ x.scaled) : x.scaled = x.size := by
  unfold scaled at nonnegative ⊢
  split
  · rename_i negative
    rw [if_pos negative] at nonnegative
    omega
  · rfl

/-! ## Grids -/

/-- The size of a double is a multiple of a power of two, or it is so small that its mantissa would
not be normal there. -/
theorem on_grid_or_small (x : Double) (p : Nat) :
    p ≤ x.grid ∧ x.size = x.mantissa * twoTo (x.grid - p) * twoTo p ∨
      x.grid < p ∧ x.size < twoTo 52 * twoTo p := by
  rcases Nat.lt_or_ge x.grid p with finer | coarser
  · have most : x.size < twoTo 53 * twoTo x.grid :=
      Nat.mul_lt_mul_of_pos_right x.fits (twoTo_pos _)
    have scale : twoTo 53 * twoTo x.grid ≤ twoTo 52 * twoTo p := by
      rw [← twoTo_add, ← twoTo_add]
      exact twoTo_le (by omega)
    exact .inr ⟨finer, by omega⟩
  · refine .inl ⟨coarser, ?_⟩
    rw [Nat.mul_assoc, ← twoTo_add, Nat.sub_add_cancel coarser]
    rfl

theorem twoTo_le_mantissa {x : Double} (coarse : 0 < x.grid) : twoTo 52 ≤ x.mantissa := by
  rcases x.normal with normal | least
  · exact normal
  · rw [grid, least] at coarse
    contradiction

/-- The double above one with an even mantissa. -/
def next (x : Double) (even : x.mantissa % 2 = 0) : Double where
  negative := false
  mantissa := x.mantissa + 1
  exponent := x.exponent
  fits := by
    have fits := x.fits
    have limit : twoTo 53 % 2 = 0 := by decide
    omega
  above := x.above
  below := x.below
  normal := x.normal.imp_left fun normal => by omega

theorem size_next (x : Double) (even : x.mantissa % 2 = 0) :
    (x.next even).size = x.size + twoTo x.grid := by
  unfold size
  exact Nat.succ_mul _ _

/-- Nothing is between a double and the next one, and what equals the next one has an odd mantissa,
too. -/
theorem next_or_above {x y : Double} (even : x.mantissa % 2 = 0) (greater : x.size < y.size) :
    (x.next even).size < y.size ∨ y.size = (x.next even).size ∧ y.mantissa % 2 = 1 := by
  have unit := twoTo_pos x.grid
  have above : (x.next even).size = (x.mantissa + 1) * twoTo x.grid := rfl
  rcases y.on_grid_or_small x.grid with ⟨coarser, multiple⟩ | ⟨finer, small⟩
  · rw [multiple] at greater ⊢
    have steps : x.mantissa < y.mantissa * twoTo (y.grid - x.grid) :=
      Nat.lt_of_mul_lt_mul_right greater
    rw [above]
    rcases Nat.lt_or_eq_of_le (Nat.succ_le_of_lt steps) with beyond | same
    · exact .inl (Nat.mul_lt_mul_of_pos_right beyond unit)
    · refine .inr ⟨by rw [← same], ?_⟩
      -- A multiple of two is no odd number, so both are on the same grid.
      rcases Nat.eq_zero_or_pos (y.grid - x.grid) with level | coarse
      · have one : twoTo 0 = 1 := rfl
        rw [level, one, Nat.mul_one] at same
        omega
      · have double := twoTo_succ (y.grid - x.grid - 1)
        rw [Nat.sub_add_cancel coarse] at double
        rw [double, Nat.mul_left_comm] at same
        omega
  · have normal := Nat.mul_le_mul_right (twoTo x.grid) (twoTo_le_mantissa (x := x) (by omega))
    unfold size at greater small
    omega

/-- Every number up to the limit of mantissas, times a power of two, is a double. -/
theorem exists_of_size {p m : Nat} (fits : m ≤ twoTo 53) (range : p ≤ 2044) :
    ∃ x : Double, x.negative = false ∧ x.size = m * twoTo p := by
  have half : twoTo 53 = 2 * twoTo 52 := twoTo_succ 52
  have carried (q : Nat) (range : q ≤ 2044) :
      ∃ x : Double, x.negative = false ∧ x.size = twoTo 53 * twoTo q := by
    refine ⟨⟨false, twoTo 52, q + 1 - 1074, by decide, by omega, by omega, .inl (Nat.le_refl _)⟩,
      rfl, ?_⟩
    have place : ((q : Int) + 1 - 1074 + 1074).toNat = q + 1 := by omega
    change twoTo 52 * twoTo ((q : Int) + 1 - 1074 + 1074).toNat = _
    rw [place, twoTo_succ q, half, Nat.mul_left_comm, Nat.mul_assoc]
  induction p generalizing m with
  | zero =>
      rcases Nat.lt_or_eq_of_le fits with inside | rfl
      · exact ⟨⟨false, m, -1074, inside, by decide, by decide, .inr rfl⟩, rfl, rfl⟩
      · exact carried 0 range
  | succ p ih =>
      rcases Nat.lt_or_ge m (twoTo 52) with small | normal
      · obtain ⟨x, sign, value⟩ := @ih (2 * m) (by omega) (by omega)
        refine ⟨x, sign, ?_⟩
        rw [value, twoTo_succ, Nat.mul_left_comm, Nat.mul_assoc]
      · rcases Nat.lt_or_eq_of_le fits with inside | rfl
        · refine ⟨⟨false, m, p + 1 - 1074, inside, by omega, by omega, .inl normal⟩, rfl, ?_⟩
          have place : ((p : Int) + 1 - 1074 + 1074).toNat = p + 1 := by omega
          change m * twoTo ((p : Int) + 1 - 1074 + 1074).toNat = _
          rw [place]
        · exact carried (p + 1) range

end Double

/-! ## Rounding to the nearest integer -/

namespace Binary64

variable {num den : Nat}

/-- A multiple of the divisor is at most the one below the dividend, or at least the one above. -/
theorem multiple_below_or_above (k quotient den : Nat) :
    k * den ≤ quotient * den ∨ quotient * den + den ≤ k * den := by
  rcases Nat.lt_or_ge quotient k with above | below
  · right
    rw [← Nat.succ_mul]
    exact Nat.mul_le_mul_right den above
  · exact .inl (Nat.mul_le_mul_right den below)

/-- The remainder decides between the quotient and the number above it. -/
theorem roundDiv_cases (num den : Nat) :
    2 * (num % den) < den ∧ roundDiv num den = num / den ∨
      den < 2 * (num % den) ∧ roundDiv num den = num / den + 1 ∨
      2 * (num % den) = den ∧ (roundDiv num den = num / den ∨ roundDiv num den = num / den + 1) ∧
        roundDiv num den % 2 = 0 := by
  unfold roundDiv
  dsimp only
  split
  · rename_i up
    simp only [gt_iff_lt, Bool.or_eq_true, decide_eq_true_eq, Bool.and_eq_true, beq_iff_eq] at up
    omega
  · rename_i down
    simp only [gt_iff_lt, Bool.or_eq_true, decide_eq_true_eq, Bool.and_eq_true, beq_iff_eq] at down
    omega

theorem roundDiv_nearest (num : Nat) (positive : 0 < den) (k : Nat) :
    ((num : Int) - (roundDiv num den * den : Nat)).natAbs ≤
      ((num : Int) - (k * den : Nat)).natAbs := by
  have whole := Nat.div_add_mod' num den
  have part := Nat.mod_lt num positive
  have sides := multiple_below_or_above k (num / den) den
  have above : (num / den + 1) * den = num / den * den + den := Nat.succ_mul _ _
  rcases roundDiv_cases num den with ⟨less, same⟩ | ⟨more, same⟩ | ⟨half, same | same, _⟩
  · rw [same]
    omega
  · rw [same, above]
    omega
  · rw [same]
    omega
  · rw [same, above]
    omega

theorem roundDiv_even (positive : 0 < den) {k : Nat} (other : k ≠ roundDiv num den)
    (tie : ((num : Int) - (k * den : Nat)).natAbs =
      ((num : Int) - (roundDiv num den * den : Nat)).natAbs) : roundDiv num den % 2 = 0 := by
  have whole := Nat.div_add_mod' num den
  have part := Nat.mod_lt num positive
  have above : (num / den + 1) * den = num / den * den + den := Nat.succ_mul _ _
  rcases roundDiv_cases num den with ⟨less, same⟩ | ⟨more, same⟩ | ⟨_, _, even⟩
  · rw [same] at other tie
    rcases Nat.lt_or_gt_of_ne other with below | beyond
    · have far := Nat.mul_le_mul_right den below
      rw [Nat.succ_mul] at far
      omega
    · have far := Nat.mul_le_mul_right den beyond
      rw [Nat.succ_mul] at far
      omega
  · rw [same] at other tie
    rw [above] at tie
    rcases Nat.lt_or_gt_of_ne other with below | beyond
    · have far := Nat.mul_le_mul_right den below
      rw [Nat.succ_mul, above] at far
      omega
    · have far := Nat.mul_le_mul_right den beyond
      rw [Nat.succ_mul, above] at far
      omega
  · exact even

theorem roundDiv_scale {factor : Nat} (positive : 0 < factor) :
    roundDiv (num * factor) (den * factor) = roundDiv num den := by
  unfold roundDiv
  rw [Nat.mul_div_mul_right _ _ positive, Nat.mul_mod_mul_right, ← Nat.mul_assoc]
  have same : (2 * (num % den) * factor == den * factor) = (2 * (num % den) == den) := by
    rw [Bool.eq_iff_iff, beq_iff_eq, beq_iff_eq, Nat.mul_left_inj (by omega)]
  simp only [gt_iff_lt, Nat.mul_lt_mul_right positive, same]

end Binary64

namespace Double

/-! ## Nearest doubles -/

/-- No double is nearer to an integer, and if another one is as near, the mantissa is even. -/
structure IsNearest (n : Int) (x : Double) : Prop where
  nearest : ∀ y : Double, (scale n - x.scaled).natAbs ≤ (scale n - y.scaled).natAbs
  even : ∀ y : Double, y.scaled ≠ x.scaled →
    (scale n - y.scaled).natAbs = (scale n - x.scaled).natAbs → x.mantissa % 2 = 0

variable {n a b : Int} {x y : Double}

theorem IsNearest.neg (nearest : IsNearest n x) : IsNearest (-n) x.neg where
  nearest y := by
    have least := nearest.nearest y.neg
    rw [scaled_neg] at least ⊢
    rw [scale_neg]
    omega
  even y other tie := by
    apply nearest.even y.neg
    · rw [scaled_neg] at other ⊢
      omega
    · rw [scaled_neg] at tie ⊢
      rw [scale_neg] at tie
      omega

/-- What is nearest to an integer that is the value of a double has this value. -/
theorem IsNearest.scaled_eq (nearest : IsNearest n x) (exact : y.scaled = scale n) :
    x.scaled = scale n := by
  have least := nearest.nearest y
  omega

theorem scale_lt (less : a < b) : scale a < scale b :=
  Int.mul_lt_mul_of_pos_right less (Int.natCast_pos.mpr (twoTo_pos 1074))

theorem scale_lt_iff : scale a < scale b ↔ a < b := by
  refine ⟨fun scaled => ?_, scale_lt⟩
  rcases Int.lt_trichotomy a b with less | rfl | greater
  · exact less
  · exact absurd scaled (Int.lt_irrefl _)
  · exact absurd scaled (Int.not_lt.mpr (Int.le_of_lt (scale_lt greater)))

/-- Rounding keeps the order of integers. -/
theorem IsNearest.mono (lower : IsNearest a x) (upper : IsNearest b y) (less : a < b) :
    x.scaled ≤ y.scaled := by
  have first := lower.nearest y
  have second := upper.nearest x
  have apart := scale_lt less
  omega

def zero (negative : Bool) : Double :=
  ⟨negative, 0, -1074, by decide, by decide, by decide, .inr rfl⟩

theorem scaled_zero (negative : Bool) : (zero negative).scaled = 0 := by
  cases negative <;> decide +kernel

theorem isNearest_zero (negative : Bool) : IsNearest 0 (zero negative) where
  nearest y := by
    have none : scale 0 = 0 := Int.zero_mul _
    rw [scaled_zero, none]
    omega
  even _ _ _ := rfl

theorem IsNearest.not_lt_of_nonneg (nonnegative : 0 ≤ n) (first : IsNearest n x)
    (second : IsNearest n y) : ¬x.scaled < y.scaled := by
  intro less
  have whole : 0 ≤ scale n := Int.mul_nonneg nonnegative (Int.natCast_nonneg _)
  have atLeast := first.nearest (zero false)
  rw [scaled_zero] at atLeast
  have middle := first.nearest y
  have middle' := second.nearest x
  have xEven := first.even y (by omega) (by omega)
  have yEven := second.even x (by omega) (by omega)
  have xSize : x.scaled = x.size := scaled_eq_size (by omega)
  have ySize : y.scaled = y.size := scaled_eq_size (by omega)
  have nextSize : (x.next xEven).scaled = (x.next xEven).size := rfl
  rcases next_or_above xEven (show x.size < y.size by omega) with between | ⟨_, odd⟩
  · have step := size_next x xEven
    have unit := twoTo_pos x.grid
    have closer := first.nearest (x.next xEven)
    omega
  · omega

theorem IsNearest.unique (first : IsNearest n x) (second : IsNearest n y) :
    x.scaled = y.scaled := by
  rcases Int.le_total 0 n with nonnegative | nonpositive
  · have notLess := first.not_lt_of_nonneg nonnegative second
    have notGreater := second.not_lt_of_nonneg nonnegative first
    omega
  · have notLess := first.neg.not_lt_of_nonneg (by omega) second.neg
    have notGreater := second.neg.not_lt_of_nonneg (by omega) first.neg
    rw [scaled_neg, scaled_neg] at notLess notGreater
    omega

/-! ## Rounding gives a nearest double -/

/-- No double is nearer to a number than all multiples of the grid on which it is normal. -/
theorem exists_multiple {size p : Nat} (normal : twoTo 52 * twoTo p ≤ size) (y : Double) :
    ∃ k : Nat, y.scaled = (k * twoTo p : Nat) ∨
      ((size : Int) - (k * twoTo p : Nat)).natAbs < ((size : Int) - y.scaled).natAbs := by
  by_cases negative : y.scaled < 0
  · exact ⟨0, .inr (by omega)⟩
  · rw [scaled_eq_size (Int.not_lt.mp negative)]
    rcases y.on_grid_or_small p with ⟨_, multiple⟩ | ⟨_, small⟩
    · exact ⟨_, .inl (congrArg _ multiple)⟩
    · exact ⟨twoTo 52, .inr (by omega)⟩

theorem isNearest_of_size {num p mantissa : Nat} {x : Double}
    (normal : twoTo 52 * twoTo p ≤ num * twoTo 1074) (sign : x.negative = false)
    (rounded : Binary64.roundDiv (num * twoTo 1074) (twoTo p) = mantissa)
    (value : x.size = mantissa * twoTo p) (even : mantissa % 2 = 0 → x.mantissa % 2 = 0) :
    IsNearest num x where
  nearest y := by
    rw [scaled_of_sign sign, value, ← rounded]
    obtain ⟨k, same | nearer⟩ := exists_multiple normal y
    · rw [same]
      exact Binary64.roundDiv_nearest _ (twoTo_pos p) k
    · have least := Binary64.roundDiv_nearest (num * twoTo 1074) (twoTo_pos p) k
      exact Nat.le_of_lt (Nat.lt_of_le_of_lt least nearer)
  even y other tie := by
    rw [scaled_of_sign sign, value, ← rounded] at other tie
    apply even
    rw [← rounded]
    obtain ⟨k, same | nearer⟩ := exists_multiple normal y
    · rw [same] at other tie
      apply Binary64.roundDiv_even (twoTo_pos p) _ tie
      intro equal
      rw [equal] at other
      exact other rfl
    · have least := Binary64.roundDiv_nearest (num * twoTo 1074) (twoTo_pos p) k
      exact absurd tie.symm (Nat.ne_of_lt (Nat.lt_of_le_of_lt least nearer))

end Double

namespace Binary64

/-- Rounding an integer is rounding to the grid that its mantissa is normal on. -/
theorem roundDiv_unscale_one (num p : Nat) :
    roundDiv (unscale num 1 ((p : Int) - 1074)).1 (unscale num 1 ((p : Int) - 1074)).2 =
      roundDiv (num * twoTo 1074) (twoTo p) := by
  unfold unscale
  split
  · have distance : ((p : Int) - 1074).natAbs = 1074 - p := by omega
    have sum : 1074 - p + p = 1074 := by omega
    rw [distance, ← roundDiv_scale (twoTo_pos p), Nat.mul_assoc, ← twoTo_add, sum, Nat.one_mul]
  · have distance : ((p : Int) - 1074).toNat = p - 1074 := by omega
    have sum : p - 1074 + 1074 = p := by omega
    rw [distance, ← roundDiv_scale (twoTo_pos 1074), Nat.one_mul, ← twoTo_add, sum]

theorem ofRatio_one {num : Nat} (positive : num ≠ 0) (negative : Bool) :
    ofRatio negative num 1 =
      (let mantissa := roundDiv (num * twoTo 1074) (twoTo (Nat.log2 num + 1022))
      let (mantissa, exponent) :=
        if mantissa = twoTo 53 then (twoTo 52, (Nat.log2 num : Int) - 52 + 1)
        else (mantissa, (Nat.log2 num : Int) - 52)
      if exponent > 971 then .infinite negative else .finite negative mantissa exponent) := by
  have place : (Nat.log2 num : Int) - 52 = ((Nat.log2 num + 1022 : Nat) : Int) - 1074 := by omega
  rw [← roundDiv_unscale_one, ← place]
  unfold ofRatio
  rw [if_neg positive, exponentFor_one positive]

/-- The grid that the mantissa of a positive integer is normal on. -/
theorem normal_bounds {num p : Nat} (positive : num ≠ 0) (place : p = Nat.log2 num + 1022) :
    twoTo 52 * twoTo p ≤ num * twoTo 1074 ∧ num * twoTo 1074 < twoTo 53 * twoTo p := by
  have lower : twoTo (Nat.log2 num) ≤ num := Nat.log2_self_le positive
  have upper : num < twoTo (Nat.log2 num + 1) := Nat.lt_log2_self
  constructor
  · have sum : 52 + p = Nat.log2 num + 1074 := by omega
    rw [← twoTo_add, sum, twoTo_add]
    exact Nat.mul_le_mul_right _ lower
  · have sum : 53 + p = Nat.log2 num + 1 + 1074 := by omega
    rw [← twoTo_add, sum, twoTo_add]
    exact Nat.mul_lt_mul_of_pos_right upper (twoTo_pos _)

/-- A quotient between the limits of normal mantissas is rounded to one of them, or to the greater
limit itself. -/
theorem roundDiv_bounds {num p : Nat} (normal : twoTo 52 * twoTo p ≤ num)
    (fits : num < twoTo 53 * twoTo p) :
    twoTo 52 ≤ roundDiv num (twoTo p) ∧ roundDiv num (twoTo p) ≤ twoTo 53 := by
  refine ⟨?_, roundDiv_le fits⟩
  rw [le_roundDiv_iff (twoTo_pos p) (by decide), Nat.mul_left_comm]
  omega

/-- A positive integer that is not too great is rounded to a nearest double. -/
theorem exists_ofRatio_of_pos {num : Nat} (positive : num ≠ 0) (small : num < twoTo 1023) :
    ∃ x : Double, (∀ negative, ofRatio negative num 1 = .finite negative x.mantissa x.exponent) ∧
      x.negative = false ∧ x.IsNearest num := by
  have range : Nat.log2 num < 1023 := by
    have lower : twoTo (Nat.log2 num) ≤ num := Nat.log2_self_le positive
    apply Nat.lt_of_not_le
    intro great
    have most := twoTo_le great
    omega
  have half : twoTo 53 = 2 * twoTo 52 := twoTo_succ 52
  have rounded := ofRatio_one positive
  obtain ⟨p, place⟩ : ∃ p, p = Nat.log2 num + 1022 := ⟨_, rfl⟩
  obtain ⟨normal, fits⟩ := normal_bounds positive place
  obtain ⟨least, most⟩ := roundDiv_bounds normal fits
  rw [← place] at rounded
  obtain ⟨mantissa, quotient⟩ : ∃ m, roundDiv (num * twoTo 1074) (twoTo p) = m := ⟨_, rfl⟩
  rw [quotient] at rounded least most
  by_cases carries : mantissa = twoTo 53
  · let x : Double := ⟨false, twoTo 52, (Nat.log2 num : Int) - 52 + 1, by decide, by omega,
      by omega, .inl (Nat.le_refl _)⟩
    have value : x.size = mantissa * twoTo p := by
      have place : ((Nat.log2 num : Int) - 52 + 1 + 1074).toNat = p + 1 := by omega
      change twoTo 52 * twoTo ((Nat.log2 num : Int) - 52 + 1 + 1074).toNat = _
      rw [place, twoTo_succ p, carries, half, Nat.mul_left_comm, Nat.mul_assoc]
    have even : x.mantissa % 2 = 0 := by
      change twoTo 52 % 2 = 0
      decide
    refine ⟨x, ?_, rfl, Double.isNearest_of_size normal rfl quotient value fun _ => even⟩
    intro negative
    rw [rounded]
    dsimp only
    rw [if_pos carries]
    exact if_neg (by omega)
  · let x : Double := ⟨false, mantissa, (Nat.log2 num : Int) - 52, by omega, by omega, by omega,
      .inl least⟩
    have value : x.size = mantissa * twoTo p := by
      have place : ((Nat.log2 num : Int) - 52 + 1074).toNat = p := by omega
      change mantissa * twoTo ((Nat.log2 num : Int) - 52 + 1074).toNat = _
      rw [place]
    refine ⟨x, ?_, rfl, Double.isNearest_of_size normal rfl quotient value id⟩
    intro negative
    rw [rounded]
    dsimp only
    rw [if_neg carries]
    exact if_neg (by omega)

/-- An integer that is not too great is rounded to a nearest double. -/
theorem exists_ofRatio_one (negative : Bool) {num : Nat} (small : num < twoTo 1023) :
    ∃ x : Double, ofRatio negative num 1 = x.toBinary64 ∧
      x.IsNearest (if negative then -(num : Int) else num) := by
  by_cases positive : num = 0
  · subst positive
    have value : (if negative then -((0 : Nat) : Int) else (0 : Nat)) = 0 := by
      cases negative <;> rfl
    rw [value]
    exact ⟨.zero negative, rfl, Double.isNearest_zero negative⟩
  · obtain ⟨x, rounded, sign, nearest⟩ := exists_ofRatio_of_pos positive small
    cases negative with
    | false => exact ⟨x, by rw [rounded, Double.toBinary64, sign], nearest⟩
    | true => exact ⟨x.neg, by rw [rounded, Double.toBinary64, Double.neg, sign]; rfl, nearest.neg⟩

end Binary64

end Playbook
