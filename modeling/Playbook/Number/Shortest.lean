import Playbook.Number.Binary64
import Playbook.Text.Lines

/-!
# Decimal text of doubles

The shortest decimal that reads back as a given double, and rounding to a fixed number of
significant digits. A double rounds from every real of an interval around it; on the grid of
decimals with `n` digits only the two neighbours of the double have to be tried.
-/

namespace Playbook.Binary64

/-- A positive ratio with the ends of the interval that rounds to it, all over one
denominator. -/
structure Interval where
  low : Nat
  value : Nat
  high : Nat
  den : Nat
  closed : Bool

/-- The interval of reals that round to a finite positive double. -/
def intervalOf (mantissa : Nat) (exponent : Int) : Interval :=
  let low := if mantissa = twoTo 52 && exponent > -1074 then 4 * mantissa - 1 else 4 * mantissa - 2
  let up := twoTo (exponent - 2).toNat
  let down := twoTo (2 - exponent).toNat
  ⟨low * up, 4 * mantissa * up, (4 * mantissa + 2) * up, down, mantissa % 2 == 0⟩

/-- Whether `digits · 10 ^ place` lies in the interval. -/
def Interval.holds (interval : Interval) (digits : Nat) (place : Int) : Bool :=
  let candidate := digits * tenTo place.toNat * interval.den
  let scale := tenTo (-place).toNat
  let low := interval.low * scale
  let high := interval.high * scale
  if interval.closed then low ≤ candidate && candidate ≤ high
  else low < candidate && candidate < high

/-- The least `k` with `num / den < 10 ^ k`, searched upwards from an estimate. -/
def decimalMagnitude (num den : Nat) : Int :=
  let estimate := ((Nat.log2 num : Int) - Nat.log2 den - 1) * 30103 / 100000 - 1
  let below (k : Int) : Bool := num * tenTo (-k).toNat < den * tenTo k.toNat
  ((List.range 6).map fun (step : Nat) => estimate + (step : Int)).find? below |>.getD estimate

/-- The point of the grid `10 ^ place` that lies in the interval nearest to its value. -/
def Interval.nearest? (interval : Interval) (place : Int) : Option Nat :=
  let num := interval.value * tenTo (-place).toNat
  let den := interval.den * tenTo place.toNat
  let below := num / den
  let above := below + 1
  let belowHolds := interval.holds below place
  let aboveHolds := interval.holds above place
  if belowHolds && aboveHolds then
    if 2 * (num % den) < den then some below else some above
  else if belowHolds then some below
  else if aboveHolds then some above
  else none

/-- The shortest digits that read back as a finite positive double: the result `(d, p)` stands
for `d · 10 ^ p`. -/
def shortestDigits (mantissa : Nat) (exponent : Int) : Nat × Int :=
  let interval := intervalOf mantissa exponent
  let magnitude := decimalMagnitude interval.value interval.den
  let attempt (count : Nat) : Option (Nat × Int) :=
    let place := magnitude - (count : Int) - 1
    (interval.nearest? place).map fun digits => (digits, place)
  ((List.range 17).findSome? attempt).getD (0, 0)

/-- A finite positive double rounded to a number of significant digits. -/
def roundedDigits (count : Nat) (mantissa : Nat) (exponent : Int) : Nat × Int :=
  let interval := intervalOf mantissa exponent
  let magnitude := decimalMagnitude interval.value interval.den
  let place := magnitude - (count : Int)
  (roundDiv (interval.value * tenTo (-place).toNat) (interval.den * tenTo place.toNat), place)

/-- Decimal digits of a number without trailing zeros, and the power of ten of the first
digit. -/
def significant (digits : Nat) (place : Int) : List Char × Int :=
  let all := (Nat.toDigits 10 digits)
  let kept := (all.reverse.dropWhile (· == '0')).reverse
  (if kept.isEmpty then ['0'] else kept, place + (all.length : Int) - 1)

/-- How a number is laid out: from which power of ten on an exponent is written, and whether
a whole number keeps a fraction of zero. -/
structure Layout where
  exponentFrom : Int
  keepsFraction : Bool

/-- Numbers in full: an exponent from `10 ^ 16` on, and whole numbers end in `.0`. -/
def Layout.full : Layout := ⟨16, true⟩

/-- Numbers in brief: six digits, an exponent from `10 ^ 6` on, no needless fraction. -/
def Layout.brief : Layout := ⟨6, false⟩

/-- An exponent with its sign and at least two digits. -/
def exponentText (power : Int) : List Char :=
  let digits := Nat.toDigits 10 power.natAbs
  'e' :: (if power < 0 then '-' else '+') :: (if digits.length < 2 then '0' :: digits else digits)

/-- Digits laid out with a point or an exponent. -/
def Layout.write (layout : Layout) (digits : List Char) (power : Int) : List Char :=
  if power < -4 || layout.exponentFrom ≤ power then
    match digits with
    | [] => []
    | [d] => d :: exponentText power
    | d :: rest => d :: '.' :: rest ++ exponentText power
  else if power < 0 then
    '0' :: '.' :: List.replicate (power.natAbs - 1) '0' ++ digits
  else
    let whole := power.toNat + 1
    let front := digits.take whole ++ List.replicate (whole - digits.length) '0'
    let back := digits.drop whole
    if back.isEmpty then (if layout.keepsFraction then front ++ ['.', '0'] else front)
    else front ++ '.' :: back

/-- Text of a number through a choice of its digits. -/
def textWith (layout : Layout) (choose : Nat → Int → Nat × Int) : Binary64 → String
  | .nan => "nan"
  | .infinite negative => if negative then "-inf" else "inf"
  | .finite negative mantissa exponent =>
      let (digits, power) :=
        if mantissa = 0 then (['0'], 0)
        else
          let (d, p) := choose mantissa exponent
          significant d p
      let body := layout.write digits power
      String.ofList (if negative then '-' :: body else body)

/-- The shortest text that reads back as the number. -/
def text (x : Binary64) : String := textWith .full shortestDigits x

/-- The number in at most six significant digits. -/
def briefText (x : Binary64) : String := textWith .brief (roundedDigits 6) x

end Playbook.Binary64
