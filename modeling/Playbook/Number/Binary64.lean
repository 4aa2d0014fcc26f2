import Playbook.Number.Power

/-!
# Double-precision numbers

A double is held by its exact value, a mantissa times a power of two, so that conversion,
comparison and arithmetic are exact integer computations followed by one rounding to the
nearest double, a tie going to the even mantissa.
-/

namespace Playbook

/-- A double-precision number. A finite one is `± mantissa · 2 ^ exponent` with a mantissa
below `2 ^ 53` and an exponent from `-1074` to `971`; the mantissa is at least `2 ^ 52` unless
the exponent is `-1074`. -/
inductive Binary64 where
  | nan
  | infinite (negative : Bool)
  | finite (negative : Bool) (mantissa : Nat) (exponent : Int)
deriving DecidableEq, Repr, Inhabited

namespace Binary64

/-- The quotient rounded to the nearest integer, a tie going to the even one. -/
def roundDiv (num den : Nat) : Nat :=
  let quotient := num / den
  let twice := 2 * (num % den)
  if twice > den || (twice == den && quotient % 2 == 1) then quotient + 1 else quotient

/-- Zero with a sign. -/
def zero (negative : Bool) : Binary64 := .finite negative 0 (-1074)

/-- A nonnegative ratio divided by a power of two, as a ratio. -/
def unscale (num den : Nat) (exponent : Int) : Nat × Nat :=
  if exponent < 0 then (num * twoTo exponent.natAbs, den) else (num, den * twoTo exponent.toNat)

/-- Exponent of the double nearest to a positive ratio, before rounding. -/
def exponentFor (num den : Nat) : Int :=
  let estimate := (Nat.log2 num : Int) - Nat.log2 den - 52
  let (n, d) := unscale num den estimate
  let exponent := if n < d * twoTo 52 then estimate - 1 else estimate
  max exponent (-1074)

/-- The double nearest to `± num / den`. -/
def ofRatio (negative : Bool) (num den : Nat) : Binary64 :=
  if num = 0 then zero negative
  else
    let exponent := exponentFor num den
    let (n, d) := unscale num den exponent
    let mantissa := roundDiv n d
    let (mantissa, exponent) :=
      if mantissa = twoTo 53 then (twoTo 52, exponent + 1) else (mantissa, exponent)
    if exponent > 971 then .infinite negative else .finite negative mantissa exponent

/-- The double nearest to `± digits · 10 ^ exponent`. Exponents far outside the range of
doubles are settled without computing the power. -/
def ofDecimal (negative : Bool) (digits : Nat) (exponent : Int) : Binary64 :=
  if digits = 0 then zero negative
  else
    let magnitude := (Nat.log2 digits : Int) * 30103 / 100000 + exponent
    if magnitude > 400 then .infinite negative
    else if magnitude < -400 then zero negative
    else if exponent < 0 then ofRatio negative digits (tenTo exponent.natAbs)
    else ofRatio negative (digits * tenTo exponent.toNat) 1

/-- The double nearest to an integer; none if its magnitude is out of range. -/
def ofInt? (n : Int) : Option Binary64 :=
  match ofRatio (n < 0) n.natAbs 1 with
  | .infinite _ => none
  | x => some x

/-- A finite double as an integer multiple of `2 ^ -1074`. -/
def scaled (negative : Bool) (mantissa : Nat) (exponent : Int) : Int :=
  let size : Int := (mantissa * twoTo (exponent + 1074).toNat : Nat)
  if negative then -size else size

/-- Numeric equality: zeros are equal, a number that is not a number equals nothing. -/
def eq : Binary64 → Binary64 → Bool
  | .finite n m e, .finite n' m' e' => scaled n m e == scaled n' m' e'
  | .infinite n, .infinite n' => n == n'
  | _, _ => false

/-- Numeric order. -/
def lt : Binary64 → Binary64 → Bool
  | .finite n m e, .finite n' m' e' => scaled n m e < scaled n' m' e'
  | .infinite n, .infinite n' => n && !n'
  | .infinite n, .finite .. => n
  | .finite .., .infinite n => !n
  | .nan, _ | _, .nan => false

/-- Numeric order or equality. -/
def le (x y : Binary64) : Bool := lt x y || eq x y

/-- Whether a number is at most an integer, compared exactly. -/
def leInt (x : Binary64) (n : Int) : Bool :=
  match x with
  | .nan => false
  | .infinite negative => negative
  | .finite negative mantissa exponent => scaled negative mantissa exponent ≤ n * twoTo 1074

/-- Whether an integer is at most a number, compared exactly. -/
def intLe (n : Int) (x : Binary64) : Bool :=
  match x with
  | .nan => false
  | .infinite negative => !negative
  | .finite negative mantissa exponent => n * twoTo 1074 ≤ scaled negative mantissa exponent

/-- Sum of two doubles. -/
def add : Binary64 → Binary64 → Binary64
  | .nan, _ | _, .nan => .nan
  | .infinite n, .infinite n' => if n == n' then .infinite n else .nan
  | .infinite n, _ | _, .infinite n => .infinite n
  | .finite n m e, .finite n' m' e' =>
      let sum := scaled n m e + scaled n' m' e'
      if sum = 0 then zero (n && n') else ofRatio (sum < 0) sum.natAbs (twoTo 1074)

/-- Product of two doubles. -/
def mul : Binary64 → Binary64 → Binary64
  | .nan, _ | _, .nan => .nan
  | .infinite n, .infinite n' => .infinite (n != n')
  | .infinite n, .finite n' m _ | .finite n' m _, .infinite n =>
      if m = 0 then .nan else .infinite (n != n')
  | .finite n m e, .finite n' m' e' =>
      ofRatio (n != n') ((scaled n m e).natAbs * (scaled n' m' e').natAbs) (twoTo 2148)

/-- The opposite number. -/
def neg : Binary64 → Binary64
  | .nan => .nan
  | .infinite n => .infinite (!n)
  | .finite n m e => .finite (!n) m e

/-- Whether a number is zero, of either sign. -/
def isZero : Binary64 → Bool
  | .finite _ m _ => m == 0
  | _ => false

/-- The integer that a finite number equals, if it is one. -/
def toInt? : Binary64 → Option Int
  | .finite n m e =>
      let size : Option Nat :=
        if e < 0 then
          if m % twoTo e.natAbs = 0 then some (m / twoTo e.natAbs) else none
        else some (m * twoTo e.toNat)
      size.map fun s => if n then -(s : Int) else s
  | _ => none

/-- The whole part of the magnitude of a number. -/
def wholePart : Binary64 → Nat
  | .finite _ m e => if e < 0 then m / twoTo e.natAbs else m * twoTo e.toNat
  | _ => 0

/-- Whether a number is finite. -/
def isFinite : Binary64 → Bool
  | .finite .. => true
  | _ => false

end Binary64

end Playbook
