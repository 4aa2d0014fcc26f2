/-!
# Powers

Powers of two and of ten, the bases of binary and of decimal numbers.
-/

namespace Playbook

/-- A power of two. -/
def twoTo (exponent : Nat) : Nat := Nat.pow 2 exponent

/-- A power of ten. -/
def tenTo (exponent : Nat) : Nat := Nat.pow 10 exponent

theorem twoTo_add (a b : Nat) : twoTo (a + b) = twoTo a * twoTo b := Nat.pow_add 2 a b

theorem twoTo_succ (a : Nat) : twoTo (a + 1) = 2 * twoTo a := Nat.pow_succ'

theorem twoTo_pos (a : Nat) : 0 < twoTo a := Nat.two_pow_pos a

theorem twoTo_le {a b : Nat} (le : a ≤ b) : twoTo a ≤ twoTo b :=
  Nat.pow_le_pow_right (by decide) le

theorem tenTo_le {a b : Nat} (le : a ≤ b) : tenTo a ≤ tenTo b :=
  Nat.pow_le_pow_right (by decide) le

theorem twoTo_lt {a b : Nat} (lt : a < b) : twoTo a < twoTo b :=
  Nat.pow_lt_pow_right (by decide) lt

end Playbook
