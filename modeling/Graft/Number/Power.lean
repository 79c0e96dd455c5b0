/-!
# Powers of two and of ten

The scales on which numbers are written down: bits and decimal digits.
-/

namespace Graft

/-- A power of two. -/
def pow2 (n : Nat) : Nat := Nat.pow 2 n

/-- A power of ten. -/
def pow10 (n : Nat) : Nat := Nat.pow 10 n

/-- A further bit doubles. -/
theorem pow2_succ (n : Nat) : pow2 (n + 1) = 2 * pow2 n := Nat.pow_succ'

/-- Every power of two is positive. -/
theorem pow2_pos (n : Nat) : 0 < pow2 n := Nat.pow_pos (by decide)

end Graft
