/-
# Wormhole.Lib.Scaling — amounts in units of different size.

An amount of a token with `d` decimals, in units of a token with `d'`: more decimals multiply, fewer divide and
drop the remainder.  Weighed with the other token's excess of decimals the two amounts are of one size, and the
converted one is never the larger (`scaled_mul_le`).
-/
import Mathlib

namespace Wormhole.Lib

/-- `amount` with `d` decimals, with `d'` decimals. -/
def scaled (d d' amount : Nat) : Nat := amount * 10 ^ (d' - d) / 10 ^ (d - d')

variable {d d' : Nat} (amount : Nat)

theorem scaled_of_ge (h : d' ≤ d) : scaled d d' amount = amount / 10 ^ (d - d') := by
  rw [scaled, Nat.sub_eq_zero_of_le h, pow_zero, Nat.mul_one]

theorem scaled_of_le (h : d ≤ d') : scaled d d' amount = amount * 10 ^ (d' - d) := by
  rw [scaled, Nat.sub_eq_zero_of_le h, pow_zero, Nat.div_one]

/-- **Converting loses at most the remainder.** -/
theorem scaled_mul_le (d d' amount : Nat) : scaled d d' amount * 10 ^ (d - d') ≤ amount * 10 ^ (d' - d) :=
  Nat.div_mul_le_self _ _

end Wormhole.Lib
