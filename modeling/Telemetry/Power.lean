/-!
# Powers of two and of ten

Bounds of integers that fit a number of bits, and the units of decimal places.
-/

namespace Telemetry

def pow2 (n : Nat) : Nat := Nat.pow 2 n

def pow10 (n : Nat) : Nat := Nat.pow 10 n

theorem pow2_pos (n : Nat) : 0 < pow2 n := Nat.pow_pos (by decide)

theorem pow10_pos (n : Nat) : 0 < pow10 n := Nat.pow_pos (by decide)

/-- The greatest integer of a number of bits. -/
def greatestOf (bits : Nat) : Nat := pow2 bits - 1

/-- Whether an integer fits a number of bits, one of which is the sign. -/
def fitsSigned (bits : Nat) (n : Int) : Bool :=
  -(pow2 (bits - 1) : Int) ≤ n && n < pow2 (bits - 1)

/-- The number, or one instead of zero. -/
def atLeastOne (n : Nat) : Nat := if n = 0 then 1 else n

theorem atLeastOne_pos (n : Nat) : 0 < atLeastOne n := by
  rw [atLeastOne]
  split <;> omega

end Telemetry
