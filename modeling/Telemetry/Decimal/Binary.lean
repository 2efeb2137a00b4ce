import Telemetry.Power

/-!
# Doubles as exact fractions

A finite double is `± m · 2^q` with natural `m`. The module reads `m` and `q` off the bits, and
says which reals a double stands for: those nearer to it than to its two neighbours, the ends
of this interval included when `m` is even.
-/

namespace Telemetry.Decimal

/-- `± mantissa · 2^exponent`. -/
structure Binary where
  negative : Bool
  mantissa : Nat
  exponent : Int
  deriving DecidableEq, Repr

/-- The exponent of subnormal doubles, and the least of all. -/
def Binary.leastExponent : Int := -1074

def Binary.hiddenBit : Nat := pow2 52

/-- Infinities and NaN stand for no number. -/
def Binary.ofFloat? (x : Float) : Option Binary :=
  let bits : Nat := x.toBits.toNat
  let fraction := bits % pow2 52
  let biased : Nat := bits / pow2 52 % pow2 11
  let negative := bits / pow2 63 == 1
  if biased == 2047 then none
  else if biased == 0 then some ⟨negative, fraction, leastExponent⟩
  else some ⟨negative, hiddenBit + fraction, (biased : Int) - 1075⟩

/-- An interval of fractions `lower / den ..= upper / den`. -/
structure Interval where
  lower : Nat
  middle : Nat
  upper : Nat
  den : Nat
  closed : Bool
  deriving Repr

/-- The numbers that round to `b`, for `b ≠ 0`. Below a power of two the neighbour is half as
far. -/
def Binary.interval (b : Binary) : Interval :=
  let below := if b.mantissa == hiddenBit && b.exponent != leastExponent then 1 else 2
  let up := pow2 b.exponent.toNat
  { lower := (4 * b.mantissa - below) * up
    middle := 4 * b.mantissa * up
    upper := (4 * b.mantissa + 2) * up
    den := 4 * pow2 (-b.exponent).toNat
    closed := b.mantissa % 2 == 0 }

/-- Whether `n / d` rounds to the double that the interval belongs to. -/
def Interval.has (i : Interval) (n d : Nat) : Bool :=
  if i.closed then i.lower * d ≤ n * i.den && n * i.den ≤ i.upper * d
  else i.lower * d < n * i.den && n * i.den < i.upper * d

end Telemetry.Decimal
