import Telemetry.Decimal.Binary

/-!
# The fewest digits that read back

`shortest` writes a double as `digits · 10^scale` with as few digits as let it be read back. Of
two such decimals the nearer is taken, and of two equally near ones that which `Tie` names.
-/

namespace Telemetry.Decimal

/-- `± digits · 10^scale`. -/
structure Scientific where
  negative : Bool
  digits : Nat
  scale : Int
  deriving DecidableEq, Repr

/-- What becomes of a number half-way between two decimals. -/
inductive Tie
  | away
  | toEven
  deriving DecidableEq, Repr

/-- `n / d` in units of `10^scale`: the fraction is multiplied out, not rounded. -/
def inUnits (n d : Nat) (scale : Int) : Nat × Nat :=
  (n * pow10 (-scale).toNat, d * pow10 scale.toNat)

/-- The number of decimal digits, none for zero. -/
def digitCount (n : Nat) : Nat := if n = 0 then 0 else Nat.log2 n * 1233 / 4096 + 1 +
  (if pow10 (Nat.log2 n * 1233 / 4096 + 1) ≤ n then 1 else 0)

/-- The `e` with `10^e ≤ n / d < 10^(e + 1)`, for positive fractions. -/
def magnitude (n d : Nat) : Int :=
  let e : Int := digitCount n - digitCount d
  let (num, den) := inUnits n d e
  if num < den then e - 1 else e

/-- The decimal on the grid `10^scale` that is nearest among those of the interval. -/
def onGrid (tie : Tie) (i : Interval) (scale : Int) : Option Nat :=
  let (num, den) := inUnits i.middle i.den scale
  let low := num / den
  let rest := num % den
  let has (k : Nat) : Bool :=
    if 0 ≤ scale then i.has (k * pow10 scale.toNat) 1 else i.has k (pow10 (-scale).toNat)
  match has low, has (low + 1) with
  | false, false => none
  | true, false => some low
  | false, true => some (low + 1)
  | true, true =>
    if 2 * rest < den then some low
    else if den < 2 * rest then some (low + 1)
    else match tie with
      | .away => some (low + 1)
      | .toEven => if low % 2 = 0 then some low else some (low + 1)

/-- Tries grids of one digit more each time; the last try always succeeds for doubles. -/
def search (tie : Tie) (i : Interval) (top : Int) : (tries digits : Nat) → Nat × Int
  | 0, _ => (0, 0)
  | tries + 1, digits =>
    let scale := top - digits
    match onGrid tie i scale with
    | some k => (k, scale)
    | none => search tie i top tries (digits + 1)

/-- Moves trailing zeros from the digits to the scale. -/
def dropZeros : (tries : Nat) → Nat × Int → Nat × Int
  | 0, p => p
  | tries + 1, (k, scale) =>
    if k ≠ 0 ∧ k % 10 = 0 then dropZeros tries (k / 10, scale + 1) else (k, scale)

/-- The fewest digits for a finite double; zero has the digit 0. -/
def shortest (tie : Tie) (b : Binary) : Scientific :=
  if b.mantissa = 0 then ⟨b.negative, 0, 0⟩
  else
    let i := b.interval
    let (k, scale) := dropZeros 20 (search tie i (magnitude i.middle i.den) 18 0)
    ⟨b.negative, k, scale⟩

end Telemetry.Decimal
