import Telemetry.Decimal.Reading
import Telemetry.Json.Basic
import Telemetry.Power

/-!
# Numbers in JSON text

A number is cut from the head of a text as a numeral, that is as the digits that are written. An
integer is kept as such; which double any other numeral stands for, a reader says. Two are given:
one rounds once, to the nearest double, and is used wherever no other is named; the other one
calculates with doubles, and may miss the nearest double by a little.
-/

namespace Telemetry.Written

/-- A number as written. -/
structure Numeral where
  negative : Bool
  whole : Decimal.Digits
  fraction : Decimal.Digits
  exponent : Option Int
  deriving DecidableEq, Repr

/-- Says which double a numeral stands for; there is none for a number beyond the doubles. -/
class NumeralReader where
  double? : Numeral → Option Float

namespace Numeral

/-- The digits of a numeral, those of its fraction included. -/
def digits (n : Numeral) : Nat := n.whole.value * pow10 n.fraction.count + n.fraction.value

/-- The unit of the last digit. -/
def scale (n : Numeral) : Int := n.exponent.getD 0 - n.fraction.count

/-- The least and the greatest integers that are kept as such. -/
def leastInt : Int := -(pow2 63 : Nat)

def greatestInt : Int := greatestOf 64

/-- Without fraction and exponent a number is an integer, if it fits; a zero with a minus sign
does not. -/
def number? [NumeralReader] (n : Numeral) : Option Number :=
  let i : Int := if n.negative then -(n.whole.value : Int) else n.whole.value
  if n.fraction.count = 0 ∧ n.exponent = none ∧ leastInt ≤ i ∧ i ≤ greatestInt ∧
      ¬(n.negative ∧ n.whole.value = 0) then
    some (.int i)
  else (NumeralReader.double? n).map .double

/-! ## Readers -/

def nearest? (n : Numeral) : Option Float :=
  let x := Decimal.nearest n.negative n.digits n.scale
  if x.isInf then none else some x

instance : NumeralReader := ⟨nearest?⟩

/-- The digits one by one, zeros in front included. -/
def digitsOf (d : Decimal.Digits) : List Nat :=
  (List.range d.count).reverse.map fun i => d.value / pow10 i % 10

/-- Appends digits while the number fits 64 bits, and counts them. -/
def append (value : Nat) : List Nat → Nat × Nat
  | [] => (value, 0)
  | d :: rest =>
    if 10 * value + d ≤ greatestOf 64 then
      let (value, count) := append (10 * value + d) rest
      (value, count + 1)
    else (value, 0)

def powerOfTen (n : Nat) : Float := Float.ofScientific 1 false n

/-- The quotient by a power of ten, in steps of 308. -/
def divided (x : Float) (n : Nat) : Float :=
  Nat.repeat (· / powerOfTen 308) (n / 308) x / powerOfTen (n % 308)

/-- The double that calculating with doubles leads to. Digits beyond 64 bits are left out, the
others are rounded, and so is their product or quotient by a power of ten. -/
def calculated? (n : Numeral) : Option Float :=
  let (value, whole) := append 0 (digitsOf n.whole)
  let (value, places) := append value (digitsOf n.fraction)
  let scale : Int := n.exponent.getD 0 + ((n.whole.count : Int) - whole) - places
  let x := if value = 0 then 0.0
    else if scale < 0 then divided (.ofNat value) scale.natAbs
    else Float.ofNat value * powerOfTen scale.toNat
  if x.isInf then none else some (if n.negative then -x else x)

end Numeral

/-- The reader that calculates. -/
abbrev calculating : NumeralReader := ⟨Numeral.calculated?⟩

/-! ## Cutting numerals -/

def dropMinus : List Char → Bool × List Char
  | '-' :: rest => (true, rest)
  | rest => (false, rest)

/-- A point is followed by a digit. -/
def takeFraction : List Char → Option (Decimal.Digits × List Char)
  | '.' :: rest =>
    let (d, rest) := Decimal.takeDigits .none rest
    if d.count = 0 then none else some (d, rest)
  | rest => some (.none, rest)

/-- An exponent mark is followed by a digit, or by a sign and a digit. -/
def takeScale : List Char → Option (Option Int × List Char)
  | e :: rest =>
    if e = 'e' ∨ e = 'E' then
      (Decimal.takeExponent (e :: rest)).map fun (n, rest) => (some n, rest)
    else some (none, e :: rest)
  | [] => some (none, [])

/-- The number at the head of a text. A zero is not followed by a digit. -/
def takeNumeral (cs : List Char) : Option (Numeral × List Char) := do
  let (negative, cs) := dropMinus cs
  let (whole, rest) := Decimal.takeDigits .none cs
  if whole.count = 0 ∨ (1 < whole.count ∧ cs.head? = some '0') then none
  let (fraction, rest) ← takeFraction rest
  let (exponent, rest) ← takeScale rest
  return (⟨negative, whole, fraction, exponent⟩, rest)

theorem dropMinus_length (cs : List Char) : (dropMinus cs).2.length ≤ cs.length := by
  fun_cases dropMinus cs <;> simp

theorem takeFraction_length {cs : List Char} {d : Decimal.Digits} {rest : List Char}
    (h : takeFraction cs = some (d, rest)) : rest.length ≤ cs.length := by
  revert h
  fun_cases takeFraction cs with
  | case1 r d' r' heq hzero => simp
  | case2 r d' r' heq hpos =>
    intro h
    have := Decimal.takeDigits_length .none r
    simp only [Option.some.injEq, Prod.mk.injEq] at h
    simp only [heq, h.2] at this
    simp only [List.length_cons]
    omega
  | case3 =>
    intro h
    simp only [Option.some.injEq, Prod.mk.injEq] at h
    simp [h.2]

theorem takeScale_length {cs : List Char} {n : Option Int} {rest : List Char}
    (h : takeScale cs = some (n, rest)) : rest.length ≤ cs.length := by
  revert h
  fun_cases takeScale cs with
  | case1 e r hmark =>
    intro h
    obtain ⟨⟨k, q⟩, hkq, heq⟩ := Option.map_eq_some_iff.1 h
    simp only [Prod.mk.injEq] at heq
    have := Decimal.takeExponent_length hkq
    simp only [← heq.2]
    omega
  | case2 e r hmark => simp +contextual
  | case3 => simp +contextual

theorem takeNumeral_length {cs : List Char} {n : Numeral} {rest : List Char}
    (h : takeNumeral cs = some (n, rest)) : rest.length < cs.length := by
  have hminus := dropMinus_length cs
  have hdigits := Decimal.takeDigits_length_count .none (dropMinus cs).2
  simp only [takeNumeral, Option.bind_eq_bind] at h
  split at h
  · simp at h
  · simp only [Option.bind_eq_some_iff, Option.pure_def, Option.some.injEq,
      Prod.exists, Prod.mk.injEq] at h
    obtain ⟨d, q, hq, k, r, hr, _, rfl⟩ := h
    have := takeFraction_length hq
    have := takeScale_length hr
    simp only [Decimal.Digits.none] at *
    omega

end Telemetry.Written
