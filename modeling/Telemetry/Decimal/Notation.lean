import Telemetry.Decimal.Shortest

/-!
# Layouts of decimal numbers

A layout says how the digits of a double are set out: which magnitudes are written with an
exponent, whether a whole number keeps a fraction, and what stands for the values that are no
numbers. The digits are the fewest that read back.
-/

namespace Telemetry.Decimal

/-- How a double is set out. -/
structure Layout where
  /-- The magnitudes (powers of ten of the first digit) that need no exponent. -/
  positional : Int → Bool
  /-- A whole number ends in `.0`, unless it has an exponent. -/
  keepFraction : Bool
  /-- A positive exponent has a plus sign. -/
  plusSign : Bool
  tie : Tie

/-- Never an exponent, and no fraction that is zero. -/
def Layout.plain : Layout := ⟨fun _ => true, false, false, .away⟩

/-- An exponent below 0.0001 and from 10^16 on. -/
def Layout.explicit : Layout := ⟨fun e => -4 ≤ e && e < 16, true, false, .away⟩

/-- An exponent with its sign below 0.00001 and from 10^16 on. -/
def Layout.document : Layout := ⟨fun e => -5 ≤ e && e < 16, true, true, .toEven⟩

def decimalDigits (n : Nat) : List Char := Nat.toDigits 10 n

/-- Puts the point before the last `places` digits. -/
def withPoint (digits : List Char) (places : Nat) : List Char :=
  let digits := List.replicate (places + 1 - digits.length) '0' ++ digits
  digits.take (digits.length - places) ++ '.' :: digits.drop (digits.length - places)

/-- The digits of a number, without its sign. -/
def Layout.body (l : Layout) (digits : Nat) (scale : Int) : List Char :=
  let cs := decimalDigits digits
  let magnitude := scale + cs.length - 1
  if digits = 0 || l.positional magnitude then
    if 0 ≤ scale then
      cs ++ List.replicate scale.toNat '0' ++ (if l.keepFraction then ['.', '0'] else [])
    else withPoint cs (-scale).toNat
  else
    let mantissa := match cs with
      | first :: second :: rest => first :: '.' :: second :: rest
      | short => short
    let exponent := decimalDigits magnitude.natAbs
    mantissa ++ 'e' ::
      (if magnitude < 0 then '-' :: exponent
       else if l.plusSign then '+' :: exponent else exponent)

def Layout.render (l : Layout) (x : Float) : String :=
  match Binary.ofFloat? x with
  | some b =>
    let s := shortest l.tie b
    let body := l.body s.digits s.scale
    String.ofList (if s.negative then '-' :: body else body)
  | none => if x.isNaN then "NaN" else if x < 0 then "-inf" else "inf"

/-- The plain layout: `-0`, `0.1`, `1000`. -/
def plain (x : Float) : String := Layout.plain.render x

end Telemetry.Decimal
