/-!
# Reading decimal numbers

The text of a number is read as digits and a scale and rounded once, to the nearest double,
ties to even. A magnitude beyond all doubles is infinite, one below all of them zero.
-/

namespace Telemetry.Decimal

/-- A run of digits as a number, with the length of the run. -/
structure Digits where
  value : Nat
  count : Nat
  deriving DecidableEq, Repr

def Digits.none : Digits := ⟨0, 0⟩

def Digits.push (d : Digits) (c : Char) : Digits :=
  ⟨10 * d.value + (c.toNat - '0'.toNat), d.count + 1⟩

/-- The digits at the head of a text, appended to `d`, and what follows them. -/
def takeDigits (d : Digits) : List Char → Digits × List Char
  | [] => (d, [])
  | c :: rest => if c.isDigit then takeDigits (d.push c) rest else (d, c :: rest)

theorem takeDigits_length (d : Digits) (cs : List Char) :
    (takeDigits d cs).2.length ≤ cs.length := by
  induction cs generalizing d with
  | nil => simp [takeDigits]
  | cons c rest ih =>
    rw [takeDigits]
    split
    · exact Nat.le_succ_of_le (ih _)
    · simp

theorem takeDigits_length_count (d : Digits) (cs : List Char) :
    (takeDigits d cs).2.length + (takeDigits d cs).1.count = cs.length + d.count := by
  induction cs generalizing d with
  | nil => simp [takeDigits]
  | cons c rest ih =>
    rw [takeDigits]
    split
    · rw [ih]; simp only [Digits.push, List.length_cons]; omega
    · rfl

/-- The double nearest to `value · 10^scale`. -/
def nearest (negative : Bool) (value : Nat) (scale : Int) : Float :=
  let magnitude :=
    if value = 0 then 0.0 else Float.ofScientific value (scale < 0) scale.natAbs
  if negative then -magnitude else magnitude

/-- Whether a sign in front makes the number negative, and the text without the sign. -/
def takeSign : List Char → Bool × List Char
  | '-' :: rest => (true, rest)
  | '+' :: rest => (false, rest)
  | rest => (false, rest)

theorem takeSign_length (cs : List Char) : (takeSign cs).2.length ≤ cs.length := by
  fun_cases takeSign cs <;> simp

/-- The exponent at the head of a text: its mark, an optional sign, and digits. -/
def takeExponent (cs : List Char) : Option (Int × List Char) :=
  match cs with
  | e :: rest =>
    let (negative, rest) := takeSign rest
    let (d, rest) := takeDigits .none rest
    if (e = 'e' ∨ e = 'E') ∧ d.count ≠ 0 then
      some (if negative then -(d.value : Int) else d.value, rest)
    else Option.none
  | [] => Option.none

theorem takeExponent_length {cs : List Char} {n : Int} {rest : List Char}
    (h : takeExponent cs = some (n, rest)) : rest.length ≤ cs.length := by
  cases cs with
  | nil => simp [takeExponent] at h
  | cons e tail =>
    simp only [takeExponent, Option.ite_none_right_eq_some, Option.some.injEq,
      Prod.mk.injEq] at h
    have := takeSign_length tail
    have := takeDigits_length .none (takeSign tail).2
    simp only [List.length_cons, ← h.2.2]
    omega

/-- The unsigned number that the whole text spells: digits, with a point before, among or
after them, and an exponent. -/
def unsigned? (negative : Bool) (cs : List Char) : Option Float := do
  let (whole, rest) := takeDigits .none cs
  let (all, rest) := match rest with
    | '.' :: r => takeDigits whole r
    | r => (whole, r)
  if all.count = 0 then Option.none
  let places : Int := all.count - whole.count
  if rest.isEmpty then return nearest negative all.value (-places)
  let (exponent, rest) ← takeExponent rest
  if rest.isEmpty then return nearest negative all.value (exponent - places)
  Option.none

/-- The double that a whole text spells: a number with an optional sign, or a word for what is
no number, in any case. -/
def read? (s : String) : Option Float :=
  let (negative, cs) := takeSign s.toList
  let word := String.ofList (cs.map Char.toLower)
  if word = "inf" ∨ word = "infinity" then
    some (if negative then -1.0 / 0.0 else 1.0 / 0.0)
  else if word = "nan" then some (0.0 / 0.0)
  else unsigned? negative cs

end Telemetry.Decimal
