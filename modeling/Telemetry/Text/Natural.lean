/-!
# Unsigned integers in text

A number is one or more ASCII digits, with an optional plus sign in front.
-/

namespace Telemetry.Text

/-- Why a text is not an unsigned integer within its bound. -/
inductive NaturalError
  | empty
  | invalidDigit
  | tooLarge
  deriving DecidableEq, Repr

def NaturalError.message : NaturalError → String
  | .empty => "cannot parse integer from empty string"
  | .invalidDigit => "invalid digit found in string"
  | .tooLarge => "number too large to fit in target type"

def digit? (c : Char) : Option Nat :=
  if '0' ≤ c ∧ c ≤ '9' then some (c.toNat - '0'.toNat) else none

/-- Reads digits from the left; the first fault met is the one reported. -/
def readDigits (bound : Nat) : Nat → List Char → Except NaturalError Nat
  | n, [] => .ok n
  | n, c :: rest =>
    match digit? c with
    | none => .error .invalidDigit
    | some d =>
      if 10 * n + d ≤ bound then readDigits bound (10 * n + d) rest else .error .tooLarge

/-- The number that the whole text spells, at most `bound`. -/
def natural (bound : Nat) (s : String) : Except NaturalError Nat :=
  match s.toList with
  | [] => .error .empty
  | ['+'] => .error .invalidDigit
  | '+' :: rest => readDigits bound 0 rest
  | cs => readDigits bound 0 cs

end Telemetry.Text
