import Telemetry.Text.Blank
import Telemetry.Power
import Telemetry.Text.Natural

/-!
# Durations

A duration is a number of nanoseconds. As text it is a number of seconds, or a number and a unit,
with no more milliseconds than fit 64 bits with a sign.
-/

namespace Telemetry

structure Duration where
  nanos : Int
  deriving DecidableEq, Repr

namespace Duration

def ofMilliseconds (n : Int) : Duration := ⟨n * 1000000⟩

/-- The milliseconds that are full. -/
def milliseconds (d : Duration) : Int := d.nanos / 1000000

/-- The longest duration in milliseconds, and the greatest number that is counted with. -/
def greatest : Nat := greatestOf 63

def ofMilliseconds? (n : Nat) : Option Duration :=
  if n ≤ greatest then some (.ofMilliseconds n) else none

/-- A number of seconds, compared before its milliseconds are counted. -/
def ofSeconds? (n : Nat) : Option Duration :=
  if n ≤ greatest / 1000 then some (.ofMilliseconds (n * 1000)) else none

/-- The product, unless it is too great to be counted with. -/
def times? (a b : Nat) : Option Nat :=
  if a * b ≤ greatest then some (a * b) else none

/-- An amount of a unit; no unit means seconds. -/
def ofAmount? (amount : Nat) : String → Option Duration
  | "ms" => ofMilliseconds? amount
  | "" | "s" => ofSeconds? amount
  | "m" => (times? amount 60).bind ofSeconds?
  | "h" => (times? amount 3600).bind ofSeconds?
  | "d" => (times? amount 86400).bind ofSeconds?
  | _ => none

/-- A number, an optional unit, and blanks around them. -/
def ofText? (s : String) : Option Duration :=
  let cs := Text.trimChars s.toList
  match Text.natural greatest (String.ofList (cs.takeWhile Char.isDigit)) with
  | .ok amount => ofAmount? amount (Text.trim (String.ofList (cs.dropWhile Char.isDigit)))
  | .error _ => none

end Duration

end Telemetry
