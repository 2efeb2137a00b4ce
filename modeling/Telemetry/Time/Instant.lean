import Telemetry.Time.Calendar
import Telemetry.Time.Duration

/-!
# Instants

A point of universal time: seconds since 1970-01-01 and nanoseconds. During a leap second the
seconds stand still and the nanoseconds run on, up to two seconds.

Instants are limited to the years of the calendar, so arithmetic on them may fail.
-/

namespace Telemetry

structure Instant where
  seconds : Int
  nanos : Nat
  deriving DecidableEq, Repr

namespace Instant

def nanosPerSecond : Nat := 1000000000

def secondsPerDay : Nat := 86400

/-- The first second of the first year, and the last of the last. -/
def leastSeconds : Int := -8334601228800

def greatestSeconds : Int := 8210266876799

def epoch : Instant := ⟨0, 0⟩

def least : Instant := ⟨leastSeconds, 0⟩

def greatest : Instant := ⟨greatestSeconds, 999999999⟩

/-- Order of time, with leap seconds after the second that they lengthen. -/
def before (a b : Instant) : Bool :=
  a.seconds < b.seconds || (a.seconds = b.seconds && a.nanos < b.nanos)

/-- The instant with the given parts, if it is within the calendar. -/
def ofParts? (seconds : Int) (nanos : Nat) : Option Instant :=
  if leastSeconds ≤ seconds ∧ seconds ≤ greatestSeconds ∧ nanos < 2 * nanosPerSecond then
    some ⟨seconds, nanos⟩
  else none

def ofMillis? (ms : Int) : Option Instant :=
  ofParts? (ms / 1000) ((ms % 1000).toNat * 1000000)

def isLeap (i : Instant) : Bool := nanosPerSecond ≤ i.nanos

def secondOfDay (i : Instant) : Int := i.seconds % secondsPerDay

/-! ## Arithmetic -/

/-- `i` moved by a number of nanoseconds. A move within a leap second stays in it; one that leaves
it counts the leap second as the second it lengthens or as the next. -/
def add? (i : Instant) (ns : Int) : Option Instant :=
  let more := ns.tdiv nanosPerSecond
  let part := ns.tmod nanosPerSecond
  let nanos : Int := i.nanos
  if i.isLeap ∧ ¬(more > 0 ∨ (part > 0 ∧ 2 * nanosPerSecond - part ≤ nanos)) ∧ ¬more < 0 then
    ofParts? i.seconds (nanos + part).toNat
  else
    let (seconds, nanos) :=
      if i.isLeap then
        (if more < 0 then i.seconds + 1 else i.seconds, nanos - nanosPerSecond)
      else (i.seconds, nanos)
    let total := nanos + part
    ofParts? (seconds + more + total / nanosPerSecond) (total % nanosPerSecond).toNat

/-- The nanoseconds from `b` to `a`. A leap second counts when the times of day are on either
side of it. -/
def minus (a b : Instant) : Int :=
  let extra : Int :=
    if b.secondOfDay < a.secondOfDay ∧ b.isLeap then 1
    else if a.secondOfDay < b.secondOfDay ∧ a.isLeap then -1
    else 0
  (a.seconds - b.seconds + extra) * nanosPerSecond + ((a.nanos : Int) - b.nanos)

end Instant

def Instant.later? (i : Instant) (d : Duration) : Option Instant := i.add? d.nanos

def Instant.earlier? (i : Instant) (d : Duration) : Option Instant := i.add? (-d.nanos)

end Telemetry
