import Telemetry.Time.Pattern

/-!
# Time stamps

The standard form of an instant, `2024-03-10T01:02:03.5Z`, and its two readers. The strict reader
takes the standard form with any offset; the reader of stored stamps is free in padding, blanks and
the form of the offset, and takes any year.
-/

namespace Telemetry

namespace Instant

def padded (width n : Nat) : List Char :=
  let cs := Nat.toDigits 10 n
  List.replicate (width - cs.length) '0' ++ cs

/-- Years of four digits stand alone, others have a sign. -/
def yearChars (year : Int) : List Char :=
  let cs := padded 4 year.natAbs
  if 0 ≤ year ∧ year ≤ 9999 then cs else if year < 0 then '-' :: cs else '+' :: cs

/-- No fraction, or 3, 6 or 9 digits: the fewest that are exact. -/
def fractionChars (nanos : Nat) : List Char :=
  if nanos = 0 then []
  else if nanos % 1000000 = 0 then '.' :: padded 3 (nanos / 1000000)
  else if nanos % 1000 = 0 then '.' :: padded 6 (nanos / 1000)
  else '.' :: padded 9 nanos

/-- The stamp, with the given text for the offset zero. A leap second is second 60. -/
def stamp (zone : String) (i : Instant) : String :=
  let d := Calendar.date (i.seconds / secondsPerDay)
  let s := i.secondOfDay.toNat
  let leap := if i.isLeap then 1 else 0
  let nanos := i.nanos - leap * nanosPerSecond
  String.ofList (yearChars d.year ++ '-' :: padded 2 d.month ++ '-' :: padded 2 d.day ++
    'T' :: padded 2 (s / 3600) ++ ':' :: padded 2 (s / 60 % 60) ++
    ':' :: padded 2 (s % 60 + leap) ++ fractionChars nanos) ++ zone

/-- The stamp as it is stored. -/
def stored (i : Instant) : String := i.stamp "Z"

open TimePattern

/-- Numbers of fixed width, each behind its mark. -/
def fixedParts (cs : List Char) : List (Char × (Fields → Int → Option Fields)) → Fields →
    Option (Fields × List Char)
  | [], f => some (f, cs)
  | (mark, set?) :: more, f => do
    let rest ← takeLiteral [mark] cs
    let (n, rest) ← takeDigits 2 (some 2) rest
    fixedParts rest more (← set? f n)

def strictOffset : OffsetStyle := ⟨takeLiteral [':'], true, false⟩

/-- The greatest offset of the strict form. -/
def greatestOffset : Int := (23 * 60 + 59) * 60

/-- Reads the standard form: parts of fixed width, and an offset of hours and minutes. -/
def ofStamp? (s : String) : Option Instant := do
  let (year, rest) ← takeDigits 4 (some 4) s.toList
  let f ← Fields.Setters.year .empty year
  let (f, rest) ← fixedParts rest [('-', Fields.Setters.month), ('-', Fields.Setters.day)] f
  match rest with
  | [] => none
  | t :: rest =>
    if t ≠ 'T' ∧ t ≠ 't' ∧ t ≠ ' ' then none
    else
      let (hour, rest) ← takeDigits 2 (some 2) rest
      let f ← Fields.Setters.hour f hour
      let (f, rest) ← fixedParts rest
        [(':', Fields.Setters.minute), (':', Fields.Setters.second)] f
      let (f, rest) ← takeOptionalFraction takeFraction f rest
      let (n, rest) ← takeOffset strictOffset rest
      if rest.isEmpty ∧ -greatestOffset ≤ n ∧ n ≤ greatestOffset then
        (← Fields.Setters.offset f n).instant?
      else none

/-- Reads a stored stamp. -/
def ofStored? (s : String) : Option Instant := do
  let (f, rest) ← takeStandard .empty s.toList
  if (dropBlanks rest).isEmpty then f.instant? else none

end Instant

end Telemetry
