import Telemetry.Time.Instant
import Telemetry.Power

/-!
# Fields of a date and time

What a text says about a date and time: any of several fields, some of which determine others. A
field may be given twice only with one value. Fields *resolve* to an instant when they determine
a date and a time and none of them contradicts it.
-/

namespace Telemetry

/-- Why fields give no instant. -/
inductive FieldFault
  | insufficient
  | contradictory
  deriving DecidableEq, Repr

/-- A year, and the parts of one. -/
structure YearField where
  whole : Option Int
  century : Option Int
  ofCentury : Option Int
  deriving DecidableEq, Repr

def YearField.none : YearField := ⟨.none, .none, .none⟩

structure Fields where
  year : YearField
  isoYear : YearField
  quarter : Option Nat
  month : Option Nat
  day : Option Nat
  weekFromSunday : Option Nat
  weekFromMonday : Option Nat
  isoWeek : Option Nat
  /-- Monday is 0. -/
  weekday : Option Nat
  ordinal : Option Nat
  /-- 0 before noon, 1 from noon on. -/
  half : Option Nat
  hourOfHalf : Option Nat
  minute : Option Nat
  second : Option Nat
  nanos : Option Nat
  timestamp : Option Int
  /-- Seconds to the east. -/
  offset : Option Int
  deriving DecidableEq, Repr

namespace Fields

def empty : Fields :=
  ⟨.none, .none, none, none, none, none, none, none, none, none, none, none, none, none, none,
    none, none⟩

/-- A value for a field that has no other. -/
def agreed? {α : Type} [DecidableEq α] (old : Option α) (new : α) : Option (Option α) :=
  match old with
  | none => some (some new)
  | some x => if x = new then some (some x) else none

/-- The same for a value that is limited. -/
def limited? (least most : Int) (old : Option Nat) (new : Int) : Option (Option Nat) :=
  if least ≤ new ∧ new ≤ most then agreed? old new.toNat else none

def fits32 (n : Int) : Bool := fitsSigned 32 n

namespace Setters

def year (f : Fields) (n : Int) : Option Fields :=
  if fits32 n then (agreed? f.year.whole n).map fun x => { f with year.whole := x } else none

def century (f : Fields) (n : Int) : Option Fields :=
  if 0 ≤ n && fits32 n then
    (agreed? f.year.century n).map fun x => { f with year.century := x }
  else none

def yearOfCentury (f : Fields) (n : Int) : Option Fields :=
  if 0 ≤ n && n < 100 then
    (agreed? f.year.ofCentury n).map fun x => { f with year.ofCentury := x }
  else none

def isoYear (f : Fields) (n : Int) : Option Fields :=
  if fits32 n then (agreed? f.isoYear.whole n).map fun x => { f with isoYear.whole := x } else none

def isoYearOfCentury (f : Fields) (n : Int) : Option Fields :=
  if 0 ≤ n && n < 100 then
    (agreed? f.isoYear.ofCentury n).map fun x => { f with isoYear.ofCentury := x }
  else none

def quarter (f : Fields) (n : Int) : Option Fields :=
  (limited? 1 4 f.quarter n).map fun x => { f with quarter := x }

def month (f : Fields) (n : Int) : Option Fields :=
  (limited? 1 12 f.month n).map fun x => { f with month := x }

def day (f : Fields) (n : Int) : Option Fields :=
  (limited? 1 31 f.day n).map fun x => { f with day := x }

def weekFromSunday (f : Fields) (n : Int) : Option Fields :=
  (limited? 0 53 f.weekFromSunday n).map fun x => { f with weekFromSunday := x }

def weekFromMonday (f : Fields) (n : Int) : Option Fields :=
  (limited? 0 53 f.weekFromMonday n).map fun x => { f with weekFromMonday := x }

def isoWeek (f : Fields) (n : Int) : Option Fields :=
  (limited? 1 53 f.isoWeek n).map fun x => { f with isoWeek := x }

def weekday (f : Fields) (n : Int) : Option Fields :=
  (limited? 0 6 f.weekday n).map fun x => { f with weekday := x }

/-- Sunday is 0. -/
def daysFromSunday (f : Fields) (n : Int) : Option Fields :=
  if 0 ≤ n && n ≤ 6 then weekday f ((n + 6) % 7) else none

/-- Monday is 1. -/
def numberFromMonday (f : Fields) (n : Int) : Option Fields := weekday f (n - 1)

def ordinal (f : Fields) (n : Int) : Option Fields :=
  (limited? 1 366 f.ordinal n).map fun x => { f with ordinal := x }

def half (f : Fields) (n : Int) : Option Fields :=
  (limited? 0 1 f.half n).map fun x => { f with half := x }

def hour12 (f : Fields) (n : Int) : Option Fields :=
  if 1 ≤ n ∧ n ≤ 12 then
    (agreed? f.hourOfHalf (n % 12).toNat).map fun x => { f with hourOfHalf := x }
  else none

def hour (f : Fields) (n : Int) : Option Fields := do
  if n < 0 ∨ 23 < n then none
  else
    let f ← half f (n / 12)
    (agreed? f.hourOfHalf (n % 12).toNat).map fun x => { f with hourOfHalf := x }

def minute (f : Fields) (n : Int) : Option Fields :=
  (limited? 0 59 f.minute n).map fun x => { f with minute := x }

/-- Second 60 is a leap second. -/
def second (f : Fields) (n : Int) : Option Fields :=
  (limited? 0 60 f.second n).map fun x => { f with second := x }

def nanos (f : Fields) (n : Int) : Option Fields :=
  (limited? 0 999999999 f.nanos n).map fun x => { f with nanos := x }

def timestamp (f : Fields) (n : Int) : Option Fields :=
  (agreed? f.timestamp n).map fun x => { f with timestamp := x }

def offset (f : Fields) (n : Int) : Option Fields :=
  if fits32 n then (agreed? f.offset n).map fun x => { f with offset := x } else none

end Setters

/-! ## Dates -/

/-- The year that a whole year or its parts determine, if they do. Two digits alone stand for
1970 to 2069. -/
def yearOf (y : YearField) : Except FieldFault (Option Int) :=
  match y.whole, y.century, y.ofCentury with
  | whole, none, none => .ok whole
  | some whole, century, ofCentury =>
    if whole < 0 ∨ century.getD (whole / 100) ≠ whole / 100 ∨
        ofCentury.getD (whole % 100) ≠ whole % 100 then .error .contradictory
    else .ok (some whole)
  | none, some century, some r =>
    if fits32 (century * 100 + r) then .ok (some (century * 100 + r)) else .error .contradictory
  | none, none, some r => .ok (some (r + if r < 70 then 2000 else 1900))
  | none, some _, none => .error .insufficient

/-- A field that is not given agrees with everything. -/
def agrees {α : Type} [DecidableEq α] (field : Option α) (x : α) : Bool :=
  match field with
  | none => true
  | some y => y = x

/-- Parts of a year are given only for years from 0 on. -/
def YearField.agrees (y : YearField) (year : Int) : Bool :=
  Fields.agrees y.whole year &&
    (if 0 ≤ year then Fields.agrees y.century (year / 100) && Fields.agrees y.ofCentury (year % 100)
     else y.century = none && y.ofCentury = none)

def agreesDate (f : Fields) (n : Int) : Bool :=
  let d := Calendar.date n
  YearField.agrees f.year d.year && agrees f.month d.month && agrees f.day d.day

def agreesIsoWeek (f : Fields) (n : Int) : Bool :=
  let (year, week) := Calendar.isoWeek n
  YearField.agrees f.isoYear year && agrees f.isoWeek week && agrees f.weekday (Calendar.weekday n)

def agreesOrdinal (f : Fields) (n : Int) : Bool :=
  agrees f.ordinal (Calendar.ordinal n) && agrees f.weekFromSunday (Calendar.weekFrom 6 n) &&
    agrees f.weekFromMonday (Calendar.weekFrom 0 n)

def agreesQuarter (f : Fields) (n : Int) : Bool :=
  agrees f.quarter (((Calendar.date n).month - 1) / 3 + 1)

/-- The day with a weekday in a week of a year, when weeks begin on `first`. -/
def ofWeek? (year : Int) (week weekday first : Nat) : Option Int :=
  match Calendar.ofOrdinal? year 1 with
  | none => none
  | some newYear =>
    let firstStart := 1 + Calendar.daysSince first (Calendar.weekday newYear)
    let ordinal : Int := firstStart + ((week : Int) - 1) * 7 + Calendar.daysSince weekday first
    if ordinal ≤ 0 then none else Calendar.ofOrdinal? year ordinal.toNat

/-- The day that the fields determine. -/
def date (f : Fields) : Except FieldFault Int := do
  let year ← yearOf f.year
  let isoYear ← yearOf f.isoYear
  let found ← match year, isoYear, f with
    | some y, _, { month := some m, day := some d, .. } => pure (Calendar.ofDate? y m d)
    | some y, _, { ordinal := some o, .. } => pure (Calendar.ofOrdinal? y o)
    | some y, _, { weekFromSunday := some w, weekday := some d, .. } => pure (ofWeek? y w d 6)
    | some y, _, { weekFromMonday := some w, weekday := some d, .. } => pure (ofWeek? y w d 0)
    | _, some y, { isoWeek := some w, weekday := some d, .. } =>
      pure (Calendar.ofIsoWeek? y w d)
    | _, _, _ => throw .insufficient
  match found with
  | none => throw .contradictory
  | some n =>
    if f.agreesDate n && f.agreesIsoWeek n && f.agreesOrdinal n && f.agreesQuarter n then pure n
    else throw .contradictory

/-! ## Times of day -/

/-- The second of the day and the nanoseconds. Seconds may be left out, and then nanoseconds
must be too. -/
def time (f : Fields) : Except FieldFault (Nat × Nat) :=
  match f.half, f.hourOfHalf, f.minute with
  | some half, some hour, some minute =>
    let (second, leap) := match f.second.getD 0 with
      | 60 => (59, 1000000000)
      | s => (s, 0)
    match f.second, f.nanos with
    | none, some _ => .error .insufficient
    | _, nanos => .ok ((half * 12 + hour) * 3600 + minute * 60 + second, leap + nanos.getD 0)
  | _, _, _ => .error .insufficient

/-! ## Instants -/

/-- Local time: seconds on the local clock. -/
abbrev Local := Instant

def localOf (day : Int) (time : Nat × Nat) : Local := ⟨day * 86400 + time.1, time.2⟩

/-- The fields that a timestamp determines, added to those given. -/
def withTimestamp? (f : Fields) (seconds : Int) : Option Fields := do
  let start ← Instant.ofParts? seconds 0
  let leap := f.second = some 60
  let s := start.seconds % 60
  if leap && s ≠ 59 && s ≠ 0 then none
  else
    let seconds := if leap && s = 0 then start.seconds - 1 else start.seconds
    let day := seconds / 86400
    let f ← if leap then some f else Setters.second f (seconds % 60)
    let f ← Setters.year f (Calendar.yearOf day)
    let f ← Setters.ordinal f (Calendar.ordinal day)
    let f ← Setters.hour f (seconds % 86400 / 3600)
    Setters.minute f (seconds % 3600 / 60)

/-- The local time that the fields determine, at an offset from universal time. -/
def localTime? (f : Fields) (offset : Int) : Option Local :=
  match f.date, f.time, f.timestamp with
  | .ok day, .ok time, given =>
    let found := localOf day time
    let expected := found.seconds - offset
    match given with
    | some t => if t = expected ∨ (found.isLeap ∧ t = expected + 1) then some found else none
    | none => some found
  | .error .contradictory, _, _ | _, .error .contradictory, _ => none
  | _, _, none => none
  | _, _, some t => do
    let f ← f.withTimestamp? (t + offset)
    match f.date, f.time with
    | .ok day, .ok time => some (localOf day time)
    | _, _ => none

/-- The instant that fields with an offset determine; a timestamp needs no offset. -/
def instant? (f : Fields) : Option Instant := do
  let offset ← f.offset.or (f.timestamp.map fun _ => 0)
  let found ← f.localTime? offset
  if -86400 < offset ∧ offset < 86400 then Instant.ofParts? (found.seconds - offset) found.nanos
  else none

/-- The instant that fields determine whose times are universal. -/
def universal? (f : Fields) : Option Instant := f.localTime? 0

end Fields

end Telemetry
