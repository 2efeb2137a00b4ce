import Telemetry.Configuration.Properties
import Telemetry.Schema.Extraction
import Telemetry.Time.Stamp

/-!
# The time of a record

Where a record says its time, and how: as a count of milliseconds or seconds since 1970, as a
stamp, or by a pattern.
-/

namespace Telemetry

inductive TimestampFormat
  /-- Numbers are milliseconds; texts are stamps, or else milliseconds. -/
  | auto
  | epochMillis
  | epochSeconds
  | stamp
  | pattern (text : String)
  deriving DecidableEq, Repr

namespace TimestampFormat

def text : TimestampFormat → String
  | .auto => "auto"
  | .epochMillis => "epoch-ms"
  | .epochSeconds => "epoch-s"
  | .stamp => "rfc3339"
  | .pattern text => text

/-- A name of a format, or else a pattern. -/
def ofText (raw : String) : Except Reason TimestampFormat :=
  match Text.trim raw with
  | "auto" => .ok .auto
  | "epoch-ms" => .ok .epochMillis
  | "epoch-s" => .ok .epochSeconds
  | "rfc3339" => .ok .stamp
  | text =>
    if (TimePattern.items? text.toList).isSome then .ok (.pattern text)
    else .error .badTimePattern

/-- The integer that a whole text spells, if it fits 64 bits with a sign. -/
def integer? (raw : String) : Option Int :=
  let (negative, cs) := Decimal.takeSign raw.toList
  let (d, rest) := Decimal.takeDigits .none cs
  let n : Int := if negative then -(d.value : Int) else d.value
  if d.count ≠ 0 ∧ rest.isEmpty ∧ fitsSigned 64 n then some n else none

def finite? (raw : String) : Option Float := (Decimal.read? raw).filter Float.isFinite

/-- The instant of a number of milliseconds, rounded away from zero at one half. -/
def ofRounded? (ms : Float) : Option Instant := Instant.ofMillis? ms.round.toInt64.toInt

def ofMillis? (raw : String) : Option Instant :=
  match integer? raw with
  | some ms => Instant.ofMillis? ms
  | none => (finite? raw).bind ofRounded?

def ofSeconds? (raw : String) : Option Instant :=
  (finite? raw).bind fun s => ofRounded? (s * 1000)

def isNumber : Json → Bool
  | .number _ => true
  | _ => false

/-- The instant that an element with the given text stands for. -/
def read? (f : TimestampFormat) (element : Json) (raw : String) : Option Instant :=
  match f with
  | .auto => if isNumber element then ofMillis? raw else (Instant.ofStamp? raw).or (ofMillis? raw)
  | .epochMillis => ofMillis? raw
  | .epochSeconds => ofSeconds? raw
  | .stamp => Instant.ofStamp? raw
  | .pattern text => (TimePattern.items? text.toList).bind fun items => TimePattern.read? items raw

end TimestampFormat

/-- Where and how a record says its time. -/
structure TimestampSource where
  key : String
  format : TimestampFormat
  deriving DecidableEq, Repr

namespace TimestampSource

def default : TimestampSource := ⟨"timestamp", .auto⟩

def ofProperties (p : Properties) : Except ConfigurationError TimestampSource := do
  let (key, p) := p.take "key"
  let (format, p) := p.takeRead TimestampFormat.ofText "format"
  let format ← format
  p.confirmAllUsed
  return ⟨key.getD default.key, format.getD default.format⟩

def extract (s : TimestampSource) (record : Json) : Except ExtractionError Instant :=
  match record.element? s.key with
  | none => .error (.missingKey s.key)
  | some element =>
    match element.scalar? with
    | none => .error (.notScalar s.key)
    | some raw =>
      match s.format.read? element raw with
      | none => .error (.invalidTimestamp s.key raw s.format.text)
      | some t => .ok t

end TimestampSource

end Telemetry
