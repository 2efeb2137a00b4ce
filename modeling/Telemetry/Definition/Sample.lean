import Telemetry.Metric

/-!
# What variables remember

A variable remembers the last sample of its group, or the last sample of each series of it. The
states of all variables of one group are stored together as a document.

*View*: `Stores.toJson` writes and `Stores.ofWritten?` reads what is stored.
-/

namespace Telemetry

/-- A value and when it was measured. -/
structure Sample where
  timestamp : Instant
  value : Value
  deriving DecidableEq, Repr

namespace Sample

def ofMetric (m : Metric) : Sample := ⟨m.timestamp, m.value⟩

/-- Whether the sample is not older than the start of a window; without a start nothing is. -/
def isLive (s : Sample) (start : Option Instant) : Bool :=
  match start with
  | some t => !s.timestamp.before t
  | none => true

def toJson (s : Sample) : Json :=
  .object [("timestamp", .string s.timestamp.stored), ("value", s.value.toJson)]

def ofWritten? (w : Written) : Option Sample := do
  match ← w.fields? ["timestamp", "value"] with
  | [some timestamp, some value] =>
    return ⟨← Instant.ofWritten? timestamp, ← Value.ofWritten? value⟩
  | _ => none

end Sample

inductive VariableState
  | last (s : Sample)
  /-- The last sample of each series, by the key of the series. -/
  | series (samples : NameMap Sample)
  deriving DecidableEq, Repr

namespace VariableState

def toJson : VariableState → Json
  | .last s => .object [("last", s.toJson)]
  | .series samples => .object [("series", .ofMap Sample.toJson samples)]

/-- An object with one member, which names the kind of the state. -/
def ofWritten? : Written → Option VariableState
  | .object [(some "last", s)] => (Sample.ofWritten? s).map .last
  | .object [(some "series", samples)] => (samples.map? Sample.ofWritten?).map .series
  | _ => none

end VariableState

/-- The states of the variables of a group, by the name of the variable. -/
abbrev Stores := NameMap VariableState

namespace Stores

def toJson (s : Stores) : Json := .ofMap VariableState.toJson s

def ofWritten? : Written → Option Stores := Written.map? VariableState.ofWritten?

def text (s : Stores) : String := s.toJson.compact

def ofText? [Written.NumeralReader] (text : String) : Option Stores :=
  (Written.read? text).bind ofWritten?

/-- The text in UTF-8. -/
def bytes (s : Stores) : ByteArray := s.text.toUTF8

def ofBytes? [Written.NumeralReader] (bytes : ByteArray) : Option Stores :=
  (String.fromUTF8? bytes).bind ofText?

end Stores

end Telemetry
