import Telemetry.Filter
import Telemetry.Time.Stamp

/-!
# Metrics

A metric is a value at an instant, with named attributes. Some attributes have names of their own:
they say which schema or definition a metric comes from, and which value of its schema it is.
-/

namespace Telemetry

structure Metric where
  timestamp : Instant
  value : Value
  attributes : Attributes
  deriving DecidableEq, Repr

namespace Metric

/-- The schema or the definition that a metric comes from. -/
def schemaAttribute : String := "$schema"

/-- The value of its schema that a metric is. -/
def valueAttribute : String := "$value"

/-- The definition that a metric is derived by. -/
def definitionAttribute : String := "$defined_metric"

def attribute? (m : Metric) (name : String) : Option String := m.attributes.get? name

def hasSchema (m : Metric) : Bool := m.attributes.contains schemaAttribute

def toJson (m : Metric) : Json :=
  .object [("timestamp", .string m.timestamp.stored), ("value", m.value.toJson),
    ("attributes", .ofTexts m.attributes)]

end Metric

/-- The instant of a stored stamp. -/
def Instant.ofWritten? (w : Written) : Option Instant := w.text?.bind Instant.ofStored?

def Metric.ofWritten? (w : Written) : Option Metric := do
  match ← w.fields? ["timestamp", "value", "attributes"] with
  | [some timestamp, some value, some attributes] =>
    return ⟨← Instant.ofWritten? timestamp, ← Value.ofWritten? value, ← attributes.texts?⟩
  | _ => none

end Telemetry
