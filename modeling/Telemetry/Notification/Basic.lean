import Telemetry.Metric

/-!
# Notifications

What a monitor has to say about a metric, and which sinks it is for.
-/

namespace Telemetry

structure Notification where
  timestamp : Instant
  monitor : String
  /-- The rule of the monitor that raised it. -/
  notificator : String
  /-- The attributes of the metric that raised it. -/
  attributes : Attributes
  reason : String
  /-- The names of the sinks it is for, sorted; without one it is for all. -/
  sinks : List String
  tags : NameMap String
  deriving DecidableEq, Repr

namespace Notification

/-- A notification about a metric, at its time. -/
def ofMetric (m : Metric) (monitor notificator reason : String) : Notification :=
  ⟨m.timestamp, monitor, notificator, m.attributes, reason, [], .empty⟩

def withSink (n : Notification) (sink : String) : Notification :=
  { n with sinks := NameMap.sortedNames (sink :: n.sinks) }

def withTag (n : Notification) (name text : String) : Notification :=
  { n with tags := n.tags.insert name text }

def isFor (n : Notification) (sink : String) : Bool := n.sinks.isEmpty || n.sinks.contains sink

/-- The notification on one line. -/
def text (n : Notification) : String :=
  "[" ++ n.timestamp.stamp "+00:00" ++ "] " ++ n.monitor ++ ":" ++ n.notificator ++ " " ++ n.reason

def toJson (n : Notification) : Json :=
  .object [("timestamp", .string n.timestamp.stored), ("monitor_id", .string n.monitor),
    ("notificator_id", .string n.notificator), ("metric_attributes", .ofTexts n.attributes),
    ("reason", .string n.reason), ("sink_ids", .array (n.sinks.map .string)),
    ("tags", .ofTexts n.tags)]

def ofWritten? (w : Written) : Option Notification := do
  match ← w.fields? ["timestamp", "monitor_id", "notificator_id", "metric_attributes", "reason",
      "sink_ids", "tags"] with
  | [some timestamp, some monitor, some notificator, some attributes, some reason, some sinks,
      some tags] =>
    return {
      timestamp := ← Instant.ofWritten? timestamp
      monitor := ← monitor.text?
      notificator := ← notificator.text?
      attributes := ← attributes.texts?
      reason := ← reason.text?
      sinks := NameMap.sortedNames (← sinks.list? Written.text?)
      tags := ← tags.texts? }
  | _ => none

end Notification

end Telemetry
