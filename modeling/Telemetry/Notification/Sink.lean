import Telemetry.Configuration.Registry
import Telemetry.Notification.Log
import Telemetry.Notification.Memory

/-!
# Sinks

A sink is of one of several kinds, which its configuration chooses.
-/

namespace Telemetry

inductive Sink
  | log (s : LogSink)
  | memory (s : MemorySink)
  deriving Repr

namespace Sink

def id : Sink → String
  | .log s => s.id
  | .memory s => s.id

/-- Delivers a batch: whether it failed, what it logged, and the sink after it. -/
def notify (s : Sink) (batch : List Notification) : Option DeliveryError × List LogLine × Sink :=
  match s with
  | .log s => (none, s.lines batch, .log s)
  | .memory s =>
    match s.notify batch with
    | (.ok _, s) => (none, [], .memory s)
    | (.error (e, _), s) => (some e, [], .memory s)

def buildLog : Builder Sink := fun id p =>
  let (result, s) := (LogSink.ofId id).configure p
  result.map fun _ => .log s

def buildMemory : Builder Sink := fun id p =>
  let (result, s) := (MemorySink.ofId id).configure p
  result.map fun _ => .memory s

/-- The kinds of sinks that are always there. -/
def standard : Registry Sink :=
  (Registry.register .empty "log" buildLog).register "memory" buildMemory

end Sink

end Telemetry
