import Telemetry.Configuration.Properties
import Telemetry.Notification.Basic

/-!
# Sinks that log notifications

A log sink writes every notification that is for it as a line of a log, with a level.
-/

namespace Telemetry

inductive Level
  | error
  | warn
  | info
  | debug
  | trace
  deriving DecidableEq, Repr

namespace Level

def name : Level → String
  | .error => "ERROR"
  | .warn => "WARN"
  | .info => "INFO"
  | .debug => "DEBUG"
  | .trace => "TRACE"

/-- A name in any case, with blanks around it. -/
def ofText (raw : String) : Except Reason Level :=
  match (Text.trim raw).toUpper with
  | "ERROR" => .ok .error
  | "WARN" => .ok .warn
  | "INFO" => .ok .info
  | "DEBUG" => .ok .debug
  | "TRACE" => .ok .trace
  | _ => .error .unknownLevel

end Level

structure LogLine where
  level : Level
  text : String
  deriving DecidableEq, Repr

structure LogSink where
  id : String
  level : Level
  deriving DecidableEq, Repr

namespace LogSink

def defaultLevel : Level := .info

def ofId (id : String) : LogSink := ⟨id, defaultLevel⟩

/-- Takes the level. It remains when other properties are in error. -/
def configure (s : LogSink) (p : Properties) : Except ConfigurationError Unit × LogSink :=
  let (level, p) := p.takeRead Level.ofText "level"
  match level with
  | .error e => (.error e, s)
  | .ok level => (p.confirmAllUsed, { s with level := level.getD defaultLevel })

/-- The lines for the notifications that are for the sink. -/
def lines (s : LogSink) (batch : List Notification) : List LogLine :=
  (batch.filter (·.isFor s.id)).map fun n => ⟨s.level, s.id ++ ": " ++ n.toJson.compact⟩

end LogSink

end Telemetry
