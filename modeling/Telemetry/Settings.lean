import Telemetry.Json.Field
import Telemetry.Json.Printer
import Telemetry.Time.Duration

/-!
# Settings of an engine

How long failures and idle states are remembered, and how many series. Schemas and definitions are
configured by properties instead.

Settings are a document in which everything may be left out.
-/

namespace Telemetry

structure ExceptionSettings where
  /-- The window of repeated failures, in milliseconds. -/
  windowMillis : Nat := 60000
  deriving DecidableEq, Repr

structure StateSettings where
  /-- How long a state may stay idle, in milliseconds. -/
  timeoutMillis : Nat := 3600000
  /-- How many series a variable remembers if its configuration does not say. -/
  maxSeries : Nat := 10000
  deriving DecidableEq, Repr

structure Settings where
  exceptions : ExceptionSettings := {}
  state : StateSettings := {}
  deriving DecidableEq, Repr

namespace Settings

/-- A field that may be left out. -/
def fieldOr {α : Type} (other : α) (read? : Written → Option α) (field : Option Written) :
    Option α :=
  match field with
  | some w => read? w
  | none => some other

/-- The bound of the numbers in settings. -/
def greatestNumber : Nat := greatestOf 64

def number? (w : Written) : Option Nat := w.natural?.filter (· ≤ greatestNumber)

def exceptions? (w : Written) : Option ExceptionSettings := do
  let d : ExceptionSettings := {}
  match ← w.fields? ["window_ms"] with
  | [window] => return { windowMillis := ← fieldOr d.windowMillis number? window }
  | _ => none

def state? (w : Written) : Option StateSettings := do
  let d : StateSettings := {}
  match ← w.fields? ["timeout_ms", "max_series"] with
  | [timeout, maxSeries] =>
    return { timeoutMillis := ← fieldOr d.timeoutMillis number? timeout
             maxSeries := ← fieldOr d.maxSeries number? maxSeries }
  | _ => none

def ofWritten? (w : Written) : Option Settings := do
  match ← w.fields? ["exceptions", "state"] with
  | [exceptions, state] =>
    return { exceptions := ← fieldOr {} exceptions? exceptions
             state := ← fieldOr {} state? state }
  | _ => none

def ofText? (text : String) : Option Settings := (Written.read? text).bind ofWritten?

def natural (n : Nat) : Json := .number (.int n)

def toJson (s : Settings) : Json :=
  .object [
    ("exceptions", .object [("window_ms", natural s.exceptions.windowMillis)]),
    ("state", .object [("timeout_ms", natural s.state.timeoutMillis),
      ("max_series", natural s.state.maxSeries)])]

def text (s : Settings) : String := s.toJson.indented

/-- A number of milliseconds, or the longest duration if it is too great for one. -/
def duration (millis : Nat) : Duration := .ofMilliseconds (min millis Duration.greatest)

def window (s : Settings) : Duration := duration s.exceptions.windowMillis

def timeout (s : Settings) : Duration := duration s.state.timeoutMillis

end Settings

end Telemetry
