import Telemetry.Definition.Set
import Telemetry.State.Store

/-!
# Updates of stored states

A metric updates the states of the groups that it belongs to, and each update may derive a metric.
A timeout removes a state, and so does a metric for a definition that is gone or in error.

States of different keys do not touch each other: an event reads and writes the state of its own
key only.
-/

namespace Telemetry

/-- What happens to a state. -/
inductive Event
  | metric (m : Metric)
  /-- No metric arrived for a time. -/
  | timeout
  deriving DecidableEq, Repr

namespace Store

/-- The stores that a metric updates. A state that is missing or cannot be read begins anew. -/
def current (s : Store) (key : StateKey) : Stores :=
  match s.held key with
  | .state stores => stores
  | .nothing | .unreadable => .empty

/-- Applies an event to the state of a key. -/
def apply (definitions : Definitions) (now : Instant) (s : Store) (key : StateKey)
    (event : Event) : Option Metric × Store :=
  match event, definitions.valid? key.definition with
  | .timeout, _ | .metric _, none => (none, s.erase key)
  | .metric m, some d =>
    let (updated, stores) := d.update (s.current key) m key.group.keys
    (d.derive? stores m key.group updated, s.put now key stores)

/-- Applies a metric to the states of several keys, one after the other. -/
def applyTo (definitions : Definitions) (now : Instant) (m : Metric) :
    Store → List StateKey → List Metric × Store
  | s, [] => ([], s)
  | s, key :: rest =>
    let (derived, s) := s.apply definitions now key (.metric m)
    let (more, s) := applyTo definitions now m s rest
    (derived.toList ++ more, s)

/-- Applies a metric to every state that it updates. -/
def process (definitions : Definitions) (now : Instant) (s : Store) (m : Metric) :
    List Metric × Store :=
  applyTo definitions now m s (definitions.keys m)

/-- Applies metrics in their order. -/
def processAll (definitions : Definitions) (now : Instant) :
    Store → List Metric → List Metric × Store
  | s, [] => ([], s)
  | s, m :: rest =>
    let (first, s) := s.process definitions now m
    let (more, s) := processAll definitions now s rest
    (first ++ more, s)

/-- Times out the states that are idle for longer than a time, and counts them. -/
def expire (definitions : Definitions) (now : Instant) (timeout : Duration) (s : Store) :
    Nat × Store :=
  let idle := s.idleKeys now timeout
  (idle.length, idle.foldl (fun s key => (s.apply definitions now key .timeout).2) s)

end Store

end Telemetry
