import Telemetry.Definition.Basic
import Telemetry.Exceptions

/-!
# Sets of definitions

The definitions of a configuration, by name. Definitions in error are not seen by metrics; each
reports its error as a metric, unless it did so a moment ago.
-/

namespace Telemetry

abbrev Definitions := NameMap Definition

namespace Definitions

/-- Of several definitions with one name the last is kept. -/
def ofDefinitions (l : List Definition) : Definitions := .ofList (l.map fun d => (d.name, d))

/-- Builds every definition from `metrics.define.<name>`. -/
def ofProperties (p : Properties) (maxSeries : Nat) : Definitions :=
  let all := p.subset "metrics.define"
  ofDefinitions (all.ids.map fun name => .build name (all.subset name) maxSeries)

/-- The definition with the given name, if it derives metrics. -/
def valid? (s : Definitions) (name : String) : Option Definition :=
  (s.get? name).filter Definition.isValid

/-- The states that a metric updates, at most one for each definition. -/
def keys (s : Definitions) (m : Metric) : List StateKey := s.values.filterMap (·.key? m)

/-- The metrics that report the errors of the given definitions. -/
def raiseErrors (now time : Instant) : List Definition → Exceptions → List Metric × Exceptions
  | [], e => ([], e)
  | d :: rest, e =>
    match d.error with
    | none => raiseErrors now time rest e
    | some error =>
      let (first, e) := e.raise now (Owner.definition.key d.name) error.message time
        (Definition.withProducer d.name .empty)
      let (more, e) := raiseErrors now time rest e
      (first ++ more, e)

/-- The metrics that report definitions in error, with the given time. -/
def errors (s : Definitions) (now time : Instant) (e : Exceptions) : List Metric × Exceptions :=
  raiseErrors now time s.values e

end Definitions

end Telemetry
