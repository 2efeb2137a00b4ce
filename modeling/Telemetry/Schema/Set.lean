import Telemetry.Schema.Basic

/-!
# Sets of schemas
-/

namespace Telemetry

abbrev Schemas := NameMap Schema

namespace Schemas

/-- Every block under `metrics.schema` is a schema. -/
def ofProperties (p : Properties) : Schemas :=
  let all := p.subset "metrics.schema"
  NameMap.ofList (all.ids.map fun id => (id, Schema.build id (all.subset id)))

/-- The metrics of a record by a list of schemas, one after the other. -/
def extractAll (now : Instant) (record : Json) :
    List Schema → Exceptions → List Metric × Exceptions
  | [], e => ([], e)
  | s :: rest, e =>
    let (first, e) := s.extract now record e
    let (more, e) := extractAll now record rest e
    (first ++ more, e)

/-- The metrics of a record by all schemas that have its source, in name order. -/
def extract (s : Schemas) (now : Instant) (source : String) (record : Json) (e : Exceptions) :
    List Metric × Exceptions :=
  extractAll now record (s.values.filter (·.hasSource source)) e

end Schemas

end Telemetry
