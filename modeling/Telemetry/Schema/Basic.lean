import Telemetry.Exceptions
import Telemetry.Schema.Attribute
import Telemetry.Schema.Timestamp
import Telemetry.Schema.ValueSource

/-!
# Schemas

A schema makes metrics from the records of its sources. It never fails: an error of its
configuration, and an error of a record, becomes a metric that carries the error, unless the same
error was let through a moment ago.
-/

namespace Telemetry

structure Schema where
  id : String
  sources : List String
  fixed : Attributes
  keyed : List (String × String)
  patterned : List PatternRule
  timestamp : TimestampSource
  values : List ValueSource
  filter : Filter
  error : Option ConfigurationError

namespace Schema

/-- The attributes that a schema gives before any rule. -/
def ownAttributes (id : String) : Attributes := NameMap.empty.insert Metric.schemaAttribute id

def unconfigured (id : String) : Schema :=
  ⟨id, [], ownAttributes id, [], [], .default, [], .all, none⟩

/-! ## Configuration -/

/-- What the properties of a schema say, section by section. -/
structure Sections where
  sources : Except ConfigurationError (List String)
  timestamp : Except ConfigurationError TimestampSource
  values : List (Except ConfigurationError ValueSource)
  /-- A schema without values is in error. -/
  anyValues : Except ConfigurationError Unit
  attributes : List (Except ConfigurationError AttributeRule)
  filter : Except ConfigurationError Filter
  left : Except ConfigurationError Unit

def Sections.ofProperties (p : Properties) : Sections :=
  let (sources, p) := p.takeRequired "sources"
  let (timestamp, p) := p.takeSubset "timestamp"
  let (values, p) := p.takeSubset "value"
  let (attributes, p) := p.takeSubset "attributes"
  let (filter, p) := p.takeSubset "filter"
  { sources := sources.map Text.words
    timestamp := inBlock "timestamp" (TimestampSource.ofProperties timestamp)
    values := values.ids.map fun id =>
      inBlock ("value." ++ id) (ValueSource.ofProperties id (values.subset id))
    anyValues := if values.isEmpty then .error (.missing "value") else .ok ()
    attributes := attributes.entries.map fun e => AttributeRule.ofText e.1 e.2
    filter := inBlock "filter" (Filter.ofProperties filter)
    left := p.confirmAllUsed }

/-- All errors, in the order of the sections. -/
def Sections.errors (s : Sections) : List ConfigurationError :=
  faults s.sources ++ faults s.timestamp ++ s.values.flatMap faults ++ faults s.anyValues ++
    s.attributes.flatMap faults ++ faults s.filter ++ faults s.left

def Sections.rules (s : Sections) : List AttributeRule := s.attributes.filterMap Except.toOption

/-- Takes over every section that could be read. The fixed attributes are taken over only if all
could. -/
def configure (s : Schema) (p : Properties) : Except ConfigurationError Unit × Schema :=
  let sections := Sections.ofProperties p
  let result := ConfigurationError.collect sections.errors
  let own := ownAttributes s.id
  let fixed := sections.rules.foldl (fun (m : Attributes) r => match r with
    | .fixed name text => m.insert name text
    | _ => m) own
  (result,
    { s with
      sources := sections.sources.toOption.getD s.sources
      fixed := match result with | .ok _ => fixed | .error _ => own
      keyed := sections.rules.filterMap fun
        | .keyed name path => some (name, path)
        | _ => none
      patterned := sections.rules.filterMap fun
        | .matching rule => some rule
        | _ => none
      timestamp := sections.timestamp.toOption.getD s.timestamp
      values := sections.values.filterMap Except.toOption
      filter := sections.filter.toOption.getD s.filter
      error := match result with | .ok _ => none | .error e => some e })

/-- The schema that the properties describe; an error is kept in it. -/
def build (id : String) (p : Properties) : Schema := ((unconfigured id).configure p).2

def hasSource (s : Schema) (source : String) : Bool := s.sources.contains source

/-! ## Extraction -/

/-- The attributes of the metrics of a record. -/
def attributes (s : Schema) (record : Json) : Attributes :=
  let keyed := s.keyed.filterMap fun (name, path) =>
    (record.scalarAt? path).map fun text => (name, text)
  let patterned := s.patterned.flatMap (·.attributes record)
  (keyed ++ patterned).foldl (fun m e => m.insert e.1 e.2) s.fixed

def withValue (attributes : Attributes) (v : ValueSource) : Attributes :=
  attributes.insert Metric.valueAttribute v.id

/-- One metric for each value that the record holds, all at one time. The first error ends it. -/
def readValues (record : Json) (timestamp : Instant) (attributes : Attributes) :
    List ValueSource → Except ExtractionError (List Metric)
  | [] => .ok []
  | v :: rest => do
    let value ← v.extract record
    let more ← readValues record timestamp attributes rest
    return (value.map fun x => ⟨timestamp, x, withValue attributes v⟩).toList ++ more

/-- One failure for each value, when a record has no time. -/
def raiseForValues (s : Schema) (now : Instant) (cause : String) (attributes : Attributes) :
    List ValueSource → Exceptions → List Metric × Exceptions
  | [], e => ([], e)
  | v :: rest, e =>
    let owner := Owner.schema.key (s.id ++ ":" ++ v.id)
    let (first, e) := e.raise now owner cause now (withValue attributes v)
    let (more, e) := raiseForValues s now cause attributes rest e
    (first ++ more, e)

/-- The failure of the schema itself. -/
def raiseOwn (s : Schema) (now : Instant) (cause : String) (e : Exceptions) :
    List Metric × Exceptions :=
  e.raise now (Owner.schema.key s.id) cause now s.fixed

/-- The metrics of a record, at the time `now`. -/
def extract (s : Schema) (now : Instant) (record : Json) (e : Exceptions) :
    List Metric × Exceptions :=
  match s.error with
  | some error => s.raiseOwn now error.message e
  | none =>
    let attributes := s.attributes record
    if s.filter.test attributes then
      let passing (ms : List Metric) := ms.filter fun m => s.filter.test m.attributes
      match s.timestamp.extract record with
      | .ok timestamp =>
        match readValues record timestamp attributes s.values with
        | .ok metrics => (passing metrics, e)
        | .error error => s.raiseOwn now error.message e
      | .error error =>
        let (metrics, e) := s.raiseForValues now error.message attributes s.values e
        (passing metrics, e)
    else ([], e)

end Schema

end Telemetry
