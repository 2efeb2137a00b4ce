import Telemetry.Definition.Aggregation

/-!
# Variables

A variable of a definition selects metrics and remembers what it needs to have a value later: the
last sample of its group, or the last sample of each series if it aggregates. The series of a group
are told apart by the attributes that do not group.

Samples count for a time only, and an aggregating variable remembers a limited number of series.
-/

namespace Telemetry

structure Variable where
  name : String
  filter : Filter
  aggregation : Option Aggregation
  /-- For how long a sample counts. -/
  expire : Duration
  type : ValueType
  /-- How many series are remembered. -/
  maxSeries : Nat
  maxSeries_pos : 0 < maxSeries := by decide
  deriving DecidableEq, Repr

namespace Variable

def defaultExpire : Duration := .ofMilliseconds 600000

def defaultMaxSeries : Nat := 10000

/-- A variable that holds the last value of any metric. -/
def ofName (name : String) : Variable :=
  ⟨name, .all, none, defaultExpire, .any, defaultMaxSeries, by decide⟩

/-- The type of the variable becomes that of the aggregate. -/
def withAggregation (v : Variable) (a : Aggregation) : Variable :=
  { v with aggregation := some a, type := a.returnType }

/-- At least one series is remembered. -/
def withMaxSeries (v : Variable) (n : Nat) : Variable :=
  { v with maxSeries := atLeastOne n, maxSeries_pos := atLeastOne_pos n }

/-! ## Configuration -/

/-- A declared type, which must accept what the aggregation returns. -/
def readType (aggregation : Option Aggregation) (raw : String) : Except Reason ValueType :=
  let (name, returned) := match aggregation with
    | some a => (a.name, a.returnType)
    | none => (Aggregation.last.name, .any)
  match ValueType.ofName? raw with
  | some declared =>
    if declared.accepts returned then .ok declared
    else .error (.producesOther name returned declared)
  | none => .error .unknownType

/-- All faults of the block are reported together. -/
def ofProperties (name : String) (p : Properties) (maxSeries : Nat) :
    Except ConfigurationError Variable := do
  let (filter, p) := p.takeSubset "filter"
  let filter := inBlock "filter" (Filter.ofProperties filter)
  let (aggregation, p) := p.takeRead Aggregation.ofText "aggregate"
  let (expire, p) := p.takeDuration "expire"
  let (type, p) := p.takeRead (readType aggregation.toOption.join) "type"
  let (bound, p) := p.takeCount "max-series"
  ConfigurationError.collect
    (faults filter ++ faults aggregation ++ faults expire ++ faults type ++ faults bound ++
      faults p.confirmAllUsed)
  let v := (ofName name).withMaxSeries ((← bound).getD maxSeries)
  let v := match ← aggregation with
    | some a => v.withAggregation a
    | none => v
  return { v with
    filter := ← filter
    expire := (← expire).getD v.expire
    type := (← type).getD v.type }

/-! ## Updates -/

/-- Whether the variable takes the metric. -/
def test (v : Variable) (m : Metric) : Bool := v.filter.test m.attributes

/-- The key of the series of a metric: its attributes except those that group. -/
def seriesKey (m : Metric) (groupBy : List String) : String :=
  ",".intercalate ((m.attributes.filter fun k _ => !groupBy.contains k).entries.map fun e =>
    e.1 ++ "=" ++ e.2)

/-- The oldest instant that counts at `time`; there is none if the calendar does not reach back so
far, and then everything counts. -/
def windowStart (v : Variable) (time : Instant) : Option Instant := time.earlier? v.expire

/-- The entry with the least time, the first of several. -/
def oldest? : List (String × Sample) → Option (String × Sample)
  | [] => none
  | e :: rest =>
    match oldest? rest with
    | some e' => if e'.2.timestamp.before e.2.timestamp then some e' else some e
    | none => some e

def dropOldest : (count : Nat) → NameMap Sample → NameMap Sample
  | 0, samples => samples
  | count + 1, samples =>
    match oldest? samples.entries with
    | some e => dropOldest count (samples.erase e.1)
    | none => samples

/-- Drops the oldest samples until at most `bound` are left. -/
def evict (bound : Nat) (samples : NameMap Sample) : NameMap Sample :=
  dropOldest (samples.size - bound) samples

/-- The series after a metric: its sample replaces that of its series, what is too old by then is
dropped, and then the oldest while there are too many. -/
def record (v : Variable) (samples : NameMap Sample) (m : Metric) (groupBy : List String) :
    NameMap Sample :=
  let samples := samples.insert (seriesKey m groupBy) (.ofMetric m)
  let start := v.windowStart m.timestamp
  evict v.maxSeries (samples.filter fun _ s => s.isLive start)

/-- The stores after a metric that the variable takes. A state of the other kind, which an earlier
configuration left, is given up. -/
def update (v : Variable) (stores : Stores) (m : Metric) (groupBy : List String) : Stores :=
  match v.aggregation with
  | none => stores.insert v.name (.last (.ofMetric m))
  | some _ =>
    let samples := match stores.get? v.name with
      | some (.series samples) => samples
      | _ => .empty
    stores.insert v.name (.series (v.record samples m groupBy))

/-- The value of the variable at a time. -/
def valueAt (v : Variable) (stores : Stores) (time : Instant) : Value :=
  let start := v.windowStart time
  match stores.get? v.name, v.aggregation with
  | some (.last s), _ => if s.isLive start then s.value else .absent
  | some (.series samples), some a =>
    a.apply v.name (samples.values.filter fun s => s.isLive start)
  | none, some .count => .numeric 0
  | _, _ => .absent

end Variable

end Telemetry
