import Telemetry.Definition.Group
import Telemetry.Definition.Variable
import Telemetry.Equation.Parser

/-!
# Definitions

A definition derives metrics from others. Its variables select metrics and remember what they need,
for each group on its own; whenever a metric updates a group, an equation over the variables gives
the value of a derived metric.

A definition in error keeps its error and derives nothing.
-/

namespace Telemetry

/-- The variables whose update makes a definition derive a metric. -/
inductive Trigger
  | any
  | named (names : List String)
  deriving DecidableEq, Repr

structure Definition where
  name : String
  equation : Option Node
  vars : NameMap Variable
  trigger : Trigger
  grouping : Grouping
  filter : Filter
  error : Option ConfigurationError

namespace Definition

def unconfigured (name : String) : Definition := ⟨name, none, .empty, .any, .none, .all, none⟩

/-! ## Configuration -/

/-- What the properties of a definition say, section by section. -/
structure Sections where
  grouping : Grouping
  filter : Except ConfigurationError Filter
  vars : List (Except ConfigurationError Variable)
  /-- A definition without variables is in error. -/
  anyVars : Except ConfigurationError Unit
  trigger : Trigger
  /-- A trigger that names no variables, or unknown ones, is in error. -/
  triggerKnown : Except ConfigurationError Unit
  equation : Except ConfigurationError (Option Node)
  left : Except ConfigurationError Unit

/-- The word for every variable, in any case. -/
def isAny (raw : String) : Bool := (Text.trim raw).toLower = "any"

/-- The trigger, and whether it makes sense for the declared variables. -/
def readTrigger (declared : List String) (raw : Option String) :
    Trigger × Except ConfigurationError Unit :=
  match raw with
  | none => (.any, .ok ())
  | some raw =>
    if isAny raw then (.any, .ok ())
    else
      let names := NameMap.sortedNames (Text.words raw)
      let unknown := names.filter fun name => !declared.contains name
      (.named names,
        if names.isEmpty ∨ unknown ≠ [] then
          .error (.invalid "when" raw (.unknownTriggers unknown))
        else .ok ())

/-- The variables that could be read, by name. -/
def byName (read : List (Except ConfigurationError Variable)) : NameMap Variable :=
  .ofList ((read.filterMap Except.toOption).map fun v => (v.name, v))

/-- The equation, which may be left out if a single variable is declared. -/
def readEquation (declared : List String) (vars : NameMap Variable) (raw : Option String) :
    Except ConfigurationError (Option Node) :=
  match raw with
  | some text =>
    match Node.parse text fun name => (vars.get? name).map Variable.type with
    | .ok tree => .ok (some tree)
    | .error cause => .error (.equation "value" cause)
  | none =>
    match declared with
    | [] => .ok none
    | [_] => .ok (vars.values.head?.map fun v => .variable v.name v.type)
    | _ => .error (.missing "value")

def Sections.ofProperties (p : Properties) (maxSeries : Nat) : Sections :=
  let (grouping, p) := p.take "metrics.groupby"
  let (filter, p) := p.takeSubset "metrics.filter"
  let (block, p) := p.takeSubset "variables"
  let (trigger, p) := p.take "when"
  let (equation, p) := p.take "value"
  let declared := block.ids
  let vars := declared.map fun name =>
    inBlock ("variables." ++ name) (Variable.ofProperties name (block.subset name) maxSeries)
  let trigger := readTrigger declared trigger
  { grouping := (grouping.map Grouping.ofText).getD .none
    filter := inBlock "metrics.filter" (Filter.ofProperties filter)
    vars
    anyVars := if declared.isEmpty then .error (.missing "variables") else .ok ()
    trigger := trigger.1
    triggerKnown := trigger.2
    equation := readEquation declared (byName vars) equation
    left := p.confirmAllUsed }

/-- All errors, in the order of the sections. -/
def Sections.errors (s : Sections) : List ConfigurationError :=
  faults s.filter ++ s.vars.flatMap faults ++ faults s.anyVars ++ faults s.triggerKnown ++
    faults s.equation ++ faults s.left

/-- Takes over the sections. The variables are taken over only if there is no error; a definition
in error has no equation. -/
def configure (d : Definition) (p : Properties) (maxSeries : Nat) :
    Except ConfigurationError Unit × Definition :=
  let sections := Sections.ofProperties p maxSeries
  let d := { d with
    trigger := sections.trigger
    grouping := sections.grouping
    filter := sections.filter.toOption.getD d.filter }
  match ConfigurationError.collect sections.errors with
  | .ok _ => (.ok (), { d with
      vars := byName sections.vars
      equation := sections.equation.toOption.join
      error := none })
  | .error e => (.error e, { d with equation := none, error := some e })

/-- The definition that the properties describe; an error is kept in it. -/
def build (name : String) (p : Properties) (maxSeries : Nat) : Definition :=
  ((unconfigured name).configure p maxSeries).2

/-- Whether the definition derives metrics. -/
def isValid (d : Definition) : Bool := d.error.isNone && d.equation.isSome

/-! ## Updates -/

/-- Whether a metric feeds at least one variable. -/
def appliesTo (d : Definition) (m : Metric) : Bool :=
  d.isValid && d.filter.test m.attributes && d.vars.values.any (·.test m)

/-- The state that a metric updates, if it feeds the definition and belongs to a group. -/
def key? (d : Definition) (m : Metric) : Option StateKey :=
  if d.appliesTo m then (d.grouping.group? m).map fun group => ⟨d.name, group⟩ else none

/-- The variables that take a metric. -/
def takers (d : Definition) (m : Metric) : List Variable :=
  if d.filter.test m.attributes then d.vars.values.filter (·.test m) else []

/-- Records a metric in every variable that takes it, and lists their names. -/
def update (d : Definition) (stores : Stores) (m : Metric) (groupBy : List String) :
    List String × Stores :=
  ((d.takers m).map Variable.name,
    (d.takers m).foldl (fun stores v => v.update stores m groupBy) stores)

/-- What the variables hold at a time. -/
def source (d : Definition) (stores : Stores) (time : Instant) : Node.Source := fun name =>
  match d.vars.get? name with
  | some v => v.valueAt stores time
  | none => .absent

/-- The value of the equation at a time, unless it is absent. -/
def evaluate (d : Definition) (stores : Stores) (time : Instant) : Option Value :=
  match d.equation with
  | none => none
  | some tree =>
    match tree.evaluate (d.source stores time) with
    | .absent => none
    | v => some v

def isTriggered (d : Definition) (updated : List String) : Bool :=
  match d.trigger with
  | .any => !updated.isEmpty
  | .named names => names.any updated.contains

/-- The attributes that name a definition as the producer of a metric. -/
def withProducer (name : String) (attributes : Attributes) : Attributes :=
  (attributes.insert Metric.definitionAttribute name).insert Metric.schemaAttribute name

/-- The metric that an update of the named variables derives: the value of the equation at the time
of the metric, with the attributes of its group. -/
def derive? (d : Definition) (stores : Stores) (m : Metric) (group : Attributes)
    (updated : List String) : Option Metric :=
  if d.isTriggered updated then
    (d.evaluate stores m.timestamp).map fun v =>
      ⟨m.timestamp, v, withProducer d.name group⟩
  else none

end Definition

end Telemetry
