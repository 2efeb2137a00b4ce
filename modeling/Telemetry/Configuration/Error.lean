import Telemetry.Equation.Error
import Telemetry.Text.Natural

/-!
# Configuration errors

What is wrong with the properties of a component. Every error names the parameters at fault;
errors of independent parameters are reported together.
-/

namespace Telemetry

/-- Why a value does not suit its parameter. -/
inductive Reason
  | notDuration
  | natural (e : Text.NaturalError)
  | notTruth
  | notAssignment
  /-- With the complaint of the reader of patterns. -/
  | badPattern (complaint : String)
  | badTimePattern
  | unknownKind
  | unknownType
  | unknownAggregation (name : String)
  | producesOther (aggregation : String) (produced declared : ValueType)
  | unknownTriggers (names : List String)
  | unknownOverflow (name : String)
  | unknownLevel
  | notPositive
  | unknownComponent (tags : List String)
  | stated (text : String)
  deriving DecidableEq, Repr

def Reason.message : Reason → String
  | .notDuration => "not a duration"
  | .natural e => e.message
  | .notTruth => "provided string was not `true` or `false`"
  | .notAssignment => "expected key = value"
  | .badPattern complaint => complaint
  | .badTimePattern => "not a valid date-time pattern"
  | .unknownKind => "expected auto, numeric or boolean"
  | .unknownType => "expected numeric, boolean or any"
  | .unknownAggregation name =>
    "unknown aggregation " ++ name ++ ", expected sum, avg, count, min, max or last"
  | .producesOther aggregation produced declared =>
    aggregation ++ " aggregation produces " ++ produced.name ++ " values, not " ++ declared.name
  | .unknownTriggers names =>
    "expected ANY or declared variables, unknown: " ++ " ".intercalate names
  | .unknownOverflow name => "unknown overflow " ++ name ++ ", expected evict or reject"
  | .unknownLevel => "attempted to convert a string that doesn't match an existing log level"
  | .notPositive => "must be greater than zero"
  | .unknownComponent tags => "unknown type, expected one of: " ++ ", ".intercalate tags
  | .stated text => text

inductive ConfigurationError
  | missing (param : String)
  | invalid (param value : String) (reason : Reason)
  | equation (param : String) (cause : EquationError)
  | unused (params : List String)
  | multiple (errors : List ConfigurationError)
  deriving Repr

namespace ConfigurationError

mutual

def message : ConfigurationError → String
  | .missing param => param ++ " must be specified"
  | .invalid param value reason =>
    param ++ ": invalid value \"" ++ value ++ "\": " ++ reason.message
  | .equation param cause => param ++ ": " ++ cause.message
  | .unused params => "unused parameters: " ++ ", ".intercalate params
  | .multiple errors =>
    toString errors.length ++ " configuration errors: " ++ "; ".intercalate (messages errors)

def messages : List ConfigurationError → List String
  | [] => []
  | e :: rest => e.message :: messages rest

end

/-- The error as a report of its own. -/
def report (e : ConfigurationError) : String := "Configuration error: " ++ e.message

/-- The name of a parameter as its enclosing block knows it. -/
def qualified (block param : String) : String := block ++ "." ++ param

/-- The error as the enclosing block reports it. -/
def within (block : String) : ConfigurationError → ConfigurationError
  | .missing param => .missing (qualified block param)
  | .invalid param value reason => .invalid (qualified block param) value reason
  | .equation param cause => .equation (qualified block param) cause
  | .unused params => .unused (params.map (qualified block))
  | .multiple errors => .multiple (errors.map (within block))

/-- The parameters at fault. -/
def params : ConfigurationError → List String
  | .missing param | .invalid param _ _ | .equation param _ => [param]
  | .unused params => params
  | .multiple errors => errors.flatMap params

/-- A report of several errors counts as these errors. -/
def parts : ConfigurationError → List ConfigurationError
  | .multiple errors => errors
  | e => [e]

/-- Many errors as one: none if there are none, and no report within a report. -/
def collect (errors : List ConfigurationError) : Except ConfigurationError Unit :=
  match errors.flatMap parts with
  | [] => .ok ()
  | [e] => .error e
  | all => .error (.multiple all)

end ConfigurationError

/-- The result of a block, with its error as the enclosing block reports it. -/
def inBlock {α : Type} (block : String) (r : Except ConfigurationError α) :
    Except ConfigurationError α :=
  r.mapError (ConfigurationError.within block)

/-- The errors of a step, to be collected. -/
def faults {α : Type} : Except ConfigurationError α → List ConfigurationError
  | .ok _ => []
  | .error e => [e]

end Telemetry
