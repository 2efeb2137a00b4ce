import Telemetry.Configuration.Error
import Telemetry.Definition.Sample

/-!
# Aggregations

An aggregation makes one value of the last samples of all series of a group.
-/

namespace Telemetry

inductive Aggregation
  | sum
  | avg
  | count
  | min
  | max
  /-- The most recent sample of all series. -/
  | last
  deriving DecidableEq, Repr

namespace Aggregation

def name : Aggregation → String
  | .sum => "sum"
  | .avg => "avg"
  | .count => "count"
  | .min => "min"
  | .max => "max"
  | .last => "last"

/-- A name in any case, with blanks around it. -/
def ofText (raw : String) : Except Reason Aggregation :=
  match (Text.trim raw).toLower with
  | "sum" => .ok .sum
  | "avg" | "average" => .ok .avg
  | "count" => .ok .count
  | "min" => .ok .min
  | "max" => .ok .max
  | "last" => .ok .last
  | other => .error (.unknownAggregation other)

/-- The type of the aggregate. The last sample has the type it has. -/
def returnType : Aggregation → ValueType
  | .last => .any
  | _ => .numeric

/-- The sample with the greatest time, the last of several. -/
def newest? : List Sample → Option Sample
  | [] => none
  | s :: rest =>
    match newest? rest with
    | some t => if t.timestamp.before s.timestamp then some s else some t
    | none => some s

/-- The numbers that all samples hold, or the first value that is none. -/
def numbers : List Sample → Except Value (List Float)
  | [] => .ok []
  | s :: rest =>
    match s.value with
    | .numeric x => (numbers rest).map (x :: ·)
    | other => .error other

/-- The sum from the left. It starts from the negative zero, which changes no number. -/
def total (xs : List Float) : Float := xs.foldl (· + ·) (-0.0)

def infinity : Float := 1.0 / 0.0

/-- The aggregate of numbers, for the aggregations that need numbers. -/
def ofNumbers (a : Aggregation) (xs : List Float) : Float :=
  match a with
  | .avg => total (xs.map (· / Float.ofNat xs.length))
  | .min => xs.foldl Function.smaller infinity
  | .max => xs.foldl Function.larger (-infinity)
  | _ => total xs

/-- The value of the variable named `owner`, from its samples in the order of their keys.

Failures and absence pass through; a sample of the wrong type and a result that is not finite are
failures. Nothing can be said of no samples, except how many they are. -/
def apply (a : Aggregation) (owner : String) (samples : List Sample) : Value :=
  match a with
  | .count => .numeric (Float.ofNat samples.length)
  | .last => ((newest? samples).map Sample.value).getD .absent
  | _ =>
    if samples.isEmpty then .absent
    else match numbers samples with
      | .ok xs =>
        let x := a.ofNumbers xs
        if x.isFinite then .numeric x
        else .exception ("variable " ++ owner ++ " overflowed computing " ++ a.name)
      | .error v =>
        if v.isContagious then v
        else .exception ("variable " ++ owner ++ " aggregates with " ++ a.name ++
          " but holds " ++ v.text)

end Aggregation

end Telemetry
