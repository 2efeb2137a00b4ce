import Telemetry.Metric
import Telemetry.Text.Blank

/-!
# Groups

A definition keeps one state for each group of metrics: metrics that agree on the attributes that
group. A state key names the definition and the group.
-/

namespace Telemetry

/-- Which attributes group the metrics of a definition. -/
inductive Grouping
  /-- All metrics are one group. -/
  | none
  /-- Metrics of a group have the same attributes. -/
  | all
  | attributes (names : List String)
  deriving DecidableEq, Repr

namespace Grouping

/-- The name that stands for every attribute, if it stands alone. -/
def allName : String := "ALL"

/-- A list of names between blanks. -/
def ofText (raw : String) : Grouping :=
  match NameMap.sortedNames (Text.words raw) with
  | [] => .none
  | [name] => if name = allName then .all else .attributes [name]
  | names => .attributes names

/-- The attributes of a metric with the given names, if it has them all. -/
def select? (m : Metric) (names : List String) : Option Attributes :=
  (names.mapM fun name => (m.attribute? name).map fun text => (name, text)).map NameMap.ofList

/-- The group of a metric. A metric without one of the attributes belongs to no group. -/
def group? (g : Grouping) (m : Metric) : Option Attributes :=
  match g with
  | .none => some .empty
  | .all => some m.attributes
  | .attributes names => select? m names

end Grouping

structure StateKey where
  definition : String
  group : Attributes
  deriving DecidableEq, Repr

namespace StateKey

instance : Hashable StateKey := ⟨fun k => mixHash (hash k.definition) (hash k.group.entries)⟩

/-- Names before texts, entry by entry; of two lists the shorter first if it begins the longer. -/
def compareEntries : List (String × String) → List (String × String) → Ordering
  | [], [] => .eq
  | [], _ :: _ => .lt
  | _ :: _, [] => .gt
  | a :: as, b :: bs =>
    (compare a.1 b.1).then ((compare a.2 b.2).then (compareEntries as bs))

/-- Keys are ordered by the definition, and within one by the group. -/
instance : Ord StateKey :=
  ⟨fun a b => (compare a.definition b.definition).then
    (compareEntries a.group.entries b.group.entries)⟩

def text (k : StateKey) : String :=
  k.definition ++ "\x7b" ++ ", ".intercalate (k.group.entries.map fun e => e.1 ++ "=" ++ e.2) ++
    "\x7d"

def toJson (k : StateKey) : Json :=
  .object [("name", .string k.definition), ("group_by", .ofTexts k.group)]

def ofWritten? (w : Written) : Option StateKey := do
  match ← w.fields? ["name", "group_by"] with
  | [some name, some group] => return ⟨← name.text?, ← group.texts?⟩
  | _ => none

end StateKey

end Telemetry
