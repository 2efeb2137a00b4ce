import Telemetry.Metric
import Telemetry.Json.Path

/-!
# Attribute rules

A schema gives its metrics attributes by three kinds of rules: fixed texts, elements of the record
under a path, and elements under all paths that a pattern matches. Later rules override earlier
ones, and rules of these kinds apply in this order.
-/

namespace Telemetry

/-- A rule for all paths that a pattern matches. -/
structure PatternRule where
  name : String
  /-- The pattern as configured. -/
  text : String
  pattern : Pattern
  deriving DecidableEq, Repr

inductive AttributeRule
  | fixed (name text : String)
  | keyed (name path : String)
  | matching (rule : PatternRule)
  deriving DecidableEq, Repr

namespace AttributeRule

def isPattern (rule : String) : Bool :=
  rule.toList.any fun c => c = '*' || c = '+' || c = '('

/-- A `#` begins a fixed text; the signs of repetition and grouping make a pattern; all else is a
path. -/
def ofText (name rule : String) : Except ConfigurationError AttributeRule :=
  match Text.dropStart? "#" rule with
  | some text => .ok (.fixed name text)
  | none =>
    if isPattern rule then
      match Pattern.whole? rule with
      | some p => .ok (.matching ⟨name, rule, p⟩)
      | none =>
        let complaint := Pattern.Library.complaint (Pattern.anchored rule)
        .error (.invalid ("attributes." ++ name) rule (.badPattern complaint))
    else .ok (.keyed name rule)

end AttributeRule

namespace PatternRule

/-- The name with a text in place of every plus sign. -/
def fill (name text : String) : String :=
  String.ofList (name.toList.flatMap fun c => if c = '+' then text.toList else [c])

/-- The name of the attribute for a path that the pattern matches: the name of the rule, filled
with the only group of the pattern, or else the path itself. -/
def nameFor (r : PatternRule) (path : String) : String :=
  if r.name.toList.contains '+' ∧ r.name ≠ r.text ∧ r.pattern.groups = 1 then
    match (r.pattern.search path).bind fun spans => Pattern.spanText? path spans 1 with
    | some group => fill r.name group
    | none => path
  else path

/-- The attributes that the rule takes from a record. -/
def attributes (r : PatternRule) (record : Json) : List (String × String) :=
  (record.paths.filter r.pattern.matchesIn).filterMap fun path =>
    (record.scalarAt? path).map fun text => (r.nameFor path, text)

end PatternRule

end Telemetry
