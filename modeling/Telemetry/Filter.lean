import Telemetry.Configuration.Properties
import Telemetry.Pattern.Matcher
import Telemetry.Pattern.Reader

/-!
# Filters

A filter is a conjunction of rules about attributes. A rule asks that an attribute is there and
that its pattern matches all of it; a negated rule asks that this is not so.
-/

namespace Telemetry

abbrev Attributes := NameMap String

structure Rule where
  key : String
  negated : Bool
  pattern : Pattern
  /-- The rule as configured. -/
  text : String
  deriving DecidableEq, Repr

namespace Rule

def test (r : Rule) (attributes : Attributes) : Bool :=
  (attributes.get? r.key).any r.pattern.matchesIn != r.negated

/-- A leading `!` negates the pattern behind it. -/
def ofText (key text : String) : Except ConfigurationError Rule :=
  let (negated, pattern) := match Text.dropStart? "!" text with
    | some rest => (true, rest)
    | none => (false, text)
  match Pattern.whole? pattern with
  | some p => .ok ⟨key, negated, p, text⟩
  | none =>
    let complaint := Pattern.Library.complaint (Pattern.anchored pattern)
    .error (.invalid ("attribute." ++ key) text (.badPattern complaint))

end Rule

structure Filter where
  rules : List Rule
  deriving DecidableEq, Repr

namespace Filter

/-- The filter that takes everything. -/
def all : Filter := ⟨[]⟩

def test (f : Filter) (attributes : Attributes) : Bool := f.rules.all (·.test attributes)

def withRule (f : Filter) (key text : String) : Except ConfigurationError Filter :=
  (Rule.ofText key text).map fun r => ⟨f.rules ++ [r]⟩

/-- The rules as configured. -/
def text (f : Filter) : String :=
  if f.rules.isEmpty then "*"
  else " & ".intercalate (f.rules.map fun r => r.key ++ "=" ++ r.text)

/-- Every `attribute.<name>` is a rule; all faults are reported together. -/
def ofProperties (p : Properties) : Except ConfigurationError Filter := do
  let (rules, p) := p.takeSubset "attribute"
  let read := rules.entries.map fun e => Rule.ofText e.1 e.2
  ConfigurationError.collect (read.flatMap faults ++ faults p.confirmAllUsed)
  return ⟨read.filterMap Except.toOption⟩

end Filter

end Telemetry
