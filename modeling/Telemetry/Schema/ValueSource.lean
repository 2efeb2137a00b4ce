import Telemetry.Configuration.Properties
import Telemetry.Pattern.Matcher
import Telemetry.Pattern.Reader
import Telemetry.Schema.Extraction

/-!
# The values of a record

Where a record holds a value, of which kind it is, and which part of its text counts.
-/

namespace Telemetry

inductive ValueKind
  /-- The kind follows the element; a text is a number, or else a truth value. -/
  | auto
  | numeric
  | boolean
  deriving DecidableEq, Repr

namespace ValueKind

def name : ValueKind → String
  | .auto => "auto"
  | .numeric => "numeric"
  | .boolean => "boolean"

def ofText (raw : String) : Except Reason ValueKind :=
  match (Text.trim raw).toLower with
  | "auto" => .ok .auto
  | "numeric" | "float" | "number" => .ok .numeric
  | "boolean" | "bool" => .ok .boolean
  | _ => .error .unknownKind

def number? (raw : String) : Option Float :=
  (Decimal.read? (Text.trim raw)).filter Float.isFinite

def truth? (raw : String) : Option Bool :=
  match (Text.trim raw).toLower with
  | "true" => some true
  | "false" => some false
  | _ => none

/-- The value of an element with the given text. -/
def convert (k : ValueKind) (key : String) (element : Json) (raw : String) :
    Except ExtractionError Value :=
  let numeric := match number? raw with
    | some x => .ok (.numeric x)
    | none => .error (.invalidNumber key raw)
  match k, element with
  | .auto, .bool b => .ok (.boolean b)
  | .auto, .number _ | .numeric, _ => numeric
  | .boolean, _ => match truth? raw with
    | some b => .ok (.boolean b)
    | none => .error (.invalidBoolean key raw)
  | .auto, _ => match number? raw, truth? raw with
    | none, some b => .ok (.boolean b)
    | _, _ => numeric

end ValueKind

structure ValueSource where
  id : String
  key : String
  kind : ValueKind
  /-- Picks the part of the text that counts: its first group, or all of the match. -/
  pattern : Option Pattern
  deriving DecidableEq, Repr

namespace ValueSource

def readPattern (raw : String) : Except Reason Pattern :=
  match Pattern.ofText? raw with
  | some p => .ok p
  | none => .error (.badPattern (Pattern.Library.complaint raw))

/-- All faults of the block are reported together. -/
def ofProperties (id : String) (p : Properties) : Except ConfigurationError ValueSource := do
  let (key, p) := p.takeRequired "key"
  let (kind, p) := p.takeRead ValueKind.ofText "type"
  let (pattern, p) := p.takeRead readPattern "regex"
  ConfigurationError.collect
    (faults key ++ faults kind ++ faults pattern ++ faults p.confirmAllUsed)
  return ⟨id, ← key, (← kind).getD .auto, ← pattern⟩

/-- The value in a record. There is none if the element is missing or no scalar, or if its text
does not match. -/
def extract (s : ValueSource) (record : Json) : Except ExtractionError (Option Value) :=
  match record.element? s.key with
  | none => .ok none
  | some element =>
    match element.scalar? with
    | none => .ok none
    | some raw =>
      match s.pattern with
      | none => (s.kind.convert s.key element raw).map some
      | some p =>
        match p.search raw with
        | none => .ok none
        | some spans =>
          let part := ((Pattern.spanText? raw spans 1).or (Pattern.spanText? raw spans 0)).getD ""
          (s.kind.convert s.key (.string part) part).map some

end ValueSource

end Telemetry
