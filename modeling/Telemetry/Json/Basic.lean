import Telemetry.Decimal.Notation
import Telemetry.NameMap

/-!
# Documents

A JSON document as a value. The members of an object that was read from text stand in
increasing order of their names, each name once; an object that the library writes keeps the
order in which its fields are declared.
-/

namespace Telemetry

/-- An integer that fits 64 bits, with or without a sign, or else a double. -/
inductive Number
  | int (n : Int)
  | double (x : Float)
  deriving DecidableEq, Repr

/-- Integers have no fraction, whole doubles end in `.0`. -/
def Number.text : Number → String
  | .int n => toString n
  | .double x => Decimal.Layout.document.render x

inductive Json
  | null
  | bool (b : Bool)
  | number (n : Number)
  | string (s : String)
  | array (items : List Json)
  | object (members : List (String × Json))
  deriving Repr

namespace Json

/-- The bindings of a map, in name order. -/
def ofMap {α : Type} (f : α → Json) (m : NameMap α) : Json :=
  .object (m.entries.map fun e => (e.1, f e.2))

def ofTexts (m : NameMap String) : Json := ofMap .string m

/-- The text of a scalar; `null` and what has parts are no scalars. -/
def scalar? : Json → Option String
  | .string s => some s
  | .number n => some n.text
  | .bool b => some (toString b)
  | .null | .array _ | .object _ => none

/-- The member of an object with the given name. -/
def member? (node : Json) (name : String) : Option Json :=
  match node with
  | .object members => NameMap.findEntry name members
  | _ => none

end Json

end Telemetry
