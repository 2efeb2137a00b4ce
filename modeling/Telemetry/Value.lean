import Telemetry.Json.Field
import Telemetry.Json.Printer
import Telemetry.Text.Blank

/-!
# Values

A metric carries a number, a truth value, a failure kept as data, or nothing. Failures and
absence have no type and pass through every function that meets them.

In a document a value is an object that names its kind and holds its content.
-/

namespace Telemetry

inductive Value
  | numeric (x : Float)
  | boolean (b : Bool)
  | exception (message : String)
  | absent
  deriving DecidableEq, Repr, Inhabited

inductive ValueType
  | numeric
  | boolean
  /-- Not known before evaluation. -/
  | any
  deriving DecidableEq, Repr

namespace Value

def type? : Value → Option ValueType
  | .numeric _ => some .numeric
  | .boolean _ => some .boolean
  | .exception _ | .absent => none

def number? : Value → Option Float
  | .numeric x => some x
  | _ => none

def truth? : Value → Option Bool
  | .boolean b => some b
  | _ => none

def failure? : Value → Option String
  | .exception m => some m
  | _ => none

def isException : Value → Bool
  | .exception _ => true
  | _ => false

def isAbsent : Value → Bool
  | .absent => true
  | _ => false

/-- A failure or nothing: what a function hands on unchanged. -/
def isContagious : Value → Bool
  | .exception _ | .absent => true
  | _ => false

def text : Value → String
  | .numeric x => Decimal.plain x
  | .boolean b => toString b
  | .exception m => "exception(" ++ m ++ ")"
  | .absent => "absent"

/-! ## In documents -/

def toJson : Value → Json
  | .numeric x => .object [("type", .string "numeric"), ("value", .number (.double x))]
  | .boolean b => .object [("type", .string "boolean"), ("value", .bool b)]
  | .exception m => .object [("type", .string "exception"), ("value", .string m)]
  | .absent => .object [("type", .string "absent")]

/-- The value of a kind with a content; an absent value has none or `null`. -/
def ofContent? (kind : String) (content : Option Written) : Option Value :=
  match kind, content with
  | "numeric", some w => w.double?.map .numeric
  | "boolean", some w => w.truth?.map .boolean
  | "exception", some w => w.text?.map .exception
  | "absent", none => some .absent
  | "absent", some .null => some .absent
  | _, _ => none

/-- An array gives the kind and the content, which it may not leave out. -/
def ofWritten? (w : Written) : Option Value := do
  let fields ← w.fields? ["type", "value"]
  match w, fields with
  | .array _, [_, none] => none
  | _, [some kind, content] => ofContent? (← kind.text?) content
  | _, _ => none

end Value

namespace ValueType

/-- Whether what returns `actual` may stand where this type is wanted. An unknown type on either
side leaves the question to evaluation. -/
def accepts (wanted actual : ValueType) : Bool :=
  wanted = .any || actual = .any || wanted = actual

/-- Whether a value has this type. -/
def admits (t : ValueType) (v : Value) : Bool :=
  match v.type? with
  | some actual => t = .any || t = actual
  | none => false

def name : ValueType → String
  | .numeric => "numeric"
  | .boolean => "boolean"
  | .any => "any"

/-- The type that a configured name stands for, in any case and with blanks around it. -/
def ofName? (s : String) : Option ValueType :=
  match (Text.trim s).toLower with
  | "numeric" | "float" | "number" => some .numeric
  | "boolean" | "bool" => some .boolean
  | "any" => some .any
  | _ => none

end ValueType

end Telemetry
