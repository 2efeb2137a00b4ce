import Telemetry.Value

/-!
# The functions of equations

Every function has a fixed signature. It hands on the first operand that is a failure or
absent; after that operands are checked against the signature, and a number that it computes
must be finite.
-/

namespace Telemetry

inductive Function
  | add | sub | mul | div | neg
  | abs | sqrt | pow | min | max
  | gt | ge | lt | le | eq | ne
  | and | or | not
  deriving DecidableEq, Repr

namespace Function

/-- The operator or the name that stands for the function in the text of an equation. -/
def name : Function → String
  | .add => "+" | .sub => "-" | .mul => "*" | .div => "/" | .neg => "-"
  | .abs => "abs" | .sqrt => "sqrt" | .pow => "pow" | .min => "min" | .max => "max"
  | .gt => ">" | .ge => ">=" | .lt => "<" | .le => "<=" | .eq => "==" | .ne => "!="
  | .and => "&&" | .or => "||" | .not => "!"

/-- The functions that are written as calls. -/
def ofName? : String → Option Function
  | "abs" => some .abs
  | "sqrt" => some .sqrt
  | "pow" => some .pow
  | "min" => some .min
  | "max" => some .max
  | _ => none

def argumentTypes : Function → List ValueType
  | .add | .sub | .mul | .div | .pow | .min | .max | .gt | .ge | .lt | .le =>
    [.numeric, .numeric]
  | .neg | .abs | .sqrt => [.numeric]
  | .eq | .ne => [.any, .any]
  | .and | .or => [.boolean, .boolean]
  | .not => [.boolean]

def returnType : Function → ValueType
  | .add | .sub | .mul | .div | .neg | .abs | .sqrt | .pow | .min | .max => .numeric
  | .gt | .ge | .lt | .le | .eq | .ne | .and | .or | .not => .boolean

def arity (f : Function) : Nat := f.argumentTypes.length

/-- Written before or between its operands. -/
def isOperator (f : Function) : Bool :=
  match f with
  | .abs | .sqrt | .pow | .min | .max => false
  | _ => true

/-- A number that is not finite is a failure. -/
def finite (f : Function) (x : Float) : Value :=
  if x.isFinite then .numeric x
  else .exception ("function " ++ f.name ++ " produced a non-finite result")

/-- The smaller of two numbers, the first of equal ones, and the other if one is no number. -/
def smaller (a b : Float) : Float := if a.isNaN || b < a then b else a

/-- The larger of two numbers, the first of equal ones, and the other if one is no number. -/
def larger (a b : Float) : Float := if a.isNaN || a < b then b else a

/-- Functions of one number. -/
def computeUnary (f : Function) (a : Float) : Value :=
  match f with
  | .neg => f.finite (-a)
  | .abs => f.finite a.abs
  | .sqrt =>
    if a < 0 then .exception ("square root of negative number " ++ Decimal.plain a)
    else f.finite a.sqrt
  | _ => .exception ("function " ++ f.name ++ " is not numeric")

/-- Functions of two numbers. -/
def computeBinary (f : Function) (a b : Float) : Value :=
  match f with
  | .add => f.finite (a + b)
  | .sub => f.finite (a - b)
  | .mul => f.finite (a * b)
  | .div => if b == 0 then .exception "division by zero" else f.finite (a / b)
  | .pow => f.finite (a.pow b)
  | .min => f.finite (smaller a b)
  | .max => f.finite (larger a b)
  | .gt => .boolean (b < a)
  | .ge => .boolean (b ≤ a)
  | .lt => .boolean (a < b)
  | .le => .boolean (a ≤ b)
  | .eq => .boolean (a == b)
  | .ne => .boolean (!(a == b))
  | _ => .exception ("function " ++ f.name ++ " is not numeric")

/-- Functions of two truth values. -/
def computeTruths (f : Function) (a b : Bool) : Value :=
  match f with
  | .and => .boolean (a && b)
  | .or => .boolean (a || b)
  | .ne => .boolean (a != b)
  | _ => .boolean (a == b)

/-- The function on operands that have the types of its signature. -/
def computeTyped (f : Function) : List Value → Value
  | [.numeric a] => f.computeUnary a
  | [.boolean a] => .boolean (!a)
  | [.numeric a, .numeric b] => f.computeBinary a b
  | [.boolean a, .boolean b] => f.computeTruths a b
  | [a, b] => .exception
      ("function " ++ f.name ++ " cannot compare " ++ a.text ++ " with " ++ b.text)
  | _ => .exception ("function " ++ f.name ++ " is not numeric")

/-- The first operand that has not the type its place wants, with its place and that type. -/
def mismatch? (position : Nat) : List ValueType → List Value → Option (Nat × ValueType × Value)
  | t :: ts, v :: vs => if t.admits v then mismatch? (position + 1) ts vs else some (position, t, v)
  | _, _ => none

/-- The function on operands of any kind and number. -/
def compute (f : Function) (args : List Value) : Value :=
  if args.length ≠ f.arity then
    .exception ("function " ++ f.name ++ " expects " ++ toString f.arity ++ " arguments, got " ++
      toString args.length)
  else match args.find? Value.isContagious with
    | some v => v
    | none => match mismatch? 0 f.argumentTypes args with
      | some (position, wanted, v) =>
        .exception ("function " ++ f.name ++ " expects " ++ wanted.name ++
          " argument at position " ++ toString position ++ ", got " ++ v.text)
      | none => f.computeTyped args

end Function

end Telemetry
