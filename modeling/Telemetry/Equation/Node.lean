import Telemetry.Equation.Error

/-!
# Equation trees

Leaves are constants and variables, inner nodes apply a function. `Node.call?` is the only way
to an inner node: it checks the number and the types of the operands and bounds the depth, which
each node keeps.
-/

namespace Telemetry

inductive Node
  | constant (v : Value)
  | variable (name : String) (type : ValueType)
  | call (f : Function) (arguments : List Node) (depth : Nat)
  deriving Repr

namespace Node

/-- The depth beyond which no tree is built. -/
def maxDepth : Nat := 64

/-- The levels from a node down to its deepest leaf. -/
def depth : Node → Nat
  | .constant _ | .variable _ _ => 1
  | .call _ _ depth => depth

def returnType : Node → ValueType
  | .constant v => v.type?.getD .any
  | .variable _ t => t
  | .call f _ _ => f.returnType

/-- The first argument whose type does not fit its place. -/
def misfit? (position : Nat) : List ValueType → List Node → Option (Nat × ValueType × ValueType)
  | t :: ts, n :: ns =>
    if t.accepts n.returnType then misfit? (position + 1) ts ns
    else some (position, t, n.returnType)
  | _, _ => none

def greatest (ns : List Nat) : Nat := ns.foldl max 0

def call? (f : Function) (arguments : List Node) : Except EquationError Node :=
  if arguments.length ≠ f.arity then .error (.arity f arguments.length)
  else match misfit? 0 f.argumentTypes arguments with
    | some (position, expected, actual) => .error (.argumentType f position expected actual)
    | none =>
      let depth := 1 + greatest (arguments.map Node.depth)
      if maxDepth < depth then .error (.tooDeep maxDepth) else .ok (.call f arguments depth)

/-- What variables hold. -/
abbrev Source := String → Value

/-- The value of a variable, if it is of the declared type. -/
def checked (name : String) (type : ValueType) (v : Value) : Value :=
  if v.isContagious || type.admits v then v
  else .exception ("variable " ++ name ++ " is declared " ++ type.name ++ " but holds " ++ v.text)

def evaluate (source : Source) : Node → Value
  | .constant v => v
  | .variable name type => checked name type (source name)
  | .call f arguments _ => f.compute (arguments.map (evaluate source))

/-- The names of the variables, in the order of the text. -/
def occurrences : Node → List String
  | .constant _ => []
  | .variable name _ => [name]
  | .call _ arguments _ => arguments.flatMap occurrences

/-- The names of the variables, sorted, each once. -/
def variableNames (n : Node) : List String := NameMap.sortedNames n.occurrences

/-- The text of the tree: binary operators in parentheses between their operands. -/
def text : Node → String
  | .constant v => v.text
  | .variable name _ => name
  | .call f arguments _ =>
    match f.isOperator, arguments.map text with
    | true, [operand] => f.name ++ operand
    | true, [left, right] => "(" ++ left ++ " " ++ f.name ++ " " ++ right ++ ")"
    | _, operands => f.name ++ "(" ++ ", ".intercalate operands ++ ")"

end Node

end Telemetry
