import Telemetry.Decimal.Notation

/-!
# The words of equations

Operators and tokens, how they are spelled, and how an error message shows them.
-/

namespace Telemetry

inductive Operator
  | or | and | eq | ne | ge | le | gt | lt
  | plus | minus | times | over | power | bang
  deriving DecidableEq, Repr

namespace Operator

def spelling : Operator → String
  | .or => "||" | .and => "&&" | .eq => "==" | .ne => "!=" | .ge => ">=" | .le => "<="
  | .gt => ">" | .lt => "<" | .plus => "+" | .minus => "-" | .times => "*" | .over => "/"
  | .power => "^" | .bang => "!"

/-- A spelling stands before those it begins with. -/
def all : List Operator :=
  [.or, .and, .eq, .ne, .ge, .le, .gt, .lt, .plus, .minus, .times, .over, .power, .bang]

end Operator

inductive Token
  | number (x : Float)
  | identifier (name : String)
  | operator (op : Operator)
  | openParen
  | closeParen
  | comma
  deriving DecidableEq, Repr

/-- The token as messages show it. -/
def Token.display : Token → String
  | .number x => "Number(" ++ Decimal.Layout.explicit.render x ++ ")"
  | .identifier name => "Ident(\"" ++ name ++ "\")"
  | .operator op => "Op(\"" ++ op.spelling ++ "\")"
  | .openParen => "LParen"
  | .closeParen => "RParen"
  | .comma => "Comma"

/-- A token and the bytes of the text that it stands for. -/
structure Lexeme where
  start : Nat
  stop : Nat
  token : Token
  deriving DecidableEq, Repr

end Telemetry
