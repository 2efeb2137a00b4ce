import Telemetry.Equation.Function
import Telemetry.Equation.Token

/-!
# Why an equation is refused
-/

namespace Telemetry

/-- What is wrong at a place of the text. -/
inductive TextFault
  | emptyEquation
  | invalidNumber (literal : String)
  | unexpectedCharacter (c : Char)
  | unexpectedToken (t : Token)
  | unexpectedEnd
  | expected (wanted : Token) (found : Option Token)
  deriving DecidableEq, Repr

def TextFault.message : TextFault → String
  | .emptyEquation => "empty equation"
  | .invalidNumber literal => "invalid number " ++ literal
  | .unexpectedCharacter c => "unexpected character '" ++ String.singleton c ++ "'"
  | .unexpectedToken t => "unexpected " ++ t.display
  | .unexpectedEnd => "unexpected end of equation"
  | .expected wanted (some t) =>
    "expected " ++ wanted.display ++ ", found Some(" ++ t.display ++ ")"
  | .expected wanted none => "expected " ++ wanted.display ++ ", found None"

inductive EquationError
  | arity (f : Function) (actual : Nat)
  | argumentType (f : Function) (position : Nat) (expected actual : ValueType)
  | unknownVariable (name : String)
  | unknownFunction (name : String)
  /-- The offset counts bytes. -/
  | malformed (offset : Nat) (fault : TextFault)
  | tooDeep (limit : Nat)
  deriving DecidableEq, Repr

def EquationError.message : EquationError → String
  | .arity f actual =>
    "function " ++ f.name ++ " expects " ++ toString f.arity ++ " arguments, got " ++
      toString actual
  | .argumentType f position expected actual =>
    "function " ++ f.name ++ " expects " ++ expected.name ++ " argument at position " ++
      toString position ++ ", got " ++ actual.name
  | .unknownVariable name => "unknown variable: " ++ name
  | .unknownFunction name => "unknown function: " ++ name
  | .malformed offset fault =>
    "syntax error at offset " ++ toString offset ++ ": " ++ fault.message
  | .tooDeep limit => "equation nests deeper than " ++ toString limit ++ " levels"

end Telemetry
