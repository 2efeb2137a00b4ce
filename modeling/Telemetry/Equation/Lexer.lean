import Telemetry.Decimal.Reading
import Telemetry.Equation.Error

/-!
# From text to tokens

A token is a number, a name, an operator or a mark; blanks between tokens are the ASCII ones.
Each token keeps the bytes that it stands for.
-/

namespace Telemetry.Equation

def isGap (c : Char) : Bool :=
  c = ' ' || c = '\t' || c = '\n' || c = '\x0c' || c = '\r'

def isNameStart (c : Char) : Bool := c.isAlpha || c = '_'

def isNameChar (c : Char) : Bool := c.isAlphanum || c = '_'

def isNumberChar (c : Char) : Bool := c.isDigit || c = '.'

/-- The length of an exponent at the head of a text: its mark, a sign and digits. Without a
digit there is no exponent. -/
def exponentLength : List Char → Nat
  | e :: rest =>
    let sign := match rest with
      | '+' :: _ | '-' :: _ => 1
      | _ => 0
    let digits := ((rest.drop sign).takeWhile Char.isDigit).length
    if (e = 'e' ∨ e = 'E') ∧ digits ≠ 0 then 1 + sign + digits else 0
  | [] => 0

/-- The length of the literal at the head of a text: digits and points, and an exponent. -/
def literalLength (cs : List Char) : Nat :=
  (cs.takeWhile isNumberChar).length + exponentLength (cs.dropWhile isNumberChar)

/-- The first byte of a character, as a character. -/
def leadByte (c : Char) : Char :=
  Char.ofNat ((String.utf8EncodeChar c).headD 0).toNat

def operator? (cs : List Char) : Option Operator :=
  Operator.all.find? fun op => op.spelling.toList.isPrefixOf cs

/-- The token that begins with `c`, and how many characters of the rest belong to it. -/
def scan (c : Char) (rest : List Char) : Except TextFault (Token × Nat) :=
  if c.isDigit ∨ (c = '.' ∧ rest.head?.any Char.isDigit) then
    let length := literalLength (c :: rest) - 1
    let literal := String.ofList (c :: rest.take length)
    match Decimal.read? literal with
    | some x => .ok (.number x, length)
    | none => .error (.invalidNumber literal)
  else if isNameStart c then
    let tail := rest.takeWhile isNameChar
    .ok (.identifier (String.ofList (c :: tail)), tail.length)
  else if c = '(' then .ok (.openParen, 0)
  else if c = ')' then .ok (.closeParen, 0)
  else if c = ',' then .ok (.comma, 0)
  else match operator? (c :: rest) with
    | some op => .ok (.operator op, op.spelling.length - 1)
    | none => .error (.unexpectedCharacter (leadByte c))

/-- The bytes of a text. -/
def width : List Char → Nat
  | [] => 0
  | c :: cs => c.utf8Size + width cs

/-- The tokens of a text whose first byte is at `offset`. -/
def lexemes (offset : Nat) : List Char → Except EquationError (List Lexeme)
  | [] => .ok []
  | c :: rest =>
    if isGap c then lexemes (offset + c.utf8Size) rest
    else match scan c rest with
      | .error fault => .error (.malformed offset fault)
      | .ok (token, length) =>
        let stop := offset + width (c :: rest.take length)
        (lexemes stop (rest.drop length)).map (⟨offset, stop, token⟩ :: ·)
termination_by cs => cs.length

def tokenize (text : String) : Except EquationError (List Lexeme) := lexemes 0 text.toList

end Telemetry.Equation
