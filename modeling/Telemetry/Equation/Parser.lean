import Telemetry.Equation.Lexer
import Telemetry.Equation.Node

/-!
# From tokens to trees

Binary operators associate to the left and form levels, from `||`, which binds least, to `*` and
`/`. Then come the signs `-` and `!`, and then `^`, whose exponent may have a sign. A minus before
a number belongs to the number.

Every sign, parenthesis, argument and exponent opens one level of nesting. A parser is given the
levels that it may still open, and what it leaves of the tokens is shorter than what it was given;
so parsing ends.
-/

namespace Telemetry.Equation

/-- The tokens that are left of `ts` after at least one of them. -/
abbrev Rest (ts : List Lexeme) := { rest : List Lexeme // rest.length < ts.length }

/-- A parser of trees. -/
abbrev Parse := (ts : List Lexeme) → Except EquationError (Node × Rest ts)

/-- What all parsers of one text share: its declared variables and its length in bytes. -/
structure Context where
  typeOf : String → Option ValueType
  length : Nat

/-- The place of the next token, or the end of the text. -/
def Context.offset (c : Context) : List Lexeme → Nat
  | t :: _ => t.start
  | [] => c.length

/-! ## Binary operators -/

/-- The operators of one level, with their functions. -/
abbrev Level := Operator → Option Function

/-- From the level that binds least to the one that binds most. -/
def levels : List Level :=
  [ fun | .or => some .or | _ => none,
    fun | .and => some .and | _ => none,
    fun | .eq => some .eq | .ne => some .ne | _ => none,
    fun | .gt => some .gt | .ge => some .ge | .lt => some .lt | .le => some .le | _ => none,
    fun | .plus => some .add | .minus => some .sub | _ => none,
    fun | .times => some .mul | .over => some .div | _ => none ]

/-- The function of the operator at the head, if it belongs to the level. -/
def Level.next? (level : Level) : List Lexeme → Option Function
  | ⟨_, _, .operator op⟩ :: _ => level op
  | _ => none

/-- Operators and operands that follow a left operand. -/
def chain (level : Level) (operand : Parse) (left : Node) (ts : List Lexeme) :
    Except EquationError (Node × { rest : List Lexeme // rest.length ≤ ts.length }) :=
  match ts with
  | [] => .ok (left, ⟨[], Nat.le_refl _⟩)
  | t :: tail =>
    match level.next? (t :: tail) with
    | none => .ok (left, ⟨t :: tail, Nat.le_refl _⟩)
    | some f => do
      let (right, ⟨rest, h⟩) ← operand tail
      let node ← Node.call? f [left, right]
      let (node, ⟨rest', h'⟩) ← chain level operand node rest
      return (node, ⟨rest', by simp only [List.length_cons]; omega⟩)
termination_by ts.length

/-- A tree of the given levels, over operands that bind more than all of them. -/
def binary (operand : Parse) : List Level → Parse
  | [] => operand
  | level :: tighter => fun ts => do
    let (left, ⟨rest, h⟩) ← binary operand tighter ts
    let (node, ⟨rest', h'⟩) ← chain level (binary operand tighter) left rest
    return (node, ⟨rest', by omega⟩)

/-! ## Operands -/

/-- Consumes the token that must come next. -/
def expect (c : Context) (wanted : Token) (ts : List Lexeme) :
    Except EquationError (Rest ts) :=
  match ts with
  | [] => .error (.malformed c.length (.expected wanted none))
  | t :: tail =>
    if t.token = wanted then .ok ⟨tail, by simp⟩
    else .error (.malformed t.start (.expected wanted (some t.token)))

/-- Expressions with commas between them, at least one. -/
def arguments (expression : Parse) (ts : List Lexeme) :
    Except EquationError (List Node × Rest ts) := do
  let (first, ⟨rest, h⟩) ← expression ts
  match rest, h with
  | ⟨_, _, .comma⟩ :: tail, h =>
    have : tail.length < ts.length := by simp only [List.length_cons] at h; omega
    let (more, ⟨rest', h'⟩) ← arguments expression tail
    return (first :: more, ⟨rest', by omega⟩)
  | rest, h => return ([first], ⟨rest, h⟩)
termination_by ts.length

/-- What follows the opening parenthesis of a call. -/
def call (c : Context) (expression : Parse) (name : String) (ts : List Lexeme) :
    Except EquationError (Node × Rest ts) :=
  match Function.ofName? name with
  | none => .error (.unknownFunction name)
  | some f =>
    match ts with
    | ⟨_, _, .closeParen⟩ :: tail => do
      return (← Node.call? f [], ⟨tail, by simp⟩)
    | ts => do
      let (args, ⟨rest, h⟩) ← arguments expression ts
      let ⟨rest', h'⟩ ← expect c .closeParen rest
      return (← Node.call? f args, ⟨rest', by omega⟩)

/-- A name that is not called: a truth value or a declared variable. -/
def named (c : Context) (name : String) : Except EquationError Node :=
  if name = "true" then .ok (.constant (.boolean true))
  else if name = "false" then .ok (.constant (.boolean false))
  else match c.typeOf name with
    | some type => .ok (.variable name type)
    | none => .error (.unknownVariable name)

def primary (c : Context) (expression : Parse) : Parse
  | [] => .error (.malformed c.length .unexpectedEnd)
  | t :: tail =>
    match t.token with
    | .number x => .ok (.constant (.numeric x), ⟨tail, by simp⟩)
    | .openParen => do
      let (node, ⟨rest, h⟩) ← expression tail
      let ⟨rest', h'⟩ ← expect c .closeParen rest
      return (node, ⟨rest', by simp only [List.length_cons]; omega⟩)
    | .identifier name =>
      match tail with
      | ⟨_, _, .openParen⟩ :: tail => do
        let (node, ⟨rest, h⟩) ← call c expression name tail
        return (node, ⟨rest, by simp only [List.length_cons]; omega⟩)
      | tail => do return (← named c name, ⟨tail, by simp⟩)
    | other => .error (.malformed t.start (.unexpectedToken other))

/-- A primary, and its exponent if it has one. -/
def power (c : Context) (expression signed : Parse) : Parse := fun ts => do
  let (base, ⟨rest, h⟩) ← primary c expression ts
  match rest, h with
  | ⟨_, _, .operator .power⟩ :: tail, h =>
    let (exponent, ⟨rest', h'⟩) ← signed tail
    return (← Node.call? .pow [base, exponent],
      ⟨rest', by simp only [List.length_cons] at h; omega⟩)
  | rest, h => return (base, ⟨rest, h⟩)

/-- A minus before a number belongs to the number. -/
def negate : Node → Except EquationError Node
  | .constant (.numeric x) => .ok (.constant (.numeric (-x)))
  | operand => Node.call? .neg [operand]

/-- An operand with its signs, within `nesting` levels. -/
def signed (c : Context) : (nesting : Nat) → Parse
  | 0 => fun _ => .error (.tooDeep Node.maxDepth)
  | nesting + 1 => fun ts =>
    match ts with
    | ⟨_, _, .operator .minus⟩ :: tail => do
      let (operand, ⟨rest, h⟩) ← signed c nesting tail
      return (← negate operand, ⟨rest, by simp only [List.length_cons]; omega⟩)
    | ⟨_, _, .operator .bang⟩ :: tail => do
      let (operand, ⟨rest, h⟩) ← signed c nesting tail
      return (← Node.call? .not [operand], ⟨rest, by simp only [List.length_cons]; omega⟩)
    | ts => power c (binary (signed c nesting) levels) (signed c nesting) ts

/-- An expression at the outermost level of the text. -/
def expression (c : Context) : Parse := binary (signed c Node.maxDepth) levels

end Telemetry.Equation

namespace Telemetry

/-- The tree that a text spells, over declared variables. -/
def Node.parse (text : String) (typeOf : String → Option ValueType) :
    Except EquationError Node := do
  let tokens ← Equation.tokenize text
  if tokens.isEmpty then .error (.malformed 0 .emptyEquation)
  let (node, ⟨rest, _⟩) ← Equation.expression ⟨typeOf, text.utf8ByteSize⟩ tokens
  match rest with
  | t :: _ => .error (.malformed t.start (.unexpectedToken t.token))
  | [] => .ok node

end Telemetry
