import Mathlib.Logic.Function.Basic
import Telemetry.Proofs.Equation.Parsers

/-!
# Variables that equations ask for

A text is read from its beginning to the first error, and a variable is unknown if it is asked for
and not declared. So its declaration makes no difference to a text unless it is reported as unknown
(`Node.parse_eq_unknown_iff`).
-/

namespace Telemetry.Equation

variable {α β : Type} {name : String} {missing : Prop}

/-! ## Results with and without a declaration -/

/-- What comes of two readings, where the second has one more variable declared: the same, and no
word of that variable, or the first reports it as unknown because it is missing. -/
def AgreeUnless (name : String) (missing : Prop) (r r' : Except EquationError α) : Prop :=
  (r = r' ∧ r ≠ .error (.unknownVariable name)) ∨ (r = .error (.unknownVariable name) ∧ missing)

theorem AgreeUnless.of_ne {r : Except EquationError α} (h : r ≠ .error (.unknownVariable name)) :
    AgreeUnless name missing r r :=
  .inl ⟨rfl, h⟩

theorem AgreeUnless.ok (a : α) : AgreeUnless name missing (.ok a) (.ok a) :=
  .of_ne (by simp)

theorem AgreeUnless.error {e : EquationError} (h : e ≠ .unknownVariable name) :
    AgreeUnless name missing (.error e : Except EquationError α) (.error e) :=
  .of_ne (by simpa using h)

theorem AgreeUnless.bind {r r' : Except EquationError α} {f f' : α → Except EquationError β}
    (h : AgreeUnless name missing r r') (hf : ∀ a, AgreeUnless name missing (f a) (f' a)) :
    AgreeUnless name missing (r >>= f) (r' >>= f') := by
  rcases h with ⟨rfl, hne⟩ | ⟨rfl, hmissing⟩
  · cases r with
    | ok a => exact hf a
    | error e => exact .error fun h => hne (by rw [h])
  · exact .inr ⟨rfl, hmissing⟩

/-- A step that asks for no variable, and what follows it. -/
theorem AgreeUnless.step {r : Except EquationError α} {f f' : α → Except EquationError β}
    (hr : r ≠ .error (.unknownVariable name))
    (hf : ∀ a, AgreeUnless name missing (f a) (f' a)) :
    AgreeUnless name missing (r >>= f) (r >>= f') :=
  (AgreeUnless.of_ne hr).bind hf

/-! ## Steps that ask for no variable -/

theorem expect_ne_unknown (c : Context) (wanted : Token) (ts : List Lexeme) :
    expect c wanted ts ≠ .error (.unknownVariable name) := by
  unfold expect
  split
  · simp
  · split <;> simp

theorem lexemes_ne_unknown (offset : Nat) (cs : List Char) :
    lexemes offset cs ≠ .error (.unknownVariable name) := by
  fun_induction lexemes offset cs with
  | case1 => simp
  | case2 offset c rest hgap ih => exact ih
  | case3 => simp
  | case4 offset c rest hgap token length hscan stop ih =>
      cases htail : lexemes stop (rest.drop length) with
      | ok ls => simp [Except.map]
      | error e =>
          rw [htail] at ih
          simpa [Except.map] using ih

/-! ## Parsers -/

def Context.declare (c : Context) (name : String) (type : ValueType) : Context :=
  { c with typeOf := Function.update c.typeOf name (some type) }

def ParsersAgree (name : String) (missing : Prop) (P P' : Parse) : Prop :=
  ∀ ts, AgreeUnless name missing (P ts) (P' ts)

variable {c : Context} {type : ValueType}
  {operand operand' expression expression' signed signed' : Parse}

theorem agree_chain (h : ParsersAgree name missing operand operand') (level : Level) (left : Node)
    (ts : List Lexeme) :
    AgreeUnless name missing (chain level operand left ts) (chain level operand' left ts) := by
  cases ts with
  | nil =>
      rw [chain, chain]
      exact .ok _
  | cons t tail =>
      rw [chain, chain]
      cases level.next? (t :: tail) with
      | none => exact .ok _
      | some f =>
          refine (h tail).bind ?_
          rintro ⟨right, rest, hrest⟩
          refine .step isOfCall_of_call? fun node => ?_
          exact (agree_chain h level node rest).bind fun _ => .ok _
termination_by ts.length
decreasing_by exact Nat.lt_succ_of_lt hrest

theorem agree_binary (h : ParsersAgree name missing operand operand') (levels : List Level) :
    ParsersAgree name missing (binary operand levels) (binary operand' levels) := by
  induction levels with
  | nil => exact h
  | cons level tighter ih =>
      intro ts
      refine (ih ts).bind ?_
      rintro ⟨left, rest, hrest⟩
      exact (agree_chain ih level left rest).bind fun _ => .ok _

theorem agree_arguments (h : ParsersAgree name missing expression expression')
    (ts : List Lexeme) :
    AgreeUnless name missing (arguments expression ts) (arguments expression' ts) := by
  rw [arguments, arguments]
  refine (h ts).bind ?_
  rintro ⟨first, rest, hrest⟩
  dsimp only
  split
  · rename_i tail hlt
    have hshorter : tail.length < ts.length := Nat.lt_trans (Nat.lt_succ_self _) hlt
    exact (agree_arguments h tail).bind fun _ => .ok _
  · exact .ok _
termination_by ts.length
decreasing_by exact hshorter

/-- Marks are expected at the same places. -/
theorem expect_declare (c : Context) (name : String) (type : ValueType) :
    expect (c.declare name type) = expect c := rfl

theorem agree_call (h : ParsersAgree name missing expression expression') (called : String)
    (ts : List Lexeme) :
    AgreeUnless name missing (call c expression called ts)
      (call (c.declare name type) expression' called ts) := by
  unfold call
  rw [expect_declare]
  cases Function.ofName? called with
  | none => exact .error (by simp)
  | some f =>
      dsimp only
      split
      · exact .step isOfCall_of_call? fun _ => .ok _
      · refine (agree_arguments h _).bind fun _ => ?_
        refine .step (expect_ne_unknown _ _ _) fun _ => ?_
        exact .step isOfCall_of_call? fun _ => .ok _

/-- Here, and only here, a variable is asked for. -/
theorem agree_named (hc : c.typeOf name = none ∨ c.typeOf name = some type) (asked : String) :
    AgreeUnless name (c.typeOf name = none) (named c asked)
      (named (c.declare name type) asked) := by
  unfold named Context.declare
  split
  · exact .ok _
  split
  · exact .ok _
  dsimp only
  by_cases hasked : asked = name
  · subst hasked
    rw [Function.update_self]
    rcases hc with hnone | hsome
    · rw [hnone]
      exact .inr ⟨rfl, rfl⟩
    · rw [hsome]
      exact .ok _
  · rw [Function.update_of_ne hasked]
    cases c.typeOf asked with
    | none => exact .error (by simpa using hasked)
    | some declared => exact .ok _

theorem agree_primary (hc : c.typeOf name = none ∨ c.typeOf name = some type)
    (h : ParsersAgree name (c.typeOf name = none) expression expression') :
    ParsersAgree name (c.typeOf name = none) (primary c expression)
      (primary (c.declare name type) expression') := by
  intro ts
  cases ts with
  | nil => exact .error (by simp)
  | cons t tail =>
      unfold primary
      rw [expect_declare]
      dsimp only
      split
      · exact .ok _
      · refine (h tail).bind fun _ => ?_
        exact .step (expect_ne_unknown _ _ _) fun _ => .ok _
      · split
        · exact (agree_call h _ _).bind fun _ => .ok _
        · exact (agree_named hc _).bind fun _ => .ok _
      · exact .error (by simp)

theorem agree_power (hc : c.typeOf name = none ∨ c.typeOf name = some type)
    (h : ParsersAgree name (c.typeOf name = none) expression expression')
    (hsigned : ParsersAgree name (c.typeOf name = none) signed signed') :
    ParsersAgree name (c.typeOf name = none) (power c expression signed)
      (power (c.declare name type) expression' signed') := by
  intro ts
  refine (agree_primary hc h ts).bind ?_
  rintro ⟨base, rest, hrest⟩
  dsimp only
  split
  · refine (hsigned _).bind fun _ => ?_
    exact .step isOfCall_of_call? fun _ => .ok _
  · exact .ok _

theorem agree_signed (hc : c.typeOf name = none ∨ c.typeOf name = some type) (nesting : Nat) :
    ParsersAgree name (c.typeOf name = none) (Equation.signed c nesting)
      (Equation.signed (c.declare name type) nesting) := by
  induction nesting with
  | zero => exact fun _ => .error (by simp)
  | succ nesting ih =>
      intro ts
      unfold Equation.signed
      split
      · exact (ih _).bind fun _ => .step isOfCall_of_negate fun _ => .ok _
      · exact (ih _).bind fun _ => .step isOfCall_of_call? fun _ => .ok _
      · exact agree_power hc (agree_binary ih levels) ih _

theorem agree_expression (hc : c.typeOf name = none ∨ c.typeOf name = some type) :
    ParsersAgree name (c.typeOf name = none) (Equation.expression c)
      (Equation.expression (c.declare name type)) :=
  agree_binary (agree_signed hc _) levels

end Telemetry.Equation

namespace Telemetry.Node

open Equation

variable {text name : String} {typeOf : String → Option ValueType} {type : ValueType}

theorem agree_parse (text : String) (hc : typeOf name = none ∨ typeOf name = some type) :
    AgreeUnless name (typeOf name = none) (Node.parse text typeOf)
      (Node.parse text (Function.update typeOf name (some type))) := by
  have hexpression (tokens : List Lexeme) :=
    agree_expression (c := ⟨typeOf, text.utf8ByteSize⟩) hc tokens
  unfold Node.parse
  refine .step (lexemes_ne_unknown _ _) fun tokens => ?_
  cases tokens with
  | nil =>
      show AgreeUnless _ _ (.error (.malformed 0 .emptyEquation)) (.error _)
      exact .error (by simp)
  | cons t tail =>
      refine (hexpression (t :: tail)).bind ?_
      rintro ⟨node, rest, hrest⟩
      cases rest with
      | nil => exact .ok _
      | cons next more => exact .error (by simp)

/-- A text asks for a variable. Its tree or its error is another one if the variable is declared,
whatever its type. -/
def AsksFor (text : String) (typeOf : String → Option ValueType) (name : String) : Prop :=
  ∀ type, Node.parse text (Function.update typeOf name (some type)) ≠ Node.parse text typeOf

/-- A variable is reported as unknown if and only if it is not declared and the text asks for it. -/
theorem parse_eq_unknown_iff (text : String) (typeOf : String → Option ValueType)
    (name : String) :
    Node.parse text typeOf = .error (.unknownVariable name) ↔
      typeOf name = none ∧ AsksFor text typeOf name := by
  constructor
  · intro hunknown
    have hnone : typeOf name = none := by
      by_contra hsome
      obtain ⟨type, htype⟩ := Option.ne_none_iff_exists'.mp hsome
      rcases agree_parse text (.inr htype) with ⟨-, hne⟩ | ⟨-, hnone⟩
      · exact hne hunknown
      · exact hsome hnone
    refine ⟨hnone, fun type hsame => ?_⟩
    -- once it is declared, it is not reported
    have hdeclared : Function.update typeOf name (some type) name = some type :=
      Function.update_self ..
    rcases agree_parse text (.inr hdeclared) with ⟨-, hne⟩ | ⟨-, hnone'⟩
    · exact hne (hsame.trans hunknown)
    · rw [hdeclared] at hnone'
      cases hnone'
  · rintro ⟨hnone, hasks⟩
    have hany : typeOf name = none ∨ typeOf name = some .any := .inl hnone
    rcases agree_parse text hany with ⟨hsame, -⟩ | ⟨hunknown, -⟩
    · exact absurd hsame.symm (hasks .any)
    · exact hunknown

end Telemetry.Node
