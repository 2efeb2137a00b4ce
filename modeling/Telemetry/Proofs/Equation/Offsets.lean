import Telemetry.Proofs.Equation.Parsers

/-!
# Offsets of syntax errors

A syntax error is reported where its token begins, or at the end of the text if a token is missing.
So if all tokens begin at places of some kind, and the text ends at one, then errors are reported at
such places only (`parsesPlaced_expression`).
-/

namespace Telemetry.Equation

variable {α β : Type} {good : Nat → Prop} {P Q : List Lexeme → Prop}

/-! ## Steps -/

def Placed (good : Nat → Prop) (ts : List Lexeme) : Prop := ∀ t ∈ ts, good t.start

theorem Placed.tail {t : Lexeme} {tail : List Lexeme} (h : Placed good (t :: tail)) :
    Placed good tail :=
  fun t ht => h t (List.mem_cons_of_mem _ ht)

/-- Syntax errors are reported at good places, and so are those that may follow. -/
def WellPlaced (good : Nat → Prop)
    (result : Except EquationError (α × { rest : List Lexeme // P rest })) : Prop :=
  match result with
  | .ok (_, rest) => Placed good rest.1
  | .error e => ∀ offset fault, e = .malformed offset fault → good offset

theorem WellPlaced.malformed {offset : Nat} {fault : TextFault} (h : good offset) :
    WellPlaced (α := α) (P := P) good (.error (.malformed offset fault)) := by
  rintro _ _ ⟨⟩
  exact h

theorem WellPlaced.bind {result : Except EquationError (α × { rest : List Lexeme // P rest })}
    {more : α × { rest : List Lexeme // P rest } →
      Except EquationError (β × { rest : List Lexeme // Q rest })}
    (h : WellPlaced good result)
    (hmore : ∀ a rest, Placed good rest.1 → WellPlaced good (more (a, rest))) :
    WellPlaced good (result >>= more) := by
  cases result with
  | error e => exact h
  | ok pair => exact hmore pair.1 pair.2 h

/-- A step that finds no fault in the text itself. -/
theorem WellPlaced.step {step : Except EquationError α}
    {more : α → Except EquationError (β × { rest : List Lexeme // Q rest })}
    (h : ∀ offset fault, step ≠ .error (.malformed offset fault))
    (hmore : ∀ a, WellPlaced good (more a)) : WellPlaced good (step >>= more) := by
  cases step with
  | error e =>
      rintro offset fault rfl
      exact absurd rfl (h offset fault)
  | ok a => exact hmore a

variable {offset : Nat} {fault : TextFault}

theorem named_ne_malformed {c : Context} {name : String} :
    named c name ≠ .error (.malformed offset fault) := by
  unfold named
  split
  · simp
  · split
    · simp
    · split <;> simp

variable {c : Context} {ts : List Lexeme} {wanted : Token}

theorem WellPlaced.expect
    {more : Rest ts → Except EquationError (β × { rest : List Lexeme // Q rest })}
    (hend : good c.length) (hts : Placed good ts)
    (hmore : ∀ rest, Placed good rest.1 → WellPlaced good (more rest)) :
    WellPlaced good (Equation.expect c wanted ts >>= more) := by
  cases ts with
  | nil => exact .malformed hend
  | cons t tail =>
      rw [Equation.expect]
      split
      · exact hmore _ hts.tail
      · exact .malformed (hts t List.mem_cons_self)

/-! ## Parsers -/

def ParsesPlaced (good : Nat → Prop) (parser : Parse) : Prop :=
  ∀ ts, Placed good ts → WellPlaced good (parser ts)

variable {operand expression signed : Parse}

theorem wellPlaced_chain (h : ParsesPlaced good operand) (level : Level) (left : Node)
    (ts : List Lexeme) : Placed good ts → WellPlaced good (chain level operand left ts) := by
  cases ts with
  | nil =>
      intro hts
      rw [chain]
      exact hts
  | cons t tail =>
      intro hts
      rw [chain]
      cases level.next? (t :: tail) with
      | none => exact hts
      | some f =>
          refine (h tail hts.tail).bind ?_
          rintro right ⟨rest, hrest⟩ hplaced
          refine .step (fun _ _ => isOfCall_of_call?) fun node => ?_
          exact (wellPlaced_chain h level node rest hplaced).bind fun _ _ hplaced => hplaced
termination_by ts.length
decreasing_by exact Nat.lt_succ_of_lt hrest

theorem parsesPlaced_binary (h : ParsesPlaced good operand) (levels : List Level) :
    ParsesPlaced good (binary operand levels) := by
  induction levels with
  | nil => exact h
  | cons level tighter ih =>
      intro ts hts
      refine (ih ts hts).bind fun left rest hrest => ?_
      exact (wellPlaced_chain ih level left rest.1 hrest).bind fun _ _ hplaced => hplaced

theorem wellPlaced_arguments (h : ParsesPlaced good expression) (ts : List Lexeme)
    (hts : Placed good ts) : WellPlaced good (Equation.arguments expression ts) := by
  rw [Equation.arguments]
  refine (h ts hts).bind ?_
  rintro first ⟨rest, hrest⟩ hplaced
  dsimp only
  split
  · rename_i tail hlt
    have hshorter : tail.length < ts.length := Nat.lt_trans (Nat.lt_succ_self _) hlt
    exact (wellPlaced_arguments h tail hplaced.tail).bind fun _ _ hplaced => hplaced
  · exact hplaced
termination_by ts.length
decreasing_by exact hshorter

theorem wellPlaced_call (hend : good c.length) (h : ParsesPlaced good expression) (name : String)
    (ts : List Lexeme) (hts : Placed good ts) :
    WellPlaced good (call c expression name ts) := by
  unfold call
  cases Function.ofName? name with
  | none => rintro _ _ ⟨⟩
  | some f =>
      dsimp only
      split
      · exact .step (fun _ _ => isOfCall_of_call?) fun _ => hts.tail
      · refine (wellPlaced_arguments h _ hts).bind fun args rest hrest => ?_
        refine .expect hend hrest fun rest hrest => ?_
        exact .step (fun _ _ => isOfCall_of_call?) fun _ => hrest

theorem parsesPlaced_primary (hend : good c.length) (h : ParsesPlaced good expression) :
    ParsesPlaced good (primary c expression) := by
  intro ts hts
  cases ts with
  | nil => exact .malformed hend
  | cons t tail =>
      unfold primary
      dsimp only
      split
      · exact hts.tail
      · refine (h tail hts.tail).bind fun inner rest hrest => ?_
        exact .expect hend hrest fun rest hrest => hrest
      · split
        · exact (wellPlaced_call hend h _ _ hts.tail.tail).bind fun _ _ hplaced => hplaced
        · exact .step (fun _ _ => named_ne_malformed) fun _ => hts.tail
      · exact .malformed (hts t List.mem_cons_self)

theorem parsesPlaced_power (hend : good c.length) (h : ParsesPlaced good expression)
    (hsigned : ParsesPlaced good signed) : ParsesPlaced good (power c expression signed) := by
  intro ts hts
  refine (parsesPlaced_primary hend h ts hts).bind ?_
  rintro base ⟨rest, hrest⟩ hplaced
  dsimp only
  split
  · refine (hsigned _ hplaced.tail).bind fun exponent rest hrest => ?_
    exact .step (fun _ _ => isOfCall_of_call?) fun _ => hrest
  · exact hplaced

theorem parsesPlaced_signed (hend : good c.length) (nesting : Nat) :
    ParsesPlaced good (Equation.signed c nesting) := by
  induction nesting with
  | zero =>
      rintro ts hts _ _ ⟨⟩
  | succ nesting ih =>
      intro ts hts
      unfold Equation.signed
      split
      · refine (ih _ hts.tail).bind fun operand rest hrest => ?_
        exact .step (fun _ _ => isOfCall_of_negate) fun _ => hrest
      · refine (ih _ hts.tail).bind fun operand rest hrest => ?_
        exact .step (fun _ _ => isOfCall_of_call?) fun _ => hrest
      · exact parsesPlaced_power hend (parsesPlaced_binary ih levels) ih _ hts

theorem parsesPlaced_expression (hend : good c.length) :
    ParsesPlaced good (Equation.expression c) :=
  parsesPlaced_binary (parsesPlaced_signed hend _) levels

end Telemetry.Equation
