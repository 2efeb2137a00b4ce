import Telemetry.Proofs.Decimal.Rounding
import Telemetry.Proofs.Equation.Parsing
import Telemetry.Proofs.Equation.Typing
import Telemetry.Proofs.Equation.Words

/-!
# Finite results of equations

Over finite inputs a variable is finite, and so is what a function computes: `Function.finite` has
made a failure of anything else. What is left are the numbers of the text, which no function has
seen if the text is nothing but a number. A literal may be too large for a double, so such a text
evaluates to an infinity, and no other does (`Node.evaluate_infinite_iff`). NaN has no literal.
-/

namespace Telemetry

/-! ## Functions -/

namespace Function

variable {f : Function} {vs : List Value} {x : Float}

theorem isFinite_of_finite {y : Float} (h : f.finite y = .numeric x) : x.isFinite = true := by
  unfold finite at h
  split at h
  · rename_i hfinite
    cases h
    exact hfinite
  · cases h

theorem isFinite_of_computeUnary {a : Float} (h : f.computeUnary a = .numeric x) :
    x.isFinite = true := by
  cases f with
  | neg | abs => exact isFinite_of_finite h
  | sqrt =>
      simp only [computeUnary] at h
      split at h
      · cases h
      · exact isFinite_of_finite h
  | _ => cases h

theorem isFinite_of_computeBinary {a b : Float} (h : f.computeBinary a b = .numeric x) :
    x.isFinite = true := by
  cases f with
  | add | sub | mul | pow | min | max => exact isFinite_of_finite h
  | div =>
      simp only [computeBinary] at h
      split at h
      · cases h
      · exact isFinite_of_finite h
  | _ => cases h

theorem isFinite_of_computeTyped (h : f.computeTyped vs = .numeric x) : x.isFinite = true := by
  unfold computeTyped at h
  split at h
  · exact isFinite_of_computeUnary h
  · cases h
  · exact isFinite_of_computeBinary h
  · cases f <;> cases h
  · cases h
  · cases h

/-- A function hands on no number, and it computes none that is not finite. -/
theorem isFinite_of_compute (h : f.compute vs = .numeric x) : x.isFinite = true := by
  unfold compute at h
  split at h
  · cases h
  split at h
  · rename_i v hv
    subst h
    cases List.find?_some hv
  split at h
  · cases h
  · exact isFinite_of_computeTyped h

end Function

namespace Equation

/-! ## Numbers of a text -/

theorem isNaN_of_scan {c : Char} {rest : List Char} {x : Float} {length : Nat}
    (h : scan c rest = .ok (.number x, length)) : x.isNaN = false := by
  unfold scan at h
  split at h
  · rename_i hc
    dsimp only at h
    split at h
    · rename_i hread
      cases h
      exact Decimal.isNaN_of_read? (hc.imp id And.left) hread
    · cases h
  -- what begins with anything else is no number
  repeat' split at h
  all_goals cases h

theorem isNaN_of_mem_lexemes {offset : Nat} {cs : List Char} {ls : List Lexeme} {l : Lexeme}
    {x : Float} (h : lexemes offset cs = .ok ls) (hl : l ∈ ls) (hx : l.token = .number x) :
    x.isNaN = false := by
  obtain ⟨c, rest, length, hscan⟩ := exists_scan_of_mem_lexemes h hl
  rw [hx] at hscan
  exact isNaN_of_scan hscan

/-! ## Texts that are a number -/

/-- The tokens are one number with signs and parentheses around it. -/
inductive Literal : List Token → Float → Prop
  | number (x : Float) : Literal [.number x] x
  | negated {ts : List Token} {x : Float} (h : Literal ts x) :
      Literal (.operator .minus :: ts) (-x)
  | enclosed {ts : List Token} {x : Float} (h : Literal ts x) :
      Literal (.openParen :: (ts ++ [.closeParen])) x

variable {typeOf : String → Option ValueType} {n : Nat} {p : Phrase} {ts : List Token} {t : Node}
  {x : Float}

theorem Spells.level {i : Nat} (hi : i ≤ operandLevel) (h : Spells typeOf n .signed ts t) :
    Spells typeOf n (.level i) ts t := by
  induction hi using Nat.decreasingInduction with
  | self => exact .operand h
  | of_succ i hi ih => exact .tighter hi ih

theorem Literal.spells (h : Literal ts x) (typeOf : String → Option ValueType) :
    ∃ n, Spells typeOf n .signed ts (.constant (.numeric x)) := by
  induction h with
  | number x => exact ⟨1, .unsigned (.bare (.number x))⟩
  | negated _ ih =>
      obtain ⟨n, ih⟩ := ih
      exact ⟨n + 1, .folded ih⟩
  | enclosed _ ih =>
      obtain ⟨n, ih⟩ := ih
      exact ⟨n + 1, .unsigned (.bare (.parentheses (ih.level (Nat.zero_le _))))⟩

/-- Only an application is built by `Node.call?`. -/
theorem call?_ne_constant {f : Function} {arguments : List Node} {v : Value} :
    Node.call? f arguments ≠ .ok (.constant v) := by
  intro h
  obtain ⟨-, d, hd⟩ := Node.accepts_of_call? h
  cases hd

theorem Spells.literal (h : Spells typeOf n p ts (.constant (.numeric x))) : Literal ts x := by
  generalize ht : Node.constant (.numeric x) = t at h
  induction h generalizing x with
  | operand _ ih | unsigned _ ih | bare _ ih => exact ih ht
  | tighter _ _ ih => exact ih ht
  | folded _ ih =>
      cases ht
      exact .negated (ih rfl)
  | number x =>
      cases ht
      exact .number x
  | parentheses _ ih => exact .enclosed (ih ht)
  | operation _ _ _ hcall | minus _ _ hcall | bang _ hcall | raised _ _ hcall | call _ _ hcall =>
      subst ht
      exact absurd hcall call?_ne_constant
  | yes | no | «variable» => cases ht

/-- A text with the tokens of a literal has the constant as its tree, and no other text has. -/
theorem Spells.constant_iff (h : Spells typeOf n (.level 0) ts t) :
    t = .constant (.numeric x) ↔ Literal ts x := by
  constructor
  · rintro rfl
    exact h.literal
  · intro hliteral
    obtain ⟨m, hspells⟩ := hliteral.spells typeOf
    exact h.unique (hspells.level (Nat.zero_le _))

theorem Literal.isNaN (h : Literal ts x) (hts : ∀ y, .number y ∈ ts → y.isNaN = false) :
    x.isNaN = false := by
  induction h with
  | number x => exact hts x List.mem_cons_self
  | negated _ ih =>
      rw [Decimal.isNaN_neg]
      exact ih fun y hy => hts y (List.mem_cons_of_mem _ hy)
  | enclosed _ ih =>
      exact ih fun y hy => hts y (List.mem_cons_of_mem _ (List.mem_append_left _ hy))

end Equation

/-! ## Results -/

namespace Node

open Equation

variable {text : String} {typeOf : String → Option ValueType} {t : Node} {source : Source}
  {x : Float}

theorem spells_of_parse (h : Node.parse text typeOf = .ok t) : ∃ ls, tokenize text = .ok ls ∧
    Spells typeOf maxDepth (.level 0) (ls.map Lexeme.token) t := by
  cases htokens : tokenize text with
  | error e =>
      rw [Node.parse, htokens] at h
      cases h
  | ok ls =>
      cases ls with
      | nil =>
          rw [Node.parse, htokens] at h
          cases h
      | cons tok tail =>
          exact ⟨_, rfl, gives_expression_iff.mp ((parse_eq_ok_of_tokens htokens).mp h)⟩

theorem parse_of_spells {ls : List Lexeme} (htokens : tokenize text = .ok ls)
    (h : Spells typeOf maxDepth (.level 0) (ls.map Lexeme.token) t) :
    Node.parse text typeOf = .ok t := by
  obtain ⟨first, tail, hfirst, -⟩ := h.opens
  obtain ⟨tok, ls, rfl, -, -⟩ := List.map_eq_cons_iff.mp hfirst
  exact (parse_eq_ok_of_tokens htokens).mpr (gives_expression_iff.mpr h)

/-- Over finite variables only a tree that is a constant can be other than finite. -/
theorem isFinite_or_constant (hsource : ∀ name x, source name = .numeric x → x.isFinite = true)
    (hx : evaluate source t = .numeric x) : x.isFinite = true ∨ t = .constant (.numeric x) := by
  cases t with
  | constant v =>
      rw [evaluate] at hx
      exact .inr (congrArg constant hx)
  | «variable» name type =>
      rw [evaluate, checked] at hx
      split at hx
      · exact .inl (hsource name x hx)
      · cases hx
  | call f arguments d =>
      rw [evaluate_call] at hx
      exact .inl (Function.isFinite_of_compute hx)

/-- **The only results that are not finite are infinite literals.** Over finite variables the value
of an accepted text is never NaN. It is infinite exactly if the text is a single number, with signs
and parentheses around it, that is too large for a double. -/
theorem evaluate_infinite_iff (ht : Node.parse text typeOf = .ok t)
    (hsource : ∀ name x, source name = .numeric x → x.isFinite = true)
    (hx : evaluate source t = .numeric x) :
    x.isNaN = false ∧
    (x.isFinite = false ↔
      ∃ ls, tokenize text = .ok ls ∧
        ∃ y, Literal (ls.map Lexeme.token) y ∧ y.isFinite = false) := by
  obtain ⟨ls, htokens, hspells⟩ := spells_of_parse ht
  have hvalue : x.isFinite = true ∨ Literal (ls.map Lexeme.token) x :=
    (isFinite_or_constant hsource hx).imp id hspells.constant_iff.mp
  refine ⟨?_, ?_, ?_⟩
  · rcases hvalue with hfinite | hliteral
    · exact Decimal.isNaN_of_isFinite hfinite
    · refine hliteral.isNaN fun y hy => ?_
      obtain ⟨l, hl, htoken⟩ := List.mem_map.mp hy
      exact isNaN_of_mem_lexemes htokens hl htoken
  · intro hinfinite
    exact ⟨ls, htokens, x, hvalue.resolve_left (by simp [hinfinite]), hinfinite⟩
  · rintro ⟨ls', htokens', y, hliteral, hy⟩
    obtain rfl : ls = ls' := Except.ok.inj (htokens.symm.trans htokens')
    -- the tree is that constant, whatever the variables hold
    rw [hspells.constant_iff.mpr hliteral, evaluate] at hx
    cases hx
    exact hy

/-- A number beyond all doubles is an infinity for the lexer, and no fault. -/
theorem tokenize_overflow : tokenize "1e400" = .ok [⟨0, 5, .number (1.0 / 0.0)⟩] := by
  have htext : "1e400".toList = '1' :: "e400".toList := rfl
  have hscan : scan '1' "e400".toList = .ok (.number (1.0 / 0.0), 4) := by decide +kernel
  rw [tokenize, htext, lexemes, if_neg (by decide), hscan]
  show (lexemes _ []).map _ = _
  rw [lexemes]
  rfl

theorem parse_overflow (typeOf : String → Option ValueType) :
    Node.parse "1e400" typeOf = .ok (.constant (.numeric (1.0 / 0.0))) := by
  have hlevel : Spells typeOf maxDepth (.level 0) [.number (1.0 / 0.0)]
      (.constant (.numeric (1.0 / 0.0))) :=
    .level (Nat.zero_le _) (.unsigned (.bare (.number _)))
  exact (parse_eq_ok_of_tokens tokenize_overflow).mpr (gives_expression_iff.mpr hlevel)

theorem evaluate_overflow : ∃ x t, Node.parse "1e400" (fun _ => none) = .ok t ∧
    evaluate (fun _ => .absent) t = .numeric x ∧ x.isNaN = false ∧
    (x.isFinite = false ↔ ∃ ls, tokenize "1e400" = .ok ls ∧
      ∃ y, Literal (ls.map Lexeme.token) y ∧ y.isFinite = false) := by
  have hsource : ∀ (name : String) x, (fun _ => Value.absent) name = Value.numeric x →
      x.isFinite = true := by
    intro name x h
    cases h
  have hx : evaluate (fun _ => .absent) (.constant (.numeric (1.0 / 0.0))) =
      .numeric (1.0 / 0.0) := by
    rw [evaluate]
  have hparse := parse_overflow fun _ => none
  exact ⟨_, _, hparse, hx, evaluate_infinite_iff hparse hsource hx⟩

/-- A literal is not checked to be finite, so results may be infinite over any variables. -/
theorem infinite_result : ¬ ∀ text typeOf t source, Node.parse text typeOf = .ok t →
    (∀ name x, source name = .numeric x → x.isFinite = true) →
    ∀ x, evaluate source t = .numeric x → x.isFinite = true := by
  intro h
  have hinfinite := h "1e400" (fun _ => none) _ (fun _ => .absent) (parse_overflow _)
    (fun name x hx => by cases hx) (1.0 / 0.0) (by rw [evaluate])
  exact absurd hinfinite (by decide +kernel)

end Node

end Telemetry
