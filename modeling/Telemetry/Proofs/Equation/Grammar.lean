import Telemetry.Equation.Parser

/-!
# The grammar of equations

Which trees the tokens of an equation spell, as rules that know of no parser: no cursor, no
order in which alternatives are tried, no error. The phrases are six levels of binary operators,
operands with their signs, powers and primaries.

Every rule carries the signed operands that may still be nested in one another, so a derivation
shows by itself that it stays within a bound.
-/

namespace Telemetry

/-- The level of a binary operator, from `0` that binds least, and the function it stands for. -/
def Operator.binary? : Operator → Option (Nat × Function)
  | .or => some (0, .or)
  | .and => some (1, .and)
  | .eq => some (2, .eq)
  | .ne => some (2, .ne)
  | .gt => some (3, .gt)
  | .ge => some (3, .ge)
  | .lt => some (3, .lt)
  | .le => some (3, .le)
  | .plus => some (4, .add)
  | .minus => some (4, .sub)
  | .times => some (5, .mul)
  | .over => some (5, .div)
  | .power | .bang => none

namespace Equation

/-- The level that no binary operator has: its phrases are operands. -/
def operandLevel : Nat := 6

theorem binary?_lt {op : Operator} {i : Nat} {f : Function} (h : op.binary? = some (i, f)) :
    i < operandLevel := by
  rw [operandLevel]
  cases op <;> simp [Operator.binary?] at h <;> omega

inductive Phrase
  | level (i : Nat)
  | signed
  | power
  | primary

/-- **The tree of a phrase.** `Spells typeOf n p ts t`: the tokens `ts` are a phrase `p` with the
tree `t`, and nest at most `n` signed operands in one another. Every application passes
`Node.call?`. -/
inductive Spells (typeOf : String → Option ValueType) :
    Nat → Phrase → List Token → Node → Prop
  | operand {n : Nat} {ts : List Token} {t : Node}
      (whole : Spells typeOf n .signed ts t) :
      Spells typeOf n (.level operandLevel) ts t
  | tighter {n i : Nat} {ts : List Token} {t : Node} (hi : i < operandLevel)
      (whole : Spells typeOf n (.level (i + 1)) ts t) :
      Spells typeOf n (.level i) ts t
  -- A left operand may hold further operators of its level, a right one may not.
  | operation {n i : Nat} {op : Operator} {f : Function} {ls rs : List Token} {l r t : Node}
      (hop : op.binary? = some (i, f))
      (left : Spells typeOf n (.level i) ls l)
      (right : Spells typeOf n (.level (i + 1)) rs r)
      (ht : Node.call? f [l, r] = .ok t) :
      Spells typeOf n (.level i) (ls ++ .operator op :: rs) t
  | folded {n : Nat} {ts : List Token} {x : Float}
      (operand : Spells typeOf n .signed ts (.constant (.numeric x))) :
      Spells typeOf (n + 1) .signed (.operator .minus :: ts) (.constant (.numeric (-x)))
  | minus {n : Nat} {ts : List Token} {t t' : Node}
      (operand : Spells typeOf n .signed ts t) (hx : ∀ x, t ≠ .constant (.numeric x))
      (ht : Node.call? .neg [t] = .ok t') :
      Spells typeOf (n + 1) .signed (.operator .minus :: ts) t'
  | bang {n : Nat} {ts : List Token} {t t' : Node}
      (operand : Spells typeOf n .signed ts t) (ht : Node.call? .not [t] = .ok t') :
      Spells typeOf (n + 1) .signed (.operator .bang :: ts) t'
  | unsigned {n : Nat} {ts : List Token} {t : Node}
      (whole : Spells typeOf n .power ts t) :
      Spells typeOf (n + 1) .signed ts t
  | bare {n : Nat} {ts : List Token} {t : Node}
      (whole : Spells typeOf n .primary ts t) :
      Spells typeOf n .power ts t
  | raised {n : Nat} {bs es : List Token} {b e t : Node}
      (base : Spells typeOf n .primary bs b) (exponent : Spells typeOf n .signed es e)
      (ht : Node.call? .pow [b, e] = .ok t) :
      Spells typeOf n .power (bs ++ .operator .power :: es) t
  | number {n : Nat} (x : Float) :
      Spells typeOf n .primary [.number x] (.constant (.numeric x))
  | yes {n : Nat} :
      Spells typeOf n .primary [.identifier "true"] (.constant (.boolean true))
  | no {n : Nat} :
      Spells typeOf n .primary [.identifier "false"] (.constant (.boolean false))
  | variable {n : Nat} {name : String} {type : ValueType}
      (hyes : name ≠ "true") (hno : name ≠ "false") (htype : typeOf name = some type) :
      Spells typeOf n .primary [.identifier name] (.variable name type)
  | parentheses {n : Nat} {ts : List Token} {t : Node}
      (inner : Spells typeOf n (.level 0) ts t) :
      Spells typeOf n .primary (.openParen :: (ts ++ [.closeParen])) t
  | call {n : Nat} {name : String} {f : Function} {parts : List (List Token × Node)} {t : Node}
      (hf : Function.ofName? name = some f)
      (arguments : ∀ part ∈ parts, Spells typeOf n (.level 0) part.1 part.2)
      (ht : Node.call? f (parts.map Prod.snd) = .ok t) :
      Spells typeOf n .primary
        (.identifier name :: .openParen ::
          ([Token.comma].intercalate (parts.map Prod.fst) ++ [.closeParen])) t

variable {typeOf : String → Option ValueType} {n m : Nat} {p : Phrase} {ts : List Token} {t : Node}

theorem Spells.add (h : Spells typeOf n p ts t) (k : Nat) : Spells typeOf (n + k) p ts t := by
  induction h with
  | operand _ ih => exact .operand ih
  | tighter hi _ ih => exact .tighter hi ih
  | operation hop _ _ ht ihl ihr => exact .operation hop ihl ihr ht
  -- a signed operand takes one level of `n + 1 + k`, which leaves `n + k` inside it
  | folded _ ih =>
      rw [Nat.add_right_comm]
      exact .folded ih
  | minus _ hx ht ih =>
      rw [Nat.add_right_comm]
      exact .minus ih hx ht
  | bang _ ht ih =>
      rw [Nat.add_right_comm]
      exact .bang ih ht
  | unsigned _ ih =>
      rw [Nat.add_right_comm]
      exact .unsigned ih
  | bare _ ih => exact .bare ih
  | raised _ _ ht ihb ihe => exact .raised ihb ihe ht
  | number x => exact .number x
  | yes => exact .yes
  | no => exact .no
  | «variable» hyes hno htype => exact .variable hyes hno htype
  | parentheses _ ih => exact .parentheses ih
  | call hf _ ht ih => exact .call hf ih ht

/-- A larger bound on the nesting allows every phrase of a smaller one. -/
theorem Spells.mono (h : Spells typeOf n p ts t) (hnm : n ≤ m) : Spells typeOf m p ts t := by
  obtain ⟨k, rfl⟩ := Nat.exists_eq_add_of_le hnm
  exact h.add k

/-! ## Where phrases begin and end -/

def Phrase.opens : Phrase → Token → Bool
  | _, .number _ | _, .identifier _ | _, .openParen => true
  | .level _, .operator op | .signed, .operator op => op = .minus || op = .bang
  | _, _ => false

theorem Spells.opens (h : Spells typeOf n p ts t) :
    ∃ first tail, ts = first :: tail ∧ p.opens first = true := by
  induction h with
  | operand _ ih | tighter _ _ ih | unsigned _ ih | bare _ ih =>
      obtain ⟨first, tail, rfl, hfirst⟩ := ih
      refine ⟨first, tail, rfl, ?_⟩
      cases first <;> simp_all [Phrase.opens]
  | operation _ _ _ _ ihl _ =>
      obtain ⟨first, tail, rfl, hfirst⟩ := ihl
      exact ⟨first, _, rfl, hfirst⟩
  | raised _ _ _ ihb _ =>
      obtain ⟨first, tail, rfl, hfirst⟩ := ihb
      refine ⟨first, _, rfl, ?_⟩
      cases first <;> simp_all [Phrase.opens]
  | folded | minus | bang | number | yes | no | «variable» | parentheses | call =>
      exact ⟨_, _, rfl, rfl⟩

theorem Spells.opens_head {ls : List Lexeme} (h : Spells typeOf n p (ls.map Lexeme.token) t)
    (rest : List Lexeme) : ∀ next ∈ (ls ++ rest).head?, p.opens next.token = true := by
  obtain ⟨first, tail, hls, hfirst⟩ := h.opens
  obtain ⟨tok, ls, rfl, rfl, -⟩ := List.map_eq_cons_iff.mp hls
  intro next hnext
  cases hnext
  exact hfirst

/-- The tokens that, after a phrase, would be taken as part of it. -/
def Phrase.continues (p : Phrase) : Token → Bool
  | .openParen => true
  | .operator op =>
      match p with
      | .level i => op = .power || op.binary?.any fun (j, _) => i ≤ j
      | .signed | .power => op = .power
      | .primary => false
  | _ => false

theorem Phrase.continues_level {i j : Nat} {op : Operator} {f : Function}
    (hop : op.binary? = some (j, f)) :
    (Phrase.level i).continues (.operator op) = decide (i ≤ j) := by
  have hpower : op ≠ .power := by
    rintro rfl
    cases hop
  simp [continues, hop, hpower]

def Phrase.EndsAt (p : Phrase) (rest : List Lexeme) : Prop :=
  ∀ next ∈ rest.head?, p.continues next.token = false

theorem Phrase.endsAt_nil (p : Phrase) : p.EndsAt [] := by
  intro next hnext
  cases hnext

theorem Phrase.endsAt_cons {tok : Lexeme} {tail : List Lexeme} :
    p.EndsAt (tok :: tail) ↔ p.continues tok.token = false := by
  simp [EndsAt]

/-- A token that would go on with a primary would go on with any phrase. -/
theorem Phrase.EndsAt.primary {rest : List Lexeme} (h : p.EndsAt rest) :
    Phrase.primary.EndsAt rest := by
  intro next hnext
  have hends := h next hnext
  cases htok : next.token with
  | openParen => simp [continues, htok] at hends
  | _ => rfl

theorem Phrase.EndsAt.signed {i : Nat} {rest : List Lexeme} (h : (level i).EndsAt rest) :
    Phrase.signed.EndsAt rest := by
  intro next hnext
  have hends := h next hnext
  cases htok : next.token with
  | operator op =>
      rw [htok] at hends
      simp only [continues, Bool.or_eq_false_iff] at hends ⊢
      exact hends.1
  | openParen => simp [continues, htok] at hends
  | _ => rfl

/-- A level is over wherever a level that binds less is. -/
theorem Phrase.EndsAt.tighter {i : Nat} {rest : List Lexeme} (h : (level i).EndsAt rest) :
    (level (i + 1)).EndsAt rest := by
  intro next hnext
  have hends := h next hnext
  cases htok : next.token with
  | operator op =>
      rw [htok] at hends
      simp only [continues, Bool.or_eq_false_iff] at hends ⊢
      refine ⟨hends.1, ?_⟩
      cases hop : op.binary? with
      | none => rfl
      | some b =>
          have hb : ¬ i ≤ b.1 := by simpa [hop] using hends.2
          simp only [Option.any_some, decide_eq_false_iff_not]
          omega
  | openParen => simp [continues, htok] at hends
  | _ => rfl

end Equation

end Telemetry
